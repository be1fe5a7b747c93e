import Mathlib.Data.List.Induction
import TTS.StartupThreads

/-!
# Connected and not

What becomes of a client when the engine goes: its thread looks for a new one,
or it has given up for good, or the news came while nobody was looking.
-/

namespace TTS

open Transition

/-- The connection is made here, or was before the thread ended. -/
@[simp] def StartupPc.past : StartupPc → Bool
  | .announce | .monitor | .ended => true
  | _ => false

/-- No crash has been heard of here. -/
@[simp] def StartupPc.starts : StartupPc → Bool
  | .create | .created | .lock | .find | .found | .connect => true
  | _ => false

/-- The thread is still to be told of a crash. -/
@[simp] def ClosingPc.telling : ClosingPc → Bool
  | .clear tconnected => tconnected
  | .tell => true
  | _ => false

namespace StartupClient

/-- The flags, by where the thread and the disconnect callback are. -/
structure Phased (s : StartupClient) : Prop where
  connected : s.connected = true → s.pc.past = true ∧ s.serverCrashed = false
  telling : s.closing.telling = true → s.pc.past = true ∧ s.serverCrashed = false
  tell : s.closing = .tell → s.connected = false
  starting : s.pc.starts = true → s.serverCrashed = false
  loop : s.pc = .loop → s.quitStartupThread = false → s.serverCrashed = false

theorem new_phased (callback : Bool) : (new callback).Phased where
  connected h := by cases h
  telling h := by cases h
  tell h := by cases h
  starting _ := rfl
  loop _ _ := rfl

variable {z z' : StartupStatics} {c : Nat} {s s' : StartupClient} {a : Action}

/-- Where the thread is not past the connection, there is none, and none is being lost. -/
theorem Phased.out (h : s.Phased) (hpc : s.pc.past = false) : s.connected = false ∧ s.closing.telling = false := by
  constructor
  · apply Bool.eq_false_iff.mpr
    intro hc
    rw [(h.connected hc).1] at hpc
    cases hpc
  · apply Bool.eq_false_iff.mpr
    intro hc
    rw [(h.telling hc).1] at hpc
    cases hpc

theorem Phased.out_of_crashed (h : s.Phased) (hcrash : s.serverCrashed = true) :
    s.connected = false ∧ s.closing.telling = false := by
  constructor
  · apply Bool.eq_false_iff.mpr
    intro hc
    rw [(h.connected hc).2] at hcrash
    cases hcrash
  · apply Bool.eq_false_iff.mpr
    intro hc
    rw [(h.telling hc).2] at hcrash
    cases hcrash

theorem Phased.of_out (hout : s.connected = false ∧ s.closing.telling = false)
    (hstart : s.pc.starts = true → s.serverCrashed = false)
    (hloop : s.pc = .loop → s.quitStartupThread = false → s.serverCrashed = false) : s.Phased where
  connected hc := by
    rw [hout.1] at hc
    cases hc
  telling hc := by
    rw [hout.2] at hc
    cases hc
  tell _ := hout.1
  starting := hstart
  loop := hloop

theorem moves_phased {answer : Bool} (h : s.Phased) (hm : Moves z c s answer z' s') : s'.Phased := by
  cases hm with
  | create hpc | createNone hpc | created hpc | lock hpc | located hpc | find hpc | found hpc =>
    have hstart : s.serverCrashed = false := h.starting (by simp [hpc])
    exact .of_out (h.out (by simp [hpc])) (fun _ => hstart) fun _ _ => hstart
  | again hpc hquit => exact .of_out (h.out (by simp [hpc])) (fun _ => h.loop hpc hquit) (by simp)
  | connect hpc =>
    have hstart : s.serverCrashed = false := h.starting (by simp [hpc])
    have hout := h.out (by simp [hpc])
    constructor
    · exact fun _ => ⟨rfl, hstart⟩
    · exact fun _ => ⟨rfl, hstart⟩
    · intro htell
      rw [show s.closing = .tell from htell] at hout
      exact absurd hout.2 (by decide)
    · simp
    · simp
  | announce hpc | quit hpc =>
    constructor
    · exact fun hc => ⟨rfl, (h.connected hc).2⟩
    · exact fun hc => ⟨rfl, (h.telling hc).2⟩
    · exact h.tell
    · simp
    · simp
  | crashed hpc hcrash => exact .of_out (h.out_of_crashed hcrash) (by simp) (by simp)
  | leave hpc | notFound hpc | relock hpc | wait hpc | done hpc | sleep hpc =>
    exact .of_out (h.out (by simp [hpc])) (by simp) (by simp)
  | stopped hpc hquit => exact .of_out (h.out (by simp [hpc])) (by simp) (by simp [hquit])
  | giveUp hpc | resume hpc => exact .of_out (h.out (by simp [hpc])) (by simp) (by simp)

theorem closes_phased (h : s.Phased) (hc : Closes s s') : s'.Phased := by
  cases hc with
  | read => exact ⟨h.connected, h.connected, by simp, h.starting, h.loop⟩
  | @clear tconnected hclear =>
    refine ⟨by simp, fun htelling => h.telling ?_, fun _ => rfl, h.starting, h.loop⟩
    cases tconnected with
    | true => simp [hclear]
    | false => simp at htelling
  | tell htell =>
    -- the thread has made the connection, and goes no further without having been told
    have hpast := (h.telling (by simp [htell])).1
    refine .of_out ⟨h.tell htell, rfl⟩ (fun hstarts => ?_) fun hloop => ?_
    · cases hpc : s.pc <;> simp [hpc] at hpast hstarts
    · simp [show s.pc = .loop from hloop] at hpast
  | drop => exact ⟨h.connected, by simp, by simp, h.starting, h.loop⟩

theorem destroys_phased (h : s.Phased) (hd : Destroys s s') : s'.Phased := by
  cases hd with
  | read | unregister | drop => exact ⟨h.connected, h.telling, h.tell, h.starting, h.loop⟩
  | clear => exact ⟨by simp, h.telling, fun _ => rfl, h.starting, h.loop⟩

theorem step_phased (h : s.Phased) (hs : s.step z c a = some (z', s')) : s'.Phased := by
  cases step_acts hs with
  | thread hm => exact moves_phased h hm
  | crash =>
    refine ⟨h.connected, fun htelling => ?_, fun htell => ?_, h.starting, h.loop⟩
    · cases hcallback : s.callback <;> simp [hcallback] at htelling
    · cases hcallback : s.callback <;> simp [hcallback] at htell
  | closing hc => exact closes_phased h hc
  | destroy hd => exact destroys_phased h hd
  | quit => exact ⟨h.connected, h.telling, h.tell, h.starting, by simp⟩

/-- With no seconds left nothing takes a crash back. -/
theorem step_crashed (htime : z.timeOut = 0) (hcrash : s.serverCrashed = true) (hs : s.step z c a = some (z', s')) :
    s'.serverCrashed = true := by
  cases step_acts hs with
  | thread hm =>
    cases hm with
    | resume _ _ hne => exact absurd htime hne
    | _ => exact hcrash
  | crash | quit => exact hcrash
  | closing hc =>
    cases hc with
    | tell => rfl
    | _ => exact hcrash
  | destroy hd => cases hd <;> exact hcrash

end StartupClient

namespace ClientProcess

open StartupClient

/-- What every client satisfies from its construction on and keeps in each of its steps, all of them satisfy. -/
theorem ReachableIf.each {ok : ClientProcess → Label → Prop} {P : StartupClient → Prop}
    (hnew : ∀ callback, P (.new callback))
    (hstep : ∀ p c a s z' s', ok p (.client c a) → p.clients c = some s → P s → s.step p.statics c a = some (z', s') → P s')
    {p : ClientProcess} (h : machine.ReachableIf ok p) : ∀ c s, p.clients c = some s → P s := by
  refine h.invariant (I := fun p => ∀ c s, p.clients c = some s → P s) ?_ ?_
  · rintro p rfl c s hc
    cases hc
  intro p l p' hI hok hs c t hc
  rcases step_cases hs with ⟨d, callback, -, -, rfl⟩ | ⟨d, a, s, z', s', rfl, hd, hst, rfl⟩
  · rcases setClient_eq_some hc with ⟨-, rfl⟩ | ⟨-, hc⟩
    · exact hnew callback
    · exact hI c t hc
  · rcases setClient_eq_some hc with ⟨-, rfl⟩ | ⟨-, hc⟩
    · exact hstep p d a s z' t hok hd (hI d s hd) hst
    · exact hI c t hc

theorem reachable_phased {p : ClientProcess} (h : machine.Reachable p) {c : Nat} {s : StartupClient}
    (hc : p.clients c = some s) : s.Phased :=
  ReachableIf.each (P := Phased) new_phased (fun _ _ _ _ _ _ _ _ hp hs => step_phased hp hs) h c s hc

/-! ## Giving up -/

/-- The seconds are over, and the client has been told of a crash. -/
def Lost (p : ClientProcess) (c : Nat) : Prop :=
  p.statics.timeOut = 0 ∧ ∃ s, p.clients c = some s ∧ s.serverCrashed = true

theorem step_timeOut_zero {p p' : ClientProcess} {l : Label} (hp : p.Timed) (h : p.statics.timeOut = 0)
    (hs : p.step l = some p') : p'.statics.timeOut = 0 := by
  rcases step_cases hs with ⟨d, callback, -, -, rfl⟩ | ⟨d, a, s, z', s', -, hd, hst, rfl⟩
  · exact h
  · have hspends := step_spends hst hp.bound (hp.sleeping d s hd)
    generalize s.events p.statics d a = es at hspends
    cases hspends with
    | kept hz => exact hz.trans h
    | slept hz => omega
    | gaveUp _ hz => exact hz
    | resumed hz => exact absurd h hz

theorem step_lost {p p' : ClientProcess} {l : Label} {c : Nat} (hp : p.Timed) (h : p.Lost c) (hs : p.step l = some p') :
    p'.Lost c := by
  refine ⟨step_timeOut_zero hp h.1 hs, ?_⟩
  obtain ⟨htime, s, hc, hcrash⟩ := h
  rcases step_client hs hc with ⟨-, hc'⟩ | ⟨a, z', s', -, hst, rfl⟩
  · exact ⟨s, hc', hcrash⟩
  · exact ⟨s', by simp, step_crashed htime hcrash hst⟩

theorem waited_of_gaveUp {h : List StartupEvent} (hh : Each WithinBudget h) {d : Nat} (hd : .gaveUp d ∈ h) :
    waited h = 30 := by
  induction h using List.reverseRecOn with
  | nil => cases hd
  | append_singleton h e ih =>
    have hinit : Each WithinBudget h := by
      rintro pre x post rfl
      exact hh pre x (post ++ [e]) (by simp)
    have he := hh h e [] rfl
    cases e with
    | slept c =>
      have hbefore := ih hinit (by simpa using hd)
      simp only [WithinBudget] at he
      omega
    | resumed c =>
      have hbefore := ih hinit (by simpa using hd)
      simp only [WithinBudget] at he
      omega
    | gaveUp c =>
      rw [waited_gaveUp]
      exact he

/-- **One gives up for all.** Once the thread of one client has given up, no client of the process that has been told of a
crash, then or later, is connected again, whether an engine runs or not. -/
theorem given_up_for_all {r : Recorded ClientProcess StartupEvent} (h : (machine.recorded events).Reachable r) {d : Nat}
    (hd : .gaveUp d ∈ r.history) (as : List Label) {p : ClientProcess} (hs : machine.exec r.state as = some p) {c : Nat}
    {s : StartupClient} (hc : p.clients c = some s) (hcrash : s.serverCrashed = true) (bs : List Label)
    {p' : ClientProcess} (hs' : machine.exec p bs = some p') : ∃ s', p'.clients c = some s' ∧ s'.connected = false := by
  obtain ⟨hbudget, hhist⟩ := startup_budget h
  have hr : machine.Reachable r.state := Machine.ReachableIf.forget h
  have hp : machine.Reachable p ∧ p.statics.timeOut = 0 := by
    refine Machine.exec_invariant (I := fun p => machine.Reachable p ∧ p.statics.timeOut = 0) ?_ ⟨hr, ?_⟩ hs
    · exact fun _ _ _ _ hI ht => ⟨hI.1.step ht, step_timeOut_zero (reachable_timed hI.1) hI.2 ht⟩
    · rw [waited_of_gaveUp hhist hd] at hbudget
      omega
  have hp' : machine.Reachable p' ∧ p'.Lost c := by
    refine Machine.exec_invariant (I := fun p => machine.Reachable p ∧ p.Lost c) ?_ ⟨hp.1, hp.2, s, hc, hcrash⟩ hs'
    exact fun _ _ _ _ hI ht => ⟨hI.1.step ht, step_lost (reachable_timed hI.1) hI.2 ht⟩
  obtain ⟨-, s', hc', hcrash'⟩ := hp'.2
  exact ⟨s', hc', ((reachable_phased hp'.1 hc').out_of_crashed hcrash').1⟩

set_option maxRecDepth 2000 in
/-- Client 0 gives up. Then client 1, which was connected all the time, is told of a crash; an engine runs again, and its
thread ends. -/
theorem given_up_for_all_running :
    ∃ (r : Recorded ClientProcess StartupEvent) (p : ClientProcess), (machine.recorded events).Reachable r ∧
      StartupEvent.gaveUp 0 ∈ r.history ∧
      machine.exec r.state (loses 1 ++ goesOn 1 (List.replicate 5 true)) = some p ∧
      ∃ s, p.clients 1 = some s ∧ s.connected = false := by
  have hr := Machine.reachable_of_exec (M := machine.recorded events) (s := ⟨start, []⟩) ⟨rfl, rfl⟩
    (connects 1 ++ waitsInVain) rfl
  refine ⟨_, _, hr, ?_, ?_, given_up_for_all hr (d := 0) ?_ (loses 1) rfl (c := 1) rfl rfl
    (goesOn 1 (List.replicate 5 true)) rfl⟩
  · decide
  · rfl
  · decide

/-! ## News that nobody takes -/

/-- The engine goes only while the client is connected, with a callback, and the disconnect callback has returned before
the thread asks for the manager again. -/
def orderly (p : ClientProcess) : Label → Bool
  | .construct _ _ => true
  | .client c a => (p.clients c).all fun s => match a with
    | .crash => s.connected && s.callback
    | .thread _ => s.pc != .find || s.closing == .idle
    | _ => true

end ClientProcess

/-- The manager is being located, or has been. -/
@[simp] def StartupPc.locates : StartupPc → Bool
  | .create | .created | .found | .connect => true
  | _ => false

namespace StartupClient

/-- A client that is connected, or about to be, will be told when the engine goes. -/
structure Watched (s : StartupClient) : Prop where
  registered : s.closing = .idle → s.manager = true → s.registered = true
  quiet : s.pc.locates = true → s.closing = .idle
  found : s.pc = .created ∨ s.pc = .found → s.registered = true
  connecting : s.pc = .connect → s.manager = true
  connected : s.connected = true → s.manager = true ∧ s.closing ≠ .drop

variable {z z' : StartupStatics} {c : Nat} {s s' : StartupClient}

theorem moves_watched {answer : Bool} (h : s.Watched) (hfind : s.pc = .find → s.closing = .idle)
    (hm : Moves z c s answer z' s') : s'.Watched := by
  cases hm with
  | create hpc =>
    have hidle : s.closing = .idle := h.quiet (by simp [hpc])
    exact ⟨fun _ _ => rfl, fun _ => hidle, fun _ => rfl, by simp, h.connected⟩
  | created hpc =>
    exact ⟨fun _ _ => h.found (.inl hpc), by simp, by simp, by simp, fun hc => ⟨rfl, (h.connected hc).2⟩⟩
  | located hpc hmanager => exact ⟨h.registered, fun _ => hfind hpc, by simp, fun _ => hmanager, h.connected⟩
  | find hpc => exact ⟨fun _ _ => rfl, fun _ => hfind hpc, fun _ => rfl, by simp, h.connected⟩
  | found hpc =>
    have hidle : s.closing = .idle := h.quiet (by simp [hpc])
    exact ⟨fun _ _ => h.found (.inr hpc), fun _ => hidle, by simp, fun _ => rfl, fun hc => ⟨rfl, (h.connected hc).2⟩⟩
  | connect hpc =>
    have hidle : s.closing = .idle := h.quiet (by simp [hpc])
    exact ⟨h.registered, by simp, by simp, by simp, fun _ => ⟨h.connecting hpc, by simp [hidle]⟩⟩
  | _ => exact ⟨h.registered, by simp, by simp, by simp, h.connected⟩

theorem closes_watched (h : s.Watched) (hphased : s.Phased) (hc : Closes s s') : s'.Watched := by
  have hlocates : s.closing ≠ .idle → s.pc.locates = false := fun hne => Bool.eq_false_iff.mpr fun hl => hne (h.quiet hl)
  have hpc : s.closing ≠ .idle → (s.pc = .created ∨ s.pc = .found → s.registered = true) ∧ s.pc ≠ .connect := by
    intro hne
    refine ⟨h.found, fun hp => ?_⟩
    have hl := hlocates hne
    simp [hp] at hl
  cases hc with
  | read hread =>
    have hne : s.closing ≠ .idle := by simp [hread]
    exact ⟨by simp, fun hl => absurd (h.quiet hl) hne, h.found, h.connecting, fun hc => ⟨(h.connected hc).1, by simp⟩⟩
  | clear hclear =>
    have hne : s.closing ≠ .idle := by simp [hclear]
    refine ⟨fun hidle => ?_, fun hl => absurd (h.quiet hl) hne, h.found, h.connecting, by simp⟩
    simp only at hidle
    split at hidle <;> cases hidle
  | tell htell =>
    have hne : s.closing ≠ .idle := by simp [htell]
    refine ⟨by simp, fun hl => absurd (h.quiet hl) hne, h.found, h.connecting, fun hc => ?_⟩
    simp [hphased.tell htell] at hc
  | drop hdrop =>
    have hne : s.closing ≠ .idle := by simp [hdrop]
    exact ⟨by simp, fun _ => rfl, h.found, fun hp => absurd hp (hpc hne).2, fun hc => absurd hdrop (h.connected hc).2⟩

/-- Until the destructor. -/
def WatchedUntil (s : StartupClient) : Prop := s.Phased ∧ (s.destructor = .alive → s.Watched)

theorem moves_destructor {answer : Bool} (hm : Moves z c s answer z' s') : s'.destructor = s.destructor := by
  cases hm <;> rfl

theorem closes_destructor (hc : Closes s s') : s'.destructor = s.destructor := by
  cases hc <;> rfl

theorem destroys_destructor (hd : Destroys s s') : s'.destructor ≠ .alive := by
  cases hd with
  | @clear tconnected => cases tconnected <;> simp
  | _ => simp

end StartupClient

namespace ClientProcess

open StartupClient

theorem step_watched {p : ClientProcess} {c : Nat} {a : Action} {s s' : StartupClient} {z' : StartupStatics}
    (hok : p.orderly (.client c a) = true) (hc : p.clients c = some s) (h : s.WatchedUntil)
    (hs : s.step p.statics c a = some (z', s')) : s'.WatchedUntil := by
  refine ⟨step_phased h.1 hs, fun hlive => ?_⟩
  rw [orderly, hc, Option.all_some] at hok
  cases step_acts hs with
  | thread hm => exact moves_watched (h.2 (moves_destructor hm ▸ hlive)) (fun hfind => by simpa [hfind] using hok) hm
  | crash hregistered =>
    obtain ⟨hconnected, hcallback⟩ := Bool.and_eq_true_iff.mp hok
    have hw := h.2 hlive
    have hpast := (h.1.connected hconnected).1
    simp only [hcallback, if_true]
    refine ⟨by simp, fun hl => ?_, fun hp => ?_, hw.connecting, fun _ => ⟨(hw.connected hconnected).1, by simp⟩⟩
    · cases hpc : s.pc <;> simp [hpc] at hpast hl
    · rcases hp with hp | hp <;> simp [show s.pc = _ from hp] at hpast
  | closing hc => exact closes_watched (h.2 (closes_destructor hc ▸ hlive)) h.1 hc
  | destroy hd => exact absurd hlive (destroys_destructor hd)
  | quit => cases hlive

/-- **A connected client will be told**, as long as the news of crashes is orderly and none is just being told. -/
theorem connected_registered {p : ClientProcess} (h : machine.ReachableIf (fun p l => p.orderly l = true) p) {c : Nat}
    {s : StartupClient} (hc : p.clients c = some s) (hconnected : s.connected = true) (hidle : s.closing = .idle)
    (hlive : s.destructor = .alive) : s.manager = true ∧ s.registered = true := by
  have hw : s.WatchedUntil := by
    refine ReachableIf.each (P := WatchedUntil) (fun callback => ⟨new_phased callback, fun _ => ?_⟩)
      (fun _ _ _ _ _ _ hok hc hp hs => step_watched hok hc hp hs) h c s hc
    exact ⟨by simp [StartupClient.new], by simp [StartupClient.new], by simp [StartupClient.new],
      by simp [StartupClient.new], by simp [StartupClient.new]⟩
  have hmanager := ((hw.2 hlive).connected hconnected).1
  exact ⟨hmanager, (hw.2 hlive).registered hidle hmanager⟩

/-- The engine goes and is started again, and so is the connection. -/
theorem connected_registered_again :
    ∃ p s, machine.ReachableIf (fun p l => p.orderly l = true) p ∧ p.clients 0 = some s ∧ s.connected = true ∧
      s.manager = true ∧ s.registered = true := by
  have hstart : machine.ReachableIf (fun p l => p.orderly l = true) start := .init rfl
  have hp := hstart.execIf (connects 0 ++ loses 0 ++ goesOn 0 (List.replicate 9 true)) rfl
  exact ⟨_, ⟨.announce, true, true, true, false, false, true, .idle, .alive⟩, hp, rfl, rfl,
    connected_registered hp (c := 0) rfl rfl rfl rfl⟩

/-- Connected, but the engine is gone, has said so, and nobody is to hear of it. -/
structure Deaf (s : StartupClient) : Prop where
  phased : s.Phased
  connected : s.connected = true
  registered : s.registered = false
  manager : s.manager = false
  closing : s.closing = .idle ∨ s.closing = .drop

theorem step_deaf {p p' : ClientProcess} {l : Label} {c : Nat} (h : ∃ s, p.clients c = some s ∧ Deaf s)
    (hl : l ≠ .client c .destroy) (hs : p.step l = some p') : ∃ s, p'.clients c = some s ∧ Deaf s := by
  obtain ⟨s, hc, hdeaf⟩ := h
  rcases step_client hs hc with ⟨-, hc'⟩ | ⟨a, z', s', rfl, hst, rfl⟩
  · exact ⟨s, hc', hdeaf⟩
  · have hphased := step_phased hdeaf.phased hst
    refine ⟨s', by simp, ?_⟩
    cases step_acts hst with
    | thread hm =>
      have hpast := (hdeaf.phased.connected hdeaf.connected).1
      cases hm with
      | create hpc | createNone hpc | created hpc | find hpc | found hpc | connect hpc => simp [hpc] at hpast
      | _ => exact ⟨hphased, hdeaf.connected, hdeaf.registered, hdeaf.manager, hdeaf.closing⟩
    | crash hregistered => simp [hdeaf.registered] at hregistered
    | closing hcl =>
      cases hcl with
      | read hat | clear hat | tell hat => rcases hdeaf.closing with hidle | hidle <;> simp [hat] at hidle
      | drop => exact ⟨hphased, hdeaf.connected, hdeaf.registered, rfl, .inl rfl⟩
    | destroy => exact absurd rfl hl
    | quit => exact ⟨hphased, hdeaf.connected, hdeaf.registered, hdeaf.manager, hdeaf.closing⟩

/-- **A crash that comes too early is never noticed.** A client that is connected while the disconnect callback has been
and `m_manager` is cleared stays so until it is destroyed, whatever engines are started. -/
theorem deaf_forever {p : ClientProcess} (h : machine.Reachable p) {c : Nat} {s : StartupClient} (hc : p.clients c = some s)
    (hconnected : s.connected = true) (hregistered : s.registered = false) (hmanager : s.manager = false)
    (hclosing : s.closing = .idle ∨ s.closing = .drop) {as : List Label} (has : .client c .destroy ∉ as)
    {p' : ClientProcess} (hs : machine.exec p as = some p') :
    ∃ s', p'.clients c = some s' ∧ s'.connected = true ∧ s'.registered = false ∧ s'.manager = false := by
  have hdeaf : ∃ s', p'.clients c = some s' ∧ Deaf s' := by
    refine Machine.exec_invariant (I := fun p => ∃ s, p.clients c = some s ∧ Deaf s) (fun l hl q q' hI hq => ?_) ?_ hs
    · refine step_deaf hI (fun he => ?_) hq
      rw [he] at hl
      exact has hl
    · exact ⟨s, hc, reachable_phased h hc, hconnected, hregistered, hmanager, hclosing⟩
  obtain ⟨s', hc', hend⟩ := hdeaf
  exact ⟨s', hc', hend.connected, hend.registered, hend.manager⟩

/-- The engine that the constructor found goes before the thread has set `m_connected`. -/
theorem deaf_forever_early :
    ∃ p, machine.Reachable p ∧ ∀ as p', .client 0 .destroy ∉ as → machine.exec p as = some p' →
      ∃ s', p'.clients 0 = some s' ∧ s'.connected = true ∧ s'.registered = false ∧ s'.manager = false := by
  have hp := Machine.reachable_of_exec (M := machine) rfl
    (.construct 0 true :: goesOn 0 (List.replicate 5 true) ++
      .client 0 .crash :: List.replicate 3 (.client 0 .closing) ++ goesOn 0 (List.replicate 2 true)) rfl
  exact ⟨_, hp, fun as p' has hs =>
    deaf_forever hp (s := ⟨.monitor, false, false, true, false, false, true, .idle, .alive⟩) rfl rfl rfl rfl (.inl rfl)
      has hs⟩

end ClientProcess

end TTS
