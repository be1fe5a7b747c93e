import TTS.CondVar
import TTS.StartupRuns

/-!
# The end of a startup thread

The destructor tells the thread to quit and joins it. It neither waits for a
crash that is being reported nor holds a mutex while it notifies.
-/

namespace TTS

open Transition

/-! ## The destructor -/

/-- Steps that a thread has left once it has been told to quit. -/
def StartupPc.left : StartupPc → Nat
  | .ended => 0
  | .loop => 1
  | .created | .decide => 2
  | .create | .poll => 3
  | .sleep | .relock => 4
  | .monitor => 5
  | .announce => 6
  | .connect => 7
  | .found => 8
  | .find => 9
  | .lock => 10

namespace StartupClient

variable {z z' : StartupStatics} {c : Nat} {s s' : StartupClient} {a : Action}

theorem moves_quit {answer : Bool} (hquit : s.quitStartupThread = true) (hm : Moves z c s answer z' s') :
    s'.quitStartupThread = true ∧ s'.pc.left < s.pc.left := by
  cases hm with
  | again _ h | wait _ h | giveUp _ h | resume _ h => simp [hquit] at h
  | create hpc | createNone hpc | created hpc | leave hpc | lock hpc | located hpc | find hpc | found hpc | notFound hpc
  | connect hpc | announce hpc | crashed hpc | quit hpc | relock hpc | done hpc | sleep hpc | stopped hpc =>
    exact ⟨hquit, by simp [hpc, StartupPc.left]⟩

theorem step_quit (hquit : s.quitStartupThread = true) (hs : s.step z c a = some (z', s')) :
    s'.quitStartupThread = true := by
  cases step_acts hs with
  | thread hm => exact (moves_quit hquit hm).1
  | crash => exact hquit
  | closing hc => cases hc <;> exact hquit
  | destroy hd => cases hd <;> exact hquit
  | quit => rfl

/-- Steps until the thread gives `sMutex` back, at most. -/
def inSection (z : StartupStatics) (s : StartupClient) : Nat :=
  match s.pc with
  | .find => 4
  | .found => 3
  | .connect => 2
  | .announce | .decide => 1
  | .sleep => 2 * z.timeOut + 1
  | .poll => 2 * z.timeOut + 2
  | _ => 0

theorem critical_step (hcrit : s.pc.critical = true) (answer : Bool) : ∃ r, s.step z c (.thread answer) = some r := by
  refine Option.isSome_iff_exists.mp ?_
  cases hpc : s.pc with
  | found | connect | announce | poll | sleep => simp [step, threadStep, hpc]
  | find | decide =>
    simp only [step, threadStep, hpc]
    split
    · rfl
    · split <;> rfl
  | create | created | loop | lock | monitor | relock | ended => simp [hpc] at hcrit

theorem moves_inSection {answer : Bool} (hcrit : s.pc.critical = true) (hbound : z.timeOut ≤ 30)
    (hsleep : s.pc = .sleep → z.timeOut ≠ 0) (hm : Moves z c s answer z' s') : s'.inSection z' < s.inSection z := by
  cases hm with
  | sleep hpc =>
    have hne := hsleep hpc
    simp only [inSection, hpc]
    omega
  | create hpc | createNone hpc | created hpc | again hpc | leave hpc | lock hpc | crashed hpc | quit hpc | relock hpc =>
    simp [hpc] at hcrit
  | located hpc | find hpc | found hpc | notFound hpc | connect hpc | announce hpc | wait hpc | done hpc | stopped hpc
  | giveUp hpc | resume hpc => simp [inSection, hpc]

theorem quit_step (hquit : s.quitStartupThread = true) (hpc : s.pc ≠ .ended) (hfree : z.mutex = none) :
    ∃ r, s.step z c (.thread true) = some r := by
  cases hp : s.pc with
  | find | found | connect | announce | poll | sleep | decide => exact critical_step (by rw [hp]; rfl) true
  | create | created | loop | lock | relock =>
    refine Option.isSome_iff_exists.mp ?_
    simp [step, threadStep, hp, hfree]
  | monitor =>
    refine Option.isSome_iff_exists.mp ?_
    simp only [step, threadStep, hp, hquit, if_true]
    split <;> rfl
  | ended => exact absurd hp hpc

end StartupClient

namespace ClientProcess

open StartupClient

def ofThread (c : Nat) : Label → Bool
  | .client d (.thread _) => d == c
  | _ => false

theorem exec_quit {p p' : ClientProcess} {c : Nat} {s : StartupClient} (hc : p.clients c = some s)
    (hquit : s.quitStartupThread = true) {as : List Label} (hs : machine.exec p as = some p') :
    as.countP (ofThread c) ≤ s.pc.left := by
  induction as generalizing p s with
  | nil => exact Nat.zero_le _
  | cons l as ih =>
    rw [Machine.exec, Option.bind_eq_some_iff] at hs
    obtain ⟨q, hq, hqp⟩ := hs
    rcases step_client hq hc with ⟨hother, hc'⟩ | ⟨a, z', s', rfl, hst, rfl⟩
    · rw [List.countP_cons_of_neg]
      · exact ih hc' hquit hqp
      · cases l with
        | construct => simp [ofThread]
        | client d a =>
          have hne : d ≠ c := by
            rintro rfl
            exact hother a rfl
          cases a <;> simp [ofThread, hne]
    · have hrest := ih (s := s') (by simp) (step_quit hquit hst) hqp
      cases a with
      | thread answer =>
        have hless := (moves_quit hquit (threadStep_moves hst)).2
        rw [List.countP_cons_of_pos (by simp [ofThread])]
        omega
      | crash | closing | destroy | quit =>
        obtain ⟨-, hpc⟩ := step_others hst (by simp)
        rw [hpc] at hrest
        simpa [ofThread] using hrest

/-- Another client's thread has `sMutex` and is on its way to give it back: any step of it is possible and brings it
nearer, by a number of steps bounded by the seconds. -/
def Behind (p : ClientProcess) (c : Nat) : Prop :=
  ∃ d t, d ≠ c ∧ p.clients d = some t ∧ t.inSection p.statics ≤ 62 ∧
    ∀ answer, ∃ z' t', t.step p.statics d (.thread answer) = some (z', t') ∧ t'.inSection z' < t.inSection p.statics

theorem step_or_behind {p : ClientProcess} (h : machine.Reachable p) {c : Nat} {s : StartupClient}
    (hc : p.clients c = some s) (hquit : s.quitStartupThread = true) (hpc : s.pc ≠ .ended) :
    (∃ p', p.step (.client c (.thread true)) = some p') ∨ p.Behind c := by
  have ht := reachable_timed h
  have hstep : ∀ r, s.step p.statics c (.thread true) = some r → ∃ p', p.step (.client c (.thread true)) = some p' := by
    intro r hr
    exact ⟨_, by simp only [step, hc, Option.bind_some, hr, Option.map_some]; rfl⟩
  cases hm : p.statics.mutex with
  | none =>
    obtain ⟨r, hr⟩ := quit_step (c := c) hquit hpc hm
    exact .inl (hstep r hr)
  | some d =>
    have hd := (ht.guards d).mp hm
    obtain ⟨t, htd, hcrit⟩ : ∃ t, p.clients d = some t ∧ t.pc.critical = true := by
      simpa [critical, Option.any_eq_true] using hd
    by_cases hdc : d = c
    · subst hdc
      rw [hc] at htd
      cases htd
      obtain ⟨r, hr⟩ := critical_step (z := p.statics) (c := d) hcrit true
      exact .inl (hstep r hr)
    · refine .inr ⟨d, t, hdc, htd, ?_, fun answer => ?_⟩
      · have hbound := ht.bound
        cases hp : t.pc <;> simp only [inSection, hp] <;> omega
      · obtain ⟨⟨z', t'⟩, hst⟩ := critical_step (z := p.statics) (c := d) hcrit answer
        exact ⟨z', t', hst, moves_inSection hcrit ht.bound (ht.sleeping d t htd) (threadStep_moves hst)⟩

/-! ## The wait for a crash -/

open CondVar

/-- `m_startupThreadMutex` is not taken by those who notify. -/
def monitorRules (c : Nat) : Rules ClientProcess Label where
  waits p := (p.clients c).any fun s => s.pc == .monitor
  ready p := (p.clients c).any fun s => s.serverCrashed || s.quitStartupThread
  own := ofThread c
  locks _ _ := false
  notifies _ _ := false
  signals p
    | .client d a => d == c && (p.clients c).any fun s => match a with
      | .closing => s.closing == .tell
      | .quit => true
      | _ => false
    | _ => false

def monitoring (c : Nat) : Machine (Waiter ClientProcess) (CondVar.Label Label) := Waiter.machine machine (monitorRules c)

theorem monitor_notified (c : Nat) : Waiter.Notified machine (monitorRules c) (monitorRules c).ready True where
  ready _ h := h
  step p l p' hown hs hb ht := by
    refine .inr ⟨trivial, ?_⟩
    rcases step_cases hs with ⟨d, callback, rfl, hd, rfl⟩ | ⟨d, a, s, z', s', rfl, hd, hst, rfl⟩
    · by_cases hcd : c = d
      · subst hcd
        simp [monitorRules, StartupClient.new] at ht
      · simp only [monitorRules, setClient, hcd, if_false] at ht hb
        rw [hb] at ht
        cases ht
    · by_cases hcd : c = d
      · subst hcd
        simp only [monitorRules, setClient_self, hd, Option.any_some, Bool.or_eq_false_iff, Bool.or_eq_true] at ht hb
        obtain ⟨hcrash, hquit⟩ := hb
        cases step_acts hst with
        | thread => simp [monitorRules, ofThread] at hown
        | crash => simp [hcrash, hquit] at ht
        | closing hc =>
          cases hc with
          | tell htell => simp [monitorRules, hd, htell]
          | read | clear | drop => simp [hcrash, hquit] at ht
        | destroy hdes => cases hdes <;> simp [hcrash, hquit] at ht
        | quit => simp [monitorRules, hd]
      · simp only [monitorRules, setClient, hcd, if_false] at ht hb
        rw [hb] at ht
        cases ht

/-- **A client asleep has nothing to be told**, or the notification is still to come, or came before it had blocked. -/
theorem asleep_told {c : Nat} {w : Waiter ClientProcess} (h : (monitoring c).Reachable w) (hw : w.phase = .asleep)
    {s : StartupClient} (hc : w.state.clients c = some s) :
    (s.serverCrashed = false ∧ s.quitStartupThread = false) ∨ 0 < w.pending ∨ w.missed = true := by
  by_cases hready : (monitorRules c).ready w.state = true
  · exact .inr (Waiter.reachable_told (monitor_notified c) h (by simp [hw]) hready).2
  · left
    simpa [monitorRules, hc] using hready

theorem asleep_told_crashed :
    ∃ w : Waiter ClientProcess, ∃ s, (monitoring 0).Reachable w ∧ w.state.clients 0 = some s ∧ s.serverCrashed = true ∧
      ((s.serverCrashed = false ∧ s.quitStartupThread = false) ∨ 0 < w.pending ∨ w.missed = true) := by
  have hw := Machine.reachable_of_exec (M := monitoring 0) (s := ⟨start, .awake, 0, false⟩) ⟨rfl, rfl, rfl, rfl⟩
    ((connects 0).map .run ++ [.evaluate, .block] ++ (loses 0).map .run) rfl
  exact ⟨_, ⟨.monitor, false, false, false, true, false, true, .idle, .alive⟩, hw, rfl, rfl, asleep_told hw rfl rfl⟩

/-- **The destructor's `join` is not held up** where no notification falls between the predicate of the wait and the
block. Once it has been told to quit, the thread takes at most ten more steps, whatever happens meanwhile. It can take
one at any time, unless another thread has `sMutex`, or it is about to block, or a notification for it is on its way. -/
theorem join_bounded {c : Nat} {w : Waiter ClientProcess}
    (h : (monitoring c).ReachableIf (fun w a => a = .notify → w.phase ≠ .deciding) w) {s : StartupClient}
    (hc : w.state.clients c = some s) (hquit : s.quitStartupThread = true) :
    (∀ as w', (monitoring c).exec w as = some w' → (as.filterMap CondVar.Label.inner).countP (ofThread c) ≤ 10) ∧
      (s.pc = .ended ∨ (∃ w', (monitoring c).step w (.run (.client c (.thread true))) = some w') ∨ w.state.Behind c ∨
        (∃ w', (monitoring c).step w .block = some w') ∨
        ∃ w', (monitoring c).step w .notify = some w' ∧ w'.phase = .awake) := by
  refine ⟨fun as w' hs => Nat.le_trans (exec_quit hc hquit (Waiter.exec_state hs)) ?_, ?_⟩
  · cases s.pc <;> decide
  by_cases hpc : s.pc = .ended
  · exact .inl hpc
  right
  cases hphase : w.phase with
  | awake =>
    rcases step_or_behind (Waiter.reachable_state h.reachable) hc hquit hpc with ⟨p', hp'⟩ | hbehind
    · refine .inl ⟨{ w with state := p' }, ?_⟩
      have hsame : machine.step w.state (.client c (.thread true)) = some p' := hp'
      simp [monitoring, Waiter.machine, monitorRules, hphase, hsame]
    · exact .inr (.inl hbehind)
  | deciding => exact .inr (.inr (.inl ⟨{ w with phase := .asleep }, if_pos hphase⟩))
  | asleep =>
    refine .inr (.inr (.inr ?_))
    have hpending : 0 < w.pending := by
      rcases asleep_told h.reachable hphase hc with ⟨-, hnot⟩ | hpending | hmissed
      · simp [hquit] at hnot
      · exact hpending
      · rw [Waiter.missed_only_by_signal h] at hmissed
        cases hmissed
    obtain ⟨n, hn⟩ := Nat.exists_eq_add_of_lt hpending
    rw [Nat.zero_add] at hn
    exact ⟨{ w with phase := .awake, pending := n, missed := w.missed || false },
      by simp [monitoring, Waiter.machine, hn, hphase], rfl⟩

/-- The destructor finds a thread that has blocked, while another one has `sMutex` and sleeps. -/
theorem join_bounded_behind :
    ∃ w, (monitoring 1).ReachableIf (fun w a => a = .notify → w.phase ≠ .deciding) w ∧ w.phase = .asleep ∧
      ∀ as w', (monitoring 1).exec w as = some w' → (as.filterMap CondVar.Label.inner).countP (ofThread 1) ≤ 10 := by
  have hstart : (monitoring 1).ReachableIf (fun w a => a = .notify → w.phase ≠ .deciding) ⟨start, .awake, 0, false⟩ :=
    .init ⟨rfl, rfl, rfl, rfl⟩
  have hw := hstart.execIf
    ((connects 0 ++ connects 1 ++ loses 0 ++ goesOn 0 (List.replicate 3 false)).map .run ++ [.evaluate, .block] ++
      (List.replicate 4 (Label.client 1 .destroy) ++ [Label.client 1 .quit]).map .run) rfl
  exact ⟨_, hw, rfl, (join_bounded hw (c := 1) (s := ⟨.monitor, false, false, false, false, true, true, .idle, .join⟩)
    rfl rfl).1⟩

/-- The client is not connected, and its thread has blocked with no notification to come. -/
structure Overslept (w : Waiter ClientProcess) (c : Nat) : Prop where
  phase : w.phase = .asleep
  pending : w.pending = 0
  closed : ∃ s, w.state.clients c = some s ∧ s.connected = false ∧ s.closing.telling = false

/-- A wake-up comes from nowhere, or the destructor's. -/
def Rouses (c : Nat) (l : CondVar.Label Label) : Prop := l = .wake ∨ l = .run (.client c .quit)

theorem step_overslept {w w' : Waiter ClientProcess} {c : Nat} {l : CondVar.Label Label} (h : Overslept w c)
    (hl : ¬Rouses c l) (hs : (monitoring c).step w l = some w') : Overslept w' c := by
  cases l with
  | wake => exact absurd (.inl rfl) hl
  | notify => simp [monitoring, Waiter.machine, h.pending] at hs
  | evaluate | block => simp [monitoring, Waiter.machine, h.phase] at hs
  | run a =>
    simp only [monitoring, Waiter.machine, Option.ite_none_left_eq_some, Option.map_eq_some_iff] at hs
    obtain ⟨hok, q, hq, rfl⟩ := hs
    obtain ⟨s, hc, hclosed, htelling⟩ := h.closed
    have hown : (monitorRules c).own a = false := by
      cases ho : (monitorRules c).own a with
      | false => rfl
      | true => exact absurd (.inl ⟨ho, by simp [h.phase]⟩) hok
    have hsilent : (monitorRules c).signals w.state a = false := by
      cases a with
      | construct => rfl
      | client d act =>
        by_cases hdc : d = c
        · subst hdc
          cases act with
          | quit => exact absurd (.inr rfl) hl
          | closing =>
            simp only [monitorRules, hc, Option.any_some, beq_self_eq_true, Bool.true_and, beq_eq_false_iff_ne]
            intro htell
            simp [htell] at htelling
          | _ => simp [monitorRules]
        · simp [monitorRules, hdc]
    refine ⟨by simp [monitorRules, h.phase], by simp [hsilent, h.pending], ?_⟩
    rcases step_client hq hc with ⟨-, hc'⟩ | ⟨act, z', s', rfl, hst, rfl⟩
    · exact ⟨s, hc', hclosed, htelling⟩
    · refine ⟨s', by simp, ?_⟩
      cases step_acts hst with
      | thread => simp [monitorRules, ofThread] at hown
      | crash => exact ⟨hclosed, by cases s.callback <;> rfl⟩
      | closing hcl =>
        cases hcl with
        | read => exact ⟨hclosed, hclosed⟩
        | @clear tconnected => exact ⟨rfl, by simp_all⟩
        | tell | drop => exact ⟨hclosed, rfl⟩
      | destroy hd => cases hd <;> exact ⟨by simp [hclosed], htelling⟩
      | quit => exact ⟨hclosed, htelling⟩

/-- **A crash that falls between the predicate and the block is not acted on.** The client is not connected any more, and
its thread sleeps on until the destructor, whatever happens to the engine. -/
theorem crash_missed {c : Nat} {w : Waiter ClientProcess} (h : Overslept w c) {as : List (CondVar.Label Label)}
    (has : ∀ l ∈ as, ¬Rouses c l) {w' : Waiter ClientProcess} (hs : (monitoring c).exec w as = some w') :
    w'.phase = .asleep ∧ ∃ s, w'.state.clients c = some s ∧ s.connected = false := by
  have hw : Overslept w' c :=
    Machine.exec_invariant (I := fun w => Overslept w c) (fun l hl _ _ hI hu => step_overslept hI (has l hl) hu) h hs
  obtain ⟨s, hc, hclosed, -⟩ := hw.closed
  exact ⟨hw.phase, s, hc, hclosed⟩

theorem crash_missed_once :
    ∃ w, (monitoring 0).Reachable w ∧ w.missed = true ∧ ∀ as w', (∀ l ∈ as, ¬Rouses 0 l) →
      (monitoring 0).exec w as = some w' → w'.phase = .asleep ∧ ∃ s, w'.state.clients 0 = some s ∧ s.connected = false := by
  have hw := Machine.reachable_of_exec (M := monitoring 0) (s := ⟨start, .awake, 0, false⟩) ⟨rfl, rfl, rfl, rfl⟩
    ((connects 0).map .run ++ .evaluate :: (loses 0).map .run ++ [.notify, .block]) rfl
  exact ⟨_, hw, rfl, fun as w' has hs => crash_missed
    ⟨rfl, rfl, ⟨.monitor, false, false, false, true, false, true, .idle, .alive⟩, rfl, rfl, rfl⟩ has hs⟩

end ClientProcess

/-! ## A client that is gone -/

/-- The destructor has unregistered the disconnect callback, where it does. -/
@[simp] def DestructorPc.unregistered : DestructorPc → Bool
  | .drop | .quit | .join => true
  | _ => false

namespace StartupClient

/-- Being destroyed, having been found connected. -/
structure Closed (s : StartupClient) : Prop where
  pc : s.pc.past = true
  serverCrashed : s.serverCrashed = false
  closing : s.closing = .idle
  clear : s.destructor ≠ .clear false
  registered : s.destructor.unregistered = true → s.registered = false

variable {z z' : StartupStatics} {c : Nat} {s s' : StartupClient} {a : Action}

theorem destroys_closed (hphased : s.Phased) (hconnected : s.destructor = .alive → s.connected = true ∧ s.closing = .idle)
    (h : s.destructor ≠ .alive → s.Closed) (hd : Destroys s s') : s'.Closed := by
  cases hd with
  | read hat =>
    obtain ⟨hcon, hidle⟩ := hconnected hat
    obtain ⟨hpast, hcrash⟩ := hphased.connected hcon
    exact ⟨hpast, hcrash, hidle, by simp [hcon], by simp⟩
  | @clear tconnected hat =>
    obtain ⟨hpast, hcrash, hidle, hclear, -⟩ := h (by simp [hat])
    cases tconnected with
    | true => exact ⟨hpast, hcrash, hidle, by simp, by simp⟩
    | false => exact absurd hat hclear
  | unregister hat =>
    obtain ⟨hpast, hcrash, hidle, -, -⟩ := h (by simp [hat])
    exact ⟨hpast, hcrash, hidle, by simp, fun _ => rfl⟩
  | drop hat =>
    obtain ⟨hpast, hcrash, hidle, -, hregistered⟩ := h (by simp [hat])
    exact ⟨hpast, hcrash, hidle, by simp, fun _ => hregistered (by simp [hat])⟩

theorem step_closed (hphased : s.Phased)
    (hdestroy : a = .destroy → s.destructor = .alive → s.connected = true ∧ s.closing = .idle)
    (hcrash : a = .crash → s.destructor = .alive ∨ s.destructor.unregistered = true)
    (h : s.destructor ≠ .alive → s.Closed) (hs : s.step z c a = some (z', s')) : s'.destructor ≠ .alive → s'.Closed := by
  intro hne
  cases step_acts hs with
  | thread hm =>
    obtain ⟨hpast, hnone, hidle, hclear, hregistered⟩ := h (moves_destructor hm ▸ hne)
    cases hm with
    | announce | quit => exact ⟨rfl, hnone, hidle, hclear, hregistered⟩
    | crashed _ hcrashed => simp [hnone] at hcrashed
    | create hp | createNone hp | created hp | again hp | leave hp | lock hp | located hp | find hp | found hp
    | notFound hp | connect hp | relock hp | wait hp | done hp | sleep hp | stopped hp | giveUp hp | resume hp =>
      simp [hp] at hpast
  | crash hat =>
    rcases hcrash rfl with halive | hun
    · exact absurd halive hne
    · simp [(h hne).registered hun] at hat
  | closing hcl =>
    obtain ⟨-, -, hidle, -, -⟩ := h (closes_destructor hcl ▸ hne)
    cases hcl with
    | read hat | clear hat | tell hat | drop hat => simp [hat] at hidle
  | destroy hd => exact destroys_closed hphased (hdestroy rfl) h hd
  | quit hat =>
    obtain ⟨hpast, hnone, hidle, -, hregistered⟩ := h (by simp [hat])
    exact ⟨hpast, hnone, hidle, by simp, fun _ => hregistered (by simp [hat])⟩

end StartupClient

namespace ClientProcess

open StartupClient

/-- A client is destroyed while it is connected and no disconnect callback is in it, and no engine goes until the
destructor has unregistered that callback. -/
def destroyedConnected (p : ClientProcess) : Label → Bool
  | .client c .destroy => (p.clients c).all fun s => s.destructor != .alive || (s.connected && s.closing == .idle)
  | .client c .crash => (p.clients c).all fun s => s.destructor == .alive || s.destructor.unregistered
  | _ => true

/-- **No callback into a client that is gone.** From the time its destructor has unregistered it, a client destroyed while
it was connected is not called when the engine goes, neither before nor after its thread has ended. -/
theorem destroyed_not_called {p : ClientProcess} (h : machine.ReachableIf (fun p l => p.destroyedConnected l = true) p)
    {c : Nat} {s : StartupClient} (hc : p.clients c = some s) (hd : s.destructor.unregistered = true) :
    s.closing = .idle ∧ p.step (.client c .crash) = none := by
  have hclosed : s.Phased ∧ (s.destructor ≠ .alive → s.Closed) := by
    refine ReachableIf.each (P := fun s => s.Phased ∧ (s.destructor ≠ .alive → s.Closed))
      (fun callback => ⟨new_phased callback, by simp [StartupClient.new]⟩)
      (fun q d a t z' t' hok hd ht hs => ⟨step_phased ht.1 hs, step_closed ht.1 (fun ha hat => ?_) (fun ha => ?_) ht.2 hs⟩)
      h c s hc
    · subst ha
      simpa [destroyedConnected, hd, hat] using hok
    · subst ha
      simpa [destroyedConnected, hd] using hok
  have hne : s.destructor ≠ .alive := by
    intro halive
    simp [halive] at hd
  have hend := hclosed.2 hne
  exact ⟨hend.closing, by simp [step, hc, StartupClient.step, hend.registered hd]⟩

theorem destroyed_not_called_ended :
    ∃ p, machine.ReachableIf (fun p l => p.destroyedConnected l = true) p ∧ p.step (.client 0 .crash) = none := by
  have hstart : machine.ReachableIf (fun p l => p.destroyedConnected l = true) start := .init rfl
  have hp := hstart.execIf
    (connects 0 ++ List.replicate 4 (.client 0 .destroy) ++ [.client 0 .quit] ++ goesOn 0 [true]) rfl
  exact ⟨_, hp, (destroyed_not_called hp
    (s := ⟨.ended, false, false, false, false, true, true, .idle, .join⟩) rfl rfl).2⟩

/-- One that is destroyed before its thread has set `m_connected` is called. -/
example : ∃ p, machine.Reachable p ∧ (∃ s, p.clients 0 = some s ∧ s.destructor = .join ∧ s.pc = .ended) ∧
    (p.step (.client 0 .crash)).isSome = true :=
  ⟨_, Machine.reachable_of_exec (M := machine) rfl
    (.construct 0 true :: goesOn 0 [true, true] ++ List.replicate 3 (.client 0 .destroy) ++ [.client 0 .quit] ++
      goesOn 0 [true]) rfl, ⟨_, rfl, rfl, rfl⟩, rfl⟩

/-- And one whose destructor reads `m_connected` along with the disconnect callback: its thread, told of the crash, is
registered with the next engine after the destructor has unregistered it. -/
example : ∃ p, machine.Reachable p ∧ (∃ s, p.clients 0 = some s ∧ s.destructor = .join) ∧
    (p.step (.client 0 .crash)).isSome = true :=
  ⟨_, Machine.reachable_of_exec (M := machine) rfl
    (connects 0 ++ [.client 0 .crash, .client 0 .closing, .client 0 .destroy, .client 0 .closing, .client 0 .destroy,
      .client 0 .closing, .client 0 .destroy, .client 0 .destroy] ++ goesOn 0 (List.replicate 7 true) ++
      [.client 0 .quit, .client 0 .closing]) rfl, ⟨_, rfl, rfl⟩, rfl⟩

end ClientProcess

end TTS
