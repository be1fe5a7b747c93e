import TTS.StartupRuns

/-!
# What the application hears of its connection

`onTTSServerConnected` comes from the startup thread, `onTTSServerClosed` from
the disconnect callback. As long as no engine goes while a connection is being
made, an application hears the two in turns, and the last one it has heard says
whether it is connected, but for the moments between each call and its flag.
-/

namespace TTS

open Transition

inductive ConnectionCall
  | onTTSServerConnected
  | onTTSServerClosed
  deriving DecidableEq, Repr

/-- Calls in turns; the flag is whether the last one was of a connection. -/
inductive InTurns : Bool → List ConnectionCall → Prop
  | nil : InTurns false []
  | connected {calls} (h : InTurns false calls) : InTurns true (calls ++ [.onTTSServerConnected])
  | closed {calls} (h : InTurns true calls) : InTurns false (calls ++ [.onTTSServerClosed])

/-- `onTTSServerClosed` was called, and `m_connected` is still to be cleared. -/
@[simp] def ClosingPc.told : ClosingPc → Bool
  | .read | .clear _ => true
  | _ => false

namespace StartupClient

def calls (s : StartupClient) : Action → List ConnectionCall
  | .thread _ => if s.pc = .announce ∧ s.callback = true then [.onTTSServerConnected] else []
  | .crash => if s.callback then [.onTTSServerClosed] else []
  | _ => []

/-- The connection was announced and stands, and nothing else was told since. -/
def announced (s : StartupClient) : Bool := s.connected && s.pc != .announce && !s.closing.told

/-- The calls so far, by what the client is. -/
structure Heard (s : StartupClient) (calls : List ConnectionCall) : Prop where
  phased : s.Phased
  announcing : s.destructor = .alive → s.pc = .announce → s.connected = true
  told : s.destructor = .alive → s.closing.told = true → s.connected = true ∧ s.pc ≠ .announce
  inTurns : s.destructor = .alive → s.callback = true → InTurns s.announced calls

variable {z z' : StartupStatics} {c : Nat} {s s' : StartupClient} {calls : List ConnectionCall}

theorem Phased.not_announced (h : s.Phased) (hpc : s.pc.past = false) : s.announced = false := by
  simp [announced, (h.out hpc).1]

theorem Heard.untold (h : s.Heard calls) (hpc : s.pc ≠ .monitor) (hpc' : s.pc ≠ .ended) :
    s.destructor = .alive → s.closing.told = false := by
  intro hlive
  apply Bool.eq_false_iff.mpr
  intro htold
  obtain ⟨hconnected, hannounce⟩ := h.told hlive htold
  have hpast := (h.phased.connected hconnected).1
  cases hp : s.pc <;> simp [hp] at hpast hannounce hpc hpc'

theorem moves_frame {answer : Bool} (hm : Moves z c s answer z' s') :
    s'.callback = s.callback ∧ s'.destructor = s.destructor ∧ s'.closing = s.closing := by
  cases hm <;> exact ⟨rfl, rfl, rfl⟩

/-- The thread makes a call only where it announces a connection. -/
theorem moves_heard {answer : Bool} (h : s.Heard calls) (hm : Moves z c s answer z' s') :
    s'.Heard (calls ++ s.calls (.thread answer)) := by
  have hphased := moves_phased h.phased hm
  obtain ⟨hcallback, hdestructor, hclosing⟩ := moves_frame hm
  have hquiet : s.pc ≠ .announce → s.calls (.thread answer) = [] := fun hpc => if_neg fun hc => hpc hc.1
  have hsame : s.pc ≠ .announce → s'.announced = s.announced →
      s'.destructor = .alive → s'.callback = true → InTurns s'.announced (calls ++ s.calls (.thread answer)) := by
    intro hpc ha hlive hcall
    rw [hquiet hpc, List.append_nil, ha]
    exact h.inTurns (hdestructor ▸ hlive) (hcallback ▸ hcall)
  have huntold : s.pc ≠ .monitor → s.pc ≠ .ended →
      s'.destructor = .alive → s'.closing.told = true → s'.connected = true ∧ s'.pc ≠ .announce := by
    intro hpc hpc' hlive htold
    have hnot := h.untold hpc hpc' (hdestructor ▸ hlive)
    rw [hclosing, hnot] at htold
    cases htold
  cases hm with
  | announce hpc =>
    refine ⟨hphased, by simp, huntold (by simp [hpc]) (by simp [hpc]), fun hlive hcall => ?_⟩
    have hin : InTurns s.announced calls := h.inTurns hlive hcall
    have hnot : s.announced = false := by simp [announced, hpc]
    have hcalls : s.calls (.thread answer) = [.onTTSServerConnected] := if_pos ⟨hpc, hcall⟩
    rw [hnot] at hin
    have hnow : ({ s with pc := .monitor } : StartupClient).announced = true := by
      simp only [announced, h.announcing hlive hpc, h.untold (by simp [hpc]) (by simp [hpc]) hlive]
      rfl
    rw [hcalls, hnow]
    exact hin.connected
  | connect hpc =>
    have hnot : s.announced = false := h.phased.not_announced (by simp [hpc])
    refine ⟨hphased, fun _ _ => rfl, huntold (by simp [hpc]) (by simp [hpc]), hsame (by simp [hpc]) ?_⟩
    rw [hnot]
    simp [announced]
  | crashed hpc hcrash =>
    have hout := (h.phased.out_of_crashed hcrash).1
    refine ⟨hphased, by simp, fun hlive htold => ?_, hsame (by simp [hpc]) (by simp [announced, hout])⟩
    simp [(h.told hlive htold).1] at hout
  | quit hpc =>
    exact ⟨hphased, by simp, fun hlive htold => ⟨(h.told hlive htold).1, by simp⟩,
      hsame (by simp [hpc]) (by simp only [announced, hpc]; rfl)⟩
  | create hpc | createNone hpc | created hpc | again hpc | leave hpc | lock hpc | located hpc | find hpc | found hpc
  | notFound hpc | relock hpc | wait hpc | done hpc | sleep hpc | stopped hpc | giveUp hpc | resume hpc =>
    have hout := (h.phased.out (by simp [hpc])).1
    exact ⟨hphased, by simp, huntold (by simp [hpc]) (by simp [hpc]), hsame (by simp [hpc]) (by simp [announced, hout])⟩

theorem closes_heard (h : s.Heard calls) (hc : Closes s s') : s'.Heard calls := by
  have hphased := closes_phased h.phased hc
  cases hc with
  | read hread =>
    have htold : s.closing.told = true := by simp [hread]
    refine ⟨hphased, h.announcing, fun hlive _ => h.told hlive htold, fun hlive hcall => ?_⟩
    have hin : InTurns s.announced calls := h.inTurns hlive hcall
    simpa [announced, hread] using hin
  | @clear tconnected hclear =>
    have htold : s.closing.told = true := by simp [hclear]
    refine ⟨hphased, fun hlive hpc => absurd hpc (h.told hlive htold).2, fun _ hnow => ?_, fun hlive hcall => ?_⟩
    · cases tconnected <;> simp at hnow
    · have hin : InTurns s.announced calls := h.inTurns hlive hcall
      simpa [announced, hclear] using hin
  | tell htell | drop htell =>
    refine ⟨hphased, h.announcing, by simp, fun hlive hcall => ?_⟩
    have hin : InTurns s.announced calls := h.inTurns hlive hcall
    simpa [announced, htell] using hin

/-- The engine goes only while the connection stands and was announced. -/
theorem step_heard {a : Action} (h : s.Heard calls) (hok : a = .crash → s.announced = true)
    (hs : s.step z c a = some (z', s')) : s'.Heard (calls ++ s.calls a) := by
  have hphased := step_phased h.phased hs
  cases step_acts hs with
  | thread hm => exact moves_heard h hm
  | crash hregistered hidle =>
    have hnow := hok rfl
    have hstands : s.connected = true ∧ s.pc ≠ .announce := by
      simp only [announced, Bool.and_eq_true, bne_iff_ne] at hnow
      exact hnow.1
    cases hcall : s.callback with
    | true =>
      simp only [hcall, if_true] at hphased ⊢
      refine ⟨hphased, fun _ hpc => absurd hpc hstands.2, fun _ _ => hstands, fun hlive _ => ?_⟩
      have hin : InTurns s.announced calls := h.inTurns hlive hcall
      rw [hnow] at hin
      simpa [StartupClient.calls, hcall, announced] using hin.closed
    | false => exact ⟨by simpa [hcall] using hphased, h.announcing, by simp, by simp⟩
  | closing hc =>
    rw [show s.calls .closing = [] from rfl, List.append_nil]
    exact closes_heard h hc
  | destroy hd =>
    have hne := destroys_destructor hd
    exact ⟨hphased, fun hlive => absurd hlive hne, fun hlive => absurd hlive hne, fun hlive => absurd hlive hne⟩
  | quit => exact ⟨hphased, (fun hlive => nomatch hlive), (fun hlive => nomatch hlive), fun hlive => nomatch hlive⟩

end StartupClient

namespace ClientProcess

open StartupClient

def calls (p : ClientProcess) : Label → List (Nat × ConnectionCall)
  | .construct _ _ => []
  | .client c a => (p.clients c).elim [] fun s => (s.calls a).map fun call => (c, call)

/-- What client `c` was called with. -/
def callsOf (c : Nat) (history : List (Nat × ConnectionCall)) : List ConnectionCall :=
  history.filterMap fun call => if call.1 = c then some call.2 else none

theorem callsOf_append (c : Nat) (h h' : List (Nat × ConnectionCall)) : callsOf c (h ++ h') = callsOf c h ++ callsOf c h' :=
  List.filterMap_append

theorem callsOf_self (c : Nat) (l : List ConnectionCall) : callsOf c (l.map fun call => (c, call)) = l := by
  simp [callsOf, List.filterMap_map]

theorem callsOf_other {c d : Nat} (h : d ≠ c) (l : List ConnectionCall) : callsOf c (l.map fun call => (d, call)) = [] := by
  simp [callsOf, List.filterMap_map, h]

/-- No engine goes between the lookup of its object and the call that announces it. -/
def prompt (p : ClientProcess) : Label → Bool
  | .client c .crash => (p.clients c).all fun s => s.announced
  | _ => true

structure AllHeard (r : Recorded ClientProcess (Nat × ConnectionCall)) : Prop where
  none : ∀ c, r.state.clients c = none → callsOf c r.history = []
  some : ∀ c s, r.state.clients c = some s → s.Heard (callsOf c r.history)

theorem step_allHeard {r r' : Recorded ClientProcess (Nat × ConnectionCall)} {l : Label} (h : AllHeard r)
    (hok : r.state.prompt l = true) (hs : (machine.recorded calls).step r l = some r') : AllHeard r' := by
  obtain ⟨hstep, hhist⟩ := Machine.recorded_step hs
  obtain ⟨p', history'⟩ := r'
  simp only at hstep hhist
  subst hhist
  rcases step_cases hstep with ⟨d, callback, rfl, hd, rfl⟩ | ⟨d, a, t, z', t', rfl, hd, hst, rfl⟩
  · have hsame : r.history ++ calls r.state (.construct d callback) = r.history := List.append_nil _
    rw [hsame]
    refine ⟨fun c hc => ?_, fun c s hc => ?_⟩
    · refine h.none c ?_
      by_cases hcd : c = d
      · exact hcd ▸ hd
      · simpa [setClient, hcd] using hc
    · rcases setClient_eq_some hc with ⟨rfl, rfl⟩ | ⟨-, hc⟩
      · rw [h.none c hd]
        refine ⟨new_phased callback, fun _ hpc => ?_, fun _ htold => ?_, fun _ _ => .nil⟩
        · cases hpc
        · cases htold
      · exact h.some c s hc
  · have hcalls : calls r.state (.client d a) = (t.calls a).map fun call => (d, call) := by simp [calls, hd]
    rw [hcalls]
    refine ⟨fun c hc => ?_, fun c s hc => ?_⟩
    · have hcd : d ≠ c := by
        rintro rfl
        simp at hc
      rw [callsOf_append, callsOf_other hcd, List.append_nil]
      exact h.none c (by simpa [setClient, Ne.symm hcd] using hc)
    · rcases setClient_eq_some hc with ⟨rfl, rfl⟩ | ⟨hcd, hc⟩
      · rw [callsOf_append, callsOf_self]
        refine step_heard (h.some c t hd) (fun ha => ?_) hst
        subst ha
        simpa [prompt, hd] using hok
      · rw [callsOf_append, callsOf_other (Ne.symm hcd), List.append_nil]
        exact h.some c s hc

/-- **Connected and closed in turns.** As long as no engine goes while a connection is being made, a client with a
callback hears of connections made and closed in turns, and the last it has heard is what it is, but where the call
comes before `m_connected` is cleared, or after it is set. -/
theorem calls_in_turns {r : Recorded ClientProcess (Nat × ConnectionCall)}
    (h : (machine.recorded calls).ReachableIf (fun r l => r.state.prompt l = true) r) {c : Nat} {s : StartupClient}
    (hc : r.state.clients c = some s) (hcallback : s.callback = true) (hlive : s.destructor = .alive) :
    InTurns (s.connected && s.pc != .announce && !s.closing.told) (callsOf c r.history) := by
  have hall : AllHeard r := by
    refine h.invariant (I := AllHeard) ?_ fun _ _ _ hI hok hs => step_allHeard hI hok hs
    rintro ⟨p, history⟩ ⟨hp, rfl⟩
    obtain rfl : p = start := hp
    exact ⟨fun _ _ => rfl, fun c s hc => by cases hc⟩
  exact (hall.some c s hc).inTurns hlive hcallback

/-- The engine goes while two clients are connected, and one of them has found it again. -/
theorem calls_in_turns_again :
    ∃ r : Recorded ClientProcess (Nat × ConnectionCall),
      (machine.recorded calls).ReachableIf (fun r l => r.state.prompt l = true) r ∧
      callsOf 1 r.history = [.onTTSServerConnected, .onTTSServerClosed, .onTTSServerConnected] ∧
      InTurns true (callsOf 1 r.history) := by
  have hstart : (machine.recorded calls).ReachableIf (fun r l => r.state.prompt l = true) ⟨start, []⟩ := .init ⟨rfl, rfl⟩
  have hr := hstart.execIf
    (connects 0 ++ connects 1 ++ loses 1 ++ [.client 0 .crash] ++ goesOn 1 (List.replicate 10 true)) rfl
  exact ⟨_, hr, rfl, calls_in_turns hr (c := 1) (s := ⟨.monitor, true, true, true, false, false, true, .idle, .alive⟩)
    rfl rfl rfl⟩

/-- An engine that goes before the connection is announced is heard of first. -/
example : ∃ r : Recorded ClientProcess (Nat × ConnectionCall), (machine.recorded calls).Reachable r ∧
    callsOf 0 r.history = [.onTTSServerClosed, .onTTSServerConnected] := by
  have hr := Machine.reachable_of_exec (M := machine.recorded calls) (s := ⟨start, []⟩) ⟨rfl, rfl⟩
    (.construct 0 true :: goesOn 0 (List.replicate 5 true) ++ [.client 0 .crash] ++ goesOn 0 [true, true]) rfl
  exact ⟨_, hr, rfl⟩

end ClientProcess

end TTS
