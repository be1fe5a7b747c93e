import TTS.History
import TTS.Stages

/-!
# Waiting for the audio

`SpeakerThread` leaves the end of `waitForAudioToFinishTimeout` to a choice.
Here the loop has its clock: it waits up to a deadline, and when that passes it
renews it while the speech is paused, while the duration is not reached, or
while the position moves on. The thread can leave the loop at its head too,
where nobody looks at the flags.
-/

namespace TTS

open Transition

/-- The locals of `waitForAudioToFinishTimeout`, in nanoseconds; `waiting` inside
the loop, past its test. -/
structure AudioWait where
  timeout : Nat
  startTime : Nat
  lastPosition : Int
  waiting : Bool
  deriving DecidableEq, Repr

/-- The speaker, `system_clock` and `m_duration`. -/
structure TimedSystem where
  system : SpeakerSystem
  now : Nat
  duration : Int
  wait : AudioWait

namespace TimedSystem

inductive Label
  /-- The clock may be set back as well. -/
  | clock (now : Nat)
  | durationChanged (duration : Int)
  /-- A step of the loop; `position` is what `gst_element_query_position` answers. -/
  | audio (position : Int)
  | system (a : SpeakerSystem.Label)
  deriving DecidableEq, Repr

/-- `waitForAudioToFinishTimeout(10)` -/
def timeoutSpan : Nat := 10 * 1000000000

def clockTimeNone : Int := -1

/-- What the loop does once its wait has timed out. -/
def renew (st : TimedSystem) (position : Int) : TimedSystem :=
  let renewed := { st.wait with timeout := st.now + timeoutSpan, waiting := false }
  if st.system.speaker.isPaused then { st with wait := renewed }
  else if st.duration > 0 ∧ st.duration ≠ clockTimeNone ∧ (st.now : Int) < st.wait.startTime + st.duration then
    { st with wait := renewed }
  else if position > 0 ∧ position ≠ clockTimeNone ∧ position > st.wait.lastPosition then
    { st with duration := 0, wait := { renewed with lastPosition := position } }
  else { st with duration := 0, wait := { st.wait with waiting := false } }

def leave (st : TimedSystem) (d : SpeechData) : TimedSystem := { st with system := { st.system with pc := .audioStop d } }

def audioStep (st : TimedSystem) (d : SpeechData) (position : Int) : Option TimedSystem :=
  if st.wait.waiting then
    -- `wait_until` and what follows it, under `m_queueMutex`
    if st.system.queueMutex.isSome then none
    else if ThreadPc.audioOver st.system.speaker then some (st.leave d)
    else if st.now < st.wait.timeout then none
    else some (st.renew position)
  else if st.now < st.wait.timeout then some { st with wait := { st.wait with waiting := true } }
  else some (st.leave d)

/-- What a step of the thread does to the clock's variables: `speakText` clears
`m_duration` and the loop starts with the pipeline set to PLAYING. -/
def enterStep (st : TimedSystem) (system : SpeakerSystem) : TimedSystem :=
  match st.system.pc with
  | .speakEnter _ => { st with system := system, duration := 0 }
  | .speakPlay _ => { st with system := system, wait := ⟨st.now + timeoutSpan, st.now, 0, false⟩ }
  | _ => { st with system := system }

def step (st : TimedSystem) : Label → Option TimedSystem
  | .clock now => some { st with now := now }
  | .durationChanged duration => if st.system.speaker.pipeline then some { st with duration := duration } else none
  | .audio position =>
    if st.system.fault.isSome then none
    else
      match st.system.pc with
      | .waitAudio d => st.audioStep d position
      | _ => none
  | .system (.thread choice) =>
    match st.system.pc with
    | .waitAudio _ => none
    | _ => (SpeakerSystem.machine.step st.system (.thread choice)).map st.enterStep
  | .system a => (SpeakerSystem.machine.step st.system a).map fun system => { st with system := system }

def start (maxFailures now : Nat) : TimedSystem := ⟨.new maxFailures, now, 0, ⟨0, 0, 0, false⟩⟩

def machine : Machine TimedSystem Label where
  init st := ∃ maxFailures now, st = start maxFailures now
  step := step

theorem step_system {st st' : TimedSystem} {a : Label} (h : machine.step st a = some st') :
    (∃ b, a = .system b ∧ SpeakerSystem.machine.step st.system b = some st'.system ∧
        ∀ choice d, b = .thread choice → st.system.pc ≠ .waitAudio d) ∨
      (st'.system = st.system ∧ ∀ b, a ≠ .system b) ∨
        ∃ position d, a = .audio position ∧ st.system.pc = .waitAudio d ∧ st' = st.leave d ∧
          (ThreadPc.audioOver st.system.speaker = true ∨ st.wait.waiting = false ∧ st.wait.timeout ≤ st.now) := by
  cases a with
  | clock now =>
    obtain rfl := Option.some.inj h
    exact .inr (.inl ⟨rfl, fun _ e => nomatch e⟩)
  | durationChanged duration =>
    obtain ⟨-, h⟩ := Option.ite_none_right_eq_some.mp h
    obtain rfl := Option.some.inj h
    exact .inr (.inl ⟨rfl, fun _ e => nomatch e⟩)
  | system a =>
    cases a with
    | thread choice =>
      cases hpc : st.system.pc with
      | waitAudio d => simp [machine, step, hpc] at h
      | _ =>
        simp only [machine, step, hpc, Option.map_eq_some_iff] at h
        obtain ⟨system, hs, rfl⟩ := h
        refine .inl ⟨_, rfl, ?_, fun _ _ _ e => by cases e⟩
        rw [show (st.enterStep system).system = system by unfold enterStep; split <;> rfl]
        exact hs
    | _ =>
      obtain ⟨system, hs, rfl⟩ := Option.map_eq_some_iff.mp h
      exact .inl ⟨_, rfl, hs, fun _ _ e => nomatch e⟩
  | audio position =>
    obtain ⟨-, h⟩ := Option.ite_none_left_eq_some.mp h
    cases hpc : st.system.pc with
    | waitAudio d =>
      simp only [hpc] at h
      unfold audioStep at h
      split at h
      · obtain ⟨-, h⟩ := Option.ite_none_left_eq_some.mp h
        split at h
        · rename_i hover
          obtain rfl := Option.some.inj h
          exact .inr (.inr ⟨position, d, rfl, rfl, rfl, .inl hover⟩)
        · obtain ⟨-, h⟩ := Option.ite_none_left_eq_some.mp h
          obtain rfl := Option.some.inj h
          refine .inr (.inl ⟨?_, fun _ e => nomatch e⟩)
          unfold renew
          split
          · rfl
          · split
            · rfl
            · split <;> rfl
      · rename_i hwait
        split at h
        · obtain rfl := Option.some.inj h
          exact .inr (.inl ⟨rfl, fun _ e => nomatch e⟩)
        · rename_i hlate
          obtain rfl := Option.some.inj h
          exact .inr (.inr ⟨position, d, rfl, rfl, rfl, .inr ⟨by simpa using hwait, by omega⟩⟩)
    | _ => simp [hpc] at h

end TimedSystem

end TTS
