import TTS.Abort
import TTS.Cancels

/-!
# Waiting for the pipeline's state

`waitForStatus` asks for the pipeline's state in the predicate of its wait,
but not where `m_flushed` is set; the variable it compares afterwards is then
the one it was declared with. `resetPipeline` calls it until it says true.
-/

namespace TTS

open Transition

/-- What one evaluation of the predicate finds, and whether the time is up after it. -/
structure Look where
  flushed : Bool
  state : GstState
  expired : Bool
  deriving DecidableEq, Repr

/-- `GstState state` without an initializer is read. -/
inductive Undefined
  | state
  deriving DecidableEq, Repr

/-- The loop of `waitForStatus`, to the value of `state` after it; `none` while it waits. -/
def waitLoop (expected : GstState) : Option GstState → List Look → Option (Option GstState)
  | _, [] => none
  | state, l :: ls =>
    if l.flushed then some state
    else if l.state = expected ∨ l.expired = true then some (some l.state)
    else waitLoop expected (some l.state) ls

def waitForStatus (pipeline : Bool) (expected : GstState) (looks : List Look) : Option (Except Undefined Bool) :=
  if pipeline then
    (waitLoop expected none looks).map fun
      | none => .error .state
      | some state => .ok (state == expected)
  else some (.ok true)

/-! ## One call -/

theorem waitLoop_assigned (expected : GstState) {state : GstState} (looks : List Look) :
    waitLoop expected (some state) looks ≠ some none := by
  induction looks generalizing state with
  | nil => simp [waitLoop]
  | cons l ls ih =>
    simp only [waitLoop]
    split
    · simp
    · split
      · simp
      · exact ih

/-- **The state is read uninitialized** just where `m_flushed` is set at the first look. -/
theorem waitForStatus_undefined_iff (expected : GstState) (looks : List Look) :
    waitForStatus true expected looks = some (.error .state) ↔ ∃ l ls, looks = l :: ls ∧ l.flushed = true := by
  have hmap : waitForStatus true expected looks = some (.error .state) ↔ waitLoop expected none looks = some none := by
    simp only [waitForStatus, if_true]
    cases waitLoop expected none looks with
    | none => simp
    | some state => cases state <;> simp
  rw [hmap]
  cases looks with
  | nil => simp [waitLoop]
  | cons l ls =>
    cases hf : l.flushed with
    | true => simp [waitLoop, hf]
    | false =>
      have hloop : waitLoop expected none (l :: ls) ≠ some none := by
        simp only [waitLoop, hf]
        split
        · contradiction
        · split
          · simp
          · exact waitLoop_assigned expected ls
      simp [hloop, hf]

theorem waitLoop_eq_some {expected : GstState} {state : Option GstState} {looks : List Look} {g : GstState}
    (h : waitLoop expected state looks = some (some g)) :
    state = some g ∨ ∃ l ∈ looks, l.flushed = false ∧ l.state = g := by
  induction looks generalizing state with
  | nil => cases h
  | cons l ls ih =>
    cases hf : l.flushed with
    | true =>
      simp only [waitLoop, hf, if_true, Option.some.injEq] at h
      exact .inl h
    | false =>
      right
      simp only [waitLoop, hf] at h
      split at h
      · contradiction
      · split at h
        · exact ⟨l, List.mem_cons_self, hf, by simpa using h⟩
        · rcases ih h with he | ⟨m, hm, hflushed, hg⟩
          · exact ⟨l, List.mem_cons_self, hf, by simpa using he⟩
          · exact ⟨m, List.mem_cons_of_mem l hm, hflushed, hg⟩

/-- Where it says true, the pipeline was in the expected state at some look. -/
theorem waitForStatus_true {expected : GstState} {looks : List Look}
    (h : waitForStatus true expected looks = some (.ok true)) : ∃ l ∈ looks, l.flushed = false ∧ l.state = expected := by
  simp only [waitForStatus, if_true, Option.map_eq_some_iff] at h
  obtain ⟨state, hloop, hstate⟩ := h
  cases state with
  | none => cases hstate
  | some g =>
    obtain rfl : g = expected := by simpa using hstate
    rcases waitLoop_eq_some hloop with he | hl
    · cases he
    · exact hl

/-! ## The wait of resetPipeline -/

namespace SpeakerSystem

/-- The first look is taken in the state `st`. -/
def LooksFrom (st : SpeakerSystem) (looks : List Look) : Prop := ∀ l ∈ looks.head?, l.flushed = st.speaker.flushed

theorem waitForStatus_of_looksFrom {st : SpeakerSystem} {looks : List Look} (h : st.LooksFrom looks) (hne : looks ≠ []) :
    waitForStatus true .null looks = some (.error .state) ↔ st.speaker.flushed = true := by
  rw [waitForStatus_undefined_iff]
  cases looks with
  | nil => exact absurd rfl hne
  | cons l ls => simp [← h l rfl]

theorem reachable_flagTells {r : Recorded SpeakerSystem CancelEvent} (h : (atomic.recorded cancelEvents).Reachable r) :
    r.state.Whole ∧ r.state.FlagTells r.history := by
  induction h with
  | init hi =>
    obtain ⟨⟨maxFailures, hst⟩, hh⟩ := hi
    rw [hst, hh]
    exact ⟨fun _ => rfl, ⟨rfl, by simp [new, TTSSpeaker.new]⟩, by simp [KnowsAnnounced], trivial, each_nil⟩
  | step hr _ hs ih =>
    have hatomic : atomic.Reachable _ := Machine.ReachableIf.forget hr
    exact step_flagTells ih.1 ih.2 (atomic_reachable hatomic) hs

/-- The thread makes no step. -/
def Stays : Label → Prop
  | .thread _ => False
  | _ => True

theorem step_stays {st st' : SpeakerSystem} {a : Label} (ha : Stays a) (hf : st.speaker.flushed = true)
    (hs : machine.step st a = some st') : st'.pc = st.pc ∧ st'.speaker.flushed = true := by
  cases step_ran hs with
  | popEmpty | thread => exact ha.elim
  | call | nullSpeech | post => exact ⟨rfl, hf⟩
  | caller _ run => exact ⟨rfl, (CallPc.run_moves run).keepsSpeaking.flushed hf⟩
  | deliver _ handled =>
    obtain ⟨⟨_, _, _, _, rfl⟩, -⟩ := handleMessage_frame handled
    exact ⟨rfl, hf⟩

/-- **A late cancellation keeps the thread.** Once `m_flushed` is set in the wait of `resetPipeline`, nothing that
callers or messages do clears it: every further call of `waitForStatus` reads its state uninitialized. -/
theorem resetWait_undefined {st : SpeakerSystem} (hf : st.speaker.flushed = true) {as : List Label}
    (has : ∀ a ∈ as, Stays a) {st' : SpeakerSystem} (hs : machine.exec st as = some st') {looks : List Look}
    (hl : st'.LooksFrom looks) (hne : looks ≠ []) :
    st'.pc = st.pc ∧ waitForStatus true .null looks = some (.error .state) := by
  suffices st'.pc = st.pc ∧ st'.speaker.flushed = true from
    ⟨this.1, (waitForStatus_of_looksFrom hl hne).mpr this.2⟩
  induction as generalizing st with
  | nil =>
    cases hs
    exact ⟨rfl, hf⟩
  | cons a as ih =>
    rw [Machine.exec, Option.bind_eq_some_iff] at hs
    obtain ⟨u, hu, hut⟩ := hs
    obtain ⟨hpc, hflushed⟩ := step_stays (has a List.mem_cons_self) hf hu
    obtain ⟨hpc', hflushed'⟩ := ih hflushed (fun b hb => has b (List.mem_cons_of_mem a hb)) hut
    exact ⟨hpc'.trans hpc, hflushed'⟩

/-- `shut` has seen `m_isSpeaking` and sets `m_flushed` when the speech is over. -/
theorem resetWait_undefined_shut :
    ∃ st : SpeakerSystem, machine.Reachable st ∧ st.pc = .resetWait .afterSpeech ∧
      ∀ as st' looks, (∀ a ∈ as, Stays a) → machine.exec st as = some st' → st'.LooksFrom looks → looks ≠ [] →
        st'.pc = .resetWait .afterSpeech ∧ waitForStatus true .null looks = some (.error .state) := by
  have hst := reachable_of_run 1
    (toTheAudio ++ [.call 0 (.session 7 .shut), .caller 0, .caller 0] ++ List.replicate 11 (.thread true) ++ [.caller 0]) rfl
  exact ⟨_, hst, rfl, fun as st' looks has hs hl hne => resetWait_undefined rfl has hs hl hne⟩

end SpeakerSystem

end TTS
