import TTS.Cancels

/-!
# The speaker thread left to itself

While no call is made and no message arrives the thread goes through its loop
a bounded number of times: each time round it takes a speech from the queue,
builds or destroys the pipeline, or fails to build it, and an attempt is made
without a speech only while there are some left.
-/

namespace TTS

open Transition

/-- What the thread's tests read, apart from the flags of the speech it is at. -/
structure Shape where
  waiting : Nat
  pipeline : Bool
  error : Bool
  ensure : Bool
  run : Bool
  failures : Nat
  limit : Nat

def TTSSpeaker.shape (s : TTSSpeaker) : Shape :=
  ⟨s.queue.length, s.pipeline, s.pipelineError, s.ensurePipeline, s.runThread, s.pipelineConstructionFailures,
    s.maxPipelineConstructionFailures⟩

namespace Shape

def may (h : Shape) : Bool := decide (h.failures < h.limit) || h.waiting != 0

def differs (h : Shape) : Bool := (h.ensure && !h.pipeline) || (h.pipeline && !h.ensure)

def needs (h : Shape) : Bool := h.may && h.differs

/-- How often the pipeline can still be built or destroyed, errors taken into account. -/
def turns (error pipeline ensure : Bool) : Nat :=
  if error then if pipeline = ensure then 3 else 4 else if pipeline = ensure then 0 else 1

def changes (h : Shape) : ThreadPc → Nat
  | .updateDestroy => 1 + turns h.error false h.ensure
  | .updateEnsure => if h.ensure then turns h.error h.pipeline h.ensure else 1 + turns h.error false h.ensure
  | .resetDestroy _ => 2 + turns false false h.ensure
  | .resetClear _ => if h.error then 1 + turns false h.pipeline h.ensure else turns false h.pipeline h.ensure
  | _ => turns h.error h.pipeline h.ensure

/-- Attempts to build the pipeline that may fail before the next speech is taken. -/
def tries (h : Shape) : ThreadPc → Nat
  | .updateDiffers | .updateEnsure | .create .afterUpdate =>
    if h.waiting = 0 then 1 + (h.limit - (h.failures + 1) % 256) else h.limit + 1
  | .loopTop | .updateMay | .updateDestroy | .failedTest | .failedDequeue | .waitRun | .waitEmpty | .waitMay | .waitDiffers
  | .waitPredicate | .stopTest | .stopping | .againMay | .againDiffers | .dequeue | .exitDestroy | .stopped =>
    if h.waiting = 0 then h.limit - h.failures else h.limit + 1
  | _ => h.limit + 2

/-- The steps to the next of these, at most. -/
def rank (h : Shape) : ThreadPc → Nat
  | .loopTop => if h.needs then 7 else 27
  | .updateMay => if h.needs then 6 else 26
  | .updateDiffers => if h.differs then 5 else 25
  | .updateEnsure => if h.ensure && h.pipeline then 32 else 4
  | .updateDestroy => 1
  | .create .afterUpdate => if h.ensure && !h.pipeline then 3 else 31
  | .create .afterSpeech => 42
  | .resetTest _ => 45
  | .resetDestroy _ => 44
  | .resetClear _ => 43
  | .resetWait _ => 42
  | .failedTest => if !h.pipeline && h.waiting != 0 then 2 else 30
  | .failedDequeue => 1
  | .failedReport _ => 46
  | .waitRun => if h.needs || !h.run || h.waiting != 0 then 15 else 20
  | .waitEmpty => if h.needs || h.waiting != 0 then 14 else 19
  | .waitMay => if h.needs then 13 else 18
  | .waitDiffers => if h.needs then 12 else 17
  | .waitPredicate => 16
  | .stopTest => 11
  | .stopping => 1
  | .againMay => 10
  | .againDiffers => if h.differs && !h.may then 28 else 9
  | .dequeue => 8
  | .setSpeaking _ => 60
  | .willSpeak _ => 59
  | .speakTest _ => 58
  | .speakEnter _ => 57
  | .speakGuard _ => 56
  | .speakPlay _ => 55
  | .waitAudio _ => 54
  | .audioStop _ => 53
  | .audioEnd _ => 52
  | .speakLeave _ => 51
  | .choose _ => 50
  | .chooseNetwork _ => 49
  | .choosePlayback _ => 48
  | .report _ _ => 47
  | .clearSpeaking => 46
  | .exitDestroy => 1
  | .stopped => 0

/-- The steps that the thread has left, at most. -/
def left (h : Shape) : ThreadPc → Nat
  | .stopped => 0
  | pc => (h.waiting + h.changes pc) * 26000 + h.tries pc * 100 + h.rank pc

end Shape

theorem mayConstruct_eq (s : TTSSpeaker) : s.mayConstruct = s.shape.may := by
  cases hq : s.queue <;> simp [TTSSpeaker.mayConstruct, TTSSpeaker.shape, Shape.may, hq]

theorem pipelineDiffers_eq (s : TTSSpeaker) : s.pipelineDiffers = s.shape.differs := rfl

theorem isEmpty_eq (s : TTSSpeaker) : s.queue.isEmpty = (s.shape.waiting == 0) := by
  cases hq : s.queue <;> simp [TTSSpeaker.shape, hq]

namespace ThreadPc

theorem hasInput_shape (s : TTSSpeaker) : hasInput s = (s.shape.needs || !s.shape.run || s.shape.waiting != 0) := by
  have hrun : s.runThread = s.shape.run := rfl
  simp only [hasInput, TTSSpeaker.needsPipelineUpdate, mayConstruct_eq, pipelineDiffers_eq, isEmpty_eq, Shape.needs, hrun]
  cases s.shape.may && s.shape.differs <;> cases s.shape.run <;> cases s.shape.waiting <;> rfl

theorem left_eq (h : Shape) {pc : ThreadPc} (hne : pc ≠ .stopped) :
    h.left pc = (h.waiting + h.changes pc) * 26000 + h.tries pc * 100 + h.rank pc := by
  cases pc <;> first | rfl | exact absurd rfl hne

theorem left_le (h : Shape) (pc : ThreadPc) :
    h.left pc ≤ (h.waiting + h.changes pc) * 26000 + h.tries pc * 100 + h.rank pc := by
  cases pc <;> first | exact Nat.le_refl _ | exact Nat.zero_le _

theorem rank_lt (h : Shape) (pc : ThreadPc) : h.rank pc < 100 := by
  cases pc with
  | create k => cases k <;> (simp only [Shape.rank]; grind)
  | _ => grind [Shape.rank]

theorem tries_le (h : Shape) (pc : ThreadPc) : h.tries pc ≤ h.limit + 2 := by
  cases pc with
  | create k =>
    cases k <;> simp only [Shape.tries]
    · split <;> omega
    · exact Nat.le_refl _
  | _ =>
    simp only [Shape.tries]
    first
    | exact Nat.le_refl _
    | split <;> omega

theorem left_lt_of_le {h h' : Shape} {pc pc' : ThreadPc} (hne : pc ≠ .stopped)
    (hle : h'.waiting + h'.changes pc' ≤ h.waiting + h.changes pc) (htries : h'.tries pc' ≤ h.tries pc)
    (hrank : h'.rank pc' < h.rank pc) : h'.left pc' < h.left pc := by
  have hleft := left_eq h hne
  have hleft' := left_le h' pc'
  omega

/-- A step that leaves the shape alone lowers the rank. -/
theorem left_lt {h : Shape} {pc pc' : ThreadPc} (hne : pc ≠ .stopped) (hchanges : h.changes pc' ≤ h.changes pc)
    (htries : h.tries pc' ≤ h.tries pc) (hrank : h.rank pc' < h.rank pc) : h.left pc' < h.left pc := by
  exact left_lt_of_le hne (Nat.add_le_add_left hchanges _) htries hrank

/-- One that takes a speech or changes the pipeline pays for all the others. -/
theorem left_lt_of_change {h h' : Shape} {pc pc' : ThreadPc} (hne : pc ≠ .stopped) (hlimit : h'.limit < 256)
    (hless : h'.waiting + h'.changes pc' < h.waiting + h.changes pc) : h'.left pc' < h.left pc := by
  have hleft := left_eq h hne
  have hleft' := left_le h' pc'
  have htries := tries_le h' pc'
  have hrank := rank_lt h' pc'
  omega

theorem left_lt_of_try {h h' : Shape} {pc pc' : ThreadPc} (hne : pc ≠ .stopped)
    (hle : h'.waiting + h'.changes pc' ≤ h.waiting + h.changes pc) (hless : h'.tries pc' < h.tries pc) :
    h'.left pc' < h.left pc := by
  have hleft := left_eq h hne
  have hleft' := left_le h' pc'
  have hrank := rank_lt h' pc'
  omega

/-- The tests of the loop. -/
inductive Tests (h : Shape) : ThreadPc → ThreadPc → Prop
  | goOn (hrun : h.run = true) : Tests h .loopTop .updateMay
  | exit (hrun : h.run = false) : Tests h .loopTop .exitDestroy
  | may (hmay : h.may = true) : Tests h .updateMay .updateDiffers
  | mayNot (hmay : h.may = false) : Tests h .updateMay .waitRun
  | differs (hdiffers : h.differs = true) : Tests h .updateDiffers .updateEnsure
  | same (hdiffers : h.differs = false) : Tests h .updateDiffers .waitRun
  | ensure (hensure : h.ensure = true) : Tests h .updateEnsure (.create .afterUpdate)
  | ensureNot (hensure : h.ensure = false) : Tests h .updateEnsure .updateDestroy
  | failed (hpipeline : h.pipeline = false) (hwaiting : h.waiting ≠ 0) : Tests h .failedTest .failedDequeue
  | ready (hready : h.pipeline = true ∨ h.waiting = 0) : Tests h .failedTest .waitRun
  | waitOn (hrun : h.run = true) : Tests h .waitRun .waitEmpty
  | waitStop (hrun : h.run = false) : Tests h .waitRun .stopTest
  | empty (hwaiting : h.waiting = 0) : Tests h .waitEmpty .waitMay
  | input (hwaiting : h.waiting ≠ 0) : Tests h .waitEmpty .stopTest
  | waitMay (hmay : h.may = true) : Tests h .waitMay .waitDiffers
  | waitMayNot (hmay : h.may = false) : Tests h .waitMay .waitPredicate
  | waitDiffers (hdiffers : h.differs = true) : Tests h .waitDiffers .stopTest
  | waitSame (hdiffers : h.differs = false) : Tests h .waitDiffers .waitPredicate
  | predicate (hinput : (h.needs || !h.run || h.waiting != 0) = true) : Tests h .waitPredicate .waitRun
  | again (hrun : h.run = true) : Tests h .stopTest .againMay
  | stop (hrun : h.run = false) : Tests h .stopTest .stopping
  | againMay (hmay : h.may = true) : Tests h .againMay .againDiffers
  | againMayNot (hmay : h.may = false) : Tests h .againMay .dequeue
  | againDiffers (hdiffers : h.differs = true) : Tests h .againDiffers .loopTop
  | againSame (hdiffers : h.differs = false) : Tests h .againDiffers .dequeue

theorem tests_lower {h : Shape} {pc pc' : ThreadPc} (hlimit : h.limit < 256) (ht : Tests h pc pc') :
    h.left pc' < h.left pc := by
  cases ht with
  | waitStop | input | waitMayNot | waitDiffers | again | stop | againMayNot | againSame | exit | goOn | mayNot
  | ready | waitOn | empty | waitMay | waitSame | predicate | againMay | againDiffers | failed =>
    refine left_lt (by simp) (Nat.le_refl _) (Nat.le_refl _) ?_
    grind [Shape.rank, Shape.needs]
  | may hmay =>
    refine left_lt (by simp) (Nat.le_refl _) ?_ (by grind [Shape.rank, Shape.needs])
    simp only [Shape.tries]
    simp only [Shape.may, Bool.or_eq_true, decide_eq_true_eq, bne_iff_ne] at hmay
    split <;> omega
  | differs hdiffers =>
    refine left_lt (by simp) ?_ (Nat.le_refl _) ?_
    · simp only [Shape.changes]
      grind [Shape.differs, Shape.turns]
    · grind [Shape.rank, Shape.differs]
  | same hdiffers =>
    refine left_lt (by simp) (Nat.le_refl _) ?_ (by grind [Shape.rank, Shape.needs])
    simp only [Shape.tries]
    split <;> omega
  | ensure hensure =>
    refine left_lt (by simp) ?_ (Nat.le_refl _) ?_
    · simp [Shape.changes, hensure]
    · grind [Shape.rank]
  | ensureNot hensure =>
    refine left_lt (by simp) ?_ ?_ ?_
    · simp [Shape.changes, hensure]
    · simp only [Shape.tries]
      split <;> omega
    · grind [Shape.rank]

def isTest : ThreadPc → Bool
  | .loopTop | .updateMay | .updateDiffers | .updateEnsure | .failedTest | .waitRun | .waitEmpty | .waitMay | .waitDiffers
  | .waitPredicate | .stopTest | .againMay | .againDiffers => true
  | _ => false

theorem run_tests {pc : ThreadPc} {choice : Bool} {s : TTSSpeaker} {mv : Move ThreadPc} (hpc : pc.isTest = true)
    (hr : pc.run choice s = some (.ok mv)) : mv.speaker = s ∧ Tests s.shape pc mv.pc := by
  cases pc with
  | loopTop | waitRun | stopTest =>
    cases hr
    refine ⟨rfl, ?_⟩
    cases hrun : s.runThread with
    | true => first | exact .goOn hrun | exact .waitOn hrun | exact .again hrun
    | false => first | exact .exit hrun | exact .waitStop hrun | exact .stop hrun
  | updateMay | waitMay | againMay =>
    cases hr
    refine ⟨rfl, ?_⟩
    cases hmay : s.mayConstruct with
    | true =>
      rw [mayConstruct_eq] at hmay
      first | exact .may hmay | exact .waitMay hmay | exact .againMay hmay
    | false =>
      rw [mayConstruct_eq] at hmay
      first | exact .mayNot hmay | exact .waitMayNot hmay | exact .againMayNot hmay
  | updateDiffers | waitDiffers | againDiffers =>
    cases hr
    refine ⟨rfl, ?_⟩
    cases hdiffers : s.pipelineDiffers with
    | true => first | exact .differs hdiffers | exact .waitDiffers hdiffers | exact .againDiffers hdiffers
    | false => first | exact .same hdiffers | exact .waitSame hdiffers | exact .againSame hdiffers
  | updateEnsure =>
    cases hr
    refine ⟨rfl, ?_⟩
    cases hensure : s.ensurePipeline with
    | true => exact .ensure hensure
    | false => exact .ensureNot hensure
  | failedTest =>
    cases hr
    refine ⟨rfl, ?_⟩
    cases hpipeline : s.pipeline with
    | true => exact .ready (.inl hpipeline)
    | false =>
      cases hq : s.queue with
      | nil => exact .ready (.inr (by simp [TTSSpeaker.shape, hq]))
      | cons d ds => exact .failed hpipeline (by simp [TTSSpeaker.shape, hq])
  | waitEmpty =>
    cases hr
    refine ⟨rfl, ?_⟩
    cases hq : s.queue with
    | nil => exact .empty (by simp [TTSSpeaker.shape, hq])
    | cons d ds => exact .input (by simp [TTSSpeaker.shape, hq])
  | waitPredicate =>
    simp only [run, run.go] at hr
    split at hr
    next hinput =>
      cases hr
      exact ⟨rfl, .predicate (hasInput_shape s ▸ hinput)⟩
    next => cases hr
  | _ => cases hpc

/-- The steps of one speech. -/
theorem speech_lowers {h : Shape} {pc pc' : ThreadPc} (hne : pc ≠ .stopped) (hchanges : h.changes pc' = h.changes pc)
    (htries : h.tries pc = h.limit + 2) (htries' : h.tries pc' = h.limit + 2) (hrank : h.rank pc' < h.rank pc) :
    h.left pc' < h.left pc :=
  left_lt hne hchanges.le (htries.symm ▸ htries'.le) hrank

theorem run_lowers {pc : ThreadPc} {choice : Bool} {s : TTSSpeaker} {mv : Move ThreadPc}
    (hlimit : s.maxPipelineConstructionFailures < 256) (hr : pc.run choice s = some (.ok mv)) :
    mv.speaker.shape.left mv.pc < s.shape.left pc := by
  cases hpc : pc.isTest with
  | true =>
    obtain ⟨hs, ht⟩ := run_tests hpc hr
    rw [hs]
    exact tests_lower hlimit ht
  | false =>
  cases pc with
  | setSpeaking | willSpeak | speakEnter | speakPlay | audioEnd | speakLeave | choosePlayback | report | clearSpeaking =>
    cases hr
    exact speech_lowers (h := s.shape) (by simp) rfl rfl rfl (by simp [Shape.rank])
  | speakTest =>
    cases hr
    change s.shape.left _ < _
    split <;> exact speech_lowers (by simp) rfl rfl rfl (by simp [Shape.rank])
  | speakGuard | choose | chooseNetwork | waitAudio =>
    simp only [run, run.go, run.say] at hr
    split at hr <;> cases hr <;> exact speech_lowers (h := s.shape) (by simp) rfl rfl rfl (by simp [Shape.rank])
  | audioStop d =>
    cases hr
    have hshape : (if s.pipeline = true then s.setState .null else s).shape = s.shape := by
      split <;> rfl
    simp only [hshape]
    exact speech_lowers (by simp) rfl rfl rfl (by simp [Shape.rank])
  | stopping =>
    cases hr
    simp only [Shape.left, Shape.rank]
    omega
  | exitDestroy =>
    cases hr
    simp only [Shape.left, Shape.rank]
    omega
  | updateDestroy =>
    cases hr
    refine left_lt_of_change (by simp) hlimit ?_
    simp [TTSSpeaker.shape, TTSSpeaker.destroyPipeline, Shape.changes]
  | resetTest k =>
    cases hr
    cases herror : s.pipelineError with
    | true =>
      refine left_lt (by simp) ?_ (Nat.le_refl _) (by simp [Shape.rank])
      simp only [Shape.changes, TTSSpeaker.shape, herror]
      grind [Shape.turns]
    | false =>
      refine left_lt (by simp) ?_ (Nat.le_refl _) (by simp [Shape.rank])
      simp [Shape.changes, TTSSpeaker.shape, herror]
  | resetDestroy k =>
    cases hr
    refine left_lt_of_change (by simp) hlimit ?_
    simp only [TTSSpeaker.shape, TTSSpeaker.destroyPipeline, Shape.changes]
    grind
  | resetClear k =>
    -- the errors are cleared, and the pipeline, if there is none, is built anew
    have hchanges : s.clearErrors.shape.waiting + s.clearErrors.shape.changes .waitRun ≤
        s.shape.waiting + s.shape.changes (.resetClear k) := by
      simp only [TTSSpeaker.shape, TTSSpeaker.clearErrors, Shape.changes]
      grind
    have htries : ∀ pc, s.clearErrors.shape.tries pc ≤ s.shape.tries (.resetClear k) := fun pc =>
      tries_le s.clearErrors.shape pc
    simp only [run, run.go] at hr
    split at hr
    next =>
      cases hr
      refine left_lt_of_le (by simp) hchanges (htries (.resetWait k)) ?_
      simp [Shape.rank]
    next =>
      cases hr
      refine left_lt_of_le (by simp) hchanges (htries (.create k)) ?_
      cases k <;> grind [Shape.rank]
  | resetWait k =>
    simp only [run, run.go, Option.ite_none_right_eq_some] at hr
    obtain ⟨-, hr⟩ := hr
    cases hr
    cases k with
    | afterUpdate =>
      refine left_lt_of_try (h := s.shape) (by simp) (Nat.le_refl _) ?_
      simp only [Continuation.pc, Shape.tries]
      split <;> omega
    | afterSpeech =>
      refine left_lt_of_try (h := s.shape) (by simp) (Nat.le_refl _) ?_
      simp only [Continuation.pc, Shape.tries]
      split <;> omega
  | failedDequeue | dequeue =>
    obtain ⟨d, rest, hq, rfl⟩ := run_pop hr
    refine left_lt_of_change (by simp) hlimit ?_
    simp [TTSSpeaker.shape, Shape.changes, hq]
  | failedReport =>
    cases hr
    refine left_lt_of_try (by simp) (Nat.le_refl _) ?_
    simp only [TTSSpeaker.shape, Shape.tries]
    grind
  | create k =>
    simp only [run, run.go] at hr
    split at hr
    next hidle =>
      cases hr
      cases k with
      | afterUpdate =>
        refine left_lt_of_le (h := s.shape) (by simp) (Nat.le_refl _) ?_ ?_
        · simp only [Continuation.pc, Shape.tries, TTSSpeaker.shape]
          grind
        · simp only [Continuation.pc, Shape.rank, TTSSpeaker.shape]
          grind
      | afterSpeech =>
        refine left_lt_of_try (h := s.shape) (by simp) (Nat.le_refl _) ?_
        simp only [Continuation.pc, Shape.tries, TTSSpeaker.shape]
        grind
    next hbuild =>
      cases hr
      cases choice with
      | true =>
        refine left_lt_of_change (by simp) hlimit ?_
        simp only [TTSSpeaker.shape, TTSSpeaker.constructPipeline, Shape.changes]
        grind [Shape.turns]
      | false =>
        simp only [Bool.false_eq_true, if_false]
        cases k with
        | afterSpeech =>
          refine left_lt_of_try (by simp) (Nat.le_refl _) ?_
          simp only [Continuation.pc, TTSSpeaker.shape, TTSSpeaker.constructPipeline, Shape.tries]
          grind
        | afterUpdate =>
          cases hq : s.queue with
          | nil =>
            refine left_lt_of_try (by simp) ?_ ?_
            · simp [Continuation.pc, TTSSpeaker.shape, TTSSpeaker.constructPipeline, Shape.changes, hq]
            · simp [Continuation.pc, TTSSpeaker.shape, TTSSpeaker.constructPipeline, Shape.tries, hq]
          | cons d rest =>
            refine left_lt_of_le (by simp) ?_ ?_ ?_
            · simp [Continuation.pc, TTSSpeaker.shape, TTSSpeaker.constructPipeline, Shape.changes, hq]
            · simp [Continuation.pc, TTSSpeaker.shape, TTSSpeaker.constructPipeline, Shape.tries, hq]
            · simp only [Continuation.pc, TTSSpeaker.shape, TTSSpeaker.constructPipeline, Shape.rank]
              grind
  | stopped => cases hr
  | loopTop | updateMay | updateDiffers | updateEnsure | failedTest | waitRun | waitEmpty | waitMay | waitDiffers
  | waitPredicate | stopTest | againMay | againDiffers => cases hpc

theorem run_limit {pc : ThreadPc} {choice : Bool} {s : TTSSpeaker} {mv : Move ThreadPc}
    (hr : pc.run choice s = some (.ok mv)) :
    mv.speaker.maxPipelineConstructionFailures = s.maxPipelineConstructionFailures := by
  cases pc with
  | failedDequeue | dequeue =>
    obtain ⟨d, rest, -, rfl⟩ := run_pop hr
    rfl
  | create k =>
    simp only [run, run.go] at hr
    split at hr <;> cases hr
    · rfl
    · cases choice <;> rfl
  | audioStop | stopping =>
    cases hr
    simp only
    split <;> rfl
  | resetClear | resetWait | waitPredicate | waitAudio | speakGuard | choose | chooseNetwork =>
    simp only [run, run.go, run.say] at hr
    split at hr <;> cases hr <;> rfl
  | stopped => cases hr
  | _ =>
    cases hr
    rfl

/-- With the audio's time-out, and a pipeline that comes to be NULL, the thread can go on anywhere but where it has
nothing to do. -/
theorem run_none {pc : ThreadPc} {s : TTSSpeaker} (hr : pc.run true s = none) :
    pc = .stopped ∨ pc = .waitPredicate ∧ hasInput s = false := by
  cases pc with
  | stopped => exact .inl rfl
  | waitPredicate =>
    simp only [run, run.go, ite_eq_right_iff] at hr
    exact .inr ⟨rfl, Bool.eq_false_iff.mpr fun hinput => by cases hr hinput⟩
  | failedDequeue | dequeue =>
    simp only [run, run.pop] at hr
    split at hr <;> cases hr
  | waitAudio | resetWait => simp [run, run.go] at hr
  | create | resetClear | speakGuard | choose | chooseNetwork =>
    simp only [run, run.go, run.say] at hr
    split at hr <;> cases hr
  | _ => cases hr

end ThreadPc

namespace SpeakerSystem

/-- The steps that the thread has left; a fault counts for one. -/
def stepsLeft (st : SpeakerSystem) : Nat := if st.fault.isSome then 0 else st.speaker.shape.left st.pc + 1

theorem thread_lowers {st st' : SpeakerSystem} {choice : Bool} (hlimit : st.speaker.maxPipelineConstructionFailures < 256)
    (hs : machine.step st (.thread choice) = some st') :
    (st'.speaker.maxPipelineConstructionFailures < 256 ∧ st'.queueMutex = st.queueMutex) ∧ st'.stepsLeft < st.stepsLeft := by
  have hfault : st.fault = none := by
    simp only [machine, step, Option.ite_none_left_eq_some] at hs
    simpa using hs.1
  cases step_ran hs with
  | popEmpty =>
    refine ⟨⟨hlimit, rfl⟩, ?_⟩
    simp [stepsLeft, hfault]
  | @thread _ mv _ run =>
    refine ⟨⟨ThreadPc.run_limit run ▸ hlimit, rfl⟩, ?_⟩
    have hlower := ThreadPc.run_lowers hlimit run
    simp only [stepsLeft, hfault]
    simpa using hlower

/-- It found the queue empty and nothing to do for the pipeline. -/
structure Idle (st : SpeakerSystem) : Prop where
  pc : st.pc = .waitPredicate
  queue : st.speaker.queue = []
  run : st.speaker.runThread = true
  pipeline : st.speaker.needsPipelineUpdate = false

theorem thread_stuck {st : SpeakerSystem} (hfree : st.queueMutex = none) (hs : machine.step st (.thread true) = none) :
    st.fault.isSome = true ∨ st.pc = .stopped ∨ st.Idle := by
  by_cases hfault : st.fault.isSome = true
  · exact .inl hfault
  · right
    simp only [machine, step, if_neg hfault, threadStep, hfree] at hs
    rcases ThreadPc.run_none (by simpa using hs) with hpc | ⟨hpc, hinput⟩
    · exact .inl hpc
    · simp only [ThreadPc.hasInput, Bool.or_eq_false_iff, Bool.not_eq_eq_eq_not, Bool.not_false, List.isEmpty_iff]
        at hinput
      exact .inr ⟨hpc, hinput.1.1, hinput.1.2, hinput.2⟩

theorem thread_keepsFlushed {st st' : SpeakerSystem} {choice : Bool}
    (hflushed : st.speaker.flushed = true → st.pc.stage.speaks = true) (hs : machine.step st (.thread choice) = some st') :
    st'.speaker.flushed = true → st'.pc.stage.speaks = true := by
  cases step_ran hs with
  | popEmpty => exact hflushed
  | thread _ run => exact thread_flushed (ThreadPc.run_moves run) hflushed

end SpeakerSystem

end TTS
