import TTS.CondVar
import TTS.Stages

/-!
# The speaker thread asleep

In its loop the thread waits on `m_condition` for input. `queueData` and
`ensurePipeline` notify under `m_queueMutex`; the destructor clears
`m_runThread` without it and notifies afterwards. `cancelCurrentSpeech` and the
message handler notify without it too, of things this wait does not look at.
-/

namespace TTS

open Transition CondVar

/-- Whether `handleMessage` notifies `m_condition`. -/
def GstMessage.notifies (s : TTSSpeaker) : GstMessage → Bool
  | .error _ | .eos => true
  | .stateChanged .paused .playing | .stateChanged .playing .paused => s.isPaused && s.clientSpeaking.isSome
  | .stateChanged _ _ => false

namespace SpeakerSystem

def waitRules : Rules SpeakerSystem Label where
  waits st := st.fault.isNone && (st.pc == .waitPredicate && st.queueMutex.isNone)
  ready st := ThreadPc.hasInput st.speaker
  own
    | .thread _ => true
    | _ => false
  locks st
    | .caller i => (st.callers i).locks
    | _ => false
  notifies st
    | .caller i =>
      match st.callers i with
      | .queue _ | .ensure _ | .cancelSet _ => true
      | _ => false
    | .deliver => st.speaker.bus.head?.any fun message => message.notifies st.speaker
    | _ => false
  signals st
    | .caller i => st.callers i == .quitRun
    | _ => false

def sleeping : Machine (Waiter SpeakerSystem) (CondVar.Label Label) := Waiter.machine machine waitRules

end SpeakerSystem

/-! ## What makes the predicate true -/

namespace ThreadPc

/-- A speech waits, or the pipeline is to be built or destroyed. -/
def hasWork (s : TTSSpeaker) : Bool := !s.queue.isEmpty || s.needsPipelineUpdate

theorem hasWork_eq_false {s : TTSSpeaker} : hasWork s = false ↔ s.queue = [] ∧ s.needsPipelineUpdate = false := by
  simp [hasWork]

theorem hasInput_eq (s : TTSSpeaker) : hasInput s = (hasWork s || !s.runThread) := by
  simp only [hasInput, hasWork]
  cases s.queue.isEmpty <;> cases s.runThread <;> simp

/-- The fields the predicate reads, but for the queue. -/
structure SameInput (s s' : TTSSpeaker) : Prop where
  runThread : s'.runThread = s.runThread
  ensurePipeline : s'.ensurePipeline = s.ensurePipeline
  pipeline : s'.pipeline = s.pipeline
  failures : s'.pipelineConstructionFailures = s.pipelineConstructionFailures
  maxFailures : s'.maxPipelineConstructionFailures = s.maxPipelineConstructionFailures

/-- An emptied queue makes no work. -/
theorem SameInput.hasWork {s s' : TTSSpeaker} (h : SameInput s s') (hq : s.queue = [] → s'.queue = [])
    (hw : hasWork s = false) : ThreadPc.hasWork s' = false := by
  obtain ⟨hq0, hn⟩ := hasWork_eq_false.mp hw
  refine hasWork_eq_false.mpr ⟨hq hq0, ?_⟩
  simpa only [TTSSpeaker.needsPipelineUpdate, TTSSpeaker.mayConstruct, TTSSpeaker.pipelineDiffers, h.ensurePipeline,
    h.pipeline, h.failures, h.maxFailures, hq0, hq hq0] using hn

end ThreadPc

namespace CallPc

/-- Which calls make the predicate true. -/
theorem run_input {pc : CallPc} {s : TTSSpeaker} {mv : Move CallPc} (hr : pc.run s = some mv) :
    (∃ d, pc = .queue d) ∨ (∃ flag, pc = .ensure flag) ∨
      (pc = .quitRun ∧ mv.speaker = { s with runThread := false }) ∨
      ThreadPc.SameInput s mv.speaker ∧ (s.queue = [] → mv.speaker.queue = []) := by
  have hsame : ThreadPc.SameInput s s ∧ (s.queue = [] → s.queue = []) := ⟨⟨rfl, rfl, rfl, rfl, rfl⟩, id⟩
  cases pc with
  | idle => cases hr
  | queue d => exact .inl ⟨d, rfl⟩
  | ensure flag => exact .inr (.inl ⟨flag, rfl⟩)
  | quitRun =>
    cases hr
    exact .inr (.inr (.inl ⟨rfl, rfl⟩))
  | flush d =>
    cases hr
    exact .inr (.inr (.inr ⟨⟨rfl, rfl, rfl, rfl, rfl⟩, fun _ => rfl⟩))
  | erase client =>
    cases hr
    exact .inr (.inr (.inr ⟨⟨rfl, rfl, rfl, rfl, rfl⟩, fun hq => by simp [TTSSpeaker.eraseFrom, hq]⟩))
  | cancelSet k =>
    cases hr
    exact .inr (.inr (.inr ⟨⟨rfl, rfl, rfl, rfl, rfl⟩, id⟩))
  | quitTest =>
    cases hr
    refine .inr (.inr (.inr ?_))
    simp only
    split
    · exact ⟨⟨rfl, rfl, rfl, rfl, rfl⟩, id⟩
    · exact hsame
  | pauseSet =>
    cases hr
    refine .inr (.inr (.inr ?_))
    simp only [TTSSpeaker.pausePipeline]
    split
    · exact ⟨⟨rfl, rfl, rfl, rfl, rfl⟩, id⟩
    · exact hsame
  | resumeSet =>
    cases hr
    refine .inr (.inr (.inr ?_))
    simp only [TTSSpeaker.resumePipeline]
    split
    · exact ⟨⟨rfl, rfl, rfl, rfl, rfl⟩, id⟩
    · exact hsame
  | stateCurrent =>
    simp only [run, run.go] at hr
    split at hr <;> (obtain rfl := Option.some.inj hr; exact .inr (.inr (.inr hsame)))
  | _ =>
    cases hr
    exact .inr (.inr (.inr hsame))

end CallPc

namespace SpeakerSystem

/-- A step of the others leaves the input alone, or it is one of the calls that notify. -/
theorem step_input {st st' : SpeakerSystem} {a : Label} (hown : waitRules.own a = false)
    (hs : machine.step st a = some st') :
    (waitRules.locks st a = true ∧ waitRules.notifies st a = true) ∨
      (waitRules.signals st a = true ∧ st'.speaker = { st.speaker with runThread := false }) ∨
      ThreadPc.SameInput st.speaker st'.speaker ∧ (st.speaker.queue = [] → st'.speaker.queue = []) := by
  have hsame : ThreadPc.SameInput st.speaker st.speaker ∧ (st.speaker.queue = [] → st.speaker.queue = []) :=
    ⟨⟨rfl, rfl, rfl, rfl, rfl⟩, id⟩
  cases step_ran hs with
  | popEmpty | thread => cases hown
  | call | nullSpeech => exact .inr (.inr hsame)
  | post => exact .inr (.inr ⟨⟨rfl, rfl, rfl, rfl, rfl⟩, id⟩)
  | deliver _ handled =>
    obtain ⟨⟨_, _, _, _, rfl⟩, -⟩ := handleMessage_frame handled
    exact .inr (.inr ⟨⟨rfl, rfl, rfl, rfl, rfl⟩, id⟩)
  | @caller i mv _ run =>
    rcases CallPc.run_input run with ⟨d, hpc⟩ | ⟨flag, hpc⟩ | ⟨hpc, hst⟩ | hst
    · exact .inl (by simp [waitRules, hpc, CallPc.locks])
    · exact .inl (by simp [waitRules, hpc, CallPc.locks])
    · exact .inr (.inl ⟨by simp [waitRules, hpc], hst⟩)
    · exact .inr (.inr hst)

theorem work_notified : Waiter.Notified machine waitRules (fun st => ThreadPc.hasWork st.speaker) False where
  ready st h := by simp [waitRules, ThreadPc.hasInput_eq, h]
  step st a st' hown hs hb ht := by
    rcases step_input hown hs with h | ⟨-, h⟩ | ⟨h, hq⟩
    · exact .inl h
    · rw [h] at ht
      exact absurd (ht.symm.trans hb) (by decide)
    · rw [h.hasWork hq hb] at ht
      cases ht

theorem stop_notified : Waiter.Notified machine waitRules (fun st => !st.speaker.runThread) True where
  ready st h := by simp [waitRules, ThreadPc.hasInput_eq, h]
  step st a st' hown hs hb ht := by
    rcases step_input hown hs with h | ⟨h, -⟩ | ⟨h, -⟩
    · exact .inl h
    · exact .inr ⟨trivial, h⟩
    · rw [h.runThread, hb] at ht
      cases ht

/-- **The thread sleeps only while there is nothing to do.** While it is blocked the queue is empty and the pipeline is
as it should be, whatever the callers did since it looked; and it is to go on running, or the destructor's
notification is still to come, or came before the thread had blocked. -/
theorem asleep_without_work {w : Waiter SpeakerSystem} (h : sleeping.Reachable w) (hw : w.phase = .asleep) :
    (w.state.speaker.queue = [] ∧ w.state.speaker.needsPipelineUpdate = false) ∧
      (w.state.speaker.runThread = true ∨ 0 < w.pending ∨ w.missed = true) := by
  have hne : w.phase ≠ .awake := by simp [hw]
  constructor
  · refine ThreadPc.hasWork_eq_false.mp (Bool.eq_false_iff.mpr fun hwork => ?_)
    exact (Waiter.reachable_told work_notified h hne hwork).1
  · cases hrun : w.state.speaker.runThread with
    | true => exact .inl rfl
    | false => exact .inr (Waiter.reachable_told stop_notified h hne (by simp [hrun])).2

/-- The thread found nothing to do, has blocked, and is then given a speech by a call that has not queued it yet. -/
theorem asleep_without_work_idle :
    ∃ w : Waiter SpeakerSystem, sleeping.Reachable w ∧ w.state.callers 0 = .queue ⟨7, false, 1, "hi".toList, 0⟩ ∧
      (w.state.speaker.queue = [] ∧ w.state.speaker.needsPipelineUpdate = false) ∧
      (w.state.speaker.runThread = true ∨ 0 < w.pending ∨ w.missed = true) := by
  have hw := Machine.reachable_of_exec (M := sleeping) (s := ⟨.new 1, .awake, 0, false⟩) ⟨⟨1, rfl⟩, rfl, rfl, rfl⟩
    (List.replicate 7 (.run (.thread true)) ++
      [.evaluate, .block, .run (.call 0 (.speak 7 1 "hi".toList false false))]) rfl
  exact ⟨_, hw, rfl, asleep_without_work hw rfl⟩

/-- Where no notification came between the predicate and the block, a thread that is asleep and was not told
otherwise is to go on running. -/
theorem asleep_runs {w : Waiter SpeakerSystem}
    (h : sleeping.ReachableIf (fun w a => a = .notify → w.phase ≠ .deciding) w) (hw : w.phase = .asleep)
    (hp : w.pending = 0) : w.state.speaker.runThread = true := by
  rcases (asleep_without_work h.reachable hw).2 with hrun | hpending | hmissed
  · exact hrun
  · omega
  · rw [Waiter.missed_only_by_signal h] at hmissed
    cases hmissed

/-! ## The missed notification -/

/-- A wake-up comes from nowhere, a new call is made, or GStreamer posts an error
or the end of a stream. -/
def Stirs : CondVar.Label Label → Prop
  | .wake | .run (.call _ _) | .run (.post _) => True
  | _ => False

structure Abandoned (w : Waiter SpeakerSystem) : Prop where
  phase : w.phase = .asleep
  pending : w.pending = 0
  idle : ∀ i, w.state.callers i = .idle
  silent : w.state.speaker.clientSpeaking = none
  bus : ∀ message ∈ w.state.speaker.bus, ∃ old new, message = .stateChanged old new

/-- Where no client speaks, a change of state is no news. -/
theorem notifies_stateChanged {s : TTSSpeaker} (hs : s.clientSpeaking = none) (old new : GstState) :
    (GstMessage.stateChanged old new).notifies s = false := by
  cases old <;> cases new <;> simp [GstMessage.notifies, hs]

theorem step_abandoned {w w' : Waiter SpeakerSystem} {a : CondVar.Label Label} (h : Abandoned w) (ha : ¬Stirs a)
    (hs : sleeping.step w a = some w') : Abandoned w' := by
  cases a with
  | wake => exact absurd trivial ha
  | notify => simp [sleeping, Waiter.machine, h.pending] at hs
  | evaluate | block => simp [sleeping, Waiter.machine, h.phase] at hs
  | run a =>
    simp only [sleeping, Waiter.machine, Option.ite_none_left_eq_some, Option.map_eq_some_iff] at hs
    obtain ⟨hok, t, ht, rfl⟩ := hs
    cases a with
    | call | post => exact absurd trivial ha
    | thread choice => exact absurd (.inl ⟨rfl, by simp [h.phase]⟩) hok
    | caller i =>
      cases step_ran ht with
      | caller _ run =>
        rw [h.idle i] at run
        cases run
    | deliver =>
      have hquiet : ∀ {message rest}, w.state.speaker.bus = message :: rest → waitRules.notifies w.state .deliver = false := by
        intro message rest hbus
        obtain ⟨old, new, rfl⟩ := h.bus message (by rw [hbus]; exact List.mem_cons_self)
        simp only [waitRules, hbus, List.head?_cons, Option.any_some]
        exact notifies_stateChanged h.silent old new
      cases step_ran ht with
      | nullSpeech hbus =>
        exact ⟨by simp [hquiet hbus, h.phase], by simp [waitRules, h.pending], h.idle, h.silent, h.bus⟩
      | deliver hbus handled =>
        obtain ⟨⟨_, _, _, _, rfl⟩, -⟩ := handleMessage_frame handled
        refine ⟨by simp [hquiet hbus, h.phase], by simp [waitRules, h.pending], h.idle, h.silent, fun message hm => ?_⟩
        exact h.bus message (by rw [hbus]; exact List.mem_cons_of_mem _ hm)

/-- **A missed notification is missed for good.** Where the thread has blocked, all calls have returned and no
notification is to come, it stays blocked until a call is made or GStreamer has an error or an end to tell: after a
destructor's notification is missed, `join` does not return. -/
theorem abandoned_sleeps {w : Waiter SpeakerSystem} (h : Abandoned w) {as : List (CondVar.Label Label)}
    (has : ∀ a ∈ as, ¬Stirs a) {w' : Waiter SpeakerSystem} (hs : sleeping.exec w as = some w') :
    w'.phase = .asleep := by
  have hw : Abandoned w' := Machine.exec_invariant (fun a ha _ _ hI hu => step_abandoned hI (has a ha) hu) h hs
  exact hw.phase

/-- The destructor clears `m_runThread` and notifies between the predicate and the block. -/
theorem abandoned_sleeps_stopped :
    ∃ w, sleeping.Reachable w ∧ w.state.speaker.runThread = false ∧
      ∀ as w', (∀ a ∈ as, ¬Stirs a) → sleeping.exec w as = some w' → w'.phase = .asleep := by
  have hw := Machine.reachable_of_exec (M := sleeping) (s := ⟨.new 1, .awake, 0, false⟩) ⟨⟨1, rfl⟩, rfl, rfl, rfl⟩
    (List.replicate 7 (.run (.thread true)) ++
      [.evaluate, .run (.call 0 .destructor), .run (.caller 0), .run (.caller 0), .notify, .block]) rfl
  refine ⟨_, hw, rfl, fun as w' has hs => abandoned_sleeps ⟨rfl, rfl, fun i => ?_, rfl, fun _ hm => absurd hm List.not_mem_nil⟩ has hs⟩
  by_cases hi : i = 0
  · rw [hi]
    rfl
  · simp [setCaller, hi, new]

end SpeakerSystem

end TTS
