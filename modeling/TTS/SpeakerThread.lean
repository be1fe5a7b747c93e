import TTS.Transition
import TTS.Speaker

/-!
# The speaker thread and its callers

Any number of callers use the speaker while its thread runs; GStreamer posts
messages on the pipeline's bus and the main loop delivers them. One step is
one section under a mutex or one unlocked test. `m_queueMutex` matters between
steps only while `clearAllSpeechesFrom` holds it. Time-outs and the success of
building a pipeline are choices of the step's label.
-/

namespace TTS

open Transition

inductive Continuation
  | afterUpdate
  | afterSpeech
  deriving DecidableEq, Repr

/-- Where the thread stands, named after what it does next. -/
inductive ThreadPc
  | loopTop
  -- `needsPipelineUpdate` at the top, then the update
  | updateMay
  | updateDiffers
  | updateEnsure
  | updateDestroy
  | create (k : Continuation)
  | resetTest (k : Continuation)
  | resetDestroy (k : Continuation)
  | resetClear (k : Continuation)
  | resetWait (k : Continuation)
  | failedTest
  | failedDequeue
  | failedReport (d : SpeechData)
  -- the loop that waits for input
  | waitRun
  | waitEmpty
  | waitMay
  | waitDiffers
  | waitPredicate
  | stopTest
  | stopping
  | againMay
  | againDiffers
  | dequeue
  -- one speech
  | setSpeaking (d : SpeechData)
  | willSpeak (d : SpeechData)
  | speakTest (d : SpeechData)
  | speakEnter (d : SpeechData)
  | speakGuard (d : SpeechData)
  | speakPlay (d : SpeechData)
  | waitAudio (d : SpeechData)
  | audioStop (d : SpeechData)
  | audioEnd (d : SpeechData)
  | speakLeave (d : SpeechData)
  | choose (d : SpeechData)
  | chooseNetwork (d : SpeechData)
  | choosePlayback (d : SpeechData)
  | report (d : SpeechData) (k : Terminal)
  | clearSpeaking
  | exitDestroy
  | stopped
  deriving DecidableEq, Repr

def Continuation.pc : Continuation → ThreadPc
  | .afterUpdate => .failedTest
  | .afterSpeech => .loopTop

inductive AfterCancel
  | done
  | flush (d : Option SpeechData)
  | release (client : Nat) (ds : List SpeechData)
  deriving DecidableEq, Repr

inductive SessionAct
  | shut
  | pause (id : Nat)
  | resume (id : Nat)
  deriving DecidableEq, Repr

inductive CallPc
  | idle
  | sessionTest (client : Nat) (act : SessionAct)
  | cancelTest (k : AfterCancel)
  | cancelSet (k : AfterCancel)
  | flush (d : Option SpeechData)
  | queue (d : SpeechData)
  | erase (client : Nat)
  | clearTest (client : Nat) (ds : List SpeechData)
  | release (client : Nat) (ds : List SpeechData)
  | pauseTest (id : Nat)
  | pauseSet
  | resumeTest (id : Nat)
  | resumeSet
  | ensure (flag : Bool)
  | stateCurrent (client id : Nat)
  | stateQueue (client id : Nat)
  | quitTest
  | quitRun
  deriving DecidableEq, Repr

def AfterCancel.pc : AfterCancel → CallPc
  | .done => .idle
  | .flush d => .flush d
  | .release client ds => .release client ds

def SessionAct.pc : SessionAct → CallPc
  | .shut => .cancelTest .done
  | .pause id => .pauseTest id
  | .resume id => .resumeTest id

/-- The calls; `preemptive` is the client's `isPreemptive()` when `speak` reads it. -/
inductive SpeakerCall
  | speak (client id : Nat) (text : Text) (secure preemptive : Bool)
  | reset
  | session (client : Nat) (act : SessionAct)
  | clearAllSpeechesFrom (client : Nat)
  | ensurePipeline (flag : Bool)
  | getSpeechState (client id : Nat)
  | destructor
  deriving DecidableEq, Repr

def SpeakerCall.pc : SpeakerCall → CallPc
  | .speak client id text secure preemptive =>
    let data : SpeechData := ⟨client, secure, id, text, 0⟩
    if preemptive then .cancelTest (.flush (some data)) else .queue data
  | .reset => .cancelTest (.flush none)
  | .session client act => .sessionTest client act
  | .clearAllSpeechesFrom client => .erase client
  | .ensurePipeline flag => .ensure flag
  | .getSpeechState client id => .stateCurrent client id
  | .destructor => .quitTest

inductive SpeechState
  | pending
  | inProgress
  | paused
  | notFound
  deriving DecidableEq, Repr

inductive Record
  | queued (d : SpeechData)
  | flushed (ds : List SpeechData)
  | cancelled (client : Nat) (ds : List SpeechData)
  /-- `clearAllSpeechesFrom` returned. -/
  | abortReturned (client : Nat) (ds : List SpeechData)
  /-- The thread's tests settled which terminal callback it makes. -/
  | chose (d : SpeechData)
  | callback (client : Nat) (cb : Callback) (d : SpeechData)
  | answered (client id : Nat) (state : SpeechState)
  deriving DecidableEq, Repr

def Record.isQuiet : Record → Bool
  | .callback _ .willSpeak _ | .callback _ .started _ | .callback _ .paused _ | .callback _ .resumed _ => true
  | .answered _ _ _ => true
  | _ => false

/-- Behaviour the language leaves undefined: `front()` of an empty queue, a
NULL `m_currentSpeech` read. -/
inductive Fault
  | popEmpty
  | nullSpeech
  deriving DecidableEq, Repr

structure Move (π : Type) where
  pc : π
  speaker : TTSSpeaker
  log : List Record

namespace ThreadPc

def locks : ThreadPc → Bool
  | .failedDequeue | .waitPredicate | .dequeue | .waitAudio _ | .resetWait _ => true
  | _ => false

def hasInput (s : TTSSpeaker) : Bool := !s.queue.isEmpty || !s.runThread || s.needsPipelineUpdate

/-- `playbackInterrupted() || playbackCompleted()` -/
def audioOver (s : TTSSpeaker) : Bool := !s.pipeline || s.pipelineError || s.flushed || s.isEOS

/-- The thread's next step; `choice` is whether a pipeline could be built,
whether a wait timed out, or what `waitForStatus` says, which is called until it
says true and reads an uninitialized state where `m_flushed` is set. `none` while
it waits. -/
def run (choice : Bool) (s : TTSSpeaker) : ThreadPc → Option (Except Fault (Move ThreadPc))
  | .loopTop => go (if s.runThread then .updateMay else .exitDestroy) s
  | .updateMay => go (if s.mayConstruct then .updateDiffers else .waitRun) s
  | .updateDiffers => go (if s.pipelineDiffers then .updateEnsure else .waitRun) s
  | .updateEnsure => go (if s.ensurePipeline then .create .afterUpdate else .updateDestroy) s
  | .updateDestroy => go .waitRun s.destroyPipeline
  | .create k =>
    let s := { s with isEOS := false }
    if !s.ensurePipeline || s.pipeline then go k.pc s
    else go (if choice then .resetTest k else k.pc) (s.constructPipeline choice)
  | .resetTest k => go (if s.pipelineError then .resetDestroy k else .resetClear k) s
  | .resetDestroy k => go (.resetClear k) s.destroyPipeline
  | .resetClear k =>
    let s := s.clearErrors
    if s.pipeline then go (.resetWait k) (s.setState .null) else go (.create k) s
  | .resetWait k => if choice then go k.pc s else none
  | .failedTest => go (if !s.pipeline && !s.queue.isEmpty then .failedDequeue else .waitRun) s
  | .failedDequeue => pop s .failedReport fun d => [.chose d]
  | .failedReport d =>
    say .waitRun { s with pipelineConstructionFailures := 0 } [.callback d.client (.ended .playbackerror) d]
  | .waitRun => go (if s.runThread then .waitEmpty else .stopTest) s
  | .waitEmpty => go (if s.queue.isEmpty then .waitMay else .stopTest) s
  | .waitMay => go (if s.mayConstruct then .waitDiffers else .waitPredicate) s
  | .waitDiffers => go (if s.pipelineDiffers then .stopTest else .waitPredicate) s
  | .waitPredicate => if hasInput s then go .waitRun s else none
  | .stopTest => go (if s.runThread then .againMay else .stopping) s
  | .stopping => go .stopped (if s.pipeline then s.setState .null else s)
  | .againMay => go (if s.mayConstruct then .againDiffers else .dequeue) s
  | .againDiffers => go (if s.pipelineDiffers then .loopTop else .dequeue) s
  | .dequeue => pop s .setSpeaking fun _ => []
  | .setSpeaking d => go (.willSpeak d) (s.setSpeakingState true (some d.client))
  | .willSpeak d => say (.speakTest d) s (if !s.flushed then [.callback d.client .willSpeak d] else [])
  | .speakTest d => go (if !s.flushed then .speakEnter d else .choose d) s
  | .speakEnter d => go (.speakGuard d) { s with isEOS := false }
  | .speakGuard d =>
    if s.pipeline && !s.pipelineError && !s.flushed then go (.speakPlay d) { s with currentSpeech := some d }
    else go (.speakLeave d) s
  | .speakPlay d => go (.waitAudio d) (s.setState .playing)
  | .waitAudio d => if choice || audioOver s then go (.audioStop d) s else none
  | .audioStop d => go (.audioEnd d) (if s.pipeline then s.setState .null else s)
  | .audioEnd d => go (.speakLeave d) { s with isEOS := false }
  | .speakLeave d => go (.choose d) { s with currentSpeech := none }
  | .choose d => if s.flushed then say (.report d .interrupted) s [.chose d] else go (.chooseNetwork d) s
  | .chooseNetwork d =>
    if s.networkError then say (.report d .networkerror) s [.chose d] else go (.choosePlayback d) s
  | .choosePlayback d =>
    say (.report d (if !s.pipeline || s.pipelineError then .playbackerror else .spoke)) s [.chose d]
  | .report d k => say .clearSpeaking s [.callback d.client (.ended k) d]
  | .clearSpeaking => go (.resetTest .afterSpeech) (s.setSpeakingState false none)
  | .exitDestroy => go .stopped s.destroyPipeline
  | .stopped => none
where
  go (pc : ThreadPc) (s : TTSSpeaker) : Option (Except Fault (Move ThreadPc)) := some (.ok ⟨pc, s, []⟩)
  say (pc : ThreadPc) (s : TTSSpeaker) (log : List Record) : Option (Except Fault (Move ThreadPc)) :=
    some (.ok ⟨pc, s, log⟩)
  pop (s : TTSSpeaker) (next : SpeechData → ThreadPc) (log : SpeechData → List Record) :
      Option (Except Fault (Move ThreadPc)) :=
    match s.dequeueData with
    | none => some (.error .popEmpty)
    | some (d, s) => some (.ok ⟨next d, s, log d⟩)

end ThreadPc

namespace CallPc

def locks : CallPc → Bool
  | .flush _ | .queue _ | .erase _ | .ensure _ | .stateQueue _ _ => true
  | _ => false

def holds : CallPc → Bool
  | .clearTest _ _ | .release _ _ | .cancelTest (.release _ _) | .cancelSet (.release _ _) => true
  | _ => false

def run (s : TTSSpeaker) : CallPc → Option (Move CallPc)
  | .idle => none
  | .sessionTest client act => go (if s.isSpeakingClient client then act.pc else .idle) s
  | .cancelTest k => go (if s.isSpeaking then .cancelSet k else k.pc) s
  | .cancelSet k => go k.pc s.setFlushed
  | .flush d => some ⟨(d.map CallPc.queue).getD .idle, s.flushQueue, [.flushed s.queue]⟩
  | .queue d => some ⟨.idle, s.queueData d, [.queued { d with serial := s.queued }]⟩
  | .erase client =>
    some ⟨.clearTest client (s.eraseFrom client).1, (s.eraseFrom client).2,
      [.cancelled client (s.eraseFrom client).1]⟩
  | .clearTest client ds =>
    go (if s.isSpeakingClient client then .cancelTest (.release client ds) else .release client ds) s
  | .release client ds => some ⟨.idle, s, [.abortReturned client ds]⟩
  | .pauseTest id => go (if s.isCurrent id then .pauseSet else .idle) s
  | .pauseSet => go .idle s.pausePipeline
  | .resumeTest id => go (if s.isCurrent id then .resumeSet else .idle) s
  | .resumeSet => go .idle s.resumePipeline
  | .ensure flag => go .idle (s.setEnsurePipeline flag)
  | .stateCurrent client id =>
    if s.isSpeakingClient client && s.currentSpeech.any fun d => d.id = id then
      some ⟨.idle, s, [.answered client id (if s.isPaused then .paused else .inProgress)]⟩
    else go (.stateQueue client id) s
  | .stateQueue client id =>
    some ⟨.idle, s, [.answered client id
      (if s.queue.any fun d => d.id = id ∧ d.client = client then .pending else .notFound)]⟩
  | .quitTest => go .quitRun (if s.isSpeaking then { s with flushed := true } else s)
  | .quitRun => go .idle { s with runThread := false }
where
  go (pc : CallPc) (s : TTSSpeaker) : Option (Move CallPc) := some ⟨pc, s, []⟩

end CallPc

structure SpeakerSystem where
  speaker : TTSSpeaker
  pc : ThreadPc
  callers : Nat → CallPc
  queueMutex : Option Nat
  log : List Record
  fault : Option Fault

namespace SpeakerSystem

inductive Label
  | thread (choice : Bool)
  | call (i : Nat) (c : SpeakerCall)
  | caller (i : Nat)
  | post (message : GstMessage)
  | deliver
  deriving DecidableEq, Repr

def setCaller (st : SpeakerSystem) (i : Nat) (pc : CallPc) : Nat → CallPc := fun j => if j = i then pc else st.callers j

def threadStep (st : SpeakerSystem) (choice : Bool) : Option SpeakerSystem :=
  if st.pc.locks && st.queueMutex.isSome then none
  else
    (st.pc.run choice st.speaker).map fun
      | .error f => { st with fault := some f }
      | .ok mv => { st with pc := mv.pc, speaker := mv.speaker, log := st.log ++ mv.log }

def callerStep (st : SpeakerSystem) (i : Nat) : Option SpeakerSystem :=
  if (st.callers i).locks && st.queueMutex.isSome then none
  else
    ((st.callers i).run st.speaker).map fun mv =>
      { st with
        callers := st.setCaller i mv.pc
        speaker := mv.speaker
        queueMutex :=
          if mv.pc.holds then some i else if (st.callers i).holds then none else st.queueMutex
        log := st.log ++ mv.log }

/-- Errors and the end of the stream come from GStreamer; state changes are
posted by `gst_element_set_state`. -/
def postStep (st : SpeakerSystem) : GstMessage → Option SpeakerSystem
  | .stateChanged _ _ => none
  | message =>
    if st.speaker.pipeline then
      some { st with speaker := { st.speaker with bus := st.speaker.bus ++ [message] } }
    else none

def deliverStep (st : SpeakerSystem) : Option SpeakerSystem :=
  match st.speaker.bus with
  | [] => none
  | message :: rest =>
    match ({ st.speaker with bus := rest } : TTSSpeaker).handleMessage message with
    | none => some { st with fault := some .nullSpeech }
    | some (cbs, s) =>
      some { st with speaker := s, log := st.log ++ cbs.map fun cb => .callback cb.1 cb.2.1 cb.2.2 }

def step (st : SpeakerSystem) (a : Label) : Option SpeakerSystem :=
  if st.fault.isSome then none
  else
    match a with
    | .thread choice => st.threadStep choice
    | .call i c => if st.callers i = .idle then some { st with callers := st.setCaller i c.pc } else none
    | .caller i => st.callerStep i
    | .post message => st.postStep message
    | .deliver => st.deliverStep

def new (maxFailures : Nat) : SpeakerSystem where
  speaker := .new maxFailures
  pc := .loopTop
  callers := fun _ => .idle
  queueMutex := none
  log := []
  fault := none

def machine : Machine SpeakerSystem Label where
  init st := ∃ maxFailures, st = .new maxFailures
  step := step

theorem reachable_of_run (maxFailures : Nat) (as : List Label) {st : SpeakerSystem}
    (h : machine.exec (.new maxFailures) as = some st) : machine.Reachable st :=
  Machine.reachable_of_exec ⟨maxFailures, rfl⟩ as h

end SpeakerSystem

/-- A pipeline is built, client 7 speaks, and the thread comes to wait for the audio. -/
def SpeakerSystem.toTheAudio : List SpeakerSystem.Label :=
  [.call 0 (.ensurePipeline true), .caller 0] ++ List.replicate 9 (.thread true) ++
    [.call 0 (.speak 7 1 "hi".toList false false), .caller 0] ++ List.replicate 12 (.thread true)

theorem ThreadPc.run_error {pc : ThreadPc} {s : TTSSpeaker} {choice : Bool} {f : Fault}
    (hr : pc.run choice s = some (.error f)) : (pc = .failedDequeue ∨ pc = .dequeue) ∧ s.queue = [] ∧ f = .popEmpty := by
  have hpop : ∀ next log, run.pop s next log = some (.error f) → s.queue = [] ∧ f = .popEmpty := by
    intro next log hp
    unfold run.pop TTSSpeaker.dequeueData at hp
    cases hq : s.queue with
    | nil =>
      simp only [hq, Option.some.injEq, Except.error.injEq] at hp
      exact ⟨rfl, hp.symm⟩
    | cons d rest => simp [hq] at hp
  cases pc with
  | failedDequeue => exact ⟨.inl rfl, hpop _ _ hr⟩
  | dequeue => exact ⟨.inr rfl, hpop _ _ hr⟩
  | create k =>
    simp only [run, run.go] at hr
    split at hr <;> cases hr
  | waitPredicate | waitAudio | resetClear | resetWait | speakGuard | choose | chooseNetwork =>
    simp only [run, run.go, run.say] at hr
    split at hr <;> cases hr
  | _ => cases hr

inductive SpeakerSystem.Ran (st : SpeakerSystem) : SpeakerSystem.Label → SpeakerSystem → Prop
  | popEmpty {choice} (pc : st.pc = .failedDequeue ∨ st.pc = .dequeue) (queue : st.speaker.queue = []) :
    Ran st (.thread choice) { st with fault := some .popEmpty }
  | thread {choice} {mv : Move ThreadPc} (unlocked : (st.pc.locks && st.queueMutex.isSome) = false)
      (run : st.pc.run choice st.speaker = some (.ok mv)) :
    Ran st (.thread choice) { st with pc := mv.pc, speaker := mv.speaker, log := st.log ++ mv.log }
  | call {i} (c : SpeakerCall) (idle : st.callers i = .idle) :
    Ran st (.call i c) { st with callers := st.setCaller i c.pc }
  | caller {i} {mv : Move CallPc} (unlocked : ((st.callers i).locks && st.queueMutex.isSome) = false)
      (run : (st.callers i).run st.speaker = some mv) :
    Ran st (.caller i)
      { st with
        callers := st.setCaller i mv.pc
        speaker := mv.speaker
        queueMutex := if mv.pc.holds then some i else if (st.callers i).holds then none else st.queueMutex
        log := st.log ++ mv.log }
  | post {message} (sent : ∀ old new, message ≠ .stateChanged old new) (pipeline : st.speaker.pipeline = true) :
    Ran st (.post message) { st with speaker := { st.speaker with bus := st.speaker.bus ++ [message] } }
  | nullSpeech {message rest} (bus : st.speaker.bus = message :: rest)
      (handled : ({ st.speaker with bus := rest } : TTSSpeaker).handleMessage message = none) :
    Ran st .deliver { st with fault := some .nullSpeech }
  | deliver {message rest cbs s} (bus : st.speaker.bus = message :: rest)
      (handled : ({ st.speaker with bus := rest } : TTSSpeaker).handleMessage message = some (cbs, s)) :
    Ran st .deliver
      { st with speaker := s, log := st.log ++ cbs.map fun cb => .callback cb.1 cb.2.1 cb.2.2 }

theorem SpeakerSystem.step_ran {st st' : SpeakerSystem} {a : Label} (hs : machine.step st a = some st') :
    st.Ran a st' := by
  simp only [machine, step, Option.ite_none_left_eq_some] at hs
  obtain ⟨-, hs⟩ := hs
  cases a with
  | thread choice =>
    simp only [threadStep, Option.ite_none_left_eq_some, Option.map_eq_some_iff, Bool.not_eq_true] at hs
    obtain ⟨hl, r, hr, rfl⟩ := hs
    cases r with
    | error f =>
      obtain ⟨hpc, hq, rfl⟩ := ThreadPc.run_error hr
      exact .popEmpty hpc hq
    | ok mv => exact .thread hl hr
  | call i c =>
    simp only [Option.ite_none_right_eq_some, Option.some.injEq] at hs
    obtain ⟨hi, rfl⟩ := hs
    exact .call c hi
  | caller i =>
    simp only [callerStep, Option.ite_none_left_eq_some, Option.map_eq_some_iff, Bool.not_eq_true] at hs
    obtain ⟨hl, mv, hr, rfl⟩ := hs
    exact .caller hl hr
  | post message =>
    simp only [postStep] at hs
    split at hs
    · cases hs
    · rename_i hsent
      simp only [Option.ite_none_right_eq_some, Option.some.injEq] at hs
      obtain ⟨hp, rfl⟩ := hs
      exact .post hsent hp
  | deliver =>
    simp only [deliverStep] at hs
    split at hs
    · cases hs
    · rename_i hb
      split at hs
      · rename_i hm
        obtain rfl := Option.some.inj hs
        exact .nullSpeech hb hm
      · rename_i hm
        obtain rfl := Option.some.inj hs
        exact .deliver hb hm

/-! ## Bus messages -/

theorem notifyClient_quiet {s : TTSSpeaker} {cb : Callback} {cbs : List (Nat × Callback × SpeechData)}
    (hcb : ∀ c d, (Record.callback c cb d).isQuiet = true) (h : s.notifyClient cb = some cbs) :
    ∀ x ∈ cbs, (Record.callback x.1 x.2.1 x.2.2).isQuiet = true := by
  unfold TTSSpeaker.notifyClient at h
  split at h
  · obtain rfl := Option.some.inj h
    intro x hx
    rw [List.mem_singleton.mp hx]
    exact hcb _ _
  · cases h
  · obtain rfl := Option.some.inj h
    exact fun x hx => nomatch hx

/-- What the handler of bus messages may change, and that it ends no speech. -/
theorem handleMessage_frame {s s' : TTSSpeaker} {message : GstMessage} {cbs : List (Nat × Callback × SpeechData)}
    (h : s.handleMessage message = some (cbs, s')) :
    (∃ n p e i, s' = { s with networkError := n, pipelineError := p, isEOS := e, isPaused := i }) ∧
      ∀ x ∈ cbs, (Record.callback x.1 x.2.1 x.2.2).isQuiet = true := by
  have hnil : ∀ x ∈ ([] : List (Nat × Callback × SpeechData)), (Record.callback x.1 x.2.1 x.2.2).isQuiet = true :=
    fun x hx => nomatch hx
  unfold TTSSpeaker.handleMessage at h
  split at h
  · cases h
    exact ⟨⟨_, _, _, _, rfl⟩, hnil⟩
  · cases h
    exact ⟨⟨_, _, _, _, rfl⟩, hnil⟩
  · split at h
    · obtain ⟨l, hl, he⟩ := Option.map_eq_some_iff.mp h
      cases he
      refine ⟨?_, notifyClient_quiet (fun _ _ => rfl) hl⟩
      split <;> exact ⟨_, _, _, _, rfl⟩
    · obtain ⟨l, hl, he⟩ := Option.map_eq_some_iff.mp h
      cases he
      exact ⟨⟨_, _, _, _, rfl⟩, notifyClient_quiet (fun _ _ => rfl) hl⟩
  · split at h
    · obtain ⟨l, hl, he⟩ := Option.map_eq_some_iff.mp h
      cases he
      exact ⟨⟨_, _, _, _, rfl⟩, notifyClient_quiet (fun _ _ => rfl) hl⟩
    · cases h
      exact ⟨⟨_, _, _, _, rfl⟩, hnil⟩
  · cases h
    exact ⟨⟨_, _, _, _, rfl⟩, hnil⟩

end TTS
