import Mathlib.Data.List.Basic
import TTS.Configuration
import TTS.Common

/-!
# The speaker

The fields of `TTSSpeaker` and its operations, one definition for each part
that the source runs under one lock or as one unlocked step. The speaker
thread and the interleavings are in `SpeakerThread`.
-/

namespace TTS

/-- A queued speech. `serial` tells accepted speeches apart: it numbers the calls of `queueData`. -/
structure SpeechData where
  client : Nat
  secure : Bool
  id : Nat
  text : Text
  serial : Nat
  deriving DecidableEq, Repr

inductive Terminal
  | spoke
  | interrupted
  | networkerror
  | playbackerror
  deriving DecidableEq, Repr

inductive Callback
  | willSpeak
  | started
  | paused
  | resumed
  | ended (k : Terminal)
  deriving DecidableEq, Repr

inductive GstState
  | null
  | ready
  | paused
  | playing
  deriving DecidableEq, Repr

inductive GstMessage
  | error (network : Bool)
  | eos
  | stateChanged (old new : GstState)
  deriving DecidableEq, Repr

namespace GstState

def rank : GstState → Nat
  | .null => 0
  | .ready => 1
  | .paused => 2
  | .playing => 3

def ofRank : Nat → GstState
  | 0 => .null
  | 1 => .ready
  | 2 => .paused
  | _ => .playing

def transitions (s t : GstState) : List GstMessage :=
  if s.rank ≤ t.rank then
    (List.range' s.rank (t.rank - s.rank)).map fun r => .stateChanged (ofRank r) (ofRank (r + 1))
  else (List.range' t.rank (s.rank - t.rank)).reverse.map fun r => .stateChanged (ofRank (r + 1)) (ofRank r)

end GstState

/-- The members of `TTSSpeaker`; `pipeline` says that `m_pipeline` is not NULL,
`gstState` and `bus` are the pipeline's state and its undelivered messages,
`queued` counts the calls of `queueData`. -/
structure TTSSpeaker where
  clientSpeaking : Option Nat
  currentSpeech : Option SpeechData
  isSpeaking : Bool
  isPaused : Bool
  queue : List SpeechData
  pipeline : Bool
  pipelineError : Bool
  networkError : Bool
  runThread : Bool
  flushed : Bool
  isEOS : Bool
  ensurePipeline : Bool
  pipelineConstructionFailures : Nat
  maxPipelineConstructionFailures : Nat
  gstState : GstState
  bus : List GstMessage
  queued : Nat
  deriving DecidableEq, Repr

namespace TTSSpeaker

/-- The constructor; `maxFailures` comes from `MAX_PIPELINE_FAILURE_THRESHOLD`. -/
def new (maxFailures : Nat) : TTSSpeaker where
  clientSpeaking := none
  currentSpeech := none
  isSpeaking := false
  isPaused := false
  queue := []
  pipeline := false
  pipelineError := false
  networkError := false
  runThread := true
  flushed := false
  isEOS := false
  ensurePipeline := false
  pipelineConstructionFailures := 0
  maxPipelineConstructionFailures := maxFailures
  gstState := .null
  bus := []
  queued := 0

def setEnsurePipeline (s : TTSSpeaker) (flag : Bool) : TTSSpeaker := { s with ensurePipeline := flag }

def queueData (s : TTSSpeaker) (d : SpeechData) : TTSSpeaker :=
  { s with queue := s.queue ++ [{ d with serial := s.queued }], queued := s.queued + 1 }

def flushQueue (s : TTSSpeaker) : TTSSpeaker := { s with queue := [] }

/-- `none` when the queue is empty: `front()` and `pop_front()` are then undefined. -/
def dequeueData (s : TTSSpeaker) : Option (SpeechData × TTSSpeaker) :=
  match s.queue with
  | [] => none
  | d :: rest => some (d, { s with queue := rest, flushed := false })

def eraseFrom (s : TTSSpeaker) (client : Nat) : List SpeechData × TTSSpeaker :=
  (s.queue.filter fun d => d.client = client, { s with queue := s.queue.filter fun d => d.client ≠ client })

def isSpeakingClient (s : TTSSpeaker) (client : Nat) : Bool := s.clientSpeaking == some client

def setFlushed (s : TTSSpeaker) : TTSSpeaker := { s with isPaused := false, flushed := true }

def cancelCurrentSpeech (s : TTSSpeaker) : TTSSpeaker := if s.isSpeaking then s.setFlushed else s

def reset (s : TTSSpeaker) : TTSSpeaker := s.cancelCurrentSpeech.flushQueue

def clearAllSpeechesFrom (s : TTSSpeaker) (client : Nat) : List SpeechData × TTSSpeaker :=
  let (ds, s) := s.eraseFrom client
  (ds, if s.isSpeakingClient client then s.cancelCurrentSpeech else s)

/-- `speak` without interference; `preemptive` is the client's `isPreemptive()`. -/
def speak (s : TTSSpeaker) (client id : Nat) (text : Text) (secure preemptive : Bool) : TTSSpeaker :=
  (if preemptive then s.reset else s).queueData ⟨client, secure, id, text, 0⟩

def setSpeakingState (s : TTSSpeaker) (state : Bool) (client : Option Nat) : TTSSpeaker :=
  { s with isSpeaking := state, clientSpeaking := client, flushed := if state then s.flushed else false }

def mayConstruct (s : TTSSpeaker) : Bool :=
  s.pipelineConstructionFailures < s.maxPipelineConstructionFailures || !s.queue.isEmpty

def pipelineDiffers (s : TTSSpeaker) : Bool := (s.ensurePipeline && !s.pipeline) || (s.pipeline && !s.ensurePipeline)

def needsPipelineUpdate (s : TTSSpeaker) : Bool := s.mayConstruct && s.pipelineDiffers

def setState (s : TTSSpeaker) (g : GstState) : TTSSpeaker :=
  { s with gstState := g, bus := s.bus ++ s.gstState.transitions g }

def destroyPipeline (s : TTSSpeaker) : TTSSpeaker :=
  { s with pipeline := false, pipelineConstructionFailures := 0, gstState := .null, bus := [] }

/-- The attempt of `createPipeline` past its first test: whether the elements
could be created and linked is up to GStreamer. -/
def constructPipeline (s : TTSSpeaker) (created : Bool) : TTSSpeaker :=
  if created then { s with pipeline := true, pipelineConstructionFailures := 0, gstState := .null, bus := [] }
  else { s with pipelineConstructionFailures := (s.pipelineConstructionFailures + 1) % 256 }

def clearErrors (s : TTSSpeaker) : TTSSpeaker :=
  { s with pipelineError := false, networkError := false, isPaused := false, isEOS := false }

/-- The client called back on a state change, and the speech it is told about;
`none` when `m_currentSpeech` is NULL there. -/
def notifyClient (s : TTSSpeaker) (cb : Callback) : Option (List (Nat × Callback × SpeechData)) :=
  match s.clientSpeaking, s.currentSpeech with
  | some c, some d => some [(c, cb, d)]
  | some _, none => none
  | none, _ => some []

/-- `handleMessage` with a pipeline: the callbacks made and the state left;
`none` when it reads through a NULL `m_currentSpeech`. -/
def handleMessage (s : TTSSpeaker) : GstMessage → Option (List (Nat × Callback × SpeechData) × TTSSpeaker)
  | .error network => some ([], { s with networkError := s.networkError || network, pipelineError := true })
  | .eos => some ([], { s with isEOS := true })
  | .stateChanged .paused .playing =>
    if s.isPaused then
      (s.notifyClient .resumed).map fun cbs =>
        (cbs, if s.clientSpeaking.isSome then { s with isPaused := false } else s)
    else (s.notifyClient .started).map fun cbs => (cbs, s)
  | .stateChanged .playing .paused =>
    if s.isPaused then (s.notifyClient .paused).map fun cbs => (cbs, s) else some ([], s)
  | .stateChanged _ _ => some ([], s)

def isCurrent (s : TTSSpeaker) (id : Nat) : Bool :=
  match s.currentSpeech with
  | none => false
  | some d => s.isSpeaking && (id == 0 || id == d.id)

def pausePipeline (s : TTSSpeaker) : TTSSpeaker :=
  if s.pipeline && !s.isPaused then ({ s with isPaused := true } : TTSSpeaker).setState .paused else s

def resumePipeline (s : TTSSpeaker) : TTSSpeaker :=
  if s.pipeline && s.isPaused then s.setState .playing else s

end TTSSpeaker

end TTS
