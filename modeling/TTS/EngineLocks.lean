import TTS.LockOrder
import TTS.ManagerLock

/-!
# The engine's locks

`TTSManager::m_mutex`, the `m_mutex` of each session, the speaker's
`m_queueMutex` and `m_stateMutex`, and the `m_mutex` of each event source.
Of each function only its locks are kept; a branch on data is `either`. A wait
on `m_condition` holds `m_queueMutex` while it evaluates its predicate and
gives it back in between. The calls into GStreamer made meanwhile are taken
to return.
-/

namespace TTS

open LockOrder Transition

inductive Lock
  | manager
  | session (p : Nat)
  | queue
  | state
  /-- The event queue of a session, or of the manager. -/
  | events (source : Option Nat)
  deriving DecidableEq

def Lock.rank : Lock → Nat
  | .manager => 0
  | .session _ => 1
  | .queue => 2
  | .state => 3
  | .events _ => 4

theorem Lock.rank_le (l : Lock) : l.rank ≤ 4 := by
  cases l <;> simp [rank]

abbrev LockCode := Code Lock

namespace LockCode

/-! ## Event sources -/

def sendEvent (source : Option Nat) : LockCode := .guard (.events source)

/-- The timer callback; `m_emit.send` runs between the sections. -/
def handleEvent (source : Option Nat) : LockCode :=
  .either (.guard (.events source)) (.seq (.guard (.events source)) (.seq (.maybe (.guard (.events source))) (.maybe (.guard (.events source)))))

/-! ## The speaker -/

def ensurePipeline : LockCode := .guard .queue

def queueData : LockCode := .guard .queue

def flushQueue : LockCode := .guard .queue

def dequeueData : LockCode := .guard .queue

def isSpeaking : LockCode := .guard .state

def setSpeakingState : LockCode := .guard .state

def getSpeechState : LockCode := .seq (.guard .state) (.maybe (.guard .queue))

def clearAllSpeechesFrom : LockCode := .scope .queue isSpeaking

/-- `client->configuration()`. -/
def configuration (p : Nat) : LockCode := .guard (.session p)

def speak (p : Nat) : LockCode := .seq (configuration p) (.seq (.maybe flushQueue) queueData)

/-- A wait on `m_condition`, and the loop around it. -/
def wait : LockCode := .loop (.guard .queue)

def waitForStatus : LockCode := .maybe wait

def destroyPipeline : LockCode := .maybe waitForStatus

/-- `resetPipeline` may destroy the pipeline, and it and `createPipeline` call each other. -/
def resetPipeline : LockCode := .seq (.loop destroyPipeline) (.loop waitForStatus)

def createPipeline : LockCode := .maybe resetPipeline

def speakText (p : Nat) : LockCode := .maybe (.seq (configuration p) wait)

/-- The speech the thread takes is of client `p`. -/
def speakNext (p : Nat) : LockCode :=
  .seq dequeueData (.seq setSpeakingState (.seq (.maybe (sendEvent (some p))) (.seq (.maybe (.seq (configuration p) (speakText p)))
    (.seq (.maybe (sendEvent (some p))) (.seq setSpeakingState resetPipeline)))))

def updatePipeline : LockCode :=
  .either (.seq createPipeline (.maybe (.seq dequeueData (.pick fun p => .maybe (sendEvent (some p)))))) destroyPipeline

def gstreamerThreadFunc : LockCode :=
  .seq (.loop (.seq (.maybe updatePipeline) (.seq wait (.either waitForStatus (.maybe (.pick speakNext)))))) destroyPipeline

/-- A state change of the pipeline is told to the client that is speaking. -/
def handleMessage : LockCode := .maybe (.scope .state (.maybe (.pick fun p => .maybe (sendEvent (some p)))))

/-! ## Sessions -/

def setActive (p : Nat) : LockCode := .maybe (sendEvent (some p))

def abortAndClearPending (p : Nat) : LockCode := .maybe (.seq clearAllSpeechesFrom (.maybe (sendEvent (some p))))

def setInactive (p : Nat) : LockCode := .maybe (.seq (abortAndClearPending p) (.maybe (sendEvent (some p))))

def setSessionConfiguration (p : Nat) : LockCode := .scope (.session p) (.maybe isSpeaking)

/-! ## The manager -/

def makeSessionActive (p : Nat) : LockCode := .maybe (.seq ensurePipeline (setActive p))

def makeSessionInActive (p : Nat) : LockCode := .maybe (.seq (setInactive p) ensurePipeline)

def makeReservedOrClaimedSessionActive : LockCode := .maybe (.pick makeSessionActive)

/-- `releasePlayerResource` past its lock. -/
def release : LockCode := .maybe (.seq (.pick makeSessionInActive) makeReservedOrClaimedSessionActive)

def enableTTS : LockCode :=
  .scope .manager (.maybe (.seq (sendEvent none)
    (.either (.either makeReservedOrClaimedSessionActive (.seq (.maybe ensurePipeline) (.loop (.pick setActive))))
      (.either (.pick makeSessionInActive) (.seq ensurePipeline (.loop (.pick setInactive)))))))

/-- The mutex is locked by hand, and where the string is not read it is not given back. -/
def setConfiguration (configuration : Text) : LockCode :=
  match (TTSConfiguration.new.fromString configuration ',').1 with
  | .ok true => .seq (.scope .manager (.loop (.pick setSessionConfiguration))) (.maybe (sendEvent none))
  | _ => .take .manager

def createSession : LockCode :=
  .scope .manager (.maybe (.either makeReservedOrClaimedSessionActive (.maybe (.seq ensurePipeline (.pick setActive)))))

def destroySession : LockCode :=
  .scope .manager (.maybe (.seq (.either release (.pick setInactive)) (.maybe ensurePipeline)))

/-- The guard of `reservePlayerResource` and `releasePlayerResource` ends with the `if` it stands in. -/
def requestPlayerResource (body : LockCode) : LockCode := .maybe (.seq (.guard .manager) body)

def reservePlayerResource : LockCode := requestPlayerResource makeReservedOrClaimedSessionActive

def releasePlayerResource : LockCode := requestPlayerResource release

def claimPlayerResource : LockCode :=
  .maybe (.scope .manager (.maybe (.seq (.maybe release) makeReservedOrClaimedSessionActive)))

end LockCode

/-! ## What the threads call -/

inductive SessionMethod
  | setPreemptiveSpeak
  | getSpeechState
  | speak
  | pause
  | resume
  | shut
  | abortAndClearPending
  | requestExtendedEvents
  | isActive
  | isSpeaking
  | sessionID
  | getConfiguration
  deriving DecidableEq

open LockCode in
def SessionMethod.locks (p : Nat) : SessionMethod → LockCode
  | .setPreemptiveSpeak => .guard (.session p)
  | .getSpeechState => .maybe LockCode.getSpeechState
  | .speak => .maybe (LockCode.speak p)
  | .pause | .resume | .shut | .isSpeaking => .maybe LockCode.isSpeaking
  | .abortAndClearPending => LockCode.abortAndClearPending p
  | .requestExtendedEvents | .isActive | .sessionID | .getConfiguration => .skip

def ManagerOp.locks : ManagerOp → LockCode
  | .enableTTS _ => LockCode.enableTTS
  | .setConfiguration configuration => LockCode.setConfiguration configuration
  | .reservePlayerResource _ => LockCode.reservePlayerResource
  | .releasePlayerResource _ => LockCode.releasePlayerResource
  | .claimPlayerResource _ => LockCode.claimPlayerResource
  | .createSession _ _ _ => LockCode.createSession
  | .destroySession _ => LockCode.destroySession
  | .isTTSEnabled | .listVoices _ | .getConfiguration | .isSessionActiveForApp _ | .getResourceAllocationPolicy => .skip

/-- What a thread of the engine may be in: a request, the speaker's thread, a timer, or a message of the bus. -/
inductive EngineEntry
  | manager (op : ManagerOp)
  | session (p : Nat) (method : SessionMethod)
  | gstreamerThreadFunc
  | handleEvent (source : Option Nat)
  | handleMessage

def EngineEntry.locks : EngineEntry → LockCode
  | .manager op => op.locks
  | .session p method => method.locks p
  | .gstreamerThreadFunc => LockCode.gstreamerThreadFunc
  | .handleEvent source => LockCode.handleEvent source
  | .handleMessage => LockCode.handleMessage

/-- An unreadable string is not passed to `setConfiguration`. -/
def EngineEntry.LeavesMutex : EngineEntry → Prop
  | .manager op => op.LeavesMutex
  | _ => True

def locksMachine : Machine (Threads Lock) (Label EngineEntry) := Threads.machine EngineEntry.locks

/-! ## The order -/

namespace LockCode

theorem sendEvent_above (source : Option Nat) : (sendEvent source).Above Lock.rank 4 := by
  simp [sendEvent, Lock.rank]

theorem isSpeaking_above : isSpeaking.Above Lock.rank 3 := by
  simp [isSpeaking, Lock.rank]

theorem wait_above : wait.Above Lock.rank 2 := by
  simp [wait, Code.Above, Lock.rank]

theorem ensurePipeline_above : ensurePipeline.Above Lock.rank 2 := by
  simp [ensurePipeline, Lock.rank]

theorem setActive_above (p : Nat) : (setActive p).Above Lock.rank 4 := by
  simpa [setActive] using sendEvent_above (some p)

theorem clearAllSpeechesFrom_above : clearAllSpeechesFrom.Above Lock.rank 2 := ⟨Nat.le.refl, isSpeaking_above⟩

theorem abortAndClearPending_above (p : Nat) : (abortAndClearPending p).Above Lock.rank 2 := by
  simp only [abortAndClearPending, Code.above_maybe, Code.Above]
  exact ⟨clearAllSpeechesFrom_above, (sendEvent_above _).mono (by decide)⟩

theorem setInactive_above (p : Nat) : (setInactive p).Above Lock.rank 2 := by
  simp only [setInactive, Code.above_maybe, Code.Above]
  exact ⟨abortAndClearPending_above p, (sendEvent_above _).mono (by decide)⟩

theorem makeReservedOrClaimedSessionActive_above : makeReservedOrClaimedSessionActive.Above Lock.rank 2 := by
  simp only [makeReservedOrClaimedSessionActive, makeSessionActive, Code.above_maybe, Code.Above]
  exact fun p => ⟨ensurePipeline_above, (setActive_above p).mono (by decide)⟩

theorem makeSessionInActive_above (p : Nat) : (makeSessionInActive p).Above Lock.rank 2 := by
  simp only [makeSessionInActive, Code.above_maybe, Code.Above]
  exact ⟨setInactive_above p, ensurePipeline_above⟩

theorem release_above : release.Above Lock.rank 2 := by
  simp only [release, Code.above_maybe, Code.Above]
  exact ⟨makeSessionInActive_above, makeReservedOrClaimedSessionActive_above⟩

theorem resetPipeline_above : resetPipeline.Above Lock.rank 2 := by
  simp only [resetPipeline, destroyPipeline, waitForStatus, Code.above_maybe, Code.Above]
  exact ⟨wait_above, wait_above⟩

theorem speakNext_above (p : Nat) : (speakNext p).Above Lock.rank 0 := by
  simp only [speakNext, speakText, dequeueData, setSpeakingState, configuration, Code.above_maybe, Code.above_guard, Code.Above]
  have hsend := (sendEvent_above (some p)).mono (Nat.zero_le 4)
  have hwait := wait_above.mono (Nat.zero_le 2)
  have hreset := resetPipeline_above.mono (Nat.zero_le 2)
  simp [hsend, hwait, hreset]

theorem gstreamerThreadFunc_above : gstreamerThreadFunc.Above Lock.rank 0 := by
  simp only [gstreamerThreadFunc, updatePipeline, createPipeline, destroyPipeline, waitForStatus, dequeueData,
    Code.above_maybe, Code.above_guard, Code.Above]
  have hsend := fun p => (sendEvent_above (some p)).mono (Nat.zero_le 4)
  have hwait := wait_above.mono (Nat.zero_le 2)
  have hreset := resetPipeline_above.mono (Nat.zero_le 2)
  simp [hsend, hwait, hreset, speakNext_above]

theorem handleMessage_above : handleMessage.Above Lock.rank 0 := by
  simp only [handleMessage, Code.above_maybe, Code.Above]
  exact ⟨Nat.zero_le _, fun p => sendEvent_above (some p)⟩

theorem enableTTS_above : enableTTS.Above Lock.rank 0 := by
  simp only [enableTTS, Code.above_maybe, Code.Above]
  refine ⟨Nat.zero_le _, (sendEvent_above _).mono (by decide), ⟨?_, ?_, ?_⟩, ?_, ?_, ?_⟩
  · exact makeReservedOrClaimedSessionActive_above.mono (by decide)
  · exact ensurePipeline_above.mono (by decide)
  · exact fun p => (setActive_above p).mono (by decide)
  · exact fun p => (makeSessionInActive_above p).mono (by decide)
  · exact ensurePipeline_above.mono (by decide)
  · exact fun p => (setInactive_above p).mono (by decide)

theorem createSession_above : createSession.Above Lock.rank 0 := by
  simp only [createSession, Code.above_maybe, Code.Above]
  refine ⟨Nat.zero_le _, makeReservedOrClaimedSessionActive_above.mono (by decide), ?_, ?_⟩
  · exact ensurePipeline_above.mono (by decide)
  · exact fun p => (setActive_above p).mono (by decide)

theorem destroySession_above : destroySession.Above Lock.rank 0 := by
  simp only [destroySession, Code.above_maybe, Code.Above]
  refine ⟨Nat.zero_le _, ⟨release_above.mono (by decide), ?_⟩, ensurePipeline_above.mono (by decide)⟩
  exact fun p => (setInactive_above p).mono (by decide)

theorem requestPlayerResource_above {body : LockCode} (h : body.Above Lock.rank 2) :
    (requestPlayerResource body).Above Lock.rank 0 := by
  simp only [requestPlayerResource, Code.above_maybe, Code.above_guard, Code.Above]
  exact ⟨Nat.zero_le _, h.mono (Nat.zero_le _)⟩

theorem claimPlayerResource_above : claimPlayerResource.Above Lock.rank 0 := by
  simp only [claimPlayerResource, Code.above_maybe, Code.Above]
  exact ⟨Nat.zero_le _, release_above.mono (by decide), makeReservedOrClaimedSessionActive_above.mono (by decide)⟩

/-- Only the string decides whether `setConfiguration` gives its mutex back. -/
theorem setConfiguration_above_iff (configuration : Text) :
    (setConfiguration configuration).Above Lock.rank 0 ↔ ReadsConfiguration configuration := by
  rw [← fromString_ok_true_iff TTSConfiguration.new]
  unfold setConfiguration
  split
  next h =>
    refine iff_of_true ?_ h
    simp only [setSessionConfiguration, Code.above_maybe, Code.Above]
    exact ⟨⟨Nat.zero_le _, fun p => ⟨Nat.le_add_left _ _, isSpeaking_above.mono (Nat.le_succ _)⟩⟩, (sendEvent_above none).mono (Nat.zero_le _)⟩
  next h => exact iff_of_false id h

end LockCode

theorem SessionMethod.above (p : Nat) (method : SessionMethod) : (method.locks p).Above Lock.rank 0 := by
  cases method with
  | getSpeechState => simp [locks, LockCode.getSpeechState, Code.Above]
  | speak => simp [locks, LockCode.speak, LockCode.configuration, LockCode.flushQueue, LockCode.queueData, Code.Above]
  | abortAndClearPending => exact (LockCode.abortAndClearPending_above p).mono (Nat.zero_le _)
  | setPreemptiveSpeak => simp [locks]
  | pause | resume | shut | isSpeaking => simp [locks, LockCode.isSpeaking]
  | requestExtendedEvents | isActive | sessionID | getConfiguration => trivial

/-- Locks are taken in order and given back, except in a `setConfiguration` with an unreadable string. -/
theorem EngineEntry.above_iff (e : EngineEntry) : e.locks.Above Lock.rank 0 ↔ e.LeavesMutex := by
  cases e with
  | manager op =>
    cases op with
    | setConfiguration configuration => exact LockCode.setConfiguration_above_iff configuration
    | enableTTS => exact iff_of_true LockCode.enableTTS_above trivial
    | createSession => exact iff_of_true LockCode.createSession_above trivial
    | destroySession => exact iff_of_true LockCode.destroySession_above trivial
    | reservePlayerResource =>
      exact iff_of_true (LockCode.requestPlayerResource_above LockCode.makeReservedOrClaimedSessionActive_above) trivial
    | releasePlayerResource => exact iff_of_true (LockCode.requestPlayerResource_above LockCode.release_above) trivial
    | claimPlayerResource => exact iff_of_true LockCode.claimPlayerResource_above trivial
    | isTTSEnabled | listVoices | getConfiguration | isSessionActiveForApp | getResourceAllocationPolicy =>
      exact iff_of_true trivial trivial
  | session p method => exact iff_of_true (method.above p) trivial
  | gstreamerThreadFunc => exact iff_of_true LockCode.gstreamerThreadFunc_above trivial
  | handleEvent source => exact iff_of_true (by simp [locks, LockCode.handleEvent, Code.Above]) trivial
  | handleMessage => exact iff_of_true LockCode.handleMessage_above trivial

/-- The order of the locks and the model of the mutex agree on the manager's operations. -/
theorem ManagerOp.above_iff_endsFree (op : ManagerOp) (m : TTSManager) :
    op.locks.Above Lock.rank 0 ↔ (op.perform ⟨false, m⟩).EndsFree := by
  rw [perform_endsFree_iff]
  exact EngineEntry.above_iff (.manager op)

/-- **No deadlock.** However many threads are in calls and however they
interleave, as long as no unreadable string was set: all calls return after a
fixed number of steps, and until then some thread can go on. -/
theorem engine_calls_return {s : Threads Lock}
    (hs : locksMachine.ReachableIf (fun _ a => ∀ i e choices, a = .call i e choices → e.LeavesMutex) s) :
    ∃ n, ∀ (is : List Nat) (t : Threads Lock), locksMachine.exec s (is.map .go) = some t →
      is.length ≤ n ∧ (is.length < n → ∃ i, (t.goOn i).isSome) ∧
      (is.length = n → (∀ i, t.remaining i = []) ∧ ∀ l, t.holder l = none) := by
  refine Threads.calls_return Lock.rank_le (hs.mono fun s a ha => ?_)
  cases a with
  | call i e choices => exact e.above_iff.mpr (ha i e choices rfl)
  | go i => trivial

def idle : Threads Lock := ⟨fun _ => [], fun _ => none⟩

/-- A thread disables TTS, and takes the resource from the session that has it. -/
def disabling : Threads Lock :=
  { idle with remaining := idle.setRemaining 0 (LockCode.enableTTS.trace [1, 1, 0, 1, 1, 1, 1, 1, 1]).1 }

/-- Meanwhile the bus tells that session of a state change. -/
def disablingAndTelling : Threads Lock :=
  { disabling with remaining := disabling.setRemaining 1 (LockCode.handleMessage.trace [1, 1, 1, 1]).1 }

theorem disabling_calls_return : ∃ n, ∀ (is : List Nat) (t : Threads Lock),
    locksMachine.exec disablingAndTelling (is.map .go) = some t →
      is.length ≤ n ∧ (is.length < n → ∃ i, (t.goOn i).isSome) ∧
      (is.length = n → (∀ i, t.remaining i = []) ∧ ∀ l, t.holder l = none) := by
  refine engine_calls_return ?_
  refine .step (s := disabling) (a := .call 1 .handleMessage [1, 1, 1, 1]) ?_ (fun i e choices h => ?_) rfl
  · refine .step (s := idle) (a := .call 0 (.manager (.enableTTS false)) [1, 1, 0, 1, 1, 1, 1, 1, 1]) (.init rfl)
      (fun i e choices h => ?_) rfl
    cases h
    trivial
  · cases h
    trivial

end TTS
