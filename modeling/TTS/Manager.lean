import TTS.Monitor
import TTS.Session

/-!
# The manager

`TTSManager` keeps the sessions and decides who may use the speaker. The first
part are the bodies of its operations as functions of its members; the second
part puts them under `m_mutex`, with the exits and exceptions of the source.
A session pointer is an index into `objects`, the sessions ever created.
-/

namespace TTS

structure TTSManager where
  appMap : Std.TreeMap Nat Nat
  sessionMap : Std.TreeMap Nat Nat
  /-- The session id each monitored connection announced. -/
  connectionMap : Std.TreeMap Nat Nat
  defaultConfiguration : TTSConfiguration
  others : Others
  policy : ResourceAllocationPolicy
  reservedApp : Nat
  claimedApp : Nat
  activeSession : Option Nat
  speaker : TTSSpeaker
  ttsEnabled : Bool
  objects : List TTSSession
  /-- The static `counter` of `nextSessionId`. -/
  counter : Nat
  events : List Event

structure SessionObject where
  result : TTSError
  session : Option Nat
  id : Option Nat
  ttsEnabled : Option Bool
  deriving DecidableEq, Repr

namespace TTSManager

/-- `PRIORITY` is not implemented and falls back to `OPEN`. -/
def setResourceAllocationPolicy (m : TTSManager) (policy : ResourceAllocationPolicy) : TTSManager :=
  if m.policy ≠ policy then { m with policy := if policy = .priority then .open else policy } else m

/-- The constructor, with what `loadConfigurationsFromFile` read. -/
def new (configuration : TTSConfiguration) (others : Others) (policy : ResourceAllocationPolicy)
    (maxFailures : Nat) : TTSManager :=
  setResourceAllocationPolicy
    { appMap := ∅
      sessionMap := ∅
      connectionMap := ∅
      defaultConfiguration := configuration
      others := others
      policy := .invalid
      reservedApp := 0
      claimedApp := 0
      activeSession := none
      speaker := .new maxFailures
      ttsEnabled := false
      objects := []
      counter := 0
      events := [] } policy

/-! ## Session pointers -/

def appId (m : TTSManager) (p : Nat) : Nat := ((m.objects[p]?).map TTSSession.appId).getD 0

def holds (m : TTSManager) (p : Nat) : Bool := ((m.objects[p]?).map TTSSession.speaker).getD false

def setActive (m : TTSManager) (p : Nat) (notifyClient : Bool) : TTSManager :=
  { m with objects := m.objects.modify p fun s => s.setActive notifyClient }

def setInactive (m : TTSManager) (p : Nat) (notifyClient : Bool) : TTSManager :=
  { m with
    objects := m.objects.modify p fun s => (s.setInactive p m.speaker notifyClient).1
    speaker := ((m.objects[p]?).map fun s => (s.setInactive p m.speaker notifyClient).2).getD m.speaker }

def sendEvent (m : TTSManager) (e : Event) : TTSManager := { m with events := m.events ++ [e] }

def ensurePipeline (m : TTSManager) (flag : Bool) : TTSManager :=
  { m with speaker := m.speaker.setEnsurePipeline flag }

/-! ## Bodies of the operations -/

def makeSessionActive (m : TTSManager) (session : Nat) : TTSManager :=
  if m.activeSession ≠ some session then
    { (m.ensurePipeline true).setActive session true with activeSession := some session }
  else m

def makeSessionInActive (m : TTSManager) (session : Option Nat) : TTSManager :=
  match session with
  | none => m
  | some p =>
    if m.activeSession = some p then { (m.setInactive p true).ensurePipeline false with activeSession := none } else m

def owner (m : TTSManager) : Nat := if m.claimedApp ≠ 0 then m.claimedApp else m.reservedApp

def makeReservedOrClaimedSessionActive (m : TTSManager) : TTSManager :=
  if m.ttsEnabled then
    if m.owner ≠ 0 then
      match m.appMap[m.owner]? with
      | none => m
      | some p => m.makeSessionActive p
    else m
  else m

def enableTTS (m : TTSManager) (enable : Bool) : TTSManager :=
  if m.ttsEnabled ≠ enable then
    let m := ({ m with ttsEnabled := enable } : TTSManager).sendEvent
      ((Event.new "tts_state_changed").set "enabled" (.bool enable))
    if enable then
      if m.policy = .reservation then m.makeReservedOrClaimedSessionActive
      else
        let m := if !m.sessionMap.isEmpty then m.ensurePipeline true else m
        m.sessionMap.toList.foldl (fun m it => m.setActive it.2 false) m
    else if m.policy = .reservation then m.makeSessionInActive m.activeSession
    else (m.ensurePipeline false).sessionMap.toList.foldl (fun m it => m.setInactive it.2 false) (m.ensurePipeline false)
  else m

def nextSessionId (m : TTSManager) : Nat := (m.counter + 1) % 2 ^ 32

def enterSession (m : TTSManager) (appId : Nat) (appName : String) : TTSManager :=
  { m with
    counter := m.nextSessionId
    objects := m.objects ++ [TTSSession.new appId appName m.nextSessionId m.defaultConfiguration]
    appMap := m.appMap.insert appId m.objects.length
    sessionMap := m.sessionMap.insert m.nextSessionId m.objects.length }

def addSession (m : TTSManager) (appId : Nat) (appName : String) : TTSManager :=
  let session := m.objects.length
  let m := m.enterSession appId appName
  if m.policy = .reservation then m.makeReservedOrClaimedSessionActive
  else if m.ttsEnabled then (m.ensurePipeline true).setActive session false
  else m

def createSession (m : TTSManager) (appId : Nat) (appName : String) : SessionObject × TTSManager :=
  if m.sessionMap.toList.any fun it => m.appId it.2 = appId then
    (⟨.createSessionDuplicate, none, none, none⟩, m)
  else (⟨.ok, some m.objects.length, some m.nextSessionId, some m.ttsEnabled⟩, m.addSession appId appName)

/-- `session->send("on", key, ref)` for every key. -/
def installCallbacks (m : TTSManager) (session : Nat) (keys : List String) : TTSManager :=
  { m with objects := m.objects.modify session fun s => { s with listeners := s.listeners ++ keys } }

def reservePlayerResource (m : TTSManager) (appId : Nat) : TTSError × TTSManager :=
  if appId = 0 then (.emptyAppidInput, m)
  else if m.reservedApp ≠ 0 then
    if m.reservedApp = appId then (.ok, m) else (.resourceBusy, m)
  else (.ok, ({ m with reservedApp := appId } : TTSManager).makeReservedOrClaimedSessionActive)

def isActiveApp (m : TTSManager) (appId : Nat) : Bool := m.activeSession.any fun p => m.appId p = appId

def releasePlayerResource (m : TTSManager) (appId : Nat) : TTSError × TTSManager :=
  if appId = 0 then (.emptyAppidInput, m)
  else if m.claimedApp ≠ 0 ∧ m.claimedApp = appId then
    let m := { m with claimedApp := 0 }
    if m.isActiveApp appId ∧ appId ≠ m.reservedApp then
      (.ok, (m.makeSessionInActive m.activeSession).makeReservedOrClaimedSessionActive)
    else (.ok, m)
  else if m.reservedApp ≠ 0 then
    if m.reservedApp ≠ appId then (.fail, m)
    else
      let m := if m.isActiveApp appId then m.makeSessionInActive m.activeSession else m
      (.ok, { m with reservedApp := 0 })
  else (.ok, m)

def claimPlayerResource (m : TTSManager) (appId : Nat) : TTSError × TTSManager :=
  if appId = 0 then (.emptyAppidInput, m)
  else if appId ∉ m.appMap then (.appNotFound, m)
  else if m.claimedApp ≠ 0 then
    if m.claimedApp = appId then (.ok, m) else (.resourceBusy, m)
  else
    let m := { m with claimedApp := appId }
    if m.reservedApp ≠ 0 ∧ m.reservedApp = m.claimedApp then (.ok, { m with claimedApp := 0 })
    else
      let m :=
        if m.reservedApp ≠ 0 then { (m.releasePlayerResource m.reservedApp).2 with reservedApp := m.reservedApp }
        else m
      let m := m.makeReservedOrClaimedSessionActive
      (if !m.ttsEnabled then .ok else if m.isActiveApp m.claimedApp then .ok else .fail, m)

def closeConnection (m : TTSManager) (sessionId : Nat) : TTSManager :=
  match m.connectionMap.toList.find? fun es => es.2 = sessionId with
  | none => m
  | some es => { m with connectionMap := m.connectionMap.erase es.1 }

def destroySession (m : TTSManager) (sessionId : Nat) : TTSError × TTSManager :=
  match m.sessionMap[sessionId]? with
  | none => (.noSessionFound, m)
  | some session =>
    let m :=
      if m.policy = .reservation then (m.releasePlayerResource (m.appId session)).2 else m.setInactive session false
    let m := { m with sessionMap := m.sessionMap.erase sessionId, appMap := m.appMap.erase (m.appId session) }
    let m := m.closeConnection sessionId
    (.ok, if m.sessionMap.isEmpty then m.ensurePipeline false else m)

def voice (m : TTSManager) : Text := m.defaultConfiguration.resolvedVoice m.others

/-- `setConfiguration` from the mirroring of the endpoints to the loop over the sessions. -/
def passConfiguration (m : TTSManager) : TTSManager :=
  let config := m.defaultConfiguration.mirrorEndPoints
  { m with
    defaultConfiguration := config
    objects := m.sessionMap.toList.foldl
      (fun objects it =>
        objects.modify it.2 fun s => s.setConfiguration config (m.speaker.isSpeakingClient it.2)) m.objects }

def announceVoice (m : TTSManager) (v : Text) : TTSManager :=
  if v ≠ m.voice then m.sendEvent ((Event.new "voice_changed").set "voice" (.str (String.ofList m.voice))) else m

@[simp] theorem announceVoice_objects (m : TTSManager) (v : Text) : (m.announceVoice v).objects = m.objects := by
  unfold announceVoice
  split <;> rfl

@[simp] theorem announceVoice_sessionMap (m : TTSManager) (v : Text) :
    (m.announceVoice v).sessionMap = m.sessionMap := by
  unfold announceVoice
  split <;> rfl

@[simp] theorem announceVoice_defaultConfiguration (m : TTSManager) (v : Text) :
    (m.announceVoice v).defaultConfiguration = m.defaultConfiguration := by
  unfold announceVoice
  split <;> rfl

@[simp] theorem announceVoice_speaker (m : TTSManager) (v : Text) : (m.announceVoice v).speaker = m.speaker := by
  unfold announceVoice
  split <;> rfl

def isSessionActiveForApp (m : TTSManager) (appId : Nat) : Bool :=
  if m.policy = .reservation then m.isActiveApp appId else m.appMap.contains appId

/-- The voices of a language, of all languages for `*`, or the configured voice. -/
def listVoices (m : TTSManager) (language : Text) : List Text :=
  if language.isEmpty then [m.voice]
  else
    let key := "voice_for_".toList ++ (if language ≠ ['*'] then language else [])
    (m.others.toList.filter fun it => key.isPrefixOf it.1.toList).map Prod.snd

end TTSManager

/-! ## The operations and their locking -/

abbrev EngineM : Type → Type := Monitor.Act StdException TTSManager

/-- What an operation writes to its result arguments; all of them return `RT_OK`. -/
inductive ManagerReply
  | none
  | flag (b : Bool)
  | code (e : TTSError)
  | object (o : SessionObject)
  | voices (vs : List Text)
  | text (t : Text)
  | policy (p : ResourceAllocationPolicy)
  deriving DecidableEq

namespace EngineM

open Monitor Act

def enableTTS (enable : Bool) : EngineM ManagerReply :=
  lockGuard (run fun m => (.none, m.enableTTS enable))

def createSession (appId : Nat) (appName : String) (keys : List String) : EngineM ManagerReply := do
  let object ← lockGuard (run fun m => m.createSession appId appName)
  match object.session with
  | Option.none => return .object object
  | some session => run fun m => (.object object, m.installCallbacks session keys)

def destroySession (sessionId : Nat) : EngineM ManagerReply :=
  lockGuard (run fun m => ((m.destroySession sessionId).map .code id))

def setConfiguration (configuration : Text) : EngineM ManagerReply := do
  let v ← get TTSManager.voice
  lock
  let parsed ← onState fun m =>
    let (r, config) := m.defaultConfiguration.fromString configuration ','
    (r, { m with defaultConfiguration := config })
  -- the early return leaves the mutex held
  if !parsed then return .none
  run fun m => ((), m.passConfiguration)
  unlock
  run fun m => (.none, m.announceVoice v)

/-- The policy test, the lock and the body that reserving and releasing share.
The guard is the body of an `if`, so it locks and unlocks before the rest runs. -/
def requestPlayerResource (body : TTSManager → TTSError × TTSManager) (internalReq : Bool) : EngineM ManagerReply := do
  let policy ← get TTSManager.policy
  if policy ≠ .reservation then return .code .ok
  if !internalReq then lockGuard (Act.pure ⟨⟩)
  run fun m => (body m).map .code id

def reservePlayerResource (appId : Nat) (internalReq : Bool) : EngineM ManagerReply :=
  requestPlayerResource (fun m => m.reservePlayerResource appId) internalReq

def releasePlayerResource (appId : Nat) (internalReq : Bool) : EngineM ManagerReply :=
  requestPlayerResource (fun m => m.releasePlayerResource appId) internalReq

def claimPlayerResource (appId : Nat) : EngineM ManagerReply := do
  let policy ← get TTSManager.policy
  if policy ≠ .reservation then return .code .ok
  lockGuard (run fun m => (m.claimPlayerResource appId).map .code id)

end EngineM

inductive ManagerOp
  | enableTTS (enable : Bool)
  | isTTSEnabled
  | listVoices (language : Text)
  | setConfiguration (configuration : Text)
  | getConfiguration
  | isSessionActiveForApp (appId : Nat)
  | getResourceAllocationPolicy
  | reservePlayerResource (appId : Nat)
  | releasePlayerResource (appId : Nat)
  | claimPlayerResource (appId : Nat)
  | createSession (appId : Nat) (appName : String) (keys : List String)
  | destroySession (sessionId : Nat)

open Monitor in
def ManagerOp.perform : ManagerOp → EngineM ManagerReply
  | .enableTTS enable => EngineM.enableTTS enable
  | .isTTSEnabled => Act.get fun m => .flag m.ttsEnabled
  | .listVoices language => Act.get fun m => .voices (m.listVoices language)
  | .setConfiguration configuration => EngineM.setConfiguration configuration
  | .getConfiguration => Act.get fun m => .text (m.defaultConfiguration.toString m.others ',')
  | .isSessionActiveForApp appId => Act.get fun m => .flag (m.isSessionActiveForApp appId)
  | .getResourceAllocationPolicy => Act.get fun m => .policy m.policy
  | .reservePlayerResource appId => EngineM.reservePlayerResource appId false
  | .releasePlayerResource appId => EngineM.releasePlayerResource appId false
  | .claimPlayerResource appId => EngineM.claimPlayerResource appId
  | .createSession appId appName keys => EngineM.createSession appId appName keys
  | .destroySession sessionId => EngineM.destroySession sessionId

end TTS
