import TTS.Manager

/-!
# The client

`TTSClientPrivateRtRemote`: its connection to the engine and its sessions. A
remote call appears as the reply the function goes on with, `none` when the
call did not come through; the result value is then empty and reads as 0. The
`SessionInfo` made for an engine's session has that session's address.
-/

namespace TTS

structure SessionInfo where
  appId : Nat
  appName : String
  sessionId : Nat
  gotResource : Bool
  deriving DecidableEq, Repr

inductive Startup
  | locate
  | postConnect
  | monitor
  | restart
  | exited
  deriving DecidableEq, Repr

/-- `manager` is the engine process whose object `m_manager` is, `callback` that
`m_callback` is not NULL. -/
structure TTSClientPrivateRtRemote where
  manager : Option Nat
  connected : Bool
  serverCrashed : Bool
  ttsEnabled : Bool
  callback : Bool
  policy : ResourceAllocationPolicy
  sessionMap : Std.TreeMap Nat Nat
  startup : Startup

namespace TTSClientPrivateRtRemote

/-- The constructor; `found` is what its own `findRemoteObject` located. -/
def new (callback : Bool) (found : Option Nat) : TTSClientPrivateRtRemote where
  manager := found
  connected := false
  serverCrashed := false
  ttsEnabled := false
  callback := callback
  policy := .invalid
  sessionMap := ∅
  startup := .locate

/-- `cleanupConnection`: the ids of the `destroySession` requests it sends on
the old `m_manager`, and what it leaves. -/
def cleanupConnection (s : TTSClientPrivateRtRemote) (serverCrash : Bool) : List Nat × TTSClientPrivateRtRemote :=
  let closed := { s with connected := false, manager := none }
  if s.connected then
    if serverCrash then ([], { closed with serverCrashed := true })
    else (s.sessionMap.keys, { closed with sessionMap := ∅ })
  else ([], closed)

def rtServerCrashCB (s : TTSClientPrivateRtRemote) : TTSClientPrivateRtRemote :=
  if s.callback then (s.cleanupConnection true).2 else s

/-! ## `connectToTTSManager` -/

def locate (s : TTSClientPrivateRtRemote) (found : Option Nat) : TTSClientPrivateRtRemote :=
  match s.manager, found with
  | none, none => { s with startup := .exited }
  | none, some n => { s with manager := some n, startup := .postConnect }
  | some _, _ => { s with startup := .postConnect }

/-- From the policy request to `m_connected = true`. -/
def postConnect (s : TTSClientPrivateRtRemote) (policy : Option ResourceAllocationPolicy) : TTSClientPrivateRtRemote :=
  { s with policy := policy.getD s.policy, connected := true, startup := .monitor }

def awaitCrash (s : TTSClientPrivateRtRemote) : Option TTSClientPrivateRtRemote :=
  if s.serverCrashed then some { s with startup := .restart } else none

def awaitEngine (s : TTSClientPrivateRtRemote) (running : Bool) : TTSClientPrivateRtRemote :=
  if running then { s with serverCrashed := false, startup := .locate } else { s with startup := .exited }

/-! ## Sessions -/

def sessionInfo (s : TTSClientPrivateRtRemote) (appId : Nat) (appName : String) : SessionInfo :=
  ⟨appId, appName, 0, s.policy ≠ .reservation⟩

def eventCallbacks (s : TTSClientPrivateRtRemote) : List String :=
  if s.policy = .reservation then ["resource_acquired", "resource_released"] else []

/-- `createSession`: the id it returns and the client. An id of 0 enters the map
and is returned as a failure. -/
def createSession (s : TTSClientPrivateRtRemote) (reply : Option SessionObject) : Nat × TTSClientPrivateRtRemote :=
  if !s.connected then (0, s)
  else
    match reply with
    | some ⟨.ok, some session, some id, enabled⟩ =>
      (id, { s with
        sessionMap := s.sessionMap.insert id session
        ttsEnabled := if s.callback then enabled.getD false else s.ttsEnabled })
    | _ => (0, s)

def checkSession (s : TTSClientPrivateRtRemote) (sessionId : Nat) : Except TTSError Nat :=
  if !s.connected then .error .fail
  else
    match s.sessionMap[sessionId]? with
    | none => .error .noSessionFound
    | some session => .ok session

def destroyRequest (s : TTSClientPrivateRtRemote) (sessionId : Nat) : Option Nat :=
  match s.checkSession sessionId with
  | .error _ => none
  | .ok _ => some sessionId

def destroySession (s : TTSClientPrivateRtRemote) (sessionId : Nat) (reply : Option TTSError) :
    TTSError × TTSClientPrivateRtRemote :=
  match s.checkSession sessionId with
  | .error e => (e, s)
  | .ok _ =>
    match reply with
    | some .ok => (.ok, { s with sessionMap := s.sessionMap.erase sessionId })
    | some e => (e, s)
    | none => (.ok, s)

/-- `speak`; `gotResource` reads the flag of the session's info. -/
def speak (s : TTSClientPrivateRtRemote) (gotResource : Nat → Bool) (sessionId : Nat) (reply : Option TTSError) :
    TTSError :=
  match s.checkSession sessionId with
  | .error e => e
  | .ok session =>
    if !s.ttsEnabled then .notEnabled
    else if !gotResource session then .sessionNotActive
    else reply.getD .ok

/-- `onConnectionEvent`; of `voice_changed` it only tells the callback. -/
def onConnectionEvent (s : TTSClientPrivateRtRemote) (e : Event) : TTSClientPrivateRtRemote :=
  if e.name = "tts_state_changed" then { s with ttsEnabled := e.flag "enabled" } else s

theorem createSession_connection (s : TTSClientPrivateRtRemote) (reply : Option SessionObject) :
    ∃ sessionMap ttsEnabled, (s.createSession reply).2 = { s with sessionMap := sessionMap, ttsEnabled := ttsEnabled } := by
  unfold createSession
  split
  · exact ⟨_, _, rfl⟩
  · split <;> exact ⟨_, _, rfl⟩

theorem destroySession_connection (s : TTSClientPrivateRtRemote) (id : Nat) (reply : Option TTSError) :
    (s.destroySession id reply).2 = s ∨
      (s.destroySession id reply).2 = { s with sessionMap := s.sessionMap.erase id } := by
  unfold destroySession
  split
  · exact .inl rfl
  · split
    · exact .inr rfl
    · exact .inl rfl
    · exact .inl rfl

theorem onConnectionEvent_policy (s : TTSClientPrivateRtRemote) (e : Event) : (s.onConnectionEvent e).policy = s.policy := by
  unfold onConnectionEvent
  split <;> rfl

end TTSClientPrivateRtRemote

namespace SessionInfo

/-- What `onSessionEvent` does to `m_gotResource`. -/
def onSessionEvent (s : SessionInfo) (e : Event) : SessionInfo :=
  if e.name = "resource_acquired" then { s with gotResource := true }
  else if e.name = "resource_released" then { s with gotResource := false }
  else s

/-- `isActiveSession` of a session it found. `fetched` is what `m_session.get`
gave when `forcefetch` is set, `none` in it for an error. -/
def isActiveSession (s : SessionInfo) (fetched : Option (Option Bool)) : Bool × SessionInfo :=
  match fetched with
  | none => (s.gotResource, s)
  | some none => (false, s)
  | some (some v) => (v, { s with gotResource := v })

end SessionInfo

end TTS
