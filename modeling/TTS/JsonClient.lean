import TTS.Common
import TTS.ValueMap

/-!
# The JSON-RPC client

`TextToSpeechService`, the link to the service, and its client
`TTSClientPrivateJsonRPC`. The service numbers the speeches itself;
`SpeechRequestMap` keeps its number for each id the user chose. A remote call
appears as its reply, and `accepts` says which subscriptions succeed.
-/

namespace TTS

/-! ## The id map -/

abbrev SpeechRequestMap := Std.TreeMap Nat Nat

namespace SpeechRequestMap

def add (m : SpeechRequestMap) (clientid serviceid : Nat) : Bool × SpeechRequestMap :=
  if clientid ∈ m then (false, m) else (true, m.insert clientid serviceid)

def getClientId (m : SpeechRequestMap) (serviceid : Nat) : Nat := ((ValueMap.firstWith m serviceid).map Prod.fst).getD 0

def removeServiceId (m : SpeechRequestMap) (serviceid : Nat) : Nat × SpeechRequestMap :=
  match ValueMap.firstWith m serviceid with
  | none => (0, m)
  | some it => (it.1, m.erase it.1)

end SpeechRequestMap

/-! ## The link to the service -/

inductive SpeechEvent
  | start
  | pause
  | resume
  | cancel
  | interrupt
  | networkError
  | playbackError
  | complete
  deriving DecidableEq, Repr

namespace SpeechEvent

def name : SpeechEvent → String
  | .start => "onspeechstart"
  | .pause => "onspeechpause"
  | .resume => "onspeechresume"
  | .cancel => "onspeechcancelled"
  | .interrupt => "onspeechinterrupted"
  | .networkError => "onnetworkerror"
  | .playbackError => "onplaybackerror"
  | .complete => "onspeechcomplete"

def all : List SpeechEvent :=
  [.start, .pause, .resume, .cancel, .interrupt, .networkError, .playbackError, .complete]

def terminal : SpeechEvent → Bool
  | .start | .pause | .resume => false
  | .cancel | .interrupt | .networkError | .playbackError | .complete => true

end SpeechEvent

/-- `remoteObject` says that `m_remoteObject` is not null; `isInitialized` is `m_initialized`. -/
structure TextToSpeechService where
  active : Bool
  remoteObject : Bool
  eventsRegistered : List String
  isInitialized : Bool
  registeredSpeechEventHandlers : Bool

namespace TextToSpeechService

def new : TextToSpeechService where
  active := false
  remoteObject := false
  eventsRegistered := []
  isInitialized := false
  registeredSpeechEventHandlers := false

def initialized (s : TextToSpeechService) : Bool := s.remoteObject && s.isInitialized

def subscribe (accepts : String → Bool) (s : TextToSpeechService) (event : String) : TextToSpeechService :=
  if s.remoteObject && accepts event then { s with eventsRegistered := s.eventsRegistered ++ [event] } else s

/-- `initialize`; `active` is what `isActive` found. Also whether it went on to
tell the clients that TTS is disabled. -/
def setUp (s : TextToSpeechService) (active : Bool) (accepts : String → Bool) : Bool × TextToSpeechService :=
  if s.initialized then (false, s)
  else
    let s := { s with active := active, remoteObject := s.remoteObject || active }
    let s := if s.active && s.remoteObject then ["onttsstatechanged", "onvoicechanged"].foldl (subscribe accepts) s else s
    (true, { s with isInitialized := true })

def deactivated (s : TextToSpeechService) : TextToSpeechService :=
  { s with
    active := false
    remoteObject := false
    eventsRegistered := []
    isInitialized := false
    registeredSpeechEventHandlers := false }

def registerSpeechEventHandlers (s : TextToSpeechService) (accepts : String → Bool) : TextToSpeechService :=
  if s.active && !s.registeredSpeechEventHandlers && s.remoteObject then
    (SpeechEvent.all.map SpeechEvent.name).foldl (subscribe accepts) { s with registeredSpeechEventHandlers := true }
  else s

end TextToSpeechService

/-! ## The client -/

structure SpeechReport where
  event : SpeechEvent
  appId : Nat
  sessionId : Nat
  speechId : Nat
  deriving DecidableEq, Repr

/-- What `invoke("speak")` gives back: nothing when it failed, else the `speechid` label, if there is one. -/
abbrev SpeakReply := Option (Option Nat)

structure TTSClientPrivateJsonRPC where
  ttsEnabled : Bool
  connectionCallback : Bool
  sessionCallback : Bool
  requestedSpeeches : SpeechRequestMap
  lastSpeechId : Nat
  appId : Nat
  firstQuery : Bool

namespace TTSClientPrivateJsonRPC

def defaultSessionId : Nat := 1

def new (connectionCallback : Bool) : TTSClientPrivateJsonRPC where
  ttsEnabled := false
  connectionCallback := connectionCallback
  sessionCallback := false
  requestedSpeeches := ∅
  lastSpeechId := 0
  appId := 0
  firstQuery := true

/-- `isTTSEnabled`; `fetched` is the reply of the remote call, should it be made. -/
def isTTSEnabled (s : TTSClientPrivateJsonRPC) (active force : Bool) (fetched : Option Bool) :
    Bool × TTSClientPrivateJsonRPC :=
  if !active then (false, s)
  else
    let force := force || s.firstQuery
    let s := { s with firstQuery := false }
    if !force then (s.ttsEnabled, s)
    else
      match fetched with
      | none => (false, s)
      | some enabled => (enabled, { s with ttsEnabled := enabled })

def createSession (s : TTSClientPrivateJsonRPC) (active : Bool) (appId : Nat) (callback : Bool)
    (fetched : Option Bool) : Nat × TTSClientPrivateJsonRPC :=
  if !active then (0, s)
  else
    let s := { s with appId := appId }
    let s := if s.connectionCallback then (s.isTTSEnabled active true fetched).2 else s
    (defaultSessionId, { s with sessionCallback := callback })

def speakTest (s : TTSClientPrivateJsonRPC) (active : Bool) : TTSError :=
  if !active then .fail else if !s.ttsEnabled then .notEnabled else .ok

def speakCall (s : TTSClientPrivateJsonRPC) : TTSClientPrivateJsonRPC := { s with lastSpeechId := 0 }

def speakReturn (s : TTSClientPrivateJsonRPC) (id : Nat) : SpeakReply → TTSError × TTSClientPrivateJsonRPC
  | none => (.fail, s)
  | some none => (.ok, s)
  | some (some speechid) =>
    (.ok, { s with lastSpeechId := speechid, requestedSpeeches := (s.requestedSpeeches.add id speechid).2 })

def onDeactivation (s : TTSClientPrivateJsonRPC) : TTSClientPrivateJsonRPC :=
  { s with lastSpeechId := 0, ttsEnabled := false }

def onTTSStateChange (s : TTSClientPrivateJsonRPC) (enabled : Bool) : TTSClientPrivateJsonRPC :=
  { s with lastSpeechId := 0, ttsEnabled := enabled }

/-! ## Speech events -/

def reportAs (s : TTSClientPrivateJsonRPC) (event : SpeechEvent) (clientSpeechId : Nat) : List SpeechReport :=
  if clientSpeechId ≠ 0 ∧ s.sessionCallback = true then [⟨event, s.appId, defaultSessionId, clientSpeechId⟩] else []

def onProgress (event : SpeechEvent) (s : TTSClientPrivateJsonRPC) (serviceSpeechId : Nat) :
    List SpeechReport × TTSClientPrivateJsonRPC :=
  (s.reportAs event (s.requestedSpeeches.getClientId serviceSpeechId), s)

def onEnd (event : SpeechEvent) (s : TTSClientPrivateJsonRPC) (serviceSpeechId : Nat) :
    List SpeechReport × TTSClientPrivateJsonRPC :=
  let (clientSpeechId, speeches) := s.requestedSpeeches.removeServiceId serviceSpeechId
  (s.reportAs event clientSpeechId, { s with requestedSpeeches := speeches })

def onSpeechStart := onProgress .start
def onSpeechPause := onProgress .pause
def onSpeechResume := onProgress .resume
def onSpeechCancel := onEnd .cancel
def onSpeechInterrupt := onEnd .interrupt
def onNetworkError := onEnd .networkError
def onPlaybackError := onEnd .playbackError
def onSpeechComplete := onEnd .complete

end TTSClientPrivateJsonRPC

/-- `dispatchEvent` of a speech event with a `speechid`, for one client. -/
def TextToSpeechService.dispatchEvent (s : TextToSpeechService) (event : SpeechEvent) (speechid : Nat)
    (c : TTSClientPrivateJsonRPC) : List SpeechReport × TTSClientPrivateJsonRPC :=
  if s.initialized then
    match event with
    | .start => c.onSpeechStart speechid
    | .pause => c.onSpeechPause speechid
    | .resume => c.onSpeechResume speechid
    | .cancel => c.onSpeechCancel speechid
    | .interrupt => c.onSpeechInterrupt speechid
    | .networkError => c.onNetworkError speechid
    | .playbackError => c.onPlaybackError speechid
    | .complete => c.onSpeechComplete speechid
  else ([], c)

section
variable {s : TextToSpeechService} {c : TTSClientPrivateJsonRPC}

theorem TextToSpeechService.dispatchEvent_progress {e : SpeechEvent} (he : e.terminal = false)
    (hs : s.initialized = true) (n : Nat) : s.dispatchEvent e n c = c.onProgress e n := by
  unfold dispatchEvent
  rw [if_pos hs]
  cases e with
  | start | pause | resume => rfl
  | cancel | interrupt | networkError | playbackError | complete => cases he

theorem TextToSpeechService.dispatchEvent_end {e : SpeechEvent} (he : e.terminal = true)
    (hs : s.initialized = true) (n : Nat) : s.dispatchEvent e n c = c.onEnd e n := by
  unfold dispatchEvent
  rw [if_pos hs]
  cases e with
  | start | pause | resume => cases he
  | cancel | interrupt | networkError | playbackError | complete => rfl

end

end TTS
