import TTS.Speaker

/-!
# Sessions

A session object keeps its configuration, an update parked while it speaks,
and the events it has handed to `sendEvent`. Functions that reach the speaker
take it and give it back.
-/

namespace TTS

/-- The members of `TTSSession`; `speaker` says that `m_speaker` is not NULL,
`listeners` are the event names registered on it, `events` what was passed to `sendEvent`. -/
structure TTSSession where
  appId : Nat
  name : String
  sessionId : Nat
  speaker : Bool
  tmpConfiguration : TTSConfiguration
  configuration : TTSConfiguration
  havingConfigToUpdate : Bool
  extendedEvents : Nat
  listeners : List String
  events : List Event
  deriving DecidableEq

namespace TTSSession

def new (appId : Nat) (appName : String) (sessionId : Nat) (configuration : TTSConfiguration) : TTSSession where
  appId := appId
  name := appName
  sessionId := sessionId
  speaker := false
  tmpConfiguration := .new
  configuration := configuration
  havingConfigToUpdate := false
  extendedEvents := 0
  listeners := []
  events := []

def sendEvent (s : TTSSession) (e : Event) : TTSSession := { s with events := s.events ++ [e] }

def resourceAcquired (sessionId : Nat) : Event := (Event.new "resource_acquired").set "session" (.num sessionId)

def resourceReleased (sessionId : Nat) : Event := (Event.new "resource_released").set "session" (.num sessionId)

def setActive (s : TTSSession) (notifyClient : Bool) : TTSSession :=
  if s.speaker then s
  else
    let s := { s with speaker := true }
    if notifyClient then s.sendEvent (resourceAcquired s.sessionId) else s

def joinIds (ids : List Nat) : String := String.ofList ((ids.map natToString).intersperse [',']).flatten

def cancelled (s : TTSSession) (speeches : List Nat) : TTSSession :=
  if !ExtendedEvent.cancelled.requested s.extendedEvents then s
  else if speeches.isEmpty then s
  else s.sendEvent ((Event.new "cancelled").set "ids" (.str (joinIds speeches)))

/-- `self` is the session's own address, by which the speaker knows it. -/
def abortAndClearPending (s : TTSSession) (self : Nat) (sp : TTSSpeaker) : TTSSession × TTSSpeaker :=
  if s.speaker then
    let (ds, sp) := sp.clearAllSpeechesFrom self
    (s.cancelled (ds.map SpeechData.id), sp)
  else (s, sp)

def setInactive (s : TTSSession) (self : Nat) (sp : TTSSpeaker) (notifyClient : Bool) : TTSSession × TTSSpeaker :=
  if s.speaker then
    let (s, sp) := s.abortAndClearPending self sp
    let s := { s with speaker := false }
    (if notifyClient then s.sendEvent (resourceReleased s.sessionId) else s, sp)
  else (s, sp)

/-- `speak` up to the queueing of the speech. -/
def speak (s : TTSSession) : TTSError :=
  if !s.speaker then .sessionNotActive else if !s.configuration.isValid then .invalidConfiguration else .ok

/-- `setConfiguration`; `speaking` is the speaker's answer to `isSpeaking(this)`. -/
def setConfiguration (s : TTSSession) (config : TTSConfiguration) (speaking : Bool) : TTSSession :=
  if s.speaker && speaking then { s with tmpConfiguration := config, havingConfigToUpdate := true }
  else { s with configuration := s.configuration.updateWith config }

def spoke (s : TTSSession) (id : Nat) (text : Text) : TTSSession :=
  let s :=
    if s.havingConfigToUpdate then
      { s with configuration := s.configuration.updateWith s.tmpConfiguration, havingConfigToUpdate := false }
    else s
  s.sendEvent (((Event.new "spoke").set "id" (.num id)).set "text" (.str (String.ofList text)))

/-- What `interrupted`, `networkerror` and `playbackerror` do: the event, if it was requested. -/
def sendExtended (s : TTSSession) (e : ExtendedEvent) (name : String) (id : Nat) : TTSSession :=
  if !e.requested s.extendedEvents then s else s.sendEvent ((Event.new name).set "id" (.num id))

def interrupted (s : TTSSession) (id : Nat) : TTSSession := s.sendExtended .interrupted "interrupted" id

def networkerror (s : TTSSession) (id : Nat) : TTSSession := s.sendExtended .networkError "networkerror" id

def playbackerror (s : TTSSession) (id : Nat) : TTSSession := s.sendExtended .playbackError "playbackerror" id

def ended (s : TTSSession) (k : Terminal) (id : Nat) (text : Text) : TTSSession :=
  match k with
  | .spoke => s.spoke id text
  | .interrupted => s.interrupted id
  | .networkerror => s.networkerror id
  | .playbackerror => s.playbackerror id

end TTSSession

end TTS
