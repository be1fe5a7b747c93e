import TTS.Client

/-!
# The client's remote calls

A call of the client returns before it asks the engine for anything, or sends
one request and goes on with the reply: the code of the transport, and a
result that the engine may not have filled in.
-/

namespace TTS

/-- `result` is an `rtValue`, `none` when it was never filled. -/
structure RemoteReply where
  rc : RtError
  result : Option Nat
  deriving DecidableEq, Repr

def RemoteReply.toUInt8 (r : RemoteReply) : Nat := (r.result.getD 0) % 256

/-- `session` is the session object the request goes to, `none` for `m_manager`. -/
structure Request where
  session : Option Nat
  method : String
  args : List RtValue
  deriving DecidableEq, Repr

/-- What the client keeps beside its connection: `m_gotResource` and
`m_extendedEvents` of each `SessionInfo`, and `m_cachedEnableTTS`. -/
structure RemoteClient where
  client : TTSClientPrivateRtRemote
  gotResource : Nat → Bool
  extendedEvents : Nat → Nat
  cachedEnableTTS : Option Bool

/-- A call returns, or it sends `request` and goes on with the reply. Before it
may send `handlers`, of whose outcome only a log line tells. -/
inductive Attempt
  | returns (code : Nat) (s : RemoteClient)
  | sends (handlers : List Request) (request : Request) (go : RemoteReply → Nat × RemoteClient)

def resultCode (r : RemoteReply) : Nat :=
  if r.rc ≠ .ok ∨ r.toUInt8 ≠ TTSError.ok.code then r.toUInt8 else TTSError.ok.code

def statusCode (r : RemoteReply) : Nat := if r.rc ≠ .ok then TTSError.fail.code else TTSError.ok.code

def ExtendedEvent.name : ExtendedEvent → String
  | .willSpeak => "willSpeak"
  | .paused => "paused"
  | .resumed => "resumed"
  | .cancelled => "cancelled"
  | .interrupted => "interrupted"
  | .networkError => "networkerror"
  | .playbackError => "playbackerror"

/-- `SET_UNSET_EXTENDED_EVENT`, on the flags and the handler requests so far. -/
def setUnsetExtendedEvent (session input : Nat) (s : Nat × List Request) (event : ExtendedEvent) : Nat × List Request :=
  if event.requested input && !event.requested s.1 then
    (s.1 ||| 1 <<< event.bit, s.2 ++ [⟨session, "on", [.str event.name]⟩])
  else if !event.requested input && event.requested s.1 then
    (s.1 ^^^ 1 <<< event.bit, s.2 ++ [⟨session, "del", [.str event.name]⟩])
  else s

namespace RemoteClient

def resourceCall (s : RemoteClient) (method : String) (appId : Nat) : Attempt :=
  if !s.client.connected then .returns TTSError.fail.code s
  else if s.client.policy ≠ .reservation then .returns TTSError.policyViolation.code s
  else .sends [] ⟨none, method, [.num appId]⟩ fun r => (resultCode r, s)

def acquireResource (s : RemoteClient) (appId : Nat) : Attempt := s.resourceCall "reservePlayerResource" appId

def claimResource (s : RemoteClient) (appId : Nat) : Attempt := s.resourceCall "claimPlayerResource" appId

def releaseResource (s : RemoteClient) (appId : Nat) : Attempt := s.resourceCall "releasePlayerResource" appId

def enableTTS (s : RemoteClient) (enable : Bool) : Attempt :=
  if !s.client.connected then .returns TTSError.ok.code { s with cachedEnableTTS := some enable }
  else .sends [] ⟨none, "enableTTS", [.bool enable]⟩ fun r => (statusCode r, s)

/-- What the calls on a session share: the two checks, then a test of their own
that may return a code. -/
def sessionCall (s : RemoteClient) (sessionId : Nat) (test : Nat → Option TTSError) (send : Nat → Attempt) : Attempt :=
  match s.client.checkSession sessionId with
  | .error e => .returns e.code s
  | .ok session =>
    match test session with
    | some e => .returns e.code s
    | none => send session

def destroySession (s : RemoteClient) (sessionId : Nat) : Attempt :=
  s.sessionCall sessionId (fun _ => none) fun _ => .sends [] ⟨none, "destroySession", [.num sessionId]⟩ fun r =>
    if r.rc ≠ .ok ∨ r.toUInt8 ≠ TTSError.ok.code then (r.toUInt8, s)
    else (TTSError.ok.code, { s with client := { s.client with sessionMap := s.client.sessionMap.erase sessionId } })

def setPreemptiveSpeak (s : RemoteClient) (sessionId : Nat) (preemptive : Bool) : Attempt :=
  s.sessionCall sessionId (fun _ => none) fun session =>
    .sends [] ⟨session, "setPreemptiveSpeak", [.bool preemptive]⟩ fun r => (resultCode r, s)

def requestExtendedEvents (s : RemoteClient) (sessionId extendedEvents : Nat) : Attempt :=
  s.sessionCall sessionId (fun _ => none) fun session =>
    let (flags, handlers) :=
      [.willSpeak, .paused, .resumed, .cancelled, .interrupted, .networkError, .playbackError].foldl
        (setUnsetExtendedEvent session extendedEvents) (s.extendedEvents session, [])
    .sends handlers ⟨session, "requestExtendedEvents", [.num flags]⟩ fun r =>
      (statusCode r, { s with extendedEvents := fun p => if p = session then flags else s.extendedEvents p })

def speak (s : RemoteClient) (sessionId id : Nat) (text : Text) (secure : Bool) : Attempt :=
  s.sessionCall sessionId
    (fun session =>
      if !s.client.ttsEnabled then some .notEnabled
      else if !s.gotResource session then some .sessionNotActive
      else none)
    fun session =>
      .sends [] ⟨session, "speak", [.num id, .str (String.ofList text), .bool secure]⟩ fun r => (resultCode r, s)

def whenEnabled (s : RemoteClient) : Option TTSError := if !s.client.ttsEnabled then some .ok else none

/-- `abortAndClearPending` is sent without a result to fill in. -/
def abort (s : RemoteClient) (sessionId : Nat) (clearPending : Bool) : Attempt :=
  s.sessionCall sessionId (fun _ => s.whenEnabled) fun session =>
    .sends [] ⟨session, if clearPending then "abortAndClearPending" else "shut", []⟩ fun r =>
      let r := if clearPending then { r with result := none } else r
      (if r.rc ≠ .ok ∨ (!clearPending ∧ r.toUInt8 ≠ TTSError.ok.code) then r.toUInt8 else TTSError.ok.code, s)

def pause (s : RemoteClient) (sessionId speechId : Nat) : Attempt :=
  s.sessionCall sessionId (fun _ => s.whenEnabled) fun session =>
    .sends [] ⟨session, "pause", [.num speechId]⟩ fun r => (resultCode r, s)

def resume (s : RemoteClient) (sessionId speechId : Nat) : Attempt :=
  s.sessionCall sessionId (fun _ => s.whenEnabled) fun session =>
    .sends [] ⟨session, "resume", [.num speechId]⟩ fun r => (resultCode r, s)

end RemoteClient

/-! ## What a failed request returns -/

inductive ClientCall
  | acquireResource (appId : Nat)
  | claimResource (appId : Nat)
  | releaseResource (appId : Nat)
  | destroySession (sessionId : Nat)
  | setPreemptiveSpeak (sessionId : Nat) (preemptive : Bool)
  | speak (sessionId id : Nat) (text : Text) (secure : Bool)
  | abort (sessionId : Nat) (clearPending : Bool)
  | pause (sessionId speechId : Nat)
  | resume (sessionId speechId : Nat)
  | enableTTS (enable : Bool)
  | requestExtendedEvents (sessionId extendedEvents : Nat)

def ClientCall.attempt (s : RemoteClient) : ClientCall → Attempt
  | .acquireResource appId => s.acquireResource appId
  | .claimResource appId => s.claimResource appId
  | .releaseResource appId => s.releaseResource appId
  | .destroySession sessionId => s.destroySession sessionId
  | .setPreemptiveSpeak sessionId preemptive => s.setPreemptiveSpeak sessionId preemptive
  | .speak sessionId id text secure => s.speak sessionId id text secure
  | .abort sessionId clearPending => s.abort sessionId clearPending
  | .pause sessionId speechId => s.pause sessionId speechId
  | .resume sessionId speechId => s.resume sessionId speechId
  | .enableTTS enable => s.enableTTS enable
  | .requestExtendedEvents sessionId extendedEvents => s.requestExtendedEvents sessionId extendedEvents

/-- Which calls tell a failed request from a successful one: those that return
no result, by the code of their last request, and those whose result is there
and is not 0. -/
def ClientCall.TellsFailure (r : RemoteReply) : ClientCall → Prop
  | .enableTTS _ => True
  -- of the requests `on` and `del` only the log tells
  | .requestExtendedEvents _ _ => r.rc ≠ .ok
  | .abort _ true => False
  | _ => r.toUInt8 ≠ 0

theorem resultCode_of_failure {r : RemoteReply} (h : r.rc ≠ .ok) : resultCode r = r.toUInt8 := if_pos (.inl h)

theorem statusCode_of_failure {r : RemoteReply} (h : r.rc ≠ .ok) : statusCode r = TTSError.fail.code := if_pos h

namespace RemoteClient

theorem resourceCall_sends {s : RemoteClient} {method : String} {appId : Nat} {handlers : List Request}
    {request : Request} {go : RemoteReply → Nat × RemoteClient}
    (h : s.resourceCall method appId = .sends handlers request go) : handlers = [] ∧ go = fun r => (resultCode r, s) := by
  unfold resourceCall at h
  split at h
  · cases h
  · split at h <;> cases h
    exact ⟨rfl, rfl⟩

theorem sessionCall_sends {s : RemoteClient} {sessionId : Nat} {test : Nat → Option TTSError} {send : Nat → Attempt}
    {handlers : List Request} {request : Request} {go : RemoteReply → Nat × RemoteClient}
    (h : s.sessionCall sessionId test send = .sends handlers request go) :
    ∃ session, send session = .sends handlers request go := by
  unfold sessionCall at h
  split at h
  · cases h
  · split at h
    · cases h
    · exact ⟨_, h⟩

end RemoteClient

/-- The reply as the functions of `TTSClientPrivateRtRemote` take it. -/
def RemoteReply.ofReply : Option TTSError → RemoteReply
  | none => ⟨.timeout, none⟩
  | some e => ⟨.ok, some e.code⟩

theorem resultCode_ofReply (reply : Option TTSError) : resultCode (.ofReply reply) = (reply.getD .ok).code % 256 := by
  cases reply with
  | none => rfl
  | some e => cases e <;> rfl

namespace RemoteClient

theorem speak_client (s : RemoteClient) (sessionId id : Nat) (text : Text) (secure : Bool) (reply : Option TTSError) :
    match s.speak sessionId id text secure with
    | .returns code _ => code = (s.client.speak s.gotResource sessionId reply).code
    | .sends _ _ go => (go (.ofReply reply)).1 = (s.client.speak s.gotResource sessionId reply).code % 256 := by
  unfold speak sessionCall TTSClientPrivateRtRemote.speak
  cases s.client.checkSession sessionId with
  | error e => rfl
  | ok session =>
    cases s.client.ttsEnabled with
    | false => rfl
    | true =>
      cases hgot : s.gotResource session with
      | false => simp [hgot]
      | true => simpa [hgot] using resultCode_ofReply reply

theorem destroySession_client (s : RemoteClient) (sessionId : Nat) (reply : Option TTSError) :
    match s.destroySession sessionId with
    | .returns code s' => code = (s.client.destroySession sessionId reply).1.code ∧ s' = s
    | .sends _ _ go => (go (.ofReply reply)).2.client = (s.client.destroySession sessionId reply).2 := by
  unfold destroySession sessionCall TTSClientPrivateRtRemote.destroySession
  cases s.client.checkSession sessionId with
  | error e => exact ⟨rfl, rfl⟩
  | ok session =>
    cases reply with
    | none => rfl
    | some e => cases e <;> rfl

end RemoteClient

/-- Some request of the call fails, the last one or one for a handler. -/
def SomeFailed (outcomes : List RtError) (reply : RemoteReply) : Prop := ∃ rc ∈ outcomes ++ [reply.rc], rc ≠ .ok

theorem someFailed_nil {outcomes : List RtError} {reply : RemoteReply} (hlen : outcomes.length = ([] : List Request).length)
    (h : SomeFailed outcomes reply) : reply.rc ≠ .ok := by
  obtain rfl := List.length_eq_zero_iff.mp hlen
  obtain ⟨rc, hrc, hne⟩ := h
  rwa [← List.mem_singleton.mp hrc]

/-- A request that fails is returned as a failure exactly by the calls that tell
it, whichever of the call's requests it is. -/
theorem failure_returned_iff (s : RemoteClient) (call : ClientCall) (handlers : List Request) (request : Request)
    (go : RemoteReply → Nat × RemoteClient) (outcomes : List RtError) (reply : RemoteReply)
    (h : call.attempt s = .sends handlers request go) (hlen : outcomes.length = handlers.length)
    (hfailed : SomeFailed outcomes reply) : (go reply).1 ≠ TTSError.ok.code ↔ call.TellsFailure reply := by
  have hresult : reply.rc ≠ .ok → ((resultCode reply, s).1 ≠ TTSError.ok.code ↔ reply.toUInt8 ≠ 0) := by
    intro hrc
    rw [resultCode_of_failure hrc]
    rfl
  cases call with
  | acquireResource | claimResource | releaseResource =>
    obtain ⟨rfl, rfl⟩ := RemoteClient.resourceCall_sends h
    exact hresult (someFailed_nil hlen hfailed)
  | enableTTS enable =>
    simp only [ClientCall.attempt, RemoteClient.enableTTS] at h
    split at h <;> cases h
    simp only [statusCode_of_failure (someFailed_nil hlen hfailed)]
    exact ⟨fun _ => trivial, fun _ => by decide⟩
  | requestExtendedEvents sessionId extendedEvents =>
    obtain ⟨session, hs⟩ := RemoteClient.sessionCall_sends (show s.requestExtendedEvents _ _ = _ from h)
    cases hs
    -- the code looks at the last request alone
    by_cases hrc : reply.rc = .ok
    · simp [statusCode, hrc, ClientCall.TellsFailure]
    · simp only [statusCode_of_failure hrc]
      exact ⟨fun _ => hrc, fun _ => by decide⟩
  | abort sessionId clearPending =>
    obtain ⟨session, hs⟩ := RemoteClient.sessionCall_sends (show s.abort _ _ = _ from h)
    cases hs
    have hrc := someFailed_nil hlen hfailed
    cases clearPending with
    | true =>
      simp only [if_true, if_pos (.inl hrc : reply.rc ≠ .ok ∨ _)]
      exact ⟨fun hne => absurd rfl hne, fun hf => absurd hf id⟩
    | false =>
      simp only [Bool.false_eq_true, if_false, if_pos (.inl hrc : reply.rc ≠ .ok ∨ _)]
      exact Iff.rfl
  | destroySession sessionId =>
    obtain ⟨session, hs⟩ := RemoteClient.sessionCall_sends (show s.destroySession _ = _ from h)
    cases hs
    simp only [if_pos (.inl (someFailed_nil hlen hfailed) : reply.rc ≠ .ok ∨ _)]
    exact Iff.rfl
  | setPreemptiveSpeak sessionId preemptive =>
    obtain ⟨session, hs⟩ := RemoteClient.sessionCall_sends (show s.setPreemptiveSpeak _ _ = _ from h)
    cases hs
    exact hresult (someFailed_nil hlen hfailed)
  | speak sessionId id text secure =>
    obtain ⟨session, hs⟩ := RemoteClient.sessionCall_sends (show s.speak _ _ _ _ = _ from h)
    cases hs
    exact hresult (someFailed_nil hlen hfailed)
  | pause sessionId speechId =>
    obtain ⟨session, hs⟩ := RemoteClient.sessionCall_sends (show s.pause _ _ = _ from h)
    cases hs
    exact hresult (someFailed_nil hlen hfailed)
  | resume sessionId speechId =>
    obtain ⟨session, hs⟩ := RemoteClient.sessionCall_sends (show s.resume _ _ = _ from h)
    cases hs
    exact hresult (someFailed_nil hlen hfailed)

def RemoteClient.reserving : RemoteClient where
  client := { TTSClientPrivateRtRemote.new true (some 0) with connected := true, policy := .reservation }
  gotResource _ := false
  extendedEvents _ := 0
  cachedEnableTTS := none

theorem failure_returned_by_enableTTS :
    ∃ handlers request go, (ClientCall.enableTTS true).attempt .reserving = .sends handlers request go ∧
      (go ⟨.timeout, none⟩).1 ≠ TTSError.ok.code :=
  ⟨_, _, _, rfl, (failure_returned_iff .reserving (.enableTTS true) _ _ _ [] ⟨.timeout, none⟩ rfl rfl
    ⟨.timeout, List.mem_cons_self, by decide⟩).mpr trivial⟩

/-- A time-out without a result is returned as `TTS_OK`. -/
theorem acquireResource_timeout_ok :
    ∃ handlers request go, (ClientCall.acquireResource 7).attempt .reserving = .sends handlers request go ∧
      (go ⟨.timeout, none⟩).1 = TTSError.ok.code :=
  ⟨_, _, _, rfl, rfl⟩

end TTS
