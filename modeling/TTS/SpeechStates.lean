import TTS.ClientCalls
import TTS.JsonClient
import TTS.SpeakerThread
import TTS.Session

/-!
# The state of a speech, as the clients report it

The engine answers `getSpeechState` with one byte, which is a state or, from a
session that is not active, an error code; RT_OK goes with both. The JSON-RPC
client answers by itself for an id that its map does not know.
-/

namespace TTS

/-- The values of `enum SpeechState`. -/
def SpeechState.code : SpeechState → Nat
  | .pending => 0
  | .inProgress => 1
  | .paused => 2
  | .notFound => 3

theorem SpeechState.code_lt (state : SpeechState) : state.code < 4 := by cases state <;> decide

/-! ## The engine -/

/-- `getSpeechState` of the speaker; other threads may change it between the two
locks, from `current` to `queued`. -/
def TTSSpeaker.getSpeechState (current queued : TTSSpeaker) (client id : Nat) : SpeechState :=
  if current.isSpeakingClient client && current.currentSpeech.any fun d => d.id = id then
    if current.isPaused then .paused else .inProgress
  else if queued.queue.any fun d => d.id = id ∧ d.client = client then .pending
  else .notFound

theorem TTSSpeaker.getSpeechState_steps (current queued : TTSSpeaker) (client id : Nat) :
    (((CallPc.stateCurrent client id).run current).bind fun mv =>
        if mv.pc = .idle then some mv.log else (mv.pc.run queued).map fun mv' => mv.log ++ mv'.log) =
      some [.answered client id (getSpeechState current queued client id)] := by
  unfold getSpeechState
  simp only [CallPc.run, CallPc.run.go]
  split <;> simp

/-- `getSpeechState` of a session: the byte it puts into the result. -/
def TTSSession.getSpeechState (s : TTSSession) (self id : Nat) (current queued : TTSSpeaker) : Nat :=
  if !s.speaker then TTSError.sessionNotActive.code else (current.getSpeechState queued self id).code

/-- The session's answer, carried back with the transport's code. -/
def TTSSession.stateReply (s : TTSSession) (self : Nat) (current queued : TTSSpeaker) (rc : RtError) (id : Nat) : RemoteReply :=
  ⟨rc, if rc = .ok then some (s.getSpeechState self id current queued) else none⟩

/-! ## The clients -/

/-- What a call of `getSpeechState` does for its caller: the code it returns, and
the value it has assigned to `state`, if any. -/
abbrev StateAnswer := TTSError × Option Int

/-- Success stands for a state, which is SPEECH_NOT_FOUND for a speech that is `unknown`. -/
def StateAnswer.Sound (a : StateAnswer) (unknown : Prop) : Prop :=
  a.1 = .ok → ∃ state : SpeechState, a.2 = some (state.code : Int) ∧ (unknown → state = .notFound)

/-- `send` is the request `getSpeechState` to the session object. -/
def TTSClientPrivateRtRemote.getSpeechState (s : TTSClientPrivateRtRemote) (sessionId speechId : Nat)
    (send : Nat → RemoteReply) : StateAnswer :=
  match s.checkSession sessionId with
  | .error e => (e, none)
  | .ok _ =>
    let r := send speechId
    if r.rc ≠ .ok then (.fail, none) else (.ok, some r.toUInt8)

def SpeechRequestMap.getServiceId (m : SpeechRequestMap) (clientid : Nat) : Nat := m[clientid]?.getD 0

/-- `invoke` is the request `getspeechstate` to the service: nothing when it failed,
else the `speechstate` label, if there is one. -/
def TTSClientPrivateJsonRPC.getSpeechState (s : TTSClientPrivateJsonRPC) (active : Bool) (speechId : Nat)
    (invoke : Nat → Option (Option Int)) : StateAnswer :=
  if !active then (.fail, none)
  else
    let serviceid := s.requestedSpeeches.getServiceId speechId
    if serviceid = 0 then (.ok, none)
    else
      match invoke serviceid with
      | none => (.fail, none)
      | some speechstate => (.ok, some (speechstate.getD SpeechState.notFound.code))

/-- A service that reports no state but those of `enum SpeechState`. -/
def ReportsStates (invoke : Nat → Option (Option Int)) : Prop :=
  ∀ id n, invoke id = some (some n) → ∃ state : SpeechState, n = state.code

/-! ## When success stands for a state -/

theorem StateAnswer.sound_of_error {e : TTSError} {unknown : Prop} (h : e ≠ .ok) (v : Option Int) :
    Sound (e, v) unknown := fun hok => absurd hok h

theorem StateAnswer.not_sound_unassigned {unknown : Prop} : ¬ Sound (.ok, none) unknown := by
  intro h
  obtain ⟨state, hv, -⟩ := h rfl
  cases hv

theorem TTSSession.stateReply_ok (s : TTSSession) (self : Nat) (current queued : TTSSpeaker) (id : Nat) :
    (s.stateReply self current queued .ok id).toUInt8 = s.getSpeechState self id current queued := by
  have hlt : s.getSpeechState self id current queued < 256 := by
    unfold getSpeechState
    split
    · decide
    · exact Nat.lt_trans (SpeechState.code_lt _) (by decide)
  simp only [stateReply, if_true, RemoteReply.toUInt8, Option.getD_some]
  exact Nat.mod_eq_of_lt hlt

/-- The byte an inactive session answers with is no state. -/
theorem TTSSession.getSpeechState_inactive {s : TTSSession} (h : s.speaker = false) (self id : Nat)
    (current queued : TTSSpeaker) (state : SpeechState) : s.getSpeechState self id current queued ≠ state.code := by
  have hcode : s.getSpeechState self id current queued = TTSError.sessionNotActive.code := by
    unfold getSpeechState
    simp [h]
  rw [hcode]
  intro he
  have hlt := state.code_lt
  rw [← he] at hlt
  exact absurd hlt (by decide)

theorem TTSClientPrivateRtRemote.getSpeechState_sound_iff (s : TTSClientPrivateRtRemote) (sessionId speechId : Nat)
    (session : TTSSession) (self : Nat) (current queued : TTSSpeaker) (rc : RtError) :
    (s.getSpeechState sessionId speechId (session.stateReply self current queued rc)).Sound (session.speaker = false) ↔
      (∃ e, s.checkSession sessionId = .error e) ∨ rc ≠ .ok ∨ session.speaker = true := by
  unfold getSpeechState
  cases hc : s.checkSession sessionId with
  | error e =>
    have hne : e ≠ .ok := by
      intro he
      subst he
      unfold checkSession at hc
      split at hc
      · cases hc
      · split at hc <;> cases hc
    exact iff_of_true (StateAnswer.sound_of_error hne none) (.inl ⟨e, rfl⟩)
  | ok p =>
    by_cases hrc : rc = .ok
    · subst hrc
      have hreply : (session.stateReply self current queued .ok speechId).rc = .ok := rfl
      simp only [hreply, ne_eq, not_true_eq_false, if_false, session.stateReply_ok]
      cases hactive : session.speaker with
      | true =>
        apply iff_of_true
        · intro _
          refine ⟨current.getSpeechState queued self speechId, ?_, nofun⟩
          simp [TTSSession.getSpeechState, hactive]
        · exact .inr (.inr rfl)
      | false =>
        apply iff_of_false
        · intro h
          obtain ⟨state, hv, -⟩ := h rfl
          exact session.getSpeechState_inactive hactive self speechId current queued state (by simpa using hv)
        · simp
    · have hreply : (session.stateReply self current queued rc speechId).rc ≠ .ok := hrc
      simp only [if_pos hreply]
      exact iff_of_true (StateAnswer.sound_of_error (by decide) none) (.inr (.inl hrc))

theorem SpeechRequestMap.getServiceId_of_notMem {m : SpeechRequestMap} {id : Nat} (h : id ∉ m) : m.getServiceId id = 0 := by
  unfold getServiceId
  rw [Std.TreeMap.getElem?_eq_none h]
  rfl

theorem TTSClientPrivateJsonRPC.getSpeechState_sound_iff (s : TTSClientPrivateJsonRPC) (active : Bool) (speechId : Nat)
    {invoke : Nat → Option (Option Int)} (hstates : ReportsStates invoke) :
    (s.getSpeechState active speechId invoke).Sound (speechId ∉ s.requestedSpeeches) ↔
      active = false ∨ s.requestedSpeeches.getServiceId speechId ≠ 0 := by
  unfold getSpeechState
  cases active with
  | false => exact iff_of_true (StateAnswer.sound_of_error (by decide) none) (.inl rfl)
  | true =>
    by_cases hid : s.requestedSpeeches.getServiceId speechId = 0
    · simp only [hid, Bool.not_true, Bool.false_eq_true, if_false, if_true]
      exact iff_of_false StateAnswer.not_sound_unassigned (by simp)
    · simp only [hid, Bool.not_true, Bool.false_eq_true, if_false]
      refine iff_of_true ?_ (.inr hid)
      have hknown : ¬ speechId ∉ s.requestedSpeeches := fun h => hid (SpeechRequestMap.getServiceId_of_notMem h)
      cases hr : invoke (s.requestedSpeeches.getServiceId speechId) with
      | none => exact StateAnswer.sound_of_error (by decide) none
      | some speechstate =>
        intro _
        cases speechstate with
        | none => exact ⟨.notFound, rfl, fun h => absurd h hknown⟩
        | some n =>
          obtain ⟨state, hn⟩ := hstates _ _ hr
          exact ⟨state, congrArg some hn, fun h => absurd h hknown⟩

/-- With either client success stands for a state except on one path: the byte of
an inactive session goes to the caller as it is, and an id without a service id
is answered without a state. -/
theorem speechState_sound_iff (rt : TTSClientPrivateRtRemote) (session : TTSSession) (self : Nat)
    (current queued : TTSSpeaker) (rc : RtError) (json : TTSClientPrivateJsonRPC) (active : Bool)
    (invoke : Nat → Option (Option Int)) (hstates : ReportsStates invoke) (sessionId speechId : Nat) :
    ((rt.getSpeechState sessionId speechId (session.stateReply self current queued rc)).Sound (session.speaker = false) ↔
        (∃ e, rt.checkSession sessionId = .error e) ∨ rc ≠ .ok ∨ session.speaker = true) ∧
      ((json.getSpeechState active speechId invoke).Sound (speechId ∉ json.requestedSpeeches) ↔
        active = false ∨ json.requestedSpeeches.getServiceId speechId ≠ 0) := by
  constructor
  · apply rt.getSpeechState_sound_iff
  · exact json.getSpeechState_sound_iff active speechId hstates

/-- A client of session 3, which the manager has not made active. -/
def TTSClientPrivateRtRemote.withSession : TTSClientPrivateRtRemote :=
  { new true (some 0) with connected := true, sessionMap := (∅ : Std.TreeMap Nat Nat).insert 3 3 }

def TTSClientPrivateJsonRPC.withSpeech : TTSClientPrivateJsonRPC :=
  { new true with requestedSpeeches := (SpeechRequestMap.add ∅ 5 41).2 }

theorem speechState_sound_of_known :
    TTSClientPrivateJsonRPC.withSpeech.getSpeechState true 5 (fun _ => some (some 2)) = (.ok, some 2) ∧
      (TTSClientPrivateJsonRPC.withSpeech.getSpeechState true 5 fun _ => some (some 2)).Sound
        (5 ∉ TTSClientPrivateJsonRPC.withSpeech.requestedSpeeches) :=
  ⟨by decide,
    (speechState_sound_iff .withSession (.new 0 "" 3 .new) 3 (.new 1) (.new 1) .ok .withSpeech true
      (fun _ => some (some 2)) (fun _ _ h => ⟨.paused, by cases h; rfl⟩) 3 5).2.mpr (.inr (by decide))⟩

/-- TTS_SESSION_NOT_ACTIVE comes out as the state 9, and nothing for the id 6. -/
theorem speechState_of_inactive :
    TTSClientPrivateRtRemote.withSession.getSpeechState 3 5
        ((TTSSession.new 0 "" 3 .new).stateReply 3 (.new 1) (.new 1) .ok) = (.ok, some 9) ∧
      ¬ (TTSClientPrivateRtRemote.withSession.getSpeechState 3 5
        ((TTSSession.new 0 "" 3 .new).stateReply 3 (.new 1) (.new 1) .ok)).Sound
          ((TTSSession.new 0 "" 3 .new).speaker = false) ∧
      TTSClientPrivateJsonRPC.withSpeech.getSpeechState true 6 (fun _ => some (some 2)) = (.ok, none) ∧
      ¬ (TTSClientPrivateJsonRPC.withSpeech.getSpeechState true 6 fun _ => some (some 2)).Sound
        (6 ∉ TTSClientPrivateJsonRPC.withSpeech.requestedSpeeches) := by
  refine ⟨by decide, ?_, by decide, ?_⟩
  · rw [TTSClientPrivateRtRemote.getSpeechState_sound_iff]
    intro h
    obtain ⟨e, he⟩ | hrc | hactive := h
    · cases he
    · exact hrc rfl
    · cases hactive
  · have hnone : TTSClientPrivateJsonRPC.withSpeech.getSpeechState true 6 (fun _ => some (some 2)) = (.ok, none) := by decide
    rw [hnone]
    exact StateAnswer.not_sound_unassigned

end TTS
