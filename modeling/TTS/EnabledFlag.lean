import TTS.ClientSessions
import TTS.ManagerFrames

/-!
# The enabled flag at the clients

Clients learn `m_ttsEnabled` from the reply of `createSession` and from
`tts_state_changed` events. A reply is sent at once, an event when the engine's
main loop comes to it, and only to the handlers installed by then. Each client
gets its messages in the order in which they were sent to it, those of an
engine process that crashed before those of the next.
-/

namespace TTS

open Monitor Transition

inductive EngineMessage
  | event (e : Event)
  | created (object : SessionObject)

def EngineMessage.creates : EngineMessage → Bool
  | .event _ => false
  | .created object => object.result = .ok

def EngineMessage.carried : EngineMessage → Option Event
  | .event e => some e
  | .created _ => none

namespace TTSClientPrivateRtRemote

/-- `createSession` from its reply on; the connection was checked before the request. -/
def onCreated (s : TTSClientPrivateRtRemote) (object : SessionObject) : TTSClientPrivateRtRemote :=
  { (({ s with connected := true } : TTSClientPrivateRtRemote).createSession (some object)).2 with
    connected := s.connected }

def receive (s : TTSClientPrivateRtRemote) : EngineMessage → TTSClientPrivateRtRemote
  | .event e => s.onConnectionEvent e
  | .created object => s.onCreated object

end TTSClientPrivateRtRemote

def eventsFrom (n : Nat) (inbox : List (Nat × EngineMessage)) : List Event :=
  inbox.filterMap fun x => if x.1 = n then x.2.carried else none

/-- The engine processes are numbered; `installed` are the clients whose handler
the running one has, and it has sent the first `sent` events of its manager. -/
structure FlagSystem where
  incarnation : Nat
  engine : Option (Monitor TTSManager)
  sent : Nat
  installed : Nat → Bool
  clients : Nat → Option TTSClientPrivateRtRemote
  /-- What is on its way to a client, with the engine process that sent it. -/
  inbox : Nat → List (Nat × EngineMessage)
  /-- The client got a session since its latest connection. -/
  created : Nat → Bool

namespace FlagSystem

inductive Label
  | engineStart (configuration : TTSConfiguration) (others : Others) (policy : ResourceAllocationPolicy)
    (maxFailures : Nat)
  | engineCrash
  | construct (c : Nat) (callback found : Bool)
  | locate (c : Nat) (found : Bool)
  | postConnect (c : Nat)
  | crashNotice (c : Nat)
  | awaitCrash (c : Nat)
  | awaitEngine (c : Nat) (running : Bool)
  | request (call : EngineCall)
  | sendEvent
  | createSession (c appId : Nat) (appName : String)
  | deliver (c : Nat)

def reached (st : FlagSystem) (s : TTSClientPrivateRtRemote) : Option (Monitor TTSManager) :=
  if s.manager = some st.incarnation then st.engine else none

def located (st : FlagSystem) (found : Bool) : Option Nat :=
  if found && st.engine.isSome then some st.incarnation else none

def setClient (st : FlagSystem) (c : Nat) (s : TTSClientPrivateRtRemote) : FlagSystem :=
  { st with clients := Function.update st.clients c (some s) }

def startupStep (st : FlagSystem) (c : Nat) (here : Startup)
    (f : TTSClientPrivateRtRemote → Option TTSClientPrivateRtRemote) : Option FlagSystem :=
  (st.clients c).bind fun s => if s.startup = here then (f s).map fun s' => st.setClient c s' else none

def handleEvent (st : FlagSystem) (e : Event) : FlagSystem :=
  { st with
    sent := st.sent + 1
    inbox := fun c => if st.installed c then st.inbox c ++ [(st.incarnation, .event e)] else st.inbox c }

def answer (st : FlagSystem) (c : Nat) (object : SessionObject) : FlagSystem :=
  { st with inbox := Function.update st.inbox c (st.inbox c ++ [(st.incarnation, .created object)]) }

/-- A handler is installed when the request comes through. -/
def connect (st : FlagSystem) (c : Nat) (s : TTSClientPrivateRtRemote) : FlagSystem :=
  { st.setClient c (s.postConnect ((st.reached s).map fun m => m.state.policy)) with
    installed := Function.update st.installed c (st.reached s).isSome
    created := Function.update st.created c false }

def receive (st : FlagSystem) (c : Nat) (s : TTSClientPrivateRtRemote) (n : Nat) (message : EngineMessage)
    (rest : List (Nat × EngineMessage)) : FlagSystem :=
  { st.setClient c (s.receive message) with
    inbox := Function.update st.inbox c rest
    created := Function.update st.created c (st.created c || s.connected && s.manager = some n && message.creates) }

def step (st : FlagSystem) : Label → Option FlagSystem
  | .engineStart configuration others policy maxFailures =>
    if st.engine.isSome then none
    else
      some { st with
        incarnation := st.incarnation + 1
        engine := some ⟨false, .new configuration others policy maxFailures⟩
        sent := 0 }
  | .engineCrash =>
    if st.engine.isSome then some { st with engine := none, installed := fun _ => false } else none
  | .construct c callback found =>
    if (st.clients c).isSome then none else some (st.setClient c (.new callback (st.located found)))
  | .locate c found => st.startupStep c .locate fun s => some (s.locate (st.located found))
  | .postConnect c =>
    (st.clients c).bind fun s => if s.startup = .postConnect then some (st.connect c s) else none
  | .crashNotice c =>
    (st.clients c).bind fun s =>
      if s.manager.isSome && (st.reached s).isNone then some (st.setClient c s.rtServerCrashCB) else none
  | .awaitCrash c => st.startupStep c .monitor TTSClientPrivateRtRemote.awaitCrash
  | .awaitEngine c running => st.startupStep c .restart fun s => some (s.awaitEngine running)
  | .request call =>
    st.engine.bind fun m => ((TTS.engine m.state.policy).step m call).map fun m => { st with engine := some m }
  | .sendEvent =>
    st.engine.bind fun m => (m.state.events[st.sent]?).map fun e => st.handleEvent e
  | .createSession c appId appName =>
    (st.clients c).bind fun s =>
      (if s.connected then st.reached s else none).bind fun m =>
        match (ManagerOp.createSession appId appName s.eventCallbacks).perform m with
        | .done (.ok (.object object)) m => some { st.answer c object with engine := some m }
        | _ => none
  | .deliver c =>
    (st.clients c).bind fun s =>
      match st.inbox c with
      | [] => none
      | (n, message) :: rest => some (st.receive c s n message rest)

def start : FlagSystem := ⟨0, none, 0, fun _ => false, fun _ => none, fun _ => [], fun _ => false⟩

def machine : Machine FlagSystem Label where
  init st := st = start
  step := step

/-- A client connected to the running engine that got a session, with its handler
installed and nothing on its way to it, has the engine's flag. -/
def Agrees (st : FlagSystem) : Prop :=
  ∀ c s m, st.engine = some m → st.clients c = some s → s.connected = true → st.installed c = true →
    st.created c = true → st.inbox c = [] → st.sent = m.state.events.length → s.ttsEnabled = m.state.ttsEnabled

def unsent (st : FlagSystem) : List Event := (st.engine.map fun m => m.state.events.drop st.sent).getD []

/-- Where the reply of `createSession` is the last to tell a client the flag, the
client has a callback, or the flag already. -/
def Learns (st : FlagSystem) : Label → Prop
  | .deliver c => ∀ s object rest, st.clients c = some s → st.installed c = true →
      st.inbox c = (st.incarnation, .created object) :: rest → object.result = .ok →
        s.callback = true ∨ object.ttsEnabled = some s.ttsEnabled ∨
          ∃ e ∈ eventsFrom st.incarnation rest ++ st.unsent, e.ttsState ≠ none
  | _ => True

end FlagSystem

/-! ## One client -/

namespace TTSClientPrivateRtRemote

theorem onConnectionEvent_frame (s : TTSClientPrivateRtRemote) (e : Event) :
    s.onConnectionEvent e = { s with ttsEnabled := e.ttsState.getD s.ttsEnabled } := by
  unfold onConnectionEvent Event.ttsState
  split <;> rfl

theorem onCreated_frame (s : TTSClientPrivateRtRemote) (object : SessionObject) :
    ∃ sessionMap ttsEnabled, s.onCreated object = { s with sessionMap := sessionMap, ttsEnabled := ttsEnabled } := by
  obtain ⟨sessionMap, ttsEnabled, h⟩ :=
    ({ s with connected := true } : TTSClientPrivateRtRemote).createSession_connection (some object)
  refine ⟨sessionMap, ttsEnabled, ?_⟩
  unfold onCreated
  rw [h]

theorem receive_frame (s : TTSClientPrivateRtRemote) (message : EngineMessage) :
    ∃ sessionMap ttsEnabled, s.receive message = { s with sessionMap := sessionMap, ttsEnabled := ttsEnabled } := by
  cases message with
  | event e => exact ⟨_, _, s.onConnectionEvent_frame e⟩
  | created object => exact s.onCreated_frame object

theorem onCreated_ttsEnabled (s : TTSClientPrivateRtRemote) {session id : Nat} {v : Bool} :
    (s.onCreated ⟨.ok, some session, some id, some v⟩).ttsEnabled = if s.callback then v else s.ttsEnabled := rfl

theorem onCreated_failed (s : TTSClientPrivateRtRemote) {object : SessionObject} (h : object.result ≠ .ok) :
    (s.onCreated object).ttsEnabled = s.ttsEnabled := by
  unfold onCreated createSession
  simp only [Bool.not_true, Bool.false_eq_true, if_false]
  split
  · rename_i he
    cases he
    exact absurd rfl h
  · rfl

theorem rtServerCrashCB_manager (s : TTSClientPrivateRtRemote) {k : Nat} (h : s.rtServerCrashCB.manager = some k) :
    s.manager = some k := by
  unfold rtServerCrashCB cleanupConnection at h
  split at h
  · split at h
    · cases h
    · cases h
  · exact h

end TTSClientPrivateRtRemote

/-! ## What is on the way -/

section
variable {n : Nat}

@[simp] theorem eventsFrom_nil : eventsFrom n [] = [] := rfl

theorem eventsFrom_append (ib ib' : List (Nat × EngineMessage)) :
    eventsFrom n (ib ++ ib') = eventsFrom n ib ++ eventsFrom n ib' := List.filterMap_append

@[simp] theorem eventsFrom_event (e : Event) (ib : List (Nat × EngineMessage)) :
    eventsFrom n ((n, .event e) :: ib) = e :: eventsFrom n ib := by
  simp [eventsFrom, EngineMessage.carried]

@[simp] theorem eventsFrom_created (k : Nat) (object : SessionObject) (ib : List (Nat × EngineMessage)) :
    eventsFrom n ((k, .created object) :: ib) = eventsFrom n ib := by
  simp [eventsFrom, EngineMessage.carried]

theorem eventsFrom_of_ne {x : Nat × EngineMessage} (h : x.1 ≠ n) (ib : List (Nat × EngineMessage)) :
    eventsFrom n (x :: ib) = eventsFrom n ib := by
  simp [eventsFrom, h]

theorem eventsFrom_of_past {ib : List (Nat × EngineMessage)} (h : ∀ x ∈ ib, x.1 ≠ n) : eventsFrom n ib = [] := by
  induction ib with
  | nil => rfl
  | cons x ib ih =>
    rw [eventsFrom_of_ne (h x List.mem_cons_self)]
    exact ih fun y hy => h y (List.mem_cons_of_mem _ hy)

end

/-- What is on its way from engine process `n` ends on the flag `enabled`: the events,
those not sent yet at last, and from any reply on. -/
structure Informed (n : Nat) (enabled : Bool) (unsent : List Event) (ib : List (Nat × EngineMessage)) : Prop where
  told : Mirror.replay Event.ttsState enabled (eventsFrom n ib ++ unsent) = enabled
  replies : ∀ pre object post, ib = pre ++ (n, .created object) :: post → object.result = .ok →
    ∃ session id v, object = ⟨.ok, some session, some id, some v⟩ ∧
      Mirror.replay Event.ttsState v (eventsFrom n post ++ unsent) = enabled

namespace Informed

variable {n : Nat} {enabled : Bool} {unsent : List Event} {ib : List (Nat × EngineMessage)}

theorem fresh (h : ∀ x ∈ ib, x.1 ≠ n) (hu : Mirror.replay Event.ttsState enabled unsent = enabled) :
    Informed n enabled unsent ib := by
  refine ⟨?_, ?_⟩
  · rw [eventsFrom_of_past h]
    exact hu
  · rintro pre object post rfl
    exact absurd rfl (h (n, .created object) (List.mem_append_right _ List.mem_cons_self))

theorem emit (h : Informed n enabled unsent ib) (es : List Event) :
    Informed n (Mirror.replay Event.ttsState enabled es) (unsent ++ es) ib := by
  refine ⟨?_, fun pre object post hib hok => ?_⟩
  · rw [← List.append_assoc]
    exact Mirror.replay_settled_append _ h.told es
  · obtain ⟨session, id, v, hobject, hv⟩ := h.replies pre object post hib hok
    refine ⟨session, id, v, hobject, ?_⟩
    rw [← List.append_assoc, Mirror.replay_append, hv]

theorem reply_before {x : Nat × EngineMessage} {pre post : List (Nat × EngineMessage)} {object : SessionObject}
    (hib : ib ++ [x] = pre ++ (n, .created object) :: post) :
    pre = ib ∧ post = [] ∧ x = (n, .created object) ∨
      ∃ post', ib = pre ++ (n, .created object) :: post' ∧ post = post' ++ [x] := by
  rcases log_split hib with ⟨as, rfl, hmem⟩ | ⟨post', rfl⟩
  · rw [List.append_assoc] at hib
    have hlast := List.append_cancel_left hib
    cases as with
    | nil =>
      obtain ⟨hx, hpost⟩ := List.cons.inj hlast
      exact .inl ⟨List.append_nil _, hpost.symm, hx⟩
    | cons y as => cases as <;> cases hlast
  · rw [List.append_assoc] at hib
    exact .inr ⟨post', rfl, (List.cons.inj (List.append_cancel_left hib)).2.symm⟩

theorem send {e : Event} (h : Informed n enabled (e :: unsent) ib) : Informed n enabled unsent (ib ++ [(n, .event e)]) := by
  have hmove : ∀ ib' : List (Nat × EngineMessage),
      eventsFrom n (ib' ++ [(n, .event e)]) ++ unsent = eventsFrom n ib' ++ e :: unsent := by
    intro ib'
    rw [eventsFrom_append, eventsFrom_event, eventsFrom_nil, List.append_assoc]
    rfl
  refine ⟨by rw [hmove]; exact h.told, fun pre object post hib hok => ?_⟩
  rcases reply_before hib with ⟨-, -, hx⟩ | ⟨post', hib', rfl⟩
  · cases hx
  · rw [hmove]
    exact h.replies pre object post' hib' hok

theorem reply {object : SessionObject} (h : Informed n enabled unsent ib)
    (hu : Mirror.replay Event.ttsState enabled unsent = enabled)
    (hobject : object.result = .ok → ∃ session id, object = ⟨.ok, some session, some id, some enabled⟩) :
    Informed n enabled unsent (ib ++ [(n, .created object)]) := by
  have hsame : ∀ ib' : List (Nat × EngineMessage), eventsFrom n (ib' ++ [(n, .created object)]) = eventsFrom n ib' := by
    intro ib'
    rw [eventsFrom_append, eventsFrom_created, eventsFrom_nil, List.append_nil]
  refine ⟨by rw [hsame]; exact h.told, fun pre object' post hib hok => ?_⟩
  rcases reply_before hib with ⟨-, rfl, hx⟩ | ⟨post', hib', rfl⟩
  · cases hx
    obtain ⟨session, id, he⟩ := hobject hok
    exact ⟨session, id, enabled, he, hu⟩
  · rw [hsame]
    exact h.replies pre object' post' hib' hok

theorem deliver {x : Nat × EngineMessage} (h : Informed n enabled unsent (x :: ib)) : Informed n enabled unsent ib := by
  refine ⟨?_, fun pre object post hib hok => h.replies (x :: pre) object post (by rw [hib]; rfl) hok⟩
  have ht := h.told
  obtain ⟨k, message⟩ := x
  by_cases hk : k = n
  · subst hk
    cases message with
    | event e =>
      rw [eventsFrom_event] at ht
      exact Mirror.replay_settled_tail _ ht
    | created object =>
      rw [eventsFrom_created] at ht
      exact ht
  · rw [eventsFrom_of_ne hk] at ht
    exact ht

theorem receive {message : EngineMessage} {s : TTSClientPrivateRtRemote} (h : Informed n enabled unsent ((n, message) :: ib))
    (hlearn : ∀ object, message = .created object → object.result = .ok → s.callback = true ∨
      object.ttsEnabled = some s.ttsEnabled ∨ ∃ e ∈ eventsFrom n ib ++ unsent, e.ttsState ≠ none)
    (hknown : message.creates = true ∨
      Mirror.replay Event.ttsState s.ttsEnabled (eventsFrom n ((n, message) :: ib) ++ unsent) = enabled) :
    Mirror.replay Event.ttsState (s.receive message).ttsEnabled (eventsFrom n ib ++ unsent) = enabled := by
  cases message with
  | event e =>
    have hflag := hknown.resolve_left fun hc => nomatch hc
    rw [eventsFrom_event] at hflag
    show Mirror.replay Event.ttsState (s.onConnectionEvent e).ttsEnabled _ = _
    rw [s.onConnectionEvent_frame e]
    exact hflag
  | created object =>
    show Mirror.replay Event.ttsState (s.onCreated object).ttsEnabled _ = _
    by_cases hok : object.result = .ok
    · obtain ⟨session, id, v, rfl, hv⟩ := h.replies [] object ib rfl hok
      rw [s.onCreated_ttsEnabled]
      split
      · exact hv
      · rename_i hcallback
        rcases hlearn _ rfl hok with hcb | hsame | ⟨e, he, hset⟩
        · exact absurd hcb hcallback
        · obtain rfl := Option.some.inj hsame
          exact hv
        · rw [← hv]
          exact Mirror.replay_eq_of_sets _ he hset _ _
    · have hflag := hknown.resolve_left fun hc => hok (of_decide_eq_true hc)
      rw [eventsFrom_created] at hflag
      rw [s.onCreated_failed hok]
      exact hflag

end Informed

end TTS
