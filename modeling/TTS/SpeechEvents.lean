import TTS.CancelledIds
import TTS.EventQueue
import TTS.SpeechCallbacks

/-!
# From the speaker to the client

The speaker calls a session back, the session sends an event if it was
requested, the event waits in the session's queue and the timer hands it to
the listeners, where `onSessionEvent` calls the client. Other events of the
session go the same way in between.
-/

namespace TTS

open Transition

namespace TTSSession

def willSpeak (s : TTSSession) (id : Nat) (text : Text) : TTSSession :=
  if !ExtendedEvent.willSpeak.requested s.extendedEvents then s
  else s.sendEvent (((Event.new "willSpeak").set "id" (.num id)).set "text" (.str (String.ofList text)))

def started (s : TTSSession) (id : Nat) (text : Text) : TTSSession :=
  s.sendEvent (((Event.new "started").set "id" (.num id)).set "text" (.str (String.ofList text)))

def paused (s : TTSSession) (id : Nat) : TTSSession := s.sendExtended .paused "paused" id

def resumed (s : TTSSession) (id : Nat) : TTSSession := s.sendExtended .resumed "resumed" id

def callback (s : TTSSession) (d : SpeechData) : Callback → TTSSession
  | .willSpeak => s.willSpeak d.id d.text
  | .started => s.started d.id d.text
  | .paused => s.paused d.id
  | .resumed => s.resumed d.id
  | .ended k => s.ended k d.id d.text

end TTSSession

namespace Callback

/-- The event of a callback that is sent only on request. -/
def extended : Callback → Option ExtendedEvent
  | .willSpeak => some .willSpeak
  | .paused => some .paused
  | .resumed => some .resumed
  | .ended .interrupted => some .interrupted
  | .ended .networkerror => some .networkError
  | .ended .playbackerror => some .playbackError
  | .started | .ended .spoke => none

def sent (flags : Nat) (cb : Callback) : Bool := cb.extended.all fun e => e.requested flags

def name : Callback → String
  | .willSpeak => "willSpeak"
  | .started => "started"
  | .paused => "paused"
  | .resumed => "resumed"
  | .ended .spoke => "spoke"
  | .ended .interrupted => "interrupted"
  | .ended .networkerror => "networkerror"
  | .ended .playbackerror => "playbackerror"

def event (d : SpeechData) (cb : Callback) : Event :=
  let e := (Event.new cb.name).set "id" (.num d.id)
  match cb with
  | .willSpeak | .started | .ended .spoke => e.set "text" (.str (String.ofList d.text))
  | _ => e

end Callback

/-- An event of one speech; `cancelled` and those of the resource are not. -/
def Event.isSpeech (e : Event) : Bool :=
  ["willSpeak", "started", "paused", "resumed", "spoke", "interrupted", "networkerror", "playbackerror"].contains e.name

theorem Callback.isSpeech_event (d : SpeechData) (cb : Callback) : (cb.event d).isSpeech = true := by
  cases cb with
  | ended k => cases k <;> rfl
  | _ => rfl

/-- A callback sends its event, where that was requested. -/
theorem TTSSession.callback_events (s : TTSSession) (d : SpeechData) (cb : Callback) :
    (s.callback d cb).events = s.events ++ (if cb.sent s.extendedEvents then [cb.event d] else []) ∧
      (s.callback d cb).extendedEvents = s.extendedEvents := by
  have hextended : ∀ (e : ExtendedEvent) (name : String),
      (s.sendExtended e name d.id).events =
          s.events ++ (if e.requested s.extendedEvents then [(Event.new name).set "id" (.num d.id)] else []) ∧
        (s.sendExtended e name d.id).extendedEvents = s.extendedEvents := by
    intro e name
    unfold sendExtended
    cases e.requested s.extendedEvents <;> simp [sendEvent]
  cases cb with
  | willSpeak =>
    simp only [callback, willSpeak, Callback.sent, Callback.extended, Option.all_some]
    by_cases h : ExtendedEvent.willSpeak.requested s.extendedEvents = true
    · simp [h, sendEvent, Callback.event, Callback.name]
    · simp [h]
  | started => exact ⟨rfl, rfl⟩
  | paused => exact hextended .paused "paused"
  | resumed => exact hextended .resumed "resumed"
  | ended k =>
    cases k with
    | spoke =>
      simp only [callback, ended, spoke, Callback.sent, Callback.extended, Option.all_none]
      split <;> exact ⟨rfl, rfl⟩
    | interrupted => exact hextended .interrupted "interrupted"
    | networkerror => exact hextended .networkError "networkerror"
    | playbackerror => exact hextended .playbackError "playbackerror"

/-! ## The way of an event -/

structure EventPath (φ : Type) where
  speaker : Dispatch
  session : TTSSession
  loop : EventLoop φ

namespace EventPath

inductive Label (φ : Type)
  | speaker (a : Dispatch.Label)
  | requestExtendedEvents (flags : Nat)
  /-- Another event of the session is sent. -/
  | other (e : Event)
  | loop (a : EventLoop.Label φ)

variable {φ : Type}

/-- The calls of `sendEvent` of a session between two of its states. -/
def push (loop : EventLoop φ) (session session' : TTSSession) : EventLoop φ :=
  (session'.events.drop session.events.length).foldl EventLoop.sendEvent loop

def tell (st : EventPath φ) (cbs : List (Nat × Callback × SpeechData)) : EventPath φ :=
  let session := cbs.foldl (fun s cb => s.callback cb.2.2 cb.2.1) st.session
  { st with session := session, loop := push st.loop st.session session }

def callbacksTo (c : Nat) (log : List Record) : List (Nat × Callback × SpeechData) :=
  (callbacksIn log).filter fun cb => cb.1 = c

/-- The session is client `c` of the speaker. -/
def step (rt : RtEmit φ) (c : Nat) (st : EventPath φ) : Label φ → Option (EventPath φ)
  | .speaker a =>
    (Dispatch.machine.step st.speaker a).map fun speaker =>
      { st with speaker := speaker }.tell
        ((callbacksTo c speaker.system.log).drop (callbacksTo c st.speaker.system.log).length)
  | .requestExtendedEvents flags => some { st with session := { st.session with extendedEvents := flags } }
  | .other e =>
    if e.isSpeech then none else some { st with session := st.session.sendEvent e, loop := st.loop.sendEvent e }
  | .loop (.sendEvent _) => none
  | .loop a => ((EventLoop.machine rt).step st.loop a).map fun loop => { st with loop := loop }

def machine (rt : RtEmit φ) (c : Nat) : Machine (EventPath φ) (Label φ) where
  init st := Dispatch.machine.init st.speaker ∧ st.session.events = [] ∧ (EventLoop.machine rt).init st.loop
  step := step rt c

/-! ## Steps -/

theorem speaker_log {st st' : Dispatch} {a : Dispatch.Label} (hs : Dispatch.machine.step st a = some st') :
    ∃ log, st'.system.log = st.system.log ++ log := by
  cases Dispatch.step_ran hs with
  | system _ _ hstep =>
    cases SpeakerSystem.step_ran hstep with
    | popEmpty | call | nullSpeech | post => exact ⟨[], (List.append_nil _).symm⟩
    | thread | caller | deliver => exact ⟨_, rfl⟩
  | deliver | dispatch | nullSpeech => exact ⟨[], (List.append_nil _).symm⟩
  | handler => exact ⟨_, rfl⟩

/-- What the session sends of these callbacks. -/
def events (flags : Nat) (cbs : List (Nat × Callback × SpeechData)) : List Event :=
  cbs.flatMap fun cb => if cb.2.1.sent flags then [cb.2.1.event cb.2.2] else []

theorem isSpeech_events (flags : Nat) (cbs : List (Nat × Callback × SpeechData)) :
    (events flags cbs).filter Event.isSpeech = events flags cbs := by
  refine List.filter_eq_self.mpr fun e he => ?_
  obtain ⟨cb, -, hcb⟩ := List.mem_flatMap.mp he
  split at hcb
  · rw [List.mem_singleton.mp hcb]
    exact Callback.isSpeech_event _ _
  · cases hcb

theorem foldl_callback (cbs : List (Nat × Callback × SpeechData)) (s : TTSSession) :
    (cbs.foldl (fun s cb => s.callback cb.2.2 cb.2.1) s).events = s.events ++ events s.extendedEvents cbs ∧
      (cbs.foldl (fun s cb => s.callback cb.2.2 cb.2.1) s).extendedEvents = s.extendedEvents := by
  induction cbs generalizing s with
  | nil => exact ⟨(List.append_nil _).symm, rfl⟩
  | cons cb cbs ih =>
    obtain ⟨hevents, hflags⟩ := s.callback_events cb.2.2 cb.2.1
    obtain ⟨ihevents, ihflags⟩ := ih (s.callback cb.2.2 cb.2.1)
    rw [List.foldl_cons, ihevents, ihflags, hevents, hflags]
    exact ⟨by simp [events], rfl⟩

theorem sendEvent_pushed (loop : EventLoop φ) (e : Event) : (loop.sendEvent e).pushed = loop.pushed ++ [e] := by
  unfold EventLoop.sendEvent
  simp only
  split <;> rfl

theorem foldl_pushed (es : List Event) (loop : EventLoop φ) :
    (es.foldl EventLoop.sendEvent loop).pushed = loop.pushed ++ es := by
  induction es generalizing loop with
  | nil => exact (List.append_nil _).symm
  | cons e es ih => rw [List.foldl_cons, ih, sendEvent_pushed, List.append_assoc, List.singleton_append]

theorem handle_pushed {rt : RtEmit φ} {loop loop' : EventLoop φ} {call : Nat → Reply}
    {arrivals : Nat → List (ListenerRequest φ)} (h : loop.handle rt call arrivals = some loop') :
    loop'.pushed = loop.pushed := by
  unfold EventLoop.handle at h
  cases hpc : loop.pc with
  | idle => simp [hpc] at h
  | pop s =>
    simp only [hpc] at h
    split at h
    · cases h
    · cases h
      rfl
  | _ =>
    simp only [hpc, Option.some.injEq] at h
    subst h
    rfl

/-- The queue of the session is a channel. -/
def IsChannel (loop : EventLoop φ) : Prop := ∃ c, (Channel.machine Event).Reachable c ∧ loop.Carries c

theorem IsChannel.foldl {loop : EventLoop φ} (h : IsChannel loop) (es : List Event) :
    IsChannel (es.foldl EventLoop.sendEvent loop) := by
  induction es generalizing loop with
  | nil => exact h
  | cons e es ih =>
    obtain ⟨c, hc, hcarries⟩ := h
    obtain ⟨c', hsteps, hcarries'⟩ := sendEvent_carries hcarries e
    exact ih ⟨c', hc.steps hsteps, hcarries'⟩

/-! ## What is heard -/

/-- Each callback's event was sent if the flags of the moment, which meet `P`, requested it. -/
inductive Heard (P : Nat → Prop) : List (Nat × Callback × SpeechData) → List Event → Prop
  | nil : Heard P [] []
  | tell {cbs es flags} (h : Heard P cbs es) (hf : P flags) (cbs' : List (Nat × Callback × SpeechData)) :
    Heard P (cbs ++ cbs') (es ++ events flags cbs')

/-- The flags a client requests meet `P`. -/
def Requests (P : Nat → Prop) (st : EventPath φ) : Label φ → Prop
  | .requestExtendedEvents flags => P flags
  | _ => P st.session.extendedEvents

structure Delivers (c : Nat) (P : Nat → Prop) (st : EventPath φ) : Prop where
  speaker : Dispatch.machine.Reachable st.speaker
  heard : Heard P (callbacksTo c st.speaker.system.log) (st.loop.pushed.filter Event.isSpeech)
  channel : IsChannel st.loop

theorem tell_delivers {st : EventPath φ} {c : Nat} {P : Nat → Prop} (h : Delivers c P st) (hP : P st.session.extendedEvents)
    {speaker : Dispatch} (hspeaker : Dispatch.machine.Reachable speaker) {log : List Record}
    (hlog : speaker.system.log = st.speaker.system.log ++ log) :
    Delivers c P ({ st with speaker := speaker }.tell
      ((callbacksTo c speaker.system.log).drop (callbacksTo c st.speaker.system.log).length)) := by
  have hto : callbacksTo c speaker.system.log = callbacksTo c st.speaker.system.log ++ callbacksTo c log := by
    rw [hlog, callbacksTo, callbacksIn_append, List.filter_append]
    rfl
  rw [hto, List.drop_left]
  obtain ⟨hevents, hflags⟩ := foldl_callback (callbacksTo c log) st.session
  have hpush : push st.loop st.session ((callbacksTo c log).foldl (fun s cb => s.callback cb.2.2 cb.2.1) st.session) =
      (events st.session.extendedEvents (callbacksTo c log)).foldl EventLoop.sendEvent st.loop := by
    rw [push, hevents, List.drop_left]
  refine ⟨hspeaker, ?_, ?_⟩
  · simp only [tell, hpush, foldl_pushed, List.filter_append, isSpeech_events]
    rw [hto]
    exact h.heard.tell hP _
  · simp only [tell, hpush]
    exact h.channel.foldl _

theorem step_delivers {rt : RtEmit φ} {c : Nat} {P : Nat → Prop} {st st' : EventPath φ} {a : Label φ}
    (h : Delivers c P st) (hP : Requests P st a) (hs : (machine rt c).step st a = some st') : Delivers c P st' := by
  cases a with
  | speaker a =>
    obtain ⟨speaker, hspeaker, rfl⟩ := Option.map_eq_some_iff.mp hs
    obtain ⟨log, hlog⟩ := speaker_log hspeaker
    exact tell_delivers h hP (h.speaker.step hspeaker) hlog
  | requestExtendedEvents flags =>
    cases hs
    exact ⟨h.speaker, h.heard, h.channel⟩
  | other e =>
    simp only [machine, step, Option.ite_none_left_eq_some] at hs
    obtain ⟨he, hs⟩ := hs
    cases hs
    refine ⟨h.speaker, ?_, h.channel.foldl [e]⟩
    simpa [sendEvent_pushed, List.filter_append, he] using h.heard
  | loop a =>
    have hloop : ∀ {loop : EventLoop φ}, (EventLoop.machine rt).step st.loop a = some loop →
        (∀ e, a ≠ .sendEvent e) → Delivers c P { st with loop := loop } := by
      intro loop hl hne
      obtain ⟨ch, hch, hcarries⟩ := h.channel
      obtain ⟨ch', hsteps, hcarries'⟩ :=
        (eventLoop_refines_channel fun _ _ => True).step st.loop a loop ch hcarries trivial hl
      refine ⟨h.speaker, ?_, ch', hch.steps hsteps, hcarries'⟩
      have hpushed : loop.pushed = st.loop.pushed := by
        cases a with
        | sendEvent e => exact absurd rfl (hne e)
        | listener r =>
          cases hl
          rfl
        | dispatch source =>
          simp only [EventLoop.machine, EventLoop.step, Option.ite_none_right_eq_some] at hl
          obtain ⟨-, hl⟩ := hl
          cases hl
          rfl
        | handler call arrivals => exact handle_pushed hl
      simp only [hpushed]
      exact h.heard
    have hmap : ∀ {b : EventLoop.Label φ}, ((EventLoop.machine rt).step st.loop b).map (fun loop => { st with loop := loop }) = some st' →
        b = a → (∀ e, a ≠ .sendEvent e) → Delivers c P st' := by
      intro b hb hba hne
      obtain ⟨loop, hl, rfl⟩ := Option.map_eq_some_iff.mp hb
      exact hloop (hba ▸ hl) hne
    cases a with
    | sendEvent e => cases hs
    | listener r => exact hmap (b := .listener r) hs rfl fun e he => by cases he
    | dispatch source => exact hmap (b := .dispatch source) hs rfl fun e he => by cases he
    | handler call arrivals => exact hmap (b := .handler call arrivals) hs rfl fun e he => by cases he

theorem reachable_delivers {rt : RtEmit φ} {c : Nat} {P : Nat → Prop} {st : EventPath φ}
    (h : (machine rt c).ReachableIf (Requests P) st) : Delivers c P st := by
  refine h.invariant (I := Delivers c P) ?_ fun _ _ _ hI hP hs => step_delivers hI hP hs
  rintro st ⟨hspeaker, -, hq, -, -, hpc, hp, he⟩
  have hlog : st.speaker.system.log = [] := by
    obtain ⟨maxFailures, hst⟩ := hspeaker
    rw [hst]
    rfl
  refine ⟨.init hspeaker, ?_, ⟨[], []⟩, .init rfl, by rw [hp, he], by simp [hp, he, hpc, hq, HandlerPc.inHand]⟩
  rw [hlog, hp]
  exact .nil

theorem reachable_heard {rt : RtEmit φ} {c : Nat} {P : Nat → Prop} {st : EventPath φ}
    (h : (machine rt c).ReachableIf (Requests P) st) :
    ∃ es, Heard P (callbacksTo c st.speaker.system.log) es ∧ st.loop.emitted.filter Event.isSpeech <+: es := by
  obtain ⟨-, hheard, ch, hch, rfl, -⟩ := reachable_delivers h
  exact ⟨_, hheard, (Channel.delivered_prefix hch).filter _⟩

end EventPath

/-! ## What the client is told -/

/-- The call that a client makes of a callback's event. -/
def Callback.toClient (s : SessionInfo) (d : SpeechData) : Callback → SessionCallback
  | .willSpeak => .onWillSpeak s.appId s.sessionId d.id d.text
  | .started => .onSpeechStart s.appId s.sessionId d.id d.text
  | .paused => .onSpeechPause s.appId s.sessionId d.id
  | .resumed => .onSpeechResume s.appId s.sessionId d.id
  | .ended .spoke => .onSpeechComplete s.appId s.sessionId d.id d.text
  | .ended .interrupted => .onSpeechInterrupted s.appId s.sessionId d.id
  | .ended .networkerror => .onNetworkError s.appId s.sessionId d.id
  | .ended .playbackerror => .onPlaybackError s.appId s.sessionId d.id

/-- An id of 32 bits and a text without NUL, as the engine takes them from its requests. -/
def SpeechData.Sendable (d : SpeechData) : Prop := d.id < 2 ^ 32 ∧ '\x00' ∉ d.text

instance (d : SpeechData) : Decidable d.Sendable := inferInstanceAs (Decidable (_ ∧ _))

theorem takeWhile_of_notMem {t : Text} (h : '\x00' ∉ t) : t.takeWhile (· ≠ '\x00') = t :=
  List.takeWhile_eq_self_iff.mpr fun _ hc => decide_eq_true fun he => h (he ▸ hc)

namespace Event

theorem reverse_set (e : Event) (p : String) (v : RtValue) : (e.set p v).props.reverse = (p, v) :: e.props.reverse := by
  simp [set]

theorem toUInt32_set_self (e : Event) (p : String) (n : Nat) : (e.set p (.num n)).toUInt32 p = n % 2 ^ 32 := by
  rw [toUInt32, reverse_set, List.lookup_cons_self]

theorem toUInt32_set_of_ne (e : Event) {p q : String} (h : (q == p) = false) (v : RtValue) :
    (e.set p v).toUInt32 q = e.toUInt32 q := by
  rw [toUInt32, reverse_set, List.lookup_cons, h]
  rfl

theorem cString_set_self (e : Event) (p : String) (t : Text) (ht : '\x00' ∉ t) :
    (e.set p (.str (String.ofList t))).cString p = t := by
  rw [cString, reverse_set, List.lookup_cons_self]
  simp only [String.toList_ofList]
  exact takeWhile_of_notMem ht

end Event

theorem Callback.event_id (d : SpeechData) (cb : Callback) : (cb.event d).toUInt32 "id" = d.id % 2 ^ 32 := by
  cases cb with
  | ended k =>
    cases k with
    | spoke => exact (Event.toUInt32_set_of_ne _ (by decide) _).trans (Event.toUInt32_set_self _ _ _)
    | _ => exact Event.toUInt32_set_self _ _ _
  | willSpeak | started => exact (Event.toUInt32_set_of_ne _ (by decide) _).trans (Event.toUInt32_set_self _ _ _)
  | _ => exact Event.toUInt32_set_self _ _ _

theorem Callback.event_name (d : SpeechData) (cb : Callback) : (cb.event d).name = cb.name := by
  cases cb with
  | ended k => cases k <;> rfl
  | _ => rfl

theorem Callback.event_text {d : SpeechData} (hd : '\x00' ∉ d.text) {cb : Callback}
    (hcb : cb = .willSpeak ∨ cb = .started ∨ cb = .ended .spoke) : (cb.event d).cString "text" = d.text := by
  rcases hcb with rfl | rfl | rfl <;> exact Event.cString_set_self _ _ _ hd

/-- A callback's event makes its own call of the client. -/
theorem Callback.callbacks_event (w : LongWidth) (s : SessionInfo) {d : SpeechData} (hd : d.Sendable) (cb : Callback) :
    s.callbacks w (cb.event d) = [cb.toClient s d] := by
  have hid : (cb.event d).toUInt32 "id" = d.id := (cb.event_id d).trans (Nat.mod_eq_of_lt hd.1)
  have htext := cb.event_text hd.2
  unfold SessionInfo.callbacks
  rw [hid, cb.event_name]
  cases cb with
  | ended k => cases k <;> simp [name, toClient, htext]
  | _ => simp [name, toClient, htext]

/-- The turns of one client are turns. -/
theorem Turns.to {cbs : List (Nat × Callback × SpeechData)} {turn late : Option SpeechData} (h : Turns cbs turn late)
    (c : Nat) : ∃ late', Turns (cbs.filter fun cb => cb.1 = c) (turn.filter fun d => d.client = c) late' ∧
      ∀ d, late = some d → d.client = c → late' = some d := by
  have hsome : ∀ {d : SpeechData}, d.client = c → (some d).filter (fun d => d.client = c) = some d := by
    intro d hd
    simp [Option.filter, hd]
  have hnone : ∀ {d : SpeechData}, d.client ≠ c → (some d).filter (fun d => d.client = c) = none := by
    intro d hd
    simp [Option.filter, hd]
  induction h with
  | nil => exact ⟨none, .nil, fun d hd => nomatch hd⟩
  | willSpeak _ d ih =>
    obtain ⟨late', ih, -⟩ := ih
    by_cases hc : d.client = c
    · exact ⟨none, by simpa [List.filter_append, hc, hsome hc] using ih.willSpeak d, fun d hd => nomatch hd⟩
    · exact ⟨late', by simpa [List.filter_append, hc, hnone hc] using ih, fun d hd => nomatch hd⟩
  | @changed _ d _ _ notice ih =>
    obtain ⟨late', ih, -⟩ := ih
    by_cases hc : d.client = c
    · rw [hsome hc] at ih ⊢
      exact ⟨none, by simpa [List.filter_append, hc] using ih.changed notice, fun d hd => nomatch hd⟩
    · exact ⟨late', by simpa [List.filter_append, hc] using ih, fun d hd => nomatch hd⟩
  | @ended _ d _ _ k ih =>
    obtain ⟨late', ih, -⟩ := ih
    by_cases hc : d.client = c
    · rw [hsome hc] at ih
      exact ⟨some d, by simpa [List.filter_append, hc] using ih.ended k, fun d' hd _ => hd⟩
    · rw [hnone hc] at ih
      refine ⟨late', by simpa [List.filter_append, hc] using ih, fun d' hd hc' => ?_⟩
      exact absurd (Option.some.inj hd ▸ hc') hc
  | @late _ d _ notice ih =>
    obtain ⟨late', ih, hlate⟩ := ih
    by_cases hc : d.client = c
    · rw [hlate d rfl hc] at ih
      exact ⟨none, by simpa [List.filter_append, hc] using ih.late notice, fun d hd => nomatch hd⟩
    · exact ⟨late', by simpa [List.filter_append, hc] using ih, fun d hd => nomatch hd⟩
  | untold _ d terminal ih =>
    obtain ⟨late', ih, -⟩ := ih
    by_cases hc : d.client = c
    · exact ⟨none, by simpa [List.filter_append, hc] using ih.untold d terminal, fun d hd => nomatch hd⟩
    · exact ⟨late', by simpa [List.filter_append, hc] using ih, fun d hd => nomatch hd⟩

namespace EventPath

def AllRequested (flags : Nat) : Prop :=
  ∀ e ∈ [ExtendedEvent.willSpeak, .paused, .resumed, .cancelled, .interrupted, .networkError, .playbackError],
    e.requested flags = true

instance (flags : Nat) : Decidable (AllRequested flags) :=
  inferInstanceAs (Decidable (∀ e ∈ _, ExtendedEvent.requested flags e = true))

instance {P : Nat → Prop} [DecidablePred P] (st : EventPath φ) : (a : Label φ) → Decidable (Requests P st a)
  | .requestExtendedEvents flags => inferInstanceAs (Decidable (P flags))
  | .speaker _ | .other _ | .loop _ => inferInstanceAs (Decidable (P st.session.extendedEvents))

theorem events_of_requested {flags : Nat} (h : AllRequested flags) (cbs : List (Nat × Callback × SpeechData)) :
    events flags cbs = cbs.map fun cb => cb.2.1.event cb.2.2 := by
  have hsent : ∀ cb : Callback, cb.sent flags = true := fun cb => by
    unfold Callback.sent
    cases cb.extended with
    | none => rfl
    | some e => exact h e (by cases e <;> decide)
  simp only [events, hsent, if_true]
  exact List.map_eq_flatMap.symm

theorem Heard.all {cbs : List (Nat × Callback × SpeechData)} {es : List Event} (h : Heard AllRequested cbs es) :
    es = cbs.map fun cb => cb.2.1.event cb.2.2 := by
  induction h with
  | nil => rfl
  | tell _ hf cbs' ih => rw [ih, events_of_requested hf, List.map_append]

theorem callbacks_of_events (w : LongWidth) (info : SessionInfo) {cbs : List (Nat × Callback × SpeechData)}
    (h : ∀ cb ∈ cbs, cb.2.2.Sendable) :
    (cbs.map fun cb => cb.2.1.event cb.2.2).flatMap (info.callbacks w) = cbs.map fun cb => cb.2.1.toClient info cb.2.2 := by
  induction cbs with
  | nil => rfl
  | cons cb cbs ih =>
    rw [List.map_cons, List.flatMap_cons, Callback.callbacks_event w info (h cb List.mem_cons_self),
      ih fun cb' hcb => h cb' (List.mem_cons_of_mem _ hcb)]
    rfl

/-- A session that has requested every event and listens to one. -/
def listening : EventPath Nat :=
  ⟨.new 1, { TTSSession.new 1 "guide" 7 .new with extendedEvents := 2 ^ 16 - 1 },
    ⟨⟨Emit.idle [⟨"spoke", 1⟩], [], 0, false⟩, [], 0, .idle, [], []⟩⟩

end EventPath

end TTS
