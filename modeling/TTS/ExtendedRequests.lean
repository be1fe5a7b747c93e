import TTS.ClientCalls
import TTS.DeferredListeners
import TTS.Session

/-!
# Requested events, on both sides

The client keeps in its own flags what it asked for last, whether or not that
got through: a handler is installed or removed only where a flag changes, and
the session's flags are those of the last request that arrived. An event gets
to the client where the flags and the listeners of the session both let it.
-/

namespace TTS

namespace ExtendedEvent

/-- In the order of `requestExtendedEvents`. -/
def all : List ExtendedEvent := [.willSpeak, .paused, .resumed, .cancelled, .interrupted, .networkError, .playbackError]

theorem mem_all (e : ExtendedEvent) : e ∈ all := by
  cases e <;> decide

theorem bit_injective {e e' : ExtendedEvent} (h : e.bit = e'.bit) : e = e' := by
  revert h
  cases e <;> cases e' <;> decide

theorem name_injective {e e' : ExtendedEvent} (h : e.name = e'.name) : e = e' := by
  revert h
  cases e <;> cases e' <;> decide

/-- The request for the handler of an event whose flag changes. -/
def handler (session input : Nat) (e : ExtendedEvent) : Request :=
  ⟨session, if e.requested input then "on" else "del", [.str e.name]⟩

end ExtendedEvent

open Changes ExtendedEvent

/-! ## The client's flags -/

theorem setUnset_step (session input flags : Nat) (hs : List Request) (e : ExtendedEvent) :
    ∃ flags', setUnsetExtendedEvent session input (flags, hs) e =
        (flags', hs ++ if e.requested input = e.requested flags then [] else [e.handler session input]) ∧
      ∀ k, flags'.testBit k = if e.bit = k then input.testBit k else flags.testBit k := by
  unfold setUnsetExtendedEvent
  cases hi : e.requested input <;> cases hf : e.requested flags
  · refine ⟨flags, by simp, fun k => ?_⟩
    split
    · subst k
      exact hf.trans hi.symm
    · rfl
  · refine ⟨flags ^^^ 1 <<< e.bit, by simp [hi, handler], fun k => ?_⟩
    rw [Nat.testBit_xor, Nat.one_shiftLeft, Nat.testBit_two_pow]
    split
    · subst k
      rw [show flags.testBit e.bit = true from hf, show input.testBit e.bit = false from hi]
      simp
    · rename_i hk
      simp [hk]
  · refine ⟨flags ||| 1 <<< e.bit, by simp [hi, handler], fun k => ?_⟩
    rw [Nat.testBit_or, Nat.one_shiftLeft, Nat.testBit_two_pow]
    split
    · subst k
      rw [show input.testBit e.bit = true from hi]
      simp
    · rename_i hk
      simp [hk]
  · refine ⟨flags, by simp, fun k => ?_⟩
    split
    · subst k
      exact hf.trans hi.symm
    · rfl

/-- Each event of the list gets the bit that is asked for, and a handler request where that is a change. -/
theorem foldl_setUnset (session input : Nat) {es : List ExtendedEvent} (hnd : es.Nodup) (flags : Nat) (hs : List Request) :
    ∃ flags', es.foldl (setUnsetExtendedEvent session input) (flags, hs) =
        (flags', hs ++ (es.filter fun e => e.requested input ≠ e.requested flags).map (handler session input)) ∧
      ∀ k, flags'.testBit k = if ∃ e ∈ es, e.bit = k then input.testBit k else flags.testBit k := by
  induction es generalizing flags hs with
  | nil => exact ⟨flags, by simp, fun k => by simp⟩
  | cons e es ih =>
    obtain ⟨he, hes⟩ := List.nodup_cons.mp hnd
    obtain ⟨flags₁, hstep, hbit₁⟩ := setUnset_step session input flags hs e
    obtain ⟨flags₂, hfold, hbit₂⟩ := ih hes flags₁ (hs ++ if e.requested input = e.requested flags then [] else
      [e.handler session input])
    have hother : ∀ e' ∈ es, e'.requested flags₁ = e'.requested flags := by
      intro e' he'
      have hne : e.bit ≠ e'.bit := fun h => he (bit_injective h ▸ he')
      exact (hbit₁ _).trans (if_neg hne)
    refine ⟨flags₂, ?_, fun k => ?_⟩
    · rw [List.foldl_cons, hstep, hfold, List.filter_cons]
      have hfilter : (es.filter fun e => e.requested input ≠ e.requested flags₁) =
          es.filter fun e => e.requested input ≠ e.requested flags :=
        List.filter_congr fun e' he' => by rw [hother e' he']
      rw [hfilter]
      by_cases h : e.requested input = e.requested flags <;> simp [h]
    · rw [hbit₂, hbit₁]
      by_cases hk : e.bit = k
      · simp [hk]
      · simp [hk]

/-! ## The session's side -/

section
variable {φ : Type}

structure ExtendedSession (φ : Type) where
  client : RemoteClient
  session : TTSSession
  /-- The session, as the source of its events. -/
  source : TTSEventSource φ

/-- A call of `requestExtendedEvents`: which requests for handlers get through, whether the one for the flags does, and
the answer to that. -/
structure Asked where
  input : Nat
  handlers : String → Bool
  through : Bool
  reply : RemoteReply

def Asked.arrives (a : Asked) (r : Request) : Bool :=
  match r.args with
  | [.str name] => a.handlers name
  | _ => a.through

inductive SessionTurn (φ : Type)
  | ask (a : Asked)
  /-- A queued event is sent; `arrivals` are the requests that come in meanwhile. -/
  | sends (obj : Event) (call : Nat → Reply) (arrivals : Nat → List (ListenerRequest φ))

namespace SessionTurn

/-- No request comes in during `Send`, and no listener's connection is broken. -/
def Undisturbed : SessionTurn φ → Prop
  | .ask _ => True
  | .sends _ call arrivals => ∀ i, arrivals i = [] ∧ (call i).broken = false

def asked : SessionTurn φ → Option Asked
  | .ask a => some a
  | .sends _ _ _ => none

end SessionTurn

namespace ExtendedSession

variable (rt : RtEmit φ)

/-- `callback` is the client's, for the events of this session. -/
def perform (callback : φ) (st : ExtendedSession φ) (r : Request) : ExtendedSession φ :=
  match r.method, r.args with
  | "on", [.str name] => { st with source := st.source.setListener rt ⟨name, callback⟩ }
  | "del", [.str name] => { st with source := st.source.delListener rt ⟨name, callback⟩ }
  | "requestExtendedEvents", [.num eventflags] => { st with session := { st.session with extendedEvents := eventflags } }
  | _, _ => st

def ask (callback : φ) (sessionId : Nat) (st : ExtendedSession φ) (a : Asked) : ExtendedSession φ :=
  match st.client.requestExtendedEvents sessionId a.input with
  | .returns _ s => { st with client := s }
  | .sends handlers request go =>
    { ((handlers ++ [request]).filter a.arrives).foldl (perform rt callback) st with client := (go a.reply).2 }

def turn (callback : φ) (sessionId : Nat) (st : ExtendedSession φ) : SessionTurn φ → ExtendedSession φ
  | .ask a => st.ask rt callback sessionId a
  | .sends obj call arrivals => { st with source := (st.source.emitEvent rt call arrivals obj).2 }

/-- A session as `createSession` leaves it. -/
def opened (callback : φ) (s : RemoteClient) (p appId sessionId : Nat) (configuration : TTSConfiguration) :
    ExtendedSession φ where
  client := { s with extendedEvents := fun q => if q = p then 0 else s.extendedEvents q }
  session := .new appId "" sessionId configuration
  source := ((⟨.idle [], [], 0, false⟩ : TTSEventSource φ).setListener rt ⟨"started", callback⟩).setListener rt
    ⟨"spoke", callback⟩

/-- The client's callback is called for the event. -/
def Listens (callback : φ) (st : ExtendedSession φ) (e : ExtendedEvent) : Prop :=
  ⟨e.name, callback⟩ ∈ st.source.emit.mEntries

/-- Sent by the session, and handed to the client. -/
def Reports (callback : φ) (st : ExtendedSession φ) (e : ExtendedEvent) : Prop :=
  e.requested st.session.extendedEvents = true ∧ st.Listens callback e

/-- The session with these listeners, and no `Send` under way. -/
def listening (st : ExtendedSession φ) (entries : List (EmitEntry φ)) : ExtendedSession φ :=
  { st with source := { st.source with emit := .idle entries } }

variable [DecidableEq φ]

instance (callback : φ) (st : ExtendedSession φ) (e : ExtendedEvent) : Decidable (st.Listens callback e) :=
  inferInstanceAs (Decidable (_ ∈ _))

variable {rt} (callback : φ)

theorem perform_handler (hrt : rt.Documented) (st : ExtendedSession φ) (entries : List (EmitEntry φ)) (p input : Nat)
    (e : ExtendedEvent) :
    (st.listening entries).perform rt callback (e.handler p input) = st.listening
      (if e.requested input then addTo entries ⟨e.name, callback⟩ else entries.erase ⟨e.name, callback⟩) := by
  unfold perform handler
  cases e.requested input with
  | true => exact congrArg st.listening (hrt.addListener entries ⟨e.name, callback⟩)
  | false => exact congrArg st.listening (hrt.delListener entries ⟨e.name, callback⟩)

omit [DecidableEq φ] in
theorem entry_ne {e e' : ExtendedEvent} (h : e ≠ e') : (⟨e.name, callback⟩ : EmitEntry φ) ≠ ⟨e'.name, callback⟩ :=
  fun heq => h (name_injective (congrArg EmitEntry.n heq))

/-- The requests for handlers that get through settle their events, and touch nothing else. -/
theorem foldl_handlers (hrt : rt.Documented) (a : Asked) (p : Nat) (st : ExtendedSession φ) {es : List ExtendedEvent}
    (hes : es.Nodup) {entries : List (EmitEntry φ)} (hnd : entries.Nodup) :
    ∃ entries', ((es.map (handler p a.input)).filter a.arrives).foldl (perform rt callback) (st.listening entries) =
        st.listening entries' ∧ entries'.Nodup ∧
      ∀ e : ExtendedEvent, ⟨e.name, callback⟩ ∈ entries' ↔
        if e ∈ es ∧ a.handlers e.name = true then e.requested a.input = true else ⟨e.name, callback⟩ ∈ entries := by
  induction es generalizing entries with
  | nil => exact ⟨entries, rfl, hnd, fun e => by simp⟩
  | cons e es ih =>
    obtain ⟨he, hes⟩ := List.nodup_cons.mp hes
    have harrives : a.arrives (e.handler p a.input) = a.handlers e.name := rfl
    rw [List.map_cons, List.filter_cons, harrives]
    cases hthrough : a.handlers e.name with
    | false =>
      obtain ⟨entries', hl, hnd', hmem⟩ := ih hes hnd
      refine ⟨entries', by simpa using hl, hnd', fun x => ?_⟩
      rw [hmem]
      by_cases hx : x = e
      · subst hx
        simp [hthrough]
      · simp [hx]
    | true =>
      have hnd₁ : (if e.requested a.input then addTo entries ⟨e.name, callback⟩
          else entries.erase ⟨e.name, callback⟩).Nodup := by
        split
        · exact nodup_addTo hnd _
        · exact hnd.erase _
      obtain ⟨entries', hl, hnd', hmem⟩ := ih hes hnd₁
      refine ⟨entries', ?_, hnd', fun x => ?_⟩
      · rw [if_pos rfl, List.foldl_cons, perform_handler callback hrt, hl]
      · rw [hmem]
        by_cases hx : x = e
        · subst hx
          cases hreq : x.requested a.input
          · simp [he, hthrough, hnd.mem_erase_iff]
          · simp [he, hthrough, mem_addTo]
        · have hsame : (⟨x.name, callback⟩ : EmitEntry φ) ∈ (if e.requested a.input then
              addTo entries ⟨e.name, callback⟩ else entries.erase ⟨e.name, callback⟩) ↔ ⟨x.name, callback⟩ ∈ entries := by
            split
            · simp [mem_addTo, entry_ne callback hx]
            · rw [List.mem_erase_of_ne (entry_ne callback hx)]
          simp [hx, hsame]

/-! ## One call -/

/-- No `Send` is under way, and no listener is there twice. -/
structure Settled (st : ExtendedSession φ) : Prop where
  idle : st.source.emit = .idle st.source.emit.mEntries
  nodup : st.source.emit.mEntries.Nodup

omit [DecidableEq φ] in
theorem Settled.listening_eq {st : ExtendedSession φ} (h : st.Settled) : st.listening st.source.emit.mEntries = st := by
  unfold listening
  rw [← h.idle]

theorem ask_spec (hrt : rt.Documented) {st : ExtendedSession φ} {sessionId p : Nat}
    (hok : st.client.client.checkSession sessionId = .ok p) (hst : st.Settled) (a : Asked) :
    (st.ask rt callback sessionId a).client.client = st.client.client ∧ (st.ask rt callback sessionId a).Settled ∧
      ∀ e : ExtendedEvent, e.requested ((st.ask rt callback sessionId a).client.extendedEvents p) = e.requested a.input ∧
        ((st.ask rt callback sessionId a).Listens callback e ↔
          if e.requested a.input ≠ e.requested (st.client.extendedEvents p) ∧ a.handlers e.name = true then
            e.requested a.input = true
          else st.Listens callback e) ∧
        e.requested (st.ask rt callback sessionId a).session.extendedEvents =
          if a.through then e.requested a.input else e.requested st.session.extendedEvents := by
  have hall : all.Nodup := by decide
  obtain ⟨flags, hfold, hbit⟩ := foldl_setUnset p a.input hall (st.client.extendedEvents p) []
  have hreq : ∀ e : ExtendedEvent, e.requested flags = e.requested a.input :=
    fun e => (hbit e.bit).trans (if_pos ⟨e, mem_all e, rfl⟩)
  obtain ⟨entries, hl, hnd', hmem⟩ := foldl_handlers callback hrt a p st
    (hall.filter fun e => e.requested a.input ≠ e.requested (st.client.extendedEvents p)) hst.nodup
  rw [hst.listening_eq] at hl
  have hattempt : st.client.requestExtendedEvents sessionId a.input =
      .sends ((all.filter fun e => e.requested a.input ≠ e.requested (st.client.extendedEvents p)).map (handler p a.input))
        ⟨p, "requestExtendedEvents", [.num flags]⟩ fun r =>
          (statusCode r, { st.client with
            extendedEvents := fun q => if q = p then flags else st.client.extendedEvents q }) := by
    have hsession : ∀ send, st.client.sessionCall sessionId (fun _ => none) send = send p := by
      intro send
      rw [RemoteClient.sessionCall, hok]
    unfold RemoteClient.requestExtendedEvents
    rw [hsession]
    simp only [all] at hfold
    simp only [hfold, List.nil_append]
    rfl
  have hask : st.ask rt callback sessionId a = { st.listening entries with
      client := { st.client with extendedEvents := fun q => if q = p then flags else st.client.extendedEvents q }
      session := if a.through then { st.session with extendedEvents := flags } else st.session } := by
    unfold ask
    rw [hattempt]
    simp only [List.filter_append, List.foldl_append, hl]
    cases ht : a.through <;> simp [Asked.arrives, ht, perform, listening]
  rw [hask]
  refine ⟨rfl, ⟨rfl, hnd'⟩, fun e => ⟨?_, ?_, ?_⟩⟩
  · exact (congrArg e.requested (if_pos rfl)).trans (hreq e)
  · refine (hmem e).trans ?_
    simp [mem_all, Listens]
  · cases a.through
    · rfl
    · exact hreq e

/-! ## One event sent -/

omit [DecidableEq φ] in
theorem sends_eq (sessionId : Nat) {st : ExtendedSession φ} (hst : st.Settled) {obj : Event} {call : Nat → Reply}
    {arrivals : Nat → List (ListenerRequest φ)} (h : (SessionTurn.sends obj call arrivals).Undisturbed) :
    (st.turn rt callback sessionId (.sends obj call arrivals)).source.emit = st.source.emit := by
  obtain ⟨client, session, emit, queue, t, hanging⟩ := st
  obtain rfl : arrivals = fun _ => [] := funext fun i => (h i).1
  have hidle : emit = .idle emit.mEntries := hst.idle
  have hbroken : ∀ i, (call i).error.disconnected = false := fun i => (Bool.or_eq_false_iff.mp (h i).2).1
  rw [hidle]
  refine (emitEvent_emit rt call emit.mEntries queue t hanging obj).trans ?_
  rw [if_neg (by rw [lastError_connected obj.name hbroken]; decide), survivors_healthy obj.name fun i => (h i).2]

/-! ## A run of calls -/

/-- The bit that the last call asks for. -/
def lastAsked (e : ExtendedEvent) (d : Bool) (as : List Asked) : Bool :=
  (as.getLast?.map fun a => e.requested a.input).getD d

/-- The calls that change the bit, from `d` on. -/
def changes (e : ExtendedEvent) (d : Bool) : List Asked → List Asked
  | [] => []
  | a :: as => if e.requested a.input = d then changes e d as else a :: changes e (e.requested a.input) as

theorem lastAsked_cons (e : ExtendedEvent) (d : Bool) (a : Asked) (as : List Asked) :
    lastAsked e d (a :: as) = lastAsked e (e.requested a.input) as := by
  unfold lastAsked
  rw [List.getLast?_cons]
  cases as.getLast? <;> rfl

/-- The last change is to what was asked for last. -/
theorem lastAsked_changes (e : ExtendedEvent) (d : Bool) (as : List Asked) :
    lastAsked e d (changes e d as) = lastAsked e d as := by
  induction as generalizing d with
  | nil => rfl
  | cons a as ih =>
    rw [changes, lastAsked_cons]
    split
    · rename_i h
      rw [ih, h]
    · rw [lastAsked_cons, ih]

/-- What a run leaves of an event: the session's flag by the last request that got through, the listener by the last
change of the client's flag that did. -/
theorem turns_spec (hrt : rt.Documented) {sessionId p : Nat} (turns : List (SessionTurn φ)) {st : ExtendedSession φ}
    (hok : st.client.client.checkSession sessionId = .ok p) (hst : st.Settled) (hq : ∀ t ∈ turns, t.Undisturbed)
    (e : ExtendedEvent) :
    e.requested (turns.foldl (turn rt callback sessionId) st).session.extendedEvents =
        lastAsked e (e.requested st.session.extendedEvents) ((turns.filterMap SessionTurn.asked).filter Asked.through) ∧
      ((turns.foldl (turn rt callback sessionId) st).Listens callback e ↔
        lastAsked e (decide (st.Listens callback e))
          ((changes e (e.requested (st.client.extendedEvents p)) (turns.filterMap SessionTurn.asked)).filter
            fun a => a.handlers e.name) = true) := by
  induction turns generalizing st with
  | nil => exact ⟨rfl, by simp [changes, lastAsked]⟩
  | cons t turns ih =>
    obtain ⟨ht, hturns⟩ := List.forall_mem_cons.mp hq
    rw [List.foldl_cons]
    cases t with
    | sends obj call arrivals =>
      have hemit : (st.turn rt callback sessionId (.sends obj call arrivals)).source.emit = st.source.emit :=
        sends_eq callback sessionId hst ht
      have hst' : (st.turn rt callback sessionId (.sends obj call arrivals)).Settled :=
        ⟨by rw [hemit]; exact hst.idle, by rw [hemit]; exact hst.nodup⟩
      have hsame : (st.turn rt callback sessionId (.sends obj call arrivals)).Listens callback e ↔ st.Listens callback e := by
        unfold Listens
        rw [hemit]
      have hok' : (st.turn rt callback sessionId (.sends obj call arrivals)).client.client.checkSession sessionId = .ok p := hok
      obtain ⟨hsession, hlisteners⟩ := ih hok' hst' hturns
      rw [decide_eq_decide.mpr hsame] at hlisteners
      exact ⟨hsession, hlisteners⟩
    | ask a =>
      obtain ⟨hclient, hst', hspec⟩ := ask_spec callback hrt hok hst a
      obtain ⟨hc, hl, hs⟩ := hspec e
      have hok' : (st.turn rt callback sessionId (.ask a)).client.client.checkSession sessionId = .ok p := by
        rw [turn, hclient]
        exact hok
      obtain ⟨hsession, hlisteners⟩ := ih hok' hst' hturns
      rw [show (SessionTurn.ask a :: turns).filterMap SessionTurn.asked = a :: turns.filterMap SessionTurn.asked from rfl]
      refine ⟨?_, ?_⟩
      · rw [hsession, turn, hs, List.filter_cons]
        cases a.through with
        | true => exact (lastAsked_cons e _ a _).symm
        | false => rfl
      · rw [hlisteners, turn, hc, changes]
        by_cases hb : e.requested a.input = e.requested (st.client.extendedEvents p)
        · have hkept : (st.ask rt callback sessionId a).Listens callback e ↔ st.Listens callback e := by
            rw [hl, if_neg fun h => h.1 hb]
          rw [if_pos hb, decide_eq_decide.mpr hkept, hb]
        · rw [if_neg hb, List.filter_cons]
          cases hh : a.handlers e.name with
          | true =>
            have hset : decide ((st.ask rt callback sessionId a).Listens callback e) = e.requested a.input := by
              rw [Bool.eq_iff_iff, decide_eq_true_iff]
              exact hl.trans (iff_of_eq (if_pos ⟨hb, hh⟩))
            rw [if_pos rfl, lastAsked_cons, hset]
          | false =>
            have hkept : (st.ask rt callback sessionId a).Listens callback e ↔ st.Listens callback e := by
              rw [hl, if_neg fun h => by rw [hh] at h; cases h.2]
            rw [decide_eq_decide.mpr hkept]
            rfl

theorem changes_subset (e : ExtendedEvent) (d : Bool) (as : List Asked) : ∀ a ∈ changes e d as, a ∈ as := by
  induction as generalizing d with
  | nil => exact fun a ha => ha
  | cons b as ih =>
    intro a ha
    rw [changes] at ha
    split at ha
    · exact List.mem_cons_of_mem _ (ih d a ha)
    · rcases List.mem_cons.mp ha with rfl | ha
      · exact List.mem_cons_self
      · exact List.mem_cons_of_mem _ (ih _ a ha)

theorem opened_entries (hrt : rt.Documented) (s : RemoteClient) (p appId sessionId : Nat)
    (configuration : TTSConfiguration) :
    (opened rt callback s p appId sessionId configuration).source.emit =
      .idle [⟨"started", callback⟩, ⟨"spoke", callback⟩] :=
  Emit.request_idle hrt [.add ⟨"started", callback⟩, .add ⟨"spoke", callback⟩] []

theorem opened_settled (hrt : rt.Documented) (s : RemoteClient) (p appId sessionId : Nat)
    (configuration : TTSConfiguration) : (opened rt callback s p appId sessionId configuration).Settled := by
  have h := opened_entries callback hrt s p appId sessionId configuration
  exact ⟨by rw [h]; rfl, by rw [h]; simp [Emit.idle]⟩

theorem not_listens_opened (hrt : rt.Documented) (s : RemoteClient) (p appId sessionId : Nat)
    (configuration : TTSConfiguration) (e : ExtendedEvent) :
    ¬ (opened rt callback s p appId sessionId configuration).Listens callback e := by
  unfold Listens
  rw [opened_entries callback hrt]
  cases e <;> simp [Emit.idle, ExtendedEvent.name]

/-- **Requested, sent and heard.** Whatever gets lost of the requests on a session, as long as none comes in during a
`Send` and no connection breaks: the session sends an event and the client is its listener exactly if the last request
for the flags that got through has the event, and so has the last of the calls that change the client's own flag and
whose request for the handler got through. Where nothing gets lost, that is what was asked for last. -/
theorem extended_reported_iff (hrt : rt.Documented) {s : RemoteClient} {sessionId p : Nat}
    (hok : s.client.checkSession sessionId = .ok p) (appId : Nat) (configuration : TTSConfiguration)
    {turns : List (SessionTurn φ)} (hq : ∀ t ∈ turns, t.Undisturbed) (e : ExtendedEvent) :
    let as := turns.filterMap SessionTurn.asked
    let st := turns.foldl (turn rt callback sessionId) (opened rt callback s p appId sessionId configuration)
    (st.Reports callback e ↔ lastAsked e false (as.filter Asked.through) = true ∧
      lastAsked e false ((changes e false as).filter fun a => a.handlers e.name) = true) ∧
    ((∀ a ∈ as, a.through = true ∧ a.handlers e.name = true) → (st.Reports callback e ↔ lastAsked e false as = true)) := by
  intro as st
  have hnone : e.requested 0 = false := Nat.zero_testBit _
  have hclient : (opened rt callback s p appId sessionId configuration).client.extendedEvents p = 0 := if_pos rfl
  have hsession : (opened rt callback s p appId sessionId configuration).session.extendedEvents = 0 := rfl
  have hlisteners : decide ((opened rt callback s p appId sessionId configuration).Listens callback e) = false :=
    decide_eq_false (not_listens_opened callback hrt s p appId sessionId configuration e)
  obtain ⟨hs, hl⟩ := turns_spec callback hrt turns hok
    (opened_settled callback hrt s p appId sessionId configuration) hq e
  rw [hsession, hnone] at hs
  rw [hclient, hnone, hlisteners] at hl
  have hiff : st.Reports callback e ↔ lastAsked e false (as.filter Asked.through) = true ∧
      lastAsked e false ((changes e false as).filter fun a => a.handlers e.name) = true := by
    unfold Reports
    rw [hs, hl]
  refine ⟨hiff, fun hall => hiff.trans ?_⟩
  rw [List.filter_eq_self.mpr fun a ha => (hall a ha).1,
    List.filter_eq_self.mpr fun a ha => (hall a (changes_subset e false as a ha)).2, lastAsked_changes, and_self]

/-- Connected, with session 1 at place 0. -/
def oneSession : RemoteClient where
  client := { TTSClientPrivateRtRemote.new true (some 0) with connected := true, sessionMap := ({} : Std.TreeMap Nat Nat).insert 1 0 }
  gotResource _ := true
  extendedEvents _ := 0
  cachedEnableTTS := none

/-- The handler for `paused` gets lost, and asking again is no change; in between a speech starts. -/
def lostHandler : List (SessionTurn Nat) :=
  [.ask ⟨6, fun name => name = "resumed", true, ⟨.ok, none⟩⟩, .sends (.new "started") (fun _ => ⟨.ok, .empty⟩) fun _ => [],
    .ask ⟨6, fun _ => true, true, ⟨.ok, none⟩⟩]

theorem extended_reported_iff_lost :
    ¬ (lostHandler.foldl (turn .documented 7 1) (opened .documented 7 oneSession 0 7 1 .new)).Reports 7 .paused ∧
      (lostHandler.foldl (turn .documented 7 1) (opened .documented 7 oneSession 0 7 1 .new)).Reports 7 .resumed := by
  have hok : oneSession.client.checkSession 1 = .ok 0 := rfl
  have hq : ∀ t ∈ lostHandler, t.Undisturbed := by
    intro t ht
    simp only [lostHandler, List.mem_cons, List.not_mem_nil, or_false] at ht
    rcases ht with rfl | rfl | rfl
    · trivial
    · exact fun i => ⟨rfl, rfl⟩
    · trivial
  have h := extended_reported_iff 7 (⟨fun _ _ => rfl, fun _ _ => rfl⟩ : (RtEmit.documented : RtEmit Nat).Documented) hok 7 .new hq
  exact ⟨fun hr => absurd ((h .paused).1.mp hr).2 (by decide), (h .resumed).1.mpr (by decide)⟩

end ExtendedSession

end

end TTS
