import Mathlib.Data.List.TakeWhile
import TTS.Client
import TTS.SplitLoop

/-!
# The ids of cancelled speeches

`TTSSession::cancelled` sends its ids as decimals between commas, and the
client reads them back with `strtok` and `atol`. The commas lose nothing; the
signed type of `atol` does where a `long` has 32 bits.
-/

namespace TTS

/-! ## strtok -/

/-- The tokens of `strtok`; a delimiter with nothing in front of it is skipped. -/
def strtokLoop (delim : Char) : Text → Text → List Text
  | cur, [] => if cur.isEmpty then [] else [cur]
  | cur, c :: rest =>
    if c = delim then if cur.isEmpty then strtokLoop delim [] rest else cur :: strtokLoop delim [] rest
    else strtokLoop delim (cur ++ [c]) rest

def strtok (str : Text) (delim : Char) : List Text := strtokLoop delim [] str

theorem strtokLoop_eq_filter (delim : Char) (cur str : Text) :
    strtokLoop delim cur str = (splitLoop delim cur str).filter fun t => !t.isEmpty := by
  induction str generalizing cur with
  | nil => cases cur <;> simp [strtokLoop, splitLoop]
  | cons c rest ih =>
    rw [strtokLoop, splitLoop]
    by_cases hc : c = delim
    · rw [if_pos hc, if_pos hc]
      cases cur <;> simp [ih]
    · rw [if_neg hc, if_neg hc, ih]

theorem strtok_join {delim : Char} {tokens : List Text} (hfree : ∀ t ∈ tokens, delim ∉ t) (hne : ∀ t ∈ tokens, t ≠ []) :
    strtok ([delim].intercalate tokens) delim = tokens := by
  by_cases hnil : tokens = []
  · subst hnil
    rfl
  · have hlast : tokens.getLast? ≠ some [] := fun h => hne [] (List.mem_of_getLast? h) rfl
    have hsplit := split_join hfree hlast hnil
    rw [split] at hsplit
    rw [strtok, strtokLoop_eq_filter, hsplit, List.filter_eq_self]
    intro t ht
    simpa using hne t ht

/-! ## atol -/

/-- The width of a `long`. -/
inductive LongWidth
  | bits32
  | bits64
  deriving DecidableEq, Repr

namespace LongWidth

def bits : LongWidth → Nat
  | bits32 => 32
  | bits64 => 64

def longMax (w : LongWidth) : Int := 2 ^ (w.bits - 1) - 1

def longMin (w : LongWidth) : Int := -2 ^ (w.bits - 1)

/-- A number outside `long` becomes the bound it passes. -/
def atol (w : LongWidth) (s : Text) : Int := max w.longMin (min (TTS.atol s) w.longMax)

/-- `uint32_t speechid = atol(token)`. -/
def speechid (w : LongWidth) (token : Text) : Nat := (w.atol token % 2 ^ 32).toNat

theorem atol_natToString (w : LongWidth) (n : Nat) : w.atol (natToString n) = min (n : Int) w.longMax := by
  have hmin : w.longMin ≤ 0 := by cases w <;> decide
  have hmax : 0 ≤ w.longMax := by cases w <;> decide
  rw [atol, TTS.atol_natToString]
  apply max_eq_right
  omega

theorem speechid_natToString_iff (w : LongWidth) {n : Nat} (hn : n < 2 ^ 32) :
    w.speechid (natToString n) = n ↔ w = .bits64 ∨ n < 2 ^ 31 := by
  rw [speechid, atol_natToString]
  cases w with
  | bits32 =>
    have hmax : longMax bits32 = 2147483647 := rfl
    rw [hmax, or_iff_right (fun h => nomatch h)]
    omega
  | bits64 =>
    have hmax : longMax bits64 = 9223372036854775807 := rfl
    rw [hmax, iff_true_right (.inl rfl)]
    omega

end LongWidth

/-! ## The calls of onSessionEvent -/

inductive SessionCallback
  | onResourceAcquired (appId sessionId : Nat)
  | onResourceReleased (appId sessionId : Nat)
  | onWillSpeak (appId sessionId id : Nat) (text : Text)
  | onSpeechStart (appId sessionId id : Nat) (text : Text)
  | onSpeechPause (appId sessionId speechId : Nat)
  | onSpeechResume (appId sessionId speechId : Nat)
  | onSpeechCancelled (appId sessionId speechId : Nat)
  | onSpeechInterrupted (appId sessionId speechId : Nat)
  | onNetworkError (appId sessionId speechId : Nat)
  | onPlaybackError (appId sessionId speechId : Nat)
  | onSpeechComplete (appId sessionId id : Nat) (text : Text)
  deriving DecidableEq, Repr

namespace Event

/-- `event.get<rtValue>(p).toUInt32()` of a number. -/
def toUInt32 (e : Event) (p : String) : Nat :=
  match e.props.reverse.lookup p with
  | some (.num n) => n % 2 ^ 32
  | _ => 0

/-- `event.get<rtString>(p).cString()` of a string. -/
def cString (e : Event) (p : String) : Text :=
  match e.props.reverse.lookup p with
  | some (.str s) => s.toList.takeWhile (· ≠ '\x00')
  | _ => []

end Event

/-- What `onSessionEvent` calls where `m_callback` is not NULL. -/
def SessionInfo.callbacks (w : LongWidth) (s : SessionInfo) (e : Event) : List SessionCallback :=
  if e.name = "resource_acquired" then [.onResourceAcquired s.appId (e.toUInt32 "session")]
  else if e.name = "resource_released" then [.onResourceReleased s.appId (e.toUInt32 "session")]
  else if e.name = "willSpeak" then [.onWillSpeak s.appId s.sessionId (e.toUInt32 "id") (e.cString "text")]
  else if e.name = "started" then [.onSpeechStart s.appId s.sessionId (e.toUInt32 "id") (e.cString "text")]
  else if e.name = "paused" then [.onSpeechPause s.appId s.sessionId (e.toUInt32 "id")]
  else if e.name = "resumed" then [.onSpeechResume s.appId s.sessionId (e.toUInt32 "id")]
  else if e.name = "cancelled" then
    (strtok (e.cString "ids") ',').map fun token => .onSpeechCancelled s.appId s.sessionId (w.speechid token)
  else if e.name = "interrupted" then [.onSpeechInterrupted s.appId s.sessionId (e.toUInt32 "id")]
  else if e.name = "networkerror" then [.onNetworkError s.appId s.sessionId (e.toUInt32 "id")]
  else if e.name = "playbackerror" then [.onPlaybackError s.appId s.sessionId (e.toUInt32 "id")]
  else if e.name = "spoke" then [.onSpeechComplete s.appId s.sessionId (e.toUInt32 "id") (e.cString "text")]
  else []

/-! ## The round trip -/

theorem not_mem_natToString {c : Char} (hc : c.isDigit = false) (n : Nat) : c ∉ natToString n := by
  intro h
  rw [isDigit_of_mem_natToString h] at hc
  cases hc

theorem joinIds_toList (ids : List Nat) : (TTSSession.joinIds ids).toList = [','].intercalate (ids.map natToString) := by
  rw [TTSSession.joinIds, String.toList_ofList]
  rfl

theorem strtok_joinIds (ids : List Nat) : strtok (TTSSession.joinIds ids).toList ',' = ids.map natToString := by
  rw [joinIds_toList]
  apply strtok_join
  · intro t ht
    obtain ⟨n, -, rfl⟩ := List.mem_map.mp ht
    exact not_mem_natToString (by decide) n
  · intro t ht
    obtain ⟨n, -, rfl⟩ := List.mem_map.mp ht
    exact natToString_ne_nil n

theorem mem_intercalate {α : Type} {sep x : α} {parts : List (List α)} (h : x ∈ [sep].intercalate parts) :
    x = sep ∨ ∃ part ∈ parts, x ∈ part := by
  induction parts with
  | nil => cases h
  | cons part parts ih =>
    cases parts with
    | nil => exact .inr ⟨part, List.mem_cons_self, by simpa using h⟩
    | cons part' parts =>
      rw [List.intercalate_cons_cons, List.append_assoc, List.mem_append, List.mem_append, List.mem_singleton] at h
      rcases h with h | h | h
      · exact .inr ⟨part, List.mem_cons_self, h⟩
      · exact .inl h
      · obtain h | ⟨part₁, hm, hx⟩ := ih h
        · exact .inl h
        · exact .inr ⟨part₁, List.mem_cons_of_mem part hm, hx⟩

theorem cString_joinIds (ids : List Nat) :
    ((Event.new "cancelled").set "ids" (.str (TTSSession.joinIds ids))).cString "ids" = (TTSSession.joinIds ids).toList := by
  have hlookup : (Event.new "cancelled").set "ids" (.str (TTSSession.joinIds ids)) =
      ⟨"cancelled", [("ids", .str (TTSSession.joinIds ids))]⟩ := rfl
  rw [hlookup, Event.cString]
  refine List.takeWhile_eq_self_iff.mpr fun c hc => ?_
  rw [joinIds_toList] at hc
  obtain rfl | ⟨t, ht, hc⟩ := mem_intercalate hc
  · rfl
  · obtain ⟨n, -, rfl⟩ := List.mem_map.mp ht
    simpa using fun h : c = '\x00' => not_mem_natToString (by decide) n (h ▸ hc)

theorem callbacks_cancelled (w : LongWidth) (s : TTSSession) (info : SessionInfo) (ids : List Nat)
    (hreq : ExtendedEvent.cancelled.requested s.extendedEvents) :
    ((s.cancelled ids).events.drop s.events.length).flatMap (info.callbacks w) =
      ids.map fun id => .onSpeechCancelled info.appId info.sessionId (w.speechid (natToString id)) := by
  unfold TTSSession.cancelled
  rw [hreq]
  by_cases hnil : ids = []
  · subst hnil
    simp
  · have hcalls (e : Event) (he : e.name = "cancelled") : info.callbacks w e =
        (strtok (e.cString "ids") ',').map fun token => .onSpeechCancelled info.appId info.sessionId (w.speechid token) := by
      simp [SessionInfo.callbacks, he]
    rw [List.isEmpty_eq_false_iff.mpr hnil]
    simp only [Bool.not_true, Bool.false_eq_true, if_false, TTSSession.sendEvent, List.drop_left, List.flatMap_singleton]
    rw [hcalls _ rfl, cString_joinIds, strtok_joinIds, List.map_map]
    rfl

/-- **Cancelled ids on the wire.** They arrive one by one, in order and unchanged
on every target exactly when none reaches the sign bit of a `long` of 32 bits. -/
theorem cancelled_ids_arrive_iff (w : LongWidth) (s : TTSSession) (info : SessionInfo) (ids : List UInt32)
    (hreq : ExtendedEvent.cancelled.requested s.extendedEvents) :
    ((s.cancelled (ids.map UInt32.toNat)).events.drop s.events.length).flatMap (info.callbacks w) =
        ids.map (fun id => .onSpeechCancelled info.appId info.sessionId id.toNat) ↔
      w = .bits64 ∨ ∀ id ∈ ids, id.toNat < 2 ^ 31 := by
  rw [callbacks_cancelled w s info _ hreq, List.map_map, List.map_inj_left]
  have hid (id : UInt32) : (SessionCallback.onSpeechCancelled info.appId info.sessionId (w.speechid (natToString id.toNat)) =
      .onSpeechCancelled info.appId info.sessionId id.toNat) ↔ w = .bits64 ∨ id.toNat < 2 ^ 31 := by
    rw [← w.speechid_natToString_iff id.toNat_lt, SessionCallback.onSpeechCancelled.injEq]
    simp
  constructor
  · intro h
    refine or_iff_not_imp_left.mpr fun hw id hm => ?_
    exact ((hid id).mp (h id hm)).resolve_left hw
  · intro h id hm
    exact (hid id).mpr (h.imp_right fun h => h id hm)

/-- A session whose client asked for the cancelled events. -/
def cancelledSession : TTSSession := { TTSSession.new 1 "guide" 7 .new with extendedEvents := 2 ^ ExtendedEvent.cancelled.bit }

theorem cancelled_ids_arrive_64 :
    ((cancelledSession.cancelled ([5, 4294967295].map UInt32.toNat)).events.drop cancelledSession.events.length).flatMap
        (SessionInfo.callbacks .bits64 ⟨1, "guide", 7, true⟩) =
      [5, 4294967295].map (fun id : UInt32 => .onSpeechCancelled 1 7 id.toNat) :=
  (cancelled_ids_arrive_iff .bits64 cancelledSession ⟨1, "guide", 7, true⟩ [5, 4294967295] rfl).mpr (.inl rfl)

/-- On 32 bits the id 2147483648 arrives as 2147483647. -/
theorem cancelled_id_saturates :
    ¬∀ (w : LongWidth) (s : TTSSession) (info : SessionInfo) (ids : List UInt32),
      ExtendedEvent.cancelled.requested s.extendedEvents →
        ((s.cancelled (ids.map UInt32.toNat)).events.drop s.events.length).flatMap (info.callbacks w) =
          ids.map fun id => .onSpeechCancelled info.appId info.sessionId id.toNat := by
  intro h
  have h := h .bits32 cancelledSession ⟨1, "guide", 7, true⟩ [2147483648] rfl
  rw [callbacks_cancelled .bits32 cancelledSession ⟨1, "guide", 7, true⟩ _ rfl] at h
  have hid : LongWidth.bits32.speechid (natToString 2147483648) = 2147483648 := by
    injection h with h
    injection h
  have hlt := (LongWidth.bits32.speechid_natToString_iff (by decide)).mp hid
  exact absurd hlt (by decide)

end TTS
