import TTS.EventSource

/-!
# Callback wrappers

The engine's listener entries of one source point, through `onEventCB`, to
wrappers on the client's heap. A wrapper is cleared when its client object or
session goes, and the first event that still arrives deletes it. Reading a
deleted wrapper gives whatever its memory holds then, which is a parameter.
-/

namespace TTS

structure CallbackDataWrapper where
  data : Option Nat
  isConnectionCBData : Bool
  deriving DecidableEq, Repr

/-- `late` lists the calls of `onEventCB` with a deleted wrapper, `handled` the
calls of `onConnectionEvent` (true) and `onSessionEvent`. -/
structure CallbackHeap where
  wrappers : Nat → Option CallbackDataWrapper
  deleted : List Nat
  late : List Nat
  handled : List (Bool × Nat × String)

namespace CallbackHeap

def clear (h : CallbackHeap) (w : Nat) : CallbackHeap :=
  { h with wrappers := fun v => if v = w then (h.wrappers w).map fun c => { c with data := none } else h.wrappers v }

def delete (h : CallbackHeap) (w : Nat) : CallbackHeap :=
  { h with wrappers := fun v => if v = w then none else h.wrappers v, deleted := h.deleted ++ [w] }

def read (h : CallbackHeap) (freed : CallbackHeap → Nat → CallbackDataWrapper) (w : Nat) :
    CallbackDataWrapper × CallbackHeap :=
  match h.wrappers w with
  | some wrapper => (wrapper, h)
  | none => (freed h w, { h with late := h.late ++ [w] })

end CallbackHeap

section
variable (freed : CallbackHeap → Nat → CallbackDataWrapper)

def onEventCB (h : CallbackHeap) (context : Nat) (eventName : String) : Reply × CallbackHeap :=
  let (cbwrapper, h) := h.read freed context
  match cbwrapper.data with
  | none => (⟨.ok, .num TTSError.objectDestroyed.code⟩, h.delete context)
  | some data => (⟨.ok, .bool true⟩, { h with handled := h.handled ++ [(cbwrapper.isConnectionCBData, data, eventName)] })

/-- The calls for one event, and what each entry's call answers. -/
def deliver (eventName : String) : List (EmitEntry Nat) → CallbackHeap → List Reply × CallbackHeap
  | [], h => ([], h)
  | entry :: entries, h =>
    let (reply, h) := if entry.n = eventName then onEventCB freed h entry.f eventName else (⟨.ok, .empty⟩, h)
    let (replies, h) := deliver eventName entries h
    (reply :: replies, h)

variable (rt : RtEmit Nat)

/-- `Emit::Send` on the engine's side, with the answers of the client's `onEventCB`. -/
def sendToClients (st : Emit Nat × CallbackHeap) (eventName : String) : Emit Nat × CallbackHeap :=
  let (replies, h) := deliver freed eventName st.1.mEntries st.2
  ((st.1.send rt (fun i => replies.getD i ⟨.ok, .empty⟩) (fun _ => []) eventName).emit, h)

def sendAll (entries : List (EmitEntry Nat)) (h : CallbackHeap) (events : List String) : Emit Nat × CallbackHeap :=
  events.foldl (sendToClients freed rt) (.idle entries, h)

end

/-! ## How often a cleared wrapper was met -/

def CallbackHeap.Met (h : CallbackHeap) (w : Nat) : Nat → Prop
  | 0 => (∃ c, h.wrappers w = some ⟨none, c⟩) ∧ h.deleted.count w = 0 ∧ w ∉ h.late
  | 1 => h.wrappers w = none ∧ h.deleted.count w = 1 ∧ w ∉ h.late
  | _ => h.wrappers w = none ∧ w ∈ h.late

section
variable (freed : CallbackHeap → Nat → CallbackDataWrapper) {h : CallbackHeap} {w : Nat}

theorem onEventCB_other {v : Nat} (hv : v ≠ w) (eventName : String) :
    (onEventCB freed h v eventName).2.wrappers w = h.wrappers w ∧
      (onEventCB freed h v eventName).2.deleted.count w = h.deleted.count w ∧
      (w ∈ (onEventCB freed h v eventName).2.late ↔ w ∈ h.late) := by
  have hread : (h.read freed v).2.wrappers w = h.wrappers w ∧ (h.read freed v).2.deleted = h.deleted ∧
      (w ∈ (h.read freed v).2.late ↔ w ∈ h.late) := by
    unfold CallbackHeap.read
    split
    · exact ⟨rfl, rfl, Iff.rfl⟩
    · refine ⟨rfl, rfl, ?_⟩
      simp [hv.symm]
  obtain ⟨hw, hd, hl⟩ := hread
  unfold onEventCB
  simp only
  split
  · refine ⟨(if_neg hv.symm).trans hw, ?_, hl⟩
    simp only [CallbackHeap.delete]
    rw [hd, List.count_append, List.count_singleton, if_neg (by simpa using hv)]
    rfl
  · exact ⟨hw, by rw [hd], hl⟩

theorem onEventCB_met_other {v k : Nat} (hv : v ≠ w) (eventName : String) (hm : h.Met w k) :
    (onEventCB freed h v eventName).2.Met w k := by
  obtain ⟨hw, hd, hl⟩ := onEventCB_other freed (h := h) hv eventName
  match k with
  | 0 => exact ⟨by rw [hw]; exact hm.1, hd.trans hm.2.1, fun h => hm.2.2 (hl.mp h)⟩
  | 1 => exact ⟨hw.trans hm.1, hd.trans hm.2.1, fun h => hm.2.2 (hl.mp h)⟩
  | k + 2 => exact ⟨hw.trans hm.1, hl.mpr hm.2⟩

theorem onEventCB_deleted (eventName : String) (hw : h.wrappers w = none) :
    (onEventCB freed h w eventName).2.wrappers w = none ∧ w ∈ (onEventCB freed h w eventName).2.late := by
  unfold onEventCB CallbackHeap.read
  rw [hw]
  simp only
  split
  · exact ⟨if_pos rfl, by simp [CallbackHeap.delete]⟩
  · exact ⟨hw, by simp⟩

theorem onEventCB_met {k : Nat} (eventName : String) (hm : h.Met w k) :
    (onEventCB freed h w eventName).2.Met w (k + 1) := by
  match k with
  | 0 =>
    obtain ⟨⟨c, hc⟩, hd, hl⟩ := hm
    unfold onEventCB CallbackHeap.read
    rw [hc]
    refine ⟨if_pos rfl, ?_, hl⟩
    show (h.deleted ++ [w]).count w = 1
    rw [List.count_append, hd, List.count_singleton_self]
  | 1 => exact onEventCB_deleted freed eventName hm.1
  | k + 2 => exact onEventCB_deleted freed eventName hm.1

theorem onEventCB_first (eventName : String) (hm : h.Met w 0) : (onEventCB freed h w eventName).1.broken = true := by
  obtain ⟨⟨c, hc⟩, -⟩ := hm
  unfold onEventCB CallbackHeap.read
  simp [hc, Reply.broken]

/-! ## One event -/

def entriesOf (w : Nat) (events : List String) (entries : List (EmitEntry Nat)) : Nat :=
  entries.countP fun e => e.f = w ∧ e.n ∈ events

theorem entriesOf_cons (w : Nat) (events : List String) (entry : EmitEntry Nat) (entries : List (EmitEntry Nat)) :
    entriesOf w events (entry :: entries) =
      entriesOf w events entries + if entry.f = w ∧ entry.n ∈ events then 1 else 0 := by
  simp [entriesOf, List.countP_cons]

def keptEntries (eventName : String) (entries : List (EmitEntry Nat)) (replies : List Reply) : List (EmitEntry Nat) :=
  ((entries.zip replies).filter fun er => !(er.1.n = eventName && er.2.broken)).map Prod.fst

theorem keptEntries_cons (eventName : String) (entry : EmitEntry Nat) (entries : List (EmitEntry Nat)) (reply : Reply)
    (replies : List Reply) :
    keptEntries eventName (entry :: entries) (reply :: replies) =
      if entry.n = eventName ∧ reply.broken = true then keptEntries eventName entries replies
      else entry :: keptEntries eventName entries replies := by
  unfold keptEntries
  rw [List.zip_cons_cons, List.filter_cons]
  by_cases hn : entry.n = eventName <;> by_cases hb : reply.broken = true <;> simp [hn, hb]

theorem deliver_length (eventName : String) (entries : List (EmitEntry Nat)) (h : CallbackHeap) :
    (deliver freed eventName entries h).1.length = entries.length := by
  induction entries generalizing h with
  | nil => rfl
  | cons entry entries ih => simp [deliver, ih]

theorem deliver_met {k : Nat} (eventName : String) (entries : List (EmitEntry Nat)) (hm : h.Met w k) :
    (deliver freed eventName entries h).2.Met w (k + entriesOf w [eventName] entries) := by
  induction entries generalizing h k with
  | nil => exact hm
  | cons entry entries ih =>
    rw [entriesOf_cons]
    simp only [deliver, List.mem_singleton]
    by_cases hn : entry.n = eventName
    · rw [if_pos hn]
      by_cases hw : entry.f = w
      · subst hw
        rw [if_pos ⟨rfl, hn⟩, Nat.add_comm _ 1, ← Nat.add_assoc]
        exact ih (onEventCB_met freed eventName hm)
      · rw [if_neg (fun h => hw h.1)]
        exact ih (onEventCB_met_other freed hw eventName hm)
    · rw [if_neg hn, if_neg (fun h => hn h.2)]
      exact ih hm

theorem deliver_entriesOf {k : Nat} (eventName : String) (entries : List (EmitEntry Nat)) (hm : h.Met w k)
    (hk : k + entriesOf w [eventName] entries ≤ 1) (events : List String) :
    entriesOf w (eventName :: events) entries = entriesOf w [eventName] entries +
      entriesOf w events (keptEntries eventName entries (deliver freed eventName entries h).1) := by
  induction entries generalizing h k with
  | nil => rfl
  | cons entry entries ih =>
    simp only [deliver, keptEntries_cons]
    rw [entriesOf_cons] at hk
    rw [entriesOf_cons, entriesOf_cons]
    by_cases hn : entry.n = eventName
    · rw [if_pos hn]
      by_cases hw : entry.f = w
      · subst hw
        simp only [hn, List.mem_cons, true_or, and_self, if_true] at hk ⊢
        have hk0 : k = 0 := by omega
        subst hk0
        rw [if_pos ⟨trivial, onEventCB_first freed eventName hm⟩, ih (onEventCB_met freed eventName hm) (by omega)]
        omega
      · simp only [hw, false_and, if_false, Nat.add_zero] at hk ⊢
        rw [ih (onEventCB_met_other freed hw eventName hm) hk]
        split
        · rfl
        · rw [entriesOf_cons, if_neg (fun h => hw h.1)]
          rfl
    · simp only [hn, List.mem_cons, List.not_mem_nil, or_false, false_or, and_false, false_and, if_false,
        Nat.add_zero] at hk ⊢
      rw [ih hm hk, entriesOf_cons]
      omega

/-! ## The events one after the other -/

theorem survivors_replies (eventName : String) (entries : List (EmitEntry Nat)) {replies : List Reply}
    (hl : replies.length = entries.length) {call : Nat → Reply} (k : Nat)
    (hc : ∀ i r, replies[i]? = some r → call (k + i) = r) :
    survivors call eventName (entries.zipIdx k) = keptEntries eventName entries replies := by
  induction entries generalizing replies k with
  | nil => rfl
  | cons entry entries ih =>
    cases replies with
    | nil => cases hl
    | cons reply replies =>
      have hs := ih (Nat.succ.inj hl) (k + 1) fun i r hi => by
        rw [Nat.add_assoc, Nat.add_comm 1]
        exact hc (i + 1) r hi
      rw [keptEntries_cons, ← hs, List.zipIdx_cons]
      have hk : call k = reply := hc 0 reply rfl
      unfold survivors reportsBroken
      by_cases hn : entry.n = eventName <;> by_cases hb : reply.broken = true <;> simp [hn, hb, hk]

theorem entriesOf_le (eventName : String) (events : List String) (entries : List (EmitEntry Nat)) :
    entriesOf w [eventName] entries ≤ entriesOf w (eventName :: events) entries := by
  apply List.countP_mono_left
  intro e _ he
  simp only [decide_eq_true_eq] at he ⊢
  exact ⟨he.1, List.mem_cons.mpr (.inl (List.mem_singleton.mp he.2))⟩

theorem sendToClients_idle (rt : RtEmit Nat) (entries : List (EmitEntry Nat)) (h : CallbackHeap) (eventName : String) :
    sendToClients freed rt (.idle entries, h) eventName =
      (.idle (keptEntries eventName entries (deliver freed eventName entries h).1),
        (deliver freed eventName entries h).2) := by
  unfold sendToClients
  simp only [Emit.idle]
  rw [show (⟨entries, false, [], []⟩ : Emit Nat) = .idle entries from rfl, Emit.send_idle,
    survivors_replies eventName entries (deliver_length freed eventName entries h) 0]
  · rfl
  · intro i r hi
    rw [Nat.zero_add, List.getD_eq_getElem?_getD, hi]
    rfl

theorem sendAll_met (rt : RtEmit Nat) (events : List String) (entries : List (EmitEntry Nat)) {k : Nat}
    (hm : h.Met w k) :
    ∃ k', (sendAll freed rt entries h events).2.Met w k' ∧ (k' ≤ 1 ↔ k + entriesOf w events entries ≤ 1) := by
  induction events generalizing entries h k with
  | nil => exact ⟨k, hm, by simp [entriesOf]⟩
  | cons eventName events ih =>
    have hs := deliver_met freed eventName entries hm
    unfold sendAll at ih ⊢
    rw [List.foldl_cons, sendToClients_idle]
    obtain ⟨k', hk', hiff⟩ := ih (keptEntries eventName entries (deliver freed eventName entries h).1) hs
    refine ⟨k', hk', hiff.trans ?_⟩
    by_cases hle : k + entriesOf w [eventName] entries ≤ 1
    · rw [deliver_entriesOf freed eventName entries hm hle events]
      omega
    · have hmono := entriesOf_le (w := w) eventName events entries
      omega

end

def CallbackHeap.Safe (h : CallbackHeap) (w : Nat) : Prop := h.deleted.count w ≤ 1 ∧ w ∉ h.late

theorem CallbackHeap.Met.safe_iff {h : CallbackHeap} {w k : Nat} (hm : h.Met w k) : h.Safe w ↔ k ≤ 1 := by
  match k with
  | 0 => exact iff_of_true ⟨by rw [hm.2.1]; omega, hm.2.2⟩ (by omega)
  | 1 => exact iff_of_true ⟨Nat.le_of_eq hm.2.1, hm.2.2⟩ (by omega)
  | k + 2 => exact iff_of_false (fun h => h.2 hm.2) (by omega)

/-- **One wrapper, several entries.** Whatever the table, the other wrappers and
the contents of freed memory: after a live wrapper is cleared, events of any
names use it safely exactly when at most one of its entries is for one of them. -/
theorem wrapper_safe_iff (freed : CallbackHeap → Nat → CallbackDataWrapper) (rt : RtEmit Nat)
    (entries : List (EmitEntry Nat)) (events : List String) {h : CallbackHeap} {w : Nat}
    (hw : (h.wrappers w).isSome) (hd : w ∉ h.deleted) (hl : w ∉ h.late) :
    (sendAll freed rt entries (h.clear w) events).2.Safe w ↔ entriesOf w events entries ≤ 1 := by
  have hm : (h.clear w).Met w 0 := by
    obtain ⟨c, hc⟩ := Option.isSome_iff_exists.mp hw
    refine ⟨⟨c.isConnectionCBData, ?_⟩, List.count_eq_zero.mpr hd, hl⟩
    simp [CallbackHeap.clear, hc]
  obtain ⟨k, hk, hiff⟩ := sendAll_met freed rt events entries hm
  rw [hk.safe_iff, hiff, Nat.zero_add]

theorem wrapper_safe_once :
    (sendAll (fun _ _ => ⟨none, true⟩) ⟨fun l h => l ++ [h], fun l h => l.erase h⟩
      [⟨"tts_state_changed", 0⟩, ⟨"voice_changed", 0⟩, ⟨"tts_state_changed", 1⟩]
      (CallbackHeap.clear ⟨fun _ => some ⟨some 5, true⟩, [], [], []⟩ 0)
      ["tts_state_changed", "tts_state_changed"]).2.Safe 0 :=
  (wrapper_safe_iff _ _ _ _ rfl (by decide) (by decide)).mpr (by decide)

/-- Both events come: the second finds the wrapper deleted, and when the freed
memory still reads NULL it is deleted once more. -/
theorem wrapper_used_after_deletion :
    let h := (sendAll (fun _ _ => ⟨none, true⟩) ⟨fun l h => l ++ [h], fun l h => l.erase h⟩
      [⟨"tts_state_changed", 0⟩, ⟨"voice_changed", 0⟩]
      (CallbackHeap.clear ⟨fun _ => some ⟨some 5, true⟩, [], [], []⟩ 0) ["tts_state_changed", "voice_changed"]).2
    ¬ h.Safe 0 ∧ h.deleted = [0, 0] ∧ h.late = [0] := by
  unfold CallbackHeap.Safe
  decide

end TTS
