import Mathlib.Data.List.Basic

/-!
# A copy kept by events

An original emits events, some of which carry its new value; a copy handles
them in order, and may also be overwritten by fetched values that were read
earlier. `Follows` holds as long as no event that sets the copy overtakes a
fetched value read before it; once all events are handled the copy is the
original.
-/

universe u v

/-- The events so far, the copy, how many events it handled, and the fetched
values on their way, each with the number of events before it was read. -/
structure Mirror (α : Type u) (ε : Type v) where
  log : List ε
  copy : α
  handled : Nat
  fetches : List (Nat × α)

namespace Mirror

section
variable {α : Type u} {ε : Type v} (sets : ε → Option α)

def replay (a : α) (es : List ε) : α := es.foldl (fun a e => (sets e).getD a) a

@[simp] theorem replay_nil (a : α) : replay sets a [] = a := rfl

@[simp] theorem replay_cons (a : α) (e : ε) (es : List ε) :
    replay sets a (e :: es) = replay sets ((sets e).getD a) es := rfl

theorem replay_append (a : α) (es es' : List ε) :
    replay sets a (es ++ es') = replay sets (replay sets a es) es' := List.foldl_append

theorem replay_of_silent {es : List ε} (h : ∀ e ∈ es, sets e = none) (a : α) : replay sets a es = a := by
  induction es with
  | nil => rfl
  | cons e es ih =>
    rw [replay_cons, h e List.mem_cons_self]
    exact ih fun x hx => h x (List.mem_cons_of_mem e hx)

theorem replay_fixed_or_same (es : List ε) : (∃ v, ∀ a, replay sets a es = v) ∨ ∀ a, replay sets a es = a := by
  induction es with
  | nil => exact .inr fun a => rfl
  | cons e es ih =>
    rcases ih with ⟨v, hv⟩ | hsame
    · exact .inl ⟨v, fun a => hv _⟩
    · cases he : sets e with
      | none =>
        refine .inr fun a => ?_
        rw [replay_cons, he, hsame]
        rfl
      | some v =>
        refine .inl ⟨v, fun a => ?_⟩
        rw [replay_cons, he, hsame]
        rfl

theorem replay_idem (a : α) (es : List ε) : replay sets (replay sets a es) es = replay sets a es := by
  rcases replay_fixed_or_same sets es with ⟨v, hv⟩ | hsame
  · rw [hv, hv]
  · rw [hsame, hsame]

theorem replay_eq_of_sets {es : List ε} {e : ε} (he : e ∈ es) (hs : sets e ≠ none) (a b : α) :
    replay sets a es = replay sets b es := by
  induction es generalizing a b with
  | nil => cases he
  | cons e' es ih =>
    rw [replay_cons, replay_cons]
    rcases List.mem_cons.mp he with rfl | he
    · cases hv : sets e with
      | none => exact absurd hv hs
      | some v => rfl
    · exact ih he _ _

/-! Events that end on the value the original has by now, if they set it at all. -/

theorem replay_settled_tail {a : α} {e : ε} {es : List ε} (h : replay sets a (e :: es) = a) : replay sets a es = a := by
  rcases replay_fixed_or_same sets es with ⟨v, hv⟩ | hsame
  · rw [hv, ← hv ((sets e).getD a)]
    exact h
  · exact hsame a

theorem replay_settled_append {a : α} {es : List ε} (h : replay sets a es = a) (new : List ε) :
    replay sets (replay sets a new) (es ++ new) = replay sets a new := by
  rw [replay_append]
  rcases replay_fixed_or_same sets new with ⟨v, hv⟩ | hsame
  · rw [hv, hv]
  · rw [hsame, hsame, h]

end

section
variable {α : Type u} {ε : Type v}

/-- What is said of a fetched value: it stands for the events before it was
read, and with those after it gives the original. -/
structure Fresh (sets : ε → Option α) (original : α) (m : Mirror α ε) (f : Nat × α) : Prop where
  pos_le : f.1 ≤ m.log.length
  before : replay sets f.2 ((m.log.take f.1).drop m.handled) = f.2
  after : replay sets f.2 (m.log.drop f.1) = original
  rest : replay sets f.2 (m.log.drop m.handled) = original

/-- The copy, and each fetched value, becomes the original with the events still to come. -/
structure Follows (sets : ε → Option α) (original : α) (m : Mirror α ε) : Prop where
  handled_le : m.handled ≤ m.log.length
  copy : replay sets m.copy (m.log.drop m.handled) = original
  fetches : ∀ f ∈ m.fetches, Fresh sets original m f

variable {sets : ε → Option α} {original : α} {m : Mirror α ε} (h : Follows sets original m)

include h in
theorem Follows.copy_eq (hq : m.handled = m.log.length) : m.copy = original := by
  have hc := h.copy
  rw [hq, List.drop_length] at hc
  exact hc

include h in
theorem Follows.emit (es : List ε) : Follows sets (replay sets original es) { m with log := m.log ++ es } := by
  have hdrop : ∀ n, n ≤ m.log.length → (m.log ++ es).drop n = m.log.drop n ++ es := fun n hn =>
    List.drop_append_of_le_length hn
  refine ⟨?_, ?_, fun f hf => ?_⟩
  · rw [List.length_append]
    exact Nat.le_trans h.handled_le (Nat.le_add_right _ _)
  · rw [hdrop _ h.handled_le, replay_append, h.copy]
  · obtain ⟨hpos, hbefore, hafter, hrest⟩ := h.fetches f hf
    refine ⟨?_, ?_, ?_, ?_⟩
    · rw [List.length_append]
      exact Nat.le_trans hpos (Nat.le_add_right _ _)
    · rw [List.take_append_of_le_length hpos]
      exact hbefore
    · rw [hdrop _ hpos, replay_append, hafter]
    · rw [hdrop _ h.handled_le, replay_append, hrest]

include h in
theorem Follows.fetch : Follows sets original { m with fetches := m.fetches ++ [(m.log.length, original)] } := by
  refine ⟨h.handled_le, h.copy, fun f hf => ?_⟩
  rcases List.mem_append.mp hf with hf | hf
  · exact ⟨(h.fetches f hf).pos_le, (h.fetches f hf).before, (h.fetches f hf).after, (h.fetches f hf).rest⟩
  · rw [List.mem_singleton.mp hf]
    have hread : replay sets original (m.log.drop m.handled) = original := by
      rw [← h.copy]
      exact replay_idem sets _ _
    refine ⟨Nat.le_refl _, ?_, ?_, hread⟩
    · show replay sets original ((m.log.take m.log.length).drop m.handled) = original
      rw [List.take_length]
      exact hread
    · show replay sets original (m.log.drop m.log.length) = original
      rw [List.drop_length]
      rfl

include h in
theorem Follows.store {f : Nat × α} (hf : f ∈ m.fetches) {fetches : List (Nat × α)} (hs : ∀ g ∈ fetches, g ∈ m.fetches) :
    Follows sets original { m with copy := f.2, fetches := fetches } :=
  ⟨h.handled_le, (h.fetches f hf).rest, fun g hg =>
    ⟨(h.fetches g (hs g hg)).pos_le, (h.fetches g (hs g hg)).before, (h.fetches g (hs g hg)).after,
      (h.fetches g (hs g hg)).rest⟩⟩

include h in
theorem Follows.handle {e : ε} (he : m.log[m.handled]? = some e)
    (hf : sets e = none ∨ ∀ f ∈ m.fetches, m.handled < f.1) :
    Follows sets original { m with copy := (sets e).getD m.copy, handled := m.handled + 1 } := by
  obtain ⟨hlt, hget⟩ := List.getElem?_eq_some_iff.mp he
  have hcons : m.log.drop m.handled = e :: m.log.drop (m.handled + 1) := by
    rw [← hget]
    exact List.drop_eq_getElem_cons hlt
  refine ⟨hlt, ?_, fun f hm => ?_⟩
  · have hc := h.copy
    rw [hcons] at hc
    exact hc
  · obtain ⟨hpos, hbefore, hafter, hrest⟩ := h.fetches f hm
    have hnew : replay sets f.2 ((m.log.take f.1).drop (m.handled + 1)) = f.2 := by
      by_cases hp : m.handled < f.1
      · -- the event is among those the value stands for
        have hlt' : m.handled < (m.log.take f.1).length := by
          rw [List.length_take]
          omega
        rw [List.drop_eq_getElem_cons hlt', replay_cons] at hbefore
        have := replay_idem sets ((sets (m.log.take f.1)[m.handled]).getD f.2) ((m.log.take f.1).drop (m.handled + 1))
        rw [hbefore] at this
        exact this
      · rw [List.drop_of_length_le]
        · rfl
        · rw [List.length_take]
          omega
    refine ⟨hpos, hnew, hafter, ?_⟩
    by_cases hp : m.handled < f.1
    · have hsplit : m.log.drop (m.handled + 1) = (m.log.take f.1).drop (m.handled + 1) ++ m.log.drop f.1 := by
        rw [← List.drop_append_of_le_length, List.take_append_drop]
        rw [List.length_take]
        omega
      show replay sets f.2 (m.log.drop (m.handled + 1)) = original
      rw [hsplit, replay_append, hnew, hafter]
    · have hnone : sets e = none := hf.resolve_right fun hall => hp (hall f hm)
      rw [hcons, replay_cons, hnone] at hrest
      exact hrest

end

end Mirror
