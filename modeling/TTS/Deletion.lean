import Mathlib.Data.List.Basic

/-!
# Deleting from a list

`Deletes allowed before l l'` says that `l'` is what is left of `l` when some
elements are deleted, each allowed by what stands in front of it. Elements that
are never deleted keep the neighbours they have of their own kind.
-/

namespace Deletion

universe u
variable {α : Type u}

inductive Deletes (allowed : List α → α → Prop) : List α → List α → List α → Prop
  | nil {before} : Deletes allowed before [] []
  | keep {before a l l'} (rest : Deletes allowed (before ++ [a]) l l') : Deletes allowed before (a :: l) (a :: l')
  | drop {before a l l'} (reason : allowed before a) (rest : Deletes allowed (before ++ [a]) l l') :
    Deletes allowed before (a :: l) l'

section
variable {allowed : List α → α → Prop} {before l l' : List α}

theorem Deletes.head?_eq {q : α → Bool} (hq : ∀ before a, allowed before a → q a = false)
    (h : Deletes allowed before l l') (hl : l.head?.any q = true) : l'.head? = l.head? := by
  cases h with
  | nil => rfl
  | keep => rfl
  | drop reason =>
    simp only [List.head?_cons, Option.any_some] at hl
    rw [hq _ _ reason] at hl
    cases hl

end

/-! ## Neighbours -/

/-- Each element with `p` stands beside one with `q`; `prev` stands in front of the list. -/
def Beside (p q : α → Bool) : Option α → List α → Prop
  | _, [] => True
  | prev, a :: l => (p a = true → prev.any q = true ∨ l.head?.any q = true) ∧ Beside p q (some a) l

section
variable {p q : α → Bool}

theorem beside_iff {prev : Option α} {l : List α} :
    Beside p q prev l ↔ ∀ pre a post, l = pre ++ a :: post → p a = true →
      (pre.getLast?.or prev).any q = true ∨ post.head?.any q = true := by
  induction l generalizing prev with
  | nil =>
    simp [Beside]
  | cons b l ih =>
    rw [Beside, ih]
    constructor
    · rintro ⟨hb, hl⟩ pre a post heq ha
      cases pre with
      | nil =>
        obtain ⟨rfl, rfl⟩ := List.cons.inj heq
        simpa using hb ha
      | cons b' pre =>
        obtain ⟨rfl, rfl⟩ := List.cons.inj heq
        have h := hl pre a post rfl ha
        cases hp : pre.getLast? <;> simpa [List.getLast?_cons, hp] using h
    · intro h
      refine ⟨fun hb => by simpa using h [] b l rfl hb, fun pre a post heq ha => ?_⟩
      have h := h (b :: pre) a post (by rw [heq]; rfl) ha
      cases hp : pre.getLast? <;> simpa [List.getLast?_cons, hp] using h

/-- What is never deleted stays beside what it stood beside. -/
theorem Beside.deletes {allowed : List α → α → Prop} (hq : ∀ before a, allowed before a → q a = false)
    {before l l' : List α} (hd : Deletes allowed before l l') {prev prev' : Option α}
    (hprev : prev.any q = true → prev'.any q = true) (h : Beside p q prev l) : Beside p q prev' l' := by
  induction hd generalizing prev prev' with
  | nil => trivial
  | @keep before a l l' rest ih =>
    refine ⟨fun ha => ?_, ih (fun hany => hany) h.2⟩
    rcases h.1 ha with hleft | hright
    · exact .inl (hprev hleft)
    · exact .inr ((rest.head?_eq hq hright).symm ▸ hright)
  | @drop before a l l' reason _ ih =>
    apply ih _ h.2
    intro hany
    simp [hq _ _ reason] at hany

end

end Deletion
