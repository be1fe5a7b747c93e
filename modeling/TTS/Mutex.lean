import Mathlib.Logic.Basic

/-!
# A mutex and its critical sections

The places where the mutex is held are the critical ones. If every step takes
the mutex on its way into them and gives it back on its way out, the holder is
the one who is there, and nobody else is.
-/

namespace Mutex

variable {ι : Type}

/-- What a step of `i` does to the mutex, by whether `i` is at a critical place before and after. -/
inductive Move (i : ι) : Bool → Bool → Option ι → Option ι → Prop
  | stay (critical : Bool) (holder : Option ι) : Move i critical critical holder holder
  | acquire : Move i false true none (some i)
  | release (holder : Option ι) : Move i true false holder none

/-- The holder is the one at a critical place. -/
def Guards (holder : Option ι) (critical : ι → Bool) : Prop := ∀ i, holder = some i ↔ critical i = true

variable {holder holder' : Option ι} {critical critical' : ι → Bool}

theorem Guards.unique (h : Guards holder critical) {i j : ι} (hi : critical i = true) (hj : critical j = true) : i = j := by
  have hholder := (h i).mpr hi
  rw [(h j).mpr hj] at hholder
  exact (Option.some.inj hholder).symm

theorem Guards.free (h : Guards holder critical) (hc : ∀ i, critical i = false) : holder = none := by
  cases hh : holder with
  | none => rfl
  | some i =>
    have hi := (h i).mp hh
    rw [hc i] at hi
    cases hi

theorem Guards.step {i : ι} (h : Guards holder critical) (hmove : Move i (critical i) (critical' i) holder holder')
    (hothers : ∀ j, j ≠ i → critical' j = critical j) : Guards holder' critical' := by
  generalize hb : critical i = b at hmove
  generalize hb' : critical' i = b' at hmove
  intro j
  by_cases hj : j = i
  · subst hj
    cases hmove with
    | stay => rw [h j, hb, hb']
    | acquire => simp [hb']
    | release => simp [hb']
  · rw [hothers j hj]
    cases hmove with
    | stay => exact h j
    | acquire =>
      have hfree : critical j = false := by
        rw [← Bool.not_eq_true, ← h j]
        intro hn
        cases hn
      simp [hfree, Ne.symm hj]
    | release =>
      have hout : critical j = false := by
        rw [← Bool.not_eq_true]
        exact fun hc => hj (h.unique hc hb)
      simp [hout]

end Mutex
