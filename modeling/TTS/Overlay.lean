import Mathlib.Logic.Basic
import Mathlib.Data.List.Induction

/-!
# Values overlaid one after the other

A new value replaces the old one when it is acceptable. Collecting new values
first and overlaying the result once is the same as overlaying each, but not
when two values mirror each other: a missing one is then filled with the value
the other has at that time.
-/

namespace Overlay

section
variable {α : Type} (ok : α → Prop) [DecidablePred ok]

def keep (old new : α) : α := if ok new then new else old

theorem keep_foldl {d : α} (hd : ¬ok d) (e : α) (xs : List α) :
    keep ok e (xs.foldl (keep ok) d) = xs.foldl (keep ok) e := by
  induction xs using List.reverseRecOn with
  | nil => exact if_neg hd
  | append_singleton xs x ih =>
    rw [List.foldl_append, List.foldl_append, List.foldl_cons, List.foldl_cons, List.foldl_nil, List.foldl_nil]
    by_cases hx : ok x
    · simp only [keep, if_pos hx]
    · have hold : ∀ old, keep ok old x = old := fun old => if_neg hx
      rw [hold, hold, ih]

theorem foldl_keep_ok {e : α} (he : ok e) (xs : List α) : ok (xs.foldl (keep ok) e) := by
  induction xs generalizing e with
  | nil => exact he
  | cons x xs ih =>
    refine ih ?_
    unfold keep
    split
    · assumption
    · exact he

theorem foldl_step {σ β : Type} {step : σ → β → σ} {f : σ → α} {g : β → α} {ys : List β}
    (h : ∀ y ∈ ys, ∀ s, f (step s y) = keep ok (f s) (g y)) (s : σ) :
    f (ys.foldl step s) = (ys.map g).foldl (keep ok) (f s) := by
  induction ys generalizing s with
  | nil => rfl
  | cons y ys ih =>
    rw [List.foldl_cons, ih (fun y' hy' => h y' (List.mem_cons_of_mem _ hy')), h y List.mem_cons_self, List.map_cons,
      List.foldl_cons]

end

section
variable {α : Type} [DecidableEq α] (z : α)

def lastInEffect (e : α) (as : List α) : α := as.foldl (keep (· ≠ z)) e

theorem lastInEffect_eq_iff (e : α) (as : List α) : lastInEffect z e as = z ↔ e = z ∧ ∀ a ∈ as, a = z := by
  induction as generalizing e with
  | nil => simp [lastInEffect]
  | cons a as ih =>
    have hcons : lastInEffect z e (a :: as) = lastInEffect z (keep (· ≠ z) e a) as := rfl
    rw [hcons, ih]
    by_cases ha : a = z
    · simp [keep, ha]
    · simp [keep, ha]

def firstInEffect : α → List α → α
  | e, [] => e
  | e, a :: as => if keep (· ≠ z) e a = z then firstInEffect z as else keep (· ≠ z) e a

def mirror (x : α × α) : α × α := if x.1 = z then (x.2, x.2) else if x.2 = z then (x.1, x.1) else x

def mirrorStep (x y : α × α) : α × α := mirror z (keep (· ≠ z) x.1 y.1, keep (· ≠ z) x.2 y.2)

theorem mirror_snd (x : α × α) : (mirror z x).2 = if x.2 = z then x.1 else x.2 := by
  unfold mirror
  split_ifs with h1 h2
  · rw [h1, h2]
  · rfl
  · rfl
  · rfl

theorem mirror_swap (x : α × α) : mirror z x.swap = (mirror z x).swap := by
  unfold mirror
  by_cases h1 : x.1 = z <;> by_cases h2 : x.2 = z <;> simp [h1, h2]

theorem mirrorStep_swap (x y : α × α) : mirrorStep z x.swap y.swap = (mirrorStep z x y).swap := by
  unfold mirrorStep
  rw [← mirror_swap]
  rfl

theorem foldl_mirrorStep_swap (x : α × α) (ys : List (α × α)) :
    (ys.map Prod.swap).foldl (mirrorStep z) x.swap = (ys.foldl (mirrorStep z) x).swap := by
  induction ys generalizing x with
  | nil => rfl
  | cons y ys ih =>
    rw [List.map_cons, List.foldl_cons, List.foldl_cons, mirrorStep_swap, ih]

theorem foldl_mirrorStep_of_set {x : α × α} (h : x.2 ≠ z) (ys : List (α × α)) :
    (ys.foldl (mirrorStep z) x).2 = lastInEffect z x.2 (ys.map Prod.snd) := by
  induction ys generalizing x with
  | nil => rfl
  | cons y ys ih =>
    have hkeep : keep (· ≠ z) x.2 y.2 ≠ z := foldl_keep_ok (· ≠ z) h [y.2]
    have hstep : (mirrorStep z x y).2 = keep (· ≠ z) x.2 y.2 := by rw [mirrorStep, mirror_snd, if_neg hkeep]
    rw [List.foldl_cons, ih (by rwa [hstep]), hstep]
    rfl

theorem foldl_mirrorStep_snd (x y : α × α) (ys : List (α × α)) :
    ((y :: ys).foldl (mirrorStep z) x).2 =
      if lastInEffect z x.2 ((y :: ys).map Prod.snd) = z then firstInEffect z x.1 ((y :: ys).map Prod.fst)
      else lastInEffect z x.2 ((y :: ys).map Prod.snd) := by
  induction ys generalizing x y with
  | nil =>
    simp only [lastInEffect, List.foldl_cons, List.foldl_nil, List.map_cons, List.map_nil, mirrorStep, mirror_snd,
      firstInEffect]
    by_cases h1 : keep (· ≠ z) x.1 y.1 = z
    · simp only [h1, if_true]
    · simp only [h1, if_false]
  | cons y' ys ih =>
    have hstep : (mirrorStep z x y).2 = if keep (· ≠ z) x.2 y.2 = z then keep (· ≠ z) x.1 y.1 else keep (· ≠ z) x.2 y.2 := by
      rw [mirrorStep, mirror_snd]
    show ((y' :: ys).foldl (mirrorStep z) (mirrorStep z x y)).2 =
      if lastInEffect z (keep (· ≠ z) x.2 y.2) ((y' :: ys).map Prod.snd) = z then
        if keep (· ≠ z) x.1 y.1 = z then firstInEffect z z ((y' :: ys).map Prod.fst) else keep (· ≠ z) x.1 y.1
      else lastInEffect z (keep (· ≠ z) x.2 y.2) ((y' :: ys).map Prod.snd)
    by_cases h2 : keep (· ≠ z) x.2 y.2 = z
    · rw [if_pos h2] at hstep
      rw [h2]
      by_cases h1 : keep (· ≠ z) x.1 y.1 = z
      · have hx : mirrorStep z x y = (z, z) := by simp [mirrorStep, mirror, h1, h2]
        rw [hx, ih, if_pos h1]
      · have hlast : lastInEffect z (keep (· ≠ z) x.1 y.1) ((y' :: ys).map Prod.snd) =
            keep (· ≠ z) (keep (· ≠ z) x.1 y.1) (lastInEffect z z ((y' :: ys).map Prod.snd)) :=
          (keep_foldl (· ≠ z) (fun h => h rfl) _ _).symm
        rw [foldl_mirrorStep_of_set z (by rwa [hstep]), hstep, if_neg h1, hlast]
        by_cases hs : lastInEffect z z ((y' :: ys).map Prod.snd) = z
        · rw [if_pos hs, hs]
          exact if_neg fun h => h rfl
        · rw [if_neg hs]
          exact if_pos hs
    · rw [if_neg h2] at hstep
      have hlast : lastInEffect z (keep (· ≠ z) x.2 y.2) ((y' :: ys).map Prod.snd) ≠ z := foldl_keep_ok (· ≠ z) h2 _
      rw [foldl_mirrorStep_of_set z (by rwa [hstep]), hstep, if_neg hlast]

def mirrorLast (x : α × α) (ys : List (α × α)) : α × α :=
  mirror z (lastInEffect z x.1 (ys.map Prod.fst), lastInEffect z x.2 (ys.map Prod.snd))

theorem mirrorLast_snd_eq_iff (x y : α × α) (ys : List (α × α)) :
    (mirrorLast z x (y :: ys)).2 = ((y :: ys).foldl (mirrorStep z) x).2 ↔
      (lastInEffect z x.2 ((y :: ys).map Prod.snd) = z →
        firstInEffect z x.1 ((y :: ys).map Prod.fst) = lastInEffect z x.1 ((y :: ys).map Prod.fst)) := by
  rw [mirrorLast, mirror_snd, foldl_mirrorStep_snd]
  by_cases h : lastInEffect z x.2 ((y :: ys).map Prod.snd) = z
  · rw [if_pos h, if_pos h]
    exact ⟨fun e _ => e.symm, fun e => (e h).symm⟩
  · rw [if_neg h, if_neg h]
    exact ⟨fun _ hz => absurd hz h, fun _ => rfl⟩

theorem mirrorLast_swap (x : α × α) (ys : List (α × α)) :
    mirrorLast z x.swap (ys.map Prod.swap) = (mirrorLast z x ys).swap := by
  rw [mirrorLast, mirrorLast, ← mirror_swap, List.map_map, List.map_map]
  rfl

theorem mirrorLast_eq_iff (x y : α × α) (ys : List (α × α)) :
    mirrorLast z x (y :: ys) = (y :: ys).foldl (mirrorStep z) x ↔
      (lastInEffect z x.2 ((y :: ys).map Prod.snd) = z →
        firstInEffect z x.1 ((y :: ys).map Prod.fst) = lastInEffect z x.1 ((y :: ys).map Prod.fst)) ∧
      (lastInEffect z x.1 ((y :: ys).map Prod.fst) = z →
        firstInEffect z x.2 ((y :: ys).map Prod.snd) = lastInEffect z x.2 ((y :: ys).map Prod.snd)) := by
  have hswap := mirrorLast_snd_eq_iff z x.swap y.swap (ys.map Prod.swap)
  rw [← List.map_cons, mirrorLast_swap, foldl_mirrorStep_swap, List.map_map, List.map_map] at hswap
  rw [Prod.ext_iff, and_comm]
  exact and_congr (mirrorLast_snd_eq_iff z x y ys) hswap

end

end Overlay
