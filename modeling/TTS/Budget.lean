import Mathlib.Data.List.SplitBy

/-!
# A budget that is renewed by a pause

Items come in a list, and a relation says which item is near the one before it.
A counter starts at one with an item that is not near and grows by one with each
item that is; the item is served while the counter is within the budget. So of
each maximal run of items that are near one another the first ones are served,
as many as the budget allows, and the others are not.
-/

namespace Budget

variable {α : Type} (near : α → α → Bool) (budget : Nat)

/-- The counter after the item `x`. -/
def count (last : Option α) (n : Nat) (x : α) : Nat := if last.any (near · x) then n + 1 else 1

/-- Which of the items are served, after the item `last` and with the counter at `n`. -/
def spend (last : Option α) (n : Nat) : List α → List Bool
  | [] => []
  | x :: items => decide (count near last n x ≤ budget) :: spend (some x) (count near last n x) items

/-- The first items of a run, as many as the budget allows. -/
def firstOnly (run : List α) : List Bool :=
  List.replicate (min budget run.length) true ++ List.replicate (run.length - budget) false

variable {near budget}

/-- After a pause neither the item before nor the counter is of account. -/
theorem spend_fresh {last : Option α} {items : List α} (h : ∀ x ∈ items.head?, last.any (near · x) = false) (n : Nat) :
    spend near budget last n items = spend near budget none 0 items := by
  cases items with
  | nil => simp only [spend]
  | cons x items =>
    have hcount : count near last n x = count near none 0 x := by
      simp [count, h x rfl]
    simp only [spend, hcount]

/-- A run that goes on after `n` items of it uses up what is left. -/
theorem spend_run_append {a : α} {run : List α} (h : (a :: run).IsChain (near · · = true)) (n : Nat) (rest : List α) :
    spend near budget (some a) n (run ++ rest) =
      List.replicate (min (budget - n) run.length) true ++ List.replicate (run.length - (budget - n)) false ++
        spend near budget (some ((a :: run).getLast (List.cons_ne_nil a run))) (n + run.length) rest := by
  induction run generalizing a n with
  | nil => simp
  | cons x run ih =>
    rw [List.isChain_cons_cons] at h
    have hcount : count near (some a) n x = n + 1 := by simp [count, h.1]
    rw [List.cons_append, spend, hcount, ih h.2 (n + 1), List.getLast_cons (List.cons_ne_nil x run), List.length_cons,
      Nat.add_right_comm n 1 run.length, Nat.add_assoc n run.length 1]
    by_cases hn : n + 1 ≤ budget
    · have hleft : budget - n = budget - (n + 1) + 1 := by omega
      have hmin : min (budget - n) (run.length + 1) = min (budget - (n + 1)) run.length + 1 := by omega
      have hrest : run.length + 1 - (budget - n) = run.length - (budget - (n + 1)) := by omega
      simp [hn, hmin, hrest, List.replicate_succ]
    · have hleft : budget - n = 0 := by omega
      have hleft' : budget - (n + 1) = 0 := by omega
      simp [hn, hleft, hleft', List.replicate_succ]

theorem spend_run {run : List α} (hne : run ≠ []) (h : run.IsChain (near · · = true)) (rest : List α) :
    spend near budget none 0 (run ++ rest) =
      firstOnly budget run ++ spend near budget (some (run.getLast hne)) run.length rest := by
  cases run with
  | nil => exact absurd rfl hne
  | cons x run =>
    have hcount : count near none 0 x = 1 := by simp [count]
    rw [List.cons_append, spend, hcount, spend_run_append h 1 rest, firstOnly, List.length_cons, Nat.add_comm 1 run.length]
    by_cases hb : 1 ≤ budget
    · have hmin : min budget (run.length + 1) = min (budget - 1) run.length + 1 := by omega
      have hrest : run.length + 1 - budget = run.length - (budget - 1) := by omega
      simp [hb, hmin, hrest, List.replicate_succ]
    · have hzero : budget = 0 := by omega
      simp [hzero, List.replicate_succ]

/-- Runs that are separated by pauses are served one by one. -/
theorem spend_flatten {runs : List (List α)} (hne : ∀ run ∈ runs, run ≠ [])
    (hchain : ∀ run ∈ runs, run.IsChain (near · · = true))
    (hpause : runs.IsChain fun a b => ∃ ha hb, near (a.getLast ha) (b.head hb) = false) :
    spend near budget none 0 runs.flatten = runs.flatMap (firstOnly budget) := by
  induction runs with
  | nil => simp only [List.flatten_nil, spend, List.flatMap_nil]
  | cons run runs ih =>
    have hrun : run ≠ [] := hne run List.mem_cons_self
    have ih := ih (fun g hg => hne g (List.mem_cons_of_mem run hg)) (fun g hg => hchain g (List.mem_cons_of_mem run hg))
      hpause.of_cons
    rw [List.flatten_cons, spend_run hrun (hchain run List.mem_cons_self), List.flatMap_cons, ← ih]
    congr 1
    apply spend_fresh
    intro x hx
    cases runs with
    | nil => simp at hx
    | cons next runs =>
      -- the item after the run is the head of the next one
      obtain ⟨_, hnext, hfar⟩ := (List.isChain_cons_cons.mp hpause).1
      rw [List.flatten_cons, List.head?_append, List.head?_eq_some_head hnext, Option.some_or, Option.mem_some] at hx
      simp [← hx, hfar]

theorem spend_splitBy (items : List α) :
    spend near budget none 0 items = (items.splitBy near).flatMap (firstOnly budget) := by
  have h := @spend_flatten α near budget (items.splitBy near) (fun run hrun => List.ne_nil_of_mem_splitBy hrun)
    (fun run hrun => List.isChain_of_mem_splitBy hrun) (List.isChain_getLast_head_splitBy near items)
  rw [List.flatten_splitBy] at h
  exact h

end Budget
