import Mathlib.Data.List.Nodup
import TTS.Transition

/-!
# A ledger of work

Items are accepted into a waiting list. One at a time is taken from the front
and finished; waiting items may be withdrawn by a test on the item, or dropped
all at once. In every reachable state an accepted item is in exactly one of
the five places.
-/

open Transition

structure Ledger (α : Type) where
  accepted : List α
  waiting : List α
  inHand : Option α
  withdrawn : List α
  finished : List α
  dropped : List α

namespace Ledger

variable {α : Type} [DecidableEq α]

inductive Label (α : Type)
  | accept (x : α)
  | take
  | finish
  | withdraw (p : α → Bool)
  | drop

def empty : Ledger α := ⟨[], [], none, [], [], []⟩

def step (l : Ledger α) : Label α → Option (Ledger α)
  | .accept x =>
    if x ∈ l.accepted then none else some { l with accepted := l.accepted ++ [x], waiting := l.waiting ++ [x] }
  | .take =>
    match l.inHand, l.waiting with
    | none, x :: rest => some { l with waiting := rest, inHand := some x }
    | _, _ => none
  | .finish =>
    match l.inHand with
    | some x => some { l with inHand := none, finished := l.finished ++ [x] }
    | none => none
  | .withdraw p =>
    some { l with waiting := l.waiting.filter fun x => !p x, withdrawn := l.withdrawn ++ l.waiting.filter p }
  | .drop => some { l with waiting := [], dropped := l.dropped ++ l.waiting }

def machine : Machine (Ledger α) (Label α) where
  init l := l = empty
  step := step

def places (l : Ledger α) (x : α) : Nat :=
  l.waiting.count x + l.inHand.toList.count x + l.withdrawn.count x + l.finished.count x + l.dropped.count x

/-- No item is accepted twice, and each is where it was put as often as it was accepted. -/
structure Balanced (l : Ledger α) : Prop where
  nodup : l.accepted.Nodup
  places : ∀ x, l.places x = l.accepted.count x

theorem count_filter_add (p : α → Bool) (xs : List α) (x : α) :
    (xs.filter p).count x + (xs.filter fun y => !p y).count x = xs.count x := by
  rw [← List.count_append]
  exact (List.filter_append_perm p xs).count_eq x

theorem step_balanced {l l' : Ledger α} {a : Label α} (h : l.Balanced) (hs : l.step a = some l') : l'.Balanced := by
  obtain ⟨hn, hp⟩ := h
  cases a with
  | accept x =>
    simp only [step, Option.ite_none_left_eq_some, Option.some.injEq] at hs
    obtain ⟨hx, rfl⟩ := hs
    refine ⟨List.nodup_append.mpr ⟨hn, List.nodup_singleton x, ?_⟩, fun y => ?_⟩
    · intro y hy z hz hyz
      rw [List.mem_singleton] at hz
      exact hx (hz ▸ hyz ▸ hy)
    · have := hp y
      simp only [Ledger.places, List.count_append] at this ⊢
      omega
  | take =>
    simp only [step] at hs
    split at hs
    · rename_i x rest hh hw
      obtain rfl := Option.some.inj hs
      refine ⟨hn, fun y => ?_⟩
      have := hp y
      simp only [Ledger.places, hh, hw, Option.toList, List.count_cons, List.count_nil] at this ⊢
      omega
    · cases hs
  | finish =>
    simp only [step] at hs
    split at hs
    · rename_i x hh
      obtain rfl := Option.some.inj hs
      refine ⟨hn, fun y => ?_⟩
      have := hp y
      simp only [Ledger.places, hh, Option.toList, List.count_append, List.count_nil] at this ⊢
      omega
    · cases hs
  | withdraw p =>
    obtain rfl := Option.some.inj hs
    refine ⟨hn, fun y => ?_⟩
    have := hp y
    have hc := count_filter_add p l.waiting y
    simp only [Ledger.places, List.count_append] at this ⊢
    omega
  | drop =>
    obtain rfl := Option.some.inj hs
    refine ⟨hn, fun y => ?_⟩
    have := hp y
    simp only [Ledger.places, List.count_append, List.count_nil] at this ⊢
    omega

theorem reachable_balanced {l : Ledger α} (h : machine.Reachable l) : l.Balanced := by
  refine Machine.Reachable.invariant (I := Balanced) ?_ (fun _ _ _ hI hs => step_balanced hI hs) h
  rintro _ rfl
  exact ⟨List.nodup_nil, fun x => rfl⟩

/-- **One place each.** An accepted item is in exactly one place, once. -/
theorem places_eq_one {l : Ledger α} (h : machine.Reachable l) {x : α} (hx : x ∈ l.accepted) : l.places x = 1 := by
  have hb := reachable_balanced h
  rw [hb.places]
  exact List.count_eq_one_of_mem hb.nodup hx

/-! ## Order -/

/-- What is finished, in hand and waiting, in this order. -/
def inOrder (l : Ledger α) : List α := l.finished ++ l.inHand.toList ++ l.waiting

omit [DecidableEq α] in
theorem inOrder_waiting {l : Ledger α} {waiting : List α} (h : waiting.Sublist l.waiting) :
    (inOrder { l with waiting := waiting }).Sublist l.inOrder :=
  List.Sublist.append_left h _

theorem step_inOrder {l l' : Ledger α} {a : Label α} (h : l.inOrder.Sublist l.accepted) (hs : l.step a = some l') :
    l'.inOrder.Sublist l'.accepted := by
  cases a with
  | accept x =>
    simp only [step, Option.ite_none_left_eq_some, Option.some.injEq] at hs
    obtain ⟨-, rfl⟩ := hs
    have : inOrder { l with accepted := l.accepted ++ [x], waiting := l.waiting ++ [x] } = l.inOrder ++ [x] := by
      simp only [inOrder, List.append_assoc]
    rw [this]
    exact List.Sublist.append_right h [x]
  | take =>
    simp only [step] at hs
    split at hs
    next x rest hh hw =>
      obtain rfl := Option.some.inj hs
      simpa [inOrder, hh, hw] using h
    · cases hs
  | finish =>
    simp only [step] at hs
    split at hs
    next x hh =>
      obtain rfl := Option.some.inj hs
      simpa [inOrder, hh] using h
    · cases hs
  | withdraw p =>
    obtain rfl := Option.some.inj hs
    exact (inOrder_waiting List.filter_sublist).trans h
  | drop =>
    obtain rfl := Option.some.inj hs
    exact (inOrder_waiting (List.nil_sublist _)).trans h

/-- **First in, first out.** Items are finished, and wait, in the order they were accepted in. -/
theorem reachable_inOrder {l : Ledger α} (h : machine.Reachable l) : l.inOrder.Sublist l.accepted := by
  refine Machine.Reachable.invariant (I := fun l : Ledger α => l.inOrder.Sublist l.accepted) ?_
    (fun _ _ _ hI hs => step_inOrder hI hs) h
  rintro _ rfl
  exact List.Sublist.refl []

end Ledger
