import Mathlib.Data.List.Nodup
import Mathlib.Data.List.Perm.Subperm

/-!
# Additions and deletions in batches

Changes of a list, one after the other, against first all the additions and
then all the deletions. `addTo` adds a value that is not there yet. The two
agree unless a change restores a value that an earlier one deleted.
-/

namespace Changes

variable {α : Type*}

inductive Change (α : Type*)
  | add (a : α)
  | del (a : α)
  deriving DecidableEq

def Change.added : Change α → Option α
  | .add a => some a
  | .del _ => none

def Change.deleted : Change α → Option α
  | .add _ => none
  | .del a => some a

def adds (cs : List (Change α)) : List α := cs.filterMap Change.added

def dels (cs : List (Change α)) : List α := cs.filterMap Change.deleted

@[simp] theorem adds_add (a : α) (cs : List (Change α)) : adds (.add a :: cs) = a :: adds cs := rfl

@[simp] theorem adds_del (a : α) (cs : List (Change α)) : adds (.del a :: cs) = adds cs := rfl

@[simp] theorem dels_add (a : α) (cs : List (Change α)) : dels (.add a :: cs) = dels cs := rfl

@[simp] theorem dels_del (a : α) (cs : List (Change α)) : dels (.del a :: cs) = a :: dels cs := rfl

/-- Some addition of `a` comes after a deletion, and no deletion after it. -/
def Restores (cs : List (Change α)) (a : α) : Prop :=
  ∃ before after, cs = before ++ .add a :: after ∧ .del a ∈ before ∧ .del a ∉ after

theorem mem_dels {cs : List (Change α)} {a : α} : a ∈ dels cs ↔ .del a ∈ cs := by
  simp only [dels, List.mem_filterMap]
  constructor
  · rintro ⟨c, hc, ha⟩
    cases c with
    | add b => cases ha
    | del b =>
      cases ha
      exact hc
  · exact fun h => ⟨_, h, rfl⟩

theorem mem_adds {cs : List (Change α)} {a : α} : a ∈ adds cs ↔ .add a ∈ cs := by
  simp only [adds, List.mem_filterMap]
  constructor
  · rintro ⟨c, hc, ha⟩
    cases c with
    | add b =>
      cases ha
      exact hc
    | del b => cases ha
  · exact fun h => ⟨_, h, rfl⟩

theorem Restores.cons {cs : List (Change α)} {a : α} (h : Restores cs a) (c : Change α) : Restores (c :: cs) a := by
  obtain ⟨before, after, rfl, hdel, hafter⟩ := h
  exact ⟨c :: before, after, rfl, List.mem_cons_of_mem c hdel, hafter⟩

variable [DecidableEq α]

def addTo (l : List α) (a : α) : List α := if a ∈ l then l else l ++ [a]

def Change.apply (l : List α) : Change α → List α
  | .add a => addTo l a
  | .del a => l.erase a

def run (l : List α) (cs : List (Change α)) : List α := cs.foldl Change.apply l

/-- The additions first, then the deletions. -/
def batch (l : List α) (cs : List (Change α)) : List α := ((adds cs).foldl addTo l).diff (dels cs)

/-! ## Additions -/

theorem mem_addTo {l : List α} {a b : α} : b ∈ addTo l a ↔ b ∈ l ∨ b = a := by
  unfold addTo
  split
  · rename_i ha
    constructor
    · exact .inl
    · rintro (hb | rfl)
      · exact hb
      · exact ha
  · simp

theorem addTo_of_mem {l : List α} {a : α} (h : a ∈ l) : addTo l a = l := if_pos h

theorem addTo_of_notMem {l : List α} {a : α} (h : a ∉ l) : addTo l a = l ++ [a] := if_neg h

theorem addTo_erase {l : List α} {a b : α} (h : a ≠ b) : (addTo l a).erase b = addTo (l.erase b) a := by
  by_cases ha : a ∈ l
  · rw [addTo_of_mem ha, addTo_of_mem ((List.mem_erase_of_ne h).mpr ha)]
  · rw [addTo_of_notMem ha, addTo_of_notMem fun hb => ha ((List.mem_erase_of_ne h).mp hb)]
    by_cases hb : b ∈ l
    · exact List.erase_append_left _ hb
    · rw [List.erase_append_right _ hb, List.erase_of_not_mem hb, List.erase_of_not_mem (by simpa using h.symm)]

theorem addTo_self_erase (l : List α) (a : α) : (addTo l a).erase a = l.erase a := by
  by_cases ha : a ∈ l
  · rw [addTo_of_mem ha]
  · rw [addTo_of_notMem ha, List.erase_append_right _ ha, List.erase_of_not_mem ha]
    simp

theorem nodup_addTo {l : List α} (h : l.Nodup) (a : α) : (addTo l a).Nodup := by
  by_cases ha : a ∈ l
  · rw [addTo_of_mem ha]
    exact h
  · rw [addTo_of_notMem ha]
    rw [← List.concat_eq_append]
    exact List.Nodup.concat ha h

theorem nodup_run {l : List α} (h : l.Nodup) (cs : List (Change α)) : (run l cs).Nodup := by
  induction cs generalizing l with
  | nil => exact h
  | cons c cs ih =>
    cases c with
    | add a => exact ih (nodup_addTo h a)
    | del a => exact ih (h.erase a)

theorem nodup_foldl_addTo {l : List α} (h : l.Nodup) (as : List α) : (as.foldl addTo l).Nodup := by
  induction as generalizing l with
  | nil => exact h
  | cons a as ih => exact ih (nodup_addTo h a)

theorem nodup_batch {l : List α} (h : l.Nodup) (cs : List (Change α)) : (batch l cs).Nodup :=
  (List.diff_sublist _ _).nodup (nodup_foldl_addTo h _)

theorem foldl_addTo_erase (as : List α) (l : List α) (b : α) :
    (as.foldl addTo l).erase b = (as.filter (· ≠ b)).foldl addTo (l.erase b) := by
  induction as generalizing l with
  | nil => rfl
  | cons a as ih =>
    rw [List.foldl_cons, ih]
    by_cases ha : a = b
    · subst ha
      rw [addTo_self_erase, List.filter_cons_of_neg (by simp)]
    · rw [addTo_erase ha, List.filter_cons_of_pos (by simpa using ha), List.foldl_cons]

/-- A deletion after the additions makes it the same whether one came before them. -/
theorem foldl_addTo_erase_erase (as : List α) (l : List α) (b : α) :
    (as.foldl addTo (l.erase b)).erase b = ((as.foldl addTo l).erase b).erase b := by
  rw [foldl_addTo_erase, foldl_addTo_erase, foldl_addTo_erase, List.filter_filter]
  simp

/-! ## One after the other or in batches -/

theorem batch_del {cs : List (Change α)} {a : α} (h : ¬ Restores (.del a :: cs) a) (l : List α) :
    batch l (.del a :: cs) = batch (l.erase a) cs := by
  rw [batch, batch, dels_del, adds_del, List.diff_cons]
  by_cases ha : a ∈ adds cs
  · -- the last change of `a` is a deletion
    have hdel : a ∈ dels cs := by
      by_contra hd
      apply h
      obtain ⟨before, after, rfl⟩ := List.append_of_mem (mem_adds.mp ha)
      refine ⟨.del a :: before, after, rfl, List.mem_cons_self, ?_⟩
      exact fun hm => hd (mem_dels.mpr (List.mem_append_right _ (List.mem_cons_of_mem _ hm)))
    have hperm := List.perm_cons_erase hdel
    rw [hperm.diff_left _, hperm.diff_left _, List.diff_cons, List.diff_cons, foldl_addTo_erase_erase]
  · have hself : (adds cs).filter (· ≠ a) = adds cs :=
      List.filter_eq_self.mpr fun b hb => decide_eq_true fun he => ha (he ▸ hb)
    rw [foldl_addTo_erase, hself]

theorem run_eq_batch {cs : List (Change α)} (h : ∀ a, ¬ Restores cs a) (l : List α) : run l cs = batch l cs := by
  induction cs generalizing l with
  | nil => rfl
  | cons c cs ih =>
    have ih := ih fun a hr => h a (hr.cons c)
    cases c with
    | add a => exact ih (addTo l a)
    | del a => exact (ih (l.erase a)).trans (batch_del (h a) l).symm

theorem mem_run {cs : List (Change α)} {l : List α} {a : α} (ha : a ∈ l) (h : .del a ∉ cs) : a ∈ run l cs := by
  induction cs generalizing l with
  | nil => exact ha
  | cons c cs ih =>
    rw [List.mem_cons, not_or] at h
    apply ih _ h.2
    cases c with
    | add b => exact mem_addTo.mpr (.inl ha)
    | del b =>
      have hne : a ≠ b := by
        rintro rfl
        exact h.1 rfl
      exact (List.mem_erase_of_ne hne).mpr ha

theorem Restores.mem_run {cs : List (Change α)} {a : α} (h : Restores cs a) (l : List α) : a ∈ run l cs := by
  obtain ⟨before, after, rfl, -, hafter⟩ := h
  rw [run, List.foldl_append, List.foldl_cons]
  exact Changes.mem_run (mem_addTo.mpr (.inr rfl)) hafter

theorem Restores.notMem_batch {cs : List (Change α)} {a : α} (h : Restores cs a) {l : List α} (hl : l.Nodup) :
    a ∉ batch l cs := by
  obtain ⟨before, after, rfl, hdel, -⟩ := h
  rw [batch, (nodup_foldl_addTo hl _).mem_sdiff_iff]
  exact fun hm => hm.2 (mem_dels.mpr (List.mem_append_left _ hdel))

theorem run_eq_batch_iff {l : List α} (hl : l.Nodup) (cs : List (Change α)) :
    run l cs = batch l cs ↔ ∀ a, ¬ Restores cs a := by
  constructor
  · intro he a hr
    exact hr.notMem_batch hl (he ▸ hr.mem_run l)
  · exact fun h => run_eq_batch h l

end Changes
