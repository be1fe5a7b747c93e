import Std.Data.TreeMap
import Mathlib.Data.List.Basic

/-!
# Finding a key by its value

The first key, in the order of the keys, under which an ordered map has a
value. While no two keys carry the same value this is the inverse of the map,
and inserting fresh values and erasing keys keep it so. The values under the
keys that a predicate picks are the other way to look a map up.
-/

namespace ValueMap

universe u v

variable {α : Type u} {β : Type v} {cmp : α → α → Ordering}

def Distinct (t : Std.TreeMap α β cmp) : Prop :=
  ∀ (a a' : α) (b : β), t[a]? = some b → t[a']? = some b → a = a'

section
variable [Std.TransCmp cmp] {t : Std.TreeMap α β cmp}

theorem distinct_empty : Distinct (∅ : Std.TreeMap α β cmp) := by
  intro a a' b h
  rw [Std.TreeMap.getElem?_emptyc] at h
  cases h

theorem Distinct.erase (hd : Distinct t) (a : α) : Distinct (t.erase a) := by
  have hold : ∀ (k : α) (b : β), (t.erase a)[k]? = some b → t[k]? = some b := by
    intro k b hk
    rw [Std.TreeMap.getElem?_erase] at hk
    split at hk
    · cases hk
    · exact hk
  exact fun k k' b hk hk' => hd k k' b (hold k b hk) (hold k' b hk')

theorem Distinct.insert [Std.LawfulEqCmp cmp] (hd : Distinct t) {a : α} {b : β} (hb : ∀ a' : α, t[a']? ≠ some b) :
    Distinct (t.insert a b) := by
  intro k k' c hk hk'
  rw [Std.TreeMap.getElem?_insert] at hk hk'
  by_cases h : cmp a k = .eq <;> by_cases h' : cmp a k' = .eq
  · exact (Std.LawfulEqCmp.eq_of_compare h).symm.trans (Std.LawfulEqCmp.eq_of_compare h')
  · rw [if_pos h] at hk
    rw [if_neg h'] at hk'
    exact absurd (Option.some.inj hk ▸ hk') (hb k')
  · rw [if_neg h] at hk
    rw [if_pos h'] at hk'
    exact absurd (Option.some.inj hk' ▸ hk) (hb k)
  · rw [if_neg h] at hk
    rw [if_neg h'] at hk'
    exact hd k k' c hk hk'

end

section
variable [DecidableEq β]

def firstWith (t : Std.TreeMap α β cmp) (b : β) : Option (α × β) := t.toList.find? fun it => it.2 = b

variable [Std.TransCmp cmp] [Std.LawfulEqCmp cmp] {t : Std.TreeMap α β cmp}

theorem firstWith_some {b : β} {it : α × β} (h : firstWith t b = some it) : it.2 = b ∧ t[it.1]? = some b := by
  have hb : it.2 = b := by simpa using List.find?_some h
  have hm := Std.TreeMap.mem_toList_iff_getElem?_eq_some.mp (List.mem_of_find?_eq_some h)
  exact ⟨hb, hb ▸ hm⟩

theorem firstWith_none_iff {b : β} : firstWith t b = none ↔ ∀ a : α, t[a]? ≠ some b := by
  unfold firstWith
  rw [List.find?_eq_none]
  constructor
  · intro h a ha
    exact h (a, b) (Std.TreeMap.mem_toList_iff_getElem?_eq_some.mpr ha) (by simp)
  · rintro h ⟨a, b'⟩ hm he
    obtain rfl : b' = b := by simpa using he
    exact h a (Std.TreeMap.mem_toList_iff_getElem?_eq_some.mp hm)

theorem Distinct.firstWith (hd : Distinct t) {a : α} {b : β} (h : t[a]? = some b) :
    firstWith t b = some (a, b) := by
  cases hf : ValueMap.firstWith t b with
  | none => exact absurd h (firstWith_none_iff.mp hf a)
  | some it =>
    obtain ⟨hb, hm⟩ := firstWith_some hf
    rw [← hd it.1 a b hm h, ← hb]

end

/-! ## The values under some keys -/

section
variable {t : Std.TreeMap α β cmp}

/-- `vs` are the values of the keys with `P`, each key once. -/
def ValuesOf (t : Std.TreeMap α β cmp) (P : α → Prop) (vs : List β) : Prop :=
  ∃ keys : List α, keys.Nodup ∧ (∀ k, k ∈ keys ↔ k ∈ t ∧ P k) ∧ keys.map (t[·]?) = vs.map some

variable [Std.TransCmp cmp] [Std.LawfulEqCmp cmp]

theorem valuesOf_filter (t : Std.TreeMap α β cmp) (P : α → Bool) :
    ValuesOf t (fun k => P k) ((t.toList.filter fun it => P it.1).map Prod.snd) := by
  refine ⟨t.keys.filter P, ?_, fun k => by rw [List.mem_filter, Std.TreeMap.mem_keys], ?_⟩
  · have hdistinct : t.keys.Nodup := by
      refine Std.TreeMap.distinct_keys.imp fun h he => h ?_
      rw [he]
      exact Std.ReflCmp.compare_self
    exact hdistinct.filter P
  · rw [← Std.TreeMap.map_fst_toList_eq_keys, List.filter_map, List.map_map, List.map_map]
    apply List.map_congr_left
    intro it hit
    exact Std.TreeMap.mem_toList_iff_getElem?_eq_some.mp (List.mem_filter.mp hit).1

variable [DecidableEq α]

theorem filter_key_eq_singleton {l : List (α × β)} (hd : l.Pairwise fun a b => a.1 ≠ b.1) {k : α} {v : β} (hm : (k, v) ∈ l) :
    (l.filter fun it => it.1 = k) = [(k, v)] := by
  induction l with
  | nil => cases hm
  | cons it l ih =>
    obtain ⟨hit, hd⟩ := List.pairwise_cons.mp hd
    rcases List.mem_cons.mp hm with rfl | hm
    · rw [List.filter_cons_of_pos (by simp), List.filter_eq_nil_iff.mpr fun b hb => by simpa using (hit b hb).symm]
    · rw [List.filter_cons_of_neg (by simpa using hit (k, v) hm), ih hd hm]

theorem values_key (t : Std.TreeMap α β cmp) (k : α) :
    (t.toList.filter fun it => it.1 = k).map Prod.snd = (t[k]?).toList := by
  cases hk : t[k]? with
  | none =>
    have hnone : (t.toList.filter fun it => it.1 = k) = [] := by
      refine List.filter_eq_nil_iff.mpr fun it hit => ?_
      have hval := Std.TreeMap.mem_toList_iff_getElem?_eq_some.mp hit
      simp only [decide_eq_true_eq]
      rintro rfl
      rw [hk] at hval
      cases hval
    rw [hnone]
    rfl
  | some v =>
    have hdistinct : t.toList.Pairwise fun a b => a.1 ≠ b.1 := by
      refine Std.TreeMap.distinct_keys_toList.imp fun h he => h ?_
      rw [he]
      exact Std.ReflCmp.compare_self
    rw [filter_key_eq_singleton hdistinct (Std.TreeMap.mem_toList_iff_getElem?_eq_some.mpr hk)]
    rfl

/-- A scan for `P` finds the value of `k` and no more exactly when `k` is the only key with `P`. -/
theorem values_eq_key_iff {P : α → Bool} {k : α} (hk : P k = true) :
    (t.toList.filter fun it => P it.1).map Prod.snd = (t[k]?).toList ↔ ∀ k' ∈ t, P k' = true → k' = k := by
  constructor
  · intro h k' hk' hp
    have hsub : (t.toList.filter fun it => it.1 = k).Sublist (t.toList.filter fun it => P it.1) := by
      refine List.monotone_filter_right _ fun it hit => ?_
      rw [decide_eq_true_eq.mp hit]
      exact hk
    have hlen := congrArg List.length (h.trans (values_key t k).symm)
    rw [List.length_map, List.length_map] at hlen
    have hmem : (k', t[k']) ∈ t.toList.filter fun it => P it.1 :=
      List.mem_filter.mpr ⟨Std.TreeMap.mem_toList_iff_getElem?_eq_some.mpr (Std.TreeMap.getElem?_eq_some_getElem hk'), hp⟩
    rw [← hsub.eq_of_length hlen.symm] at hmem
    simpa using (List.mem_filter.mp hmem).2
  · intro h
    rw [← values_key t k]
    congr 1
    apply List.filter_congr
    intro it hit
    have hin : it.1 ∈ t := by
      rw [← Std.TreeMap.isSome_getElem?_iff_mem, Std.TreeMap.mem_toList_iff_getElem?_eq_some.mp hit]
      rfl
    by_cases hp : P it.1 = true
    · simp [h it.1 hin hp, hk]
    · have hne : it.1 ≠ k := fun he => hp (he ▸ hk)
      simp [hp, hne]

end

end ValueMap
