import TTS.Transition

/-!
# Histories

`recorded` lets a machine write down what its steps do. `Each` is a property of
every entry of a history and what was written before it; `Since` speaks of what
was written after an entry.
-/

namespace Transition

universe u v w

structure Recorded (σ : Type u) (ε : Type w) where
  state : σ
  history : List ε

namespace Machine

variable {σ : Type u} {α : Type v} {ε : Type w} {M : Machine σ α} {events : σ → α → List ε}

def recorded (M : Machine σ α) (events : σ → α → List ε) : Machine (Recorded σ ε) α where
  init r := M.init r.state ∧ r.history = []
  step r a := (M.step r.state a).map fun t => ⟨t, r.history ++ events r.state a⟩

theorem recorded_step {r r' : Recorded σ ε} {a : α} (h : (M.recorded events).step r a = some r') :
    M.step r.state a = some r'.state ∧ r'.history = r.history ++ events r.state a := by
  obtain ⟨t, ht, rfl⟩ := Option.map_eq_some_iff.mp h
  exact ⟨ht, rfl⟩

theorem ReachableIf.forget {ok : σ → α → Prop} {r : Recorded σ ε}
    (h : (M.recorded events).ReachableIf (fun r a => ok r.state a) r) : M.ReachableIf ok r.state := by
  induction h with
  | init hi => exact .init hi.1
  | step _ ho hs ih => exact .step ih ho (recorded_step hs).1

theorem Reachable.recorded {s : σ} (hs : M.Reachable s) (events : σ → α → List ε) :
    ∃ h, (M.recorded events).Reachable ⟨s, h⟩ := by
  induction hs with
  | init hi => exact ⟨[], .init ⟨hi, rfl⟩⟩
  | @step s a t _ _ ht ih =>
    obtain ⟨h, hh⟩ := ih
    exact ⟨h ++ events s a, hh.step (Option.map_eq_some_iff.mpr ⟨t, ht, rfl⟩)⟩

/-- Executing labels in order, as long as each step meets `ok`. -/
def execIf (M : Machine σ α) (ok : σ → α → Prop) [∀ s a, Decidable (ok s a)] : σ → List α → Option σ
  | s, [] => some s
  | s, a :: as => if ok s a then (M.step s a).bind fun t => execIf M ok t as else none

theorem ReachableIf.execIf {ok : σ → α → Prop} [∀ s a, Decidable (ok s a)] {s t : σ} (hs : M.ReachableIf ok s)
    (as : List α) (h : M.execIf ok s as = some t) : M.ReachableIf ok t := by
  induction as generalizing s with
  | nil =>
    cases h
    exact hs
  | cons a as ih =>
    rw [Machine.execIf, Option.ite_none_right_eq_some, Option.bind_eq_some_iff] at h
    obtain ⟨ho, u, hu, hut⟩ := h
    exact ih (hs.step ho hu) hut

end Machine

section
variable {ε : Type w} {P : List ε → ε → Prop} {h es : List ε} {e : ε}

def Each (P : List ε → ε → Prop) (h : List ε) : Prop := ∀ pre e post, h = pre ++ e :: post → P pre e

theorem each_nil : Each P [] := by
  intro pre e post he
  cases pre <;> cases he

theorem Each.append (hh : Each P h) (hes : ∀ pre, ∀ e ∈ es, P pre e) : Each P (h ++ es) := by
  intro pre e post heq
  rcases log_split heq with ⟨as, -, hmem⟩ | ⟨bs, hbs⟩
  · exact hes pre e hmem
  · exact hh pre e bs hbs

theorem Each.snoc (hh : Each P h) (he : P h e) : Each P (h ++ [e]) := by
  intro pre e' post heq
  rcases List.eq_nil_or_concat post with rfl | ⟨post, r, rfl⟩
  · obtain ⟨rfl, hr⟩ := List.append_inj' heq rfl
    rw [← List.singleton_inj.mp hr]
    exact he
  · rw [List.concat_eq_append, ← List.cons_append, ← List.append_assoc] at heq
    obtain ⟨rfl, -⟩ := List.append_inj' heq rfl
    exact hh pre e' post rfl

/-- What was written since some entry `e` meets `Q`. -/
def Since (e : ε) (Q : List ε → Prop) (h : List ε) : Prop := ∃ before since, h = before ++ e :: since ∧ Q since

theorem since_snoc {Q : List ε → Prop} (hq : Q []) : Since e Q (h ++ [e]) := ⟨h, [], rfl, hq⟩

theorem Since.append {Q Q' : List ε → Prop} (hs : Since e Q h) (hq : ∀ since, Q since → Q' (since ++ es)) :
    Since e Q' (h ++ es) := by
  obtain ⟨before, since, rfl, hsince⟩ := hs
  exact ⟨before, since ++ es, by rw [List.append_assoc, List.cons_append], hq since hsince⟩

theorem Since.mono {Q Q' : List ε → Prop} (hs : Since e Q h) (hq : ∀ since, Q since → Q' since) : Since e Q' h := by
  obtain ⟨before, since, rfl, hsince⟩ := hs
  exact ⟨before, since, rfl, hq since hsince⟩

/-- `e` was written once, and what was written since meets `Q`. -/
def Once (e : ε) (Q : List ε → Prop) (h : List ε) : Prop :=
  ∃ before since, h = before ++ e :: since ∧ e ∉ before ∧ e ∉ since ∧ Q since

theorem once_snoc {Q : List ε → Prop} (he : e ∉ h) (hq : Q []) : Once e Q (h ++ [e]) :=
  ⟨h, [], rfl, he, List.not_mem_nil, hq⟩

theorem Once.append {Q Q' : List ε → Prop} (ho : Once e Q h) (he : e ∉ es) (hq : ∀ since, Q since → Q' (since ++ es)) :
    Once e Q' (h ++ es) := by
  obtain ⟨before, since, rfl, hb, hs, hsince⟩ := ho
  refine ⟨before, since ++ es, by rw [List.append_assoc, List.cons_append], hb, ?_, hq since hsince⟩
  exact fun hm => (List.mem_append.mp hm).elim hs he

theorem Once.since_iff {Q Q' : List ε → Prop} {p : Prop} (ho : Once e Q h) (hq : ∀ since, Q since → (Q' since ↔ p)) :
    Since e Q' h ↔ p := by
  obtain ⟨before, since, rfl, hb, hs, hsince⟩ := ho
  constructor
  · rintro ⟨before', since', heq, hq'⟩
    obtain ⟨-, -, rfl⟩ := (List.append_cons_inj_of_notMem hb hs).mp heq
    exact (hq since hsince).mp hq'
  · exact fun hp => ⟨before, since, rfl, (hq since hsince).mpr hp⟩

end

end Transition
