import Mathlib.Data.List.Basic
import Mathlib.Logic.Relation

/-!
# Labelled machines

A machine is a partial step function over labels with its initial states.
Besides plain reachability there is reachability by steps that all meet a
condition `ok` on the state before the step and its label; an invariant
proved under `ok` holds in every state such a run reaches. `Refines` relates
a machine to a more abstract one, several of whose steps (or none) may answer
one concrete step.
-/

namespace Transition

universe u v w x

structure Machine (σ : Type u) (α : Type v) where
  init : σ → Prop
  step : σ → α → Option σ

namespace Machine

variable {σ : Type u} {α : Type v} {τ : Type w} {β : Type x}

/-- Executing labels in order; `none` if one of them is not enabled. -/
def exec (M : Machine σ α) : σ → List α → Option σ
  | s, [] => some s
  | s, a :: as => (M.step s a).bind fun t => exec M t as

/-- States reached from an initial state by steps that all meet `ok`. -/
inductive ReachableIf (M : Machine σ α) (ok : σ → α → Prop) : σ → Prop
  | init {s} : M.init s → ReachableIf M ok s
  | step {s a t} : ReachableIf M ok s → ok s a → M.step s a = some t → ReachableIf M ok t

def Reachable (M : Machine σ α) : σ → Prop := M.ReachableIf fun _ _ => True

section
variable {M : Machine σ α} {ok : σ → α → Prop}

theorem ReachableIf.mono {ok' : σ → α → Prop} (h : ∀ s a, ok s a → ok' s a) {s : σ}
    (hs : M.ReachableIf ok s) : M.ReachableIf ok' s := by
  induction hs with
  | init hi => exact .init hi
  | step _ ho ht ih => exact .step ih (h _ _ ho) ht

theorem ReachableIf.reachable {s : σ} (hs : M.ReachableIf ok s) : M.Reachable s :=
  hs.mono fun _ _ _ => trivial

theorem Reachable.step {s t : σ} {a : α} (hs : M.Reachable s) (h : M.step s a = some t) : M.Reachable t :=
  ReachableIf.step hs trivial h

/-- **The invariant rule.** What holds initially and is kept by each step that
meets `ok` holds in every state reached by such steps. -/
theorem ReachableIf.invariant {I : σ → Prop} (hi : ∀ s, M.init s → I s)
    (hs : ∀ s a t, I s → ok s a → M.step s a = some t → I t) {s : σ} (h : M.ReachableIf ok s) : I s := by
  induction h with
  | init h0 => exact hi _ h0
  | step _ ho ht ih => exact hs _ _ _ ih ho ht

theorem Reachable.invariant {I : σ → Prop} (hi : ∀ s, M.init s → I s)
    (hs : ∀ s a t, I s → M.step s a = some t → I t) {s : σ} (h : M.Reachable s) : I s :=
  ReachableIf.invariant hi (fun s a t hI _ ht => hs s a t hI ht) h

theorem Reachable.exec {s t : σ} (hs : M.Reachable s) {as : List α} (h : M.exec s as = some t) :
    M.Reachable t := by
  induction as generalizing s with
  | nil => cases h; exact hs
  | cons a as ih =>
    rw [Machine.exec, Option.bind_eq_some_iff] at h
    obtain ⟨u, hu, hut⟩ := h
    exact ih (hs.step hu) hut

/-- What each of the labels keeps, executing them keeps. -/
theorem exec_invariant {I : σ → Prop} {as : List α} (hI : ∀ a ∈ as, ∀ s t, I s → M.step s a = some t → I t) {s t : σ}
    (hs : I s) (h : M.exec s as = some t) : I t := by
  induction as generalizing s with
  | nil => cases h; exact hs
  | cons a as ih =>
    rw [Machine.exec, Option.bind_eq_some_iff] at h
    obtain ⟨u, hu, hut⟩ := h
    exact ih (fun b hb => hI b (List.mem_cons_of_mem a hb)) (hI a List.mem_cons_self _ _ hs hu) hut

/-- A rank that each of the labels lowers bounds how many of them can be executed. -/
theorem exec_length_le {I : σ → Prop} {rank : σ → Nat} {as : List α}
    (hI : ∀ a ∈ as, ∀ s t, I s → M.step s a = some t → I t ∧ rank t < rank s) {s t : σ} (hs : I s)
    (h : M.exec s as = some t) : as.length + rank t ≤ rank s := by
  induction as generalizing s with
  | nil =>
    cases h
    simp
  | cons a as ih =>
    rw [Machine.exec, Option.bind_eq_some_iff] at h
    obtain ⟨u, hu, hut⟩ := h
    obtain ⟨hIu, hless⟩ := hI a List.mem_cons_self _ _ hs hu
    have hrest := ih (fun b hb => hI b (List.mem_cons_of_mem a hb)) hIu hut
    rw [List.length_cons]
    omega

theorem reachable_of_exec {s t : σ} (hs : M.init s) (as : List α) (h : M.exec s as = some t) :
    M.Reachable t :=
  Reachable.exec (.init hs) h

end

/-! ## Refinement -/

def Steps (M : Machine σ α) : σ → σ → Prop := Relation.ReflTransGen fun s t => ∃ a, M.step s a = some t

theorem Reachable.steps {M : Machine σ α} {s t : σ} (hs : M.Reachable s) (h : M.Steps s t) :
    M.Reachable t := by
  induction h with
  | refl => exact hs
  | tail _ hl ih => obtain ⟨a, ha⟩ := hl; exact ih.step ha

def StepsIf (M : Machine σ α) (ok : σ → α → Prop) : σ → σ → Prop :=
  Relation.ReflTransGen fun s t => ∃ a, ok s a ∧ M.step s a = some t

theorem StepsIf.invariant {M : Machine σ α} {ok : σ → α → Prop} {I : σ → Prop}
    (hs : ∀ s a t, I s → ok s a → M.step s a = some t → I t) {s t : σ} (h : M.StepsIf ok s t) (hI : I s) : I t := by
  induction h with
  | refl => exact hI
  | tail _ hl ih =>
    obtain ⟨a, ho, ha⟩ := hl
    exact hs _ _ _ ih ho ha

/-- A machine with one label and one initial state has one run: it stops in one state only. -/
theorem Reachable.stops_unique {M : Machine σ Unit} {s t u : σ} (hinit : ∀ r, M.init r → r = s) (ht : M.Reachable t)
    (hu : M.Reachable u) (hts : M.step t () = none) (hus : M.step u () = none) : t = u := by
  have hsteps : ∀ {r}, M.Reachable r → M.Steps s r := by
    intro r hr
    induction hr with
    | init hi => rw [hinit _ hi]; exact .refl
    | step _ _ hs ih => exact ih.tail ⟨_, hs⟩
  have hunique : Relator.RightUnique fun r r' => ∃ a, M.step r a = some r' := by
    rintro r r' r'' ⟨_, h'⟩ ⟨_, h''⟩
    exact Option.some.inj (h'.symm.trans h'')
  have hstuck : ∀ {r r'}, M.step r () = none → M.Steps r r' → r' = r := by
    intro r r' hr hs
    rcases Relation.ReflTransGen.cases_head hs with rfl | ⟨d, ⟨_, hd⟩, -⟩
    · rfl
    · rw [hr] at hd
      cases hd
  rcases Relation.ReflTransGen.total_of_right_unique hunique (hsteps ht) (hsteps hu) with h | h
  · exact (hstuck hts h).symm
  · exact hstuck hus h

/-- `C` under `ok` is simulated by `A` through `R`. -/
structure Refines (C : Machine σ α) (ok : σ → α → Prop) (A : Machine τ β) (R : σ → τ → Prop) : Prop where
  init : ∀ s, C.init s → ∃ t, A.init t ∧ R s t
  step : ∀ s a s' t, R s t → ok s a → C.step s a = some s' → ∃ t', A.Steps t t' ∧ R s' t'

theorem Refines.reachable {C : Machine σ α} {ok : σ → α → Prop} {A : Machine τ β} {R : σ → τ → Prop}
    (h : Refines C ok A R) {s : σ} (hs : C.ReachableIf ok s) : ∃ t, A.Reachable t ∧ R s t := by
  induction hs with
  | init hi =>
    obtain ⟨t, ht, hr⟩ := h.init _ hi
    exact ⟨t, .init ht, hr⟩
  | step _ ho hstep ih =>
    obtain ⟨t, ht, hr⟩ := ih
    obtain ⟨t', hst, hr'⟩ := h.step _ _ _ _ hr ho hstep
    exact ⟨t', ht.steps hst, hr'⟩

end Machine

/-! ## Logs -/

/-- An entry of a longer log is new, or stands where it stood before. -/
theorem log_split {ε : Type u} {log log' pre post : List ε} {r : ε} (h : log ++ log' = pre ++ r :: post) :
    (∃ as, pre = log ++ as ∧ r ∈ log') ∨ ∃ bs, log = pre ++ r :: bs := by
  rcases List.append_eq_append_iff.mp h with ⟨as, hpre, hlog'⟩ | ⟨bs, hlog, hpost⟩
  · refine .inl ⟨as, hpre, ?_⟩
    rw [hlog']
    exact List.mem_append_right _ List.mem_cons_self
  · cases bs with
    | nil =>
      rw [List.append_nil] at hlog
      refine .inl ⟨[], by rw [List.append_nil, hlog], ?_⟩
      rw [List.nil_append] at hpost
      rw [← hpost]
      exact List.mem_cons_self
    | cons b bs =>
      obtain ⟨rfl, -⟩ := List.cons.inj hpost
      exact .inr ⟨bs, hlog⟩

/-! ## A first-in first-out channel -/

structure Channel (ε : Type u) where
  sent : List ε
  delivered : List ε

inductive Channel.Label (ε : Type u) where
  | send (e : ε)
  | deliver

def Channel.machine (ε : Type u) : Machine (Channel ε) (Channel.Label ε) where
  init s := s = ⟨[], []⟩
  step s
    | .send e => some { s with sent := s.sent ++ [e] }
    | .deliver => (s.sent[s.delivered.length]?).map fun e => { s with delivered := s.delivered ++ [e] }

theorem Channel.delivered_prefix {ε : Type u} {s : Channel ε} (h : (Channel.machine ε).Reachable s) :
    s.delivered <+: s.sent := by
  refine Machine.Reachable.invariant (I := fun s : Channel ε => s.delivered <+: s.sent) ?_ ?_ h
  · intro s hs
    subst hs
    exact List.prefix_refl _
  · intro s a t hp hstep
    cases a with
    | send e =>
      simp only [Channel.machine, Option.some.injEq] at hstep
      subst hstep
      exact hp.trans (List.prefix_append _ _)
    | deliver =>
      simp only [Channel.machine, Option.map_eq_some_iff] at hstep
      obtain ⟨e, he, rfl⟩ := hstep
      -- the next item of `sent` after the delivered prefix is `e`
      obtain ⟨rest, hr⟩ := hp
      cases rest with
      | nil => simp [← hr] at he
      | cons e' rest =>
        have : e' = e := by simpa [← hr] using he
        subst this
        exact ⟨rest, by simp [← hr]⟩

end Transition
