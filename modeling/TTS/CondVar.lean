import TTS.Transition

/-!
# Waiting on a condition variable

One thread of a machine waits until a predicate is `ready`. It evaluates the
predicate under a mutex and then blocks, which gives the mutex back; a
notification wakes it only when it has blocked. A step of the others may
notify within its section, or after it. A wake-up may also come from nowhere.
-/

namespace CondVar

open Transition

/-- How the waiting thread stands to its wait: not in it, past a predicate that was false, or blocked. -/
inductive Phase
  | awake
  | deciding
  | asleep
  deriving DecidableEq, Repr

structure Rules (σ α : Type) where
  /-- The thread stands at the wait and the mutex is free. -/
  waits : σ → Bool
  ready : σ → Bool
  /-- A step of the waiting thread itself. -/
  own : α → Bool
  locks : σ → α → Bool
  /-- Notifies before it gives the mutex back. -/
  notifies : σ → α → Bool
  /-- Notifies in a step of its own, later. -/
  signals : σ → α → Bool

/-- `missed`: since the predicate was last evaluated, a notification came before
the block. -/
structure Waiter (σ : Type) where
  state : σ
  phase : Phase
  pending : Nat
  missed : Bool

inductive Label (α : Type)
  | run (a : α)
  | evaluate
  | block
  | notify
  | wake
  deriving DecidableEq, Repr

/-- The step of the machine that it is, if any. -/
def Label.inner {α : Type} : Label α → Option α
  | .run a => some a
  | _ => none

namespace Waiter

variable {σ α : Type} {M : Machine σ α} {r : Rules σ α}

def machine (M : Machine σ α) (r : Rules σ α) : Machine (Waiter σ) (Label α) where
  init w := M.init w.state ∧ w.phase = .awake ∧ w.pending = 0 ∧ w.missed = false
  step w
    | .run a =>
      if (r.own a ∧ w.phase ≠ .awake) ∨ (r.locks w.state a ∧ w.phase = .deciding) then none
      else
        (M.step w.state a).map fun t =>
          { w with
            state := t
            phase := if r.notifies w.state a ∧ w.phase = .asleep then .awake else w.phase
            pending := if r.signals w.state a then w.pending + 1 else w.pending }
    | .evaluate =>
      if w.phase = .awake ∧ r.waits w.state ∧ r.ready w.state = false then some { w with phase := .deciding, missed := false } else none
    | .block => if w.phase = .deciding then some { w with phase := .asleep } else none
    | .notify =>
      match w.pending with
      | 0 => none
      | n + 1 =>
        some { w with
          phase := if w.phase = .asleep then .awake else w.phase
          pending := n
          missed := w.missed || w.phase = .deciding }
    | .wake => if w.phase = .asleep then some { w with phase := .awake } else none

/-- Blocking adds nothing to what the machine does. -/
theorem machine_refines : Machine.Refines (machine M r) (fun _ _ => True) M fun w s => w.state = s where
  init w h := ⟨w.state, h.1, rfl⟩
  step w a w' s hs _ hstep := by
    subst hs
    cases a with
    | run a =>
      simp only [machine, Option.ite_none_left_eq_some, Option.map_eq_some_iff] at hstep
      obtain ⟨-, t, ht, rfl⟩ := hstep
      exact ⟨t, .single ⟨a, ht⟩, rfl⟩
    | evaluate | block | wake =>
      simp only [machine, Option.ite_none_right_eq_some] at hstep
      obtain ⟨-, hw⟩ := hstep
      cases hw
      exact ⟨w.state, .refl, rfl⟩
    | notify =>
      simp only [machine] at hstep
      split at hstep
      · cases hstep
      · cases hstep
        exact ⟨w.state, .refl, rfl⟩

/-- What the machine has done in a run. -/
theorem exec_state {w w' : Waiter σ} {as : List (Label α)} (h : (machine M r).exec w as = some w') :
    M.exec w.state (as.filterMap Label.inner) = some w'.state := by
  induction as generalizing w with
  | nil =>
    cases h
    rfl
  | cons a as ih =>
    rw [Machine.exec, Option.bind_eq_some_iff] at h
    obtain ⟨v, hv, hvw⟩ := h
    have hrest := ih hvw
    cases a with
    | run a =>
      simp only [machine, Option.ite_none_left_eq_some, Option.map_eq_some_iff] at hv
      obtain ⟨-, t, ht, rfl⟩ := hv
      have hcons : (Label.run a :: as).filterMap Label.inner = a :: as.filterMap Label.inner := rfl
      rw [hcons, Machine.exec, ht]
      exact hrest
    | evaluate | block | wake =>
      simp only [machine, Option.ite_none_right_eq_some] at hv
      obtain ⟨-, hv⟩ := hv
      cases hv
      exact hrest
    | notify =>
      simp only [machine] at hv
      split at hv
      · cases hv
      · cases hv
        exact hrest

theorem reachable_state {w : Waiter σ} (h : (machine M r).Reachable w) : M.Reachable w.state := by
  obtain ⟨s, hs, rfl⟩ := machine_refines.reachable h
  exact hs

section
variable {part : σ → Bool} {late : Prop}

/-- Part of the predicate. What makes it true notifies under the mutex, or, if it may be `late`, in a later step. -/
structure Notified (M : Machine σ α) (r : Rules σ α) (part : σ → Bool) (late : Prop) : Prop where
  ready : ∀ s, part s = true → r.ready s = true
  step : ∀ s a t, r.own a = false → M.step s a = some t → part s = false → part t = true →
    (r.locks s a = true ∧ r.notifies s a = true) ∨ (late ∧ r.signals s a = true)

/-- Who is past the predicate while the part is true has a notification to come, or missed one. -/
def Told (part : σ → Bool) (late : Prop) (w : Waiter σ) : Prop :=
  w.phase ≠ .awake → part w.state = true → late ∧ (0 < w.pending ∨ w.missed = true)

theorem step_told (hr : Notified M r part late) {w w' : Waiter σ} {a : Label α} (h : Told part late w)
    (hs : (machine M r).step w a = some w') : Told part late w' := by
  cases a with
  | run a =>
    simp only [machine, Option.ite_none_left_eq_some, Option.map_eq_some_iff] at hs
    obtain ⟨hok, t, ht, rfl⟩ := hs
    push Not at hok
    intro hphase hpart
    have hnot : ¬(r.notifies w.state a = true ∧ w.phase = .asleep) := fun hn => hphase (if_pos hn)
    simp only [if_neg hnot] at hphase
    have hown : r.own a = false := Bool.eq_false_iff.mpr fun ho => hphase (hok.1 ho)
    cases hb : part w.state with
    | true =>
      obtain ⟨hlate, hp⟩ := h hphase hb
      refine ⟨hlate, hp.imp (fun hp => ?_) id⟩
      simp only
      split
      · exact Nat.succ_pos _
      · exact hp
    | false =>
      rcases hr.step _ _ _ hown ht hb hpart with ⟨hl, hn⟩ | ⟨hlate, hsig⟩
      · -- the step has the mutex, so the thread has blocked, and is woken
        cases hp : w.phase with
        | awake => exact absurd hp hphase
        | deciding => exact absurd hp (hok.2 hl)
        | asleep => exact absurd ⟨hn, hp⟩ hnot
      · exact ⟨hlate, .inl (by simp [hsig])⟩
  | evaluate =>
    simp only [machine, Option.ite_none_right_eq_some] at hs
    obtain ⟨⟨-, -, hb⟩, hw⟩ := hs
    cases hw
    exact fun _ hpart => absurd (hr.ready _ hpart) (by simp [hb])
  | block =>
    simp only [machine, Option.ite_none_right_eq_some] at hs
    obtain ⟨hphase, hw⟩ := hs
    cases hw
    exact fun _ hpart => h (by simp [hphase]) hpart
  | notify =>
    simp only [machine] at hs
    split at hs
    · cases hs
    · cases hs
      intro hphase hpart
      simp only at hphase
      split at hphase
      · exact absurd rfl hphase
      next hasleep =>
        have hdeciding : w.phase = .deciding := by
          cases hp : w.phase <;> simp_all
        exact ⟨(h hphase hpart).1, .inr (by simp [hdeciding])⟩
  | wake =>
    simp only [machine, Option.ite_none_right_eq_some] at hs
    obtain ⟨-, hw⟩ := hs
    cases hw
    exact fun hphase => absurd rfl hphase

/-- **No wake-up is lost**, but one that comes between the predicate and the
block: a thread that has blocked will be notified of what is true since, or
missed such a notification. -/
theorem reachable_told (hr : Notified M r part late) {w : Waiter σ} (h : (machine M r).Reachable w) : Told part late w := by
  refine h.invariant (I := Told part late) ?_ fun _ _ _ hI hs => step_told hr hI hs
  rintro w ⟨-, hphase, -⟩ hne
  exact absurd hphase hne

end

/-- A notification is missed only where it is delivered between the predicate and the block. -/
theorem missed_only_by_signal {w : Waiter σ}
    (h : (machine M r).ReachableIf (fun w a => a = .notify → w.phase ≠ .deciding) w) : w.missed = false := by
  refine h.invariant (I := fun w => w.missed = false) ?_ ?_
  · rintro w ⟨-, -, -, hmissed⟩
    exact hmissed
  intro w a w' hm hok hs
  cases a with
  | notify =>
    simp only [machine] at hs
    split at hs
    · cases hs
    · cases hs
      simp [hm, hok rfl]
  | run a =>
    simp only [machine, Option.ite_none_left_eq_some, Option.map_eq_some_iff] at hs
    obtain ⟨-, t, -, rfl⟩ := hs
    exact hm
  | evaluate =>
    simp only [machine, Option.ite_none_right_eq_some] at hs
    obtain ⟨-, hw⟩ := hs
    cases hw
    rfl
  | block | wake =>
    simp only [machine, Option.ite_none_right_eq_some] at hs
    obtain ⟨-, hw⟩ := hs
    cases hw
    exact hm

end Waiter

end CondVar
