import Mathlib.Logic.Basic

/-!
# State behind one mutex

Actions run on a state and the flag of the mutex that protects it. An action
ends by returning or by an exception, with the state it leaves, or it blocks:
it locks a mutex that is held and nobody else will release. `Releases` says
that an action started with the mutex free ends with it free; the rules below
derive it from the way an action is put together.
-/

structure Monitor (σ : Type) where
  held : Bool
  state : σ

namespace Monitor

inductive Outcome (ε σ α : Type)
  | done (r : Except ε α) (m : Monitor σ)
  | blocked

def Act (ε σ α : Type) : Type := Monitor σ → Outcome ε σ α

variable {ε σ α β : Type}

namespace Act

def pure (a : α) : Act ε σ α := fun m => .done (.ok a) m

def bind (x : Act ε σ α) (f : α → Act ε σ β) : Act ε σ β := fun m =>
  match x m with
  | .done (.ok a) m' => f a m'
  | .done (.error e) m' => .done (.error e) m'
  | .blocked => .blocked

instance : Monad (Act ε σ) where
  pure := pure
  bind := bind

def onState (f : σ → Except ε α × σ) : Act ε σ α := fun m => .done (f m.state).1 { m with state := (f m.state).2 }

def get (f : σ → α) : Act ε σ α := onState fun s => (.ok (f s), s)

def run (f : σ → α × σ) : Act ε σ α := onState fun s => (.ok (f s).1, (f s).2)

def lock : Act ε σ PUnit := fun m => if m.held then .blocked else .done (.ok ⟨⟩) { m with held := true }

def unlock : Act ε σ PUnit := fun m => .done (.ok ⟨⟩) { m with held := false }

/-- A scope that holds the mutex and releases it on every way out. -/
def lockGuard (body : Act ε σ α) : Act ε σ α := fun m =>
  if m.held then .blocked
  else
    match body { m with held := true } with
    | .done r m' => .done r { m' with held := false }
    | .blocked => .blocked

end Act

def Outcome.EndsFree : Outcome ε σ α → Prop
  | .done _ m => m.held = false
  | .blocked => False

def Releases (x : Act ε σ α) : Prop := ∀ s, (x ⟨false, s⟩).EndsFree

def Keeps (x : Act ε σ α) : Prop := ∀ m, ∃ r s, x m = .done r ⟨m.held, s⟩

theorem Keeps.releases {x : Act ε σ α} (h : Keeps x) : Releases x := by
  intro s
  obtain ⟨r, s', hx⟩ := h ⟨false, s⟩
  rw [hx]
  exact rfl

theorem keeps_pure (a : α) : Keeps (pure a : Act ε σ α) := fun m => ⟨.ok a, m.state, rfl⟩

theorem keeps_onState (f : σ → Except ε α × σ) : Keeps (Act.onState f) := fun m =>
  ⟨(f m.state).1, (f m.state).2, rfl⟩

theorem keeps_get (f : σ → α) : Keeps (Act.get f : Act ε σ α) := keeps_onState _

theorem keeps_run (f : σ → α × σ) : Keeps (Act.run f : Act ε σ α) := keeps_onState _

theorem releases_lockGuard {body : Act ε σ α} (h : Keeps body) : Releases (Act.lockGuard body) := by
  intro s
  obtain ⟨r, s', hb⟩ := h ⟨true, s⟩
  simp only [Act.lockGuard, Bool.false_eq_true, if_false, hb]
  exact rfl

theorem releases_bind {x : Act ε σ α} {f : α → Act ε σ β} (hx : Releases x) (hf : ∀ a, Releases (f a)) :
    Releases (x >>= f) := by
  intro s
  have h := hx s
  simp only [Bind.bind, Act.bind]
  cases hr : x ⟨false, s⟩ with
  | blocked => rw [hr] at h; exact h
  | done r m =>
    rw [hr] at h
    obtain ⟨held, s'⟩ := m
    simp only [Outcome.EndsFree] at h
    subst h
    cases r with
    | error e => exact rfl
    | ok a => exact hf a s'

end Monitor
