import TTS.Transition

/-!
# Locks taken in order

Threads run code of which only the locks are kept: which ones it takes, and in
which scopes. If scopes are nested with growing rank, then whatever the
threads run and however they interleave, one that is in a call can go on, and
all calls come to an end.
-/

namespace LockOrder

open Transition

inductive Act (L : Type)
  | lock (l : L)
  | unlock (l : L)
  deriving DecidableEq

/-- The locks of a piece of code. `take` is a lock that is not given back. -/
inductive Code (L : Type)
  | skip
  | take (l : L)
  | scope (l : L) (body : Code L)
  | seq (c d : Code L)
  | either (c d : Code L)
  | loop (body : Code L)
  | pick (f : Nat → Code L)

variable {L κ : Type}

/-- A section in which no other lock is taken. -/
def Code.guard (l : L) : Code L := .scope l .skip

def Code.maybe (c : Code L) : Code L := .either .skip c

/-- The body's trace, `n` times. -/
def repeated (trace : List Nat → List (Act L) × List Nat) : Nat → List Nat → List (Act L) × List Nat
  | 0, choices => ([], choices)
  | n + 1, choices =>
    let (as, choices) := trace choices
    let (bs, choices) := repeated trace n choices
    (as ++ bs, choices)

namespace Code

/-- What the code does to the locks, and the choices left over. A choice is a
branch, a number of rounds, or what is picked; where they run out it is 0. -/
def trace : Code L → List Nat → List (Act L) × List Nat
  | .skip, choices => ([], choices)
  | .take l, choices => ([.lock l], choices)
  | .scope l body, choices =>
    let (as, choices) := body.trace choices
    (.lock l :: as ++ [.unlock l], choices)
  | .seq c d, choices =>
    let (as, choices) := c.trace choices
    let (bs, choices) := d.trace choices
    (as ++ bs, choices)
  | .either c d, choices => if choices.headD 0 = 0 then c.trace choices.tail else d.trace choices.tail
  | .loop body, choices => repeated body.trace (choices.headD 0) choices.tail
  | .pick f, choices => (f (choices.headD 0)).trace choices.tail

/-- Every lock is given back and has a rank of at least `n`, in a scope a higher one than that of the scope. -/
@[simp] def Above (rank : L → Nat) : Nat → Code L → Prop
  | _, .skip => True
  | _, .take _ => False
  | n, .scope l body => n ≤ rank l ∧ body.Above rank (rank l + 1)
  | n, .seq c d => c.Above rank n ∧ d.Above rank n
  | n, .either c d => c.Above rank n ∧ d.Above rank n
  | n, .loop body => body.Above rank n
  | n, .pick f => ∀ k, (f k).Above rank n

@[simp] theorem above_guard (rank : L → Nat) (l : L) (n : Nat) : (guard l).Above rank n ↔ n ≤ rank l := by
  simp [guard]

@[simp] theorem above_maybe (rank : L → Nat) (c : Code L) (n : Nat) : (maybe c).Above rank n ↔ c.Above rank n := by
  simp [maybe]

theorem Above.mono {rank : L → Nat} {n m : Nat} (h : m ≤ n) {c : Code L} (hc : c.Above rank n) : c.Above rank m := by
  induction c with
  | skip => trivial
  | take => exact hc
  | scope l body => exact ⟨Nat.le_trans h hc.1, hc.2⟩
  | seq c d ihc ihd => exact ⟨ihc hc.1, ihd hc.2⟩
  | either c d ihc ihd => exact ⟨ihc hc.1, ihd hc.2⟩
  | loop body ih => exact ih hc
  | pick f ih => exact fun k => ih k (hc k)

end Code

/-! ## Traces -/

/-- With `held` locked, latest first, the actions take locks of growing rank
and give them back in turn, all of them in the end. -/
def Ordered (rank : L → Nat) : List L → List (Act L) → Prop
  | held, [] => held = []
  | held, .lock l :: as => (∀ h ∈ held, rank h < rank l) ∧ Ordered rank (l :: held) as
  | held, .unlock l :: as => ∃ rest, held = l :: rest ∧ Ordered rank rest as

section
variable {rank : L → Nat}

theorem ordered_repeated {trace : List Nat → List (Act L) × List Nat} {held : List L}
    (htrace : ∀ choices as, Ordered rank held as → Ordered rank held ((trace choices).1 ++ as)) (n : Nat)
    (choices : List Nat) {as : List (Act L)} (h : Ordered rank held as) :
    Ordered rank held ((repeated trace n choices).1 ++ as) := by
  induction n generalizing choices with
  | zero => exact h
  | succ n ih =>
    simp only [repeated, List.append_assoc]
    exact htrace _ _ (ih _)

/-- Code above what is held may be run before what goes on with the same locks. -/
theorem Code.Above.ordered {n : Nat} {c : Code L} (hc : c.Above rank n) {held : List L} (hheld : ∀ h ∈ held, rank h < n)
    (choices : List Nat) {as : List (Act L)} (h : Ordered rank held as) : Ordered rank held ((c.trace choices).1 ++ as) := by
  induction c generalizing n held choices as with
  | skip => exact h
  | take => exact hc.elim
  | scope l body ih =>
    have hbody : ∀ x ∈ l :: held, rank x < rank l + 1 := by
      intro x hx
      rcases List.mem_cons.mp hx with rfl | hx
      · exact Nat.lt_succ_self _
      · exact Nat.lt_succ_of_lt (Nat.lt_of_lt_of_le (hheld x hx) hc.1)
    have hout : Ordered rank (l :: held) (.unlock l :: as) := ⟨held, rfl, h⟩
    have hin := ih hc.2 hbody choices hout
    simp only [trace, List.cons_append, List.append_assoc, List.nil_append]
    exact ⟨fun x hx => Nat.lt_of_lt_of_le (hheld x hx) hc.1, hin⟩
  | seq c d ihc ihd =>
    simp only [trace, List.append_assoc]
    exact ihc hc.1 hheld _ (ihd hc.2 hheld _ h)
  | either c d ihc ihd =>
    simp only [trace]
    split
    · exact ihc hc.1 hheld _ h
    · exact ihd hc.2 hheld _ h
  | loop body ih => exact ordered_repeated (fun choices as => ih hc hheld choices) _ _ h
  | pick f ih => exact ih _ (hc _) hheld _ h

theorem Code.Above.ordered_trace {n : Nat} {c : Code L} (hc : c.Above rank n) (choices : List Nat) :
    Ordered rank [] (c.trace choices).1 := by
  have hend : Ordered rank [] [] := rfl
  have h := hc.ordered (fun x hx => by cases hx) choices hend
  rwa [List.append_nil] at h

end

/-! ## Threads -/

/-- What each thread is still to do in its call, and who holds a lock. -/
structure Threads (L : Type) where
  remaining : Nat → List (Act L)
  holder : L → Option Nat

inductive Label (κ : Type)
  /-- Thread `i` enters a call and makes these choices in it. -/
  | call (i : Nat) (k : κ) (choices : List Nat)
  | go (i : Nat)

namespace Threads

def setRemaining (s : Threads L) (i : Nat) (as : List (Act L)) : Nat → List (Act L) :=
  fun j => if j = i then as else s.remaining j

variable [DecidableEq L]

def setHolder (s : Threads L) (l : L) (o : Option Nat) : L → Option Nat := fun k => if k = l then o else s.holder k

def goOn (s : Threads L) (i : Nat) : Option (Threads L) :=
  match s.remaining i with
  | [] => none
  | .lock l :: as =>
    if s.holder l = none then some ⟨s.setRemaining i as, s.setHolder l (some i)⟩ else none
  | .unlock l :: as => some ⟨s.setRemaining i as, s.setHolder l none⟩

def machine (code : κ → Code L) : Machine (Threads L) (Label κ) where
  init s := s = ⟨fun _ => [], fun _ => none⟩
  step s
    | .call i k choices =>
      match s.remaining i with
      | [] => some { s with remaining := s.setRemaining i ((code k).trace choices).1 }
      | _ => none
    | .go i => s.goOn i

/-- Only code that takes its locks in order is called. -/
def Calls (rank : L → Nat) (code : κ → Code L) (_ : Threads L) : Label κ → Prop
  | .call _ k _ => (code k).Above rank 0
  | .go _ => True

/-- `held i` is what thread `i` holds, and it gives that back. -/
structure Holds (rank : L → Nat) (s : Threads L) (held : Nat → List L) : Prop where
  ordered : ∀ i, Ordered rank (held i) (s.remaining i)
  holder : ∀ l i, s.holder l = some i ↔ l ∈ held i
  nodup : ∀ i, (held i).Nodup

section
variable {rank : L → Nat} {s t : Threads L} {held : Nat → List L} {i : Nat}

/-- A thread that goes on takes a free lock or gives back the one it took last. -/
theorem goOn_cases (h : s.goOn i = some t) :
    (∃ l as, s.remaining i = .lock l :: as ∧ s.holder l = none ∧ t = ⟨s.setRemaining i as, s.setHolder l (some i)⟩) ∨
      ∃ l as, s.remaining i = .unlock l :: as ∧ t = ⟨s.setRemaining i as, s.setHolder l none⟩ := by
  unfold goOn at h
  split at h
  · cases h
  next l as hr =>
    split at h
    next hl => exact .inl ⟨l, as, hr, hl, (Option.some.inj h).symm⟩
    · cases h
  next l as hr => exact .inr ⟨l, as, hr, (Option.some.inj h).symm⟩

omit [DecidableEq L] in
/-- One thread's part changes. -/
theorem Holds.update (hh : Holds rank s held) {as : List (Act L)} {new : List L} {holder : L → Option Nat}
    (hord : Ordered rank new as) (hnodup : new.Nodup)
    (hholder : ∀ l j, holder l = some j ↔ l ∈ if j = i then new else held j) :
    Holds rank ⟨s.setRemaining i as, holder⟩ fun j => if j = i then new else held j := by
  refine ⟨fun j => ?_, hholder, fun j => ?_⟩
  · simp only [setRemaining]
    split
    · exact hord
    · exact hh.ordered j
  · split
    · exact hnodup
    · exact hh.nodup j

theorem Holds.goOn (hh : Holds rank s held) (h : s.goOn i = some t) : ∃ held', Holds rank t held' := by
  have hord := hh.ordered i
  have hnodup := hh.nodup i
  obtain ⟨l, as, hr, hl, rfl⟩ | ⟨l, as, hr, rfl⟩ := goOn_cases h
  · rw [hr] at hord
    have hfree : ∀ j, l ∉ held j := fun j hj => by
      rw [(hh.holder l j).mpr hj] at hl
      cases hl
    refine ⟨_, hh.update hord.2 (List.nodup_cons.mpr ⟨hfree i, hnodup⟩) fun k j => ?_⟩
    simp only [setHolder]
    by_cases hk : k = l <;> by_cases hj : j = i
    · simp [hk, hj]
    · simp [hk, hj, hfree j, Ne.symm hj]
    · simp [hk, hj, hh.holder]
    · simp [hk, hj, hh.holder]
  · rw [hr] at hord
    obtain ⟨rest, hheld, hrest⟩ := hord
    rw [hheld] at hnodup
    obtain ⟨hl, hnodup⟩ := List.nodup_cons.mp hnodup
    have hin : ∀ j, l ∈ held j ↔ j = i := fun j => by
      have hi : s.holder l = some i := (hh.holder l i).mpr (by rw [hheld]; exact List.mem_cons_self)
      rw [← hh.holder l j, hi, Option.some.injEq, eq_comm]
    refine ⟨_, hh.update hrest hnodup fun k j => ?_⟩
    simp only [setHolder]
    by_cases hk : k = l <;> by_cases hj : j = i
    · simp [hk, hj, hl]
    · simp [hk, hj, hin]
    · simp [hk, hj, hh.holder, hheld]
    · simp [hk, hj, hh.holder]

omit [DecidableEq L] in
theorem Holds.call (hh : Holds rank s held) {as : List (Act L)} (hi : s.remaining i = []) (has : Ordered rank [] as) :
    ∃ held', Holds rank ⟨s.setRemaining i as, s.holder⟩ held' := by
  have hnone : held i = [] := by
    have hord := hh.ordered i
    rwa [hi] at hord
  refine ⟨_, hh.update has List.nodup_nil fun l j => ?_⟩
  split
  next hj => rw [hh.holder, hj, hnone]
  · exact hh.holder l j

/-! ## Runs -/

variable {code : κ → Code L}

theorem holds (hs : (machine code).ReachableIf (Calls rank code) s) : ∃ held, Holds rank s held := by
  refine hs.invariant (I := fun s => ∃ held, Holds rank s held) ?_ ?_
  · rintro s rfl
    exact ⟨fun _ => [], fun _ => rfl, by simp, fun _ => List.nodup_nil⟩
  · rintro s (⟨i, k, choices⟩ | i) t ⟨held, hh⟩ hok hstep
    · simp only [machine] at hstep
      split at hstep
      next hi =>
        cases hstep
        exact hh.call hi (Code.Above.ordered_trace hok choices)
      · cases hstep
    · exact hh.goOn hstep

/-- A thread that is in a call goes on, or waits for a lock that another one holds. -/
theorem goes_or_waits (hi : s.remaining i ≠ []) :
    (s.goOn i).isSome ∨ ∃ l as j, s.remaining i = .lock l :: as ∧ s.holder l = some j := by
  unfold goOn
  split
  · contradiction
  next l as hr =>
    cases hl : s.holder l with
    | none => exact .inl rfl
    | some j => exact .inr ⟨l, as, j, hr, hl⟩
  · exact .inl rfl

omit [DecidableEq L] in
/-- The thread that holds a lock is in a call, and waits only for locks of higher rank. -/
theorem Holds.holder_waits (hh : Holds rank s held) {l : L} {j : Nat} (hl : s.holder l = some j) :
    s.remaining j ≠ [] ∧ ∀ m as, s.remaining j = .lock m :: as → rank l < rank m := by
  have hmem := (hh.holder l j).mp hl
  have hord := hh.ordered j
  refine ⟨fun hnil => ?_, fun m as hr => ?_⟩
  · rw [hnil] at hord
    rw [show held j = [] from hord] at hmem
    cases hmem
  · rw [hr] at hord
    exact hord.1 l hmem

/-- **Progress.** While some thread is in a call, some thread can go on. -/
theorem not_stuck {bound : Nat} (hbound : ∀ l, rank l ≤ bound) (hs : (machine code).ReachableIf (Calls rank code) s)
    (hi : s.remaining i ≠ []) : ∃ j, (s.goOn j).isSome := by
  obtain ⟨held, hh⟩ := holds hs
  -- who waits for a lock waits for a thread that waits for a higher one
  have hwaiting : ∀ n l j, bound - rank l ≤ n → s.holder l = some j → ∃ j, (s.goOn j).isSome := by
    intro n
    induction n with
    | zero =>
      intro l j hn hl
      obtain ⟨hj, hhigher⟩ := hh.holder_waits hl
      obtain hgo | ⟨m, as, -, hr, -⟩ := goes_or_waits hj
      · exact ⟨j, hgo⟩
      · have := hhigher m as hr
        have := hbound m
        omega
    | succ n ih =>
      intro l j hn hl
      obtain ⟨hj, hhigher⟩ := hh.holder_waits hl
      obtain hgo | ⟨m, as, k, hr, hm⟩ := goes_or_waits hj
      · exact ⟨j, hgo⟩
      · have := hhigher m as hr
        exact ih m k (by omega) hm
  obtain hgo | ⟨l, as, j, -, hl⟩ := goes_or_waits hi
  · exact ⟨i, hgo⟩
  · exact hwaiting _ l j Nat.le.refl hl

end

/-! ## Calls come to an end -/

/-- What the first `n` threads are still to do. -/
def work (s : Threads L) : Nat → Nat
  | 0 => 0
  | n + 1 => s.work n + (s.remaining n).length

section
variable {rank : L → Nat} {s t : Threads L} {i : Nat} {code : κ → Code L}

omit [DecidableEq L] in
theorem work_setRemaining {a : Act L} {as : List (Act L)} {holder : L → Option Nat} (hi : s.remaining i = a :: as) :
    ∀ n, (⟨s.setRemaining i as, holder⟩ : Threads L).work n + (if i < n then 1 else 0) = s.work n
  | 0 => rfl
  | n + 1 => by
    have ih : (⟨s.setRemaining i as, holder⟩ : Threads L).work n + _ = _ := work_setRemaining hi n
    simp only [work, setRemaining] at ih ⊢
    by_cases hn : n = i
    · subst hn
      simp [hi] at ih ⊢
      omega
    · have : (i < n + 1) ↔ i < n := by omega
      simp [hn, this] at ih ⊢
      omega

theorem work_goOn (h : s.goOn i = some t) (n : Nat) : t.work n + (if i < n then 1 else 0) = s.work n := by
  obtain ⟨l, as, hr, -, rfl⟩ | ⟨l, as, hr, rfl⟩ := goOn_cases h
  · exact work_setRemaining hr n
  · exact work_setRemaining hr n

theorem idle_goOn (h : s.goOn i = some t) {j : Nat} (hj : s.remaining j = []) : t.remaining j = [] := by
  have hne : j ≠ i := by
    rintro rfl
    simp [goOn, hj] at h
  obtain ⟨l, as, -, -, rfl⟩ | ⟨l, as, -, rfl⟩ := goOn_cases h
  · rw [← hj]
    exact if_neg hne
  · rw [← hj]
    exact if_neg hne

/-- Only finitely many threads were ever in a call. -/
theorem idle_above (hs : (machine code).Reachable s) : ∃ n, ∀ i, n ≤ i → s.remaining i = [] := by
  refine hs.invariant (I := fun s => ∃ n, ∀ i, n ≤ i → s.remaining i = []) ?_ ?_
  · rintro s rfl
    exact ⟨0, fun _ _ => rfl⟩
  · rintro s (⟨i, k, choices⟩ | i) t ⟨n, hn⟩ hstep
    · simp only [machine] at hstep
      split at hstep
      · cases hstep
        refine ⟨max n (i + 1), fun j hj => ?_⟩
        have hne : j ≠ i := by omega
        simp only [setRemaining, if_neg hne]
        exact hn j (by omega)
      · cases hstep
    · exact ⟨n, fun j hj => idle_goOn hstep (hn j hj)⟩

omit [DecidableEq L] in
theorem work_eq_zero {n : Nat} : s.work n = 0 ↔ ∀ i < n, s.remaining i = [] := by
  induction n with
  | zero => simp [work]
  | succ n ih =>
    rw [work, Nat.add_eq_zero_iff, ih, List.length_eq_zero_iff]
    constructor
    · rintro ⟨hlt, hn⟩ i hi
      rcases Nat.lt_succ_iff_lt_or_eq.mp hi with h | rfl
      · exact hlt i h
      · exact hn
    · exact fun h => ⟨fun i hi => h i (Nat.lt_succ_of_lt hi), h n (Nat.lt_succ_self n)⟩

/-- **All calls return.** However the threads go on from here, after a fixed number of steps all calls are through
and no lock is held, and before that some thread can go on. -/
theorem calls_return {bound : Nat} (hbound : ∀ l, rank l ≤ bound) (hs : (machine code).ReachableIf (Calls rank code) s) :
    ∃ n, ∀ (is : List Nat) (t : Threads L), (machine code).exec s (is.map .go) = some t →
      is.length ≤ n ∧ (is.length < n → ∃ i, (t.goOn i).isSome) ∧
      (is.length = n → (∀ i, t.remaining i = []) ∧ ∀ l, t.holder l = none) := by
  obtain ⟨m, hm⟩ := idle_above hs.reachable
  refine ⟨s.work m, fun is => ?_⟩
  induction is generalizing s with
  | nil =>
    intro t ht
    cases ht
    refine ⟨Nat.zero_le _, fun hlt => ?_, fun heq => ?_⟩
    · have hne : s.work m ≠ 0 := by
        intro h0
        rw [h0] at hlt
        exact absurd hlt (Nat.lt_irrefl _)
      rw [ne_eq, work_eq_zero] at hne
      push Not at hne
      obtain ⟨i, -, hi⟩ := hne
      exact not_stuck hbound hs hi
    · have hidle : ∀ i, s.remaining i = [] := fun i => by
        by_cases hi : i < m
        · exact work_eq_zero.mp heq.symm i hi
        · exact hm i (Nat.le_of_not_lt hi)
      refine ⟨hidle, fun l => ?_⟩
      obtain ⟨held, hh⟩ := holds hs
      cases hl : s.holder l with
      | none => rfl
      | some j => exact absurd (hidle j) (hh.holder_waits hl).1
  | cons i is ih =>
    intro t ht
    simp only [List.map_cons, Machine.exec, Option.bind_eq_some_iff] at ht
    obtain ⟨u, hu, hut⟩ := ht
    have hi : i < m := by
      by_contra hge
      simp [machine, goOn, hm i (Nat.le_of_not_lt hge)] at hu
    have hwork : u.work m + 1 = s.work m := by
      have := work_goOn hu m
      rwa [if_pos hi] at this
    obtain ⟨hle, hgo, hend⟩ := ih (.step hs (show Calls rank code s (.go i) from trivial) hu) (fun j hj => idle_goOn hu (hm j hj)) t hut
    rw [← hwork, List.length_cons]
    exact ⟨Nat.succ_le_succ hle, fun hlt => hgo (Nat.lt_of_succ_lt_succ hlt), fun heq => hend (Nat.succ.inj heq)⟩

end

end Threads

end LockOrder
