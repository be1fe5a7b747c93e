import Mathlib.Data.List.Basic
import TTS.Transition

/-!
# Requests kept for a connection

While there is no connection, requests are written into one slot, part by
part, and a slot is made for the first. The connector makes the connection,
sends what is in the slot if it then finds one, and clears it. There is no
lock: whatever callers and connector share is read or written in a step of its
own, and two callers that both find no slot make one each.
-/

namespace Deferred

open Transition

universe u

/-- What a new slot holds, and the writes of a request, in their order. -/
structure Writer (α : Type u) where
  empty : α
  writes : α → List (α → α)

namespace Writer

variable {α : Type u}

def write (fs : List (α → α)) (a : α) : α := fs.foldl (fun a f => f a) a

/-- What a slot holds after a request with nothing in between. -/
def merge (k : Writer α) (c : Option α) (v : α) : α := write (k.writes v) (c.getD k.empty)

theorem map_write_nil (c : Option α) : c.map (write []) = c := by
  cases c <;> rfl

end Writer

variable {α : Type u}

inductive Connector
  | away
  | looking
  | testing
  | sending
  | clearing
  deriving DecidableEq

/-- A call that has found no connection, or one; the first goes on to find a slot or none. -/
inductive Call (α : Type u)
  | stores (v : α)
  | makes (v : α)
  | writes (left : List (α → α))
  | sends (v : α)

def Call.isStoring : Call α → Bool
  | .makes _ | .writes _ => true
  | .stores _ | .sends _ => false

structure Slot (α : Type u) where
  connected : Bool
  cached : Option α
  connector : Connector
  calls : List (Call α)
  /-- What callers began to store or what came through since the last connection broke, in this order. -/
  accepted : List α
  /-- What the other side was sent since then. -/
  sent : List α

inductive Label (α : Type u)
  | call (v : α)
  /-- The test for a slot, the making of one, one write, and the return. -/
  | find (i : Nat)
  | make (i : Nat)
  | write (i : Nat)
  | leave (i : Nat)
  | send (i : Nat) (came : Bool)
  | connect
  | look
  | test
  | deliver (came : Bool)
  | clear
  | disconnect

namespace Slot

variable (k : Writer α)

def step (st : Slot α) : Label α → Option (Slot α)
  | .call v => some { st with calls := st.calls ++ [if st.connected then .sends v else .stores v] }
  | .find i =>
    match st.calls[i]? with
    | some (.stores v) =>
      some { st with
        calls := st.calls.set i (if st.cached.isNone then .makes v else .writes (k.writes v))
        accepted := st.accepted ++ [v] }
    | _ => none
  | .make i =>
    match st.calls[i]? with
    | some (.makes v) => some { st with cached := some k.empty, calls := st.calls.set i (.writes (k.writes v)) }
    | _ => none
  | .write i =>
    match st.calls[i]? with
    | some (.writes (f :: left)) => some { st with cached := st.cached.map f, calls := st.calls.set i (.writes left) }
    | _ => none
  | .leave i =>
    match st.calls[i]? with
    | some (.writes []) => some { st with calls := st.calls.eraseIdx i }
    | _ => none
  | .send i came =>
    match st.calls[i]? with
    | some (.sends v) =>
      let through := if came && st.connected then [v] else []
      some { st with
        calls := st.calls.eraseIdx i, accepted := st.accepted ++ through, sent := st.sent ++ through }
    | _ => none
  | .connect =>
    match st.connector, st.connected with
    | .away, false => some { st with connected := true, connector := .looking }
    | _, _ => none
  | .look =>
    match st.connector with
    | .looking => some { st with connector := if st.cached.isNone then .away else .testing }
    | _ => none
  | .test =>
    match st.connector with
    -- without a connection the slot is stored into itself
    | .testing => some { st with connector := if st.connected then .sending else .clearing }
    | _ => none
  | .deliver came =>
    match st.connector, st.cached with
    | .sending, some v =>
      some { st with sent := st.sent ++ if came && st.connected then [v] else [], connector := .clearing }
    | _, _ => none
  | .clear =>
    match st.connector with
    | .clearing => some { st with cached := none, connector := .away }
    | _ => none
  | .disconnect => if st.connected then some { st with connected := false, accepted := [], sent := [] } else none

def start : Slot α := ⟨false, none, .away, [], [], []⟩

def machine : Machine (Slot α) (Label α) where
  init st := st = start
  step := step k

/-- No call is between its test for a slot and its return. -/
def Quiet (st : Slot α) : Prop := ∀ c ∈ st.calls, c.isStoring = false

/-- Stores do not overlap, and come before the connector's look; a call of a connected caller comes after its sending.
Nothing the connector sends gets lost, and the connection does not break before it is done. -/
def Orderly (st : Slot α) : Label α → Prop
  | .find _ => st.Quiet ∧ (st.connected = false ∨ st.connector = .looking)
  | .look => st.Quiet
  | .send _ _ | .disconnect => st.connector = .away
  | .deliver came => came = true
  | _ => True

instance (st : Slot α) : Decidable st.Quiet := inferInstanceAs (Decidable (∀ c ∈ st.calls, c.isStoring = false))

instance (st : Slot α) (a : Label α) : Decidable (st.Orderly a) :=
  match a with
  | .find _ => inferInstanceAs (Decidable (st.Quiet ∧ (st.connected = false ∨ st.connector = .looking)))
  | .look => inferInstanceAs (Decidable st.Quiet)
  | .send _ _ | .disconnect => inferInstanceAs (Decidable (st.connector = .away))
  | .deliver came => inferInstanceAs (Decidable (came = true))
  | .call _ | .make _ | .write _ | .leave _ | .connect | .test | .clear => inferInstanceAs (Decidable True)

/-- What each step finds and leaves. -/
inductive Ran (st : Slot α) : Label α → Slot α → Prop
  | call (v : α) : Ran st (.call v) { st with calls := st.calls ++ [if st.connected then .sends v else .stores v] }
  | find {i : Nat} {v : α} (hcall : st.calls[i]? = some (.stores v)) :
    Ran st (.find i) { st with
      calls := st.calls.set i (if st.cached.isNone then .makes v else .writes (k.writes v))
      accepted := st.accepted ++ [v] }
  | make {i : Nat} {v : α} (hcall : st.calls[i]? = some (.makes v)) :
    Ran st (.make i) { st with cached := some k.empty, calls := st.calls.set i (.writes (k.writes v)) }
  | write {i : Nat} {f : α → α} {left : List (α → α)} (hcall : st.calls[i]? = some (.writes (f :: left))) :
    Ran st (.write i) { st with cached := st.cached.map f, calls := st.calls.set i (.writes left) }
  | leave {i : Nat} (hcall : st.calls[i]? = some (.writes [])) :
    Ran st (.leave i) { st with calls := st.calls.eraseIdx i }
  | send {i : Nat} {v : α} (came : Bool) (hcall : st.calls[i]? = some (.sends v)) :
    Ran st (.send i came) { st with
      calls := st.calls.eraseIdx i
      accepted := st.accepted ++ if came && st.connected then [v] else []
      sent := st.sent ++ if came && st.connected then [v] else [] }
  | connect (hp : st.connector = .away) (hout : st.connected = false) :
    Ran st .connect { st with connected := true, connector := .looking }
  | look (hp : st.connector = .looking) :
    Ran st .look { st with connector := if st.cached.isNone then .away else .testing }
  | test (hp : st.connector = .testing) :
    Ran st .test { st with connector := if st.connected then .sending else .clearing }
  | deliver {v : α} (came : Bool) (hp : st.connector = .sending) (hcached : st.cached = some v) :
    Ran st (.deliver came) { st with
      sent := st.sent ++ if came && st.connected then [v] else [], connector := .clearing }
  | clear (hp : st.connector = .clearing) : Ran st .clear { st with cached := none, connector := .away }
  | disconnect (hin : st.connected = true) :
    Ran st .disconnect { st with connected := false, accepted := [], sent := [] }

theorem step_ran {st st' : Slot α} {a : Label α} (hs : st.step k a = some st') : st.Ran k a st' := by
  cases a with
  | call v =>
    cases hs
    exact .call v
  | disconnect =>
    simp only [step, Option.ite_none_right_eq_some, Option.some.injEq] at hs
    obtain ⟨hin, rfl⟩ := hs
    exact .disconnect hin
  | find i =>
    simp only [step] at hs
    split at hs
    next hcall =>
      cases hs
      exact .find hcall
    next => cases hs
  | make i =>
    simp only [step] at hs
    split at hs
    next hcall =>
      cases hs
      exact .make hcall
    next => cases hs
  | write i =>
    simp only [step] at hs
    split at hs
    next hcall =>
      cases hs
      exact .write hcall
    next => cases hs
  | leave i =>
    simp only [step] at hs
    split at hs
    next hcall =>
      cases hs
      exact .leave hcall
    next => cases hs
  | send i came =>
    simp only [step] at hs
    split at hs
    next hcall =>
      cases hs
      exact .send came hcall
    next => cases hs
  | connect =>
    simp only [step] at hs
    split at hs
    next hp hout =>
      cases hs
      exact .connect hp hout
    next => cases hs
  | look =>
    simp only [step] at hs
    split at hs
    next hp =>
      cases hs
      exact .look hp
    next => cases hs
  | test =>
    simp only [step] at hs
    split at hs
    next hp =>
      cases hs
      exact .test hp
    next => cases hs
  | deliver came =>
    simp only [step] at hs
    split at hs
    next hp hcached =>
      cases hs
      exact .deliver came hp hcached
    next => cases hs
  | clear =>
    simp only [step] at hs
    split at hs
    next hp =>
      cases hs
      exact .clear hp
    next => cases hs

/-! ## The store under way -/

/-- The slot, when the call is through. -/
def finish (c : Option α) : Call α → Option α
  | .makes v => some (k.merge none v)
  | .writes left => c.map (Writer.write left)
  | .stores _ | .sends _ => c

def underway (st : Slot α) : List (Call α) := st.calls.filter Call.isStoring

/-- The slot, when the stores under way are through. -/
def settled (st : Slot α) : Option α := st.underway.foldl (finish k) st.cached

variable {st st' : Slot α} {a : Label α}

theorem quiet_iff : st.Quiet ↔ st.underway = [] := by
  unfold Quiet underway
  simp [List.filter_eq_nil_iff]

theorem calls_split {calls : List (Call α)} {i : Nat} {c : Call α} (h : calls[i]? = some c) :
    ∃ pre post, calls = pre ++ c :: post ∧ calls.eraseIdx i = pre ++ post ∧
      ∀ c', calls.set i c' = pre ++ c' :: post := by
  obtain ⟨hi, rfl⟩ := List.getElem?_eq_some_iff.mp h
  refine ⟨calls.take i, calls.drop (i + 1), ?_, List.eraseIdx_eq_take_drop_succ .., fun c' => ?_⟩
  · rw [← List.drop_eq_getElem_cons hi, List.take_append_drop]
  · rw [List.set_eq_take_append_cons_drop, if_pos hi]

/-- The one store under way goes on, or is through. -/
theorem underway_storing {calls : List (Call α)} {i : Nat} {c : Call α} (h : calls[i]? = some c)
    (hc : c.isStoring = true) (hone : (calls.filter Call.isStoring).length ≤ 1) :
    calls.filter Call.isStoring = [c] ∧ (calls.eraseIdx i).filter Call.isStoring = [] ∧
      ∀ c', c'.isStoring = true → (calls.set i c').filter Call.isStoring = [c'] := by
  obtain ⟨pre, post, rfl, herase, hset⟩ := calls_split h
  simp only [List.filter_append, List.filter_cons, hc, if_true, List.length_append, List.length_cons] at hone
  have hpre : pre.filter Call.isStoring = [] := List.eq_nil_of_length_eq_zero (by omega)
  have hpost : post.filter Call.isStoring = [] := List.eq_nil_of_length_eq_zero (by omega)
  refine ⟨?_, ?_, fun c' hc' => ?_⟩
  · simp [hpre, hpost, hc]
  · rw [herase, List.filter_append, hpre, hpost, List.append_nil]
  · rw [hset]
    simp [hpre, hpost, hc']

/-- A call that is not storing begins to, or is through. -/
theorem underway_other {calls : List (Call α)} {i : Nat} {c : Call α} (h : calls[i]? = some c)
    (hc : c.isStoring = false) :
    (calls.eraseIdx i).filter Call.isStoring = calls.filter Call.isStoring ∧
      (calls.filter Call.isStoring = [] → ∀ c', c'.isStoring = true → (calls.set i c').filter Call.isStoring = [c']) := by
  obtain ⟨pre, post, rfl, herase, hset⟩ := calls_split h
  refine ⟨?_, fun hnone c' hc' => ?_⟩
  · rw [herase]
    simp [hc]
  · simp only [List.filter_append, List.filter_cons, hc, Bool.false_eq_true, if_false, List.append_eq_nil_iff] at hnone
    rw [hset]
    simp [hnone, hc']

/-! ## What gets through -/

/-- Requests written one after the other into an empty slot. -/
def kept (vs : List α) : Option α := vs.foldl (fun c v => some (k.merge c v)) none

/-- What will be in the slot and was not sent. -/
def unsent (st : Slot α) : Option α := if st.connector = .clearing then none else st.settled k

/-- Each request was sent by itself, or merged with those beside it; in order, and none twice. -/
inductive Delivered : List α → List α → Prop
  | nil : Delivered [] []
  | one {vs ws} (v : α) (h : Delivered vs ws) : Delivered (vs ++ [v]) (ws ++ [v])
  | merged {vs ws group w} (h : Delivered vs ws) (hw : kept k group = some w) : Delivered (vs ++ group) (ws ++ [w])

/-- What was accepted is delivered, but for what is in the slot or will be. -/
def Held (st : Slot α) : Prop :=
  ∃ told rest, st.accepted = told ++ rest ∧ Delivered k told st.sent ∧ kept k rest = st.unsent k

variable {k}

@[simp] theorem kept_concat (vs : List α) (v : α) : kept k (vs ++ [v]) = some (k.merge (kept k vs) v) :=
  List.foldl_concat ..

theorem eq_nil_of_kept {vs : List α} (h : kept k vs = none) : vs = [] := by
  rcases List.eq_nil_or_concat vs with rfl | ⟨us, u, rfl⟩
  · rfl
  · simp at h

theorem Held.delivered (h : st.Held k) (hnone : st.unsent k = none) : Delivered k st.accepted st.sent := by
  obtain ⟨told, rest, hacc, hd, hk⟩ := h
  obtain rfl := eq_nil_of_kept (hk.trans hnone)
  rw [hacc, List.append_nil]
  exact hd

/-- What is delivered with nothing left over is held whatever comes next, if the slot is empty. -/
theorem Held.of_delivered (h : Delivered k st.accepted st.sent) (hnone : st.unsent k = none) : st.Held k :=
  ⟨st.accepted, [], (List.append_nil _).symm, h, hnone.symm⟩

theorem Held.congr (h : st.Held k) (hacc : st'.accepted = st.accepted) (hsent : st'.sent = st.sent)
    (hunsent : st'.unsent k = st.unsent k) : st'.Held k := by
  unfold Held
  rw [hacc, hsent, hunsent]
  exact h

structure Accounted (k : Writer α) (st : Slot α) : Prop where
  out : st.connected = false → st.connector = .away
  held : st.Held k
  found : st.connector = .testing ∨ st.connector = .sending → st.cached ≠ none
  settled : st.connected = true → st.connector = .away → st.cached = none
  one : st.underway.length ≤ 1
  early : st.underway ≠ [] → st.connected = false ∨ st.connector = .looking

theorem Accounted.connected (h : Accounted k st) (hp : st.connector ≠ .away) : st.connected = true := by
  cases hc : st.connected with
  | true => rfl
  | false => exact absurd (h.out hc) hp

/-- Past its look the connector meets no store. -/
theorem Accounted.quiet (h : Accounted k st) (hin : st.connected = true) (hp : st.connector ≠ .looking) :
    st.underway = [] := by
  by_contra hne
  rcases h.early hne with hout | hlooking
  · exact absurd (hin.symm.trans hout) (by decide)
  · exact hp hlooking

theorem settled_quiet (h : st.underway = []) : st.settled k = st.cached := by
  unfold settled
  rw [h]
  rfl

/-- A step of the store under way leaves the slot as it will be. -/
theorem Accounted.storing {calls : List (Call α)} {cached : Option α} (h : Accounted k st)
    (hearly : st.underway ≠ []) (hone : (calls.filter Call.isStoring).length ≤ 1)
    (hsettled : (calls.filter Call.isStoring).foldl (finish k) cached = st.settled k) :
    Accounted k { st with calls := calls, cached := cached } := by
  have hplace := h.early hearly
  have hclearing : st.connector ≠ .clearing := by
    rcases hplace with hout | hlooking
    · rw [h.out hout]
      decide
    · rw [hlooking]
      decide
  refine ⟨h.out, h.held.congr rfl rfl ?_, fun hp => ?_, fun hin haway => ?_, hone, fun _ => hplace⟩
  · unfold unsent
    rw [if_neg hclearing, if_neg hclearing]
    exact hsettled
  · rcases hplace with hout | hlooking
    · rcases hp with hp | hp <;> exact absurd ((h.out hout).symm.trans hp) (by decide)
    · rcases hp with hp | hp <;> exact absurd (hlooking.symm.trans hp) (by decide)
  · rcases hplace with hout | hlooking
    · exact absurd (hin.symm.trans hout) (by decide)
    · exact absurd (hlooking.symm.trans haway) (by decide)

theorem find_accounted {i : Nat} {v : α} (h : Accounted k st) (hcall : st.calls[i]? = some (.stores v))
    (hquiet : st.Quiet) (hplace : st.connected = false ∨ st.connector = .looking) :
    Accounted k { st with
      calls := st.calls.set i (if st.cached.isNone then .makes v else .writes (k.writes v))
      accepted := st.accepted ++ [v] } := by
  have hnone := quiet_iff.mp hquiet
  have hunder := (underway_other hcall rfl).2 hnone (if st.cached.isNone then .makes v else .writes (k.writes v))
    (by split <;> rfl)
  have hclearing : st.connector ≠ .clearing := by
    rcases hplace with hout | hlooking
    · rw [h.out hout]
      decide
    · rw [hlooking]
      decide
  obtain ⟨told, rest, hacc, hd, hk⟩ := h.held
  rw [unsent, if_neg hclearing, settled_quiet hnone] at hk
  refine ⟨h.out, ⟨told, rest ++ [v], by simp [hacc], hd, ?_⟩, h.found, h.settled, ?_, fun _ => hplace⟩
  · rw [kept_concat, hk, unsent, if_neg hclearing, Slot.settled, underway, hunder]
    cases hcached : st.cached <;> simp [finish, Writer.merge]
  · rw [underway, hunder]
    exact Nat.le_refl 1

theorem make_accounted {i : Nat} {v : α} (h : Accounted k st) (hcall : st.calls[i]? = some (.makes v)) :
    Accounted k { st with cached := some k.empty, calls := st.calls.set i (.writes (k.writes v)) } := by
  obtain ⟨hunder, -, hset⟩ := underway_storing hcall rfl h.one
  have hunder' := hset (.writes (k.writes v)) rfl
  refine h.storing (by rw [underway, hunder]; simp) (by rw [hunder']; exact Nat.le_refl 1) ?_
  rw [Slot.settled, underway, hunder, hunder']
  rfl

theorem write_accounted {i : Nat} {f : α → α} {left : List (α → α)} (h : Accounted k st)
    (hcall : st.calls[i]? = some (.writes (f :: left))) :
    Accounted k { st with cached := st.cached.map f, calls := st.calls.set i (.writes left) } := by
  obtain ⟨hunder, -, hset⟩ := underway_storing hcall rfl h.one
  have hunder' := hset (.writes left) rfl
  refine h.storing (by rw [underway, hunder]; simp) (by rw [hunder']; exact Nat.le_refl 1) ?_
  rw [Slot.settled, underway, hunder, hunder']
  exact Option.map_map (Writer.write left) f st.cached

theorem leave_accounted {i : Nat} (h : Accounted k st) (hcall : st.calls[i]? = some (.writes [])) :
    Accounted k { st with calls := st.calls.eraseIdx i } := by
  obtain ⟨hunder, herase, -⟩ := underway_storing hcall rfl h.one
  refine h.storing (by rw [underway, hunder]; simp) (by rw [herase]; exact Nat.zero_le 1) ?_
  rw [Slot.settled, underway, hunder, herase]
  exact (Writer.map_write_nil st.cached).symm

theorem send_accounted {i : Nat} {v : α} (h : Accounted k st) (haway : st.connector = .away)
    (hcall : st.calls[i]? = some (.sends v)) (came : Bool) :
    Accounted k { st with
      calls := st.calls.eraseIdx i
      accepted := st.accepted ++ if came && st.connected then [v] else []
      sent := st.sent ++ if came && st.connected then [v] else [] } := by
  have hunder := (underway_other hcall rfl).1
  have hsettled : ∀ accepted sent, ({ st with calls := st.calls.eraseIdx i, accepted := accepted, sent := sent } :
      Slot α).unsent k = st.unsent k := by
    intro accepted sent
    unfold unsent Slot.settled underway
    rw [hunder]
  refine ⟨h.out, ?_, h.found, h.settled, ?_, fun hne => h.early ?_⟩
  · by_cases hthrough : (came && st.connected) = true
    · -- The caller is connected, so the slot is empty.
      have hin := (Bool.and_eq_true_iff.mp hthrough).2
      have hquiet := h.quiet hin (by rw [haway]; decide)
      have hnone : st.unsent k = none := by
        rw [unsent, if_neg (by rw [haway]; decide), settled_quiet hquiet, h.settled hin haway]
      simp only [hthrough, if_true]
      exact Held.of_delivered ((h.held.delivered hnone).one v) ((hsettled _ _).trans hnone)
    · simp only [hthrough, Bool.false_eq_true, if_false, List.append_nil]
      exact h.held.congr rfl rfl (hsettled _ _)
  · rw [underway, hunder]
    exact h.one
  · rw [underway, hunder] at hne
    exact hne

theorem look_accounted (h : Accounted k st) (hquiet : st.Quiet) (hp : st.connector = .looking) :
    Accounted k { st with connector := if st.cached.isNone then .away else .testing } := by
  have hquiet := quiet_iff.mp hquiet
  have hin := h.connected (by rw [hp]; decide)
  have hheld : ∀ c : Connector, c ≠ .clearing → Held k { st with connector := c } := by
    intro c hc
    refine h.held.congr rfl rfl ?_
    rw [unsent, unsent, if_neg hc, if_neg (by rw [hp]; decide)]
    rfl
  by_cases hcached : st.cached = none
  · rw [if_pos (by rw [hcached]; rfl)]
    refine ⟨fun _ => rfl, hheld .away (by decide), fun hc => ?_, fun _ _ => hcached, h.one, fun hne => absurd hquiet hne⟩
    rcases hc with hc | hc <;> cases hc
  · rw [if_neg (by rwa [Option.isNone_iff_eq_none])]
    exact ⟨fun hout => absurd (hin.symm.trans hout) (by decide), hheld .testing (by decide), fun _ => hcached,
      fun _ hc => (by cases hc), h.one, fun hne => absurd hquiet hne⟩

theorem test_accounted (h : Accounted k st) (hp : st.connector = .testing) :
    Accounted k { st with connector := if st.connected then .sending else .clearing } := by
  have hin := h.connected (by rw [hp]; decide)
  have hquiet := h.quiet hin (by rw [hp]; decide)
  rw [if_pos hin]
  refine ⟨fun hout => absurd (hin.symm.trans hout) (by decide), h.held.congr rfl rfl ?_, fun _ => h.found (.inl hp),
    fun _ hc => (by cases hc), h.one, fun hne => absurd hquiet hne⟩
  rw [unsent, unsent, if_neg (fun hc => by cases hc), if_neg (by rw [hp]; decide)]
  rfl

theorem deliver_accounted {v : α} (h : Accounted k st) (hp : st.connector = .sending) (hcached : st.cached = some v) :
    Accounted k { st with
      sent := st.sent ++ if true && st.connected then [v] else [], connector := .clearing } := by
  have hin := h.connected (by rw [hp]; decide)
  have hquiet := h.quiet hin (by rw [hp]; decide)
  obtain ⟨told, rest, hacc, hd, hk⟩ := h.held
  rw [unsent, if_neg (by rw [hp]; decide), settled_quiet hquiet, hcached] at hk
  refine ⟨fun hout => absurd (hin.symm.trans hout) (by decide), Held.of_delivered ?_ (if_pos rfl), fun hc => ?_,
    fun _ hc => (by cases hc), h.one, fun hne => absurd hquiet hne⟩
  · simp only [hin, Bool.and_self, if_true, hacc]
    exact hd.merged hk
  · rcases hc with hc | hc <;> cases hc

theorem clear_accounted (h : Accounted k st) (hp : st.connector = .clearing) :
    Accounted k { st with cached := none, connector := .away } := by
  have hquiet := h.quiet (h.connected (by rw [hp]; decide)) (by rw [hp]; decide)
  refine ⟨fun _ => rfl, h.held.congr rfl rfl ?_, fun hc => ?_, fun _ _ => rfl, h.one, fun hne => absurd hquiet hne⟩
  · rw [unsent, unsent, if_neg (fun hc => by cases hc), if_pos hp]
    exact settled_quiet (show ({ st with cached := none, connector := .away } : Slot α).underway = [] from hquiet)
  · rcases hc with hc | hc <;> cases hc

theorem connect_accounted (h : Accounted k st) (hp : st.connector = .away) :
    Accounted k { st with connected := true, connector := .looking } := by
  refine ⟨fun hout => (by cases hout), h.held.congr rfl rfl ?_, fun hc => ?_, fun _ hc => (by cases hc), h.one,
    fun _ => .inr rfl⟩
  · rw [unsent, unsent, if_neg (fun hc => by cases hc), if_neg (by rw [hp]; decide)]
    rfl
  · rcases hc with hc | hc <;> cases hc

theorem disconnect_accounted (h : Accounted k st) (haway : st.connector = .away) (hin : st.connected = true) :
    Accounted k { st with connected := false, accepted := [], sent := [] } := by
  have hquiet := h.quiet hin (by rw [haway]; decide)
  refine ⟨fun _ => haway, Held.of_delivered .nil ?_, h.found, fun hc => (by cases hc), h.one, fun _ => .inl rfl⟩
  rw [unsent, if_neg (by rw [haway]; decide)]
  exact (settled_quiet hquiet).trans (h.settled hin haway)

theorem call_accounted (h : Accounted k st) (v : α) :
    Accounted k { st with calls := st.calls ++ [if st.connected then .sends v else .stores v] } := by
  have hunder : (st.calls ++ [if st.connected then Call.sends v else .stores v]).filter Call.isStoring =
      st.calls.filter Call.isStoring := by
    rw [List.filter_append]
    cases st.connected <;> exact List.append_nil _
  refine ⟨h.out, h.held.congr rfl rfl ?_, h.found, h.settled, ?_, fun hne => h.early ?_⟩
  · unfold unsent Slot.settled underway
    rw [hunder]
  · rw [underway, hunder]
    exact h.one
  · rw [underway, hunder] at hne
    exact hne

theorem step_accounted (h : Accounted k st) (ho : st.Orderly a) (hs : st.step k a = some st') : Accounted k st' := by
  cases step_ran k hs with
  | call v => exact call_accounted h v
  | find hcall => exact find_accounted h hcall ho.1 ho.2
  | make hcall => exact make_accounted h hcall
  | write hcall => exact write_accounted h hcall
  | leave hcall => exact leave_accounted h hcall
  | send came hcall => exact send_accounted h ho hcall came
  | connect hp => exact connect_accounted h hp
  | look hp => exact look_accounted h ho hp
  | test hp => exact test_accounted h hp
  | deliver came hp hcached =>
    obtain rfl : came = true := ho
    exact deliver_accounted h hp hcached
  | clear hp => exact clear_accounted h hp
  | disconnect hin => exact disconnect_accounted h ho hin

theorem accounted (h : (machine k).ReachableIf Orderly st) : Accounted k st := by
  refine h.invariant (I := Accounted k) ?_ fun _ _ _ hI ho hs => step_accounted hI ho hs
  rintro _ rfl
  exact ⟨fun _ => rfl, Held.of_delivered .nil rfl, by simp [start], by simp [start], by simp [start, underway],
    by simp [start, underway]⟩

/-- Connected, and done with the slot: everything accepted was delivered. -/
theorem Accounted.delivered (h : Accounted k st) (hc : st.connected = true) (ha : st.connector = .away) :
    Delivered k st.accepted st.sent := by
  refine h.held.delivered ?_
  rw [unsent, if_neg (by rw [ha]; decide), settled_quiet (h.quiet hc (by rw [ha]; decide)), h.settled hc ha]

/-! ## A call with no other in between -/

/-- The steps of a store, for the one call there is. -/
def store (k : Writer α) (cached : Option α) (v : α) : List (Label α) :=
  .find 0 :: (if cached.isNone then [.make 0] else []) ++ List.replicate (k.writes v).length (.write 0) ++ [.leave 0]

theorem exec_writes (st : Slot α) (left : List (α → α)) (hcalls : st.calls = [.writes left]) (as : List (Label α)) :
    (machine k).exec st (List.replicate left.length (.write 0) ++ as) =
      (machine k).exec { st with cached := st.cached.map (Writer.write left), calls := [.writes []] } as := by
  obtain ⟨connected, cached, connector, calls, accepted, sent⟩ := st
  obtain rfl : calls = [.writes left] := hcalls
  induction left generalizing cached with
  | nil => rw [Writer.map_write_nil, List.length_nil, List.replicate_zero, List.nil_append]
  | cons f left ih =>
    refine (ih (cached.map f)).trans ?_
    rw [Option.map_map]
    rfl

theorem exec_store (hcalls : st.calls = []) (hout : st.connected = false) (v : α) :
    (machine k).exec st (.call v :: store k st.cached v) =
      some { st with cached := some (k.merge st.cached v), accepted := st.accepted ++ [v] } := by
  obtain ⟨connected, cached, connector, calls, accepted, sent⟩ := st
  obtain rfl : calls = [] := hcalls
  obtain rfl : connected = false := hout
  unfold store
  rw [List.cons_append, List.cons_append, List.append_assoc]
  cases cached with
  | none => exact exec_writes ⟨false, some k.empty, connector, [.writes (k.writes v)], accepted ++ [v], sent⟩ _ rfl _
  | some c => exact exec_writes ⟨false, some c, connector, [.writes (k.writes v)], accepted ++ [v], sent⟩ _ rfl _

theorem exec_send (hcalls : st.calls = []) (hin : st.connected = true) (v : α) (came : Bool) :
    (machine k).exec st [.call v, .send 0 came] = some { st with
      accepted := st.accepted ++ if came then [v] else [], sent := st.sent ++ if came then [v] else [] } := by
  obtain ⟨connected, cached, connector, calls, accepted, sent⟩ := st
  obtain rfl : calls = [] := hcalls
  obtain rfl : connected = true := hin
  cases came <;> rfl

end Slot

end Deferred
