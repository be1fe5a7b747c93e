import TTS.Transition

/-!
# Messages through the main loop

rtRemote puts a message into its queue and calls `rtRemoteQueueReadyHandler`,
which writes one byte into a pipe; the main loop, which watches the pipe, reads
one byte and processes one message. Handlers and dispatches may be under way
at once, as the source can recurse. Reads and writes are repeated by
`HANDLE_EINTR_EAGAIN`, and may fail all the same.
-/

namespace TTS

open Transition

/-- What one call of `read` or `write` comes to; `again` is `EINTR`, `EAGAIN` or `EWOULDBLOCK`. -/
inductive CallOutcome
  | done
  | again
  | failed
  deriving DecidableEq, Repr

/-- `HANDLE_EINTR_EAGAIN`; `x i` is what the call with the number `i` would come to. -/
def handleEintrEagain (x : Nat → CallOutcome) : CallOutcome := go 100 0
where
  go : Nat → Nat → CallOutcome
    | 0, i => x i
    | n + 1, i => if x i = .again then go n (i + 1) else x i

/-- **A call goes through** just where one of the first 101 tries does, and those before it may be tried again. -/
theorem handleEintrEagain_done (x : Nat → CallOutcome) :
    handleEintrEagain x = .done ↔ ∃ i ≤ 100, x i = .done ∧ ∀ j < i, x j = .again := by
  have hgo : ∀ n i, handleEintrEagain.go x n i = .done ↔ ∃ k ≤ n, x (i + k) = .done ∧ ∀ j < k, x (i + j) = .again := by
    intro n
    induction n with
    | zero => simp [handleEintrEagain.go]
    | succ n ih =>
      intro i
      rw [handleEintrEagain.go]
      split
      next hagain =>
        rw [ih (i + 1)]
        constructor
        · rintro ⟨k, hk, hdone, hbefore⟩
          refine ⟨k + 1, by omega, by rw [← hdone]; congr 1; omega, fun j hj => ?_⟩
          cases j with
          | zero => exact hagain
          | succ j => rw [← hbefore j (by omega)]; congr 1; omega
        · rintro ⟨k, hk, hdone, hbefore⟩
          cases k with
          | zero => rw [Nat.add_zero, hagain] at hdone; cases hdone
          | succ k =>
            refine ⟨k, by omega, by rw [← hdone]; congr 1; omega, fun j hj => ?_⟩
            rw [← hbefore (j + 1) (by omega)]
            congr 1
            omega
      next hagain =>
        constructor
        · exact fun hdone => ⟨0, by omega, hdone, by simp⟩
        · rintro ⟨k, hk, hdone, hbefore⟩
          cases k with
          | zero => exact hdone
          | succ k => exact absurd (hbefore 0 (by omega)) hagain
  simpa [handleEintrEagain] using hgo 100 0

/-- `ready` are the handlers that have not written yet, `due` the dispatches that have read and not processed. The rest
says what has come to pass: writes and reads that failed, and how often there was nothing to process. -/
structure MessagePipe (ε : Type) where
  queue : List ε
  ready : Nat
  bytes : Nat
  due : Nat
  sent : List ε
  processed : List ε
  unwritten : Nat
  unread : Nat
  vain : Nat

namespace MessagePipe

variable {ε : Type}

inductive Label (ε : Type)
  | send (m : ε)
  | write (x : Nat → CallOutcome)
  | read (x : Nat → CallOutcome)
  | process

def step (capacity : Nat) (p : MessagePipe ε) : Label ε → Option (MessagePipe ε)
  | .send m => some { p with queue := p.queue ++ [m], ready := p.ready + 1, sent := p.sent ++ [m] }
  | .write x =>
    match p.ready with
    | 0 => none
    | n + 1 =>
      if handleEintrEagain x = .done then
        -- a full pipe blocks
        if p.bytes < capacity then some { p with ready := n, bytes := p.bytes + 1 } else none
      else some { p with ready := n, unwritten := p.unwritten + 1 }
  | .read x =>
    match p.bytes with
    | 0 => none
    | n + 1 =>
      if handleEintrEagain x = .done then some { p with bytes := n, due := p.due + 1 }
      else some { p with due := p.due + 1, unread := p.unread + 1 }
  | .process =>
    match p.due with
    | 0 => none
    | n + 1 =>
      match p.queue with
      | [] => some { p with due := n, vain := p.vain + 1 }
      | m :: rest => some { p with due := n, queue := rest, processed := p.processed ++ [m] }

def machine (ε : Type) (capacity : Nat) : Machine (MessagePipe ε) (Label ε) where
  init p := p = ⟨[], 0, 0, 0, [], [], 0, 0, 0⟩
  step := step capacity

/-- Every message in the queue has a byte on its way, but for what failed. -/
structure Balanced (p : MessagePipe ε) : Prop where
  order : p.sent = p.processed ++ p.queue
  count : p.queue.length + p.unread = p.ready + p.bytes + p.due + p.unwritten + p.vain
  vain : p.vain ≤ p.unread

theorem step_balanced {capacity : Nat} {p p' : MessagePipe ε} {l : Label ε} (h : p.Balanced)
    (hs : p.step capacity l = some p') : p'.Balanced := by
  have hcount := h.count
  have hvain := h.vain
  cases l with
  | send m =>
    cases hs
    refine ⟨by simp [h.order], ?_, hvain⟩
    simp only [List.length_append, List.length_singleton]
    omega
  | write x =>
    simp only [step] at hs
    split at hs
    next => cases hs
    next n hready =>
      split at hs
      next =>
        split at hs
        next =>
          cases hs
          exact ⟨h.order, by simp only; omega, hvain⟩
        next => cases hs
      next =>
        cases hs
        exact ⟨h.order, by simp only; omega, hvain⟩
  | read x =>
    simp only [step] at hs
    split at hs
    next => cases hs
    next n hbytes =>
      split at hs
      next =>
        cases hs
        exact ⟨h.order, by simp only; omega, hvain⟩
      next =>
        cases hs
        exact ⟨h.order, by simp only; omega, by simp only; omega⟩
  | process =>
    simp only [step] at hs
    split at hs
    next => cases hs
    next n hdue =>
      split at hs
      next hq =>
        cases hs
        rw [hq, List.length_nil] at hcount
        exact ⟨h.order, by simp only [hq, List.length_nil]; omega, by simp only; omega⟩
      next m rest hq =>
        cases hs
        rw [hq, List.length_cons] at hcount
        exact ⟨by simp [h.order, hq], by simp only; omega, hvain⟩

theorem reachable_balanced {capacity : Nat} {p : MessagePipe ε} (h : (machine ε capacity).Reachable p) : p.Balanced := by
  refine h.invariant (I := Balanced) ?_ fun _ _ _ hI hs => step_balanced hI hs
  rintro p rfl
  exact ⟨rfl, rfl, Nat.le_refl 0⟩

end MessagePipe

end TTS
