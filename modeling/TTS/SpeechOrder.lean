import TTS.History
import TTS.SpeechLedger

/-!
# The order of the speeches

The queue is a ledger, so its speeches are spoken in the order they were
queued in, whoever queued, withdrew or cleared meanwhile. Where every `speak`
is preemptive each caller has at most one speech waiting.
-/

namespace TTS

open Transition

namespace SpeakerSystem

/-- **First come, first spoken.** The speeches reported so far, then the one in hand, then those that wait, are in the
order in which `queueData` took them, over all clients. -/
theorem speeches_in_order {st : SpeakerSystem} (h : machine.Reachable st) :
    (reportedIn st.log ++ st.pc.stage.inHand.toList ++ st.speaker.queue).Sublist (acceptedIn st.log) := by
  obtain ⟨l, hl, rfl, -⟩ := machine_refines.reachable h
  exact Ledger.reachable_inOrder hl

/-- Of three speeches the first is taken and the second withdrawn. -/
theorem speeches_in_order_withdrawn :
    ∃ st, machine.Reachable st ∧ st.speaker.queue = [⟨7, false, 3, "he".toList, 2⟩] ∧
      (reportedIn st.log ++ st.pc.stage.inHand.toList ++ st.speaker.queue).Sublist (acceptedIn st.log) := by
  have hst := reachable_of_run 1
    ([.call 0 (.speak 7 1 "hi".toList false false), .caller 0, .call 0 (.speak 8 2 "ho".toList false false), .caller 0,
      .call 0 (.speak 7 3 "he".toList false false), .caller 0, .call 0 (.clearAllSpeechesFrom 8), .caller 0, .caller 0,
      .caller 0] ++ List.replicate 9 (.thread true)) rfl
  exact ⟨_, hst, rfl, speeches_in_order hst⟩

end SpeakerSystem

/-! ## Preemptive speaking -/

namespace CallPc

/-- The caller is about to queue a speech. -/
def queues : CallPc → Bool
  | .queue _ => true
  | _ => false

theorem pc_queues (k : AfterCancel) : k.pc.queues = false := by cases k <;> rfl

theorem act_queues (act : SessionAct) : act.pc.queues = false := by cases act <;> rfl

/-- A call comes to queue its speech from `flushQueue` only. -/
theorem run_queues {pc : CallPc} {s : TTSSpeaker} {mv : Move CallPc} (hr : pc.run s = some mv) (hq : mv.pc.queues = true) :
    mv.speaker.queue = [] := by
  cases pc with
  | flush d =>
    cases hr
    rfl
  | idle => cases hr
  | sessionTest client act =>
    cases hr
    simp only at hq
    split at hq
    · rw [act_queues] at hq
      cases hq
    · cases hq
  | cancelTest k =>
    cases hr
    simp only at hq
    split at hq
    · cases hq
    · rw [pc_queues] at hq
      cases hq
  | cancelSet k =>
    cases hr
    rw [pc_queues] at hq
    cases hq
  | clearTest | pauseTest | resumeTest =>
    cases hr
    simp only at hq
    split at hq <;> cases hq
  | stateCurrent =>
    simp only [run, run.go] at hr
    split at hr <;> cases hr <;> cases hq
  | _ =>
    cases hr
    cases hq

/-- A call that is to queue a speech makes the queue longer by that one, another makes it no longer. -/
theorem run_length {pc : CallPc} {s : TTSSpeaker} {mv : Move CallPc} (hr : pc.run s = some mv) :
    mv.speaker.queue.length ≤ s.queue.length + if pc.queues then 1 else 0 := by
  have hm := run_moves hr
  generalize mv.pc = pc', mv.speaker = s', mv.log = log at hm
  cases hm with
  | flush => exact Nat.zero_le _
  | queue => simp [queues, TTSSpeaker.queueData]
  | erase => exact Nat.le_trans (List.length_filter_le _ _) (Nat.le_add_right _ _)
  | other _ _ view => exact Nat.le_trans (Nat.le_of_eq (congrArg _ view.queue)) (Nat.le_add_right _ _)
  | quit =>
    split
    · exact Nat.le_add_right _ _
    · exact Nat.le_add_right _ _
  | _ => exact Nat.le_add_right _ _

end CallPc

theorem ThreadPc.Moves.length {pc pc' : ThreadPc} {s s' : TTSSpeaker} {log : List Record} (h : pc.Moves s pc' s' log) :
    s'.queue.length ≤ s.queue.length := by
  cases h with
  | quiet _ view | failReport _ _ view => exact Nat.le_of_eq (congrArg _ view.queue)
  | take _ _ _ queue | fail _ _ _ queue =>
    rw [queue]
    exact Nat.le_succ _
  | _ => exact Nat.le.refl

namespace SpeakerSystem

/-- Only the callers below `n` call, and they speak preemptively. -/
def Preemptive (n : Nat) (_ : SpeakerSystem) : Label → Prop
  | .call i (.speak _ _ _ _ preemptive) => i < n ∧ preemptive = true
  | .call i _ => i < n
  | _ => True

/-- How many of the first `n` callers are about to queue a speech. -/
def queuing (callers : Nat → CallPc) : Nat → Nat
  | 0 => 0
  | n + 1 => queuing callers n + if (callers n).queues then 1 else 0

theorem queuing_le (callers : Nat → CallPc) : ∀ n, queuing callers n ≤ n
  | 0 => Nat.le.refl
  | n + 1 => by
    have := queuing_le callers n
    simp only [queuing]
    split <;> omega

theorem queuing_setCaller (st : SpeakerSystem) {i : Nat} (pc : CallPc) : ∀ n, i < n →
    queuing (st.setCaller i pc) n + (if (st.callers i).queues then 1 else 0) =
      queuing st.callers n + if pc.queues then 1 else 0
  | n + 1, hi => by
    simp only [queuing]
    by_cases hn : i = n
    · -- the callers before the last are the same
      have hsame : ∀ m ≤ n, queuing (st.setCaller i pc) m = queuing st.callers m := by
        intro m hm
        induction m with
        | zero => rfl
        | succ m ih =>
          have hne : m ≠ i := by omega
          simp only [queuing, ih (by omega), setCaller, if_neg hne]
      have hself : st.setCaller i pc n = pc := if_pos hn.symm
      rw [hsame n Nat.le.refl, hself, hn]
      omega
    · have ih := queuing_setCaller st (i := i) pc n (by omega)
      have : st.setCaller i pc n = st.callers n := if_neg (Ne.symm hn)
      rw [this]
      omega

structure FewWait (n : Nat) (st : SpeakerSystem) : Prop where
  length : st.speaker.queue.length + queuing st.callers n ≤ n
  idle : ∀ i, n ≤ i → st.callers i = .idle

theorem call_queues {c : SpeakerCall} (h : ∀ client id text secure, c ≠ .speak client id text secure false) :
    c.pc.queues = false := by
  cases c with
  | speak client id text secure preemptive =>
    cases preemptive with
    | true => rfl
    | false => exact absurd rfl (h client id text secure)
  | _ => rfl

theorem step_fewWait {n : Nat} {st st' : SpeakerSystem} {a : Label} (h : st.FewWait n) (hok : Preemptive n st a)
    (hs : machine.step st a = some st') : st'.FewWait n := by
  cases step_happens hs with
  | fault => exact ⟨h.length, h.idle⟩
  | thread _ moves => exact ⟨Nat.le_trans (Nat.add_le_add_right moves.length _) h.length, h.idle⟩
  | bus view => exact ⟨by simpa only [view.queue] using h.length, h.idle⟩
  | @call i c idle =>
    have hi : i < n := by cases c <;> first | exact hok | exact hok.1
    have hc : c.pc.queues = false := call_queues fun client id text secure hc => by
      subst hc
      cases hok.2
    refine ⟨?_, fun j hj => ?_⟩
    · have hset := queuing_setCaller st c.pc n hi
      rw [hc, idle] at hset
      have : queuing (st.setCaller i c.pc) n = queuing st.callers n := hset
      rw [this]
      exact h.length
    · exact (if_neg (by omega)).trans (h.idle j hj)
  | @caller i mv _ run =>
    have hi : i < n := by
      refine Nat.lt_of_not_le fun hge => ?_
      rw [h.idle i hge] at run
      cases run
    refine ⟨?_, fun j hj => (if_neg (by omega)).trans (h.idle j hj)⟩
    have hset := queuing_setCaller st mv.pc n hi
    have hlen := CallPc.run_length run
    have hle := h.length
    cases hq : mv.pc.queues with
    | true =>
      simp only [CallPc.run_queues run hq, List.length_nil, Nat.zero_add]
      exact queuing_le _ n
    | false =>
      simp only [hq] at hset
      simp only
      split at hlen <;> simp_all <;> omega

/-- **Preemptive speaking keeps the queue short.** With `n` callers that all speak preemptively no more than `n`
speeches ever wait. -/
theorem preemptive_queue_le {n : Nat} {st : SpeakerSystem} (h : machine.ReachableIf (Preemptive n) st) :
    st.speaker.queue.length ≤ n := by
  have hfew : st.FewWait n := by
    refine Machine.ReachableIf.invariant (I := FewWait n) ?_ (fun _ _ _ hI hok hs => step_fewWait hI hok hs) h
    rintro _ ⟨maxFailures, rfl⟩
    have hnone : ∀ m, queuing (fun _ => .idle) m = 0 := by
      intro m
      induction m with
      | zero => rfl
      | succ m ih => simp [queuing, ih, CallPc.queues]
    exact ⟨by simp [new, TTSSpeaker.new, hnone], fun _ _ => rfl⟩
  exact Nat.le_trans (Nat.le_add_right _ _) hfew.length

instance (n : Nat) (st : SpeakerSystem) : (a : Label) → Decidable (Preemptive n st a)
  | .call i (.speak _ _ _ _ preemptive) => inferInstanceAs (Decidable (i < n ∧ preemptive = true))
  | .call i .reset | .call i (.session _ _) | .call i (.clearAllSpeechesFrom _) | .call i (.ensurePipeline _)
  | .call i (.getSpeechState _ _) | .call i .destructor => inferInstanceAs (Decidable (i < n))
  | .thread _ | .caller _ | .post _ | .deliver => isTrue trivial

/-- Two callers clear each other's speeches, and then both queue one. -/
theorem preemptive_queue_le_two :
    ∃ st, machine.ReachableIf (Preemptive 2) st ∧ st.speaker.queue.length = 2 ∧ st.speaker.queue.length ≤ 2 := by
  have h0 : machine.ReachableIf (Preemptive 2) (.new 1) := .init ⟨1, rfl⟩
  have hst := h0.execIf
    [.call 0 (.speak 7 1 "hi".toList false true), .call 1 (.speak 8 1 "ho".toList false true), .caller 0, .caller 1,
      .caller 0, .caller 1, .caller 0, .caller 1] rfl
  exact ⟨_, hst, rfl, preemptive_queue_le hst⟩

end SpeakerSystem

end TTS
