import TTS.SpeechLedger

/-!
# Aborts

`clearAllSpeechesFrom` looks for the speeches of a client in two places: in
the queue, which it empties of them under `m_queueMutex`, and at the speaker,
whose speech it cancels when `m_clientSpeaking` is the client. It misses the
speech the thread has dequeued and not yet announced, and the one whose
`m_flushed` test is over. In runs where no call meets a speech there, every
abort is effective.
-/

namespace TTS

open Transition

/-- An abort of the client returned after the speech was queued and before its
terminal callback was chosen. -/
def Aborted (log : List Record) (d : SpeechData) : Prop :=
  ∃ pre post ds, log = pre ++ .abortReturned d.client ds :: post ∧ .queued d ∈ pre ∧ .chose d ∉ pre

theorem aborted_queued {log : List Record} {d : SpeechData} (h : Aborted log d) : .queued d ∈ log := by
  obtain ⟨pre, post, ds, rfl, hq, -⟩ := h
  exact List.mem_append_left _ hq

theorem aborted_append {log log' : List Record} {d : SpeechData} (hl : ∀ c ds, .abortReturned c ds ∉ log')
    (h : Aborted (log ++ log') d) : Aborted log d := by
  obtain ⟨pre, post, ds, heq, hq, hc⟩ := h
  rcases log_split heq with ⟨-, -, hmem⟩ | ⟨bs, hlog⟩
  · exact absurd hmem (hl d.client ds)
  · exact ⟨pre, bs, ds, hlog, hq, hc⟩

theorem aborted_release {log : List Record} {d : SpeechData} {c : Nat} {ds : List SpeechData}
    (h : Aborted (log ++ [.abortReturned c ds]) d) : Aborted log d ∨ d.client = c ∧ .chose d ∉ log := by
  obtain ⟨pre, post, ds', heq, hq, hc⟩ := h
  rcases List.eq_nil_or_concat post with rfl | ⟨post, r, rfl⟩
  · obtain ⟨rfl, he⟩ := List.append_inj' heq rfl
    obtain ⟨rfl, -⟩ := Record.abortReturned.inj (List.singleton_inj.mp he)
    exact .inr ⟨rfl, hc⟩
  · rw [List.concat_eq_append, ← List.cons_append, ← List.append_assoc] at heq
    obtain ⟨rfl, -⟩ := List.append_inj' heq rfl
    exact .inl ⟨pre, post, ds', rfl, hq, hc⟩

/-! ## Callers -/

namespace CallPc

/-- The client whose speeches the caller erased, while it holds `m_queueMutex`. -/
def aborting : CallPc → Option Nat
  | .clearTest c _ | .release c _ | .cancelTest (.release c _) | .cancelSet (.release c _) => some c
  | _ => none

def pastTest : CallPc → Option Nat
  | .release c _ | .cancelTest (.release c _) | .cancelSet (.release c _) => some c
  | _ => none

theorem holds_eq_aborting (pc : CallPc) : pc.holds = pc.aborting.isSome := by
  cases pc with
  | cancelTest k | cancelSet k => cases k <;> rfl
  | _ => rfl

theorem aborting_of_pastTest {pc : CallPc} {c : Nat} (h : pc.pastTest = some c) : pc.aborting = some c := by
  cases pc with
  | cancelTest k | cancelSet k => cases k <;> exact h
  | release => exact h
  | _ => cases h

theorem call_aborting (call : SpeakerCall) : call.pc.aborting = none := by
  cases call with
  | speak client id text secure preemptive => cases preemptive <;> rfl
  | _ => rfl

structure KeepsSpeaking (s s' : TTSSpeaker) : Prop where
  isSpeaking : s'.isSpeaking = s.isSpeaking
  clientSpeaking : s'.clientSpeaking = s.clientSpeaking
  flushed : s.flushed = true → s'.flushed = true

variable {pc pc' : CallPc} {s s' : TTSSpeaker} {log : List Record}

theorem Moves.keepsSpeaking (hm : pc.Moves s pc' s' log) : KeepsSpeaking s s' := by
  cases hm with
  | other _ _ view => exact ⟨view.isSpeaking, view.clientSpeaking, fun hf => view.flushed.trans hf⟩
  | cancel => exact ⟨rfl, rfl, fun _ => rfl⟩
  | quit =>
    split
    · exact ⟨rfl, rfl, fun _ => rfl⟩
    · exact ⟨rfl, rfl, id⟩
  | flush | queue | erase | found | notFound | speaking | silent | release => exact ⟨rfl, rfl, id⟩

theorem aborting_of_free {pc : CallPc} (h : pc.holds = false) (c : Nat) : pc.aborting ≠ some c := by
  intro ha
  rw [holds_eq_aborting, ha] at h
  cases h

theorem Moves.aborting (hm : pc.Moves s pc' s' log) {c : Nat} (h : pc'.aborting = some c) :
    pc = .erase c ∧ s' = (s.eraseFrom c).2 ∨ pc.aborting = some c ∧ s'.queue = s.queue := by
  cases hm with
  | erase =>
    obtain rfl := Option.some.inj h
    exact .inl ⟨rfl, rfl⟩
  | found | notFound => exact .inr ⟨h, rfl⟩
  | speaking k => cases k <;> exact .inr ⟨h, rfl⟩
  | silent k => cases k <;> exact .inr ⟨h, rfl⟩
  | cancel k => cases k <;> exact .inr ⟨h, rfl⟩
  | flush d => cases d <;> cases h
  | queue | release | quit => cases h
  | other _ free' => exact absurd h (aborting_of_free free' c)

theorem Moves.queue_of_not_locks (hm : pc.Moves s pc' s' log) (h : pc.locks = false) : s'.queue = s.queue := by
  cases hm with
  | flush | queue | erase => cases h
  | other _ _ view => exact view.queue
  | quit => split <;> rfl
  | found | notFound | speaking | silent | cancel | release => rfl

theorem Moves.abortReturned (hm : pc.Moves s pc' s' log) {c : Nat} {ds : List SpeechData}
    (h : .abortReturned c ds ∈ log) : pc = .release c ds := by
  cases hm with
  | release =>
    obtain ⟨rfl, rfl⟩ := Record.abortReturned.inj (List.mem_singleton.mp h)
    rfl
  | flush | queue | erase => exact nomatch List.mem_singleton.mp h
  | other _ _ _ log_quiet => exact nomatch log_quiet _ h
  | found | notFound | speaking | silent | cancel | quit => cases h

theorem Moves.pastTest (hm : pc.Moves s pc' s' log) {c : Nat} (h : pc'.pastTest = some c) :
    (∃ ds, pc = .clearTest c ds) ∨ pc.pastTest = some c := by
  cases hm with
  | found | notFound =>
    obtain rfl := Option.some.inj h
    exact .inl ⟨_, rfl⟩
  | speaking k => cases k <;> exact .inr h
  | silent k => cases k <;> exact .inr h
  | cancel k => cases k <;> exact .inr h
  | flush d => cases d <;> cases h
  | queue | erase | release | quit => cases h
  | other _ free' => exact absurd (aborting_of_pastTest h) (aborting_of_free free' c)

theorem Moves.release_flushed (hm : pc.Moves s pc' s' log) {c : Nat} {ds : List SpeechData} (h : pc' = .release c ds) :
    s'.flushed = true ∨ s.isSpeaking = false ∨ s.clientSpeaking ≠ some c := by
  cases hm with
  | cancel => exact .inl rfl
  | silent _ silent => exact .inr (.inl silent)
  | notFound elsewhere =>
    obtain ⟨rfl, -⟩ := CallPc.release.inj h
    exact .inr (.inr elsewhere)
  | flush d => cases d <;> cases h
  | other _ free' =>
    rw [h] at free'
    cases free'
  | queue | erase | found | speaking | release | quit => cases h

end CallPc

namespace ThreadPc

/-! ## The thread -/

theorem Moves.queue_subset {pc pc' : ThreadPc} {s s' : TTSSpeaker} {log : List Record} (hm : pc.Moves s pc' s' log) :
    ∀ d ∈ s'.queue, d ∈ s.queue := by
  cases hm with
  | quiet _ view => rw [view.queue]; exact fun d hd => hd
  | failReport _ _ view => rw [view.queue]; exact fun d hd => hd
  | take _ _ _ queue | fail _ _ _ queue => rw [queue]; exact fun d hd => List.mem_cons_of_mem _ hd
  | _ => exact fun d hd => hd

theorem Moves.abortReturned {pc pc' : ThreadPc} {s s' : TTSSpeaker} {log : List Record} (hm : pc.Moves s pc' s' log)
    (c : Nat) (ds : List SpeechData) : .abortReturned c ds ∉ log := by
  cases hm with
  | quiet _ _ log_quiet => exact fun h => nomatch log_quiet _ h
  | _ => simp

theorem Moves.spoken {pc pc' : ThreadPc} {s s' : TTSSpeaker} {log : List Record} (hm : pc.Moves s pc' s' log)
    {d : SpeechData} (h : pc'.stage = .spoken d) :
    pc.stage = .spoken d ∧ s.SameView s' ∨ pc.stage = .taken d ∧ s' = s.setSpeakingState true (some d.client) := by
  cases hm with
  | quiet stage view => exact .inl ⟨stage ▸ h, view⟩
  | speak stage stage' =>
    obtain rfl := Stage.spoken.inj (stage'.symm.trans h)
    exact .inr ⟨stage, rfl⟩
  | take _ stage' | fail _ stage' | failReport _ stage' | interrupt _ stage' | pass _ stage' | pick _ stage'
  | report _ stage' | clear _ stage' => exact nomatch stage'.symm.trans h

theorem Moves.ended {pc pc' : ThreadPc} {s s' : TTSSpeaker} {log : List Record} (hm : pc.Moves s pc' s' log) {c : Nat}
    {k : Terminal} {d : SpeechData} (h : .callback c (.ended k) d ∈ log) :
    pc.stage = .failed d ∨ pc.stage = .ending d k := by
  cases hm with
  | quiet _ _ log_quiet => exact absurd h (ended_not_mem (sameEntries_quiet log_quiet).reported c k d)
  | failReport stage =>
    obtain ⟨-, -, rfl⟩ := Record.callback.inj (List.mem_singleton.mp h)
    exact .inl stage
  | report stage =>
    obtain ⟨-, hk, rfl⟩ := Record.callback.inj (List.mem_singleton.mp h)
    obtain rfl := Callback.ended.inj hk
    exact .inr stage
  | _ => exact absurd h (ended_not_mem rfl c k d)

end ThreadPc

namespace SpeakerSystem

theorem setCaller_self (st : SpeakerSystem) (i : Nat) (pc : CallPc) : st.setCaller i pc i = pc := if_pos rfl

theorem setCaller_of_ne (st : SpeakerSystem) {i j : Nat} (pc : CallPc) (h : j ≠ i) :
    st.setCaller i pc j = st.callers j := if_neg h

/-- Who is between the erase loop and the end of `clearAllSpeechesFrom` holds
`m_queueMutex`, and no speech of the client waits. -/
structure AbortHolds (st : SpeakerSystem) : Prop where
  mutex : ∀ i c, (st.callers i).aborting = some c → st.queueMutex = some i
  erased : ∀ i c, (st.callers i).aborting = some c → ∀ d ∈ st.speaker.queue, d.client ≠ c

theorem caller_abortHolds {st : SpeakerSystem} (h : st.AbortHolds) {i : Nat} {mv : Move CallPc}
    (hl : ((st.callers i).locks && st.queueMutex.isSome) = false) (hr : (st.callers i).run st.speaker = some mv) {j c : Nat}
    (hj : (st.setCaller i mv.pc j).aborting = some c) :
    (if mv.pc.holds then some i else if (st.callers i).holds then none else st.queueMutex) = some j ∧
      ∀ d ∈ mv.speaker.queue, d.client ≠ c := by
  by_cases hij : j = i
  · subst hij
    rw [setCaller_self] at hj
    refine ⟨?_, ?_⟩
    · rw [CallPc.holds_eq_aborting, hj]
      rfl
    · rcases (CallPc.run_moves hr).aborting hj with ⟨-, hs⟩ | ⟨ha, hq⟩
      · rw [hs]
        intro d hd
        simpa using (List.mem_filter.mp hd).2
      · rw [hq]
        exact h.erased j c ha
  · rw [setCaller_of_ne st mv.pc hij] at hj
    have hm := h.mutex j c hj
    -- `j` holds the mutex, so `i` does not come to hold it and does not touch the queue
    have hlock : (st.callers i).locks = false := by simpa [hm] using hl
    have hnot : ∀ c', (st.callers i).aborting ≠ some c' := fun c' ha =>
      hij (Option.some.inj ((h.mutex i c' ha).symm.trans hm)).symm
    have hi : (st.callers i).holds = false := by
      rw [CallPc.holds_eq_aborting, Option.isSome_eq_false_iff, Option.isNone_iff_eq_none]
      exact Option.eq_none_iff_forall_ne_some.mpr hnot
    have hmv : mv.pc.holds = false := by
      rw [CallPc.holds_eq_aborting, Option.isSome_eq_false_iff, Option.isNone_iff_eq_none]
      refine Option.eq_none_iff_forall_ne_some.mpr fun c' ha => ?_
      rcases (CallPc.run_moves hr).aborting ha with ⟨he, -⟩ | ⟨ha, -⟩
      · rw [he] at hlock
        cases hlock
      · exact hnot c' ha
    rw [hmv, hi, (CallPc.run_moves hr).queue_of_not_locks hlock]
    exact ⟨hm, h.erased j c hj⟩

theorem step_abortHolds {st st' : SpeakerSystem} {a : Label} (h : st.AbortHolds) (hs : machine.step st a = some st') :
    st'.AbortHolds := by
  cases step_happens hs with
  | fault => exact ⟨h.mutex, h.erased⟩
  | thread _ moves => exact ⟨h.mutex, fun i c hc d hd => h.erased i c hc d (moves.queue_subset d hd)⟩
  | @call i call idle =>
    have hold : ∀ j c, (st.setCaller i call.pc j).aborting = some c → (st.callers j).aborting = some c := by
      intro j c hc
      unfold setCaller at hc
      split at hc
      · rw [CallPc.call_aborting] at hc
        cases hc
      · exact hc
    exact ⟨fun j c hc => h.mutex j c (hold j c hc), fun j c hc => h.erased j c (hold j c hc)⟩
  | caller unlocked run =>
    exact ⟨fun j c hc => (caller_abortHolds h unlocked run hc).1, fun j c hc => (caller_abortHolds h unlocked run hc).2⟩
  | bus view => exact ⟨h.mutex, fun i c hc => view.queue ▸ h.erased i c hc⟩

def ShowsSpoken (st : SpeakerSystem) : Prop :=
  ∀ d, st.pc.stage = .spoken d → st.speaker.isSpeaking = true ∧ st.speaker.clientSpeaking = some d.client

theorem step_showsSpoken {st st' : SpeakerSystem} {a : Label} (h : st.ShowsSpoken) (hs : machine.step st a = some st') :
    st'.ShowsSpoken := by
  cases step_happens hs with
  | fault | call => exact h
  | thread _ moves =>
    intro d hd
    rcases moves.spoken hd with ⟨hst, view⟩ | ⟨-, rfl⟩
    · rw [view.isSpeaking, view.clientSpeaking]
      exact h d hst
    · exact ⟨rfl, rfl⟩
  | caller _ run =>
    intro d hd
    rw [(CallPc.run_moves run).keepsSpeaking.isSpeaking, (CallPc.run_moves run).keepsSpeaking.clientSpeaking]
    exact h d hd
  | bus view =>
    intro d hd
    rw [view.isSpeaking, view.clientSpeaking]
    exact h d hd

structure Chosen (st : SpeakerSystem) : Prop where
  failed : ∀ d, st.pc.stage = .failed d → .chose d ∈ st.log
  ending : ∀ d k, st.pc.stage = .ending d k → .chose d ∈ st.log
  ended : ∀ c k d, .callback c (.ended k) d ∈ st.log → .chose d ∈ st.log

theorem chosen_of_same {st st' : SpeakerSystem} (h : st.Chosen) {log : List Record} (hst : st'.pc.stage = st.pc.stage)
    (hlog : st'.log = st.log ++ log) (hr : reportedIn log = []) : st'.Chosen := by
  refine ⟨fun d hd => ?_, fun d k hd => ?_, fun c k d hd => ?_⟩ <;> rw [hlog]
  · exact List.mem_append_left _ (h.failed d (hst ▸ hd))
  · exact List.mem_append_left _ (h.ending d k (hst ▸ hd))
  · rw [hlog] at hd
    rcases List.mem_append.mp hd with hd | hd
    · exact List.mem_append_left _ (h.ended c k d hd)
    · exact absurd hd (ended_not_mem hr c k d)

theorem thread_chosen {st : SpeakerSystem} (h : st.Chosen) {pc : ThreadPc} {s : TTSSpeaker} {log : List Record}
    (hm : st.pc.Moves st.speaker pc s log) :
    ({ st with pc := pc, speaker := s, log := st.log ++ log } : SpeakerSystem).Chosen := by
  have hended : ∀ c k d, .callback c (.ended k) d ∈ st.log ++ log → .chose d ∈ st.log ++ log := by
    intro c k d hd
    refine List.mem_append_left _ ?_
    rcases List.mem_append.mp hd with hd | hd
    · exact h.ended c k d hd
    · rcases hm.ended hd with hst | hst
      · exact h.failed d hst
      · exact h.ending d k hst
  cases hm with
  | quiet stage _ log_quiet => exact chosen_of_same h stage rfl (sameEntries_quiet log_quiet).reported
  | fail _ stage' =>
    refine ⟨fun d hd => ?_, fun d k hd => (nomatch stage'.symm.trans hd), hended⟩
    obtain rfl := Stage.failed.inj (stage'.symm.trans hd)
    exact List.mem_append_right _ (List.mem_singleton.mpr rfl)
  | interrupt _ stage' | pick _ stage' =>
    refine ⟨fun d hd => (nomatch stage'.symm.trans hd), fun d k hd => ?_, hended⟩
    obtain ⟨rfl, -⟩ := Stage.ending.inj (stage'.symm.trans hd)
    exact List.mem_append_right _ (List.mem_singleton.mpr rfl)
  | take _ stage' | speak _ stage' | pass _ stage' | clear _ stage' | failReport _ stage' | report _ stage' =>
    exact ⟨fun d hd => (nomatch stage'.symm.trans hd), fun d k hd => (nomatch stage'.symm.trans hd), hended⟩

theorem step_chosen {st st' : SpeakerSystem} {a : Label} (h : st.Chosen) (hs : machine.step st a = some st') :
    st'.Chosen := by
  cases step_happens hs with
  | fault | call => exact ⟨h.failed, h.ending, h.ended⟩
  | thread _ moves => exact thread_chosen h moves
  | caller _ run => exact chosen_of_same h rfl rfl (caller_moves run).reported
  | bus _ log_quiet => exact chosen_of_same h rfl rfl (sameEntries_quiet log_quiet).reported

structure AbortParties (st : SpeakerSystem) : Prop where
  holds : st.AbortHolds
  spoken : st.ShowsSpoken
  chosen : st.Chosen

theorem reachable_abortParties {st : SpeakerSystem} (h : machine.Reachable st) : st.AbortParties := by
  refine Machine.Reachable.invariant (I := AbortParties) ?_ ?_ h
  · rintro _ ⟨maxFailures, rfl⟩
    refine ⟨⟨fun i c h => (nomatch h), fun i c h => (nomatch h)⟩, fun d h => (nomatch h), ?_⟩
    exact ⟨fun d h => (nomatch h), fun d k h => (nomatch h), fun c k d h => (nomatch h)⟩
  · intro st a st' hI hs
    exact ⟨step_abortHolds hI.holds hs, step_showsSpoken hI.spoken hs, step_chosen hI.chosen hs⟩

end SpeakerSystem

/-! ## Where an abort must not meet a speech -/

def Stage.Heeds (flushed : Bool) (A : SpeechData → Prop) : Stage → Prop
  | .taken d | .unflushed d | .failed d => ¬ A d
  | .spoken d => A d → flushed = true
  | .ending d k => A d → k = .interrupted
  | .free | .ended => True

theorem Stage.Heeds.mono {flushed flushed' : Bool} {A A' : SpeechData → Prop} {g : Stage} (h : g.Heeds flushed A)
    (hf : flushed = true → flushed' = true) (hA : ∀ d, A' d → A d) : g.Heeds flushed' A' := by
  cases g with
  | free | ended => trivial
  | taken d | unflushed d | failed d => exact fun ha => h (hA d ha)
  | spoken d => exact fun ha => hf (h (hA d ha))
  | ending d k => exact fun ha => h (hA d ha)

theorem Stage.Heeds.or {flushed : Bool} {A B C : SpeechData → Prop} {g : Stage} (ha : g.Heeds flushed A)
    (hb : g.Heeds flushed B) (h : ∀ d, C d → A d ∨ B d) : g.Heeds flushed C := by
  cases g with
  | free | ended => trivial
  | taken d | unflushed d | failed d => exact fun hc => (h d hc).elim ha hb
  | spoken d | ending d k => exact fun hc => (h d hc).elim ha hb

namespace SpeakerSystem

/-- `isSpeaking(client)` is not asked while a speech of the client is dequeued
and not announced, and the call does not return while the choice of a callback
is past the test of `m_flushed`. -/
def HeedsAbort (st : SpeakerSystem) (a : Label) : Prop :=
  ∀ i, a = .caller i →
    (∀ c ds, st.callers i = .clearTest c ds → ∀ d, st.pc.stage = .taken d → d.client ≠ c) ∧
      ∀ c ds, st.callers i = .release c ds → ∀ d, st.pc.stage = .unflushed d → d.client ≠ c

/-- No aborted speech waits, the one in hand is on its way to be interrupted,
and those that ended were. -/
structure Heeded (st : SpeakerSystem) : Prop where
  waiting : ∀ d ∈ st.speaker.queue, ¬ Aborted st.log d
  inHand : st.pc.stage.Heeds st.speaker.flushed (Aborted st.log)
  ended : ∀ c k d, .callback c (.ended k) d ∈ st.log → Aborted st.log d → k = .interrupted
  pastTest : ∀ i c, (st.callers i).pastTest = some c → ∀ d, st.pc.stage = .taken d → d.client ≠ c
  returning : ∀ i c ds, st.callers i = .release c ds → ∀ d, st.pc.stage = .spoken d → d.client = c →
    st.speaker.flushed = true

theorem thread_heeded {st : SpeakerSystem} (h : st.Heeded) (hp : st.AbortHolds)
    (hl : (st.pc.locks && st.queueMutex.isSome) = false) {pc : ThreadPc} {s : TTSSpeaker} {log : List Record}
    (hm : st.pc.Moves st.speaker pc s log) :
    ({ st with pc := pc, speaker := s, log := st.log ++ log } : SpeakerSystem).Heeded := by
  have hA : ∀ d, Aborted (st.log ++ log) d → Aborted st.log d := fun d => aborted_append hm.abortReturned
  have hin : (pc.stage).Heeds s.flushed (Aborted (st.log ++ log)) := by
    have hst := h.inHand
    cases hm with
    | quiet stage view => rw [stage, view.flushed]; exact hst.mono id hA
    | take _ stage' _ queue | fail _ stage' _ queue =>
      rw [stage']
      exact fun ha => h.waiting _ (queue ▸ List.mem_cons_self) (hA _ ha)
    | speak stage stage' =>
      rw [stage] at hst
      rw [stage']
      exact fun ha => absurd (hA _ ha) hst
    | interrupt _ stage' _ => rw [stage']; exact fun _ => rfl
    | pass stage stage' flushed =>
      rw [stage] at hst
      rw [stage']
      intro ha
      rw [hst (hA _ ha)] at flushed
      cases flushed
    | pick stage stage' _ =>
      rw [stage] at hst
      rw [stage']
      exact fun ha => absurd (hA _ ha) hst
    | failReport _ stage' _ | report _ stage' | clear _ stage' => rw [stage']; trivial
  refine ⟨fun d hd ha => h.waiting d (hm.queue_subset d hd) (hA d ha), hin, ?_, ?_, ?_⟩
  · intro c k d hd ha
    rcases List.mem_append.mp hd with hd | hd
    · exact h.ended c k d hd (hA d ha)
    · have hst := h.inHand
      rcases hm.ended hd with stage | stage <;> rw [stage] at hst
      · exact absurd (hA d ha) hst
      · exact hst (hA d ha)
  · intro i c hc d hd
    -- the mutex is held, so the thread takes nothing
    have hmutex := hp.mutex i c (CallPc.aborting_of_pastTest hc)
    rw [hmutex] at hl
    cases hm with
    | quiet stage => exact h.pastTest i c hc d (stage ▸ hd)
    | take _ _ locks =>
      rw [locks] at hl
      cases hl
    | fail _ stage' | failReport _ stage' | speak _ stage' | interrupt _ stage' | pass _ stage' | pick _ stage'
    | report _ stage' | clear _ stage' => exact nomatch stage'.symm.trans hd
  · intro i c ds hc d hd hdc
    rcases hm.spoken hd with ⟨stage, view⟩ | ⟨stage, -⟩
    · rw [view.flushed]
      exact h.returning i c ds hc d stage hdc
    · exact absurd hdc (h.pastTest i c (hc ▸ rfl) d stage)

theorem setCaller_eq {st : SpeakerSystem} {i j : Nat} {pc pc' : CallPc} (h : st.setCaller i pc j = pc') :
    j = i ∧ pc = pc' ∨ st.callers j = pc' := by
  by_cases hij : j = i
  · subst hij
    exact .inl ⟨rfl, (st.setCaller_self j pc).symm.trans h⟩
  · exact .inr ((st.setCaller_of_ne pc hij).symm.trans h)

theorem caller_places {st : SpeakerSystem} (h : st.Heeded) (hp : st.AbortParties) {i : Nat}
    (ho : st.HeedsAbort (.caller i)) {mv : Move CallPc} (hr : (st.callers i).run st.speaker = some mv) :
    (∀ j c, (st.setCaller i mv.pc j).pastTest = some c → ∀ d, st.pc.stage = .taken d → d.client ≠ c) ∧
      ∀ j c ds, st.setCaller i mv.pc j = .release c ds → ∀ d, st.pc.stage = .spoken d → d.client = c →
        mv.speaker.flushed = true := by
  constructor
  · intro j c hc
    rcases setCaller_eq (rfl : st.setCaller i mv.pc j = _) with ⟨-, hmv⟩ | hj
    · rw [← hmv] at hc
      rcases (CallPc.run_moves hr).pastTest hc with ⟨ds, hi⟩ | hi
      · exact (ho i rfl).1 c ds hi
      · exact h.pastTest i c hi
    · rw [← hj] at hc
      exact h.pastTest j c hc
  · intro j c ds hc d hd hdc
    rcases setCaller_eq hc with ⟨-, hmv⟩ | hj
    · obtain ⟨hspeaking, hclient⟩ := hp.spoken d hd
      rcases (CallPc.run_moves hr).release_flushed hmv with hf | hs | hs
      · exact hf
      · rw [hspeaking] at hs
        cases hs
      · exact absurd (hdc ▸ hclient) hs
    · exact (CallPc.run_moves hr).keepsSpeaking.flushed (h.returning j c ds hj d hd hdc)

theorem release_heeded {st st' : SpeakerSystem} (h : st.Heeded) (hp : st.AbortParties) {i c : Nat} {ds : List SpeechData}
    (ho : st.HeedsAbort (.caller i)) (hi : st.callers i = .release c ds) (hcallers : st'.callers = st.setCaller i .idle)
    (hpc : st'.pc = st.pc) (hspeaker : st'.speaker = st.speaker) (hlog : st'.log = st.log ++ [.abortReturned c ds]) :
    st'.Heeded := by
  have hnew : ∀ d, Aborted st'.log d → Aborted st.log d ∨ d.client = c ∧ .chose d ∉ st.log := by
    intro d ha
    rw [hlog] at ha
    exact aborted_release ha
  have hold : ∀ j pc, st'.callers j = pc → pc ≠ .idle → st.callers j = pc := by
    intro j pc hj hne
    rw [hcallers] at hj
    rcases setCaller_eq hj with ⟨-, he⟩ | hj
    · exact absurd he.symm hne
    · exact hj
  have hpast : (st.callers i).pastTest = some c := by rw [hi]; rfl
  refine ⟨?_, ?_, ?_, ?_, ?_⟩
  · intro d hd ha
    rw [hspeaker] at hd
    rcases hnew d ha with ha | ⟨hdc, -⟩
    · exact h.waiting d hd ha
    · exact hp.holds.erased i c (CallPc.aborting_of_pastTest hpast) d hd hdc
  · rw [hpc, hspeaker]
    refine h.inHand.or ?_ hnew
    -- the aborted speech of the client is announced and cancelled, or its callback is chosen
    cases hg : st.pc.stage with
    | free | ended => trivial
    | taken d => exact fun hd => h.pastTest i c hpast d hg hd.1
    | spoken d => exact fun hd => h.returning i c ds hi d hg hd.1
    | unflushed d => exact fun hd => (ho i rfl).2 c ds hi d hg hd.1
    | ending d k => exact fun hd => absurd (hp.chosen.ending d k hg) hd.2
    | failed d => exact fun hd => hd.2 (hp.chosen.failed d hg)
  · intro c' k d hd ha
    rw [hlog] at hd
    have hd : .callback c' (.ended k) d ∈ st.log := by simpa using hd
    rcases hnew d ha with ha | ⟨-, hc⟩
    · exact h.ended c' k d hd ha
    · exact absurd (hp.chosen.ended c' k d hd) hc
  · intro j c' hc
    rw [hpc]
    refine h.pastTest j c' ?_
    rw [hold j _ rfl (fun e => by rw [e] at hc; cases hc)]
    exact hc
  · intro j c' ds' hj
    rw [hpc, hspeaker]
    exact h.returning j c' ds' (hold j _ hj (fun e => nomatch e))

theorem caller_heeded {st st' : SpeakerSystem} (h : st.Heeded) (hp : st.AbortParties)
    (hserial : ∀ d, .queued d ∈ st.log → d.serial < st.speaker.queued) {i : Nat} (ho : st.HeedsAbort (.caller i))
    {mv : Move CallPc} (hr : (st.callers i).run st.speaker = some mv) (hcallers : st'.callers = st.setCaller i mv.pc)
    (hpc : st'.pc = st.pc) (hspeaker : st'.speaker = mv.speaker) (hlog : st'.log = st.log ++ mv.log) : st'.Heeded := by
  by_cases hrel : ∃ c ds, st.callers i = .release c ds
  · obtain ⟨c, ds, hi⟩ := hrel
    rw [hi] at hr
    obtain rfl := Option.some.inj hr
    exact release_heeded h hp ho hi hcallers hpc hspeaker hlog
  · have hA : ∀ d, Aborted st'.log d → Aborted st.log d := by
      intro d ha
      rw [hlog] at ha
      exact aborted_append (fun c ds hm => hrel ⟨c, ds, (CallPc.run_moves hr).abortReturned hm⟩) ha
    have hmoves := caller_moves hr
    obtain ⟨hpast, hreturning⟩ := caller_places h hp ho hr
    refine ⟨?_, ?_, ?_, ?_, ?_⟩
    · intro d hd ha
      rw [hspeaker] at hd
      have ha := hA d ha
      generalize mv.speaker = s, mv.log = log at hd hmoves
      cases hmoves with
      | same queue => exact h.waiting d (queue ▸ hd) ha
      | flush => cases hd
      | erase client => exact h.waiting d (List.mem_filter.mp hd).1 ha
      | queue e =>
        rcases List.mem_append.mp hd with hd | hd
        · exact h.waiting d hd ha
        · -- it is queued only now
          rw [List.mem_singleton.mp hd] at ha
          exact Nat.lt_irrefl _ (hserial _ (aborted_queued ha))
    · rw [hpc, hspeaker]
      exact h.inHand.mono (CallPc.run_moves hr).keepsSpeaking.flushed hA
    · intro c k d hd ha
      rw [hlog] at hd
      rcases List.mem_append.mp hd with hd | hd
      · exact h.ended c k d hd (hA d ha)
      · exact absurd hd (ended_not_mem hmoves.reported c k d)
    · rw [hcallers, hpc]
      exact hpast
    · rw [hcallers, hpc, hspeaker]
      exact hreturning

theorem step_heeded {st st' : SpeakerSystem} {a : Label} (h : st.Heeded) (hr : machine.Reachable st)
    (ho : st.HeedsAbort a) (hs : machine.step st a = some st') : st'.Heeded := by
  have hp := reachable_abortParties hr
  cases step_happens hs with
  | fault => exact ⟨h.waiting, h.inHand, h.ended, h.pastTest, h.returning⟩
  | thread unlocked moves => exact thread_heeded h hp.holds unlocked moves
  | call call idle =>
    refine ⟨h.waiting, h.inHand, h.ended, fun j c hc => ?_, fun j c ds hc => ?_⟩
    · rcases setCaller_eq (rfl : st.setCaller _ call.pc j = _) with ⟨-, he⟩ | hj
      · have hnone := CallPc.call_aborting call
        rw [he, CallPc.aborting_of_pastTest hc] at hnone
        cases hnone
      · exact h.pastTest j c (hj ▸ hc)
    · rcases setCaller_eq hc with ⟨-, he⟩ | hj
      · have hnone := CallPc.call_aborting call
        rw [he] at hnone
        cases hnone
      · exact h.returning j c ds hj
  | caller _ run => exact caller_heeded h hp (fun d => reachable_serial hr) ho run rfl rfl rfl rfl
  | @bus _ s log view log_quiet =>
    have hA : ∀ d, Aborted (st.log ++ log) d → Aborted st.log d := fun d =>
      aborted_append fun c ds hm => nomatch log_quiet _ hm
    refine ⟨fun d hd ha => h.waiting d (view.queue ▸ hd) (hA d ha), ?_, fun c k d hd ha => ?_, h.pastTest, ?_⟩
    · exact h.inHand.mono (fun hf => view.flushed.trans hf) hA
    · rcases List.mem_append.mp hd with hd | hd
      · exact h.ended c k d hd (hA d ha)
      · exact absurd hd (ended_not_mem (sameEntries_quiet log_quiet).reported c k d)
    · intro i c ds hc d hd hdc
      exact view.flushed.trans (h.returning i c ds hc d hd hdc)

theorem reachableIf_heeded {st : SpeakerSystem} (h : machine.ReachableIf HeedsAbort st) : st.Heeded := by
  induction h with
  | init hi =>
    obtain ⟨maxFailures, rfl⟩ := hi
    exact ⟨fun d hd => (nomatch hd), trivial, fun c k d hd => (nomatch hd), fun i c hc => (nomatch hc),
      fun i c ds hc => (nomatch hc)⟩
  | step hr ho hs ih => exact step_heeded ih hr.reachable ho hs

end SpeakerSystem

/-- A speech queued before an abort of its client returned, with no terminal
callback chosen by then, is among the cancelled or ends as interrupted. -/
def AbortEffective (log : List Record) : Prop :=
  ∀ pre post ds d, log = pre ++ .abortReturned d.client ds :: post → .queued d ∈ pre → .chose d ∉ pre →
    (d ∈ ds ∨ ∀ c k, .callback c (.ended k) d ∈ log → k = .interrupted) ∧ ∀ c, .callback c (.ended .spoke) d ∉ log

namespace SpeakerSystem

/-- **Aborts are effective.** In every run whose aborts do not look for a speech
while it is in neither of the two places, each abort is effective. -/
theorem aborts_effective {st : SpeakerSystem} (h : machine.ReachableIf HeedsAbort st) : AbortEffective st.log := by
  intro pre post ds d hlog hq hc
  have hended := fun c k hk => (reachableIf_heeded h).ended c k d hk ⟨pre, post, ds, hlog, hq, hc⟩
  exact ⟨.inr hended, fun c hk => nomatch hended c _ hk⟩

theorem heedsAbort_thread (st : SpeakerSystem) (choice : Bool) : st.HeedsAbort (.thread choice) :=
  fun _ e => nomatch e

theorem heedsAbort_of_stage {st : SpeakerSystem} (a : Label)
    (h : ∀ d, st.pc.stage ≠ .taken d ∧ st.pc.stage ≠ .unflushed d) : st.HeedsAbort a :=
  fun _ _ => ⟨fun _ _ _ d hd => absurd hd (h d).1, fun _ _ _ d hd => absurd hd (h d).2⟩

/-- The abort finds the speech announced, and it ends as interrupted. -/
theorem aborts_effective_announced :
    ∃ st, machine.ReachableIf HeedsAbort st ∧ .callback 7 (.ended .interrupted) ⟨7, false, 1, "hi".toList, 0⟩ ∈ st.log ∧
      AbortEffective st.log := by
  have hfree : ∀ {g : Stage}, g = .free → ∀ d, g ≠ .taken d ∧ g ≠ .unflushed d := by
    rintro _ rfl d
    exact ⟨fun e => (nomatch e), fun e => (nomatch e)⟩
  have hspoken : ∀ {g : Stage} {e}, g = .spoken e → ∀ d, g ≠ .taken d ∧ g ≠ .unflushed d := by
    rintro _ _ rfl d
    exact ⟨fun e => (nomatch e), fun e => (nomatch e)⟩
  have ht := heedsAbort_thread
  have h0 : machine.ReachableIf HeedsAbort (new 1) := .init ⟨1, rfl⟩
  have h1 := h0.step (heedsAbort_of_stage (.call 0 (.speak 7 1 "hi".toList false false)) (hfree rfl)) rfl
  have h2 := h1.step (heedsAbort_of_stage (.caller 0) (hfree rfl)) rfl
  have h3 := ((h2.step (ht _ true) rfl).step (ht _ true) rfl).step (ht _ true) rfl
  have h4 := ((h3.step (ht _ true) rfl).step (ht _ true) rfl).step (ht _ true) rfl
  have h5 := (((h4.step (ht _ true) rfl).step (ht _ true) rfl).step (ht _ true) rfl).step (ht _ true) rfl
  have h6 := h5.step (heedsAbort_of_stage (.call 0 (.clearAllSpeechesFrom 7)) (hspoken rfl)) rfl
  have h7 := h6.step (heedsAbort_of_stage (.caller 0) (hspoken rfl)) rfl
  have h8 := h7.step (heedsAbort_of_stage (.caller 0) (hspoken rfl)) rfl
  have h9 := h8.step (heedsAbort_of_stage (.caller 0) (hspoken rfl)) rfl
  have h10 := h9.step (heedsAbort_of_stage (.caller 0) (hspoken rfl)) rfl
  have h11 := h10.step (heedsAbort_of_stage (.caller 0) (hspoken rfl)) rfl
  have h12 := (((h11.step (ht _ true) rfl).step (ht _ true) rfl).step (ht _ true) rfl).step (ht _ true) rfl
  exact ⟨_, h12, by decide, aborts_effective h12⟩

/-- An abort asks for the speech after it was dequeued and before it is
announced, and the speech is spoken to its end. -/
theorem abort_misses_dequeued : ∃ st, machine.Reachable st ∧ ¬ AbortEffective st.log := by
  have hst := reachable_of_run 1
    [.call 0 (.ensurePipeline true), .caller 0, .thread true, .thread true, .thread true, .thread true, .thread true,
      .thread true, .thread true, .thread true, .thread true, .call 0 (.speak 7 1 "hi".toList false false), .caller 0,
      .thread true, .thread true, .thread true, .thread true, .thread true, .thread true,
      .call 0 (.clearAllSpeechesFrom 7), .caller 0, .caller 0, .caller 0,
      .thread true, .thread true, .thread true, .thread true, .thread true, .thread true,
      .deliver, .deliver, .deliver, .post .eos, .deliver,
      .thread false, .thread true, .thread true, .thread true, .thread true, .thread true, .thread true, .thread true] rfl
  refine ⟨_, hst, fun h => ?_⟩
  have hd := h [.queued ⟨7, false, 1, "hi".toList, 0⟩, .cancelled 7 []] _ [] ⟨7, false, 1, "hi".toList, 0⟩ rfl
    (by decide) (by decide)
  exact hd.2 7 (by decide)

/-! ## A missed speech -/

def threadAt (st : SpeakerSystem) (pc : ThreadPc) (s : TTSSpeaker) (log : List Record) : SpeakerSystem :=
  { st with pc := pc, speaker := s, log := log }

section
variable (st : SpeakerSystem) {d : SpeechData} (hf : st.fault = none) (hm : st.queueMutex = none)

include hf hm in
theorem steps_of_run {pc pc' : ThreadPc} {s s' : TTSSpeaker} {log log' : List Record}
    (hr : pc.run true s = some (.ok ⟨pc', s', log'⟩)) :
    machine.Steps (st.threadAt pc s log) (st.threadAt pc' s' (log ++ log')) := by
  refine .single ⟨.thread true, ?_⟩
  simp [machine, step, threadStep, threadAt, hf, hm, hr]

include hf hm in
theorem steps_of_go {pc pc' : ThreadPc} {s s' : TTSSpeaker} {log : List Record}
    (hr : pc.run true s = some (.ok ⟨pc', s', []⟩)) : machine.Steps (st.threadAt pc s log) (st.threadAt pc' s' log) := by
  have hrun : machine.Steps (st.threadAt pc s log) (st.threadAt pc' s' (log ++ [])) := steps_of_run st hf hm hr
  rwa [List.append_nil] at hrun

include hf hm in
theorem unflushed_ends (s : TTSSpeaker) (log : List Record) :
    ∃ k, k ≠ .interrupted ∧ machine.Steps (st.threadAt (.chooseNetwork d) s log)
      (st.threadAt .clearSpeaking s (log ++ [.chose d] ++ [.callback d.client (.ended k) d])) := by
  by_cases hn : s.networkError = true
  · have hchoose : machine.Steps (st.threadAt (.chooseNetwork d) s log)
        (st.threadAt (.report d .networkerror) s (log ++ [.chose d])) := by
      apply steps_of_run st hf hm
      simp [ThreadPc.run, ThreadPc.run.say, hn]
    exact ⟨.networkerror, by simp, hchoose.trans (steps_of_run st hf hm rfl)⟩
  · have hnext : machine.Steps (st.threadAt (.chooseNetwork d) s log) (st.threadAt (.choosePlayback d) s log) := by
      apply steps_of_go st hf hm
      simp [ThreadPc.run, ThreadPc.run.go, hn]
    refine ⟨if !s.pipeline || s.pipelineError then .playbackerror else .spoke, ?_, ?_⟩
    · split <;> simp
    · exact (hnext.trans (steps_of_run st hf hm rfl)).trans (steps_of_run st hf hm rfl)

include hf hm in
theorem playing_reaches_choice {s : TTSSpeaker} (hs : s.flushed = false) (log : List Record) :
    ∃ s', machine.Steps (st.threadAt (.speakGuard d) s log) (st.threadAt (.chooseNetwork d) s' log) := by
  have hleave : ∀ s : TTSSpeaker, s.flushed = false →
      ∃ s', machine.Steps (st.threadAt (.speakLeave d) s log) (st.threadAt (.chooseNetwork d) s' log) := by
    intro s hs
    have hchoose : machine.Steps (st.threadAt (.choose d) { s with currentSpeech := none } log)
        (st.threadAt (.chooseNetwork d) { s with currentSpeech := none } log) := by
      apply steps_of_go st hf hm
      simp [ThreadPc.run, ThreadPc.run.go, hs]
    exact ⟨_, Relation.ReflTransGen.trans (steps_of_go st hf hm rfl) hchoose⟩
  by_cases hg : (s.pipeline && !s.pipelineError && !s.flushed) = true
  · have hplay : machine.Steps (st.threadAt (.speakGuard d) s log)
        (st.threadAt (.speakPlay d) { s with currentSpeech := some d } log) := by
      apply steps_of_go st hf hm
      simp only [ThreadPc.run, ThreadPc.run.go, hg, if_true]
    have hstop : ∀ s : TTSSpeaker, s.flushed = false → ∃ s', s'.flushed = false ∧
        machine.Steps (st.threadAt (.audioStop d) s log) (st.threadAt (.audioEnd d) s' log) := by
      intro s hs
      refine ⟨if s.pipeline then s.setState .null else s, ?_, steps_of_go st hf hm rfl⟩
      split <;> exact hs
    -- the wait for the end of the audio times out
    have hwait := (hplay.trans (steps_of_go st hf hm rfl)).trans (steps_of_go st hf hm rfl)
    obtain ⟨s2, hs2, hend⟩ := hstop (({ s with currentSpeech := some d } : TTSSpeaker).setState .playing) hs
    obtain ⟨s3, hchoice⟩ := hleave { s2 with isEOS := false } hs2
    exact ⟨s3, ((hwait.trans hend).trans (steps_of_go st hf hm rfl)).trans hchoice⟩
  · have hskip : machine.Steps (st.threadAt (.speakGuard d) s log) (st.threadAt (.speakLeave d) s log) := by
      apply steps_of_go st hf hm
      simp [ThreadPc.run, ThreadPc.run.go, hg]
    obtain ⟨s', hs'⟩ := hleave s hs
    exact ⟨s', hskip.trans hs'⟩

include hf hm in
theorem dequeued_reaches_choice {s : TTSSpeaker} (hs : s.flushed = false) (log : List Record) :
    ∃ s', machine.Steps (st.threadAt (.setSpeaking d) s log)
      (st.threadAt (.chooseNetwork d) s' (log ++ [.callback d.client .willSpeak d])) := by
  generalize he : s.setSpeakingState true (some d.client) = s1
  have hs1 : s1.flushed = false := by rw [← he]; exact hs
  have hset : machine.Steps (st.threadAt (.setSpeaking d) s log) (st.threadAt (.willSpeak d) s1 log) := by
    rw [← he]
    exact steps_of_go st hf hm rfl
  have hsay : machine.Steps (st.threadAt (.willSpeak d) s1 log)
      (st.threadAt (.speakTest d) s1 (log ++ [.callback d.client .willSpeak d])) := by
    apply steps_of_run st hf hm
    simp [ThreadPc.run, ThreadPc.run.say, hs1]
  have htest : ∀ log, machine.Steps (st.threadAt (.speakTest d) s1 log) (st.threadAt (.speakEnter d) s1 log) := by
    intro log
    apply steps_of_go st hf hm
    simp [ThreadPc.run, ThreadPc.run.go, hs1]
  have henter := ((hset.trans hsay).trans (htest _)).trans (steps_of_go st hf hm rfl)
  obtain ⟨s', hs'⟩ := st.playing_reaches_choice hf hm (d := d) (s := { s1 with isEOS := false }) hs1 _
  exact ⟨s', henter.trans hs'⟩

end

/-- **A missed speech is not interrupted.** When an abort that does not return
the speech comes back between its dequeuing and its announcement, or after the
test of `m_flushed`, the thread alone goes on to an end that is not
`interrupted`. -/
theorem missed_not_interrupted {st : SpeakerSystem} (hf : st.fault = none) (hm : st.queueMutex = none) {d : SpeechData}
    {pre : List Record} {ds : List SpeechData} (hlog : st.log = pre ++ [.abortReturned d.client ds])
    (hq : .queued d ∈ pre) (hc : .chose d ∉ pre) (hds : d ∉ ds)
    (hpc : st.pc = .setSpeaking d ∧ st.speaker.flushed = false ∨ st.pc = .chooseNetwork d) :
    ∃ st', machine.Steps st st' ∧ ¬ AbortEffective st'.log := by
  have hchoice : ∃ s log, machine.Steps st (st.threadAt (.chooseNetwork d) s (st.log ++ log)) := by
    rcases hpc with ⟨hpc, hs⟩ | hpc
    · obtain ⟨s, hs⟩ := st.dequeued_reaches_choice hf hm (d := d) hs st.log
      rw [threadAt, ← hpc] at hs
      exact ⟨s, _, hs⟩
    · refine ⟨st.speaker, [], ?_⟩
      rw [List.append_nil, ← hpc]
      exact .refl
  obtain ⟨s, log, hs⟩ := hchoice
  obtain ⟨k, hk, hend⟩ := st.unflushed_ends hf hm (d := d) s (st.log ++ log)
  refine ⟨_, hs.trans hend, fun h => ?_⟩
  have hsplit : st.log ++ log ++ [.chose d] ++ [.callback d.client (.ended k) d] =
      pre ++ .abortReturned d.client ds :: (log ++ [.chose d] ++ [.callback d.client (.ended k) d]) := by
    simp [hlog]
  rcases (h pre _ ds d hsplit hq hc).1 with hin | hint
  · exact hds hin
  · exact hk (hint d.client k (List.mem_append_right _ (List.mem_singleton.mpr rfl)))

end SpeakerSystem

end TTS
