import TTS.History
import TTS.SpeechLedger

/-!
# Asking for a speech

`getSpeechState` looks at `m_currentSpeech` under one lock and at the queue under
another. Between `dequeueData` and its terminal callback a speech is in the
thread's hand, and behind `m_currentSpeech` only for a part of that time.
-/

namespace TTS

open Transition

/-- Accepted, and neither dropped, cancelled nor reported. -/
def Unfinished (log : List Record) (d : SpeechData) : Prop :=
  .queued d ∈ log ∧ d ∉ droppedIn log ∧ d ∉ cancelledIn log ∧ d ∉ reportedIn log

/-- When a call answers that it has not found a speech, one that was accepted
is finished by then, unless the client has two of its id unfinished. -/
def AnsweredTruly (pre : List Record) (r : Record) : Prop :=
  ∀ c id, r = .answered c id .notFound → ∀ d, .queued d ∈ pre → d.client = c → d.id = id →
    (∀ d', Unfinished pre d' → d'.client = c → d'.id = id → d' = d) → ¬Unfinished pre d

theorem ThreadPc.run_log {pc : ThreadPc} {s : TTSSpeaker} {choice : Bool} {mv : Move ThreadPc}
    (hr : pc.run choice s = some (.ok mv)) (c id : Nat) (state : SpeechState) : .answered c id state ∉ mv.log := by
  have hone : ∀ {r : Record}, (∀ state, r ≠ .answered c id state) → .answered c id state ∉ [r] :=
    fun hr hm => hr state (List.mem_singleton.mp hm).symm
  have hnil : Record.answered c id state ∉ [] := List.not_mem_nil
  by_cases hf : pc.stage = .free
  · rcases run_of_free hf hr with ⟨-, hlog, -⟩ | ⟨d, rest, -, ⟨rfl, rfl⟩ | ⟨rfl, rfl⟩⟩
    · exact hlog ▸ hnil
    · exact hone fun _ e => nomatch e
    · exact hnil
  cases pc with
  | willSpeak d =>
    obtain rfl := Except.ok.inj (Option.some.inj hr)
    simp only
    split
    · exact hone fun _ e => nomatch e
    · exact hnil
  | failedReport d | choosePlayback d | report d k =>
    obtain rfl := Except.ok.inj (Option.some.inj hr)
    exact hone fun _ e => nomatch e
  | choose d | chooseNetwork d =>
    simp only [run, run.go, run.say] at hr
    split at hr
    · obtain rfl := Except.ok.inj (Option.some.inj hr)
      exact hone fun _ e => nomatch e
    · obtain rfl := Except.ok.inj (Option.some.inj hr)
      exact hnil
  | waitAudio d | speakGuard d =>
    simp only [run, run.go] at hr
    split at hr <;> first | (obtain rfl := Except.ok.inj (Option.some.inj hr); exact hnil) | cases hr
  | setSpeaking | speakTest | speakEnter | speakPlay | audioStop | audioEnd | speakLeave | clearSpeaking =>
    obtain rfl := Except.ok.inj (Option.some.inj hr)
    exact hnil
  | _ => exact absurd rfl hf

theorem CallPc.run_notFound {pc : CallPc} {s : TTSSpeaker} {mv : Move CallPc} (hr : pc.run s = some mv) {c id : Nat}
    (h : .answered c id .notFound ∈ mv.log) :
    pc = .stateQueue c id ∧ mv = ⟨.idle, s, [.answered c id .notFound]⟩ ∧
      ∀ d ∈ s.queue, d.client = c → d.id ≠ id := by
  cases pc with
  | stateQueue client id' =>
    obtain rfl := Option.some.inj hr
    obtain ⟨rfl, rfl, hstate⟩ := Record.answered.inj (List.mem_singleton.mp h)
    by_cases hq : (s.queue.any fun d => d.id = id ∧ d.client = c) = true
    · rw [if_pos hq] at hstate
      cases hstate
    · refine ⟨rfl, ?_, fun d hd hc hid => hq ?_⟩
      · rw [if_neg hq]
      · exact List.any_eq_true.mpr ⟨d, hd, decide_eq_true ⟨hid, hc⟩⟩
  | stateCurrent client id' =>
    simp only [run, run.go] at hr
    split at hr
    · obtain rfl := Option.some.inj hr
      obtain ⟨-, -, hstate⟩ := Record.answered.inj (List.mem_singleton.mp h)
      split at hstate <;> cases hstate
    · obtain rfl := Option.some.inj hr
      cases h
  | idle => cases hr
  | flush d | queue d | erase client | release client ds =>
    obtain rfl := Option.some.inj hr
    have hlog := List.mem_singleton.mp h
    cases hlog
  | _ =>
    obtain rfl := Option.some.inj hr
    cases h

namespace SpeakerSystem

/-- No call looks into the queue while the thread has the speech it asks for in hand. -/
def asksOutside (st : SpeakerSystem) : Label → Bool
  | .caller i =>
    match st.callers i with
    | .stateQueue c id => st.pc.stage.inHand.all fun d => !(d.client == c && d.id == id)
    | _ => true
  | _ => true

theorem asksOutside_query {st : SpeakerSystem} {i c id : Nat} (h : st.asksOutside (.caller i) = true)
    (hi : st.callers i = .stateQueue c id) {d : SpeechData} (hd : st.pc.stage.inHand = some d) (hc : d.client = c) :
    d.id ≠ id := by
  simp only [asksOutside, hi, hd, Option.all_some, Bool.not_eq_true', Bool.and_eq_false_iff, beq_eq_false_iff_ne] at h
  exact h.resolve_left fun hne => hne hc

theorem finished_of_places {st : SpeakerSystem} (h : machine.Reachable st) {d : SpeechData} (hq : d ∉ st.speaker.queue)
    (hh : st.pc.stage.inHand ≠ some d) : ¬Unfinished st.log d := by
  rintro ⟨hd, hdrop, hcancel, hreport⟩
  have hone := (speech_in_one_place h hd).1
  have hhand : st.pc.stage.inHand.toList.count d = 0 := by
    rw [List.count_eq_zero, Option.mem_toList]
    exact hh
  rw [accounted, List.count_eq_zero.mpr hq, hhand, List.count_eq_zero.mpr hcancel, List.count_eq_zero.mpr hreport,
    List.count_eq_zero.mpr hdrop] at hone
  cases hone

theorem step_answers {st st' : SpeakerSystem} {a : Label} (h : Each AnsweredTruly st.log) (hr : machine.Reachable st)
    (ho : st.asksOutside a = true) (hs : machine.step st a = some st') : Each AnsweredTruly st'.log := by
  have hquiet : ∀ {log : List Record}, (∀ c id, .answered c id .notFound ∉ log) →
      Each AnsweredTruly (st.log ++ log) := by
    intro log hlog
    refine h.append fun pre r hm c id hd => ?_
    rw [hd] at hm
    exact absurd hm (hlog c id)
  cases step_ran hs with
  | popEmpty | call | post | nullSpeech => exact h
  | thread _ run => exact hquiet fun c id => ThreadPc.run_log run c id _
  | deliver =>
    refine hquiet fun c id hm => ?_
    obtain ⟨x, -, hx⟩ := List.mem_map.mp hm
    cases hx
  | @caller i mv _ run =>
    by_cases hm : ∃ c id, .answered c id .notFound ∈ mv.log
    · obtain ⟨c, id, hm⟩ := hm
      obtain ⟨hpc, rfl, hq⟩ := CallPc.run_notFound run hm
      refine h.snoc fun c' id' he d hd hc hid _ => ?_
      obtain ⟨rfl, rfl, -⟩ := Record.answered.inj he
      exact finished_of_places hr (fun hmem => hq d hmem hc hid) fun hh => asksOutside_query ho hpc hh hc hid
    · exact hquiet fun c id hmem => hm ⟨c, id, hmem⟩

/-- **Answers are true.** In every run whose calls do not ask for a speech the
thread has in hand, a call answers that it has not found one only if it is finished. -/
theorem notFound_means_finished {st : SpeakerSystem} (h : machine.ReachableIf (fun st a => st.asksOutside a = true) st) :
    Each AnsweredTruly st.log := by
  induction h with
  | init hi =>
    obtain ⟨maxFailures, rfl⟩ := hi
    exact each_nil
  | step hr ho hs ih => exact step_answers ih hr.reachable ho hs

/-- A speech is asked for while it waits, and again after its end. -/
theorem notFound_means_finished_twice :
    ∃ st : SpeakerSystem, .answered 7 1 .pending ∈ st.log ∧ .answered 7 1 .notFound ∈ st.log ∧ Each AnsweredTruly st.log := by
  have h0 : machine.ReachableIf (fun st a => st.asksOutside a = true) (new 1) := .init ⟨1, rfl⟩
  have h1 := h0.execIf ([.call 0 (.speak 7 1 "hi".toList false false), .caller 0, .call 0 (.getSpeechState 7 1),
    .caller 0, .caller 0] ++ List.replicate 19 (.thread true) ++
    [.call 0 (.getSpeechState 7 1), .caller 0, .caller 0]) rfl
  exact ⟨_, by decide, by decide, notFound_means_finished h1⟩

/-- The thread has told the client that it will speak, and the client asks for the speech. -/
theorem notFound_after_willSpeak : ∃ st, machine.Reachable st ∧ ¬Each AnsweredTruly st.log := by
  have hst := reachable_of_run 1
    ([.call 0 (.speak 7 1 "hi".toList false false), .caller 0] ++ List.replicate 11 (.thread true) ++
      [.call 0 (.getSpeechState 7 1), .caller 0, .caller 0]) rfl
  refine ⟨_, hst, fun h => ?_⟩
  have hd := h [.queued ⟨7, false, 1, "hi".toList, 0⟩, .callback 7 .willSpeak ⟨7, false, 1, "hi".toList, 0⟩] _ [] rfl 7 1
    rfl ⟨7, false, 1, "hi".toList, 0⟩ (by decide) rfl rfl
  refine hd (fun d' hd' _ _ => ?_) ⟨by decide, by decide, by decide, by decide⟩
  have hmem := hd'.1
  simp only [List.mem_cons, Record.queued.injEq, reduceCtorEq, List.not_mem_nil, or_false] at hmem
  exact hmem

end SpeakerSystem

end TTS
