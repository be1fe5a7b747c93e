import TTS.Abort
import TTS.SpeechEvents

/-!
# The last turn of a client

A session that is destroyed takes its speeches out of the queue, and the thread
may have one in hand. Whatever the others do, its client hears the rest of that
one turn and no more, a change of state after its end included that the message
handler was about to tell; and once the thread is between two speeches neither
the speaker nor the handler has a pointer to it.
-/

namespace TTS

open Transition

namespace CallPc

/-- The speech that the caller is about to queue. -/
def brings : CallPc → Option SpeechData
  | .queue d | .flush (some d) | .cancelTest (.flush (some d)) | .cancelSet (.flush (some d)) => some d
  | _ => none

theorem cancel_brings (k : AfterCancel) :
    k.pc.brings = (cancelTest k).brings ∧ (cancelSet k).brings = (cancelTest k).brings := by
  cases k with
  | flush d => cases d <;> exact ⟨rfl, rfl⟩
  | _ => exact ⟨rfl, rfl⟩

theorem run_brings {pc : CallPc} {s : TTSSpeaker} {mv : Move CallPc} (hr : pc.run s = some mv) {d : SpeechData}
    (hd : mv.pc.brings = some d) : pc.brings = some d := by
  cases pc with
  | idle => cases hr
  | sessionTest client act =>
    cases hr
    simp only at hd
    split at hd
    · cases act <;> cases hd
    · cases hd
  | cancelTest k =>
    cases hr
    simp only at hd
    split at hd
    · exact (cancel_brings k).2 ▸ hd
    · exact (cancel_brings k).1 ▸ hd
  | cancelSet k =>
    cases hr
    rw [(cancel_brings k).1] at hd
    exact (cancel_brings k).2 ▸ hd
  | flush data =>
    cases hr
    cases data with
    | none => cases hd
    | some e => exact hd
  | clearTest | pauseTest | resumeTest =>
    cases hr
    simp only at hd
    split at hd <;> cases hd
  | stateCurrent =>
    simp only [run, run.go] at hr
    split at hr <;> cases hr <;> cases hd
  | _ =>
    cases hr
    cases hd

theorem call_brings {call : SpeakerCall} {d : SpeechData} (hd : call.pc.brings = some d) :
    ∃ id text secure preemptive, call = .speak d.client id text secure preemptive := by
  cases call with
  | speak client id text secure preemptive =>
    cases preemptive <;> obtain rfl := Option.some.inj hd <;> exact ⟨_, _, _, _, rfl⟩
  | _ => cases hd

end CallPc

def SpeechData.ofClient (c : Nat) (d : SpeechData) : Option SpeechData := if d.client = c then some d else none

/-- The thread's speech, if it is one of client `c`. -/
def ThreadPc.handOf (c : Nat) (pc : ThreadPc) : Option SpeechData := pc.stage.inHand.bind (SpeechData.ofClient c)

/-- What a client has still to hear: of the speech in hand, or of one that is over
the change of state that the handler is about to tell, or nothing. -/
inductive Due
  | hand (d : SpeechData)
  | over (d : SpeechData)
  | nothing

/-- Callbacks to client `c` that end what is due to it, from the first to the second. -/
inductive Rest (c : Nat) : Due → List (Nat × Callback × SpeechData) → Due → Prop
  | nil {due} : Rest c due [] due
  | told {d cb cbs due} (progress : ∀ k, cb ≠ .ended k) (rest : Rest c (.hand d) cbs due) :
    Rest c (.hand d) ((c, cb, d) :: cbs) due
  | ended {d cbs due} (k : Terminal) (rest : Rest c (.over d) cbs due) : Rest c (.hand d) ((c, .ended k, d) :: cbs) due
  | late {d} (notice : Notice) : Rest c (.over d) [(c, notice.callback, d)] .nothing
  | done {d} : Rest c (.over d) [] .nothing

namespace Rest

variable {c : Nat} {due due' due'' : Due} {cbs cbs' : List (Nat × Callback × SpeechData)}

theorem nothing_eq (h : Rest c .nothing cbs due) : cbs = [] ∧ due = .nothing := by
  cases h
  exact ⟨rfl, rfl⟩

theorem append (h : Rest c due cbs due') (h' : Rest c due' cbs' due'') : Rest c due (cbs ++ cbs') due'' := by
  induction h with
  | nil => exact h'
  | told progress _ ih => exact .told progress (ih h')
  | ended k _ ih => exact .ended k (ih h')
  | late notice =>
    obtain ⟨rfl, rfl⟩ := h'.nothing_eq
    exact .late notice
  | done =>
    obtain ⟨rfl, rfl⟩ := h'.nothing_eq
    exact .done

end Rest

namespace Dispatch

/-- What is due to client `c`, by its speech in hand and what the handler is about to tell. -/
def dueTo (c : Nat) : Option SpeechData → MessagePc → Due
  | some d, _ => .hand d
  | none, .call c' _ d => if c' = c then .over d else .nothing
  | none, _ => .nothing

theorem dueTo_hand (c : Nat) (d : SpeechData) (handler : MessagePc) : dueTo c (some d) handler = .hand d := by
  cases handler <;> rfl

theorem dueTo_none {c : Nat} {handler : MessagePc} (hh : ∀ notice d, handler ≠ .call c notice d) :
    dueTo c none handler = .nothing := by
  cases handler with
  | call c' notice d =>
    have hc : c' ≠ c := fun he => hh notice d (by rw [he])
    exact if_neg hc
  | _ => rfl

def due (c : Nat) (st : Dispatch) : Due := dueTo c (st.system.pc.handOf c) st.handler

end Dispatch

/-! ## Steps -/

/-- What one step of the thread does with the speech in hand. -/
inductive Hands (c : Nat) : Option SpeechData → List (Nat × Callback × SpeechData) → Option SpeechData → Prop
  | same {hand} : Hands c hand [] hand
  | told {d cb} (progress : ∀ k, cb ≠ .ended k) : Hands c (some d) [(c, cb, d)] (some d)
  | ended {d} (k : Terminal) : Hands c (some d) [(c, .ended k, d)] none

theorem Hands.of_told {c : Nat} (d : SpeechData) {cb : Callback} (progress : ∀ k, cb ≠ .ended k) :
    Hands c (d.ofClient c) ([(d.client, cb, d)].filter fun x => x.1 = c) (d.ofClient c) := by
  by_cases hd : d.client = c
  · simpa [SpeechData.ofClient, hd] using told progress
  · simpa [SpeechData.ofClient, hd] using same

theorem Hands.of_ended {c : Nat} (d : SpeechData) (k : Terminal) :
    Hands c (d.ofClient c) ([(d.client, .ended k, d)].filter fun x => x.1 = c) none := by
  by_cases hd : d.client = c
  · simpa [SpeechData.ofClient, hd] using ended k
  · simpa [SpeechData.ofClient, hd] using same

/-- A step of the thread goes on with the turn; from the queue it takes no speech of the client. -/
theorem ThreadPc.run_hands {pc : ThreadPc} {s : TTSSpeaker} {choice : Bool} {mv : Move ThreadPc} {c : Nat}
    (hq : ∀ d ∈ s.queue, d.client ≠ c) (hr : pc.run choice s = some (.ok mv)) :
    Hands c (pc.handOf c) (EventPath.callbacksTo c mv.log) (mv.pc.handOf c) := by
  by_cases hf : pc.stage = .free
  · have hnone : pc.handOf c = none := by simp [handOf, hf, Stage.inHand]
    rcases run_of_free hf hr with ⟨hst, hlog, -⟩ | ⟨d, rest, hqueue, htook⟩
    · have hnone' : mv.pc.handOf c = none := by simp [handOf, hst, Stage.inHand]
      rw [hnone, hnone', hlog]
      exact .same
    · have hd : d.client ≠ c := hq d (hqueue ▸ List.mem_cons_self)
      have hother : d.ofClient c = none := if_neg hd
      rw [hnone]
      rcases htook with ⟨rfl, rfl⟩ | ⟨rfl, rfl⟩
      · exact hother ▸ .same
      · exact hother ▸ .same
  cases pc with
  | failedReport d =>
    obtain rfl := Except.ok.inj (Option.some.inj hr)
    exact Hands.of_ended d .playbackerror
  | willSpeak d =>
    obtain rfl := Except.ok.inj (Option.some.inj hr)
    by_cases hflag : s.flushed = true
    · rw [hflag]
      exact .same
    · rw [Bool.not_eq_true] at hflag
      rw [hflag]
      exact Hands.of_told d (by simp)
  | report d k =>
    obtain rfl := Except.ok.inj (Option.some.inj hr)
    exact Hands.of_ended d k
  | waitAudio d =>
    simp only [run, run.go] at hr
    split at hr
    · obtain rfl := Except.ok.inj (Option.some.inj hr)
      exact .same
    · cases hr
  | speakTest d =>
    obtain rfl := Except.ok.inj (Option.some.inj hr)
    by_cases hflag : s.flushed = true
    · rw [hflag]
      exact .same
    · rw [Bool.not_eq_true] at hflag
      rw [hflag]
      exact .same
  | speakGuard | choose | chooseNetwork =>
    simp only [run, run.go, run.say] at hr
    split at hr <;> (obtain rfl := Except.ok.inj (Option.some.inj hr); exact .same)
  | setSpeaking | speakEnter | speakPlay | audioStop | audioEnd | speakLeave | choosePlayback | clearSpeaking =>
    obtain rfl := Except.ok.inj (Option.some.inj hr)
    exact .same
  | _ => exact absurd rfl hf

namespace CallPc

/-- What a caller leaves in the queue was there, or the caller brought it. -/
theorem Moves.queue_mem {pc pc' : CallPc} {s s' : TTSSpeaker} {log : List Record} (hm : pc.Moves s pc' s' log)
    {d : SpeechData} (hd : d ∈ s'.queue) : d ∈ s.queue ∨ ∃ e, pc.brings = some e ∧ e.client = d.client := by
  cases hm with
  | flush => cases hd
  | queue e =>
    rcases List.mem_append.mp hd with hd | hd
    · exact .inl hd
    · rw [List.mem_singleton.mp hd]
      exact .inr ⟨e, rfl, rfl⟩
  | erase => exact .inl (List.mem_of_mem_filter hd)
  | other _ _ view => exact .inl (view.queue ▸ hd)
  | quit =>
    left
    split at hd <;> exact hd
  | found | notFound | speaking | silent | cancel | release => exact .inl hd

end CallPc

namespace MessagePc

/-- The handler comes to its callback with the speech it has just read. -/
theorem run_call {pc : MessagePc} {s : TTSSpeaker} {mv : Move MessagePc} (hr : pc.run s = some (.ok mv)) {c : Nat}
    {notice : Notice} {d : SpeechData} (hcall : mv.pc = .call c notice d) :
    pc.client = some c ∧ s.currentSpeech.isSome = true := by
  have hcurrent : ∀ {next : SpeechData → MessagePc}, run.current s next = some (.ok mv) →
      s.currentSpeech.isSome = true ∧ ∃ e, mv.pc = next e := by
    intro next hr
    unfold run.current at hr
    split at hr <;> cases hr
    exact ⟨by rw [‹s.currentSpeech = _›]; rfl, _, rfl⟩
  cases pc with
  | readId c' notice' =>
    obtain ⟨hs, e, he⟩ := hcurrent hr
    rw [hcall] at he
    split at he <;> cases he
    exact ⟨rfl, hs⟩
  | readText c' d' =>
    obtain ⟨hs, e, he⟩ := hcurrent hr
    rw [hcall] at he
    cases he
    exact ⟨rfl, hs⟩
  | idle => cases hr
  | begun message =>
    cases message <;> cases hr <;> simp only at hcall
    · cases hcall
    · cases hcall
    · split at hcall <;> cases hcall
  | changed old new =>
    cases old <;> cases new <;> cases hr <;> first
      | cases hcall
      | (cases hs : s.clientSpeaking <;> rw [hs] at hcall <;> cases hcall)
  | playingTest | pausedTest =>
    cases hr
    simp only at hcall
    split at hcall <;> cases hcall
  | errorSet | resumedClear | call =>
    cases hr
    cases hcall

end MessagePc

/-- The speech behind `m_currentSpeech` is in hand, and of the client that is spoken for. -/
theorem ThreadPc.Points.handOf {pc : ThreadPc} {s : TTSSpeaker} (h : pc.Points s) {c : Nat}
    (hc : s.clientSpeaking = some c) (hs : s.currentSpeech.isSome = true) : ∃ d, pc.handOf c = some d := by
  obtain ⟨d, hd⟩ := Option.isSome_iff_exists.mp hs
  obtain ⟨hhand, rfl⟩ : pc.stage.inHand = some d ∧ c = d.client := by
    cases pc <;> simp_all [ThreadPc.Points, ThreadPc.stage, Stage.inHand]
  exact ⟨d, by simp [ThreadPc.handOf, hhand, SpeechData.ofClient]⟩

namespace Dispatch

/-- No speech of client `c` waits, and no caller is about to queue one. -/
structure Withdrawn (c : Nat) (st : SpeakerSystem) : Prop where
  queue : ∀ d ∈ st.speaker.queue, d.client ≠ c
  callers : ∀ i d, (st.callers i).brings = some d → d.client ≠ c

/-- Client `c` speaks. -/
def SpeaksFor (c : Nat) (a : Label) : Prop :=
  ∃ i id text secure preemptive, a = .system (.call i (.speak c id text secure preemptive))

theorem setCaller_withdrawn {c i : Nat} {st : SpeakerSystem} {pc : CallPc} (h : Withdrawn c st)
    (hpc : ∀ d, pc.brings = some d → d.client ≠ c) (j : Nat) (d : SpeechData)
    (hd : (st.setCaller i pc j).brings = some d) : d.client ≠ c := by
  unfold SpeakerSystem.setCaller at hd
  split at hd
  · exact hpc d hd
  · exact h.callers j d hd

theorem system_withdrawn {c : Nat} {st st' : SpeakerSystem} {a : SpeakerSystem.Label} (h : Withdrawn c st)
    (ha : ¬ SpeaksFor c (.system a)) (hs : SpeakerSystem.machine.step st a = some st') : Withdrawn c st' := by
  cases SpeakerSystem.step_ran hs with
  | popEmpty | nullSpeech => exact ⟨h.queue, h.callers⟩
  | thread _ run => exact ⟨fun d hd => h.queue d ((ThreadPc.run_moves run).queue_subset d hd), h.callers⟩
  | @call i call idle =>
    refine ⟨h.queue, setCaller_withdrawn h fun d hd hc => ha ?_⟩
    obtain ⟨id, text, secure, preemptive, rfl⟩ := CallPc.call_brings hd
    exact ⟨i, id, text, secure, preemptive, by rw [hc]⟩
  | @caller i mv _ run =>
    refine ⟨fun d hd => ?_, setCaller_withdrawn h fun d hd => h.callers i d (CallPc.run_brings run hd)⟩
    rcases (CallPc.run_moves run).queue_mem hd with hqueue | ⟨e, hbrings, he⟩
    · exact h.queue d hqueue
    · exact he ▸ h.callers i e hbrings
  | post => exact ⟨h.queue, h.callers⟩
  | deliver _ handled =>
    obtain ⟨⟨_, _, _, _, rfl⟩, -⟩ := handleMessage_frame handled
    exact ⟨h.queue, h.callers⟩

theorem step_withdrawn {c : Nat} {st st' : Dispatch} {a : Label} (h : Withdrawn c st.system) (ha : ¬ SpeaksFor c a)
    (hs : machine.step st a = some st') : Withdrawn c st'.system := by
  cases step_ran hs with
  | system _ _ hstep => exact system_withdrawn h ha hstep
  | deliver | dispatch | nullSpeech => exact ⟨h.queue, h.callers⟩
  | @handler mv run =>
    obtain ⟨⟨_, _, _, _, hs'⟩, -⟩ := MessagePc.run_frame run
    exact ⟨fun d hd => h.queue d (by rw [hs'] at hd; exact hd), h.callers⟩

/-- What the handler is about to tell client `c` is about the speech in hand, if there is one. -/
theorem call_hand {c : Nat} {st : Dispatch} (h : st.InTurn) {notice : Notice} {d e : SpeechData}
    (hc : st.handler = .call c notice d) (he : st.system.pc.handOf c = some e) : e = d := by
  obtain ⟨turn, late, -, hpc, htells⟩ := h
  rw [hc] at htells
  have hhand : st.system.pc.stage.inHand = some d := by
    rcases htells.1 with rfl | ⟨-, -, hclear⟩
    · exact hpc.inHand
    · rw [hclear] at he
      cases he
  rw [ThreadPc.handOf, hhand, Option.bind_some, SpeechData.ofClient] at he
  split at he
  · exact (Option.some.inj he).symm
  · cases he

theorem system_rest {c : Nat} {st : Dispatch} (h : Withdrawn c st.system) (ht : st.InTurn) {a : SpeakerSystem.Label}
    {system : SpeakerSystem} (other : a ≠ .deliver) (hs : SpeakerSystem.machine.step st.system a = some system) :
    ∃ log, system.log = st.system.log ++ log ∧
      Rest c (st.due c) (EventPath.callbacksTo c log) (dueTo c (system.pc.handOf c) st.handler) := by
  cases SpeakerSystem.step_ran hs with
  | popEmpty | call | post => exact ⟨[], (List.append_nil _).symm, .nil⟩
  | nullSpeech | deliver => exact absurd rfl other
  | @caller i mv _ run =>
    refine ⟨_, rfl, ?_⟩
    rw [EventPath.callbacksTo, CallPc.run_callbacks run]
    exact .nil
  | @thread _ mv _ run =>
    refine ⟨_, rfl, ?_⟩
    have hhands := ThreadPc.run_hands h.queue run
    rw [due]
    generalize EventPath.callbacksTo c mv.log = cbs at hhands
    generalize hpc : st.system.pc.handOf c = hand at hhands
    generalize mv.pc.handOf c = hand' at hhands
    cases hhands with
    | same => exact .nil
    | told progress =>
      rw [dueTo_hand]
      exact .told progress .nil
    | @ended d k =>
      rw [dueTo_hand]
      by_cases hcall : ∃ notice e, st.handler = .call c notice e
      · obtain ⟨notice, e, hcall⟩ := hcall
        rw [call_hand ht hcall hpc, hcall, dueTo, if_pos rfl]
        exact .ended k .nil
      · rw [dueTo_none fun notice e he => hcall ⟨notice, e, he⟩]
        exact .ended k .done

theorem handler_rest {c : Nat} {st : Dispatch} (ht : st.InTurn) (hp : st.Pointed) {mv : Move MessagePc}
    (hr : st.handler.run st.system.speaker = some (.ok mv)) :
    Rest c (st.due c) (EventPath.callbacksTo c mv.log) (dueTo c (st.system.pc.handOf c) mv.pc) := by
  obtain ⟨-, hlog | ⟨c', notice, d, hcall, rfl⟩⟩ := MessagePc.run_frame hr
  · rw [hlog, due]
    cases hhand : st.system.pc.handOf c with
    | some d =>
      rw [dueTo_hand, dueTo_hand]
      exact .nil
    | none =>
      rw [dueTo_none, dueTo_none]
      · exact .nil
      · -- the handler has read no speech of a client that has none in hand
        intro notice d hcall
        obtain ⟨hclient, hspeech⟩ := MessagePc.run_call hr hcall
        have hpoints := hp.points
        obtain ⟨e, he⟩ := hpoints.handOf (hp.client c hclient) hspeech
        rw [he] at hhand
        cases hhand
      · intro notice d hcall
        rw [hcall] at hr
        cases hr
        cases hlog
  · have hcbs : EventPath.callbacksTo c [.callback c' notice.callback d] =
        if c' = c then [(c, notice.callback, d)] else [] := by
      by_cases hc : c' = c
      · simp [EventPath.callbacksTo, callbacksIn, hc]
      · simp [EventPath.callbacksTo, callbacksIn, hc]
    rw [hcbs, due, hcall]
    cases hhand : st.system.pc.handOf c with
    | some e =>
      rw [dueTo_hand, dueTo_hand]
      by_cases hc : c' = c
      · rw [if_pos hc, call_hand ht (hc ▸ hcall) hhand]
        exact .told (by cases notice <;> simp [Notice.callback]) .nil
      · rw [if_neg hc]
        exact .nil
    | none =>
      by_cases hc : c' = c
      · rw [dueTo, if_pos hc, if_pos hc]
        exact .late notice
      · rw [dueTo, if_neg hc, if_neg hc]
        exact .nil

/-- **A step goes on with what is due to the client.** -/
theorem step_rest {c : Nat} {st st' : Dispatch} {a : Label} (h : Withdrawn c st.system) (ht : st.InTurn) (hp : st.Pointed)
    (hs : machine.step st a = some st') :
    ∃ log, st'.system.log = st.system.log ++ log ∧
      Rest c (st.due c) (EventPath.callbacksTo c log) (st'.due c) := by
  cases step_ran hs with
  | system other _ hstep => exact system_rest h ht other hstep
  | deliver _ idle | dispatch idle =>
    refine ⟨[], (List.append_nil _).symm, ?_⟩
    rw [due, idle]
    cases hhand : st.system.pc.handOf c with
    | some d =>
      simp only [due, hhand, dueTo_hand]
      exact .nil
    | none =>
      simp only [due, hhand, dueTo]
      exact .nil
  | nullSpeech => exact ⟨[], (List.append_nil _).symm, .nil⟩
  | handler run => exact ⟨_, rfl, handler_rest ht hp run⟩

theorem reachable_abortHolds {st : Dispatch} (h : machine.Reachable st) : st.system.AbortHolds := by
  refine h.invariant (I := fun st : Dispatch => st.system.AbortHolds) ?_ fun s a t hI hs => ?_
  · rintro _ ⟨maxFailures, rfl⟩
    exact ⟨by simp [new, SpeakerSystem.new, CallPc.aborting], by simp [new, SpeakerSystem.new, CallPc.aborting]⟩
  cases step_ran hs with
  | system _ _ hstep => exact SpeakerSystem.step_abortHolds hI hstep
  | deliver | dispatch | nullSpeech => exact ⟨hI.mutex, hI.erased⟩
  | @handler mv run =>
    obtain ⟨⟨_, _, _, _, hs'⟩, -⟩ := MessagePc.run_frame run
    exact ⟨hI.mutex, fun i c hc d hd => hI.erased i c hc d (by simp only [hs'] at hd; exact hd)⟩

/-! ## Runs -/

theorem exec_rest {c : Nat} {st st' : Dispatch} (h : machine.Reachable st) (hw : Withdrawn c st.system) {as : List Label}
    (has : ∀ a ∈ as, ¬ SpeaksFor c a) (hs : machine.exec st as = some st') :
    Withdrawn c st'.system ∧
      ∃ log, st'.system.log = st.system.log ++ log ∧
        Rest c (st.due c) (EventPath.callbacksTo c log) (st'.due c) := by
  let I (s : Dispatch) : Prop := machine.Reachable s ∧ Withdrawn c s.system ∧
    ∃ log, s.system.log = st.system.log ++ log ∧
      Rest c (st.due c) (EventPath.callbacksTo c log) (s.due c)
  have hI : I st' := by
    refine Machine.exec_invariant (I := I) ?_ ⟨h, hw, [], (List.append_nil _).symm, .nil⟩ hs
    rintro a ha s t ⟨hr, hws, log, hlog, hrest⟩ ht
    obtain ⟨log', hlog', hrest'⟩ := step_rest hws (reachable_inTurn hr) (reachable_pointed hr) ht
    refine ⟨hr.step ht, step_withdrawn hws (has a ha) ht, log ++ log', ?_, ?_⟩
    · rw [hlog', hlog, List.append_assoc]
    · rw [EventPath.callbacksTo, callbacksIn_append, List.filter_append]
      exact hrest.append hrest'
  exact hI.2

/-- **A client that is gone hears the rest of one turn.** While the speeches of client `c` are being withdrawn, and no
caller is about to queue another, the callbacks to come to it are those of the speech that the thread has in hand, up
to its terminal one and the change of state that the message handler has read before that, whatever the others do. As
soon as the thread is between two speeches neither the speaker nor the handler has a pointer to the client. -/
theorem rest_of_turn {c i : Nat} {st st' : Dispatch} (h : machine.Reachable st)
    (habort : (st.system.callers i).aborting = some c)
    (hothers : ∀ j d, (st.system.callers j).brings = some d → d.client ≠ c)
    (as : List Label) (has : ∀ a ∈ as, ¬ SpeaksFor c a) (hs : machine.exec st as = some st') :
    (∃ cbs, EventPath.callbacksTo c st'.system.log = EventPath.callbacksTo c st.system.log ++ cbs ∧
        Rest c (st.due c) cbs (st'.due c)) ∧
      (st'.system.pc.stage = .free → st'.system.speaker.clientSpeaking = none ∧ st'.handler.client = none ∧
        ∀ d ∈ st'.system.speaker.queue, d.client ≠ c) := by
  have hw : Withdrawn c st.system := ⟨(reachable_abortHolds h).erased i c habort, hothers⟩
  obtain ⟨hw', log, hlog, hrest⟩ := exec_rest h hw has hs
  refine ⟨⟨EventPath.callbacksTo c log, ?_, hrest⟩, fun hfree => ?_⟩
  · rw [hlog, EventPath.callbacksTo, callbacksIn_append, List.filter_append]
    rfl
  have hp := reachable_pointed (h.exec hs)
  have hnone := ((ThreadPc.points_of_free hfree).mp hp.points).1
  refine ⟨hnone, Option.eq_none_iff_forall_ne_some.mpr fun c' hc => ?_, hw'.queue⟩
  have hsome := hp.client c' hc
  rw [hnone] at hsome
  cases hsome

/-- Client 7 goes while its speech has been dequeued. -/
def goesDequeued : List SpeakerSystem.Label :=
  [.call 0 (.ensurePipeline true), .caller 0] ++ List.replicate 9 (.thread true) ++
    [.call 0 (.speak 7 1 "hi".toList false false), .caller 0] ++ List.replicate 6 (.thread true) ++
    [.call 0 (.clearAllSpeechesFrom 7), .caller 0]

/-- The speech is spoken all the same, and its start is told last. -/
def spokenAll : List Label :=
  .system (.caller 0) :: .system (.caller 0) :: List.replicate 6 (.system (.thread true)) ++
    (delivery 2 ++ delivery 2 ++ delivery 5) ++ List.replicate 8 (.system (.thread true)) ++ [.handler]

theorem rest_of_turn_dequeued :
    ∃ st st' : Dispatch, machine.Reachable st ∧ (st.system.callers 0).aborting = some 7 ∧
      EventPath.callbacksTo 7 st'.system.log = [(7, .willSpeak, ⟨7, false, 1, "hi".toList, 0⟩),
        (7, .ended .spoke, ⟨7, false, 1, "hi".toList, 0⟩), (7, .started, ⟨7, false, 1, "hi".toList, 0⟩)] ∧
      (∃ cbs, EventPath.callbacksTo 7 st'.system.log = EventPath.callbacksTo 7 st.system.log ++ cbs ∧
          Rest 7 (st.due 7) cbs (st'.due 7)) ∧
        (st'.system.pc.stage = .free → st'.system.speaker.clientSpeaking = none ∧ st'.handler.client = none ∧
          ∀ d ∈ st'.system.speaker.queue, d.client ≠ 7) := by
  have hst := Machine.reachable_of_exec (M := machine) (s := new 1) ⟨1, rfl⟩ (goesDequeued.map .system) rfl
  refine ⟨_, _, hst, rfl, rfl, rest_of_turn (i := 0) hst rfl (fun j d hd => ?_) spokenAll ?_ rfl⟩
  · simp only [SpeakerSystem.setCaller] at hd
    split at hd
    · cases hd
    · cases hd
  · rintro a ha ⟨i, id, text, secure, preemptive, rfl⟩
    simp [spokenAll, delivery] at ha

end Dispatch

end TTS
