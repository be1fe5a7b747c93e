import TTS.SpeakerThread

/-!
# Stages of a speech

What the other parties can tell of the thread's position: whether it has a
speech in hand and how far it is with it. `ThreadPc.Moves` and `CallPc.Moves`
list what a step of the thread, or of a caller, does to the queue, to the
fields a cancellation uses and to the log; every step is one of these.
-/

namespace TTS

inductive Stage
  | free
  /-- Dequeued, `m_clientSpeaking` not set yet. -/
  | taken (d : SpeechData)
  | spoken (d : SpeechData)
  /-- `m_flushed` was found false, the other tests of the choice are still to come. -/
  | unflushed (d : SpeechData)
  | ending (d : SpeechData) (k : Terminal)
  /-- Dequeued because no pipeline could be built. -/
  | failed (d : SpeechData)
  /-- The callback was made, `m_clientSpeaking` is still set. -/
  | ended
  deriving DecidableEq, Repr

namespace Stage

def inHand : Stage → Option SpeechData
  | .free | .ended => none
  | .taken d | .spoken d | .unflushed d | .ending d _ | .failed d => some d

end Stage

namespace ThreadPc

def stage : ThreadPc → Stage
  | .failedReport d => .failed d
  | .setSpeaking d => .taken d
  | .willSpeak d | .speakTest d | .speakEnter d | .speakGuard d | .speakPlay d | .waitAudio d | .audioStop d
  | .audioEnd d | .speakLeave d | .choose d => .spoken d
  | .chooseNetwork d | .choosePlayback d => .unflushed d
  | .report d k => .ending d k
  | .clearSpeaking => .ended
  | _ => .free

end ThreadPc

structure TTSSpeaker.SameView (s s' : TTSSpeaker) : Prop where
  queue : s'.queue = s.queue
  queued : s'.queued = s.queued
  flushed : s'.flushed = s.flushed
  isSpeaking : s'.isSpeaking = s.isSpeaking
  clientSpeaking : s'.clientSpeaking = s.clientSpeaking

theorem TTSSpeaker.SameView.refl (s : TTSSpeaker) : s.SameView s := ⟨rfl, rfl, rfl, rfl, rfl⟩

inductive ThreadPc.Moves (pc : ThreadPc) (s : TTSSpeaker) : ThreadPc → TTSSpeaker → List Record → Prop
  | quiet {pc' s' log} (stage : pc'.stage = pc.stage) (view : s.SameView s') (log_quiet : ∀ r ∈ log, r.isQuiet = true) :
    Moves pc s pc' s' log
  | take {pc' d rest} (stage : pc.stage = .free) (stage' : pc'.stage = .taken d) (locks : pc.locks = true)
    (queue : s.queue = d :: rest) :
    Moves pc s pc' { s with queue := rest, flushed := false } []
  | fail {pc' d rest} (stage : pc.stage = .free) (stage' : pc'.stage = .failed d) (locks : pc.locks = true)
    (queue : s.queue = d :: rest) :
    Moves pc s pc' { s with queue := rest, flushed := false } [.chose d]
  | failReport {pc' s' d} (stage : pc.stage = .failed d) (stage' : pc'.stage = .free) (view : s.SameView s') :
    Moves pc s pc' s' [.callback d.client (.ended .playbackerror) d]
  | speak {pc' d} (stage : pc.stage = .taken d) (stage' : pc'.stage = .spoken d) :
    Moves pc s pc' (s.setSpeakingState true (some d.client)) []
  | interrupt {pc' d} (stage : pc.stage = .spoken d) (stage' : pc'.stage = .ending d .interrupted)
      (flushed : s.flushed = true) : Moves pc s pc' s [.chose d]
  | pass {pc' d} (stage : pc.stage = .spoken d) (stage' : pc'.stage = .unflushed d) (flushed : s.flushed = false) :
    Moves pc s pc' s []
  | pick {pc' d k} (stage : pc.stage = .unflushed d) (stage' : pc'.stage = .ending d k) (terminal : k ≠ .interrupted) :
    Moves pc s pc' s [.chose d]
  | report {pc' d k} (stage : pc.stage = .ending d k) (stage' : pc'.stage = .ended) :
    Moves pc s pc' s [.callback d.client (.ended k) d]
  | clear {pc'} (stage : pc.stage = .ended) (stage' : pc'.stage = .free) :
    Moves pc s pc' (s.setSpeakingState false none) []

namespace ThreadPc

theorem pc_stage (k : Continuation) : k.pc.stage = .free := by cases k <;> rfl

theorem run_pop {s : TTSSpeaker} {next : SpeechData → ThreadPc} {log : SpeechData → List Record} {mv : Move ThreadPc}
    (h : run.pop s next log = some (.ok mv)) :
    ∃ d rest, s.queue = d :: rest ∧ mv = ⟨next d, { s with queue := rest, flushed := false }, log d⟩ := by
  unfold run.pop TTSSpeaker.dequeueData at h
  cases hq : s.queue with
  | nil => simp [hq] at h
  | cons d rest =>
    simp only [hq] at h
    exact ⟨d, rest, rfl, (Except.ok.inj (Option.some.inj h)).symm⟩

/-- A step of the thread between two speeches: it takes a speech from the queue,
or it has none and leaves what callers see of the speeches alone. -/
theorem run_of_free {pc : ThreadPc} {s : TTSSpeaker} {choice : Bool} {mv : Move ThreadPc} (hf : pc.stage = .free)
    (hr : pc.run choice s = some (.ok mv)) :
    (mv.pc.stage = .free ∧ mv.log = [] ∧ s.SameView mv.speaker ∧ mv.speaker.currentSpeech = s.currentSpeech) ∨
      ∃ d rest, s.queue = d :: rest ∧
        (pc = .failedDequeue ∧ mv = ⟨.failedReport d, { s with queue := rest, flushed := false }, [.chose d]⟩ ∨
          pc = .dequeue ∧ mv = ⟨.setSpeaking d, { s with queue := rest, flushed := false }, []⟩) := by
  cases pc with
  | failedDequeue =>
    obtain ⟨d, rest, hq, rfl⟩ := run_pop hr
    exact .inr ⟨d, rest, hq, .inl ⟨rfl, rfl⟩⟩
  | dequeue =>
    obtain ⟨d, rest, hq, rfl⟩ := run_pop hr
    exact .inr ⟨d, rest, hq, .inr ⟨rfl, rfl⟩⟩
  | create k =>
    simp only [run, run.go] at hr
    split at hr
    · obtain rfl := Except.ok.inj (Option.some.inj hr)
      exact .inl ⟨pc_stage k, rfl, ⟨rfl, rfl, rfl, rfl, rfl⟩, rfl⟩
    · obtain rfl := Except.ok.inj (Option.some.inj hr)
      cases choice with
      | true => exact .inl ⟨rfl, rfl, ⟨rfl, rfl, rfl, rfl, rfl⟩, rfl⟩
      | false => exact .inl ⟨pc_stage k, rfl, ⟨rfl, rfl, rfl, rfl, rfl⟩, rfl⟩
  | resetWait k =>
    simp only [run, run.go] at hr
    split at hr
    · obtain rfl := Except.ok.inj (Option.some.inj hr)
      exact .inl ⟨pc_stage k, rfl, .refl s, rfl⟩
    · cases hr
  | stopping =>
    obtain rfl := Except.ok.inj (Option.some.inj hr)
    refine .inl ⟨rfl, rfl, ?_, ?_⟩ <;> simp only <;> split <;> first | exact ⟨rfl, rfl, rfl, rfl, rfl⟩ | rfl
  | waitPredicate =>
    simp only [run, run.go] at hr
    split at hr
    · obtain rfl := Except.ok.inj (Option.some.inj hr)
      exact .inl ⟨rfl, rfl, .refl s, rfl⟩
    · cases hr
  | resetClear k =>
    simp only [run, run.go] at hr
    split at hr <;>
      (obtain rfl := Except.ok.inj (Option.some.inj hr); exact .inl ⟨rfl, rfl, ⟨rfl, rfl, rfl, rfl, rfl⟩, rfl⟩)
  | stopped => cases hr
  | loopTop | updateMay | updateDiffers | updateEnsure | resetTest | failedTest | waitRun | waitEmpty | waitMay
  | waitDiffers | stopTest | againMay | againDiffers =>
    simp only [run, run.go] at hr
    obtain rfl := Except.ok.inj (Option.some.inj hr)
    refine .inl ⟨?_, rfl, .refl s, rfl⟩
    simp only
    split <;> rfl
  | updateDestroy | resetDestroy | exitDestroy =>
    obtain rfl := Except.ok.inj (Option.some.inj hr)
    exact .inl ⟨rfl, rfl, ⟨rfl, rfl, rfl, rfl, rfl⟩, rfl⟩
  | _ => cases hf

/-- **Every step of the thread is one of the moves.** -/
theorem run_moves {pc : ThreadPc} {s : TTSSpeaker} {choice : Bool} {mv : Move ThreadPc}
    (hr : pc.run choice s = some (.ok mv)) : Moves pc s mv.pc mv.speaker mv.log := by
  have hnil : ∀ r ∈ ([] : List Record), r.isQuiet = true := by
    intro r h
    cases h
  by_cases hf : pc.stage = .free
  · rcases run_of_free hf hr with ⟨hst, hlog, view, -⟩ | ⟨d, rest, hq, ⟨rfl, rfl⟩ | ⟨rfl, rfl⟩⟩
    · exact .quiet (hst.trans hf.symm) view (hlog ▸ hnil)
    · exact .fail rfl rfl rfl hq
    · exact .take rfl rfl rfl hq
  cases pc with
  | failedReport d =>
    obtain rfl := Except.ok.inj (Option.some.inj hr)
    exact .failReport rfl rfl ⟨rfl, rfl, rfl, rfl, rfl⟩
  | setSpeaking d =>
    obtain rfl := Except.ok.inj (Option.some.inj hr)
    exact .speak rfl rfl
  | willSpeak d =>
    obtain rfl := Except.ok.inj (Option.some.inj hr)
    refine .quiet rfl (.refl s) fun r hm => ?_
    split at hm
    · rw [List.mem_singleton.mp hm]
      rfl
    · cases hm
  | speakTest d =>
    simp only [run, run.go] at hr
    obtain rfl := Except.ok.inj (Option.some.inj hr)
    refine .quiet ?_ (.refl s) hnil
    split <;> rfl
  | speakGuard d =>
    simp only [run, run.go] at hr
    split at hr <;>
      (obtain rfl := Except.ok.inj (Option.some.inj hr); exact .quiet rfl ⟨rfl, rfl, rfl, rfl, rfl⟩ hnil)
  | waitAudio d =>
    simp only [run, run.go] at hr
    split at hr
    · obtain rfl := Except.ok.inj (Option.some.inj hr)
      exact .quiet rfl (.refl s) hnil
    · cases hr
  | audioStop d =>
    obtain rfl := Except.ok.inj (Option.some.inj hr)
    refine .quiet rfl ?_ hnil
    simp only
    split <;> exact ⟨rfl, rfl, rfl, rfl, rfl⟩
  | speakEnter | speakPlay | audioEnd | speakLeave =>
    obtain rfl := Except.ok.inj (Option.some.inj hr)
    exact .quiet rfl ⟨rfl, rfl, rfl, rfl, rfl⟩ hnil
  | choose d =>
    simp only [run] at hr
    split at hr
    · rename_i hflag
      obtain rfl := Except.ok.inj (Option.some.inj hr)
      exact .interrupt rfl rfl hflag
    · rename_i hflag
      obtain rfl := Except.ok.inj (Option.some.inj hr)
      exact .pass rfl rfl (by simpa using hflag)
  | chooseNetwork d =>
    simp only [run] at hr
    split at hr
    · obtain rfl := Except.ok.inj (Option.some.inj hr)
      exact .pick rfl rfl (by simp)
    · obtain rfl := Except.ok.inj (Option.some.inj hr)
      exact .quiet rfl (.refl s) hnil
  | choosePlayback d =>
    obtain rfl := Except.ok.inj (Option.some.inj hr)
    refine .pick (k := if !s.pipeline || s.pipelineError then .playbackerror else .spoke) rfl rfl ?_
    split <;> simp
  | report d k =>
    obtain rfl := Except.ok.inj (Option.some.inj hr)
    exact .report rfl rfl
  | clearSpeaking =>
    obtain rfl := Except.ok.inj (Option.some.inj hr)
    exact .clear rfl rfl
  | _ => exact absurd rfl hf

end ThreadPc

inductive CallPc.Moves : CallPc → TTSSpeaker → CallPc → TTSSpeaker → List Record → Prop
  | flush {s} (d : Option SpeechData) :
    Moves (.flush d) s ((d.map CallPc.queue).getD .idle) s.flushQueue [.flushed s.queue]
  | queue {s} (d : SpeechData) : Moves (.queue d) s .idle (s.queueData d) [.queued { d with serial := s.queued }]
  | erase {s} (c : Nat) :
    Moves (.erase c) s (.clearTest c (s.eraseFrom c).1) (s.eraseFrom c).2 [.cancelled c (s.eraseFrom c).1]
  | found {s c ds} : Moves (.clearTest c ds) s (.cancelTest (.release c ds)) s []
  | notFound {s c ds} (elsewhere : s.clientSpeaking ≠ some c) : Moves (.clearTest c ds) s (.release c ds) s []
  | speaking {s} (k : AfterCancel) : Moves (.cancelTest k) s (.cancelSet k) s []
  | silent {s} (k : AfterCancel) (silent : s.isSpeaking = false) : Moves (.cancelTest k) s k.pc s []
  | cancel {s} (k : AfterCancel) : Moves (.cancelSet k) s k.pc s.setFlushed []
  | release {s c ds} : Moves (.release c ds) s .idle s [.abortReturned c ds]
  | quit {s} : Moves .quitTest s .quitRun (if s.isSpeaking then { s with flushed := true } else s) []
  | other {pc s pc' s' log} (free : pc.holds = false) (free' : pc'.holds = false) (view : s.SameView s')
    (log_quiet : ∀ r ∈ log, r.isQuiet = true) : Moves pc s pc' s' log

/-- **Every step of a caller is one of the moves.** -/
theorem CallPc.run_moves {pc : CallPc} {s : TTSSpeaker} {mv : Move CallPc} (hr : pc.run s = some mv) :
    pc.Moves s mv.pc mv.speaker mv.log := by
  have hnil : ∀ r ∈ ([] : List Record), r.isQuiet = true := fun r h => nomatch h
  cases pc with
  | idle => cases hr
  | flush d =>
    obtain rfl := Option.some.inj hr
    exact .flush d
  | queue d =>
    obtain rfl := Option.some.inj hr
    exact .queue d
  | erase c =>
    obtain rfl := Option.some.inj hr
    exact .erase c
  | release c ds =>
    obtain rfl := Option.some.inj hr
    exact .release
  | cancelSet k =>
    obtain rfl := Option.some.inj hr
    exact .cancel k
  | quitTest =>
    obtain rfl := Option.some.inj hr
    exact .quit
  | clearTest c ds =>
    simp only [run, run.go] at hr
    obtain rfl := Option.some.inj hr
    by_cases hc : s.isSpeakingClient c = true
    · rw [if_pos hc]
      exact .found
    · rw [if_neg hc]
      exact .notFound (by simpa [TTSSpeaker.isSpeakingClient] using hc)
  | cancelTest k =>
    simp only [run, run.go] at hr
    obtain rfl := Option.some.inj hr
    by_cases hs : s.isSpeaking = true
    · rw [if_pos hs]
      exact .speaking k
    · rw [if_neg hs]
      exact .silent k (by simpa using hs)
  | sessionTest c act =>
    obtain rfl := Option.some.inj hr
    refine .other rfl ?_ (.refl s) hnil
    split
    · cases act <;> rfl
    · rfl
  | pauseTest | resumeTest =>
    obtain rfl := Option.some.inj hr
    refine .other rfl ?_ (.refl s) hnil
    split <;> rfl
  | pauseSet =>
    obtain rfl := Option.some.inj hr
    refine .other rfl rfl ?_ hnil
    simp only [TTSSpeaker.pausePipeline]
    split <;> exact ⟨rfl, rfl, rfl, rfl, rfl⟩
  | resumeSet =>
    obtain rfl := Option.some.inj hr
    refine .other rfl rfl ?_ hnil
    simp only [TTSSpeaker.resumePipeline]
    split <;> exact ⟨rfl, rfl, rfl, rfl, rfl⟩
  | ensure | quitRun =>
    obtain rfl := Option.some.inj hr
    exact .other rfl rfl ⟨rfl, rfl, rfl, rfl, rfl⟩ hnil
  | stateQueue =>
    obtain rfl := Option.some.inj hr
    refine .other rfl rfl (.refl s) fun r hm => ?_
    rw [List.mem_singleton.mp hm]
    rfl
  | stateCurrent =>
    simp only [run, run.go] at hr
    split at hr
    · obtain rfl := Option.some.inj hr
      refine .other rfl rfl (.refl s) fun r hm => ?_
      rw [List.mem_singleton.mp hm]
      rfl
    · obtain rfl := Option.some.inj hr
      exact .other rfl rfl (.refl s) hnil

namespace SpeakerSystem

inductive Happens (st : SpeakerSystem) : Label → SpeakerSystem → Prop
  | fault {a} (f : Fault) : Happens st a { st with fault := some f }
  | thread {choice pc s log} (unlocked : (st.pc.locks && st.queueMutex.isSome) = false)
    (moves : st.pc.Moves st.speaker pc s log) :
    Happens st (.thread choice) { st with pc := pc, speaker := s, log := st.log ++ log }
  | call {i} (c : SpeakerCall) (idle : st.callers i = .idle) :
    Happens st (.call i c) { st with callers := st.setCaller i c.pc }
  | caller {i} {mv : Move CallPc} (unlocked : ((st.callers i).locks && st.queueMutex.isSome) = false)
    (run : (st.callers i).run st.speaker = some mv) :
    Happens st (.caller i)
      { st with
        callers := st.setCaller i mv.pc
        speaker := mv.speaker
        queueMutex := if mv.pc.holds then some i else if (st.callers i).holds then none else st.queueMutex
        log := st.log ++ mv.log }
  | bus {a s log} (view : st.speaker.SameView s) (log_quiet : ∀ r ∈ log, r.isQuiet = true) :
    Happens st a { st with speaker := s, log := st.log ++ log }

theorem step_happens {st st' : SpeakerSystem} {a : Label} (hs : machine.step st a = some st') : st.Happens a st' := by
  cases step_ran hs with
  | popEmpty | nullSpeech => exact .fault _
  | thread unlocked run => exact .thread unlocked (ThreadPc.run_moves run)
  | call c idle => exact .call c idle
  | caller unlocked run => exact .caller unlocked run
  | post =>
    rw [← List.append_nil st.log]
    exact .bus ⟨rfl, rfl, rfl, rfl, rfl⟩ fun r hr => nomatch hr
  | deliver _ handled =>
    obtain ⟨⟨_, _, _, _, rfl⟩, hq⟩ := handleMessage_frame handled
    refine .bus ⟨rfl, rfl, rfl, rfl, rfl⟩ fun r hr => ?_
    obtain ⟨x, hx, rfl⟩ := List.mem_map.mp hr
    exact hq x hx

end SpeakerSystem

end TTS
