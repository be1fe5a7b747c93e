import TTS.AudioWait

/-!
# Spoken to the end

What befalls a speech between its start in `speakText` and its terminal
callback. The wait for the audio may be left with neither the end of the stream
nor an interruption heard of; nothing tells this case from a speech played out
when the callback is chosen.
-/

namespace TTS

open Transition

inductive PlayEvent
  | started (d : SpeechData)
  | eos
  | flushed
  | error
  /-- The pipeline was destroyed. -/
  | lost
  | ended (d : SpeechData) (k : Terminal)
  deriving DecidableEq, Repr

def ThreadPc.playEvents (s : TTSSpeaker) : ThreadPc → List PlayEvent
  | .speakEnter d => [.started d]
  | .updateDestroy | .resetDestroy _ | .exitDestroy => if s.pipeline then [.lost] else []
  | .failedReport d => [.ended d .playbackerror]
  | .report d k => [.ended d k]
  | _ => []

def CallPc.playEvents (s : TTSSpeaker) : CallPc → List PlayEvent
  | .cancelSet _ => [.flushed]
  | .quitTest => if s.isSpeaking then [.flushed] else []
  | _ => []

def GstMessage.playEvents : GstMessage → List PlayEvent
  | .eos => [.eos]
  | .error _ => [.error]
  | .stateChanged _ _ => []

def SpeakerSystem.playEvents (st : SpeakerSystem) : SpeakerSystem.Label → List PlayEvent
  | .thread _ => st.pc.playEvents st.speaker
  | .caller i => (st.callers i).playEvents st.speaker
  | .deliver => st.speaker.bus.head?.elim [] GstMessage.playEvents
  | .call _ _ | .post _ => []

/-- Since the speech was started there were ends of the stream, at least one, and nothing else. -/
def PlayedOut (d : SpeechData) : List PlayEvent → Prop :=
  Since (.started d) fun since => .eos ∈ since ∧ ∀ e ∈ since, e = .eos

def SpokenTruly (pre : List PlayEvent) (e : PlayEvent) : Prop := ∀ d, e = .ended d .spoke → PlayedOut d pre

/-- The events a stage can bear without its callback turning out wrong: past
its tests the thread looks at no flag again. -/
def Stage.bears (e : PlayEvent) : Stage → Bool
  | .unflushed _ => e != .flushed
  | .ending _ .spoke => e != .flushed && e != .error
  | _ => true

namespace TimedSystem

def playEvents (st : TimedSystem) : Label → List PlayEvent
  | .system a => st.system.playEvents a
  | _ => []

def played : Machine (Recorded TimedSystem PlayEvent) Label := machine.recorded playEvents

/-- The loop is left at its head, the deadline passed, with neither the end of
the stream nor an interruption heard of. -/
def givesUp (st : TimedSystem) : Label → Bool
  | .audio _ => !st.wait.waiting && decide (st.wait.timeout ≤ st.now) && !ThreadPc.audioOver st.system.speaker
  | _ => false

/-- No wait gives up, and no cancellation or error comes when the tests for it are past. -/
def WaitsForEnd (st : TimedSystem) (a : Label) : Prop :=
  st.givesUp a = false ∧ ∀ e ∈ st.playEvents a, st.system.pc.stage.bears e = true

instance (st : TimedSystem) (a : Label) : Decidable (st.WaitsForEnd a) :=
  inferInstanceAs (Decidable (_ ∧ _))

end TimedSystem

/-! ## What is known of a speech that plays -/

def Marked (s : TTSSpeaker) (since : List PlayEvent) : Prop :=
  ∀ e ∈ since, e = .eos ∨ e = .flushed ∧ s.flushed = true ∨ e = .error ∧ s.pipelineError = true

def TTSSpeaker.Broken (s : TTSSpeaker) : Prop := s.pipeline = false ∨ s.pipelineError = true

namespace ThreadPc

def Plays (s : TTSSpeaker) (h : List PlayEvent) : ThreadPc → Prop
  | .speakGuard d | .speakPlay d | .waitAudio d =>
    Since (.started d) (fun since => Marked s since ∧ (s.isEOS = true → .eos ∈ since)) h
  | .audioStop d | .audioEnd d | .speakLeave d =>
    Since (.started d) (fun since => Marked s since ∧ (.eos ∈ since ∨ s.Broken ∨ s.flushed = true)) h
  | .choose d =>
    s.flushed = true ∨ Since (.started d) (fun since => Marked s since ∧ (.eos ∈ since ∨ s.Broken)) h
  | .chooseNetwork d | .choosePlayback d =>
    Since (.started d) (fun since => Marked s since ∧ .flushed ∉ since ∧ (.eos ∈ since ∨ s.Broken)) h
  | .report d .spoke => PlayedOut d h
  | _ => True

variable {s s' : TTSSpeaker} {h : List PlayEvent}

theorem plays_of_free {pc : ThreadPc} (hf : pc.stage = .free) : pc.Plays s h := by
  cases pc <;> trivial

/-- A step of the thread, the wait for the audio apart. -/
theorem run_keeps_plays {pc : ThreadPc} (hp : pc.Plays s h) (hw : ∀ d, pc ≠ .waitAudio d) {choice : Bool}
    {mv : Move ThreadPc} (hr : pc.run choice s = some (.ok mv)) :
    mv.pc.Plays mv.speaker (h ++ pc.playEvents s) := by
  have hnil : h ++ [] = h := List.append_nil h
  by_cases hf : pc.stage = .free
  · rcases run_of_free hf hr with ⟨hst, -⟩ | ⟨d, rest, -, ⟨rfl, rfl⟩ | ⟨rfl, rfl⟩⟩
    · exact plays_of_free hst
    · trivial
    · trivial
  cases pc with
  | speakTest d =>
    obtain rfl := Except.ok.inj (Option.some.inj hr)
    by_cases hf : s.flushed = true
    · simp only [hf]
      exact .inl hf
    · simp only [hf]
      trivial
  | speakEnter d =>
    obtain rfl := Except.ok.inj (Option.some.inj hr)
    exact since_snoc ⟨fun e he => (nomatch he), fun he => nomatch he⟩
  | speakGuard d =>
    simp only [run, run.go] at hr
    split at hr
    · obtain rfl := Except.ok.inj (Option.some.inj hr)
      exact hnil.symm ▸ hp
    · rename_i hguard
      obtain rfl := Except.ok.inj (Option.some.inj hr)
      have hover : s.Broken ∨ s.flushed = true := by
        simp only [Bool.and_eq_true, Bool.not_eq_true', not_and, Bool.not_eq_false] at hguard
        unfold TTSSpeaker.Broken
        cases hpl : s.pipeline with
        | false => exact .inl (.inl rfl)
        | true =>
          cases he : s.pipelineError with
          | true => exact .inl (.inr rfl)
          | false => exact .inr (hguard ⟨hpl, he⟩)
      exact hnil.symm ▸ Since.mono hp fun since hs => ⟨hs.1, .inr hover⟩
  | speakPlay d =>
    obtain rfl := Except.ok.inj (Option.some.inj hr)
    exact hnil.symm ▸ hp
  | waitAudio d => exact absurd rfl (hw d)
  | audioStop d =>
    obtain rfl := Except.ok.inj (Option.some.inj hr)
    refine hnil.symm ▸ ?_
    simp only
    split <;> exact hp
  | audioEnd d =>
    obtain rfl := Except.ok.inj (Option.some.inj hr)
    exact hnil.symm ▸ hp
  | speakLeave d =>
    obtain rfl := Except.ok.inj (Option.some.inj hr)
    by_cases hf : s.flushed = true
    · exact .inl hf
    · exact .inr (hnil.symm ▸ Since.mono hp fun since hs => ⟨hs.1, hs.2.imp_right fun ho => ho.resolve_right hf⟩)
  | choose d =>
    simp only [run, run.go, run.say] at hr
    split at hr
    · obtain rfl := Except.ok.inj (Option.some.inj hr)
      trivial
    · rename_i hf
      obtain rfl := Except.ok.inj (Option.some.inj hr)
      refine hnil.symm ▸ Since.mono (hp.resolve_left hf) fun since hs => ⟨hs.1, fun hm => ?_, hs.2⟩
      rcases hs.1 _ hm with he | ⟨-, hflag⟩ | ⟨he, -⟩
      · cases he
      · exact hf hflag
      · cases he
  | chooseNetwork d =>
    simp only [run, run.go, run.say] at hr
    split at hr
    · obtain rfl := Except.ok.inj (Option.some.inj hr)
      trivial
    · obtain rfl := Except.ok.inj (Option.some.inj hr)
      exact hnil.symm ▸ hp
  | choosePlayback d =>
    obtain rfl := Except.ok.inj (Option.some.inj hr)
    by_cases hb : (!s.pipeline || s.pipelineError) = true
    · simp only [hb]
      trivial
    · simp only [hb]
      have hwhole : ¬s.Broken := by
        simpa [TTSSpeaker.Broken] using hb
      refine hnil.symm ▸ Since.mono hp fun since hs => ⟨hs.2.2.resolve_right hwhole, fun e he => ?_⟩
      rcases hs.1 e he with he' | ⟨rfl, -⟩ | ⟨-, hflag⟩
      · exact he'
      · exact absurd he hs.2.1
      · exact absurd (Or.inr hflag) hwhole
  | report d k | willSpeak d | setSpeaking d | failedReport d | clearSpeaking =>
    obtain rfl := Except.ok.inj (Option.some.inj hr)
    trivial
  | _ => exact absurd rfl hf

theorem playEvents_spokenTruly {pc : ThreadPc} (hp : pc.Plays s h) (ht : Each SpokenTruly h) :
    Each SpokenTruly (h ++ pc.playEvents s) := by
  have hquiet : ∀ {es : List PlayEvent}, (∀ d k, .ended d k ∉ es) → Each SpokenTruly (h ++ es) := by
    intro es hes
    refine ht.append fun pre e he d hd => ?_
    subst hd
    exact absurd he (hes d _)
  cases pc with
  | report d k =>
    refine ht.snoc fun d' hd => ?_
    obtain ⟨rfl, rfl⟩ := PlayEvent.ended.inj hd
    exact hp
  | failedReport d => exact ht.snoc fun d' hd => nomatch hd
  | updateDestroy | resetDestroy k | exitDestroy =>
    refine hquiet fun d k hm => ?_
    simp only [playEvents] at hm
    split at hm
    · exact nomatch List.mem_singleton.mp hm
    · cases hm
  | speakEnter d => exact hquiet fun d k hm => nomatch List.mem_singleton.mp hm
  | _ => exact hquiet fun d k hm => nomatch hm

end ThreadPc

/-! ## What the others do -/

structure Outside (s s' : TTSSpeaker) (es : List PlayEvent) : Prop where
  pipeline : s'.pipeline = s.pipeline
  pipelineError : s.pipelineError = true → s'.pipelineError = true
  flushed : s.flushed = true → s'.flushed = true
  isEOS : s'.isEOS = true → s.isEOS = true ∨ .eos ∈ es
  marked : Marked s' es

namespace Outside

variable {s s' : TTSSpeaker} {h es : List PlayEvent}

theorem same (hp : s'.pipeline = s.pipeline) (he : s'.pipelineError = s.pipelineError) (hf : s'.flushed = s.flushed)
    (hi : s'.isEOS = s.isEOS) : Outside s s' [] :=
  ⟨hp, fun h => he.trans h, fun h => hf.trans h, fun h => .inl (hi.symm.trans h), fun _ he => nomatch he⟩

theorem broken (ho : Outside s s' es) (hb : s.Broken) : s'.Broken :=
  hb.imp (fun hp => ho.pipeline.trans hp) ho.pipelineError

theorem marked_append (ho : Outside s s' es) {since : List PlayEvent} (hm : Marked s since) :
    Marked s' (since ++ es) := by
  intro e he
  rcases List.mem_append.mp he with he | he
  · rcases hm e he with he | ⟨he, hf⟩ | ⟨he, hp⟩
    · exact .inl he
    · exact .inr (.inl ⟨he, ho.flushed hf⟩)
    · exact .inr (.inr ⟨he, ho.pipelineError hp⟩)
  · exact ho.marked e he

theorem plays (ho : Outside s s' es) {pc : ThreadPc} (hp : pc.Plays s h) (hb : ∀ e ∈ es, pc.stage.bears e = true) :
    pc.Plays s' (h ++ es) := by
  have hleft : ∀ {since : List PlayEvent}, .eos ∈ since → .eos ∈ since ++ es := fun he => List.mem_append_left _ he
  cases pc with
  | speakGuard d | speakPlay d | waitAudio d =>
    refine Since.append hp fun since hs => ⟨ho.marked_append hs.1, fun he => ?_⟩
    rcases ho.isEOS he with he | he
    · exact hleft (hs.2 he)
    · exact List.mem_append_right _ he
  | audioStop d | audioEnd d | speakLeave d =>
    exact Since.append hp fun since hs => ⟨ho.marked_append hs.1, hs.2.imp hleft (Or.imp ho.broken ho.flushed)⟩
  | choose d =>
    refine hp.imp ho.flushed fun hp => ?_
    exact Since.append hp fun since hs => ⟨ho.marked_append hs.1, hs.2.imp hleft ho.broken⟩
  | chooseNetwork d | choosePlayback d =>
    have hflush : .flushed ∉ es := fun hm => absurd (hb _ hm) (fun e => nomatch e)
    refine Since.append hp fun since hs => ⟨ho.marked_append hs.1, fun hm => ?_, hs.2.2.imp hleft ho.broken⟩
    exact (List.mem_append.mp hm).elim hs.2.1 hflush
  | report d k =>
    cases k with
    | spoke =>
      refine Since.append hp fun since hs => ⟨hleft hs.1, fun e he => ?_⟩
      rcases List.mem_append.mp he with hm | hm
      · exact hs.2 e hm
      · rcases ho.marked e hm with rfl | ⟨rfl, -⟩ | ⟨rfl, -⟩
        · rfl
        · exact absurd (hb _ hm) (fun e => nomatch e)
        · exact absurd (hb _ hm) (fun e => nomatch e)
    | _ => trivial
  | _ => trivial

end Outside

theorem CallPc.run_outside {pc : CallPc} {s : TTSSpeaker} {mv : Move CallPc} (hr : pc.run s = some mv) :
    Outside s mv.speaker (pc.playEvents s) := by
  cases pc with
  | idle => cases hr
  | cancelSet k =>
    obtain rfl := Option.some.inj hr
    refine ⟨rfl, id, fun _ => rfl, .inl, fun e he => ?_⟩
    exact .inr (.inl ⟨List.mem_singleton.mp he, rfl⟩)
  | quitTest =>
    obtain rfl := Option.some.inj hr
    simp only [playEvents]
    split
    · refine ⟨rfl, id, fun _ => rfl, .inl, fun e he => ?_⟩
      exact .inr (.inl ⟨List.mem_singleton.mp he, rfl⟩)
    · exact .same rfl rfl rfl rfl
  | stateCurrent client id =>
    simp only [run, run.go] at hr
    split at hr <;> (obtain rfl := Option.some.inj hr; exact .same rfl rfl rfl rfl)
  | pauseSet =>
    obtain rfl := Option.some.inj hr
    simp only [TTSSpeaker.pausePipeline]
    split <;> exact .same rfl rfl rfl rfl
  | resumeSet =>
    obtain rfl := Option.some.inj hr
    simp only [TTSSpeaker.resumePipeline]
    split <;> exact .same rfl rfl rfl rfl
  | _ =>
    obtain rfl := Option.some.inj hr
    exact .same rfl rfl rfl rfl

theorem handleMessage_stateChanged {s s' : TTSSpeaker} {old new : GstState} {cbs : List (Nat × Callback × SpeechData)}
    (hm : s.handleMessage (.stateChanged old new) = some (cbs, s')) : ∃ i, s' = { s with isPaused := i } := by
  have hsame : s = { s with isPaused := s.isPaused } := rfl
  unfold TTSSpeaker.handleMessage at hm
  split at hm
  · rename_i he
    cases he
  · rename_i he
    cases he
  · split at hm
    · obtain ⟨l, -, he⟩ := Option.map_eq_some_iff.mp hm
      cases he
      split
      · exact ⟨_, rfl⟩
      · exact ⟨_, hsame⟩
    · obtain ⟨l, -, he⟩ := Option.map_eq_some_iff.mp hm
      cases he
      exact ⟨_, hsame⟩
  · split at hm
    · obtain ⟨l, -, he⟩ := Option.map_eq_some_iff.mp hm
      cases he
      exact ⟨_, hsame⟩
    · cases hm
      exact ⟨_, hsame⟩
  · cases hm
    exact ⟨_, hsame⟩

theorem handleMessage_outside {s s' : TTSSpeaker} {message : GstMessage} {cbs : List (Nat × Callback × SpeechData)}
    (hm : s.handleMessage message = some (cbs, s')) : Outside s s' message.playEvents := by
  cases message with
  | error network =>
    cases hm
    exact ⟨rfl, fun _ => rfl, id, .inl, fun e he => .inr (.inr ⟨List.mem_singleton.mp he, rfl⟩)⟩
  | eos =>
    cases hm
    exact ⟨rfl, id, id, fun _ => .inr List.mem_cons_self, fun _ he => .inl (List.mem_singleton.mp he)⟩
  | stateChanged old new =>
    obtain ⟨i, rfl⟩ := handleMessage_stateChanged hm
    exact .same rfl rfl rfl rfl

/-! ## Runs -/

namespace TimedSystem

structure Truthful (r : Recorded TimedSystem PlayEvent) : Prop where
  plays : r.state.system.pc.Plays r.state.system.speaker r.history
  told : Each SpokenTruly r.history

theorem told_of_quiet {h es : List PlayEvent} (ht : Each SpokenTruly h) {s : TTSSpeaker} (hes : Marked s es) :
    Each SpokenTruly (h ++ es) := by
  refine ht.append fun pre e he d hd => ?_
  subst hd
  rcases hes _ he with he | ⟨he, -⟩ | ⟨he, -⟩ <;> cases he

theorem system_truthful {st st' : SpeakerSystem} {b : SpeakerSystem.Label} {h : List PlayEvent}
    (hp : st.pc.Plays st.speaker h) (ht : Each SpokenTruly h) (hw : ∀ choice d, b = .thread choice → st.pc ≠ .waitAudio d)
    (hb : ∀ e ∈ st.playEvents b, st.pc.stage.bears e = true) (hs : SpeakerSystem.machine.step st b = some st') :
    st'.pc.Plays st'.speaker (h ++ st.playEvents b) ∧ Each SpokenTruly (h ++ st.playEvents b) := by
  have houtside : ∀ {s : TTSSpeaker} {es : List PlayEvent}, Outside st.speaker s es →
      (∀ e ∈ es, st.pc.stage.bears e = true) → st.pc.Plays s (h ++ es) ∧ Each SpokenTruly (h ++ es) :=
    fun ho hb => ⟨ho.plays hp hb, told_of_quiet ht ho.marked⟩
  cases SpeakerSystem.step_ran hs with
  | popEmpty pc =>
    refine ⟨?_, ThreadPc.playEvents_spokenTruly hp ht⟩
    rcases pc with hpc | hpc <;> (rw [hpc]; trivial)
  | thread _ run => exact ⟨ThreadPc.run_keeps_plays hp (fun d => hw _ d rfl) run, ThreadPc.playEvents_spokenTruly hp ht⟩
  | call => exact houtside (.same rfl rfl rfl rfl) fun e he => nomatch he
  | caller _ run => exact houtside (CallPc.run_outside run) hb
  | post => exact houtside (.same rfl rfl rfl rfl) fun e he => nomatch he
  | @nullSpeech message rest bus handled =>
    have hes : st.playEvents .deliver = [] := by
      simp only [SpeakerSystem.playEvents, bus]
      cases message with
      | stateChanged old new => rfl
      | error network | eos => cases handled
    rw [hes]
    exact houtside (.same rfl rfl rfl rfl) fun e he => nomatch he
  | @deliver message rest cbs s bus handled =>
    have hes : st.playEvents .deliver = message.playEvents := by
      simp only [SpeakerSystem.playEvents, bus]
      rfl
    rw [hes] at hb ⊢
    have ho := handleMessage_outside handled
    exact houtside ⟨ho.pipeline, ho.pipelineError, ho.flushed, ho.isEOS, ho.marked⟩ hb

theorem leave_plays {st : TimedSystem} {h : List PlayEvent} {d : SpeechData} (hpc : st.system.pc = .waitAudio d)
    (hp : st.system.pc.Plays st.system.speaker h) (hover : ThreadPc.audioOver st.system.speaker = true) :
    (st.leave d).system.pc.Plays (st.leave d).system.speaker h := by
  rw [hpc] at hp
  refine Since.mono hp fun since hs => ⟨hs.1, ?_⟩
  simp only [ThreadPc.audioOver, Bool.or_eq_true, Bool.not_eq_true'] at hover
  rcases hover with ((hpipe | herr) | hflush) | heos
  · exact .inr (.inl (.inl hpipe))
  · exact .inr (.inl (.inr herr))
  · exact .inr (.inr hflush)
  · exact .inl (hs.2 heos)

theorem step_truthful {r r' : Recorded TimedSystem PlayEvent} {a : Label} (h : Truthful r)
    (ho : r.state.WaitsForEnd a) (hs : played.step r a = some r') : Truthful r' := by
  obtain ⟨hstep, hhist⟩ := Machine.recorded_step hs
  have hquiet : (∀ b, a ≠ .system b) → r.state.playEvents a = [] := by
    intro ha
    cases a with
    | system b => exact absurd rfl (ha b)
    | _ => rfl
  rcases step_system hstep with ⟨b, rfl, hb, hw⟩ | ⟨hsame, ha⟩ | ⟨position, d, rfl, hpc, hleave, hout⟩
  · have hnew := system_truthful h.plays h.told hw ho.2 hb
    refine ⟨?_, ?_⟩
    · rw [hhist]
      exact hnew.1
    · rw [hhist]
      exact hnew.2
  · rw [hquiet ha, List.append_nil] at hhist
    refine ⟨?_, ?_⟩
    · rw [hhist, hsame]
      exact h.plays
    · rw [hhist]
      exact h.told
  · have hover : ThreadPc.audioOver r.state.system.speaker = true := by
      rcases hout with hover | ⟨hwait, hlate⟩
      · exact hover
      · simpa [givesUp, hwait, hlate] using ho.1
    have hes : r.state.playEvents (.audio position) = [] := rfl
    rw [hes, List.append_nil] at hhist
    refine ⟨?_, ?_⟩
    · rw [hhist, hleave]
      exact leave_plays hpc h.plays hover
    · rw [hhist]
      exact h.told

/-- **Spoken to the end.** In every run whose waits do not give up, and in which
nothing befalls a speech past the tests for it, `spoke` is reported only of
speeches whose stream came to its end undisturbed. -/
theorem spoke_means_played {r : Recorded TimedSystem PlayEvent}
    (h : played.ReachableIf (fun r a => r.state.WaitsForEnd a) r) : Each SpokenTruly r.history := by
  have hI : Truthful r := by
    refine Machine.ReachableIf.invariant (I := Truthful) ?_ (fun _ _ _ hI ho hs => step_truthful hI ho hs) h
    rintro ⟨_, _⟩ ⟨⟨maxFailures, now, rfl⟩, rfl⟩
    exact ⟨trivial, each_nil⟩
  exact hI.told

/-- The wait times out once and goes on, since the position has moved; then the stream ends. -/
theorem spoke_means_played_renewed :
    ∃ r : Recorded TimedSystem PlayEvent,
      r.history = [.started ⟨7, false, 1, "hi".toList, 0⟩, .eos, .ended ⟨7, false, 1, "hi".toList, 0⟩ .spoke] ∧
        Each SpokenTruly r.history := by
  have h0 : played.ReachableIf (fun r a => r.state.WaitsForEnd a) ⟨start 1 0, []⟩ := .init ⟨⟨1, 0, rfl⟩, rfl⟩
  have h1 := h0.execIf (SpeakerSystem.toTheAudio.map .system ++ [.audio 0, .clock timeoutSpan, .audio 5, .audio 5,
    .system .deliver, .system .deliver, .system .deliver, .system (.post .eos), .system .deliver, .audio 5] ++
    List.replicate 7 (.system (.thread true))) rfl
  exact ⟨_, rfl, spoke_means_played h1⟩

/-- The deadline passes with nothing heard of the stream, and `spoke` is reported. -/
theorem spoke_without_end : ∃ r, played.Reachable r ∧ ¬Each SpokenTruly r.history := by
  refine ⟨_, Machine.reachable_of_exec (s := ⟨start 1 0, []⟩) ⟨⟨1, 0, rfl⟩, rfl⟩
    (SpeakerSystem.toTheAudio.map .system ++ [.audio 0, .clock timeoutSpan, .audio 0, .audio 0] ++
      List.replicate 7 (.system (.thread true))) rfl, fun h => ?_⟩
  obtain ⟨before, since, he, hmem, -⟩ := h [.started ⟨7, false, 1, "hi".toList, 0⟩] _ [] rfl _ rfl
  have hin : PlayEvent.eos ∈ [PlayEvent.started ⟨7, false, 1, "hi".toList, 0⟩] := by
    rw [he]
    exact List.mem_append_right _ (List.mem_cons_of_mem _ hmem)
  exact nomatch List.mem_singleton.mp hin

end TimedSystem

end TTS
