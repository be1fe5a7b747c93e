import TTS.Abort

/-!
# Calls of one session and speeches of another

`shut`, `pause` and `resume` ask whether their session is speaking and then
act on whatever is spoken by then; `abortAndClearPending` keeps
`m_queueMutex` from the one to the other. A speech counts as spoken from the
moment it is dequeued, which clears `m_flushed` for it. In runs where the thread
takes and announces no speech of another session in between, no call touches
another session's speech.
-/

namespace TTS

open Transition

/-- The session of the calls `shut`, `pause`, `resume` and `abortAndClearPending`. -/
def SpeakerCall.actsFor : SpeakerCall → Option Nat
  | .session client _ | .clearAllSpeechesFrom client => some client
  | _ => none

/-- The speaker with its callers, and for which session each of them acts. -/
structure SessionCalls where
  system : SpeakerSystem
  acting : Nat → Option Nat

namespace SessionCalls

def actingAfter (st : SessionCalls) : SpeakerSystem.Label → Nat → Option Nat
  | .call i call => fun j => if j = i then call.actsFor else st.acting j
  | _ => st.acting

def machine : Machine SessionCalls SpeakerSystem.Label where
  init st := ∃ maxFailures, st = ⟨.new maxFailures, fun _ => none⟩
  step st a := (SpeakerSystem.machine.step st.system a).map fun system => ⟨system, st.actingAfter a⟩

end SessionCalls

/-- The client whose speech is spoken, from the moment it is dequeued. -/
def Stage.serving (speaking : Option Nat) : Stage → Option Nat
  | .taken d => some d.client
  | _ => speaking

/-- What a step of a call of `c` leaves alone, the thread being at `stage`. -/
structure Undisturbed (c : Nat) (stage : Stage) (pc : CallPc) (s s' : TTSSpeaker) : Prop where
  queue : ∀ d ∈ s.queue, d.client ≠ c → d ∈ s'.queue
  flushed : ∀ e, stage.serving s.clientSpeaking = some e → e ≠ c → ∀ k, pc ≠ .cancelSet k
  pipeline : ∀ e, stage.serving s.clientSpeaking = some e → e ≠ c →
    s'.gstState = s.gstState ∧ s'.bus = s.bus ∧ s'.isPaused = s.isPaused

/-- Past its questions, about to set `m_flushed` or the pipeline's state. -/
def CallPc.Acts : CallPc → Prop
  | .cancelSet .done | .pauseSet | .resumeSet => True
  | _ => False

/-- Has passed the question whether its session is speaking, and has one left that `d` would pass. -/
def CallPc.StillAsks (d : SpeechData) : CallPc → Prop
  | .cancelTest .done => True
  | .pauseTest id | .resumeTest id => id = 0 ∨ id = d.id
  | _ => False

/-- The thread dequeues no speech while a call of another session is about to act, and announces none that such a call
would still act on. -/
structure SessionCalls.Apart (st : SessionCalls) (a : SpeakerSystem.Label) : Prop where
  dequeue : ∀ choice d rest, a = .thread choice → st.system.pc = .dequeue → st.system.speaker.queue = d :: rest →
    ∀ i c, st.acting i = some c → (st.system.callers i).Acts → c = d.client
  announce : ∀ choice d, a = .thread choice → st.system.pc = .setSpeaking d →
    ∀ i c, st.acting i = some c → (st.system.callers i).StillAsks d → c = d.client

/-! ## What the thread shows -/

def ThreadPc.playing : ThreadPc → Option SpeechData
  | .speakPlay d | .waitAudio d | .audioStop d | .audioEnd d | .speakLeave d => some d
  | _ => none

theorem ThreadPc.stage_of_playing {pc : ThreadPc} {d : SpeechData} (h : pc.playing = some d) : pc.stage = .spoken d := by
  cases pc <;> first | (obtain rfl := Option.some.inj h; rfl) | cases h

theorem ThreadPc.playing_of_free {pc : ThreadPc} (h : pc.stage = .free) : pc.playing = none := by
  cases pc <;> first | rfl | cases h

theorem ThreadPc.run_plays {pc : ThreadPc} {s : TTSSpeaker} {choice : Bool} {mv : Move ThreadPc}
    (h : ∀ d, s.currentSpeech = some d → pc.playing = some d) (hr : pc.run choice s = some (.ok mv)) :
    ∀ d, mv.speaker.currentSpeech = some d → mv.pc.playing = some d := by
  have keep : mv.speaker.currentSpeech = s.currentSpeech → pc.playing = none ∨ mv.pc.playing = pc.playing →
      ∀ d, mv.speaker.currentSpeech = some d → mv.pc.playing = some d := by
    intro hc hp d hd
    rw [hc] at hd
    rcases hp with hp | hp
    · rw [h d hd] at hp
      cases hp
    · rw [hp]
      exact h d hd
  by_cases hf : pc.stage = .free
  · have hnone : pc.playing = none := playing_of_free hf
    rcases run_of_free hf hr with ⟨-, -, -, hcur⟩ | ⟨d, rest, -, ⟨rfl, rfl⟩ | ⟨rfl, rfl⟩⟩
    · exact keep hcur (.inl hnone)
    · exact keep rfl (.inl rfl)
    · exact keep rfl (.inl rfl)
  cases pc with
  | speakGuard d =>
    simp only [run, run.go] at hr
    split at hr
    · obtain rfl := Except.ok.inj (Option.some.inj hr)
      exact fun d' hd' => hd'
    · obtain rfl := Except.ok.inj (Option.some.inj hr)
      exact keep rfl (.inl rfl)
  | speakPlay d | audioEnd d =>
    obtain rfl := Except.ok.inj (Option.some.inj hr)
    exact keep rfl (.inr rfl)
  | audioStop d =>
    obtain rfl := Except.ok.inj (Option.some.inj hr)
    refine keep ?_ (.inr rfl)
    simp only
    split <;> rfl
  | waitAudio d =>
    simp only [run, run.go] at hr
    split at hr
    · obtain rfl := Except.ok.inj (Option.some.inj hr)
      exact keep rfl (.inr rfl)
    · cases hr
  | speakLeave d =>
    obtain rfl := Except.ok.inj (Option.some.inj hr)
    intro d' hd'
    cases hd'
  | choose d | chooseNetwork d =>
    simp only [run, run.go, run.say] at hr
    split at hr <;> (obtain rfl := Except.ok.inj (Option.some.inj hr); exact keep rfl (.inl rfl))
  | setSpeaking | willSpeak | speakTest | speakEnter | choosePlayback | failedReport | report | clearSpeaking =>
    simp only [run, run.go, run.say] at hr
    obtain rfl := Except.ok.inj (Option.some.inj hr)
    exact keep rfl (.inl rfl)
  | _ => exact absurd rfl hf

theorem CallPc.run_currentSpeech {pc : CallPc} {s : TTSSpeaker} {mv : Move CallPc} (hr : pc.run s = some mv) :
    mv.speaker.currentSpeech = s.currentSpeech := by
  cases pc with
  | idle => cases hr
  | stateCurrent client id =>
    simp only [run, run.go] at hr
    split at hr <;> (obtain rfl := Option.some.inj hr; rfl)
  | pauseSet =>
    obtain rfl := Option.some.inj hr
    simp only [TTSSpeaker.pausePipeline]
    split <;> rfl
  | resumeSet =>
    obtain rfl := Option.some.inj hr
    simp only [TTSSpeaker.resumePipeline]
    split <;> rfl
  | quitTest =>
    obtain rfl := Option.some.inj hr
    simp only
    split <;> rfl
  | sessionTest | cancelTest | cancelSet | flush | queue | erase | clearTest | release | pauseTest | resumeTest
  | ensure | stateQueue | quitRun =>
    obtain rfl := Option.some.inj hr
    rfl

def Stage.silent : Stage → Bool
  | .free | .taken _ | .failed _ => true
  | _ => false

namespace SpeakerSystem

def ShowsNobody (st : SpeakerSystem) : Prop :=
  st.pc.stage.silent = true → st.speaker.isSpeaking = false ∧ st.speaker.clientSpeaking = none

def PlaysCurrent (st : SpeakerSystem) : Prop := ∀ d, st.speaker.currentSpeech = some d → st.pc.playing = some d

theorem step_showsNobody {st st' : SpeakerSystem} {a : Label} (h : st.ShowsNobody) (hs : machine.step st a = some st') :
    st'.ShowsNobody := by
  cases step_happens hs with
  | fault | call => exact h
  | thread _ moves =>
    intro hd
    cases moves with
    | quiet stage view =>
      rw [view.isSpeaking, view.clientSpeaking]
      exact h (stage ▸ hd)
    | take stage => exact h (by rw [stage]; rfl)
    | fail stage => exact h (by rw [stage]; rfl)
    | failReport stage _ view =>
      rw [view.isSpeaking, view.clientSpeaking]
      exact h (by rw [stage]; rfl)
    | clear => exact ⟨rfl, rfl⟩
    | speak _ stage' | interrupt _ stage' | pass _ stage' | pick _ stage' | report _ stage' =>
      simp only at hd
      rw [stage'] at hd
      cases hd
  | caller _ run =>
    intro hd
    rw [(CallPc.run_moves run).keepsSpeaking.isSpeaking, (CallPc.run_moves run).keepsSpeaking.clientSpeaking]
    exact h hd
  | bus view =>
    intro hd
    rw [view.isSpeaking, view.clientSpeaking]
    exact h hd

theorem step_playsCurrent {st st' : SpeakerSystem} {a : Label} (h : st.PlaysCurrent)
    (hs : machine.step st a = some st') : st'.PlaysCurrent := by
  cases step_ran hs with
  | popEmpty | nullSpeech | call | post => exact h
  | thread _ run => exact ThreadPc.run_plays h run
  | caller _ run =>
    intro d hd
    exact h d ((CallPc.run_currentSpeech run).symm.trans hd)
  | deliver _ handled =>
    obtain ⟨⟨_, _, _, _, rfl⟩, -⟩ := handleMessage_frame handled
    exact h

structure Watched (st : SpeakerSystem) : Prop where
  spoken : st.ShowsSpoken
  nobody : st.ShowsNobody
  current : st.PlaysCurrent
  aborts : st.AbortHolds

theorem step_watched {st st' : SpeakerSystem} {a : Label} (h : st.Watched) (hs : machine.step st a = some st') :
    st'.Watched :=
  ⟨step_showsSpoken h.spoken hs, step_showsNobody h.nobody hs, step_playsCurrent h.current hs,
    step_abortHolds h.aborts hs⟩

theorem new_watched (maxFailures : Nat) : (new maxFailures).Watched := by
  refine ⟨?_, fun _ => ⟨rfl, rfl⟩, ?_, ?_, ?_⟩
  · intro d hd
    cases hd
  · intro d hd
    cases hd
  · intro i c hc
    cases hc
  · intro i c hc
    cases hc

end SpeakerSystem

/-! ## Calls past their question -/

def CallPc.Bound (stage : Stage) (speaking : Option Nat) (c : Nat) : CallPc → Prop
  | .idle => True
  | .sessionTest client _ | .erase client | .clearTest client _ | .release client _ => client = c
  | .cancelTest .done => ∀ e, speaking = some e → e = c
  | .cancelSet .done | .pauseSet | .resumeSet => ∀ e, stage.serving speaking = some e → e = c
  | .pauseTest id | .resumeTest id => ∀ d, stage = .spoken d → d.client = c ∨ id ≠ 0 ∧ id ≠ d.id
  -- `m_queueMutex` is held, so the thread takes no other speech
  | .cancelTest (.release client _) | .cancelSet (.release client _) => client = c ∧
    (∀ e, speaking = some e → e = c) ∧ ∀ d, stage ≠ .taken d
  | _ => False

theorem Stage.serving_of_not_taken {stage : Stage} (h : ∀ d, stage ≠ .taken d) (speaking : Option Nat) :
    stage.serving speaking = speaking := by
  cases stage with
  | taken d => exact absurd rfl (h d)
  | _ => rfl

namespace CallPc

variable {stage : Stage} {c : Nat}

theorem bound_pc {call : SpeakerCall} (h : call.actsFor = some c) (speaking : Option Nat) :
    call.pc.Bound stage speaking c := by
  cases call with
  | session client act => exact Option.some.inj h
  | clearAllSpeechesFrom client => exact Option.some.inj h
  | speak | reset | ensurePipeline | getSpeechState | destructor => cases h

theorem isSpeakingClient_iff (s : TTSSpeaker) (client : Nat) :
    s.isSpeakingClient client = true ↔ s.clientSpeaking = some client := by
  simp [TTSSpeaker.isSpeakingClient]

theorem isCurrent_speech {s : TTSSpeaker} {id : Nat} (h : s.isCurrent id = true) :
    ∃ d, s.currentSpeech = some d ∧ (id = 0 ∨ id = d.id) := by
  unfold TTSSpeaker.isCurrent at h
  split at h
  · cases h
  · rename_i d hd
    simp only [Bool.and_eq_true, Bool.or_eq_true, beq_iff_eq] at h
    exact ⟨d, hd, h.2⟩

end CallPc

namespace SpeakerSystem

theorem current_own {st : SpeakerSystem} (hw : st.Watched) {c id : Nat}
    (h : ∀ d, st.pc.stage = .spoken d → d.client = c ∨ id ≠ 0 ∧ id ≠ d.id) (hc : st.speaker.isCurrent id = true) :
    ∀ e, st.pc.stage.serving st.speaker.clientSpeaking = some e → e = c := by
  intro e he
  obtain ⟨d, hd, hid⟩ := CallPc.isCurrent_speech hc
  have hstage := ThreadPc.stage_of_playing (hw.current d hd)
  rw [hstage] at he
  have hclient := (hw.spoken d hstage).2
  change st.speaker.clientSpeaking = some e at he
  rw [he] at hclient
  rw [Option.some.inj hclient]
  rcases h d hstage with hd | ⟨h0, hne⟩
  · exact hd
  · exact absurd hid (not_or.mpr ⟨h0, hne⟩)

/-- While something is spoken the thread has no speech that is dequeued and not announced. -/
theorem Watched.not_taken {st : SpeakerSystem} (hw : st.Watched)
    (hs : st.speaker.isSpeaking = true ∨ ∃ c, st.speaker.clientSpeaking = some c) (d : SpeechData) :
    st.pc.stage ≠ .taken d := by
  intro hd
  obtain ⟨hspeaking, hclient⟩ := hw.nobody (by rw [hd]; rfl)
  rcases hs with hs | ⟨c, hc⟩
  · rw [hspeaking] at hs
    cases hs
  · rw [hclient] at hc
    cases hc

theorem own_bound {st : SpeakerSystem} (hw : st.Watched) {c : Nat} {pc : CallPc} {mv : Move CallPc}
    (h : pc.Bound st.pc.stage st.speaker.clientSpeaking c) (hr : pc.run st.speaker = some mv) :
    mv.pc.Bound st.pc.stage st.speaker.clientSpeaking c := by
  cases pc with
  | idle => cases hr
  | sessionTest client act =>
    obtain rfl : client = c := h
    obtain rfl := Option.some.inj hr
    simp only
    split
    · rename_i hs
      rw [CallPc.isSpeakingClient_iff] at hs
      have hown : ∀ e, st.speaker.clientSpeaking = some e → e = client := by
        intro e he
        exact Option.some.inj (he.symm.trans hs)
      cases act with
      | shut => exact hown
      | pause id | resume id => exact fun d hd => .inl (hown d.client (hw.spoken d hd).2)
    · trivial
  | cancelTest k =>
    obtain rfl := Option.some.inj hr
    simp only
    cases k with
    | done =>
      split
      · rename_i hs
        intro e he
        rw [Stage.serving_of_not_taken (hw.not_taken (.inl hs))] at he
        exact h e he
      · trivial
    | release client ds =>
      split
      · exact h
      · exact h.1
    | flush d => cases h
  | cancelSet k =>
    obtain rfl := Option.some.inj hr
    cases k with
    | done => trivial
    | release client ds => exact h.1
    | flush d => cases h
  | erase client =>
    obtain rfl := Option.some.inj hr
    exact h
  | clearTest client ds =>
    obtain rfl : client = c := h
    obtain rfl := Option.some.inj hr
    simp only
    split
    · rename_i hs
      rw [CallPc.isSpeakingClient_iff] at hs
      exact ⟨rfl, fun e he => Option.some.inj (he.symm.trans hs), hw.not_taken (.inr ⟨client, hs⟩)⟩
    · rfl
  | pauseTest id | resumeTest id =>
    obtain rfl := Option.some.inj hr
    simp only
    split
    · exact current_own hw h ‹_›
    · trivial
  | release | pauseSet | resumeSet =>
    obtain rfl := Option.some.inj hr
    trivial
  | flush | queue | ensure | stateCurrent | stateQueue | quitTest | quitRun => cases h

end SpeakerSystem

/-- **The thread's step.** It takes and announces no speech the call would act on,
and takes none from the queue during an abort. -/
theorem CallPc.Bound.thread {pc : CallPc} {t t' : ThreadPc} {s s' : TTSSpeaker} {log : List Record} {c : Nat}
    (h : pc.Bound t.stage s.clientSpeaking c) (hm : t.Moves s t' s' log)
    (hlock : t.locks = true → pc.aborting = none)
    (htake : ∀ d rest, t.stage = .free → t'.stage = .taken d → s.queue = d :: rest → pc.Acts → c = d.client)
    (hask : ∀ d, t.stage = .taken d → pc.StillAsks d → c = d.client) : pc.Bound t'.stage s'.clientSpeaking c := by
  -- a step that announces nobody anew
  have hother : (∀ e, s'.clientSpeaking = some e → s.clientSpeaking = some e) → (∀ d, t'.stage ≠ .spoken d) →
      (pc.Acts → ∀ e, t'.stage.serving s'.clientSpeaking = some e → t.stage.serving s.clientSpeaking = some e ∨ e = c) →
      (pc.aborting = none ∨ ∀ d, t'.stage ≠ .taken d) → pc.Bound t'.stage s'.clientSpeaking c := by
    intro hc hs hserving ht
    cases pc with
    | cancelTest k =>
      cases k with
      | done => exact fun e he => h e (hc e he)
      | release client ds => exact ⟨h.1, fun e he => h.2.1 e (hc e he), ht.resolve_left (fun e => nomatch e)⟩
      | flush d => exact h
    | cancelSet k =>
      cases k with
      | done => exact fun e he => (hserving trivial e he).elim (h e) id
      | release client ds => exact ⟨h.1, fun e he => h.2.1 e (hc e he), ht.resolve_left (fun e => nomatch e)⟩
      | flush d => exact h
    | pauseSet | resumeSet => exact fun e he => (hserving trivial e he).elim (h e) id
    | pauseTest id | resumeTest id => exact fun d hd => absurd hd (hs d)
    | _ => exact h
  have hquiet : ∀ {g g' : Stage}, t.stage = g → t'.stage = g' → (∀ d, g ≠ .taken d) → (∀ d, g' ≠ .taken d) →
      (∀ d, g' ≠ .spoken d) → (∀ e, s'.clientSpeaking = some e → s.clientSpeaking = some e) →
      pc.Bound t'.stage s'.clientSpeaking c := by
    rintro g g' rfl rfl hg hg' hspoken hc
    refine hother hc hspoken (fun _ e he => .inl ?_) (.inr hg')
    rw [Stage.serving_of_not_taken hg'] at he
    rw [Stage.serving_of_not_taken hg]
    exact hc e he
  cases hm with
  | quiet stage view =>
    rw [stage, view.clientSpeaking]
    exact h
  | take stage stage' locks queue =>
    refine hother (fun _ he => he) (fun d => by rw [stage']; exact fun e => nomatch e) (fun hacts e he => .inr ?_)
      (.inl (hlock locks))
    rw [stage'] at he
    rw [htake _ _ stage stage' queue hacts]
    exact (Option.some.inj he).symm
  | fail stage stage' | interrupt stage stage' | pass stage stage' | pick stage stage' | report stage stage' =>
    exact hquiet stage stage' (fun _ e => nomatch e) (fun _ e => nomatch e) (fun _ e => nomatch e) fun _ he => he
  | failReport stage stage' view =>
    refine hquiet stage stage' (fun _ e => nomatch e) (fun _ e => nomatch e) (fun _ e => nomatch e) fun e he => ?_
    rw [view.clientSpeaking] at he
    exact he
  | clear stage stage' =>
    exact hquiet stage stage' (fun _ e => nomatch e) (fun _ e => nomatch e) (fun _ e => nomatch e) fun _ he => nomatch he
  | @speak d stage stage' =>
    have hask := hask d stage
    rw [stage] at h
    rw [stage']
    cases pc with
    | cancelTest k =>
      cases k with
      | done =>
        intro e he
        rw [hask trivial]
        exact (Option.some.inj he).symm
      | release client ds => exact absurd rfl (h.2.2 d)
      | flush d => exact h
    | cancelSet k =>
      cases k with
      | done => exact h
      | release client ds => exact absurd rfl (h.2.2 d)
      | flush d => exact h
    | pauseSet | resumeSet => exact h
    | pauseTest id | resumeTest id =>
      intro d' hd'
      obtain rfl := Stage.spoken.inj hd'
      by_cases hon : id = 0 ∨ id = d.id
      · exact .inl (hask hon).symm
      · exact .inr (not_or.mp hon)
    | _ => exact h

namespace SessionCalls

structure Bounded (st : SessionCalls) : Prop where
  watched : st.system.Watched
  bound : ∀ i c, st.acting i = some c →
    (st.system.callers i).Bound st.system.pc.stage st.system.speaker.clientSpeaking c

theorem setSpeaking_of_taken {t : ThreadPc} {d : SpeechData} (h : t.stage = .taken d) : t = .setSpeaking d := by
  cases t with
  | setSpeaking d' =>
    obtain rfl := Stage.taken.inj h
    rfl
  | _ => cases h

theorem dequeue_of_taken {t : ThreadPc} {s : TTSSpeaker} {choice : Bool} {mv : Move ThreadPc} {d : SpeechData}
    (hfree : t.stage = .free) (hr : t.run choice s = some (.ok mv)) (hd : mv.pc.stage = .taken d) : t = .dequeue := by
  rcases ThreadPc.run_of_free hfree hr with ⟨hst, -⟩ | ⟨d', rest, -, ⟨-, rfl⟩ | ⟨rfl, -⟩⟩
  · rw [hst] at hd
    cases hd
  · cases hd
  · rfl

theorem call_bounded {st st' : SessionCalls} (h : st.Bounded) {i : Nat} {call : SpeakerCall}
    (hs : machine.step st (.call i call) = some st') {j c : Nat} (hc : st'.acting j = some c) :
    (st'.system.callers j).Bound st'.system.pc.stage st'.system.speaker.clientSpeaking c := by
  obtain ⟨system, hstep, rfl⟩ := Option.map_eq_some_iff.mp hs
  simp only [SpeakerSystem.machine, SpeakerSystem.step, Option.ite_none_left_eq_some, Option.ite_none_right_eq_some,
    Option.some.injEq] at hstep
  obtain ⟨-, -, rfl⟩ := hstep
  simp only [actingAfter] at hc
  show (st.system.setCaller i call.pc j).Bound _ _ c
  by_cases hj : j = i
  · rw [if_pos hj] at hc
    rw [hj, SpeakerSystem.setCaller_self]
    exact CallPc.bound_pc hc _
  · rw [if_neg hj] at hc
    rw [SpeakerSystem.setCaller_of_ne _ _ hj]
    exact h.bound j c hc

theorem step_bounded {st st' : SessionCalls} {a : SpeakerSystem.Label} (h : st.Bounded) (ho : st.Apart a)
    (hs : machine.step st a = some st') : st'.Bounded := by
  obtain ⟨system, hstep, rfl⟩ := Option.map_eq_some_iff.mp hs
  refine ⟨SpeakerSystem.step_watched h.watched hstep, fun j c hc => ?_⟩
  by_cases hcall : ∃ i call, a = .call i call
  · obtain ⟨i, call, rfl⟩ := hcall
    exact call_bounded h hs hc
  have hacting : st.actingAfter a = st.acting := by
    cases a with
    | call i call => exact absurd ⟨i, call, rfl⟩ hcall
    | _ => rfl
  have hb := h.bound j c (hacting ▸ hc)
  cases SpeakerSystem.step_ran hstep with
  | popEmpty | nullSpeech | post => exact hb
  | @thread choice mv unlocked run =>
    refine hb.thread (ThreadPc.run_moves run) (fun hl => ?_) (fun d rest hfree htaken hq hacts => ?_) fun d hd hasks => ?_
    · cases ha : (st.system.callers j).aborting with
      | none => rfl
      | some c' =>
        rw [hl, h.watched.aborts.mutex j c' ha] at unlocked
        cases unlocked
    · exact ho.dequeue choice d rest rfl (dequeue_of_taken hfree run htaken) hq j c (hacting ▸ hc) hacts
    · exact ho.announce choice d rfl (setSpeaking_of_taken hd) j c (hacting ▸ hc) hasks
  | @call i call => exact absurd ⟨i, call, rfl⟩ hcall
  | @caller i mv unlocked run =>
    rw [(CallPc.run_moves run).keepsSpeaking.clientSpeaking]
    show (st.system.setCaller i mv.pc j).Bound _ _ c
    by_cases hj : j = i
    · subst hj
      rw [SpeakerSystem.setCaller_self]
      exact SpeakerSystem.own_bound h.watched hb run
    · rw [SpeakerSystem.setCaller_of_ne _ _ hj]
      exact hb
  | deliver _ handled =>
    obtain ⟨⟨_, _, _, _, rfl⟩, -⟩ := handleMessage_frame handled
    exact hb

theorem reachable_bounded {st : SessionCalls} (h : machine.ReachableIf Apart st) : st.Bounded := by
  refine Machine.ReachableIf.invariant (I := Bounded) ?_ ?_ h
  · intro st hst
    obtain ⟨maxFailures, rfl⟩ := hst
    refine ⟨SpeakerSystem.new_watched maxFailures, ?_⟩
    intro i c hc
    cases hc
  · intro st a st' hb ho hs
    exact step_bounded hb ho hs

end SessionCalls

theorem CallPc.Bound.undisturbed {pc : CallPc} {t : Stage} {s : TTSSpeaker} {c : Nat} {mv : Move CallPc}
    (h : pc.Bound t s.clientSpeaking c) (hr : pc.run s = some mv) : Undisturbed c t pc s mv.speaker := by
  have same : (∀ k, pc ≠ .cancelSet k) → mv.speaker = s → Undisturbed c t pc s mv.speaker := by
    intro hk he
    rw [he]
    exact ⟨fun d hd _ => hd, fun _ _ _ => hk, fun _ _ _ => ⟨rfl, rfl, rfl⟩⟩
  have own : (∀ e, t.serving s.clientSpeaking = some e → e = c) → mv.speaker.queue = s.queue →
      Undisturbed c t pc s mv.speaker := by
    intro ho hq
    refine ⟨fun d hd _ => by rw [hq]; exact hd, fun e he hne => absurd (ho e he) hne, fun e he hne => ?_⟩
    exact absurd (ho e he) hne
  cases pc with
  | idle => cases hr
  | cancelSet k =>
    obtain rfl := Option.some.inj hr
    cases k with
    | done => exact own h rfl
    | release client ds =>
      refine own (fun e he => h.2.1 e ?_) rfl
      rw [← Stage.serving_of_not_taken h.2.2 s.clientSpeaking]
      exact he
    | flush d => cases h
  | pauseSet =>
    obtain rfl := Option.some.inj hr
    refine own h ?_
    simp only [TTSSpeaker.pausePipeline]
    split <;> rfl
  | resumeSet =>
    obtain rfl := Option.some.inj hr
    refine own h ?_
    simp only [TTSSpeaker.resumePipeline]
    split <;> rfl
  | erase client =>
    obtain rfl : client = c := h
    obtain rfl := Option.some.inj hr
    refine ⟨fun d hd hne => ?_, fun e _ _ k => by simp, fun _ _ _ => ⟨rfl, rfl, rfl⟩⟩
    exact List.mem_filter.mpr ⟨hd, decide_eq_true hne⟩
  | sessionTest | cancelTest | clearTest | release | pauseTest | resumeTest =>
    obtain rfl := Option.some.inj hr
    exact same (by simp) rfl
  | flush | queue | ensure | stateCurrent | stateQueue | quitTest | quitRun => cases h

/-- **Each session its own speech.** In every run that keeps to `Apart`, a step of
a call for a session leaves the queued speeches of the others, and whatever of
theirs is dequeued or spoken, alone. -/
theorem calls_undisturbed {st st' : SessionCalls} (h : SessionCalls.machine.ReachableIf SessionCalls.Apart st) {i c : Nat}
    (hc : st.acting i = some c) (hs : SessionCalls.machine.step st (.caller i) = some st') :
    Undisturbed c st.system.pc.stage (st.system.callers i) st.system.speaker st'.system.speaker := by
  obtain ⟨system, hstep, rfl⟩ := Option.map_eq_some_iff.mp hs
  cases SpeakerSystem.step_ran hstep with
  | caller _ run => exact ((SessionCalls.reachable_bounded h).bound i c hc).undisturbed run

namespace SessionCalls

theorem apart_of_pc {st : SessionCalls} (a : SpeakerSystem.Label) (h : ∀ d, st.system.pc ≠ .setSpeaking d)
    (h' : st.system.pc ≠ .dequeue) : st.Apart a :=
  ⟨fun _ _ _ _ hpc => absurd hpc h', fun _ d _ hpc => absurd hpc (h d)⟩

theorem apart_of_idle {st : SessionCalls} (a : SpeakerSystem.Label) (h : ∀ i, st.acting i = none) : st.Apart a := by
  refine ⟨fun _ _ _ _ _ _ i c hc => ?_, fun _ _ _ _ i c hc => ?_⟩ <;>
  · rw [h i] at hc
    cases hc

theorem machine_init (maxFailures : Nat) : machine.init ⟨.new maxFailures, fun _ => none⟩ := ⟨maxFailures, rfl⟩

/-- Session 7 shuts while its speech is spoken and one of session 8 is queued. -/
theorem calls_undisturbed_shut :
    ∃ st st', machine.step st (.caller 1) = some st' ∧ st.system.callers 1 = .cancelSet .done ∧
      st.system.speaker.queue = [⟨8, false, 2, "yo".toList, 1⟩] ∧
      Undisturbed 7 st.system.pc.stage (.cancelSet .done) st.system.speaker st'.system.speaker := by
  have hidle : ∀ i, (if i = 0 then none else if i = 0 then none else none : Option Nat) = none := by
    intro i
    split <;> rfl
  have hpc : ∀ {st : SessionCalls} (a : SpeakerSystem.Label), st.system.pc.locks = false →
      st.system.pc.stage.inHand = none → st.Apart a := by
    intro st a hlocks hfree
    refine apart_of_pc a (fun d h => ?_) fun h => ?_
    · rw [h] at hfree
      cases hfree
    · rw [h] at hlocks
      cases hlocks
  have h0 : machine.ReachableIf Apart ⟨.new 1, fun _ => none⟩ := .init (machine_init 1)
  have h1 := h0.step (apart_of_idle (.call 0 (.speak 7 1 "hi".toList false false)) fun _ => rfl) rfl
  have h2 := h1.step (hpc (.caller 0) rfl rfl) rfl
  have h3 := h2.step (hpc (.call 0 (.speak 8 2 "yo".toList false false)) rfl rfl) rfl
  have h4 := h3.step (hpc (.caller 0) rfl rfl) rfl
  have h5 := (h4.step (hpc (.thread true) rfl rfl) rfl).step (hpc (.thread true) rfl rfl) rfl
  have h6 := (h5.step (hpc (.thread true) rfl rfl) rfl).step (hpc (.thread true) rfl rfl) rfl
  have h7 := (h6.step (hpc (.thread true) rfl rfl) rfl).step (hpc (.thread true) rfl rfl) rfl
  have h8 := (h7.step (hpc (.thread true) rfl rfl) rfl).step (hpc (.thread true) rfl rfl) rfl
  have h9 := (h8.step (apart_of_idle (.thread true) hidle) rfl).step (apart_of_idle (.thread true) hidle) rfl
  have h10 := h9.step (apart_of_idle (.call 1 (.session 7 .shut)) hidle) rfl
  have h11 := h10.step (apart_of_pc (.caller 1) (fun _ h => nomatch h) fun h => nomatch h) rfl
  have h12 := h11.step (apart_of_pc (.caller 1) (fun _ h => nomatch h) fun h => nomatch h) rfl
  exact ⟨_, _, rfl, rfl, rfl, calls_undisturbed h12 (i := 1) (c := 7) rfl rfl⟩

/-- Session 7 shuts while its speech is spoken; the thread goes on to the speech
of session 8 before `m_flushed` is set. -/
theorem shut_flushes_other :
    ∃ st st', machine.Reachable st ∧ st.acting 1 = some 7 ∧ machine.step st (.caller 1) = some st' ∧
      ¬ Undisturbed 7 st.system.pc.stage (st.system.callers 1) st.system.speaker st'.system.speaker := by
  have hrun : machine.exec ⟨.new 1, fun _ => none⟩
      ([.call 0 (.speak 7 1 "hi".toList false false), .caller 0, .call 0 (.speak 8 2 "yo".toList false false), .caller 0] ++
        List.replicate 12 (.thread true) ++ [.call 1 (.session 7 .shut), .caller 1, .caller 1] ++
        List.replicate 21 (.thread true)) = some _ := rfl
  refine ⟨_, _, Machine.reachable_of_exec (machine_init 1) _ hrun, rfl, rfl, fun h => ?_⟩
  exact h.flushed 8 rfl (by decide) .done rfl

end SessionCalls

end TTS
