import TTS.SpeakerThread

/-!
# Pausing one speech

From the moment a speech is current to its end: the thread sets the pipeline to
PLAYING and in the end to NULL, the client pauses and resumes, the main loop
delivers the messages in order. `isPaused` is set with the request and read when
a message arrives; the two fit as long as a pause takes effect only while the
speech plays, and is over when the thread stops the pipeline.
-/

namespace TTS

open Transition

namespace TTSSpeaker

def pause (s : TTSSpeaker) (id : Nat) : TTSSpeaker := if s.isCurrent id then s.pausePipeline else s

def resume (s : TTSSpeaker) (id : Nat) : TTSSpeaker := if s.isCurrent id then s.resumePipeline else s

theorem pause_resume_steps (s : TTSSpeaker) (id : Nat) :
    (((CallPc.pauseTest id).run s).bind fun mv => mv.pc.run mv.speaker).getD ⟨.idle, s, []⟩ = ⟨.idle, s.pause id, []⟩ ∧
      (((CallPc.resumeTest id).run s).bind fun mv => mv.pc.run mv.speaker).getD ⟨.idle, s, []⟩ =
        ⟨.idle, s.resume id, []⟩ := by
  unfold pause resume
  simp only [CallPc.run, CallPc.run.go, Option.bind_some]
  cases s.isCurrent id <;> exact ⟨rfl, rfl⟩

end TTSSpeaker

/-- Where `speakText` stands with the pipeline. -/
inductive Place
  | toPlay
  | playing
  -- `waitForAudioToFinishTimeout` has set the pipeline to NULL
  | stopped
  deriving DecidableEq, Repr

/-- `log` are the callbacks made. -/
structure SpeechPlay where
  speaker : TTSSpeaker
  place : Place
  log : List Callback

namespace SpeechPlay

inductive Label
  | play
  | stop
  | pause (id : Nat)
  | resume (id : Nat)
  | post (message : GstMessage)
  | deliver
  deriving DecidableEq, Repr

def deliver (st : SpeechPlay) : Option SpeechPlay :=
  match st.speaker.bus with
  | [] => none
  | message :: rest =>
    (({ st.speaker with bus := rest } : TTSSpeaker).handleMessage message).map fun r =>
      { st with speaker := r.2, log := st.log ++ r.1.map fun cb => cb.2.1 }

/-- State changes are posted by `gst_element_set_state`. -/
def post (st : SpeechPlay) : GstMessage → Option SpeechPlay
  | .stateChanged _ _ => none
  | message => some { st with speaker := { st.speaker with bus := st.speaker.bus ++ [message] } }

def step (st : SpeechPlay) : Label → Option SpeechPlay
  | .play => if st.place = .toPlay then some { st with speaker := st.speaker.setState .playing, place := .playing } else none
  | .stop => if st.place = .playing then some { st with speaker := st.speaker.setState .null, place := .stopped } else none
  | .pause id => some { st with speaker := st.speaker.pause id }
  | .resume id => some { st with speaker := st.speaker.resume id }
  | .post message => st.post message
  | .deliver => st.deliver

structure Current (s : TTSSpeaker) : Prop where
  speech : ∃ d, s.currentSpeech = some d ∧ s.clientSpeaking = some d.client
  speaking : s.isSpeaking = true
  pipeline : s.pipeline = true

structure Begins (st : SpeechPlay) : Prop where
  current : Current st.speaker
  isPaused : st.speaker.isPaused = false
  gstState : st.speaker.gstState = .null
  place : st.place = .toPlay
  log : st.log = []

def machine : Machine SpeechPlay Label where
  init := Begins
  step := step

def toPlaying : GstMessage := .stateChanged .paused .playing

def toPaused : GstMessage := .stateChanged .playing .paused

/-- Until the pipeline is set to PLAYING no PAUSED to PLAYING of an earlier speech
is still to come, a pause takes effect only after the speech has started and
before the pipeline is stopped, and it is not stopped while `m_isPaused` is set. -/
structure WhilePlaying (st : SpeechPlay) (a : Label) : Prop where
  fresh : st.place = .toPlay → toPlaying ∉ st.speaker.bus
  pause : ∀ id, a = .pause id → st.speaker.isCurrent id = true → st.speaker.isPaused = false →
    .started ∈ st.log ∧ st.place = .playing
  stop : a = .stop → st.speaker.isPaused = false

def rounds (n : Nat) : List Callback := .started :: (List.replicate n [Callback.paused, .resumed]).flatten

/-- The callbacks alternate, and at rest the flag is the state of the pipeline. -/
structure InStep (st : SpeechPlay) : Prop where
  callbacks : ∃ n, st.log <+: rounds n
  rests : st.speaker.bus = [] → (st.speaker.isPaused = true ↔ st.speaker.gstState = .paused)

/-! ## The phases -/

/-- The messages that the handler takes for a start, a pause or a resumption. -/
def changes (bus : List GstMessage) : List GstMessage := bus.filter fun m => m = toPlaying ∨ m = toPaused

inductive Phase (s : TTSSpeaker) (log : List Callback) : Place → Prop
  | ready (flag : s.isPaused = false) (state : s.gstState = .null) (calls : log = []) : Phase s log .toPlay
  | starting (old : List GstMessage) (other : toPlaying ∉ old) (bus : changes s.bus = old ++ [toPlaying])
    (flag : s.isPaused = false) (state : s.gstState = .playing) (calls : log = []) : Phase s log .playing
  | playing (n : Nat) (bus : changes s.bus = []) (flag : s.isPaused = false) (state : s.gstState = .playing)
    (calls : log = rounds n) : Phase s log .playing
  /-- The client paused, and may have asked to go on, before it was told. -/
  | pausing (n : Nat) (again : Bool) (bus : changes s.bus = toPaused :: if again then [toPlaying] else [])
    (flag : s.isPaused = true) (state : s.gstState = if again then .playing else .paused) (calls : log = rounds n) :
    Phase s log .playing
  | paused (n : Nat) (again : Bool) (bus : changes s.bus = if again then [toPlaying] else []) (flag : s.isPaused = true)
    (state : s.gstState = if again then .playing else .paused) (calls : log = rounds n ++ [.paused]) :
    Phase s log .playing
  /-- Stopped before the start was told of. -/
  | unheard (old new : List GstMessage) (other : toPlaying ∉ old ++ new)
    (bus : changes s.bus = old ++ toPlaying :: new) (flag : s.isPaused = false) (state : s.gstState = .null)
    (calls : log = []) : Phase s log .stopped
  | stopped (n : Nat) (bus : toPlaying ∉ changes s.bus) (flag : s.isPaused = false) (state : s.gstState = .null)
    (calls : log = rounds n) : Phase s log .stopped

theorem rounds_succ (n : Nat) : rounds (n + 1) = rounds n ++ [.paused, .resumed] := by
  simp [rounds, List.replicate_succ']

theorem Phase.inStep {s : TTSSpeaker} {log : List Callback} {place : Place} (h : Phase s log place) :
    InStep ⟨s, place, log⟩ := by
  have hrest : s.isPaused = false → s.gstState ≠ .paused → (s.isPaused = true ↔ s.gstState = .paused) := by
    intro hp hs
    simp [hp, hs]
  cases h with
  | ready hp hs hl | starting _ _ _ hp hs hl | unheard _ _ _ _ hp hs hl =>
    exact ⟨⟨0, hl ▸ List.nil_prefix⟩, fun _ => hrest hp (by simp [hs])⟩
  | playing n _ hp hs hl | stopped n _ hp hs hl =>
    exact ⟨⟨n, hl ▸ List.prefix_refl _⟩, fun _ => hrest hp (by simp [hs])⟩
  | pausing n again hb hp hs hl =>
    refine ⟨⟨n, hl ▸ List.prefix_refl _⟩, fun he => ?_⟩
    simp only at he
    rw [he] at hb
    cases hb
  | paused n again hb hp hs hl =>
    refine ⟨⟨n + 1, ?_⟩, fun he => ?_⟩
    · show log <+: _
      rw [hl, rounds_succ, List.prefix_append_right_inj]
      exact ⟨[.resumed], rfl⟩
    · simp only at he
      rw [he] at hb
      cases again with
      | true => cases hb
      | false => simp [hp, hs]

/-! ## Steps -/

theorem Current.setState {s : TTSSpeaker} (h : Current s) (g : GstState) : Current (s.setState g) :=
  ⟨h.speech, h.speaking, h.pipeline⟩

@[simp] theorem changes_nil : changes [] = [] := rfl

theorem changes_append (bus bus' : List GstMessage) : changes (bus ++ bus') = changes bus ++ changes bus' :=
  List.filter_append ..

/-- Setting the pipeline's state, as the handler will hear of it. -/
theorem changes_setState (s : TTSSpeaker) (g : GstState) :
    changes (s.setState g).bus = changes s.bus ++ changes (s.gstState.transitions g) :=
  changes_append ..

theorem mem_changes {m : GstMessage} {bus : List GstMessage} (h : m ∈ changes bus) : m ∈ bus := List.mem_of_mem_filter h

theorem changes_mem {m : GstMessage} {bus : List GstMessage} (h : m ∈ changes bus) : m = toPlaying ∨ m = toPaused := by
  simpa using (List.mem_filter.mp h).2

/-- Where `m_isPaused` is not set, only PAUSED to PLAYING is heard of. -/
theorem handleMessage_other {s : TTSSpeaker} {message : GstMessage} (hm : message ≠ toPlaying)
    (hp : s.isPaused = false ∨ message ≠ toPaused) :
    ∃ networkError pipelineError isEOS, s.handleMessage message =
      some ([], { s with networkError := networkError, pipelineError := pipelineError, isEOS := isEOS }) := by
  cases message with
  | error network => exact ⟨_, _, _, rfl⟩
  | eos => exact ⟨_, _, _, rfl⟩
  | stateChanged old new =>
    refine ⟨s.networkError, s.pipelineError, s.isEOS, ?_⟩
    cases old <;> cases new <;> first
      | rfl
      | exact absurd rfl hm
      | exact if_neg (by simpa using hp.resolve_right fun hne => hne rfl)

theorem handleMessage_started {s : TTSSpeaker} (h : Current s) (hp : s.isPaused = false) :
    ∃ c d, s.handleMessage toPlaying = some ([(c, .started, d)], s) := by
  obtain ⟨d, hd, hc⟩ := h.speech
  refine ⟨d.client, d, ?_⟩
  simp [toPlaying, TTSSpeaker.handleMessage, TTSSpeaker.notifyClient, hd, hc, hp]

theorem handleMessage_resumed {s : TTSSpeaker} (h : Current s) (hp : s.isPaused = true) :
    ∃ c d, s.handleMessage toPlaying = some ([(c, .resumed, d)], { s with isPaused := false }) := by
  obtain ⟨d, hd, hc⟩ := h.speech
  refine ⟨d.client, d, ?_⟩
  simp [toPlaying, TTSSpeaker.handleMessage, TTSSpeaker.notifyClient, hd, hc, hp]

theorem handleMessage_toPaused {s : TTSSpeaker} (h : Current s) (hp : s.isPaused = true) :
    ∃ c d, s.handleMessage toPaused = some ([(c, .paused, d)], s) := by
  obtain ⟨d, hd, hc⟩ := h.speech
  refine ⟨d.client, d, ?_⟩
  simp [toPaused, TTSSpeaker.handleMessage, TTSSpeaker.notifyClient, hd, hc, hp]

section
variable {s : TTSSpeaker} {log : List Callback} {place : Place}

theorem Phase.play (h : Phase s log .toPlay) (hb : toPlaying ∉ s.bus) : Phase (s.setState .playing) log .playing := by
  cases h with
  | ready hp hs hl =>
    refine .starting (changes s.bus) (fun hm => hb (mem_changes hm)) ?_ hp rfl hl
    rw [changes_setState, hs]
    rfl

theorem Phase.stop (h : Phase s log .playing) (hflag : s.isPaused = false) : Phase (s.setState .null) log .stopped := by
  cases h with
  | starting old hold hb hp hs hl =>
    refine .unheard old [toPaused] ?_ ?_ hp rfl hl
    · simpa [toPlaying, toPaused] using hold
    · rw [changes_setState, hb, hs, List.append_assoc]
      rfl
  | playing n hb hp hs hl =>
    refine .stopped n ?_ hp rfl hl
    rw [changes_setState, hb, hs]
    decide
  | pausing n again _ hp | paused n again _ hp =>
    rw [hp] at hflag
    cases hflag

theorem Phase.pause (h : Phase s log place) (hc : Current s) (id : Nat)
    (ho : s.isCurrent id = true → s.isPaused = false → .started ∈ log ∧ place = .playing) :
    Current (s.pause id) ∧ Phase (s.pause id) log place := by
  unfold TTSSpeaker.pause
  split
  · rename_i hcur
    unfold TTSSpeaker.pausePipeline
    split
    · rename_i hg
      have hflag : s.isPaused = false := by simpa using (Bool.and_eq_true_iff.mp hg).2
      obtain ⟨hstarted, rfl⟩ := ho hcur hflag
      refine ⟨⟨hc.speech, hc.speaking, hc.pipeline⟩, ?_⟩
      cases h with
      | starting _ _ _ _ _ hl =>
        rw [hl] at hstarted
        cases hstarted
      | playing n hb hp hs hl =>
        refine .pausing n false ?_ rfl rfl hl
        rw [changes_setState]
        show changes s.bus ++ changes (s.gstState.transitions .paused) = _
        rw [hb, hs]
        rfl
      | pausing n again hb hp hs hl | paused n again hb hp hs hl =>
        rw [hp] at hflag
        cases hflag
    · exact ⟨hc, h⟩
  · exact ⟨hc, h⟩

theorem Phase.resume (h : Phase s log place) (hc : Current s) (id : Nat) :
    Current (s.resume id) ∧ Phase (s.resume id) log place := by
  unfold TTSSpeaker.resume
  split
  · unfold TTSSpeaker.resumePipeline
    split
    · rename_i hg
      have hflag : s.isPaused = true := (Bool.and_eq_true_iff.mp hg).2
      refine ⟨hc.setState _, ?_⟩
      cases h with
      | ready hp | starting _ _ _ hp | playing _ _ hp | unheard _ _ _ _ hp | stopped _ _ hp =>
        rw [hp] at hflag
        cases hflag
      | pausing n again hb hp hs hl =>
        refine .pausing n true ?_ hp rfl hl
        rw [changes_setState, hb, hs]
        cases again <;> rfl
      | paused n again hb hp hs hl =>
        refine .paused n true ?_ hp rfl hl
        rw [changes_setState, hb, hs]
        cases again <;> rfl
    · exact ⟨hc, h⟩
  · exact ⟨hc, h⟩

theorem Current.bus (h : Current s) (bus : List GstMessage) : Current { s with bus := bus } :=
  ⟨h.speech, h.speaking, h.pipeline⟩

/-- Nothing that the phase tells of has changed. -/
theorem Phase.congr {s' : TTSSpeaker} (h : Phase s log place) (hb : changes s'.bus = changes s.bus)
    (hp : s'.isPaused = s.isPaused) (hg : s'.gstState = s.gstState) : Phase s' log place := by
  cases h with
  | ready flag state calls => exact .ready (hp.trans flag) (hg.trans state) calls
  | starting old other bus flag state calls => exact .starting old other (hb.trans bus) (hp.trans flag) (hg.trans state) calls
  | playing n bus flag state calls => exact .playing n (hb.trans bus) (hp.trans flag) (hg.trans state) calls
  | pausing n again bus flag state calls => exact .pausing n again (hb.trans bus) (hp.trans flag) (hg.trans state) calls
  | paused n again bus flag state calls => exact .paused n again (hb.trans bus) (hp.trans flag) (hg.trans state) calls
  | unheard old new other bus flag state calls =>
    exact .unheard old new other (hb.trans bus) (hp.trans flag) (hg.trans state) calls
  | stopped n bus flag state calls => exact .stopped n (hb.symm ▸ bus) (hp.trans flag) (hg.trans state) calls

/-- What is left when the next message is PLAYING to PAUSED and `m_isPaused` is not set. -/
theorem Phase.drop {s' : TTSSpeaker} (h : Phase s log place) (hb : changes s.bus = toPaused :: changes s'.bus)
    (hflag : s.isPaused = false) (hp : s'.isPaused = s.isPaused) (hg : s'.gstState = s.gstState) : Phase s' log place := by
  cases h with
  | ready flag state calls => exact .ready (hp.trans flag) (hg.trans state) calls
  | starting old other bus flag state calls =>
    cases old with
    | nil => cases hb.symm.trans bus
    | cons m old =>
      obtain ⟨-, hrest⟩ := List.cons.inj (hb.symm.trans bus)
      exact .starting old (fun hm => other (List.mem_cons_of_mem m hm)) hrest (hp.trans flag) (hg.trans state) calls
  | playing n bus => cases hb.symm.trans bus
  | pausing n again _ flag | paused n again _ flag =>
    rw [flag] at hflag
    cases hflag
  | unheard old new other bus flag state calls =>
    cases old with
    | nil => cases hb.symm.trans bus
    | cons m old =>
      obtain ⟨-, hrest⟩ := List.cons.inj (hb.symm.trans bus)
      exact .unheard old new (fun hm => other (List.mem_cons_of_mem m hm)) hrest (hp.trans flag) (hg.trans state) calls
  | stopped n bus flag state calls =>
    refine .stopped n (fun hm => bus ?_) (hp.trans flag) (hg.trans state) calls
    rw [hb]
    exact List.mem_cons_of_mem _ hm

theorem deliver_eq {message : GstMessage} {rest : List GstMessage} (hb : s.bus = message :: rest)
    {cbs : List (Nat × Callback × SpeechData)} {s' : TTSSpeaker}
    (he : ({ s with bus := rest } : TTSSpeaker).handleMessage message = some (cbs, s')) {st' : SpeechPlay}
    (hs : (⟨s, place, log⟩ : SpeechPlay).deliver = some st') : st' = ⟨s', place, log ++ cbs.map fun cb => cb.2.1⟩ := by
  unfold SpeechPlay.deliver at hs
  simp only [hb] at hs
  rw [he] at hs
  exact (Option.some.inj hs).symm

theorem Phase.deliver_other {message : GstMessage} {rest : List GstMessage} (h : Phase s log place) (hc : Current s)
    (hb : s.bus = message :: rest) (hm : message ≠ toPlaying) (hp : s.isPaused = false ∨ message ≠ toPaused)
    {st' : SpeechPlay} (hs : (⟨s, place, log⟩ : SpeechPlay).deliver = some st') :
    Current st'.speaker ∧ Phase st'.speaker st'.log st'.place := by
  obtain ⟨_, _, _, he⟩ := handleMessage_other (s := { s with bus := rest }) hm hp
  obtain rfl := deliver_eq hb he hs
  refine ⟨⟨hc.speech, hc.speaking, hc.pipeline⟩, ?_⟩
  rw [List.map_nil, List.append_nil]
  by_cases hpaused : message = toPaused
  · refine h.drop ?_ (hp.resolve_right fun hne => hne hpaused) rfl rfl
    rw [hb, hpaused]
    rfl
  · refine h.congr ?_ rfl rfl
    rw [hb]
    simp [changes, hm, hpaused]

theorem Phase.deliver_toPlaying {rest : List GstMessage} (h : Phase s log place) (hc : Current s)
    (ho : place = .toPlay → toPlaying ∉ s.bus) (hb : s.bus = toPlaying :: rest) {st' : SpeechPlay}
    (hs : (⟨s, place, log⟩ : SpeechPlay).deliver = some st') :
    Current st'.speaker ∧ Phase st'.speaker st'.log st'.place := by
  have hchanges : changes s.bus = toPlaying :: changes rest := by
    rw [hb]
    rfl
  have hstarted : s.isPaused = false → ∃ c d, ({ s with bus := rest } : TTSSpeaker).handleMessage toPlaying =
      some ([(c, .started, d)], { s with bus := rest }) := handleMessage_started (hc.bus rest)
  cases h with
  | ready => exact absurd (hb ▸ List.mem_cons_self) (ho rfl)
  | starting old hold hbus hp hg hl =>
    cases old with
    | cons m old =>
      obtain ⟨rfl, -⟩ := List.cons.inj (hchanges.symm.trans hbus)
      exact absurd List.mem_cons_self hold
    | nil =>
      obtain ⟨c, d, he⟩ := hstarted hp
      obtain rfl := deliver_eq hb he hs
      exact ⟨hc.bus rest, .playing 0 (List.cons.inj (hchanges.symm.trans hbus)).2 hp hg (by rw [hl]; rfl)⟩
  | playing n hbus => cases hchanges.symm.trans hbus
  | pausing n again hbus => cases hchanges.symm.trans hbus
  | paused n again hbus hp hg hl =>
    cases again with
    | false => cases hchanges.symm.trans hbus
    | true =>
      obtain ⟨c, d, he⟩ := handleMessage_resumed (hc.bus rest) hp
      obtain rfl := deliver_eq hb he hs
      refine ⟨⟨hc.speech, hc.speaking, hc.pipeline⟩, .playing (n + 1) ?_ rfl hg ?_⟩
      · exact (List.cons.inj (hchanges.symm.trans hbus)).2
      · rw [hl, rounds_succ]
        simp
  | unheard old new hother hbus hp hg hl =>
    cases old with
    | cons m old =>
      obtain ⟨rfl, -⟩ := List.cons.inj (hchanges.symm.trans hbus)
      exact absurd List.mem_cons_self hother
    | nil =>
      obtain ⟨c, d, he⟩ := hstarted hp
      obtain rfl := deliver_eq hb he hs
      refine ⟨hc.bus rest, .stopped 0 ?_ hp hg (by rw [hl]; rfl)⟩
      rw [show changes rest = new from (List.cons.inj (hchanges.symm.trans hbus)).2]
      exact hother
  | stopped n hbus =>
    rw [hchanges] at hbus
    exact absurd List.mem_cons_self hbus

theorem Phase.deliver (h : Phase s log place) (hc : Current s) (ho : place = .toPlay → toPlaying ∉ s.bus)
    {st' : SpeechPlay} (hs : (⟨s, place, log⟩ : SpeechPlay).deliver = some st') :
    Current st'.speaker ∧ Phase st'.speaker st'.log st'.place := by
  cases hb : s.bus with
  | nil => simp [SpeechPlay.deliver, hb] at hs
  | cons message rest =>
    by_cases hm : message = toPlaying
    · exact h.deliver_toPlaying hc ho (hm ▸ hb) hs
    by_cases hother : s.isPaused = false ∨ message ≠ toPaused
    · exact h.deliver_other hc hb hm hother hs
    obtain ⟨hp, hpaused⟩ := not_or.mp hother
    rw [not_not.mp hpaused] at hb
    have hchanges : changes s.bus = toPaused :: changes rest := by
      rw [hb]
      rfl
    -- the client paused, and is told now
    cases h with
    | ready flag | starting _ _ _ flag | playing _ _ flag | unheard _ _ _ _ flag | stopped _ _ flag =>
      exact absurd flag hp
    | paused n again hbus =>
      cases again <;> cases hchanges.symm.trans hbus
    | pausing n again hbus hflag hg hl =>
      obtain ⟨c, d, he⟩ := handleMessage_toPaused (hc.bus rest) hflag
      obtain rfl := deliver_eq hb he hs
      exact ⟨hc.bus _, .paused n again (List.cons.inj (hchanges.symm.trans hbus)).2 hflag hg (by rw [hl]; rfl)⟩

theorem Phase.post {message : GstMessage} (h : Phase s log place) (hc : Current s) {st' : SpeechPlay}
    (hs : (⟨s, place, log⟩ : SpeechPlay).post message = some st') :
    Current st'.speaker ∧ Phase st'.speaker st'.log st'.place := by
  cases message with
  | stateChanged old new => cases hs
  | error | eos =>
    cases hs
    refine ⟨hc.bus _, h.congr ?_ rfl rfl⟩
    rw [changes_append]
    exact List.append_nil _

end

theorem step_phase {st st' : SpeechPlay} {a : Label} (hc : Current st.speaker)
    (h : Phase st.speaker st.log st.place) (ho : WhilePlaying st a) (hs : st.step a = some st') :
    Current st'.speaker ∧ Phase st'.speaker st'.log st'.place := by
  cases a with
  | play =>
    simp only [step, Option.ite_none_right_eq_some, Option.some.injEq] at hs
    obtain ⟨hp, rfl⟩ := hs
    rw [hp] at h
    exact ⟨hc.setState _, h.play (ho.fresh hp)⟩
  | stop =>
    simp only [step, Option.ite_none_right_eq_some, Option.some.injEq] at hs
    obtain ⟨hp, rfl⟩ := hs
    rw [hp] at h
    exact ⟨hc.setState _, h.stop (ho.stop rfl)⟩
  | pause id =>
    obtain rfl := Option.some.inj hs
    exact h.pause hc id (ho.pause id rfl)
  | resume id =>
    obtain rfl := Option.some.inj hs
    exact h.resume hc id
  | post message => exact h.post hc hs
  | deliver => exact h.deliver hc ho.fresh hs

/-- **Pausing in step.** -/
theorem pauses_in_step {st : SpeechPlay} (h : machine.ReachableIf WhilePlaying st) : InStep st := by
  have hI : Current st.speaker ∧ Phase st.speaker st.log st.place := by
    refine Machine.ReachableIf.invariant
      (I := fun st : SpeechPlay => Current st.speaker ∧ Phase st.speaker st.log st.place) ?_ ?_ h
    · intro st hb
      rw [hb.place]
      exact ⟨hb.current, .ready hb.isPaused hb.gstState hb.log⟩
    · rintro st a st' ⟨hc, hp⟩ ho hs
      exact step_phase hc hp ho hs
  exact hI.2.inStep

def begun : SpeechPlay where
  speaker := { TTSSpeaker.new 1 with
    clientSpeaking := some 7
    currentSpeech := some ⟨7, false, 4, [], 0⟩
    isSpeaking := true
    pipeline := true }
  place := .toPlay
  log := []

theorem begun_begins : Begins begun := ⟨⟨⟨_, rfl, rfl⟩, rfl, rfl⟩, rfl, rfl, rfl, rfl⟩

/-- Paused and resumed twice, the second time before it was told of the pause; then the audio ends. -/
theorem pauses_in_step_twice :
    ∃ st, machine.exec begun [.play, .deliver, .deliver, .deliver, .pause 4, .deliver, .resume 0, .deliver, .pause 0,
        .resume 4, .deliver, .deliver, .post .eos, .deliver, .stop, .deliver, .deliver, .deliver] = some st ∧
      st.log = [.started, .paused, .resumed, .paused, .resumed] ∧ InStep st := by
  refine ⟨_, rfl, rfl, ?_⟩
  have hquiet : ∀ {st : SpeechPlay} {a : Label}, (st.place = .toPlay → toPlaying ∉ st.speaker.bus) →
      (∀ id, a ≠ .pause id) → a ≠ .stop → WhilePlaying st a := by
    intro st a hfresh hpause hstop
    exact ⟨hfresh, fun id ha => absurd ha (hpause id), fun ha => absurd ha hstop⟩
  have h0 : machine.ReachableIf WhilePlaying begun := .init begun_begins
  have h1 := h0.step (a := Label.play) (hquiet (by decide) (fun _ e => nomatch e) fun e => nomatch e) rfl
  have hdeliver : ∀ {st : SpeechPlay}, st.place ≠ .toPlay → WhilePlaying st .deliver := fun hp =>
    hquiet (fun e => absurd e hp) (fun _ e => nomatch e) fun e => nomatch e
  have hresume : ∀ {st : SpeechPlay} {id : Nat}, st.place ≠ .toPlay → WhilePlaying st (.resume id) := fun hp =>
    hquiet (fun e => absurd e hp) (fun _ e => nomatch e) fun e => nomatch e
  have hpause : ∀ {st : SpeechPlay} {id : Nat}, st.place = .playing → .started ∈ st.log → WhilePlaying st (.pause id) :=
    fun hp hl => ⟨fun e => (by rw [hp] at e; cases e), fun _ _ _ _ => ⟨hl, hp⟩, fun e => nomatch e⟩
  have h2 := h1.step (hdeliver (by decide)) rfl
  have h3 := (h2.step (hdeliver (by decide)) rfl).step (hdeliver (by decide)) rfl
  have h4 := h3.step (a := Label.pause 4) (hpause rfl (by decide)) rfl
  have h5 := (h4.step (hdeliver (by decide)) rfl).step (a := Label.resume 0) (hresume (by decide)) rfl
  have h6 := (h5.step (hdeliver (by decide)) rfl).step (a := Label.pause 0) (hpause rfl (by decide)) rfl
  have h7 := (h6.step (a := Label.resume 4) (hresume (by decide)) rfl).step (hdeliver (by decide)) rfl
  have h8 := (h7.step (hdeliver (by decide)) rfl).step (a := Label.post .eos)
    (hquiet (fun e => nomatch e) (fun _ e => nomatch e) fun e => nomatch e) rfl
  have h9 := (h8.step (hdeliver (by decide)) rfl).step (a := Label.stop)
    ⟨fun e => (nomatch e), fun _ e => (nomatch e), fun _ => rfl⟩ rfl
  have h10 := (h9.step (hdeliver (by decide)) rfl).step (hdeliver (by decide)) rfl
  exact pauses_in_step (h10.step (hdeliver (by decide)) rfl)

/-- A pause before the speech has started: the start is reported as `resumed`,
and the pipeline stays in PAUSED with `m_isPaused` false. -/
theorem pauses_out_of_step : ∃ st, machine.Reachable st ∧ ¬ InStep st := by
  refine ⟨_, Machine.reachable_of_exec (s := begun) begun_begins
    [.play, .pause 4, .deliver, .deliver, .deliver, .deliver] rfl, fun h => ?_⟩
  exact absurd ((h.rests rfl).mpr rfl) (by decide)

end SpeechPlay

end TTS
