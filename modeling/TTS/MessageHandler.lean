import TTS.History
import TTS.SessionCalls

/-!
# The message handler and the speech

`handleMessage` takes `m_stateMutex`, looks at `m_clientSpeaking` and reads
through `m_currentSpeech`. The first is set before the second and cleared after
it, and `speakText` sets and clears the second without the lock. One step of the
handler is one read or write of what it shares with the thread, so the thread
may overtake it.
-/

namespace TTS

open Transition

/-- `m_clientSpeaking` is set and `m_currentSpeech` is not: from
`setSpeakingState(true)` to the assignment in `speakText`, and from its end, or
where its body is skipped, to `setSpeakingState(false)`. -/
def ThreadPc.inWindow (current : Option SpeechData) : ThreadPc → Bool
  | .willSpeak _ | .speakTest _ | .speakEnter _ | .speakGuard _ | .choose _ | .chooseNetwork _ | .choosePlayback _
  | .report _ _ | .clearSpeaking => true
  | .speakLeave _ => current.isNone
  | _ => false

namespace SpeakerSystem

def inWindow (st : SpeakerSystem) : Bool := st.pc.inWindow st.speaker.currentSpeech

/-- The client that is spoken for has its speech behind `m_currentSpeech`. -/
def SpeechBehindClient (st : SpeakerSystem) : Prop :=
  ∀ c, st.speaker.clientSpeaking = some c → ∃ d, st.speaker.currentSpeech = some d ∧ d.client = c

end SpeakerSystem

/-- What the handler calls a client for. -/
inductive Notice
  | started
  | paused
  | resumed
  deriving DecidableEq, Repr

def Notice.callback : Notice → Callback
  | .started => .started
  | .paused => .paused
  | .resumed => .resumed

/-- Where `handleMessage` stands; past `changed` it holds `m_stateMutex`. -/
inductive MessagePc
  | idle
  -- `m_pipeline` was found
  | begun (message : GstMessage)
  | errorSet
  | changed (old new : GstState)
  | playingTest (c : Nat)
  | resumedClear (c : Nat)
  | pausedTest (c : Nat)
  | readId (c : Nat) (notice : Notice)
  | readText (c : Nat) (d : SpeechData)
  | call (c : Nat) (notice : Notice) (d : SpeechData)
  deriving DecidableEq, Repr

namespace MessagePc

/-- The client found behind `m_clientSpeaking`, as long as `m_stateMutex` is held. -/
def client : MessagePc → Option Nat
  | .playingTest c | .resumedClear c | .pausedTest c | .readId c _ | .readText c _ | .call c _ _ => some c
  | _ => none

/-- The next step reads through `m_currentSpeech`. -/
def reads : MessagePc → Bool
  | .readId _ _ | .readText _ _ => true
  | _ => false

def run (s : TTSSpeaker) : MessagePc → Option (Except Fault (Move MessagePc))
  | .idle => none
  | .begun (.error network) => go .errorSet { s with networkError := s.networkError || network }
  | .errorSet => go .idle { s with pipelineError := true }
  | .begun .eos => go .idle { s with isEOS := true }
  -- a message that does not come from `m_pipeline` is ignored
  | .begun (.stateChanged old new) => go (if s.pipeline then .changed old new else .idle) s
  | .changed .paused .playing => go ((s.clientSpeaking.map .playingTest).getD .idle) s
  | .changed .playing .paused => go ((s.clientSpeaking.map .pausedTest).getD .idle) s
  | .changed _ _ => go .idle s
  | .playingTest c => go (if s.isPaused then .resumedClear c else .readId c .started) s
  | .resumedClear c => go (.readId c .resumed) { s with isPaused := false }
  | .pausedTest c => go (if s.isPaused then .readId c .paused else .idle) s
  | .readId c notice => current s fun d => if notice = .started then .readText c d else .call c notice d
  | .readText c d => current s fun e => .call c .started { d with text := e.text }
  | .call c notice d => some (.ok ⟨.idle, s, [.callback c notice.callback d]⟩)
where
  go (pc : MessagePc) (s : TTSSpeaker) : Option (Except Fault (Move MessagePc)) := some (.ok ⟨pc, s, []⟩)
  current (s : TTSSpeaker) (next : SpeechData → MessagePc) : Option (Except Fault (Move MessagePc)) :=
    match s.currentSpeech with
    | none => some (.error .nullSpeech)
    | some d => some (.ok ⟨next d, s, []⟩)

/-- The handler on its own, for at most so many steps. -/
def alone (s : TTSSpeaker) (log : List Record) : Nat → MessagePc → Except Fault (TTSSpeaker × List Record)
  | 0, _ => .ok (s, log)
  | n + 1, pc =>
    match pc.run s with
    | none => .ok (s, log)
    | some (.error f) => .error f
    | some (.ok mv) => mv.pc.alone mv.speaker (log ++ mv.log) n

/-- **Undisturbed, the steps are `handleMessage`.** -/
theorem alone_begun (s : TTSSpeaker) (hp : s.pipeline = true) (message : GstMessage) :
    (begun message).alone s [] 7 =
      match s.handleMessage message with
      | none => .error .nullSpeech
      | some (cbs, s') => .ok (s', cbs.map fun cb => .callback cb.1 cb.2.1 cb.2.2) := by
  cases message with
  | error network => rfl
  | eos => rfl
  | stateChanged old new =>
    cases old <;> cases new <;> first
      | (simp [alone, run, run.go, hp, TTSSpeaker.handleMessage]; done)
      | (cases hc : s.clientSpeaking <;> cases hd : s.currentSpeech <;> cases hi : s.isPaused <;>
          simp [alone, run, run.go, run.current, hp, hc, hd, hi, TTSSpeaker.handleMessage, TTSSpeaker.notifyClient,
            Notice.callback])

end MessagePc

/-- The speaker and the main loop that handles the messages of its pipeline. -/
structure Dispatch where
  system : SpeakerSystem
  handler : MessagePc

namespace Dispatch

/-- Besides the bus in its order, any message may be dispatched while there is a pipeline. -/
inductive Label
  | system (a : SpeakerSystem.Label)
  | deliver
  | dispatch (message : GstMessage)
  | handler
  deriving DecidableEq, Repr

end Dispatch

/-- The step is one under `m_stateMutex`. -/
def ThreadPc.locksState : ThreadPc → Bool
  | .setSpeaking _ | .clearSpeaking => true
  | _ => false

def CallPc.locksState : CallPc → Bool
  | .sessionTest _ _ | .clearTest _ _ | .stateCurrent _ _ => true
  | _ => false

namespace Dispatch

def waitsForState (st : SpeakerSystem) : SpeakerSystem.Label → Bool
  | .thread _ => st.pc.locksState
  | .caller i => (st.callers i).locksState
  | _ => false

def begins (st : Dispatch) (message : GstMessage) : Option Dispatch :=
  if st.system.fault.isNone ∧ st.system.speaker.pipeline ∧ st.handler = .idle then some { st with handler := .begun message }
  else none

def deliverStep (st : Dispatch) : Option Dispatch :=
  match st.system.speaker.bus with
  | [] => none
  | message :: rest =>
    { st with system := { st.system with speaker := { st.system.speaker with bus := rest } } }.begins message

def handlerStep (st : Dispatch) : Option Dispatch :=
  if st.system.fault.isSome then none
  else
    (st.handler.run st.system.speaker).map fun
      | .error f => { st with system := { st.system with fault := some f } }
      | .ok mv => ⟨{ st.system with speaker := mv.speaker, log := st.system.log ++ mv.log }, mv.pc⟩

def step (st : Dispatch) : Label → Option Dispatch
  | .system .deliver => none
  | .system a =>
    if waitsForState st.system a && st.handler.client.isSome then none
    else (SpeakerSystem.machine.step st.system a).map fun system => { st with system := system }
  | .deliver => st.deliverStep
  | .dispatch message => st.begins message
  | .handler => st.handlerStep

def new (maxFailures : Nat) : Dispatch := ⟨.new maxFailures, .idle⟩

def machine : Machine Dispatch Label where
  init st := ∃ maxFailures, st = new maxFailures
  step := step

/-- The handler does not read through `m_currentSpeech` in the window. -/
def inPlace (st : Dispatch) (a : Label) : Bool := !(a = .handler && st.handler.reads && st.system.inWindow)

end Dispatch

/-! ## The thread's position and the two pointers -/

namespace ThreadPc

def Points (s : TTSSpeaker) : ThreadPc → Prop
  | .willSpeak d | .speakTest d | .speakEnter d | .speakGuard d | .choose d | .chooseNetwork d | .choosePlayback d
  | .report d _ => s.clientSpeaking = some d.client ∧ s.currentSpeech = none
  | .speakPlay d | .waitAudio d | .audioStop d | .audioEnd d =>
    s.clientSpeaking = some d.client ∧ s.currentSpeech = some d
  | .speakLeave d => s.clientSpeaking = some d.client ∧ (s.currentSpeech = some d ∨ s.currentSpeech = none)
  | .clearSpeaking => s.clientSpeaking.isSome = true ∧ s.currentSpeech = none
  | _ => s.clientSpeaking = none ∧ s.currentSpeech = none

theorem Points.congr {pc : ThreadPc} {s s' : TTSSpeaker} (h : pc.Points s) (hc : s'.clientSpeaking = s.clientSpeaking)
    (hs : s'.currentSpeech = s.currentSpeech) : pc.Points s' := by
  cases pc <;> simp only [Points, hc, hs] at h ⊢ <;> exact h

theorem points_of_free {pc : ThreadPc} {s : TTSSpeaker} (hf : pc.stage = .free) :
    pc.Points s ↔ s.clientSpeaking = none ∧ s.currentSpeech = none := by
  cases pc <;> first | exact Iff.rfl | cases hf

theorem run_points {pc : ThreadPc} {s : TTSSpeaker} (h : pc.Points s) {choice : Bool} {mv : Move ThreadPc}
    (hr : pc.run choice s = some (.ok mv)) : mv.pc.Points mv.speaker := by
  by_cases hf : pc.stage = .free
  · have hnone := (points_of_free hf).mp h
    rcases run_of_free hf hr with ⟨hst, -, view, hcur⟩ | ⟨d, rest, -, ⟨rfl, rfl⟩ | ⟨rfl, rfl⟩⟩
    · exact (points_of_free hst).mpr ⟨view.clientSpeaking.trans hnone.1, hcur.trans hnone.2⟩
    · exact h
    · exact h
  cases pc with
  | setSpeaking d =>
    obtain rfl := Except.ok.inj (Option.some.inj hr)
    exact ⟨rfl, h.2⟩
  | speakTest d =>
    simp only [run, run.go] at hr
    obtain rfl := Except.ok.inj (Option.some.inj hr)
    simp only
    split <;> exact h
  | speakGuard d =>
    simp only [run, run.go] at hr
    split at hr
    · obtain rfl := Except.ok.inj (Option.some.inj hr)
      exact ⟨h.1, rfl⟩
    · obtain rfl := Except.ok.inj (Option.some.inj hr)
      exact ⟨h.1, .inr h.2⟩
  | waitAudio d =>
    simp only [run, run.go] at hr
    split at hr
    · obtain rfl := Except.ok.inj (Option.some.inj hr)
      exact h
    · cases hr
  | audioStop d =>
    obtain rfl := Except.ok.inj (Option.some.inj hr)
    simp only
    split <;> exact h
  | audioEnd d =>
    obtain rfl := Except.ok.inj (Option.some.inj hr)
    exact ⟨h.1, .inl h.2⟩
  | speakLeave d =>
    obtain rfl := Except.ok.inj (Option.some.inj hr)
    exact ⟨h.1, rfl⟩
  | choose d | chooseNetwork d =>
    simp only [run, run.go, run.say] at hr
    split at hr <;> (obtain rfl := Except.ok.inj (Option.some.inj hr); exact h)
  | report d k =>
    obtain rfl := Except.ok.inj (Option.some.inj hr)
    exact ⟨by rw [h.1]; rfl, h.2⟩
  | clearSpeaking =>
    obtain rfl := Except.ok.inj (Option.some.inj hr)
    exact ⟨rfl, h.2⟩
  | willSpeak | speakEnter | speakPlay | choosePlayback | failedReport =>
    obtain rfl := Except.ok.inj (Option.some.inj hr)
    exact h
  | _ => exact absurd rfl hf

end ThreadPc

namespace SpeakerSystem

theorem inWindow_iff {st : SpeakerSystem} (h : st.pc.Points st.speaker) :
    st.inWindow = true ↔ st.speaker.clientSpeaking.isSome = true ∧ st.speaker.currentSpeech = none := by
  unfold inWindow
  generalize st.pc = pc at h
  cases pc <;> simp only [ThreadPc.Points] at h <;> simp [ThreadPc.inWindow, h]

theorem speechBehindClient_iff {st : SpeakerSystem} (h : st.pc.Points st.speaker) :
    st.SpeechBehindClient ↔ st.inWindow = false := by
  have hown : ∀ d c, st.speaker.currentSpeech = some d → st.speaker.clientSpeaking = some c → d.client = c := by
    intro d c hd hc
    generalize st.pc = pc at h
    cases pc <;> simp_all [ThreadPc.Points]
  rw [← Bool.not_eq_true, inWindow_iff h]
  constructor
  · rintro hb ⟨hc, hd⟩
    obtain ⟨c, hc⟩ := Option.isSome_iff_exists.mp hc
    obtain ⟨d, hd', -⟩ := hb c hc
    exact nomatch hd.symm.trans hd'
  · intro hn c hc
    cases hd : st.speaker.currentSpeech with
    | none => exact absurd ⟨by rw [hc]; rfl, hd⟩ hn
    | some d => exact ⟨d, rfl, hown d c hd hc⟩

end SpeakerSystem

/-! ## Runs -/

namespace MessagePc

/-- What a step of the handler changes and what it logs. -/
theorem run_frame {pc : MessagePc} {s : TTSSpeaker} {mv : Move MessagePc} (hr : pc.run s = some (.ok mv)) :
    (∃ n p e i, mv.speaker = { s with networkError := n, pipelineError := p, isEOS := e, isPaused := i }) ∧
      (mv.log = [] ∨ ∃ c notice d, pc = .call c notice d ∧ mv = ⟨.idle, s, [.callback c notice.callback d]⟩) := by
  have hcurrent : ∀ next, run.current s next = some (.ok mv) → mv.speaker = s ∧ mv.log = [] := by
    intro next hr
    unfold run.current at hr
    split at hr
    · cases hr
    · cases hr
      exact ⟨rfl, rfl⟩
  cases pc with
  | idle => cases hr
  | call c notice d =>
    cases hr
    exact ⟨⟨_, _, _, _, rfl⟩, .inr ⟨c, notice, d, rfl, rfl⟩⟩
  | readId | readText =>
    obtain ⟨hs, hlog⟩ := hcurrent _ hr
    exact ⟨⟨_, _, _, _, hs⟩, .inl hlog⟩
  | begun message => cases message <;> (cases hr; exact ⟨⟨_, _, _, _, rfl⟩, .inl rfl⟩)
  | changed old new => cases old <;> cases new <;> (cases hr; exact ⟨⟨_, _, _, _, rfl⟩, .inl rfl⟩)
  | _ =>
    cases hr
    exact ⟨⟨_, _, _, _, rfl⟩, .inl rfl⟩

/-- The client is taken from `m_clientSpeaking`, and kept as long as the mutex is held. -/
theorem run_client {pc : MessagePc} {s : TTSSpeaker} {mv : Move MessagePc} (hr : pc.run s = some (.ok mv)) {c : Nat}
    (hc : mv.pc.client = some c) : s.clientSpeaking = some c ∨ pc.client = some c := by
  have hcurrent : ∀ {next : SpeechData → MessagePc}, run.current s next = some (.ok mv) → ∃ d, mv.pc = next d := by
    intro next hr
    unfold run.current at hr
    split at hr <;> cases hr
    exact ⟨_, rfl⟩
  cases pc with
  | idle => cases hr
  | begun message =>
    cases message with
    | stateChanged old new =>
      cases hr
      simp only at hc
      split at hc <;> cases hc
    | _ =>
      cases hr
      cases hc
  | changed old new =>
    left
    cases old <;> cases new <;> cases hr <;> first
      | cases hc
      | (cases hs : s.clientSpeaking <;> simp only [hs, Option.map_none, Option.map_some, Option.getD_none, Option.getD_some] at hc <;>
          cases hc
         rfl)
  | playingTest c' =>
    right
    cases hr
    simp only at hc
    split at hc <;> exact hc
  | pausedTest c' =>
    right
    cases hr
    simp only at hc
    split at hc
    · exact hc
    · cases hc
  | readId c' notice =>
    right
    obtain ⟨d, hd⟩ := hcurrent hr
    rw [hd] at hc
    split at hc <;> exact hc
  | readText c' d =>
    right
    obtain ⟨e, he⟩ := hcurrent hr
    rw [he] at hc
    exact hc
  | resumedClear c' =>
    right
    cases hr
    exact hc
  | errorSet | call =>
    cases hr
    cases hc

theorem run_error {pc : MessagePc} {s : TTSSpeaker} {f : Fault} (hr : pc.run s = some (.error f)) :
    pc.reads = true ∧ s.currentSpeech = none ∧ f = .nullSpeech := by
  have hcurrent : ∀ {next : SpeechData → MessagePc}, run.current s next = some (.error f) →
      s.currentSpeech = none ∧ f = .nullSpeech := by
    intro next hr
    unfold run.current at hr
    split at hr <;> cases hr
    exact ⟨‹_›, rfl⟩
  cases pc with
  | readId | readText => exact ⟨rfl, hcurrent hr⟩
  | begun message => cases message <;> cases hr
  | changed old new => cases old <;> cases new <;> cases hr
  | _ => cases hr

theorem run_reads {pc : MessagePc} {s : TTSSpeaker} (hp : pc.reads = true) (hs : s.currentSpeech = none) :
    pc.run s = some (.error .nullSpeech) := by
  cases pc with
  | readId | readText => simp [run, run.current, hs]
  | _ => cases hp

end MessagePc

namespace Dispatch

inductive Ran (st : Dispatch) : Label → Dispatch → Prop
  | system {a system} (other : a ≠ .deliver) (free : (waitsForState st.system a && st.handler.client.isSome) = false)
    (step : SpeakerSystem.machine.step st.system a = some system) : Ran st (.system a) { st with system := system }
  | deliver {message rest} (bus : st.system.speaker.bus = message :: rest) (idle : st.handler = .idle) :
    Ran st .deliver ⟨{ st.system with speaker := { st.system.speaker with bus := rest } }, .begun message⟩
  | dispatch {message} (idle : st.handler = .idle) : Ran st (.dispatch message) { st with handler := .begun message }
  | nullSpeech (reads : st.handler.reads = true) (speech : st.system.speaker.currentSpeech = none) :
    Ran st .handler { st with system := { st.system with fault := some .nullSpeech } }
  | handler {mv : Move MessagePc} (run : st.handler.run st.system.speaker = some (.ok mv)) :
    Ran st .handler ⟨{ st.system with speaker := mv.speaker, log := st.system.log ++ mv.log }, mv.pc⟩

theorem step_ran {st st' : Dispatch} {a : Label} (hs : machine.step st a = some st') : st.Ran a st' := by
  cases a with
  | system a =>
    by_cases hd : a = .deliver
    · rw [hd] at hs
      cases hs
    · have hstep : machine.step st (.system a) = if waitsForState st.system a && st.handler.client.isSome then none
          else (SpeakerSystem.machine.step st.system a).map fun system => { st with system := system } := by
        cases a <;> first | rfl | exact absurd rfl hd
      rw [hstep, Option.ite_none_left_eq_some, Option.map_eq_some_iff, Bool.not_eq_true] at hs
      obtain ⟨hfree, system, hsystem, rfl⟩ := hs
      exact .system hd hfree hsystem
  | deliver =>
    simp only [machine, step, deliverStep] at hs
    split at hs
    · cases hs
    · simp only [begins, Option.ite_none_right_eq_some, Option.some.injEq] at hs
      obtain ⟨⟨-, -, hidle⟩, rfl⟩ := hs
      exact .deliver ‹_› hidle
  | dispatch message =>
    simp only [machine, step, begins, Option.ite_none_right_eq_some, Option.some.injEq] at hs
    obtain ⟨⟨-, -, hidle⟩, rfl⟩ := hs
    exact .dispatch hidle
  | handler =>
    simp only [machine, step, handlerStep, Option.ite_none_left_eq_some, Option.map_eq_some_iff] at hs
    obtain ⟨-, r, hr, rfl⟩ := hs
    cases r with
    | error f =>
      obtain ⟨hreads, hspeech, rfl⟩ := MessagePc.run_error hr
      exact .nullSpeech hreads hspeech
    | ok mv => exact .handler hr

/-- The thread stands where the pointers say, and the handler holds `m_stateMutex` for the client that is spoken for. -/
structure Pointed (st : Dispatch) : Prop where
  points : st.system.pc.Points st.system.speaker
  client : ∀ c, st.handler.client = some c → st.system.speaker.clientSpeaking = some c

theorem thread_client {pc : ThreadPc} {s : TTSSpeaker} {choice : Bool} {mv : Move ThreadPc}
    (hr : pc.run choice s = some (.ok mv)) (hfree : pc.locksState = false) : mv.speaker.clientSpeaking = s.clientSpeaking := by
  by_cases hf : pc.stage = .free
  · rcases ThreadPc.run_of_free hf hr with ⟨-, -, view, -⟩ | ⟨d, rest, -, ⟨-, rfl⟩ | ⟨-, rfl⟩⟩
    · exact view.clientSpeaking
    · rfl
    · rfl
  have hmoves := ThreadPc.run_moves hr
  generalize mv.log = log at hmoves
  generalize mv.speaker = s' at hmoves ⊢
  cases hmoves with
  | quiet _ view | failReport _ _ view => exact view.clientSpeaking
  | speak stage =>
    cases pc <;> cases stage
    cases hfree
  | clear stage =>
    cases pc <;> cases stage
    cases hfree
  | take | fail | interrupt | pass | pick | report => rfl

theorem system_pointed {st st' : SpeakerSystem} {a : SpeakerSystem.Label} (h : st.pc.Points st.speaker)
    (hs : SpeakerSystem.machine.step st a = some st') : st'.pc.Points st'.speaker := by
  cases SpeakerSystem.step_ran hs with
  | popEmpty | call | nullSpeech => exact h
  | thread _ run => exact ThreadPc.run_points h run
  | caller _ run => exact h.congr (CallPc.run_moves run).keepsSpeaking.clientSpeaking (CallPc.run_currentSpeech run)
  | post => exact h.congr rfl rfl
  | deliver _ handled =>
    obtain ⟨⟨_, _, _, _, rfl⟩, -⟩ := handleMessage_frame handled
    exact h.congr rfl rfl

theorem system_client {st st' : SpeakerSystem} {a : SpeakerSystem.Label} (hs : SpeakerSystem.machine.step st a = some st')
    (hfree : waitsForState st a = false) : st'.speaker.clientSpeaking = st.speaker.clientSpeaking := by
  cases SpeakerSystem.step_ran hs with
  | popEmpty | call | nullSpeech | post => rfl
  | thread _ run => exact thread_client run hfree
  | caller _ run => exact (CallPc.run_moves run).keepsSpeaking.clientSpeaking
  | deliver _ handled =>
    obtain ⟨⟨_, _, _, _, rfl⟩, -⟩ := handleMessage_frame handled
    rfl

theorem step_pointed {st st' : Dispatch} {a : Label} (h : st.Pointed) (hs : machine.step st a = some st') :
    st'.Pointed := by
  cases step_ran hs with
  | system _ free hstep =>
    refine ⟨system_pointed h.points hstep, fun c hc => ?_⟩
    simp only at hc
    rw [hc, Option.isSome_some, Bool.and_true] at free
    rw [system_client hstep free]
    exact h.client c hc
  | deliver => exact ⟨h.points.congr rfl rfl, fun c hc => nomatch hc⟩
  | dispatch => exact ⟨h.points, fun c hc => nomatch hc⟩
  | nullSpeech => exact ⟨h.points, h.client⟩
  | @handler mv run =>
    obtain ⟨⟨_, _, _, _, hs'⟩, -⟩ := MessagePc.run_frame run
    simp only [hs']
    refine ⟨h.points.congr rfl rfl, fun c hc => ?_⟩
    rcases MessagePc.run_client run hc with hclient | hclient
    · exact hclient
    · exact h.client c hclient

theorem reachable_pointed {st : Dispatch} (h : machine.Reachable st) : st.Pointed := by
  refine Machine.Reachable.invariant (I := Pointed) ?_ (fun _ _ _ hI hs => step_pointed hI hs) h
  rintro _ ⟨maxFailures, rfl⟩
  exact ⟨⟨rfl, rfl⟩, fun c hc => nomatch hc⟩

/-- Where the handler is about to read, NULL is what it reads just in the window. -/
theorem Pointed.reads_iff {st : Dispatch} (h : st.Pointed) (hr : st.handler.reads = true) :
    st.system.inWindow = true ↔ st.system.speaker.currentSpeech = none := by
  have hclient : st.system.speaker.clientSpeaking.isSome = true := by
    obtain ⟨c, hc⟩ : ∃ c, st.handler.client = some c := by
      cases hh : st.handler with
      | readId c | readText c => exact ⟨c, rfl⟩
      | _ =>
        rw [hh] at hr
        cases hr
    rw [h.client c hc]
    rfl
  rw [SpeakerSystem.inWindow_iff h.points]
  exact ⟨fun hw => hw.2, fun hs => ⟨hclient, hs⟩⟩

/-- **The step that faults.** A step reads through a NULL `m_currentSpeech` just when
it is the handler's and reads it in the window. -/
theorem step_nullSpeech {st st' : Dispatch} {a : Label} (h : st.Pointed) (hf : st.system.fault ≠ some .nullSpeech)
    (hs : machine.step st a = some st') : st'.system.fault = some .nullSpeech ↔ inPlace st a = false := by
  have hquiet : st'.system.fault ≠ some .nullSpeech → inPlace st a = true →
      (st'.system.fault = some .nullSpeech ↔ inPlace st a = false) := by
    intro hf' hin
    rw [hin]
    exact ⟨fun he => absurd he hf', fun he => nomatch he⟩
  cases step_ran hs with
  | system other _ hstep =>
    refine hquiet ?_ rfl
    cases SpeakerSystem.step_ran hstep with
    | popEmpty => exact fun e => nomatch e
    | thread | call | caller | post => exact hf
    | nullSpeech | deliver => exact absurd rfl other
  | deliver | dispatch => exact hquiet hf rfl
  | nullSpeech reads speech =>
    have hw := (h.reads_iff reads).mpr speech
    simp [inPlace, reads, hw]
  | handler run =>
    refine hquiet hf ?_
    cases hreads : st.handler.reads with
    | false => simp [inPlace, hreads]
    | true =>
      have hspeech : st.system.speaker.currentSpeech ≠ none := fun he =>
        nomatch run.symm.trans (MessagePc.run_reads hreads he)
      have hw : st.system.inWindow = false := by
        rw [← Bool.not_eq_true]
        exact fun he => hspeech ((h.reads_iff hreads).mp he)
      simp [inPlace, hw]

theorem reachableIf_nullSpeech {st : Dispatch} (h : machine.ReachableIf (fun st a => inPlace st a = true) st) :
    st.system.fault ≠ some .nullSpeech := by
  induction h with
  | init hi =>
    obtain ⟨maxFailures, rfl⟩ := hi
    exact fun e => nomatch e
  | step hr ho hs ih =>
    intro hf
    have hout := (step_nullSpeech (reachable_pointed hr.reachable) ih hs).mp hf
    exact nomatch ho.symm.trans hout

/-- **The handler and the speech.** The client spoken for has its speech behind
`m_currentSpeech` just outside the window; in runs where the handler does not
read `m_currentSpeech` in the window, it reads through no NULL. -/
theorem handler_finds_speech {st : Dispatch} (h : machine.Reachable st) :
    (st.system.SpeechBehindClient ↔ st.system.inWindow = false) ∧
      (machine.ReachableIf (fun st a => inPlace st a = true) st → st.system.fault ≠ some .nullSpeech) :=
  ⟨SpeakerSystem.speechBehindClient_iff (reachable_pointed h).points, reachableIf_nullSpeech⟩

/-- One message of the bus, and the steps of the handler for it. -/
def delivery (steps : Nat) : List Label := .deliver :: List.replicate steps .handler

/-- The speech is started, and the handler tells its client. -/
theorem handler_finds_speech_started :
    ∃ st : Dispatch, .callback 7 .started ⟨7, false, 1, "hi".toList, 0⟩ ∈ st.system.log ∧
      (st.system.SpeechBehindClient ↔ st.system.inWindow = false) ∧ st.system.fault ≠ some .nullSpeech := by
  have h0 : machine.ReachableIf (fun st a => inPlace st a = true) (new 1) := .init ⟨1, rfl⟩
  have h1 := h0.execIf (SpeakerSystem.toTheAudio.map .system ++ (delivery 2 ++ delivery 2 ++ delivery 6)) rfl
  have hboth := handler_finds_speech h1.reachable
  exact ⟨_, by decide, hboth.1, hboth.2 h1⟩

/-- The handler has found client 7 behind `m_clientSpeaking`; the client withdraws its
speech, and the thread clears `m_currentSpeech` before the handler reads it. -/
theorem handler_misses_speech :
    ¬∀ st, machine.Reachable st → st.system.SpeechBehindClient ∧ st.system.fault ≠ some .nullSpeech := by
  intro h
  have hst := Machine.reachable_of_exec (M := machine) (s := new 1) ⟨1, rfl⟩
    (SpeakerSystem.toTheAudio.map .system ++ (delivery 2 ++ delivery 2 ++ delivery 1) ++
      ([.call 0 (.session 7 .shut), .caller 0, .caller 0, .caller 0].map .system ++ [.handler, .handler] ++
        (List.replicate 4 (.thread false)).map .system ++ [.handler])) rfl
  exact (h _ hst).2 rfl

end Dispatch

end TTS
