import TTS.History
import TTS.SpeechLedger

/-!
# Cancellations

`m_flushed` is one flag for all speeches. With `cancelCurrentSpeech` as one
step it is set while a speech is announced and cleared before the next one is,
so that a cancellation interrupts the speech it meets and no other.
-/

namespace TTS

open Transition

inductive CancelEvent
  | speaking (d : SpeechData)
  | cancel
  /-- The thread tests `m_flushed`, the first test of its choice of a callback. -/
  | choosing (d : SpeechData)
  | ended (d : SpeechData) (k : Terminal)
  deriving DecidableEq, Repr

def ThreadPc.cancelEvents : ThreadPc → List CancelEvent
  | .setSpeaking d => [.speaking d]
  | .choose d => [.choosing d]
  | .report d k => [.ended d k]
  | .failedReport d => [.ended d .playbackerror]
  | _ => []

def CallPc.cancelEvents : CallPc → List CancelEvent
  | .cancelTest _ => [.cancel]
  | _ => []

/-- Some `cancelCurrentSpeech` ran after the speech was announced and before the
thread chose its terminal callback. -/
def Cancelled (d : SpeechData) : List CancelEvent → Prop :=
  Since (.speaking d) fun since => ∃ mid after, since = mid ++ .choosing d :: after ∧ .cancel ∈ mid

def InterruptedTruly (pre : List CancelEvent) (e : CancelEvent) : Prop :=
  ∀ d k, e = .ended d k → (k = .interrupted ↔ Cancelled d pre)

namespace SpeakerSystem

def cancelEvents (st : SpeakerSystem) : Label → List CancelEvent
  | .thread _ => st.pc.cancelEvents
  | .caller i => (st.callers i).cancelEvents
  | .call _ _ | .post _ | .deliver => []

/-- Both parts of `cancelCurrentSpeech` at once; the destructor is not called. -/
def atomicStep (st : SpeakerSystem) : Label → Option SpeakerSystem
  | .call _ .destructor => none
  | .caller i =>
    match st.callers i with
    | .cancelTest _ =>
      (machine.step st (.caller i)).bind fun st' =>
        match st'.callers i with
        | .cancelSet _ => machine.step st' (.caller i)
        | _ => some st'
    | _ => machine.step st (.caller i)
  | a => machine.step st a

def atomic : Machine SpeakerSystem Label where
  init := machine.init
  step := atomicStep

theorem atomic_caller {st : SpeakerSystem} {i : Nat} (h : ∀ k, st.callers i ≠ .cancelTest k) :
    st.atomicStep (.caller i) = machine.step st (.caller i) := by
  cases hc : st.callers i with
  | cancelTest k => exact absurd hc (h k)
  | _ => simp only [atomicStep, hc]

theorem caller_ran {st st' : SpeakerSystem} {i : Nat} (h : machine.step st (.caller i) = some st') :
    ∃ mv, (st.callers i).run st.speaker = some mv ∧ st'.speaker = mv.speaker ∧ st'.pc = st.pc ∧
      st'.callers = st.setCaller i mv.pc ∧ st'.log = st.log ++ mv.log := by
  cases step_ran h with
  | caller _ run => exact ⟨_, run, rfl, rfl, rfl, rfl⟩

theorem atomic_cancel {st st' : SpeakerSystem} {i : Nat} {k : AfterCancel} (hk : st.callers i = .cancelTest k)
    (h : st.atomicStep (.caller i) = some st') :
    machine.Steps st st' ∧ st'.speaker = st.speaker.cancelCurrentSpeech ∧ st'.pc = st.pc ∧
      st'.callers = st.setCaller i k.pc ∧ st'.log = st.log := by
  simp only [atomicStep, hk, Option.bind_eq_some_iff] at h
  obtain ⟨st1, h1, h2⟩ := h
  obtain ⟨mv, hr, hsp, hpc, hca, hlog⟩ := caller_ran h1
  rw [hk] at hr
  obtain rfl := Option.some.inj hr
  rw [List.append_nil] at hlog
  have hi : st1.callers i = if st.speaker.isSpeaking then .cancelSet k else k.pc := by
    rw [hca]
    exact if_pos rfl
  by_cases hs : st.speaker.isSpeaking = true
  · -- the test holds, and the flag is set in the same step
    rw [if_pos hs] at hi
    simp only [hi] at h2
    obtain ⟨mv, hr, hsp', hpc', hca', hlog'⟩ := caller_ran h2
    rw [hi] at hr
    obtain rfl := Option.some.inj hr
    rw [List.append_nil] at hlog'
    refine ⟨.tail (.single ⟨_, h1⟩) ⟨_, h2⟩, ?_, hpc'.trans hpc, ?_, hlog'.trans hlog⟩
    · have hcancel : st.speaker.cancelCurrentSpeech = st.speaker.setFlushed := if_pos hs
      rw [hsp', hsp, hcancel]
    · rw [hca']
      funext j
      simp only [setCaller, hca]
      split <;> rfl
  · rw [if_neg hs] at hi
    have hst : st' = st1 := by
      rw [hi] at h2
      cases k <;> exact (Option.some.inj h2).symm
    subst hst
    refine ⟨.single ⟨_, h1⟩, ?_, hpc, ?_, hlog⟩
    · have hcancel : st.speaker.cancelCurrentSpeech = st.speaker := if_neg hs
      rw [hsp, hcancel]
    · rw [hca, if_neg hs]

theorem atomic_cases {st st' : SpeakerSystem} {a : Label} (h : atomic.step st a = some st') :
    (∃ i k, a = .caller i ∧ st.callers i = .cancelTest k ∧ st'.speaker = st.speaker.cancelCurrentSpeech ∧
        st'.pc = st.pc ∧ st'.callers = st.setCaller i k.pc ∧ st'.log = st.log) ∨
      machine.step st a = some st' ∧ (∀ i, a ≠ .call i .destructor) ∧
        ∀ i k, a = .caller i → st.callers i ≠ .cancelTest k := by
  cases a with
  | caller i =>
    by_cases hk : ∃ k, st.callers i = .cancelTest k
    · obtain ⟨k, hk⟩ := hk
      exact .inl ⟨i, k, rfl, hk, (atomic_cancel hk h).2⟩
    · have hne : ∀ k, st.callers i ≠ .cancelTest k := fun k he => hk ⟨k, he⟩
      refine .inr ⟨(atomic_caller hne).symm.trans h, fun _ e => (nomatch e), fun j k e => ?_⟩
      obtain rfl := Label.caller.inj e
      exact hne k
  | call i c =>
    cases c with
    | destructor => cases h
    | _ => exact .inr ⟨h, fun _ e => (nomatch e), fun _ _ e => nomatch e⟩
  | _ => exact .inr ⟨h, fun _ e => (nomatch e), fun _ _ e => nomatch e⟩

theorem atomic_steps {st st' : SpeakerSystem} {a : Label} (h : atomic.step st a = some st') : machine.Steps st st' := by
  cases a with
  | caller i =>
    by_cases hk : ∃ k, st.callers i = .cancelTest k
    · obtain ⟨k, hk⟩ := hk
      exact (atomic_cancel hk h).1
    · exact .single ⟨_, (atomic_caller fun k he => hk ⟨k, he⟩).symm.trans h⟩
  | call i c =>
    cases c with
    | destructor => cases h
    | _ => exact .single ⟨.call i _, h⟩
  | thread choice => exact .single ⟨.thread choice, h⟩
  | post message => exact .single ⟨.post message, h⟩
  | deliver => exact .single ⟨.deliver, h⟩

theorem atomic_reachable {st : SpeakerSystem} (h : atomic.Reachable st) : machine.Reachable st := by
  induction h with
  | init hi => exact .init hi
  | step _ _ hs ih => exact Machine.Reachable.steps ih (atomic_steps hs)

end SpeakerSystem

/-! ## The flag along a speech -/

namespace Stage

def announced : Stage → Option SpeechData
  | .spoken d | .unflushed d | .ending d _ => some d
  | _ => none

def speaks : Stage → Bool
  | .spoken _ | .unflushed _ | .ending _ _ | .ended => true
  | _ => false

def cancelEvents : Stage → Stage → List CancelEvent
  | .taken d, .spoken _ => [.speaking d]
  | .spoken d, .unflushed _ | .spoken d, .ending _ _ => [.choosing d]
  | .ending d k, .ended => [.ended d k]
  | .failed d, .free => [.ended d .playbackerror]
  | _, _ => []

theorem cancelEvents_self (g : Stage) : g.cancelEvents g = [] := by cases g <;> rfl

end Stage

theorem ThreadPc.cancelEvents_of_free {pc : ThreadPc} (h : pc.stage = .free) : pc.cancelEvents = [] := by
  cases pc <;> first | rfl | cases h

theorem ThreadPc.run_cancelEvents {pc : ThreadPc} {s : TTSSpeaker} {choice : Bool} {mv : Move ThreadPc}
    (hr : pc.run choice s = some (.ok mv)) : pc.cancelEvents = pc.stage.cancelEvents mv.pc.stage := by
  by_cases hf : pc.stage = .free
  · rcases run_of_free hf hr with ⟨hst, -⟩ | ⟨d, rest, -, ⟨rfl, rfl⟩ | ⟨rfl, rfl⟩⟩
    · rw [cancelEvents_of_free hf, hf, hst]
      rfl
    · rfl
    · rfl
  cases pc with
  | choose d | chooseNetwork d | speakGuard d =>
    simp only [run, run.go, run.say] at hr
    split at hr <;> (obtain rfl := Except.ok.inj (Option.some.inj hr); rfl)
  | waitAudio d =>
    simp only [run, run.go] at hr
    split at hr
    · obtain rfl := Except.ok.inj (Option.some.inj hr)
      rfl
    · cases hr
  | speakTest d =>
    simp only [run, run.go] at hr
    obtain rfl := Except.ok.inj (Option.some.inj hr)
    simp only
    split <;> rfl
  | setSpeaking | willSpeak | speakEnter | speakPlay | audioStop | audioEnd | speakLeave | choosePlayback | report
  | failedReport | clearSpeaking =>
    obtain rfl := Except.ok.inj (Option.some.inj hr)
    rfl
  | _ => exact absurd rfl hf

/-- The choice was made, for `interrupted` just when `p`, and just when a cancellation came before it. -/
def Decided (d : SpeechData) (p : Prop) (since : List CancelEvent) : Prop :=
  ∃ mid after, since = mid ++ .choosing d :: after ∧ .choosing d ∉ mid ∧ .choosing d ∉ after ∧ (p ↔ .cancel ∈ mid)

namespace Decided

variable {d : SpeechData} {p : Prop} {since es : List CancelEvent}

theorem append (h : Decided d p since) (hes : .choosing d ∉ es) : Decided d p (since ++ es) := by
  obtain ⟨mid, after, rfl, hm, ha, hp⟩ := h
  refine ⟨mid, after ++ es, by rw [List.append_assoc, List.cons_append], hm, ?_, hp⟩
  exact fun hmem => (List.mem_append.mp hmem).elim ha hes

theorem congr {q : Prop} (h : Decided d p since) (hpq : p ↔ q) : Decided d q since := by
  obtain ⟨mid, after, rfl, hm, ha, hp⟩ := h
  exact ⟨mid, after, rfl, hm, ha, hpq.symm.trans hp⟩

theorem snoc (hs : .choosing d ∉ since) (hp : p ↔ .cancel ∈ since) : Decided d p (since ++ [.choosing d]) :=
  ⟨since, [], rfl, hs, List.not_mem_nil, hp⟩

theorem cancelled_iff (h : Decided d p since) :
    (∃ mid after, since = mid ++ .choosing d :: after ∧ .cancel ∈ mid) ↔ p := by
  obtain ⟨mid, after, rfl, hm, ha, hp⟩ := h
  constructor
  · rintro ⟨mid', after', heq, hc⟩
    obtain ⟨rfl, -, -⟩ := (List.append_cons_inj_of_notMem hm ha).mp heq
    exact hp.mpr hc
  · exact fun h => ⟨mid, after, rfl, hp.mp h⟩

end Decided

def Stage.Counts (flushed : Bool) (h : List CancelEvent) : Stage → Prop
  | .spoken d => Once (.speaking d) (fun since => .choosing d ∉ since ∧ (flushed = true ↔ .cancel ∈ since)) h
  | .unflushed d => Once (.speaking d) (Decided d False) h
  | .ending d k => Once (.speaking d) (Decided d (k = .interrupted)) h
  | _ => True

theorem Stage.Counts.cancel {g : Stage} {flushed : Bool} {h : List CancelEvent} (hc : g.Counts flushed h) :
    g.Counts (flushed || g.speaks) (h ++ [.cancel]) := by
  have hother : ∀ d : SpeechData, CancelEvent.speaking d ∉ [CancelEvent.cancel] ∧
      CancelEvent.choosing d ∉ [CancelEvent.cancel] :=
    fun d => ⟨fun hm => (nomatch List.mem_singleton.mp hm), fun hm => nomatch List.mem_singleton.mp hm⟩
  cases g with
  | spoken d =>
    refine Once.append hc (hother d).1 fun since hs => ⟨fun hm => ?_, fun _ => ?_, fun _ => ?_⟩
    · exact (List.mem_append.mp hm).elim hs.1 (hother d).2
    · exact List.mem_append_right _ List.mem_cons_self
    · exact Bool.or_true flushed
  | unflushed d => exact Once.append hc (hother d).1 fun since hs => hs.append (hother d).2
  | ending d k => exact Once.append hc (hother d).1 fun since hs => hs.append (hother d).2
  | _ => trivial

/-! ## Callers -/

namespace CallPc

/-- Not inside a cancellation, nor in the destructor. -/
def whole : CallPc → Bool
  | .cancelSet _ | .quitTest | .quitRun => false
  | _ => true

theorem call_whole {c : SpeakerCall} (h : c ≠ .destructor) : c.pc.whole = true := by
  cases c with
  | speak client id text secure preemptive => cases preemptive <;> rfl
  | destructor => exact absurd rfl h
  | _ => rfl

theorem afterCancel_whole (k : AfterCancel) : k.pc.whole = true := by cases k <;> rfl

theorem run_whole {pc : CallPc} {s : TTSSpeaker} {mv : Move CallPc} (hr : pc.run s = some mv) (hw : pc.whole = true)
    (hc : ∀ k, pc ≠ .cancelTest k) : mv.pc.whole = true := by
  cases pc with
  | idle => cases hr
  | cancelTest k => exact absurd rfl (hc k)
  | cancelSet | quitTest | quitRun => cases hw
  | flush d =>
    obtain rfl := Option.some.inj hr
    cases d <;> rfl
  | sessionTest client act =>
    obtain rfl := Option.some.inj hr
    simp only
    split
    · cases act <;> rfl
    · rfl
  | clearTest | pauseTest | resumeTest =>
    obtain rfl := Option.some.inj hr
    simp only
    split <;> rfl
  | stateCurrent client id =>
    simp only [run, run.go] at hr
    split at hr <;> (obtain rfl := Option.some.inj hr; rfl)
  | _ =>
    obtain rfl := Option.some.inj hr
    rfl

theorem Moves.sameFlag {pc pc' : CallPc} {s s' : TTSSpeaker} {log : List Record} (hm : pc.Moves s pc' s' log)
    (hw : pc.whole = true) : s'.flushed = s.flushed ∧ s'.isSpeaking = s.isSpeaking := by
  cases hm with
  | cancel | quit => cases hw
  | other _ _ view => exact ⟨view.flushed, view.isSpeaking⟩
  | flush | queue | erase | found | notFound | speaking | silent | release => exact ⟨rfl, rfl⟩

end CallPc

/-! ## Runs -/

namespace SpeakerSystem

/-- `m_isSpeaking` follows the thread, and `m_flushed` is set only along with it. -/
structure FlagShows (st : SpeakerSystem) : Prop where
  isSpeaking : st.speaker.isSpeaking = st.pc.stage.speaks
  flushed : st.speaker.flushed = true → st.pc.stage.speaks = true

def KnowsAnnounced (st : SpeakerSystem) (h : List CancelEvent) : Prop :=
  ∀ d, .speaking d ∈ h → st.pc.stage.announced = some d ∨ d ∈ reportedIn st.log

structure FlagTells (st : SpeakerSystem) (h : List CancelEvent) : Prop where
  shows_flag : st.FlagShows
  announced : st.KnowsAnnounced h
  counts : st.pc.stage.Counts st.speaker.flushed h
  told : Each InterruptedTruly h

theorem KnowsAnnounced.not_mem {st : SpeakerSystem} {h : List CancelEvent} (ha : st.KnowsAnnounced h)
    (hr : machine.Reachable st) {d : SpeechData} (hd : st.pc.stage.inHand = some d)
    (hn : st.pc.stage.announced = none) : .speaking d ∉ h := by
  intro hm
  rcases ha d hm with he | he
  · rw [hn] at he
    cases he
  · exact not_reported_of_inHand hr hd he

theorem reportedIn_append {log : List Record} (log' : List Record) {d : SpeechData} (h : d ∈ reportedIn log) :
    d ∈ reportedIn (log ++ log') := by
  rw [reportedIn, List.filterMap_append]
  exact List.mem_append_left _ h

/-! ### The thread -/

section
variable {st : SpeakerSystem} {h : List CancelEvent} {pc : ThreadPc} {s : TTSSpeaker} {log : List Record}
variable (hm : st.pc.Moves st.speaker pc s log)

include hm

/-- The thread leaves `m_flushed` set only within the time in which it speaks. -/
theorem thread_flushed (hf : st.speaker.flushed = true → st.pc.stage.speaks = true) :
    s.flushed = true → pc.stage.speaks = true := by
  intro hs
  cases hm with
  | quiet stage view =>
    rw [stage]
    exact hf (view.flushed.symm.trans hs)
  | take | fail | clear => cases hs
  | failReport stage _ view =>
    have hspeaks := hf (view.flushed.symm.trans hs)
    rw [stage] at hspeaks
    cases hspeaks
  | speak _ stage' | interrupt _ stage' | pass _ stage' | pick _ stage' | report _ stage' => rw [stage']; rfl

theorem thread_flagShows (hf : st.FlagShows) : ({ st with pc := pc, speaker := s } : SpeakerSystem).FlagShows := by
  refine ⟨?_, thread_flushed hm hf.flushed⟩
  have hspeaks := hf.isSpeaking
  cases hm with
  | quiet stage view =>
    rw [stage]
    exact view.isSpeaking.trans hspeaks
  | failReport stage stage' view =>
    rw [stage] at hspeaks
    rw [stage']
    exact view.isSpeaking.trans hspeaks
  | take stage stage' | fail stage stage' | interrupt stage stage' | pass stage stage' | pick stage stage'
  | report stage stage' =>
    rw [stage] at hspeaks
    rw [stage']
    exact hspeaks
  | speak _ stage' | clear _ stage' => rw [stage']; rfl

theorem thread_announced (ha : st.KnowsAnnounced h) :
    ({ st with pc := pc, speaker := s, log := st.log ++ log } : SpeakerSystem).KnowsAnnounced
      (h ++ st.pc.stage.cancelEvents pc.stage) := by
  have hkeep : pc.stage.announced = st.pc.stage.announced → (∀ d, .speaking d ∉ st.pc.stage.cancelEvents pc.stage) →
      KnowsAnnounced { st with pc := pc, speaker := s, log := st.log ++ log }
        (h ++ st.pc.stage.cancelEvents pc.stage) := by
    intro hst hes d hd
    rcases List.mem_append.mp hd with hd | hd
    · exact (ha d hd).imp hst.trans (reportedIn_append log)
    · exact absurd hd (hes d)
  have hquiet : ∀ {g g' : Stage}, st.pc.stage = g → pc.stage = g' → g'.announced = g.announced →
      (∀ d, .speaking d ∉ g.cancelEvents g') → KnowsAnnounced { st with pc := pc, speaker := s, log := st.log ++ log }
        (h ++ st.pc.stage.cancelEvents pc.stage) := by
    rintro g g' rfl rfl hst hes
    exact hkeep hst hes
  have hother : ∀ {e : CancelEvent}, (∀ d, e ≠ .speaking d) → ∀ d, .speaking d ∉ [e] :=
    fun he d hd => he d (List.mem_singleton.mp hd).symm
  cases hm with
  | quiet stage =>
    refine hkeep (congrArg _ stage) fun d hd => ?_
    rw [stage, Stage.cancelEvents_self] at hd
    cases hd
  | take stage stage' | fail stage stage' | clear stage stage' | pick stage stage' =>
    refine hquiet stage stage' rfl fun d hd => ?_
    cases hd
  | failReport stage stage' | interrupt stage stage' | pass stage stage' =>
    exact hquiet stage stage' rfl (hother (by simp))
  | @speak d stage stage' =>
    intro d' hd
    rw [stage, stage'] at hd
    show pc.stage.announced = some d' ∨ _
    rcases List.mem_append.mp hd with hd | hd
    · rcases ha d' hd with he | he
      · rw [stage] at he
        cases he
      · exact .inr (reportedIn_append _ he)
    · rw [CancelEvent.speaking.inj (List.mem_singleton.mp hd), stage']
      exact .inl rfl
  | @report d k stage stage' =>
    intro d' hd
    rw [stage, stage'] at hd
    rcases List.mem_append.mp hd with hd | hd
    · refine .inr ?_
      rcases ha d' hd with he | he
      · rw [stage] at he
        rw [reportedIn, List.filterMap_append, ← Option.some.inj he]
        exact List.mem_append_right _ List.mem_cons_self
      · exact reportedIn_append _ he
    · have he := List.mem_singleton.mp hd
      cases he

theorem thread_counts (hf : st.FlagShows) (ha : st.KnowsAnnounced h) (hr : machine.Reachable st)
    (hc : st.pc.stage.Counts st.speaker.flushed h) :
    pc.stage.Counts s.flushed (h ++ st.pc.stage.cancelEvents pc.stage) := by
  have hchoosing : ∀ d d' : SpeechData, CancelEvent.speaking d ∉ [CancelEvent.choosing d'] :=
    fun d d' hm => nomatch List.mem_singleton.mp hm
  cases hm with
  | quiet stage view =>
    rw [stage, Stage.cancelEvents_self, List.append_nil, view.flushed]
    exact hc
  | take _ stage' | fail _ stage' | failReport _ stage' | report _ stage' | clear _ stage' =>
    rw [stage']
    trivial
  | @speak d stage stage' =>
    have hnew := ha.not_mem hr (d := d) (by rw [stage]; rfl) (by rw [stage]; rfl)
    rw [stage, stage']
    refine once_snoc hnew ⟨List.not_mem_nil, fun hflag => ?_, fun hm => nomatch hm⟩
    have hsp := hf.flushed hflag
    rw [stage] at hsp
    cases hsp
  | interrupt stage stage' flushed =>
    rw [stage] at hc
    rw [stage, stage']
    refine Once.append hc (hchoosing _ _) fun since hs => ?_
    exact .snoc hs.1 ⟨fun _ => hs.2.mp flushed, fun _ => rfl⟩
  | pass stage stage' flushed =>
    rw [stage] at hc
    rw [stage, stage']
    refine Once.append hc (hchoosing _ _) fun since hs => ?_
    refine .snoc hs.1 ⟨fun hf => hf.elim, fun hm => ?_⟩
    rw [hs.2.mpr hm] at flushed
    cases flushed
  | pick stage stage' terminal =>
    rw [stage] at hc
    rw [stage, stage']
    refine Once.append hc List.not_mem_nil fun since hs => ?_
    exact (hs.append List.not_mem_nil).congr ⟨fun hf => hf.elim, fun he => terminal he⟩

theorem thread_told (ha : st.KnowsAnnounced h) (hr : machine.Reachable st)
    (hc : st.pc.stage.Counts st.speaker.flushed h) (ht : Each InterruptedTruly h) :
    Each InterruptedTruly (h ++ st.pc.stage.cancelEvents pc.stage) := by
  have hquiet : ∀ {g g' : Stage}, st.pc.stage = g → pc.stage = g' → (∀ d k, .ended d k ∉ g.cancelEvents g') →
      Each InterruptedTruly (h ++ st.pc.stage.cancelEvents pc.stage) := by
    rintro g g' rfl rfl hes
    refine ht.append fun pre e he d k hd => ?_
    rw [hd] at he
    exact absurd he (hes d k)
  have hother : ∀ {e : CancelEvent}, (∀ d k, e ≠ .ended d k) → ∀ d k, .ended d k ∉ [e] :=
    fun he d k hd => he d k (List.mem_singleton.mp hd).symm
  cases hm with
  | quiet stage =>
    rw [stage, Stage.cancelEvents_self, List.append_nil]
    exact ht
  | take stage stage' | fail stage stage' | clear stage stage' | pick stage stage' =>
    exact hquiet stage stage' fun d k hd => nomatch hd
  | speak stage stage' | interrupt stage stage' | pass stage stage' =>
    exact hquiet stage stage' (hother fun _ _ e => nomatch e)
  | @failReport _ d stage stage' =>
    have hnew := ha.not_mem hr (d := d) (by rw [stage]; rfl) (by rw [stage]; rfl)
    rw [stage, stage']
    refine ht.snoc fun d' k hd => ?_
    obtain ⟨rfl, rfl⟩ := CancelEvent.ended.inj hd
    refine ⟨fun he => (nomatch he), ?_⟩
    rintro ⟨before, since, rfl, -⟩
    exact absurd (List.mem_append_right _ List.mem_cons_self) hnew
  | @report d k stage stage' =>
    rw [stage] at hc
    rw [stage, stage']
    refine ht.snoc fun d' k' hd => ?_
    obtain ⟨rfl, rfl⟩ := CancelEvent.ended.inj hd
    exact (hc.since_iff fun since hs => hs.cancelled_iff).symm

theorem thread_flagTells (ht : st.FlagTells h) (hr : machine.Reachable st) :
    ({ st with pc := pc, speaker := s, log := st.log ++ log } : SpeakerSystem).FlagTells
      (h ++ st.pc.stage.cancelEvents pc.stage) := by
  have hshows := thread_flagShows hm ht.shows_flag
  exact ⟨⟨hshows.isSpeaking, hshows.flushed⟩, thread_announced hm ht.announced,
    thread_counts hm ht.shows_flag ht.announced hr ht.counts, thread_told hm ht.announced hr ht.counts ht.told⟩

end

/-! ### Callers and messages -/

theorem FlagTells.same {st st' : SpeakerSystem} {h : List CancelEvent} (ht : st.FlagTells h) (hpc : st'.pc = st.pc)
    (hf : st'.speaker.flushed = st.speaker.flushed) (hs : st'.speaker.isSpeaking = st.speaker.isSpeaking)
    {log : List Record} (hlog : st'.log = st.log ++ log) : st'.FlagTells h := by
  refine ⟨⟨?_, ?_⟩, fun d hd => ?_, ?_, ht.told⟩
  · rw [hs, hpc]
    exact ht.shows_flag.isSpeaking
  · rw [hf, hpc]
    exact ht.shows_flag.flushed
  · rw [hpc, hlog]
    exact (ht.announced d hd).imp_right (reportedIn_append log)
  · rw [hpc, hf]
    exact ht.counts

theorem cancel_flagTells {st st' : SpeakerSystem} {h : List CancelEvent} (ht : st.FlagTells h)
    (hsp : st'.speaker = st.speaker.cancelCurrentSpeech) (hpc : st'.pc = st.pc) (hlog : st'.log = st.log) :
    st'.FlagTells (h ++ [.cancel]) := by
  have hspeaks := ht.shows_flag.isSpeaking
  have hflag : st'.speaker.flushed = (st.speaker.flushed || st.pc.stage.speaks) := by
    rw [hsp, TTSSpeaker.cancelCurrentSpeech, hspeaks]
    cases st.pc.stage.speaks with
    | true => exact (Bool.or_true _).symm
    | false => exact (Bool.or_false _).symm
  have hsame : st'.speaker.isSpeaking = st.speaker.isSpeaking := by
    rw [hsp, TTSSpeaker.cancelCurrentSpeech]
    split <;> rfl
  refine ⟨⟨?_, fun hf => ?_⟩, fun d hd => ?_, ?_, ht.told.snoc fun d k e => nomatch e⟩
  · rw [hsame, hpc]
    exact hspeaks
  · rw [hflag, Bool.or_eq_true] at hf
    rw [hpc]
    exact hf.elim ht.shows_flag.flushed id
  · rw [hpc, hlog]
    rcases List.mem_append.mp hd with hd | hd
    · exact ht.announced d hd
    · exact nomatch List.mem_singleton.mp hd
  · rw [hpc, hflag]
    exact ht.counts.cancel

def Whole (st : SpeakerSystem) : Prop := ∀ i, (st.callers i).whole = true

theorem setCaller_whole {st : SpeakerSystem} (hw : st.Whole) (i : Nat) {pc : CallPc} (hpc : pc.whole = true) (j : Nat) :
    (st.setCaller i pc j).whole = true := by
  unfold setCaller
  split
  · exact hpc
  · exact hw j

theorem step_flagTells {r r' : Recorded SpeakerSystem CancelEvent} {a : Label} (hw : r.state.Whole)
    (ht : r.state.FlagTells r.history) (hr : machine.Reachable r.state)
    (hs : (atomic.recorded cancelEvents).step r a = some r') : r'.state.Whole ∧ r'.state.FlagTells r'.history := by
  obtain ⟨hstep, hhist⟩ := Machine.recorded_step hs
  rcases atomic_cases hstep with ⟨i, k, rfl, hk, hsp, hpc, hca, hlog⟩ | ⟨hb, hcall, hne⟩
  · have hes : r.state.cancelEvents (.caller i) = [.cancel] := by
      simp only [cancelEvents, hk]
      rfl
    rw [hhist, hes]
    refine ⟨fun j => ?_, cancel_flagTells ht hsp hpc hlog⟩
    rw [hca]
    exact setCaller_whole hw i (CallPc.afterCancel_whole k) j
  · rw [hhist]
    have hsame : ∀ {st' : SpeakerSystem} {log : List Record}, r.state.cancelEvents a = [] → st'.pc = r.state.pc →
        st'.speaker.flushed = r.state.speaker.flushed → st'.speaker.isSpeaking = r.state.speaker.isSpeaking →
        st'.log = r.state.log ++ log → st'.FlagTells (r.history ++ r.state.cancelEvents a) := by
      intro st' log hes hpc hf hsp hlog
      rw [hes, List.append_nil]
      exact ht.same hpc hf hsp hlog
    have hnil := List.append_nil r.state.log
    generalize r'.state = st' at hb
    cases step_ran hb with
    | popEmpty pc =>
      refine ⟨hw, hsame ?_ rfl rfl rfl hnil.symm⟩
      rcases pc with hpc | hpc <;> (simp only [cancelEvents, hpc]; rfl)
    | thread _ run =>
      rw [show r.state.cancelEvents (.thread _) = _ from ThreadPc.run_cancelEvents run]
      exact ⟨hw, thread_flagTells (ThreadPc.run_moves run) ht hr⟩
    | @call i c idle =>
      have hc : c ≠ .destructor := fun e => hcall i (by rw [e])
      exact ⟨setCaller_whole hw i (CallPc.call_whole hc), hsame rfl rfl rfl rfl hnil.symm⟩
    | @caller i mv _ run =>
      have hpc := hne i
      have hkeep := (CallPc.run_moves run).sameFlag (hw i)
      refine ⟨setCaller_whole hw i (CallPc.run_whole run (hw i) fun k => hpc k rfl), hsame ?_ rfl hkeep.1 hkeep.2 rfl⟩
      simp only [cancelEvents]
      cases hc : r.state.callers i with
      | cancelTest k => exact absurd hc (hpc k rfl)
      | _ => rfl
    | post => exact ⟨hw, hsame rfl rfl rfl rfl hnil.symm⟩
    | nullSpeech => exact ⟨hw, hsame rfl rfl rfl rfl hnil.symm⟩
    | deliver _ handled =>
      obtain ⟨⟨_, _, _, _, rfl⟩, -⟩ := handleMessage_frame handled
      exact ⟨hw, hsame rfl rfl rfl rfl rfl⟩

/-- **Cancellations hit the current speech.** With `cancelCurrentSpeech` as one
step, `m_flushed` is set only while `m_isSpeaking` is, and a speech is reported
interrupted just when a cancellation came after it was announced and before the
choice of its callback. -/
theorem cancellation_hits_current {r : Recorded SpeakerSystem CancelEvent}
    (h : (atomic.recorded cancelEvents).Reachable r) :
    (r.state.speaker.flushed = true → r.state.speaker.isSpeaking = true) ∧ Each InterruptedTruly r.history := by
  have hI : r.state.Whole ∧ r.state.FlagTells r.history := by
    induction h with
    | init hi =>
      obtain ⟨⟨maxFailures, hst⟩, hh⟩ := hi
      rw [hst, hh]
      exact ⟨fun _ => rfl, ⟨rfl, fun hf => nomatch hf⟩, fun d hd => (nomatch hd), trivial, each_nil⟩
    | step hr _ hs ih =>
      have hatomic : atomic.Reachable _ := Machine.ReachableIf.forget hr
      exact step_flagTells ih.1 ih.2 (atomic_reachable hatomic) hs
  obtain ⟨-, ht⟩ := hI
  refine ⟨fun hf => ?_, ht.told⟩
  rw [ht.shows_flag.isSpeaking]
  exact ht.shows_flag.flushed hf

/-- A cancellation while nothing is spoken, one of the first of two speeches, and none of the second. -/
theorem cancellation_hits_first :
    ∃ r : Recorded SpeakerSystem CancelEvent,
      r.history = [.cancel, .speaking ⟨7, false, 1, "hi".toList, 0⟩, .cancel, .choosing ⟨7, false, 1, "hi".toList, 0⟩,
        .ended ⟨7, false, 1, "hi".toList, 0⟩ .interrupted, .speaking ⟨8, false, 2, "yo".toList, 1⟩,
        .choosing ⟨8, false, 2, "yo".toList, 1⟩, .ended ⟨8, false, 2, "yo".toList, 1⟩ .playbackerror] ∧
      (r.state.speaker.flushed = true → r.state.speaker.isSpeaking = true) ∧ Each InterruptedTruly r.history := by
  have hr := Machine.reachable_of_exec (M := atomic.recorded cancelEvents) (s := ⟨new 1, []⟩) ⟨⟨1, rfl⟩, rfl⟩
    ([.call 0 .reset, .caller 0, .caller 0, .call 0 (.speak 7 1 "hi".toList false false), .caller 0,
      .call 0 (.speak 8 2 "yo".toList false false), .caller 0] ++ List.replicate 11 (.thread true) ++
      [.call 1 (.session 7 .shut), .caller 1, .caller 1] ++ List.replicate 26 (.thread true)) rfl
  exact ⟨_, rfl, cancellation_hits_current hr⟩

/-! ### The last test of the choice -/

/-- What `cancelEvents` records, with the choice at the test that settles it. -/
def lastTestEvents (st : SpeakerSystem) : Label → List CancelEvent
  | .thread _ =>
    match st.pc with
    | .choose d => if st.speaker.flushed then [.choosing d] else []
    | .chooseNetwork d => if st.speaker.networkError then [.choosing d] else []
    | .choosePlayback d => [.choosing d]
    | pc => pc.cancelEvents
  | a => st.cancelEvents a

/-- `m_flushed` was found false, `shut` cancels before `m_pipelineError` is tested, and the speech ends as spoken. -/
theorem cancellation_after_flushed_test :
    ∃ r : Recorded SpeakerSystem CancelEvent, (atomic.recorded lastTestEvents).Reachable r ∧
      r.history = [.speaking ⟨7, false, 1, "hi".toList, 0⟩, .cancel, .choosing ⟨7, false, 1, "hi".toList, 0⟩,
        .ended ⟨7, false, 1, "hi".toList, 0⟩ .spoke] ∧ ¬ Each InterruptedTruly r.history := by
  refine ⟨_, Machine.reachable_of_exec (M := atomic.recorded lastTestEvents) (s := ⟨new 1, []⟩) ⟨⟨1, rfl⟩, rfl⟩
    (toTheAudio ++ List.replicate 6 (.thread true) ++ [.call 0 (.session 7 .shut), .caller 0, .caller 0] ++
      List.replicate 3 (.thread true)) rfl, rfl, fun heach => ?_⟩
  have htold := heach [_, _, _] _ [] rfl _ _ rfl
  exact nomatch htold.mpr ⟨[], [_, _], rfl, [_], [], rfl, List.mem_cons_self⟩

end SpeakerSystem

end TTS
