import TTS.SpeakerThread

/-!
# The queue between the test and the pop

The thread tests the queue in one step and pops it in a later one. `Armed`
says what each of its positions relies on; every step of the thread keeps it,
and so does every step of a caller that does not empty the queue, or withdraw
a due pipeline update, behind the test. `dequeueData` then finds an element.
-/

namespace TTS

open Transition

def TTSSpeaker.mayRetry (s : TTSSpeaker) : Prop :=
  s.pipelineConstructionFailures < s.maxPipelineConstructionFailures

namespace ThreadPc

def Armed (s : TTSSpeaker) : ThreadPc → Prop
  | .failedDequeue | .dequeue => s.queue ≠ []
  | .waitDiffers => s.pipelineDiffers = true → s.mayConstruct = true
  | .stopTest => s.runThread = true → s.queue ≠ [] ∨ s.needsPipelineUpdate = true
  | .againMay => s.queue ≠ [] ∨ s.needsPipelineUpdate = true
  | .againDiffers => s.queue ≠ [] ∨ s.pipelineDiffers = true
  | _ => True

/-- Emptying the queue here does not send the thread to `dequeueData`. -/
def EmptyingSafe (s : TTSSpeaker) : ThreadPc → Prop
  | .failedDequeue | .dequeue => False
  | .waitDiffers => s.pipelineDiffers = true → s.mayRetry
  | .stopTest => s.runThread = true → s.mayRetry ∧ s.pipelineDiffers = true
  | .againMay => s.mayRetry ∧ s.pipelineDiffers = true
  | .againDiffers => s.pipelineDiffers = true
  | _ => True

/-- Changing `m_ensurePipeline` here, with an empty queue, does not send the thread to `dequeueData`. -/
def FlagSafe (s : TTSSpeaker) : ThreadPc → Prop
  | .waitDiffers => s.pipelineDiffers = true ∨ s.mayRetry
  | .stopTest => s.runThread = false
  | .againMay | .againDiffers => False
  | _ => True

end ThreadPc

namespace SpeakerSystem

/-- No emptying of the queue, and no change of `m_ensurePipeline` over an empty
one, between the thread's last test and its `dequeueData`. -/
def OutsideWindow (st : SpeakerSystem) (a : Label) : Prop :=
  ∀ i, a = .caller i →
    match st.callers i with
    | .flush _ => st.speaker.queue ≠ [] → st.pc.EmptyingSafe st.speaker
    | .erase client => st.speaker.queue ≠ [] → (∀ d ∈ st.speaker.queue, d.client = client) →
      st.pc.EmptyingSafe st.speaker
    | .ensure flag => st.speaker.queue = [] → flag ≠ st.speaker.ensurePipeline → st.pc.FlagSafe st.speaker
    | _ => True

def PopsElement (st : SpeakerSystem) : Prop := st.fault ≠ some .popEmpty

end SpeakerSystem

/-! ## Steps of the thread -/

namespace TTSSpeaker

theorem mayConstruct_iff (s : TTSSpeaker) : s.mayConstruct = true ↔ s.mayRetry ∨ s.queue ≠ [] := by
  unfold mayConstruct mayRetry
  cases s.queue <;> simp

theorem needsPipelineUpdate_iff (s : TTSSpeaker) :
    s.needsPipelineUpdate = true ↔ s.mayConstruct = true ∧ s.pipelineDiffers = true := by
  unfold needsPipelineUpdate
  exact Bool.and_eq_true _ _ ▸ Iff.rfl

theorem pipelineDiffers_iff (s : TTSSpeaker) : s.pipelineDiffers = true ↔ s.ensurePipeline ≠ s.pipeline := by
  unfold pipelineDiffers
  cases s.ensurePipeline <;> cases s.pipeline <;> decide

theorem dequeueData_eq_none (s : TTSSpeaker) : s.dequeueData = none ↔ s.queue = [] := by
  unfold dequeueData
  cases s.queue <;> simp

end TTSSpeaker

namespace ThreadPc

theorem run_armed {pc : ThreadPc} {s : TTSSpeaker} (h : pc.Armed s) {choice : Bool} {mv : Move ThreadPc}
    (hr : pc.run choice s = some (.ok mv)) : mv.pc.Armed mv.speaker := by
  cases pc with
  | failedTest =>
    obtain rfl := Except.ok.inj (Option.some.inj hr)
    by_cases ht : (!s.pipeline && !s.queue.isEmpty) = true
    · simp only [ht, ite_true]
      rw [Bool.and_eq_true] at ht
      exact fun hq => absurd ht.2 (by simp [hq])
    · simp only [ht]
      trivial
  | waitRun =>
    obtain rfl := Except.ok.inj (Option.some.inj hr)
    by_cases ht : s.runThread = true
    · simp only [ht, ite_true]
      trivial
    · simp only [ht]
      exact fun h => absurd h ht
  | waitEmpty =>
    obtain rfl := Except.ok.inj (Option.some.inj hr)
    cases hq : s.queue with
    | nil => trivial
    | cons d rest => exact fun _ => .inl (by simp [hq])
  | waitMay =>
    obtain rfl := Except.ok.inj (Option.some.inj hr)
    by_cases ht : s.mayConstruct = true
    · simp only [ht, ite_true]
      exact fun _ => ht
    · simp only [ht]
      trivial
  | waitDiffers =>
    obtain rfl := Except.ok.inj (Option.some.inj hr)
    by_cases ht : s.pipelineDiffers = true
    · simp only [ht, ite_true]
      exact fun _ => .inr (s.needsPipelineUpdate_iff.mpr ⟨h ht, ht⟩)
    · simp only [ht]
      trivial
  | stopTest =>
    obtain rfl := Except.ok.inj (Option.some.inj hr)
    by_cases ht : s.runThread = true
    · simp only [ht, ite_true]
      exact h ht
    · simp only [ht]
      trivial
  | againMay =>
    obtain rfl := Except.ok.inj (Option.some.inj hr)
    by_cases ht : s.mayConstruct = true
    · simp only [ht, ite_true]
      exact h.imp id fun hn => (s.needsPipelineUpdate_iff.mp hn).2
    · simp only [ht]
      exact h.resolve_right fun hn => ht (s.needsPipelineUpdate_iff.mp hn).1
  | againDiffers =>
    obtain rfl := Except.ok.inj (Option.some.inj hr)
    by_cases ht : s.pipelineDiffers = true
    · simp only [ht, ite_true]
      trivial
    · simp only [ht]
      exact h.resolve_right ht
  | failedDequeue | dequeue =>
    -- the element is there, and what follows does not rely on the queue
    simp only [run, run.pop] at hr
    split at hr
    · cases hr
    · obtain rfl := Except.ok.inj (Option.some.inj hr)
      trivial
  | create k =>
    simp only [run, run.go] at hr
    split at hr
    · obtain rfl := Except.ok.inj (Option.some.inj hr)
      cases k <;> trivial
    · obtain rfl := Except.ok.inj (Option.some.inj hr)
      cases choice <;> cases k <;> trivial
  | resetWait k =>
    simp only [run, run.go] at hr
    split at hr
    · obtain rfl := Except.ok.inj (Option.some.inj hr)
      cases k <;> trivial
    · cases hr
  | waitPredicate =>
    simp only [run] at hr
    split at hr
    · obtain rfl := Except.ok.inj (Option.some.inj hr)
      trivial
    · cases hr
  | waitAudio d =>
    simp only [run] at hr
    split at hr
    · obtain rfl := Except.ok.inj (Option.some.inj hr)
      trivial
    · cases hr
  | stopped => cases hr
  | loopTop | updateMay | updateDiffers | updateEnsure | resetTest | resetClear | speakTest | speakGuard
  | choose | chooseNetwork =>
    simp only [run, run.go, run.say] at hr
    split at hr <;> (obtain rfl := Except.ok.inj (Option.some.inj hr); trivial)
  | _ =>
    obtain rfl := Except.ok.inj (Option.some.inj hr)
    trivial

theorem armed_of_queue {pc : ThreadPc} {s : TTSSpeaker} (h : s.queue ≠ []) : pc.Armed s := by
  cases pc with
  | failedDequeue | dequeue => exact h
  | waitDiffers => exact fun _ => s.mayConstruct_iff.mpr (.inr h)
  | stopTest => exact fun _ => .inl h
  | againMay | againDiffers => exact .inl h
  | _ => trivial

theorem armed_of_emptied {pc : ThreadPc} {s : TTSSpeaker} (h : pc.EmptyingSafe s) :
    pc.Armed { s with queue := [] } := by
  have hmay : s.mayRetry → ({ s with queue := [] } : TTSSpeaker).mayConstruct = true := fun h =>
    (TTSSpeaker.mayConstruct_iff _).mpr (.inl h)
  have hneeds : s.mayRetry ∧ s.pipelineDiffers = true →
      ({ s with queue := [] } : TTSSpeaker).needsPipelineUpdate = true := fun h =>
    (TTSSpeaker.needsPipelineUpdate_iff _).mpr ⟨hmay h.1, h.2⟩
  cases pc with
  | failedDequeue | dequeue => exact h.elim
  | waitDiffers => exact fun hd => hmay (h hd)
  | stopTest => exact fun hr => .inr (hneeds (h hr))
  | againMay => exact .inr (hneeds h)
  | againDiffers => exact .inr h
  | _ => trivial

theorem armed_of_flag {pc : ThreadPc} {s : TTSSpeaker} {flag : Bool} (ha : pc.Armed s) (hq : s.queue = [])
    (hne : flag ≠ s.ensurePipeline) (h : pc.FlagSafe s) : pc.Armed (s.setEnsurePipeline flag) := by
  cases pc with
  | failedDequeue | dequeue => exact absurd hq ha
  | waitDiffers =>
    intro hd
    have hd := (TTSSpeaker.pipelineDiffers_iff _).mp hd
    rcases h with h | h
    · -- the update that was due is withdrawn
      have h := s.pipelineDiffers_iff.mp h
      revert hd h hne
      simp only [TTSSpeaker.setEnsurePipeline]
      cases flag <;> cases s.ensurePipeline <;> cases s.pipeline <;> simp
    · exact (TTSSpeaker.mayConstruct_iff _).mpr (.inl h)
  | stopTest => exact fun hr => absurd (h.symm.trans hr) (fun e => nomatch e)
  | againMay | againDiffers => exact h.elim
  | _ => trivial

end ThreadPc

/-! ## Steps of the others -/

structure TTSSpeaker.SamePlan (s s' : TTSSpeaker) : Prop where
  queue : s'.queue = s.queue
  failures : s'.pipelineConstructionFailures = s.pipelineConstructionFailures
  maxFailures : s'.maxPipelineConstructionFailures = s.maxPipelineConstructionFailures
  ensurePipeline : s'.ensurePipeline = s.ensurePipeline
  pipeline : s'.pipeline = s.pipeline
  runThread : s'.runThread = s.runThread

theorem TTSSpeaker.SamePlan.armed {s s' : TTSSpeaker} (h : s.SamePlan s') {pc : ThreadPc} (ha : pc.Armed s) :
    pc.Armed s' := by
  have hmay : s'.mayConstruct = s.mayConstruct := by
    unfold TTSSpeaker.mayConstruct
    rw [h.failures, h.maxFailures, h.queue]
  have hdiff : s'.pipelineDiffers = s.pipelineDiffers := by
    unfold TTSSpeaker.pipelineDiffers
    rw [h.ensurePipeline, h.pipeline]
  have hneeds : s'.needsPipelineUpdate = s.needsPipelineUpdate := by
    unfold TTSSpeaker.needsPipelineUpdate
    rw [hmay, hdiff]
  cases pc <;> simp only [ThreadPc.Armed, h.queue, hmay, hdiff, hneeds, h.runThread] at ha ⊢ <;> exact ha

namespace SpeakerSystem

theorem caller_armed {st : SpeakerSystem} (h : st.pc.Armed st.speaker) {i : Nat}
    (ho : st.OutsideWindow (.caller i)) {mv : Move CallPc} (hr : (st.callers i).run st.speaker = some mv) :
    st.pc.Armed mv.speaker := by
  have ho := ho i rfl
  generalize st.callers i = call at ho hr
  cases call with
  | idle => cases hr
  | flush d =>
    obtain rfl := Option.some.inj hr
    by_cases hq : st.speaker.queue = []
    · have hsame : st.speaker.SamePlan st.speaker.flushQueue := ⟨hq.symm, rfl, rfl, rfl, rfl, rfl⟩
      exact hsame.armed h
    · exact ThreadPc.armed_of_emptied (ho hq)
  | queue d =>
    obtain rfl := Option.some.inj hr
    exact ThreadPc.armed_of_queue (by simp [TTSSpeaker.queueData])
  | erase client =>
    obtain rfl := Option.some.inj hr
    by_cases hq' : (st.speaker.eraseFrom client).2.queue = []
    · by_cases hq : st.speaker.queue = []
      · exact TTSSpeaker.SamePlan.armed ⟨hq'.trans hq.symm, rfl, rfl, rfl, rfl, rfl⟩ h
      · have hall : ∀ d ∈ st.speaker.queue, d.client = client := by
          intro d hd
          by_contra hne
          have : d ∈ (st.speaker.eraseFrom client).2.queue := List.mem_filter.mpr ⟨hd, decide_eq_true hne⟩
          rw [hq'] at this
          cases this
        exact TTSSpeaker.SamePlan.armed (s := { st.speaker with queue := [] }) ⟨hq', rfl, rfl, rfl, rfl, rfl⟩
          (ThreadPc.armed_of_emptied (ho hq hall))
    · exact ThreadPc.armed_of_queue hq'
  | ensure flag =>
    obtain rfl := Option.some.inj hr
    by_cases hq : st.speaker.queue = []
    · by_cases hf : flag = st.speaker.ensurePipeline
      · have hsame : st.speaker.SamePlan (st.speaker.setEnsurePipeline flag) := ⟨rfl, rfl, rfl, hf, rfl, rfl⟩
        exact hsame.armed h
      · exact ThreadPc.armed_of_flag h hq hf (ho hq hf)
    · exact ThreadPc.armed_of_queue hq
  | quitRun =>
    obtain rfl := Option.some.inj hr
    cases hpc : st.pc <;> rw [hpc] at h <;> first | exact h | exact fun h => nomatch h
  | sessionTest client act | cancelTest k | clearTest client ds | pauseTest id | resumeTest id | cancelSet k
  | release client ds | stateQueue client id =>
    obtain rfl := Option.some.inj hr
    exact TTSSpeaker.SamePlan.armed (s := st.speaker) ⟨rfl, rfl, rfl, rfl, rfl, rfl⟩ h
  | stateCurrent client id =>
    simp only [CallPc.run, CallPc.run.go] at hr
    split at hr <;> (obtain rfl := Option.some.inj hr; exact h)
  | pauseSet =>
    obtain rfl := Option.some.inj hr
    refine TTSSpeaker.SamePlan.armed (s := st.speaker) ?_ h
    unfold TTSSpeaker.pausePipeline
    split <;> exact ⟨rfl, rfl, rfl, rfl, rfl, rfl⟩
  | resumeSet =>
    obtain rfl := Option.some.inj hr
    refine TTSSpeaker.SamePlan.armed (s := st.speaker) ?_ h
    unfold TTSSpeaker.resumePipeline
    split <;> exact ⟨rfl, rfl, rfl, rfl, rfl, rfl⟩
  | quitTest =>
    obtain rfl := Option.some.inj hr
    refine TTSSpeaker.SamePlan.armed (s := st.speaker) ?_ h
    simp only
    split <;> exact ⟨rfl, rfl, rfl, rfl, rfl, rfl⟩

theorem step_armed {st st' : SpeakerSystem} {a : Label} (h : st.pc.Armed st.speaker) (hf : st.PopsElement)
    (ho : st.OutsideWindow a) (hs : machine.step st a = some st') : st'.pc.Armed st'.speaker ∧ st'.PopsElement := by
  cases step_ran hs with
  | popEmpty pc queue =>
    rcases pc with hpc | hpc <;> (rw [hpc] at h; exact absurd queue h)
  | thread _ run => exact ⟨ThreadPc.run_armed h run, hf⟩
  | call => exact ⟨h, hf⟩
  | caller _ run => exact ⟨caller_armed h ho run, hf⟩
  | post => exact ⟨TTSSpeaker.SamePlan.armed (s := st.speaker) ⟨rfl, rfl, rfl, rfl, rfl, rfl⟩ h, hf⟩
  | nullSpeech => exact ⟨h, fun e => nomatch e⟩
  | deliver _ handled =>
    obtain ⟨⟨n, p, e, i, rfl⟩, -⟩ := handleMessage_frame handled
    exact ⟨TTSSpeaker.SamePlan.armed (s := st.speaker) ⟨rfl, rfl, rfl, rfl, rfl, rfl⟩ h, hf⟩

/-- **The pop finds an element.** In every run whose callers keep out of the
thread's window, `dequeueData` is never executed on an empty queue. -/
theorem dequeue_finds_element {st : SpeakerSystem} (h : machine.ReachableIf OutsideWindow st) : st.PopsElement := by
  have hI : st.pc.Armed st.speaker ∧ st.PopsElement := by
    refine Machine.ReachableIf.invariant (I := fun st : SpeakerSystem => st.pc.Armed st.speaker ∧ st.PopsElement)
      ?_ (fun _ _ _ hI ho hs => step_armed hI.1 hI.2 ho hs) h
    rintro _ ⟨maxFailures, rfl⟩
    exact ⟨trivial, fun e => nomatch e⟩
  exact hI.2

theorem dequeue_finds_element_speak :
    ∃ st, machine.exec (new 1)
        [.call 0 (.speak 7 1 "hi".toList false true), .caller 0, .caller 0, .caller 0, .thread true, .thread true,
          .thread true, .thread true, .thread true, .thread true, .thread true, .thread true, .thread true] = some st ∧
      st.pc = .setSpeaking ⟨7, false, 1, "hi".toList, 0⟩ ∧ st.PopsElement := by
  refine ⟨_, rfl, rfl, ?_⟩
  have ht : ∀ st : SpeakerSystem, st.OutsideWindow (.thread true) := fun _ _ e => nomatch e
  have h0 : machine.ReachableIf OutsideWindow (new 1) := .init ⟨1, rfl⟩
  have h1 := h0.step (a := Label.call 0 (.speak 7 1 "hi".toList false true)) (fun _ e => nomatch e) rfl
  have h2 := h1.step (a := Label.caller 0) (fun _ e => by cases e; trivial) rfl
  have h3 := h2.step (a := Label.caller 0) (fun _ e => by cases e; exact fun h => absurd rfl h) rfl
  have h4 := h3.step (a := Label.caller 0) (fun _ e => by cases e; trivial) rfl
  have h5 := ((h4.step (ht _) rfl).step (ht _) rfl).step (ht _) rfl
  have h6 := ((h5.step (ht _) rfl).step (ht _) rfl).step (ht _) rfl
  exact dequeue_finds_element (((h6.step (ht _) rfl).step (ht _) rfl).step (ht _) rfl)

/-- The thread has seen one speech, a preemptive `speak` flushes the queue,
and the thread pops. -/
theorem dequeue_on_empty : ∃ st, machine.Reachable st ∧ ¬ st.PopsElement := by
  refine ⟨_, reachable_of_run 1
    [.call 0 (.speak 7 1 "hi".toList false false), .caller 0, .thread true, .thread true, .thread true, .thread true,
      .thread true, .thread true, .thread true, .thread true, .call 1 (.speak 7 2 "ho".toList false true), .caller 1,
      .caller 1, .thread true] rfl, ?_⟩
  exact fun h => h rfl

/-! ## Behind the test -/

section
variable {st : SpeakerSystem} (hf : st.fault = none) (hm : st.queueMutex = none) (hq : st.speaker.queue = [])

include hf hm hq in
theorem dequeue_pops_empty (hpc : st.pc = .dequeue ∨ st.pc = .failedDequeue) :
    machine.exec st [.thread true] = some { st with fault := some .popEmpty } := by
  have hd := st.speaker.dequeueData_eq_none.mpr hq
  rcases hpc with hpc | hpc <;>
    simp [Machine.exec, machine, step, threadStep, hf, hm, hpc, ThreadPc.run, ThreadPc.run.pop, hd]

include hf hm hq in
theorem again_pops_empty (hn : st.speaker.needsPipelineUpdate = false) (hpc : st.pc = .againMay) :
    ∃ as, machine.exec st as = some { st with pc := .dequeue, fault := some .popEmpty } := by
  have hpop : machine.exec { st with pc := .dequeue } [.thread true] = _ := dequeue_pops_empty hf hm hq (.inl rfl)
  by_cases hmay : st.speaker.mayConstruct = true
  · have hdiff : st.speaker.pipelineDiffers = false := by
      by_contra hd
      rw [st.speaker.needsPipelineUpdate_iff.mpr ⟨hmay, by simpa using hd⟩] at hn
      cases hn
    refine ⟨[.thread true, .thread true, .thread true], ?_⟩
    simpa [Machine.exec, machine, step, threadStep, hf, hpc, ThreadPc.run, ThreadPc.run.go, ThreadPc.locks, hmay,
      hdiff] using hpop
  · refine ⟨[.thread true, .thread true], ?_⟩
    simpa [Machine.exec, machine, step, threadStep, hf, hpc, ThreadPc.run, ThreadPc.run.go, ThreadPc.locks, hmay]
      using hpop

include hf hm hq in
theorem emptied_is_popped (hr : st.speaker.runThread = true) (hn : st.speaker.needsPipelineUpdate = false)
    (hpc : st.pc = .stopTest) : ∃ as st', machine.exec st as = some st' ∧ ¬ st'.PopsElement := by
  have hagain : ∃ as, machine.exec { st with pc := .againMay } as = _ := again_pops_empty hf hm hq hn rfl
  obtain ⟨as, has⟩ := hagain
  refine ⟨.thread true :: as, { st with pc := .dequeue, fault := some .popEmpty }, ?_, fun h => h rfl⟩
  have hstep : machine.step st (.thread true) = some { st with pc := .againMay } := by
    simp [machine, step, threadStep, hf, hpc, ThreadPc.run, ThreadPc.run.go, ThreadPc.locks, hr]
  rw [Machine.exec, hstep]
  exact has

end

end SpeakerSystem

end TTS
