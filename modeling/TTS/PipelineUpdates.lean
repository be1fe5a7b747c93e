import TTS.History
import TTS.QueueWindow
import TTS.ConfigurationCodec

/-!
# When the thread blocks over its pipeline

Where the thread blocks, `needsPipelineUpdate` is false: the pipeline is as it
is wanted, or the failure counter has reached the threshold. Both are kept in
8 bits, and a playback error reported after a speech leaves the counter alone.
-/

namespace TTS

open Transition

/-- `INT_FROM_ENV`; `value` is what `atoi` makes of the variable, if it is set. -/
def intFromEnv (value : Option Int) (default_value : Int) : Int :=
  if value.getD 0 > 0 then value.getD 0 else default_value

inductive PipelineEvent
  | failed
  | succeeded
  | destroyed
  | playbackError
  deriving DecidableEq, Repr

def ThreadPc.pipelineEvents (choice : Bool) (s : TTSSpeaker) : ThreadPc → List PipelineEvent
  | .create _ => if !s.ensurePipeline || s.pipeline then [] else [if choice then .succeeded else .failed]
  | .updateDestroy | .resetDestroy _ | .exitDestroy => [.destroyed]
  | .failedReport _ | .report _ .playbackerror => [.playbackError]
  | _ => []

/-- The failures since the last event of another kind. -/
def failuresSince (h : List PipelineEvent) : Nat := (h.reverse.takeWhile (· = .failed)).length

namespace SpeakerSystem

def pipelineEvents (st : SpeakerSystem) : Label → List PipelineEvent
  | .thread choice => st.pc.pipelineEvents choice st.speaker
  | .call _ _ | .caller _ | .post _ | .deliver => []

/-- The machine of a process whose `MAX_PIPELINE_FAILURE_THRESHOLD` is `value`. -/
def machineWith (value : Option Int) : Machine SpeakerSystem Label where
  init st := st = .new (toUint8 (intFromEnv value 1))
  step := step

def Blocked (st : SpeakerSystem) : Prop := st.pc = .waitPredicate ∧ ThreadPc.hasInput st.speaker = false

/-- No playback error is reported after a speech while failures are counted. -/
def ReportsCounted (st : SpeakerSystem) (a : Label) : Prop :=
  ∀ choice d, a = .thread choice → st.pc = .report d .playbackerror → st.speaker.pipelineConstructionFailures = 0

end SpeakerSystem

structure Reconciled (threshold : Int) (s : TTSSpeaker) (h : List PipelineEvent) : Prop where
  wanted : s.pipeline = true → s.ensurePipeline = true
  failed : s.pipeline = false → s.ensurePipeline = true → threshold ≤ failuresSince h

/-! ## The counter -/

theorem failuresSince_append_nil (h : List PipelineEvent) : failuresSince (h ++ []) = failuresSince h :=
  congrArg failuresSince (List.append_nil h)

theorem failuresSince_failed (h : List PipelineEvent) : failuresSince (h ++ [.failed]) = failuresSince h + 1 := by
  simp [failuresSince]

/-- What one step does to the counter and the pipeline, by the events it writes. -/
inductive Accounts (s s' : TTSSpeaker) : List PipelineEvent → Prop
  | same (failures : s'.pipelineConstructionFailures = s.pipelineConstructionFailures)
      (pipeline : s'.pipeline = s.pipeline) : Accounts s s' []
  | failed (failures : s'.pipelineConstructionFailures = (s.pipelineConstructionFailures + 1) % 256)
      (pipeline : s'.pipeline = false) : Accounts s s' [.failed]
  | reset {e : PipelineEvent} (other : e ≠ .failed) (failures : s'.pipelineConstructionFailures = 0) : Accounts s s' [e]

/-- The counter is 0 over a pipeline and never exceeds the failures there were. -/
structure Counted (m : Nat) (s : TTSSpeaker) (h : List PipelineEvent) : Prop where
  maxFailures : s.maxPipelineConstructionFailures = m
  pipeline : s.pipeline = true → s.pipelineConstructionFailures = 0
  failures : s.pipelineConstructionFailures ≤ failuresSince h

theorem Counted.accounts {m : Nat} {s s' : TTSSpeaker} {h es : List PipelineEvent} (hc : Counted m s h)
    (hm : s'.maxPipelineConstructionFailures = s.maxPipelineConstructionFailures) (ha : Accounts s s' es) :
    Counted m s' (h ++ es) := by
  refine ⟨hm.trans hc.maxFailures, ?_, ?_⟩
  · intro hp
    cases ha with
    | same failures pipeline =>
      rw [failures]
      exact hc.pipeline (pipeline.symm.trans hp)
    | failed _ pipeline =>
      rw [pipeline] at hp
      cases hp
    | reset _ failures => exact failures
  · cases ha with
    | same failures _ =>
      rw [failuresSince_append_nil, failures]
      exact hc.failures
    | failed failures _ =>
      rw [failuresSince_failed, failures]
      have hle := Nat.mod_le (s.pipelineConstructionFailures + 1) 256
      have hcount := hc.failures
      omega
    | reset other failures =>
      rw [failures]
      exact Nat.zero_le _

/-- Blocked over a threshold of at least 1, the thread has its pipeline as it is wanted or has failed as often. -/
theorem Counted.reconciled {m : Nat} {s : TTSSpeaker} {h : List PipelineEvent} (hc : Counted m s h) (hm : 0 < m)
    (hb : ThreadPc.hasInput s = false) : Reconciled m s h := by
  have hdiff : s.pipelineDiffers = true → m ≤ s.pipelineConstructionFailures := by
    intro hd
    apply Nat.le_of_not_lt
    intro hlt
    have hmay : s.mayConstruct = true := s.mayConstruct_iff.mpr (.inl (by rw [TTSSpeaker.mayRetry, hc.maxFailures]; exact hlt))
    have hneeds := s.needsPipelineUpdate_iff.mpr ⟨hmay, hd⟩
    simp [ThreadPc.hasInput, hneeds] at hb
  constructor
  · intro hp
    by_contra he
    have hle := hdiff (s.pipelineDiffers_iff.mpr (by rw [hp]; exact he))
    rw [hc.pipeline hp] at hle
    exact absurd hm (Nat.not_lt.mpr hle)
  · intro hp he
    have hle := hdiff (s.pipelineDiffers_iff.mpr (by rw [hp, he]; decide))
    exact_mod_cast hle.trans hc.failures

/-! ## The steps -/

namespace ThreadPc

/-- The threshold stays; the counter and the pipeline change as the events say, if
a report after a speech finds no failures counted. -/
theorem run_pipeline {pc : ThreadPc} {s : TTSSpeaker} {choice : Bool} {mv : Move ThreadPc}
    (hr : pc.run choice s = some (.ok mv))
    (hreport : ∀ d, pc = .report d .playbackerror → s.pipelineConstructionFailures = 0) :
    mv.speaker.maxPipelineConstructionFailures = s.maxPipelineConstructionFailures ∧
      Accounts s mv.speaker (pc.pipelineEvents choice s) := by
  cases pc with
  | create k =>
    simp only [run, run.go] at hr
    split at hr
    · rename_i hskip
      cases hr
      have hevents : (create k).pipelineEvents choice s = [] := if_pos hskip
      rw [hevents]
      exact ⟨rfl, .same rfl rfl⟩
    · rename_i hbuild
      cases hr
      have hevents : (create k).pipelineEvents choice s = [if choice then .succeeded else .failed] := if_neg hbuild
      rw [hevents]
      cases choice with
      | true => exact ⟨rfl, .reset (by simp) rfl⟩
      | false =>
        refine ⟨rfl, .failed rfl ?_⟩
        simp only [Bool.or_eq_true, Bool.not_eq_true', not_or, Bool.not_eq_true] at hbuild
        exact hbuild.2
  | updateDestroy | resetDestroy | exitDestroy | failedReport =>
    obtain rfl := Except.ok.inj (Option.some.inj hr)
    exact ⟨rfl, .reset (by decide) rfl⟩
  | report d k =>
    obtain rfl := Except.ok.inj (Option.some.inj hr)
    cases k with
    | playbackerror => exact ⟨rfl, .reset (by decide) (hreport d rfl)⟩
    | _ => exact ⟨rfl, .same rfl rfl⟩
  | failedDequeue | dequeue =>
    simp only [run, run.pop, TTSSpeaker.dequeueData] at hr
    cases hq : s.queue with
    | nil => simp [hq] at hr
    | cons d rest =>
      simp only [hq, Option.some.injEq, Except.ok.injEq] at hr
      subst hr
      exact ⟨rfl, .same rfl rfl⟩
  | stopped => cases hr
  | stopping | audioStop =>
    obtain rfl := Except.ok.inj (Option.some.inj hr)
    dsimp only
    split <;> exact ⟨rfl, .same rfl rfl⟩
  | waitPredicate | waitAudio | resetClear | resetWait | speakGuard | choose | chooseNetwork =>
    simp only [run, run.go, run.say] at hr
    split at hr <;> cases hr <;> exact ⟨rfl, .same rfl rfl⟩
  | _ =>
    obtain rfl := Except.ok.inj (Option.some.inj hr)
    exact ⟨rfl, .same rfl rfl⟩

end ThreadPc

theorem CallPc.run_pipeline {pc : CallPc} {s : TTSSpeaker} {mv : Move CallPc} (hr : pc.run s = some mv) :
    mv.speaker.maxPipelineConstructionFailures = s.maxPipelineConstructionFailures ∧ Accounts s mv.speaker [] := by
  cases pc with
  | idle => cases hr
  | stateCurrent client id =>
    simp only [run, run.go] at hr
    split at hr <;> cases hr <;> exact ⟨rfl, .same rfl rfl⟩
  | pauseSet | resumeSet =>
    obtain rfl := Option.some.inj hr
    simp only [TTSSpeaker.pausePipeline, TTSSpeaker.resumePipeline]
    split <;> exact ⟨rfl, .same rfl rfl⟩
  | quitTest =>
    obtain rfl := Option.some.inj hr
    dsimp only
    split <;> exact ⟨rfl, .same rfl rfl⟩
  | _ =>
    obtain rfl := Option.some.inj hr
    exact ⟨rfl, .same rfl rfl⟩

namespace SpeakerSystem

theorem step_counted {m : Nat} {st st' : SpeakerSystem} {a : Label} {h : List PipelineEvent}
    (hc : Counted m st.speaker h) (ho : st.ReportsCounted a) (hs : machine.step st a = some st') :
    Counted m st'.speaker (h ++ st.pipelineEvents a) := by
  cases step_ran hs with
  | popEmpty pc queue =>
    refine hc.accounts rfl ?_
    obtain hpc | hpc := pc <;> simp only [pipelineEvents, hpc] <;> exact .same rfl rfl
  | thread unlocked run =>
    obtain ⟨hmax, haccounts⟩ := ThreadPc.run_pipeline run fun d hd => ho _ d rfl hd
    exact hc.accounts hmax haccounts
  | call c idle => exact hc.accounts rfl (.same rfl rfl)
  | caller unlocked run =>
    obtain ⟨hmax, haccounts⟩ := CallPc.run_pipeline run
    exact hc.accounts hmax haccounts
  | post sent pipeline => exact hc.accounts rfl (.same rfl rfl)
  | nullSpeech bus handled => exact hc.accounts rfl (.same rfl rfl)
  | deliver bus handled =>
    obtain ⟨⟨n, p, e, i, rfl⟩, -⟩ := handleMessage_frame handled
    exact hc.accounts rfl (.same rfl rfl)

theorem run_counted {value : Option Int} {r : Recorded SpeakerSystem PipelineEvent}
    (h : ((machineWith value).recorded pipelineEvents).ReachableIf (fun r a => r.state.ReportsCounted a) r) :
    Counted (toUint8 (intFromEnv value 1)) r.state.speaker r.history := by
  refine h.invariant (I := fun r => Counted (toUint8 (intFromEnv value 1)) r.state.speaker r.history) ?_ ?_
  · intro r hi
    obtain ⟨hstate, hhistory⟩ := hi
    rw [hstate, hhistory]
    exact ⟨rfl, nofun, Nat.zero_le _⟩
  · intro r a r' hc ho hs
    obtain ⟨hstep, hhistory⟩ := Machine.recorded_step hs
    rw [hhistory]
    exact step_counted hc ho hstep

end SpeakerSystem

/-! ## Every attempt fails -/

/-- A pipeline is wanted, there is none, and `k` failures are counted. -/
def TTSSpeaker.starved (m k : Nat) : TTSSpeaker :=
  { TTSSpeaker.new m with ensurePipeline := true, pipelineConstructionFailures := k }

theorem TTSSpeaker.starved_mayConstruct (m k : Nat) : (starved m k).mayConstruct = decide (k < m) := by
  apply Bool.or_false

namespace SpeakerSystem

/-- A run of failures alone, as many as are counted, can end at `pc`. -/
def FailsTo (value : Option Int) (k : Nat) (pc : ThreadPc) : Prop :=
  ∃ r, ((machineWith value).recorded pipelineEvents).ReachableIf (fun r a => r.state.ReportsCounted a) r ∧
    r.state.speaker = .starved (toUint8 (intFromEnv value 1)) k ∧ r.state.pc = pc ∧ r.state.queueMutex = none ∧
      r.state.fault = none ∧ failuresSince r.history = k

section
variable {value : Option Int} {k k' : Nat} {pc pc' : ThreadPc}

theorem FailsTo.thread (h : FailsTo value k pc) (hpc : ∀ d, pc ≠ .report d .playbackerror)
    (hr : pc.run false (.starved (toUint8 (intFromEnv value 1)) k) =
      some (.ok ⟨pc', .starved (toUint8 (intFromEnv value 1)) k', []⟩))
    (hev : ∀ h, failuresSince h = k →
      failuresSince (h ++ pc.pipelineEvents false (.starved (toUint8 (intFromEnv value 1)) k)) = k') :
    FailsTo value k' pc' := by
  obtain ⟨r, hreach, hsp, hp, hmutex, hfault, hk⟩ := h
  rw [← hsp, ← hp] at hr hev
  let st' : SpeakerSystem :=
    { r.state with pc := pc', speaker := .starved (toUint8 (intFromEnv value 1)) k', log := r.state.log ++ [] }
  have hstep : step r.state (.thread false) = some st' := by
    simp [step, threadStep, hfault, hmutex, hr, st']
  refine ⟨⟨st', r.history ++ pipelineEvents r.state (.thread false)⟩, hreach.step (a := .thread false) ?_ ?_, rfl, rfl,
    hmutex, hfault, hev r.history hk⟩
  · intro _ d _ hd
    exact absurd (hp.symm.trans hd) (hpc d)
  · simp only [Machine.recorded, machineWith, hstep, Option.map_some]

theorem FailsTo.on (h : FailsTo value k pc) (hpc : ∀ d, pc ≠ .report d .playbackerror)
    (hr : pc.run false (.starved (toUint8 (intFromEnv value 1)) k) =
      some (.ok ⟨pc', .starved (toUint8 (intFromEnv value 1)) k, []⟩))
    (hev : pc.pipelineEvents false (.starved (toUint8 (intFromEnv value 1)) k) = []) : FailsTo value k pc' :=
  h.thread hpc hr fun h hk => by rw [hev, List.append_nil, hk]

theorem starved_mayConstruct (hlt : k < toUint8 (intFromEnv value 1)) :
    (TTSSpeaker.starved (toUint8 (intFromEnv value 1)) k).mayConstruct = true := by
  rw [TTSSpeaker.starved_mayConstruct, decide_eq_true hlt]

theorem FailsTo.attempt (h : FailsTo value k .loopTop) (hlt : k < toUint8 (intFromEnv value 1)) :
    FailsTo value (k + 1) .waitRun := by
  have hmay := starved_mayConstruct hlt
  have hbyte : (k + 1) % 256 = k + 1 :=
    Nat.mod_eq_of_lt (Nat.lt_of_le_of_lt hlt (Configuration.toUint8_lt _))
  have h : FailsTo value k .updateMay := h.on (by simp) rfl rfl
  have h : FailsTo value k .updateDiffers := h.on (by simp) (by rw [ThreadPc.run, hmay]; rfl) rfl
  have h : FailsTo value k .updateEnsure := h.on (by simp) rfl rfl
  have h : FailsTo value k (.create .afterUpdate) := h.on (by simp) rfl rfl
  have h : FailsTo value (k + 1) .failedTest := by
    refine h.thread (by simp) ?_ ?_
    · have hrun : (ThreadPc.create .afterUpdate).run false (.starved (toUint8 (intFromEnv value 1)) k) =
          some (.ok ⟨.failedTest, .starved (toUint8 (intFromEnv value 1)) ((k + 1) % 256), []⟩) := rfl
      rw [hrun, hbyte]
    · intro h hk
      rw [← hk]
      exact failuresSince_failed h
  exact h.on (by simp) rfl rfl

theorem FailsTo.retry (h : FailsTo value k .waitRun) (hlt : k < toUint8 (intFromEnv value 1)) :
    FailsTo value k .loopTop := by
  have hmay := starved_mayConstruct hlt
  have h : FailsTo value k .waitEmpty := h.on (by simp) rfl rfl
  have h : FailsTo value k .waitMay := h.on (by simp) rfl rfl
  have h : FailsTo value k .waitDiffers := h.on (by simp) (by rw [ThreadPc.run, hmay]; rfl) rfl
  have h : FailsTo value k .stopTest := h.on (by simp) rfl rfl
  have h : FailsTo value k .againMay := h.on (by simp) rfl rfl
  have h : FailsTo value k .againDiffers := h.on (by simp) (by rw [ThreadPc.run, hmay]; rfl) rfl
  exact h.on (by simp) rfl rfl

theorem failsTo_start : FailsTo value 0 .loopTop := by
  have hinit : ((machineWith value).recorded pipelineEvents).ReachableIf (fun r a => r.state.ReportsCounted a)
      ⟨new (toUint8 (intFromEnv value 1)), []⟩ := .init ⟨rfl, rfl⟩
  have hcall := hinit.step (a := .call 0 (.ensurePipeline true)) (fun _ _ e => nomatch e) rfl
  have hset := hcall.step (a := .caller 0) (fun _ _ e => nomatch e) rfl
  exact ⟨_, hset, rfl, rfl, rfl, rfl, rfl⟩

theorem failsTo_threshold : FailsTo value (toUint8 (intFromEnv value 1)) .waitPredicate := by
  have hmay : (TTSSpeaker.starved (toUint8 (intFromEnv value 1)) (toUint8 (intFromEnv value 1))).mayConstruct = false := by
    rw [TTSSpeaker.starved_mayConstruct, decide_eq_false (Nat.lt_irrefl _)]
  have h : FailsTo value (toUint8 (intFromEnv value 1)) .waitRun := by
    have hfails : ∀ k < toUint8 (intFromEnv value 1), FailsTo value (k + 1) .waitRun := by
      intro k
      induction k with
      | zero => exact failsTo_start.attempt
      | succ k ih =>
        intro hk
        exact ((ih (Nat.lt_of_succ_lt hk)).retry hk).attempt hk
    generalize hm : toUint8 (intFromEnv value 1) = m at hmay hfails ⊢
    cases m with
    | zero =>
      have h : FailsTo value 0 .updateMay := failsTo_start.on (by simp) rfl rfl
      exact h.on (by simp) (by rw [hm, ThreadPc.run, hmay]; rfl) rfl
    | succ m => exact hfails m (Nat.lt_succ_self m)
  have h : FailsTo value (toUint8 (intFromEnv value 1)) .waitEmpty := h.on (by simp) rfl rfl
  have h : FailsTo value (toUint8 (intFromEnv value 1)) .waitMay := h.on (by simp) rfl rfl
  exact h.on (by simp) (by rw [ThreadPc.run, hmay]; rfl) rfl

end

/-- The thread blocks reconciled in all its runs exactly where the threshold fits 8 bits. -/
theorem blocked_reconciled_iff (threshold : Int) (hpos : 0 < threshold) :
    (∀ r, ((machineWith (some threshold)).recorded pipelineEvents).ReachableIf (fun r a => r.state.ReportsCounted a) r →
        r.state.Blocked → Reconciled threshold r.state.speaker r.history) ↔ threshold ≤ 255 := by
  have henv : intFromEnv (some threshold) 1 = threshold := if_pos hpos
  constructor
  · intro h
    obtain ⟨r, hreach, hsp, hpc, -, -, hk⟩ := @failsTo_threshold (some threshold)
    have hblocked : r.state.Blocked := by
      refine ⟨hpc, ?_⟩
      rw [hsp]
      simp only [ThreadPc.hasInput, TTSSpeaker.needsPipelineUpdate, TTSSpeaker.starved_mayConstruct, Nat.lt_irrefl]
      rfl
    have hle := (h r hreach hblocked).failed (by rw [hsp]; rfl) (by rw [hsp]; rfl)
    have hlt := Configuration.toUint8_lt (intFromEnv (some threshold) 1)
    rw [hk] at hle
    omega
  · intro hle r hreach hblocked
    have hstored : toUint8 threshold = threshold.toNat := by
      rw [toUint8, Int.emod_eq_of_lt (Int.le_of_lt hpos) (by omega)]
    have hcounted := run_counted hreach
    rw [henv, hstored] at hcounted
    have hr := hcounted.reconciled (by omega) hblocked.2
    rw [Int.toNat_of_nonneg (Int.le_of_lt hpos)] at hr
    exact hr

theorem blocked_reconciled_three :
    (0 : Int) < 3 ∧
      ∀ r, ((machineWith (some 3)).recorded pipelineEvents).ReachableIf (fun r a => r.state.ReportsCounted a) r →
        r.state.Blocked → Reconciled 3 r.state.speaker r.history :=
  ⟨by decide, (blocked_reconciled_iff 3 (by decide)).mpr (by decide)⟩

/-- The only attempt fails, and a speech is taken while no pipeline is wanted. -/
def afterOneFailure : List Label :=
  [.call 0 (.ensurePipeline true), .caller 0] ++ List.replicate 9 (.thread false) ++
    [.call 0 (.ensurePipeline false), .caller 0, .call 0 (.speak 7 1 "hi".toList false false), .caller 0] ++
    List.replicate 21 (.thread false) ++ [.call 0 (.ensurePipeline true), .caller 0] ++ List.replicate 5 (.thread false)

/-- With 256 the thread waits without having tried; with 1 it waits though no
attempt failed since the playback error. -/
theorem blocked_unreconciled :
    (∃ r, ((machineWith (some 256)).recorded pipelineEvents).Reachable r ∧ r.state.Blocked ∧
        ¬ Reconciled 256 r.state.speaker r.history) ∧
      ∃ r, ((machineWith (some 1)).recorded pipelineEvents).Reachable r ∧ r.state.Blocked ∧
        ¬ Reconciled 1 r.state.speaker r.history := by
  constructor
  · have hreach := Machine.reachable_of_exec (M := (machineWith (some 256)).recorded pipelineEvents)
      (s := ⟨new 0, []⟩) ⟨rfl, rfl⟩ ([.call 0 (.ensurePipeline true), .caller 0] ++ List.replicate 5 (.thread false)) rfl
    exact ⟨_, hreach, ⟨rfl, rfl⟩, fun h => absurd (h.failed rfl rfl) (by decide)⟩
  · have hreach := Machine.reachable_of_exec (M := (machineWith (some 1)).recorded pipelineEvents)
      (s := ⟨new 1, []⟩) ⟨rfl, rfl⟩ afterOneFailure rfl
    exact ⟨_, hreach, ⟨rfl, rfl⟩, fun h => absurd (h.failed rfl rfl) (by decide)⟩

end SpeakerSystem

end TTS
