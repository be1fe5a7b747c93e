import TTS.Budget
import TTS.Service

/-!
# The restart budget

Which deactivations have the service reactivated. The crash record holds the run
of unhealthy sessions there is at the moment: a session that lasted long enough
ends it. So of each run of crashes that follow one another too fast the first
ones are answered by a restart, as many as the policy allows. Other calls may
come in between.
-/

namespace TTS

namespace RestartPolicy

/-- The deactivation is not left out of the record. -/
def counts (p : RestartPolicy) (d : Deactivation) : Bool := !(d.requested && p.ignoreManualDeactivation)

/-- The session between two crashes did not last long enough. -/
def follows (p : RestartPolicy) (d e : Deactivation) : Bool :=
  decide (e.checked - d.recorded < (p.duration : Int) * ticksPerSecond)

end RestartPolicy

/-- The deactivation a call reports, and whether the reactivation was posted. -/
def Service.posted (s : Service) : ServiceCall → List (Deactivation × Bool)
  | .onDeactivation d => [(d, (s.onDeactivation d).1)]
  | _ => []

def Service.log (s : Service) : List ServiceCall → List (Deactivation × Bool)
  | [] => []
  | call :: calls => s.posted call ++ (s.perform call).log calls

def deactivations : List ServiceCall → List Deactivation
  | [] => []
  | .onDeactivation d :: calls => d :: deactivations calls
  | _ :: calls => deactivations calls

/-- Of each maximal run of counted deactivations that follow one another too fast
the first ones are answered, as many as the policy allows, and no others. -/
structure WithinBudget (p : RestartPolicy) (log : List (Deactivation × Bool)) : Prop where
  counted : (log.filter fun e => p.counts e.1).map Prod.snd =
    (((log.map Prod.fst).filter p.counts).splitBy p.follows).flatMap fun run =>
      List.replicate (min p.maxRestartAttempts run.length) true ++
        List.replicate (run.length - p.maxRestartAttempts) false
  excluded : ∀ e ∈ log, p.counts e.1 = false → e.2 = false

/-! ## The record -/

/-- The policy and the record are the same. -/
structure SameRecord (s t : Service) : Prop where
  policy : t.policy = s.policy
  crashTimeStamps : t.crashTimeStamps = s.crashTimeStamps

/-- The record ends with the deactivation `last` and holds `n` crashes. -/
structure Recorded (s : Service) (last : Option Deactivation) (n : Nat) : Prop where
  last : s.crashTimeStamps.getLast? = last.map Deactivation.recorded
  length : s.crashTimeStamps.length = n

theorem SameRecord.trans {s t u : Service} (h : SameRecord s t) (h' : SameRecord t u) : SameRecord s u :=
  ⟨h'.policy.trans h.policy, h'.crashTimeStamps.trans h.crashTimeStamps⟩

theorem Recorded.same {s t : Service} {last : Option Deactivation} {n : Nat} (h : Recorded s last n) (hs : SameRecord s t) :
    Recorded t last n := by
  constructor
  · rw [hs.crashTimeStamps, h.last]
  · rw [hs.crashTimeStamps, h.length]

namespace Service

variable {s : Service}

theorem isActive_same (s : Service) (force : Bool) (reply : Option Bool) : SameRecord s (s.isActive force reply).2 := by
  unfold isActive
  split <;> exact ⟨rfl, rfl⟩

theorem activate_same (s : Service) (success : Bool) : SameRecord s (s.activate success) := by
  unfold activate
  split <;> exact ⟨rfl, rfl⟩

theorem findActive_same (s : Service) (activateIfRequired : Bool) (r : InitializeReplies) :
    SameRecord s (s.findActive activateIfRequired r) := by
  have hfirst := s.isActive_same false r.isActive
  unfold findActive
  simp only
  split
  · exact hfirst
  · split
    · exact (hfirst.trans (activate_same _ r.activate)).trans (isActive_same _ true r.forced)
    · exact hfirst.trans (isActive_same _ true r.forced)

theorem connect_same (s : Service) (activateIfRequired : Bool) (r : InitializeReplies) :
    SameRecord s (s.connect activateIfRequired r) := by
  have hfind := s.findActive_same activateIfRequired r
  unfold connect
  split
  · exact ⟨rfl, rfl⟩
  · simp only
    split
    · exact hfind.trans ⟨rfl, rfl⟩
    · exact hfind

theorem setUp_same (s : Service) (activateIfRequired : Bool) (r : InitializeReplies) (accepts : String → Bool) :
    SameRecord s (s.setUp activateIfRequired r accepts) := by
  have hquery := (s.connect_same activateIfRequired r).trans (isActive_same _ false r.again)
  unfold setUp
  split
  · exact ⟨rfl, rfl⟩
  · simp only
    split
    · exact hquery.trans ⟨rfl, rfl⟩
    · exact hquery.trans ⟨rfl, rfl⟩

theorem perform_same (s : Service) {call : ServiceCall} (h : ∀ d, call ≠ .onDeactivation d) : SameRecord s (s.perform call) := by
  cases call with
  | isActive force reply => exact s.isActive_same force reply
  | activate success => exact s.activate_same success
  | setUp activateIfRequired replies accepts => exact s.setUp_same activateIfRequired replies accepts
  | registerSpeechEventHandlers reply accepts => exact (s.isActive_same false reply).trans ⟨rfl, rfl⟩
  | uninitialize => exact ⟨rfl, rfl⟩
  | onDeactivation d => exact absurd rfl (h d)

/-! ## One deactivation -/

theorem onDeactivation_excluded {d : Deactivation} (h : s.policy.counts d = false) :
    (s.onDeactivation d).1 = false ∧ SameRecord s (s.onDeactivation d).2 := by
  rw [RestartPolicy.counts, Bool.not_eq_false'] at h
  unfold onDeactivation
  simp only [ uninitialize, h, if_true]
  split <;> exact ⟨rfl, rfl, rfl⟩

/-- Whole seconds reach the threshold exactly when the ticks do. -/
theorem le_seconds_iff {ticks : Int} (h : 0 ≤ ticks) (seconds : Int) :
    seconds ≤ ticks.tdiv ticksPerSecond ↔ seconds * ticksPerSecond ≤ ticks := by
  rw [Int.tdiv_eq_ediv_of_nonneg h]
  exact Int.le_ediv_iff_mul_le (by decide)

theorem lastSessionWasHealthy_eq {last : Option Deactivation} {n : Nat} (h : Recorded s last n) {d : Deactivation}
    (hclock : ∀ e ∈ last, e.recorded ≤ d.checked) :
    s.lastSessionWasHealthy d.checked = !last.any (s.policy.follows · d) := by
  unfold lastSessionWasHealthy
  rw [h.last]
  cases last with
  | none => simp
  | some e =>
    have hticks : 0 ≤ d.checked - e.recorded := Int.sub_nonneg_of_le (hclock e rfl)
    simp only [Option.map_some, le_seconds_iff hticks, Option.any_some, RestartPolicy.follows, ← decide_not, Int.not_lt]

theorem isServiceUnstable_eq {n : Nat} (h : s.crashTimeStamps.length = n) :
    (!s.isServiceUnstable) = decide (n ≤ s.policy.maxRestartAttempts) := by
  rw [isServiceUnstable, h, ← decide_not, decide_eq_decide, Nat.not_lt]

theorem recordCrash_recorded {last : Option Deactivation} {n : Nat} (h : Recorded s last n) {d : Deactivation}
    (hclock : ∀ e ∈ last, e.recorded ≤ d.checked) :
    (s.recordCrash d).1 = decide (Budget.count s.policy.follows last n d ≤ s.policy.maxRestartAttempts) ∧
      (s.recordCrash d).2.policy = s.policy ∧
      Recorded (s.recordCrash d).2 (some d) (Budget.count s.policy.follows last n d) := by
  unfold recordCrash Budget.count
  rw [lastSessionWasHealthy_eq h hclock]
  cases hnear : last.any (s.policy.follows · d) with
  | true =>
    have hlength : (s.crashTimeStamps ++ [d.recorded]).length = n + 1 := by simp [h.length]
    exact ⟨isServiceUnstable_eq hlength, rfl, by simp, hlength⟩
  | false => exact ⟨isServiceUnstable_eq rfl, rfl, by simp, rfl⟩

theorem onDeactivation_counted (hrestart : s.policy.restartOnCrash = true) {d : Deactivation} (hd : s.policy.counts d = true)
    {last : Option Deactivation} {n : Nat} (h : Recorded s last n) (hclock : ∀ e ∈ last, e.recorded ≤ d.checked) :
    (s.onDeactivation d).1 = decide (Budget.count s.policy.follows last n d ≤ s.policy.maxRestartAttempts) ∧
      (s.onDeactivation d).2.policy = s.policy ∧
      Recorded (s.onDeactivation d).2 (some d) (Budget.count s.policy.follows last n d) := by
  rw [RestartPolicy.counts, Bool.not_eq_true'] at hd
  have hdown : s.onDeactivation d = ( uninitialize { s with eventsRegistered := [] }).2.recordCrash d := by
    simp [onDeactivation, uninitialize, hrestart, hd]
  rw [hdown]
  exact recordCrash_recorded (s := ( uninitialize { s with eventsRegistered := [] }).2) (h.same ⟨rfl, rfl⟩) hclock

theorem perform_policy (s : Service) (call : ServiceCall) : (s.perform call).policy = s.policy := by
  by_cases hcall : ∃ d, call = .onDeactivation d
  · obtain ⟨d, rfl⟩ := hcall
    exact (s.onDeactivation_frame d).2
  · exact (s.perform_same fun d hd => hcall ⟨d, hd⟩).policy

end Service

/-! ## Runs -/

theorem deactivations_cons {call : ServiceCall} (h : ∀ d, call ≠ .onDeactivation d) (calls : List ServiceCall) :
    deactivations (call :: calls) = deactivations calls := by
  cases call with
  | onDeactivation d => exact absurd rfl (h d)
  | _ => rfl

theorem Service.posted_eq_nil {call : ServiceCall} (h : ∀ d, call ≠ .onDeactivation d) (s : Service) : s.posted call = [] := by
  cases call with
  | onDeactivation d => exact absurd rfl (h d)
  | _ => rfl

theorem log_spend {s : Service} (hrestart : s.policy.restartOnCrash = true) {last : Option Deactivation} {n : Nat}
    (h : Recorded s last n) {calls : List ServiceCall}
    (hclock : (last.toList ++ (deactivations calls).filter s.policy.counts).Pairwise fun d e => d.recorded ≤ e.checked) :
    ((s.log calls).filter fun e => s.policy.counts e.1).map Prod.snd =
      Budget.spend s.policy.follows s.policy.maxRestartAttempts last n ((deactivations calls).filter s.policy.counts) := by
  induction calls generalizing s last n with
  | nil => rfl
  | cons call calls ih =>
    by_cases hcall : ∃ d, call = .onDeactivation d
    · obtain ⟨d, rfl⟩ := hcall
      rw [deactivations] at hclock ⊢
      cases hd : s.policy.counts d with
      | true =>
        rw [List.filter_cons_of_pos hd] at hclock ⊢
        have hlast : ∀ e ∈ last, e.recorded ≤ d.checked := by
          intro e he
          exact (List.pairwise_append.mp hclock).2.2 e (Option.mem_toList.mpr he) d List.mem_cons_self
        obtain ⟨hposted, hpolicy, hrecord⟩ := Service.onDeactivation_counted hrestart hd h hlast
        have ih := ih (s := (s.onDeactivation d).2) (by rw [hpolicy, hrestart]) hrecord
          (by rw [hpolicy]; exact (List.pairwise_append.mp hclock).2.1)
        rw [hpolicy] at ih
        simp only [Service.log, Service.posted, List.singleton_append, List.filter_cons, hd, if_true, List.map_cons, hposted,
          Budget.spend]
        exact congrArg _ ih
      | false =>
        rw [List.filter_cons_of_neg (by rw [hd]; exact Bool.false_ne_true)] at hclock ⊢
        obtain ⟨-, hsame⟩ := Service.onDeactivation_excluded hd
        have ih := ih (s := (s.onDeactivation d).2) (by rw [hsame.policy, hrestart]) (h.same hsame)
          (by rw [hsame.policy]; exact hclock)
        rw [hsame.policy] at ih
        simp only [Service.log, Service.posted, List.singleton_append, List.filter_cons, hd, Bool.false_eq_true, if_false]
        exact ih
    · have hother : ∀ d, call ≠ .onDeactivation d := fun d hd => hcall ⟨d, hd⟩
      have hsame := s.perform_same hother
      rw [deactivations_cons hother] at hclock ⊢
      have ih := ih (s := s.perform call) (by rw [hsame.policy, hrestart]) (h.same hsame) (by rw [hsame.policy]; exact hclock)
      rw [hsame.policy] at ih
      rw [Service.log, Service.posted_eq_nil hother, List.nil_append]
      exact ih

theorem log_deactivations (s : Service) (calls : List ServiceCall) : (s.log calls).map Prod.fst = deactivations calls := by
  induction calls generalizing s with
  | nil => rfl
  | cons call calls ih =>
    rw [Service.log, List.map_append, ih]
    cases call <;> rfl

theorem log_excluded {s : Service} {calls : List ServiceCall} {e : Deactivation × Bool} (he : e ∈ s.log calls)
    (hd : s.policy.counts e.1 = false) : e.2 = false := by
  induction calls generalizing s with
  | nil => cases he
  | cons call calls ih =>
    rw [Service.log, List.mem_append] at he
    cases he with
    | inl hposted =>
      cases call with
      | onDeactivation d =>
        obtain rfl := List.mem_singleton.mp hposted
        exact (Service.onDeactivation_excluded hd).1
      | _ => cases hposted
    | inr hlater =>
      rw [← s.perform_policy call] at hd
      exact ih hlater hd

/-- **Restart budget.** While the clock does not go back, of each maximal run of
counted deactivations that follow one another within the health threshold
exactly the first ones post a reactivation, as many as the policy allows. An
excluded deactivation posts none and is not counted. -/
theorem restart_budget (policy : RestartPolicy) (hrestart : policy.restartOnCrash = true) (calls : List ServiceCall)
    (hclock : ((deactivations calls).flatMap fun d => [d.checked, d.recorded]).Pairwise (· ≤ ·)) :
    WithinBudget policy ((Service.new policy).log calls) ∧
      ∀ (s : Service) (d : Deactivation), s.policy = policy → policy.counts d = false →
        (s.onDeactivation d).2.crashTimeStamps = s.crashTimeStamps := by
  have horder : ((deactivations calls).filter policy.counts).Pairwise fun d e => d.recorded ≤ e.checked := by
    refine ((List.pairwise_flatMap.mp hclock).2.filter policy.counts).imp ?_
    intro d e h
    exact h d.recorded (by simp) e.checked (by simp)
  refine ⟨⟨?_, ?_⟩, ?_⟩
  · have hnone : Recorded (Service.new policy) none 0 := ⟨rfl, rfl⟩
    have hspend := log_spend hrestart hnone horder
    rw [log_deactivations]
    exact hspend.trans (Budget.spend_splitBy _)
  · intro e he hd
    exact log_excluded he hd
  · intro s d hpolicy hd
    rw [← hpolicy] at hd
    exact (Service.onDeactivation_excluded hd).2.crashTimeStamps

/-- Three crashes in a row, one of them requested, and one restart allowed. -/
theorem restart_budget_three :
    WithinBudget ⟨true, 1, 60, true⟩ ((Service.new ⟨true, 1, 60, true⟩).log
      [.onDeactivation ⟨false, 0, 1⟩, .onDeactivation ⟨true, 2, 3⟩, .onDeactivation ⟨false, 4, 5⟩]) :=
  (restart_budget ⟨true, 1, 60, true⟩ rfl
    [.onDeactivation ⟨false, 0, 1⟩, .onDeactivation ⟨true, 2, 3⟩, .onDeactivation ⟨false, 4, 5⟩] (by decide)).1

/-- Two restarts are allowed, and the fourth crash comes after a healthy session. -/
example : ((Service.new ⟨true, 2, 60, true⟩).log
    [.onDeactivation ⟨false, 0, 1⟩, .onDeactivation ⟨false, 2, 3⟩, .onDeactivation ⟨false, 4, 5⟩,
      .onDeactivation ⟨false, 60000000005, 60000000006⟩]).map Prod.snd = [true, true, false, true] := by decide

end TTS
