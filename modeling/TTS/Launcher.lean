import Mathlib.Data.List.ReduceOption
import TTS.Budget

/-!
# The script that starts the engine

It starts the engine anew whenever it ends, unless it has ended soon as many
times in a row as there are attempts. A long run gives all attempts back; but
the launch that follows it is not counted.
-/

namespace TTS

def restartDelaySecs : Nat := 5
def maxTimeToTrySecs : Nat := 25
def maxAttempts : Nat := maxTimeToTrySecs / restartDelaySecs
def runTimeThresholdSecs : Int := 15 * 60

/-- The loop, with `ATTEMPT_NO` and `LAUNCH_COUNT`, or how it was left. -/
inductive Launcher
  | loop (attemptNo launchCount : Nat)
  | notFound
  | givenUp (launchCount : Nat)
  deriving DecidableEq, Repr

namespace Launcher

def start : Launcher := .loop 1 1

/-- One turn of the loop: the engine ran for so many seconds of the clock, or its binary is not there. -/
def turn : Launcher → Option Int → Launcher
  | .loop _ _, none => .notFound
  | .loop attemptNo launchCount, some runTime =>
    if runTime > runTimeThresholdSecs then .loop 1 launchCount
    else if attemptNo ≥ maxAttempts then .givenUp launchCount
    else .loop (attemptNo + 1) (launchCount + 1)
  | l, _ => l

def short (runTime : Int) : Bool := decide (runTime ≤ runTimeThresholdSecs)

/-- Neither run gives the attempts back. -/
def bothShort (runTime runTime' : Int) : Bool := short runTime && short runTime'

def looping : Launcher → Bool
  | .loop _ _ => true
  | _ => false

theorem looping_foldl {l : Launcher} (h : l.looping = false) (rs : List (Option Int)) :
    (rs.foldl turn l).looping = false := by
  induction rs generalizing l with
  | nil => exact h
  | cons r rs ih =>
    apply ih
    cases l with
    | loop _ _ => cases h
    | notFound | givenUp _ => rfl

/-- `ATTEMPT_NO` is the counter of the budget, one ahead: it goes on while the budget lasts. -/
theorem looping_spend (rs : List (Option Int)) (last : Option Int) (n launchCount : Nat) :
    (rs.foldl turn (.loop (if last.any short then n + 1 else 1) launchCount)).looping = true ↔
      (∀ r ∈ rs, r ≠ none) ∧
        ∀ b ∈ Budget.spend bothShort (maxAttempts - 1) last n rs.reduceOption, b = true := by
  induction rs generalizing last n launchCount with
  | nil => simp [looping, Budget.spend]
  | cons r rs ih =>
    cases r with
    | none =>
      rw [List.foldl_cons, turn, looping_foldl rfl]
      simp
    | some t =>
      have hmem : (∀ r ∈ some t :: rs, r ≠ none) ↔ ∀ r ∈ rs, r ≠ none := by simp
      rw [List.foldl_cons, hmem, List.reduceOption_cons_of_some, Budget.spend, List.forall_mem_cons, turn]
      by_cases ht : t > runTimeThresholdSecs
      · have hlong : short t = false := by simpa [short] using ht
        have hcount : Budget.count bothShort last n t = 1 := by
          cases last <;> simp [Budget.count, bothShort, hlong]
        have hnext := ih (some t) 1 launchCount
        rw [show (Option.any short (some t)) = false from hlong] at hnext
        rw [if_pos ht, hcount, show (decide (1 ≤ maxAttempts - 1)) = true from rfl]
        simpa using hnext
      · have hshort : short t = true := by simpa [short] using ht
        have hcount : Budget.count bothShort last n t = if last.any short then n + 1 else 1 := by
          cases last <;> simp [Budget.count, bothShort, hshort]
        rw [if_neg ht, hcount]
        by_cases ha : (if last.any short then n + 1 else 1) ≥ maxAttempts
        · have hspent : ¬ (if last.any short then n + 1 else 1) ≤ maxAttempts - 1 := by
            have : 0 < maxAttempts := by decide
            omega
          rw [if_pos ha, looping_foldl rfl, decide_eq_false hspent]
          simp
        · have hleft : (if last.any short then n + 1 else 1) ≤ maxAttempts - 1 := by omega
          have hnext := ih (some t) (if last.any short then n + 1 else 1) (launchCount + 1)
          rw [show (Option.any short (some t)) = true from hshort, if_pos rfl] at hnext
          rw [if_neg ha, hnext, decide_eq_true hleft]
          simp

theorem firstOnly_all {budget : Nat} {run : List Int} :
    (∀ b ∈ Budget.firstOnly budget run, b = true) ↔ run.length ≤ budget := by
  simp [Budget.firstOnly, List.mem_replicate, or_imp]
  omega

theorem launchCount_foldl (rs : List (Option Int)) {a c a' c' : Nat} (h : rs.foldl turn (.loop a c) = .loop a' c') :
    c' = c + rs.reduceOption.countP short := by
  induction rs generalizing a c with
  | nil =>
    cases h
    rfl
  | cons r rs ih =>
    have hgone : ∀ l : Launcher, l.looping = false → rs.foldl turn l ≠ .loop a' c' := by
      intro l hl e
      have := looping_foldl hl rs
      rw [e] at this
      cases this
    cases r with
    | none => exact absurd h (hgone _ rfl)
    | some t =>
      rw [List.reduceOption_cons_of_some, List.countP_cons]
      rw [List.foldl_cons, turn] at h
      split at h
      · rename_i ht
        have hlong : short t = false := by simpa [short] using ht
        rw [ih h, hlong]
        rfl
      · rename_i ht
        have hshort : short t = true := by simpa [short] using ht
        split at h
        · exact absurd h (hgone _ rfl)
        · rw [ih h, hshort]
          simp
          omega

/-- **Five short runs in a row.** For every sequence of runs the script goes on after them exactly if the binary was
there each time and no five of them in a row were short; and the count that it logs is one more than the short runs, so
that it leaves out the launches after long ones. -/
theorem launcher_goes_on (rs : List (Option Int)) :
    ((rs.foldl turn start).looping = true ↔
      (∀ r ∈ rs, r ≠ none) ∧ ∀ run ∈ rs.reduceOption.splitBy bothShort, run.length < maxAttempts) ∧
    ∀ attemptNo launchCount, rs.foldl turn start = .loop attemptNo launchCount →
      launchCount = 1 + rs.reduceOption.countP short := by
  refine ⟨?_, fun a c h => launchCount_foldl rs h⟩
  have hspend := looping_spend rs none 0 1
  rw [Budget.spend_splitBy] at hspend
  refine hspend.trans (and_congr_right fun _ => ?_)
  simp only [List.mem_flatMap]
  constructor
  · intro h run hrun
    have := firstOnly_all.mp fun b hb => h b ⟨run, hrun, hb⟩
    have : 0 < maxAttempts := by decide
    omega
  · rintro h b ⟨run, hrun, hb⟩
    exact firstOnly_all.mpr (Nat.le_sub_one_of_lt (h run hrun)) b hb

/-- Four short runs, a long one, and four short ones again: nine restarts, and eight of them counted. -/
example : (([60, 60, 60, 60, 3600, 60, 60, 60, 60].map some).foldl turn start) = .loop 5 9 := by decide

end Launcher

end TTS
