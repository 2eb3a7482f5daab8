import Mathlib.Algebra.Order.Field.Basic
import Mathlib.Algebra.Order.Ring.Rat
import Mathlib.Data.List.TakeWhile
import Mathlib.Order.Monotone.Basic
import Mathlib.Tactic.Linarith
import Mathlib.Tactic.Positivity
import Mathlib.Tactic.Ring

/-!
# The restart engine

`RestartEngine` of `supervision/engine.py`: a sliding window of crash times,
and a verdict for every crash.  The window is pruned from its old end when a
crash is recorded, and at no other time.  The declarative count goes over all
crashes recorded since the last `reset`; it agrees with the window because
crash times do not decrease.

Numbers are exact.  `random.random()` is an argument of the call.
-/

namespace Civitas.Supervision.RestartEngine

/-! ## The engine -/

/-- `BackoffPolicy`. -/
inductive BackoffPolicy where
  | constant
  | linear
  | exponential
deriving DecidableEq

/-- The arguments of `RestartEngine`. -/
structure Config where
  maxRestarts : Int := 3
  restartWindow : ℚ := 60
  backoff : Option BackoffPolicy := none
  backoffBase : ℚ := 1
  backoffMax : ℚ := 60

/-- What the engine answers to a crash. -/
inductive Action where
  | restart
  | exhausted
deriving DecidableEq

/-- `RestartVerdict`. -/
structure Verdict where
  action : Action
  delay : ℚ
  crashesInWindow : Nat
deriving DecidableEq

/-- A value of `random.random()`. -/
structure Draw where
  value : ℚ
  nonneg : 0 ≤ value
  below : value < 1

/-- The delay of a policy before jitter. -/
def plainDelay (policy : BackoffPolicy) (base : ℚ) (count : Nat) : ℚ :=
  match policy with
  | .constant => base
  | .linear => base * count
  | .exponential => base * 2 ^ ((count : Int) - 1)

/-- The delay of a policy before it is cut at the maximum. -/
def delayOf
    (policy : BackoffPolicy) (base : ℚ) (count : Nat) (random : Draw) : ℚ :=
  let delay := plainDelay policy base count
  match policy with
  | .exponential => delay + delay * random.value * (1 / 4)
  | _ => delay

/-- `compute_backoff`. -/
def computeBackoff (config : Config) (count : Nat) (random : Draw) : ℚ :=
  match config.backoff with
  | none => 0
  | some policy =>
      min (delayOf policy config.backoffBase count random) config.backoffMax

/-- The window after a crash. -/
def pruned (config : Config) (window : List ℚ) (now : ℚ) : List ℚ :=
  (window ++ [now]).dropWhile fun crash =>
    decide (crash ≤ now - config.restartWindow)

/-- `record_crash`: the verdict for the pruned window. -/
def ruling (config : Config) (window : List ℚ) (random : Draw) : Verdict :=
  if config.maxRestarts < (window.length : Int) then
    { action := .exhausted, delay := 0, crashesInWindow := window.length }
  else
    { action := .restart
      delay := computeBackoff config window.length random
      crashesInWindow := window.length }

/-- `exempt_verdict`. -/
def exemptVerdict (window : List ℚ) : Verdict where
  action := .restart
  delay := 0
  crashesInWindow := window.length

/-! ## Histories -/

/-- The calls of the engine. -/
inductive Call where
  | recordCrash (now : ℚ) (random : Draw)
  | exemptVerdict
  | reset

/-- What a call does to the window. -/
def step (config : Config) (window : List ℚ) : Call → List ℚ
  | .recordCrash now _ => pruned config window now
  | .exemptVerdict => window
  | .reset => []

/-- What a call returns. -/
def verdict (config : Config) (window : List ℚ) : Call → Option Verdict
  | .recordCrash now random =>
      some (ruling config (pruned config window now) random)
  | .exemptVerdict => some (exemptVerdict window)
  | .reset => none

/-- The window after a history of calls. -/
def windowAfter (config : Config) (history : List Call) : List ℚ :=
  history.foldl (step config) []

/-- `record_crash` after a history of calls. -/
def recordCrash
    (config : Config) (history : List Call) (now : ℚ) (random : Draw) :
    Verdict :=
  ruling config (pruned config (windowAfter config history) now) random

/-! ## What is expected -/

/-- The time of a recorded crash. -/
def Call.time? : Call → Option ℚ
  | .recordCrash now _ => some now
  | _ => none

/-- The times of all crashes of a history. -/
def crashTimes (history : List Call) : List ℚ :=
  history.filterMap Call.time?

/-- The times on record after a call, none of them pruned. -/
def recordedStep (times : List ℚ) : Call → List ℚ
  | .recordCrash now _ => times ++ [now]
  | .exemptVerdict => times
  | .reset => []

/-- The times of the crashes recorded since the last reset. -/
def recorded (history : List Call) : List ℚ :=
  history.foldl recordedStep []

/-- The crashes of a list that lie in the window that ends at `now`. -/
def inWindow (config : Config) (now : ℚ) (times : List ℚ) : List ℚ :=
  times.filter fun crash =>
    decide (now - config.restartWindow < crash ∧ crash ≤ now)

/-- A crash recorded after a history is ruled by a sliding window. -/
structure SlidingBudget
    (config : Config) (history : List Call) (now : ℚ) (random : Draw) :
    Prop where
  exhausted :
    (recordCrash config history now random).action = .exhausted ↔
      config.maxRestarts <
        ((inWindow config now (recorded history ++ [now])).length : Int)
  occupancy :
    (recordCrash config history now random).crashesInWindow =
      (inWindow config now (recorded history ++ [now])).length
  exempt : ∀ before later,
    history = before ++ Call.exemptVerdict :: later →
      recordCrash config history now random =
        recordCrash config (before ++ later) now random
  undelayed : config.backoff = none →
    (recordCrash config history now random).delay = 0
  delayed : ∀ policy, config.backoff = some policy →
    (recordCrash config history now random).action = .restart →
      (recordCrash config history now random).delay ≤ config.backoffMax ∧
        ∃ factor, 1 ≤ factor ∧ factor ≤ 5 / 4 ∧
          (recordCrash config history now random).delay =
            min
              (factor *
                plainDelay policy config.backoffBase
                  (recordCrash config history now random).crashesInWindow)
              config.backoffMax
  rises : ∀ policy, Monotone (plainDelay policy config.backoffBase)

/-! ## The window and the crashes recorded -/

/-- On a list in order, what is dropped is what lies at or below the cutoff. -/
theorem dropWhile_eq_filter
    {cutoff : ℚ} {times : List ℚ} (ordered : times.Pairwise (· ≤ ·)) :
    (times.dropWhile fun crash => decide (crash ≤ cutoff)) =
      times.filter fun crash => decide (cutoff < crash) := by
  induction times with
  | nil => rfl
  | cons first rest ih =>
      rw [List.pairwise_cons] at ordered
      by_cases old : first ≤ cutoff
      · rw [List.dropWhile_cons_of_pos (by simpa using old),
          List.filter_cons_of_neg (by simpa using old)]
        exact ih ordered.2
      · rw [List.dropWhile_cons_of_neg (by simpa using old)]
        symm
        apply List.filter_eq_self.mpr
        intro crash within
        have recent : cutoff < first := lt_of_not_ge old
        rcases List.mem_cons.mp within with rfl | later
        · simpa using recent
        · simpa using lt_of_lt_of_le recent (ordered.1 crash later)

/--
The recorded crashes are the window and, before it, crashes that had left the
window of some crash of the history.
-/
structure Tracks
    (config : Config) (history : List Call) (dropped window : List ℚ) :
    Prop where
  parts : recorded history = dropped ++ window
  stale : ∀ crash ∈ dropped, ∃ latest ∈ crashTimes history,
    crash ≤ latest - config.restartWindow

theorem recorded_append (history : List Call) (call : Call) :
    recorded (history ++ [call]) = recordedStep (recorded history) call := by
  simp [recorded]

theorem windowAfter_append
    (config : Config) (history : List Call) (call : Call) :
    windowAfter config (history ++ [call]) =
      step config (windowAfter config history) call := by
  simp [windowAfter]

theorem crashTimes_append (history : List Call) (call : Call) :
    crashTimes (history ++ [call]) =
      crashTimes history ++ call.time?.toList := by
  cases call <;> simp [crashTimes, Call.time?]

/-- The crashes since a reset are among all crashes, in their order. -/
theorem recorded_sublist (history : List Call) :
    (recorded history).Sublist (crashTimes history) := by
  induction history using List.reverseRecOn with
  | nil => exact List.Sublist.refl _
  | append_singleton history call ih =>
      rw [recorded_append, crashTimes_append]
      cases call with
      | recordCrash now random => exact ih.append_right [now]
      | exemptVerdict => exact ih.trans (List.sublist_append_left _ _)
      | reset => exact List.nil_sublist _

/-- A crash is pruned only when it is a window or more old. -/
theorem tracks_windowAfter
    (config : Config) {history : List Call}
    (ordered : (crashTimes history).Pairwise (· ≤ ·)) :
    ∃ dropped, Tracks config history dropped (windowAfter config history) := by
  induction history using List.reverseRecOn with
  | nil => exact ⟨[], rfl, by simp⟩
  | append_singleton history call ih =>
      rw [crashTimes_append] at ordered
      rcases ih (ordered.sublist (List.sublist_append_left _ _)) with
        ⟨dropped, tracks⟩
      cases call with
      | recordCrash now random =>
          refine
            ⟨dropped ++
              ((windowAfter config history ++ [now]).takeWhile fun crash =>
                decide (crash ≤ now - config.restartWindow)), ?_, ?_⟩
          · rw [recorded_append, windowAfter_append, recordedStep,
              tracks.parts, step, pruned, List.append_assoc,
              List.append_assoc, List.takeWhile_append_dropWhile]
          · intro crash within
            rw [crashTimes_append]
            rcases List.mem_append.mp within with old | new
            · rcases tracks.stale crash old with ⟨latest, member, late⟩
              exact ⟨latest, List.mem_append_left _ member, late⟩
            · refine ⟨now, List.mem_append_right _ (by simp [Call.time?]), ?_⟩
              simpa using List.mem_takeWhile_imp new
      | exemptVerdict =>
          refine ⟨dropped, ?_, ?_⟩
          · rw [recorded_append, windowAfter_append]
            exact tracks.parts
          · intro crash within
            rw [crashTimes_append]
            rcases tracks.stale crash within with ⟨latest, member, late⟩
            exact ⟨latest, List.mem_append_left _ member, late⟩
      | reset =>
          refine ⟨[], ?_, by simp⟩
          rw [recorded_append, windowAfter_append]
          rfl

/-- The pruned window holds the crashes since the last reset that are in it. -/
theorem pruned_eq_inWindow
    (config : Config) {history : List Call} {now : ℚ}
    (ordered : (crashTimes history ++ [now]).Pairwise (· ≤ ·)) :
    pruned config (windowAfter config history) now =
      inWindow config now (recorded history ++ [now]) := by
  have times : (crashTimes history).Pairwise (· ≤ ·) :=
    ordered.sublist (List.sublist_append_left _ _)
  have sorted : (recorded history ++ [now]).Pairwise (· ≤ ·) :=
    ordered.sublist ((recorded_sublist history).append_right [now])
  have latest : ∀ crash ∈ recorded history ++ [now], crash ≤ now := by
    intro crash within
    rcases List.mem_append.mp within with earlier | last
    · exact (List.pairwise_append.mp sorted).2.2 crash earlier now (by simp)
    · rw [List.mem_singleton.mp last]
  have bounded : ∀ time ∈ crashTimes history, time ≤ now := by
    intro time within
    exact (List.pairwise_append.mp ordered).2.2 time within now (by simp)
  rcases tracks_windowAfter config times with ⟨dropped, tracks⟩
  have all :
      inWindow config now (recorded history ++ [now]) =
        (recorded history ++ [now]).filter fun crash =>
          decide (now - config.restartWindow < crash) := by
    apply List.filter_congr
    intro crash within
    simp [latest crash within]
  have stale :
      (dropped.filter fun crash =>
        decide (now - config.restartWindow < crash)) = [] := by
    apply List.filter_eq_nil_iff.mpr
    intro crash within
    rcases tracks.stale crash within with ⟨time, member, late⟩
    have old : crash ≤ now - config.restartWindow :=
      le_trans late (sub_le_sub_right (bounded time member) _)
    simpa using old
  have suffix :
      (windowAfter config history ++ [now]).Pairwise (· ≤ ·) := by
    rw [tracks.parts, List.append_assoc] at sorted
    exact sorted.sublist (List.sublist_append_right _ _)
  calc
    pruned config (windowAfter config history) now
        = (windowAfter config history ++ [now]).filter fun crash =>
            decide (now - config.restartWindow < crash) :=
          dropWhile_eq_filter suffix
    _ = (dropped ++ (windowAfter config history ++ [now])).filter
          fun crash => decide (now - config.restartWindow < crash) := by
          rw [List.filter_append dropped, stale, List.nil_append]
    _ = inWindow config now (recorded history ++ [now]) := by
          rw [all, tracks.parts, List.append_assoc]

/-! ## Delays -/

theorem plainDelay_monotone
    (policy : BackoffPolicy) {base : ℚ} (nonneg : 0 ≤ base) :
    Monotone (plainDelay policy base) := by
  intro fewer more ordered
  cases policy with
  | constant => exact le_refl base
  | linear =>
      have counts : (fewer : ℚ) ≤ more := by exact_mod_cast ordered
      exact mul_le_mul_of_nonneg_left counts nonneg
  | exponential =>
      have exponents : (fewer : Int) - 1 ≤ (more : Int) - 1 := by omega
      have powers : (2 : ℚ) ^ ((fewer : Int) - 1) ≤ 2 ^ ((more : Int) - 1) :=
        zpow_le_zpow_right₀ (by norm_num) exponents
      exact mul_le_mul_of_nonneg_left powers nonneg

/-- Jitter lengthens a delay by a quarter at most. -/
theorem delayOf_eq_factor
    (policy : BackoffPolicy) (base : ℚ) (count : Nat) (random : Draw) :
    ∃ factor, 1 ≤ factor ∧ factor ≤ 5 / 4 ∧
      delayOf policy base count random =
        factor * plainDelay policy base count := by
  cases policy with
  | constant =>
      exact ⟨1, le_refl 1, by norm_num, by simp [delayOf]⟩
  | linear =>
      exact ⟨1, le_refl 1, by norm_num, by simp [delayOf]⟩
  | exponential =>
      have nonneg := random.nonneg
      have below := random.below
      refine ⟨1 + random.value * (1 / 4), ?_, ?_, ?_⟩
      · linarith
      · linarith
      · simp only [delayOf]
        ring

theorem ruling_crashesInWindow
    (config : Config) (window : List ℚ) (random : Draw) :
    (ruling config window random).crashesInWindow = window.length := by
  unfold ruling
  split <;> rfl

theorem ruling_exhausted_iff
    (config : Config) (window : List ℚ) (random : Draw) :
    (ruling config window random).action = .exhausted ↔
      config.maxRestarts < (window.length : Int) := by
  unfold ruling
  split
  · rename_i spent
    exact iff_of_true rfl spent
  · rename_i left
    exact iff_of_false (by simp) left

theorem ruling_delay
    {config : Config} {window : List ℚ} {random : Draw}
    (restarts : (ruling config window random).action = .restart) :
    (ruling config window random).delay =
      computeBackoff config window.length random := by
  unfold ruling at restarts ⊢
  split
  · rename_i spent
    rw [if_pos spent] at restarts
    cases restarts
  · rfl

theorem ruling_undelayed
    {config : Config} (none : config.backoff = none)
    (window : List ℚ) (random : Draw) :
    (ruling config window random).delay = 0 := by
  unfold ruling
  split
  · rfl
  · simp [computeBackoff, none]

/-- A verdict that is exempt leaves no trace in the window. -/
theorem windowAfter_exempt
    (config : Config) (before later : List Call) :
    windowAfter config (before ++ Call.exemptVerdict :: later) =
      windowAfter config (before ++ later) := by
  simp [windowAfter, step]

/-! ## The budget -/

theorem record_crash_follows_sliding_budget
    (config : Config) (history : List Call) (now : ℚ) (random : Draw)
    (ordered :
      (crashTimes (history ++ [.recordCrash now random])).Pairwise (· ≤ ·))
    (nonneg : 0 ≤ config.backoffBase) :
    SlidingBudget config history now random := by
  rw [crashTimes_append] at ordered
  have window := pruned_eq_inWindow config ordered
  constructor
  · rw [recordCrash, ruling_exhausted_iff, window]
  · rw [recordCrash, ruling_crashesInWindow, window]
  · intro before later split
    rw [recordCrash, recordCrash, split, windowAfter_exempt]
  · intro none
    exact ruling_undelayed none _ random
  · intro policy found restarts
    have delay := ruling_delay restarts
    have count :
        (recordCrash config history now random).crashesInWindow =
          (pruned config (windowAfter config history) now).length :=
      ruling_crashesInWindow config _ random
    rcases delayOf_eq_factor policy config.backoffBase
        (pruned config (windowAfter config history) now).length random with
      ⟨factor, least, most, equal⟩
    have cut :
        (recordCrash config history now random).delay =
          min
            (factor *
              plainDelay policy config.backoffBase
                (recordCrash config history now random).crashesInWindow)
            config.backoffMax := by
      rw [count, ← equal, recordCrash, delay, computeBackoff, found]
    refine ⟨?_, factor, least, most, cut⟩
    rw [cut]
    exact min_le_right _ _
  · intro policy
    exact plainDelay_monotone policy nonneg

/-- A draw of zero. -/
def noJitter : Draw := ⟨0, le_refl 0, by norm_num⟩

/-- Three crashes, the first exactly one window before the last. -/
theorem crash_one_window_old_not_counted :
    (recordCrash { maxRestarts := 1, restartWindow := 10 }
        [.recordCrash 0 noJitter, .exemptVerdict, .recordCrash 4 noJitter]
        10 noJitter).crashesInWindow = 2 ∧
      SlidingBudget { maxRestarts := 1, restartWindow := 10 }
        [.recordCrash 0 noJitter, .exemptVerdict, .recordCrash 4 noJitter]
        10 noJitter :=
  ⟨by decide +kernel,
    record_crash_follows_sliding_budget _ _ _ _
      (by norm_num [crashTimes, Call.time?, List.filterMap_cons])
      (by norm_num)⟩

/-- Without a policy the delay is zero, also where the maximum is below it. -/
theorem undelayed_restart_exceeds_negative_maximum :
    ∃ config : Config, 0 ≤ config.backoffBase ∧
      (recordCrash config [] 0 noJitter).action = .restart ∧
      ¬(recordCrash config [] 0 noJitter).delay ≤ config.backoffMax := by
  refine ⟨{ backoffMax := -1 }, by norm_num, by decide +kernel, ?_⟩
  decide +kernel

end Civitas.Supervision.RestartEngine
