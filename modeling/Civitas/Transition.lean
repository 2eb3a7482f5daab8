import Mathlib.Data.Option.Basic

/-!
# Runs of a transition system

A system is given by a step function: a state and a label have at most one
successor, and a label that is not enabled has none.  `Reaches` collects the
states of all runs whose steps meet a condition on the state before the step
and the label; `runWhere` executes such a run.
-/

namespace Civitas.Transition

variable {State Label : Type*}

/-- The states of the runs from `start` whose steps all meet `permits`. -/
inductive Reaches
    (step : State → Label → Option State)
    (permits : State → Label → Prop) (start : State) : State → Prop where
  | start : Reaches step permits start start
  | step {before after : State} {label : Label} :
      Reaches step permits start before →
      permits before label →
      step before label = some after →
        Reaches step permits start after

variable
  {step : State → Label → Option State}
  {permits : State → Label → Prop}
  {start : State}

/-- What holds at the start and is kept by every permitted step, holds. -/
theorem Reaches.invariant
    {invariant : State → Prop} {state : State}
    (reached : Reaches step permits start state)
    (base : invariant start)
    (keep : ∀ before label after,
      invariant before → permits before label →
        step before label = some after → invariant after) :
    invariant state := by
  induction reached with
  | start => exact base
  | step _ permitted stepped ih => exact keep _ _ _ ih permitted stepped

/-- A run that meets a condition meets every weaker one. -/
theorem Reaches.mono
    {weaker : State → Label → Prop} {state : State}
    (reached : Reaches step permits start state)
    (weaken : ∀ before label,
      permits before label → weaker before label) :
    Reaches step weaker start state := by
  induction reached with
  | start => exact .start
  | step _ permitted stepped ih =>
      exact .step ih (weaken _ _ permitted) stepped

/-- A run can be continued by another. -/
theorem Reaches.trans
    {middle state : State}
    (first : Reaches step permits start middle)
    (second : Reaches step permits middle state) :
    Reaches step permits start state := by
  induction second with
  | start => exact first
  | step _ permitted stepped ih => exact .step ih permitted stepped

/-- Execute a list of labels, checking the condition before each step. -/
def runWhere
    (step : State → Label → Option State)
    (permits : State → Label → Prop)
    [∀ state label, Decidable (permits state label)] :
    State → List Label → Option State
  | state, [] => some state
  | state, label :: rest =>
      if permits state label
      then (step state label).bind fun after =>
        runWhere step permits after rest
      else none

theorem reaches_of_runWhere
    [∀ state label, Decidable (permits state label)]
    {labels : List Label} {before after : State}
    (reached : Reaches step permits start before)
    (ran : runWhere step permits before labels = some after) :
    Reaches step permits start after := by
  induction labels generalizing before with
  | nil =>
      cases ran
      exact reached
  | cons label rest ih =>
      simp only [runWhere] at ran
      split at ran
      · rename_i permitted
        rcases Option.bind_eq_some_iff.mp ran with ⟨next, stepped, tail⟩
        exact ih (.step reached permitted stepped) tail
      · cases ran

/-- A run that has been executed ends in a state that it reaches. -/
theorem exists_reaches_of_run
    [∀ state label, Decidable (permits state label)]
    {Observation : Type*} {observe : State → Observation}
    {observed : Observation} {labels : List Label}
    (ran : (runWhere step permits start labels).map observe =
      some observed) :
    ∃ state, Reaches step permits start state ∧ observe state = observed := by
  rcases Option.map_eq_some_iff.mp ran with ⟨state, executed, seen⟩
  exact ⟨state, reaches_of_runWhere .start executed, seen⟩

end Civitas.Transition
