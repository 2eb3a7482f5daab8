import Civitas.Supervision.Positions
import Civitas.Supervision.Tree
import Civitas.Transition

/-!
# Stopping a subtree

`Supervisor.stop` as a procedure among the processes it stops: it stops its own
loop with `_stop`, then the heartbeat monitor, then the children in reverse
order, by `_stop` for an agent and by the same procedure for a supervisor.

`_stop` returns at once unless the process is running, initializing or
suspended.  It puts a shutdown message, for which it waits while the priority
queue is full, and then waits for the task.  When its time is up the wait
itself cancels the task and goes on until the task has ended; a cancelled task
and a `TimeoutError` are caught, any other exception is raised.

Meanwhile the processes go on: handlers and hooks return, raise or hang until
they are cancelled, a supervisor whose loop runs may start what stands below
it, and others may cancel a task.  A supervisor that is itself stopping a child
swallows a cancellation, because `_stop` of the child catches it.
-/

namespace Civitas.Supervision.Stopping

open Civitas.Dynamic (ProcessStatus TaskOutcome)
open Civitas.Transition
open Function (update)

/-! ## Processes -/

/-- The task of a process. -/
inductive Task where
  | absent
  | live
  /-- The task has been cancelled in its last await. -/
  | closing
  | done (outcome : TaskOutcome)
deriving DecidableEq

/-- A process, as far as `_stop` reads it or waits for it. -/
structure Process where
  status : ProcessStatus := .initializing
  task : Task := .absent
  /-- The process waits, in a handler or a hook, until it is cancelled. -/
  hung : Bool := false
  /-- The priority queue is full. -/
  full : Bool := false
deriving DecidableEq

namespace Process

/-- The task has not finished. -/
def alive (process : Process) : Bool :=
  process.task = .live || process.task = .closing

/-- The task is on its way. -/
def active (process : Process) : Bool :=
  process.task = .live && !process.hung

/-- The process will take its messages. -/
def serving (process : Process) : Bool :=
  process.active && stoppable process.status

/-- `_start_nowait`. -/
def begin (process : Process) : Process :=
  { process with status := .initializing, task := .live, hung := false }

/--
A cancellation is delivered.  Outside the loop nothing stands between it and
the end of the task; inside the loop `on_stop` is still to come.
-/
def cancel (swallows : Bool) (process : Process) : Process :=
  let process := { process with hung := false }
  if process.task = .live then
    if process.status.ready then
      if swallows then process else { process with status := .stopping }
    else { process with task := .closing }
  else process

/-- How the status of a process develops. -/
def develops : ProcessStatus → ProcessStatus → Bool
  | .initializing, .running | .initializing, .suspended
  | .initializing, .crashed => true
  | .running, .suspended | .suspended, .running => true
  | .running, .stopping | .suspended, .stopping => true
  | .running, .crashed | .suspended, .crashed => true
  | .stopping, .stopped => true
  | _, _ => false

end Process

/-- The heartbeat task of a supervisor. -/
inductive Monitor where
  | absent
  | probing
  | failed
deriving DecidableEq

/-! ## Steps -/

/-- Where `stop` stands; the positions are those it has still to stop. -/
inductive Stage where
  | idle
  | next (todo : List Position)
  /-- `_stop` waits for room in the priority queue. -/
  | putting (place : Position) (todo : List Position)
  /-- `_stop` waits for the task. -/
  | waiting (place : Position) (expired : Bool) (todo : List Position)
  /-- `_stop_heartbeat_monitor`. -/
  | ending (place : Position) (todo : List Position)
  | returned
  | raised
deriving DecidableEq

/-- The processes below a supervisor, and how far its `stop` has come. -/
structure State where
  process : Position → Process := fun _ => {}
  monitor : Position → Monitor := fun _ => .absent
  /-- The number of tasks whose place another task has taken. -/
  strays : Nat := 0
  stage : Stage := .idle

/-- Nothing has been started. -/
def init : State := {}

/-- A starter is a supervisor of the tree, or someone outside it. -/
inductive Label where
  | call
  | proceed
  | timeout (swallows : Bool)
  | start (starter : Option Position) (place : Position)
  | startMonitor (starter : Option Position) (place : Position)
  | failMonitor (place : Position)
  | develop (place : Position) (status : ProcessStatus)
  | hang (place : Position)
  | fill (place : Position)
  | take (place : Position)
  | cancel (place : Position) (swallows : Bool)
  | finish (place : Position) (outcome : TaskOutcome)
  | strayEnds
deriving DecidableEq

/-- The starter may start the process. -/
def State.starts
    (tree : Shape) (s : State) (starter : Option Position)
    (place : Position) : Bool :=
  (tree.find place).isSome &&
    match starter with
    | none => true
    | some above =>
        tree.supervises above && decide (above <+: place) &&
          decide (above ≠ place) && (s.process above).active &&
          decide ((s.process above).status = .running)

/-- A process has changed. -/
def State.set (s : State) (place : Position) (process : Process) : State :=
  { s with process := update s.process place process }

/-- `_stop` has returned. -/
def Stage.after
    (tree : Shape) (place : Position) (todo : List Position) : Stage :=
  if tree.supervises place then .ending place todo else .next todo

/-- `_stop` has put its message. -/
def State.posted
    (tree : Shape) (s : State) (place : Position) (todo : List Position) :
    Stage :=
  if (s.process place).alive then .waiting place false todo
  else .after tree place todo

/-- The next step of `stop`, where it does not wait. -/
def State.proceed (tree : Shape) (s : State) : Option State :=
  match s.stage with
  | .next [] => some { s with stage := .returned }
  | .next (place :: todo) =>
      if stoppable (s.process place).status then
        if (s.process place).full then
          some { s with stage := .putting place todo }
        else some { s with stage := s.posted tree place todo }
      else some { s with stage := .after tree place todo }
  | .putting place todo =>
      if (s.process place).full then none
      else some { s with stage := s.posted tree place todo }
  | .waiting place _ todo =>
      match (s.process place).task with
      | .done .raised => some { s with stage := .raised }
      | .done _ => some { s with stage := .after tree place todo }
      | _ => none
  | .ending place todo =>
      match s.monitor place with
      | .failed => some { s with stage := .raised }
      | _ =>
          some
            { s with
              monitor := update s.monitor place .absent
              stage := .next ((tree.childrenOf place).reverse ++ todo) }
  | _ => none

/-- One step of `stop`, or of a process. -/
def step (tree : Shape) (s : State) : Label → Option State
  | .call =>
      match s.stage with
      | .idle => some { s with stage := .next [[]] }
      | _ => none
  | .proceed => s.proceed tree
  | .timeout swallows =>
      match s.stage with
      | .waiting place false todo =>
          if (s.process place).alive &&
              (!swallows || tree.supervises place) then
            some
              { s.set place ((s.process place).cancel swallows) with
                stage := .waiting place true todo }
          else none
      | _ => none
  | .start starter place =>
      if s.starts tree starter place then
        some
          { s.set place (s.process place).begin with
            strays :=
              if (s.process place).alive then s.strays + 1 else s.strays }
      else none
  | .startMonitor starter place =>
      if s.starts tree starter place && tree.supervises place &&
          decide (s.monitor place = .absent) then
        some { s with monitor := update s.monitor place .probing }
      else none
  | .failMonitor place =>
      if s.monitor place = .probing then
        some { s with monitor := update s.monitor place .failed }
      else none
  | .develop place status =>
      if (s.process place).active &&
          Process.develops (s.process place).status status then
        some (s.set place { s.process place with status := status })
      else none
  | .hang place =>
      if (s.process place).active then
        some (s.set place { s.process place with hung := true })
      else none
  | .fill place =>
      if tree.supervises place then none
      else some (s.set place { s.process place with full := true })
  | .take place =>
      if (s.process place).active && (s.process place).status.ready then
        some (s.set place { s.process place with full := false })
      else none
  | .cancel place swallows =>
      if !swallows || tree.supervises place then
        some (s.set place ((s.process place).cancel swallows))
      else none
  | .finish place outcome =>
      if (s.process place).alive && !(s.process place).hung then
        some (s.set place { s.process place with task := .done outcome })
      else none
  | .strayEnds =>
      if 0 < s.strays then some { s with strays := s.strays - 1 } else none

/-! ## The condition -/

/-- `_stop` waits for room in the priority queue of the process. -/
def Stage.puts (place : Position) : Stage → Bool
  | .putting other _ => other = place
  | _ => false

/-- `_stop` waits for the task of the process. -/
def Stage.awaits (place : Position) : Stage → Bool
  | .waiting other _ _ => other = place
  | _ => false

/-- `_stop` has cancelled the process and waits for its task. -/
def Stage.expired (place : Position) : Stage → Bool
  | .waiting other expired _ => expired && other = place
  | _ => false

/--
No process is started from outside once `stop` has been called, and none takes
the place of a task that has not finished; `_stop` finds a process alive only
in a status it waits for, and its queue full only when the process takes its
messages, which goes on while `_stop` waits for room; a process does not raise
while `_stop` waits for it, nor hang again once it has been cancelled by it; and
a heartbeat task that has failed is not stopped.
-/
def completes (s : State) : Label → Bool
  | .proceed =>
      match s.stage with
      | .next (place :: _) =>
          if stoppable (s.process place).status then
            !(s.process place).full || (s.process place).serving
          else !(s.process place).alive
      | .ending place _ => s.monitor place ≠ .failed
      | _ => true
  | .start starter place =>
      !(s.process place).alive && (starter.isSome || s.stage = .idle)
  | .startMonitor starter _ => starter.isSome || s.stage = .idle
  | .hang place => !s.stage.puts place && !s.stage.expired place
  | .cancel place _ => !s.stage.puts place
  | .develop place status => !s.stage.puts place || stoppable status
  | .finish place outcome =>
      !s.stage.puts place && !(s.stage.awaits place && outcome = .raised)
  | _ => true

/-! ## What should hold -/

/-- `stop` has been called and has not ended. -/
def Stage.underway : Stage → Bool
  | .idle | .returned | .raised => false
  | _ => true

/-- The process `stop` waits for is on its way to what `stop` waits for. -/
def State.promised (s : State) : Bool :=
  match s.stage with
  | .putting place _ => (s.process place).serving
  | .waiting place _ _ =>
      (s.process place).alive && !(s.process place).hung
  | _ => false

/-- An upper bound for the steps that `stop` has still to take. -/
def Stage.work (tree : Shape) : Stage → Nat
  | .idle => 5 * tree.weight [] + 2
  | .next todo => 5 * (todo.map tree.weight).sum + 1
  | .putting place todo =>
      5 * tree.weight place + 5 * (todo.map tree.weight).sum
  | .waiting place expired todo =>
      5 * tree.weight place + 5 * (todo.map tree.weight).sum -
        if expired then 2 else 1
  | .ending place todo =>
      5 * tree.weight place + 5 * (todo.map tree.weight).sum - 3
  | .returned | .raised => 0

/--
`stop` does not raise; it takes a bounded number of steps, and where it waits
it can go on, its time will be up, or what it waits for is on its way; and when
it has returned, no task of the tree is left.
-/
structure StopsCompletely (tree : Shape) (s : State) : Prop where
  calm : s.stage ≠ .raised
  bounded : ∀ label after, step tree s label = some after →
    after.stage = s.stage ∨ after.stage.work tree < s.stage.work tree
  advances : s.stage.underway = true →
    (step tree s .proceed).isSome = true ∨
      (step tree s (.timeout false)).isSome = true ∨ s.promised = true
  finished : s.stage = .returned →
    s.strays = 0 ∧
      ∀ place, (s.process place).alive = false ∧ s.monitor place = .absent

/-! ## Bounded work -/

section Work

variable {tree : Shape} {s after : State} {label : Label}

theorem work_after (tree : Shape) (place : Position) (todo : List Position) :
    (Stage.after tree place todo).work tree ≤
      5 * tree.weight place + 5 * (todo.map tree.weight).sum - 3 := by
  have positive := tree.weight_pos place
  unfold Stage.after
  split
  · exact Nat.le_refl _
  · simp only [Stage.work]
    omega

theorem work_posted
    (tree : Shape) (s : State) (place : Position) (todo : List Position) :
    (s.posted tree place todo).work tree <
      5 * tree.weight place + 5 * (todo.map tree.weight).sum := by
  have positive := tree.weight_pos place
  have later := work_after tree place todo
  unfold State.posted
  split
  · simp only [Stage.work, Bool.false_eq_true, if_false]
    omega
  · omega

/-- The children of a supervisor are less work than the supervisor. -/
theorem work_children
    (tree : Shape) (place : Position) (todo : List Position) :
    (Stage.next ((tree.childrenOf place).reverse ++ todo)).work tree <
      (Stage.ending place todo).work tree := by
  have positive := tree.weight_pos place
  have children :
      ((tree.childrenOf place).map tree.weight).sum + 1 ≤
        tree.weight place := by
    cases supervisor : tree.supervises place with
    | true =>
        rw [Shape.weight_supervisor supervisor]
        omega
    | false =>
        rw [Shape.childrenOf_agent supervisor]
        exact positive
  simp only [Stage.work, List.map_append, List.map_reverse, List.sum_append,
    List.sum_reverse]
  omega

theorem work_of_proceed
    (stepped : s.proceed tree = some after) :
    after.stage.work tree < s.stage.work tree := by
  unfold State.proceed at stepped
  split at stepped
  · rename_i stage
    cases stepped
    rw [stage]
    exact Nat.zero_lt_succ _
  · rename_i place todo stage
    have later := work_after tree place todo
    have posted := work_posted tree s place todo
    have before :
        s.stage.work tree =
          5 * tree.weight place + 5 * (todo.map tree.weight).sum + 1 := by
      rw [stage]
      simp only [Stage.work, List.map_cons, List.sum_cons]
      omega
    rw [before]
    split at stepped
    · split at stepped
      · cases stepped
        exact Nat.lt_succ_self _
      · cases stepped
        dsimp only
        omega
    · cases stepped
      dsimp only
      omega
  · rename_i place todo stage
    split at stepped
    · cases stepped
    · cases stepped
      rw [stage]
      exact work_posted tree s place todo
  · rename_i place expired todo stage
    have positive := tree.weight_pos place
    have later := work_after tree place todo
    have before :
        5 * tree.weight place + 5 * (todo.map tree.weight).sum - 2 ≤
          s.stage.work tree := by
      rw [stage]
      simp only [Stage.work]
      split <;> omega
    split at stepped
    · cases stepped
      change 0 < s.stage.work tree
      omega
    · cases stepped
      dsimp only
      omega
    · cases stepped
  · rename_i place todo stage
    have positive := tree.weight_pos place
    rw [stage]
    split at stepped
    · cases stepped
      simp only [Stage.work]
      omega
    · cases stepped
      exact work_children tree place todo
  · cases stepped

/-- Every step of `stop` lowers what it has to do; no other step touches it. -/
theorem work_of_step
    (stepped : step tree s label = some after) :
    after.stage = s.stage ∨
      after.stage.work tree < s.stage.work tree := by
  cases label with
  | call =>
      simp only [step] at stepped
      split at stepped
      · rename_i stage
        cases stepped
        right
        rw [stage]
        simp [Stage.work]
      · cases stepped
  | proceed => exact .inr (work_of_proceed stepped)
  | timeout swallows =>
      simp only [step] at stepped
      split at stepped
      · rename_i place todo stage
        split at stepped
        · cases stepped
          right
          have positive := tree.weight_pos place
          rw [stage]
          simp only [Stage.work, Bool.false_eq_true, if_true, if_false]
          omega
        · cases stepped
      · cases stepped
  | _ =>
      simp only [step, State.set] at stepped
      split at stepped <;> cases stepped
      exact .inl rfl

end Work

/-! ## The invariant -/

/-- The position is one of these, or stands below one of them. -/
def Within (todo : List Position) (place : Position) : Prop :=
  ∃ above ∈ todo, above <+: place

/-- What `stop` has not come to yet. -/
def Stage.MayRun : Stage → Position → Prop
  | .idle, _ | .raised, _ => True
  | .next todo, place => Within todo place
  | .putting other todo, place | .waiting other _ todo, place =>
      Within (other :: todo) place
  | .ending other todo, place =>
      (other <+: place ∧ place ≠ other) ∨ Within todo place
  | .returned, _ => False

/-- The supervisors whose heartbeat task `stop` has not come to yet. -/
def Stage.MayProbe : Stage → Position → Prop
  | .ending other todo, place => Within (other :: todo) place
  | stage, place => stage.MayRun place

/-- `_stop` can wait for the task, and the wait does not raise. -/
def Task.awaitable : Task → Bool
  | .absent | .done .raised => false
  | _ => true

/-- What holds in every run that meets the condition. -/
structure Sound (tree : Shape) (s : State) : Prop where
  placed : ∀ place, (s.process place).alive = true →
    (tree.find place).isSome = true
  watched : ∀ place, s.monitor place ≠ .absent →
    tree.supervises place = true
  strays : s.strays = 0
  running : ∀ place, (s.process place).alive = true → s.stage.MayRun place
  probing : ∀ place, s.monitor place ≠ .absent → s.stage.MayProbe place
  calm : s.stage ≠ .raised
  putting : ∀ place todo, s.stage = .putting place todo →
    (s.process place).serving = true
  waiting : ∀ place expired todo, s.stage = .waiting place expired todo →
    (s.process place).task.awaitable = true
  expired : ∀ place todo, s.stage = .waiting place true todo →
    (s.process place).hung = false

section Invariant

variable {tree : Shape} {s after : State} {label : Label}

theorem sound_init : Sound tree init := by
  constructor
  · intro place alive
    cases alive
  · intro place watched
    exact absurd rfl watched
  · rfl
  · intro place alive
    cases alive
  · intro place watched
    exact absurd rfl watched
  · intro raised
    cases raised
  · intro place todo putting
    cases putting
  · intro place expired todo waiting
    cases waiting
  · intro place todo waiting
    cases waiting

theorem Within.cons
    {todo : List Position} {place other : Position}
    (within : Within todo place) : Within (other :: todo) place := by
  rcases within with ⟨above, listed, before⟩
  exact ⟨above, List.mem_cons_of_mem _ listed, before⟩

theorem within_cons
    {todo : List Position} {place other : Position} :
    Within (other :: todo) place ↔ other <+: place ∨ Within todo place := by
  simp [Within]

/-- What stands below a process that may run may run. -/
theorem mayRun_below
    {stage : Stage} {above place : Position} (may : stage.MayRun above)
    (before : above <+: place) (apart : above ≠ place) :
    stage.MayRun place := by
  have inside : ∀ {todo : List Position},
      Within todo above → Within todo place := by
    rintro todo ⟨other, listed, first⟩
    exact ⟨other, listed, first.trans before⟩
  cases stage with
  | idle => trivial
  | raised => trivial
  | next todo => exact inside may
  | putting other todo => exact inside may
  | waiting other expired todo => exact inside may
  | ending other todo =>
      rcases may with ⟨first, different⟩ | within
      · refine .inl ⟨first.trans before, ?_⟩
        rintro rfl
        exact apart (before.eq_of_length_le first.length_le)
      · exact .inr (inside within)
  | returned => exact may

theorem mayProbe_of_mayRun
    {stage : Stage} {place : Position} (may : stage.MayRun place) :
    stage.MayProbe place := by
  cases stage with
  | ending other todo =>
      rcases may with ⟨before, -⟩ | within
      · exact within_cons.mpr (.inl before)
      · exact within.cons
  | _ => exact may

/-- Whatever may be started stands below a process that may run. -/
theorem Sound.mayStart
    (sound : Sound tree s) {starter : Option Position} {place : Position}
    (starts : s.starts tree starter place = true)
    (inside : (starter.isSome || decide (s.stage = .idle)) = true) :
    s.stage.MayRun place := by
  unfold State.starts at starts
  cases starter with
  | none =>
      have idle : s.stage = .idle := by simpa using inside
      rw [idle]
      trivial
  | some above =>
      simp only [Bool.and_eq_true, decide_eq_true_eq] at starts
      rcases starts with ⟨-, ⟨⟨⟨-, before⟩, apart⟩, active⟩, -⟩
      have alive : (s.process above).alive = true := by
        simp only [Process.active, Bool.and_eq_true,
          decide_eq_true_eq] at active
        simp [Process.alive, active.1]
      exact mayRun_below (sound.running above alive) before apart

/-- One process changes. -/
theorem Sound.set
    (sound : Sound tree s) {place : Position} {process : Process}
    (alive : process.alive = true →
      (tree.find place).isSome = true ∧ s.stage.MayRun place)
    (put : s.stage.puts place = true → process.serving = true)
    (awaited : s.stage.awaits place = true →
      process.task.awaitable = true)
    (expired : s.stage.expired place = true → process.hung = false) :
    Sound tree (s.set place process) := by
  have cases_of : ∀ other,
      (other = place ∧ (s.set place process).process other = process) ∨
        (s.set place process).process other = s.process other := by
    intro other
    by_cases same : other = place
    · subst same
      exact .inl ⟨rfl, Function.update_self _ _ _⟩
    · exact .inr (Function.update_of_ne same _ _)
  constructor
  · intro other lives
    rcases cases_of other with ⟨rfl, changed⟩ | kept
    · rw [changed] at lives
      exact (alive lives).1
    · rw [kept] at lives
      exact sound.placed other lives
  · exact sound.watched
  · exact sound.strays
  · intro other lives
    rcases cases_of other with ⟨rfl, changed⟩ | kept
    · rw [changed] at lives
      exact (alive lives).2
    · rw [kept] at lives
      exact sound.running other lives
  · exact sound.probing
  · exact sound.calm
  · intro other todo putting
    have stage : s.stage = .putting other todo := putting
    rcases cases_of other with ⟨rfl, changed⟩ | kept
    · rw [changed]
      exact put (by simp [stage, Stage.puts])
    · rw [kept]
      exact sound.putting other todo stage
  · intro other late todo waiting
    have stage : s.stage = .waiting other late todo := waiting
    rcases cases_of other with ⟨rfl, changed⟩ | kept
    · rw [changed]
      exact awaited (by simp [stage, Stage.awaits])
    · rw [kept]
      exact sound.waiting other late todo stage
  · intro other todo waiting
    have stage : s.stage = .waiting other true todo := waiting
    rcases cases_of other with ⟨rfl, changed⟩ | kept
    · rw [changed]
      exact expired (by simp [stage, Stage.expired])
    · rw [kept]
      exact sound.expired other todo stage

/-- The facts about a process that the stage of `stop` gives. -/
theorem Sound.put
    (sound : Sound tree s) {place : Position}
    (put : s.stage.puts place = true) :
    (s.process place).serving = true := by
  cases stage : s.stage with
  | putting other todo =>
      have same : other = place := by simpa [stage, Stage.puts] using put
      subst same
      exact sound.putting other todo stage
  | _ => simp [stage, Stage.puts] at put

theorem Sound.awaitable
    (sound : Sound tree s) {place : Position}
    (awaited : s.stage.awaits place = true) :
    (s.process place).task.awaitable = true := by
  cases stage : s.stage with
  | waiting other late todo =>
      have same : other = place := by
        simpa [stage, Stage.awaits] using awaited
      subst same
      exact sound.waiting other late todo stage
  | _ => simp [stage, Stage.awaits] at awaited

theorem Sound.unhung
    (sound : Sound tree s) {place : Position}
    (expired : s.stage.expired place = true) :
    (s.process place).hung = false := by
  cases stage : s.stage with
  | waiting other late todo =>
      simp only [stage, Stage.expired, Bool.and_eq_true,
        decide_eq_true_eq] at expired
      rcases expired with ⟨rfl, rfl⟩
      exact sound.expired other todo stage
  | _ => simp [stage, Stage.expired] at expired

/-- A process that was alive before changes in place. -/
theorem Sound.keep
    (sound : Sound tree s) {place : Position} {process : Process}
    (alive : process.alive = true → (s.process place).alive = true)
    (put : s.stage.puts place = true → process.serving = true)
    (awaited : s.stage.awaits place = true →
      process.task.awaitable = true)
    (expired : s.stage.expired place = true → process.hung = false) :
    Sound tree (s.set place process) := by
  refine sound.set ?_ put awaited expired
  intro lives
  exact ⟨sound.placed place (alive lives), sound.running place (alive lives)⟩

theorem alive_of_active
    {process : Process} (active : process.active = true) :
    process.alive = true := by
  simp only [Process.active, Bool.and_eq_true, decide_eq_true_eq] at active
  simp [Process.alive, active.1]

theorem alive_of_cancel
    {swallows : Bool} {process : Process}
    (alive : (process.cancel swallows).alive = true) :
    process.alive = true := by
  simp only [Process.cancel] at alive
  split at alive
  · rename_i live
    simp [Process.alive, live]
  · exact alive

theorem awaitable_of_cancel
    {swallows : Bool} {process : Process}
    (task : process.task.awaitable = true) :
    (process.cancel swallows).task.awaitable = true := by
  simp only [Process.cancel]
  split
  · split
    · split <;> exact task
    · rfl
  · exact task

/-- A process does not hang when it has just been cancelled. -/
theorem hung_of_cancel (swallows : Bool) (process : Process) :
    (process.cancel swallows).hung = false := by
  simp only [Process.cancel]
  split
  · split
    · split <;> rfl
    · rfl
  · rfl

/-! ### Steps of the processes -/

theorem Sound.start
    (sound : Sound tree s) {starter : Option Position} {place : Position}
    (allowed : completes s (.start starter place) = true)
    (stepped : step tree s (.start starter place) = some after) :
    Sound tree after := by
  simp only [completes, Bool.and_eq_true, Bool.not_eq_true'] at allowed
  simp only [step] at stepped
  split at stepped
  · rename_i starts
    cases stepped
    have found : (tree.find place).isSome = true := by
      unfold State.starts at starts
      exact (Bool.and_eq_true_iff.mp starts).1
    have may := sound.mayStart starts allowed.2
    have begun : Sound tree (s.set place (s.process place).begin) := by
      exact sound.set (fun _ => ⟨found, may⟩) (fun _ => rfl) (fun _ => rfl)
        (fun _ => rfl)
    rw [if_neg (by simp [allowed.1])]
    exact begun
  · cases stepped

theorem Sound.startMonitor
    (sound : Sound tree s) {starter : Option Position} {place : Position}
    (allowed : completes s (.startMonitor starter place) = true)
    (stepped : step tree s (.startMonitor starter place) = some after) :
    Sound tree after := by
  simp only [step] at stepped
  split at stepped
  · rename_i enabled
    cases stepped
    simp only [Bool.and_eq_true] at enabled
    rcases enabled with ⟨⟨starts, supervisor⟩, -⟩
    have may := sound.mayStart starts allowed
    constructor
    · exact sound.placed
    · intro other watched
      by_cases same : other = place
      · subst same
        exact supervisor
      · exact sound.watched other (by simpa [same] using watched)
    · exact sound.strays
    · exact sound.running
    · intro other watched
      by_cases same : other = place
      · subst same
        exact mayProbe_of_mayRun may
      · exact sound.probing other (by simpa [same] using watched)
    · exact sound.calm
    · exact sound.putting
    · exact sound.waiting
    · exact sound.expired
  · cases stepped

theorem Sound.failMonitor
    (sound : Sound tree s) {place : Position}
    (stepped : step tree s (.failMonitor place) = some after) :
    Sound tree after := by
  simp only [step] at stepped
  split at stepped
  · rename_i probing
    cases stepped
    have present : ∀ other,
        update s.monitor place .failed other ≠ .absent →
          s.monitor other ≠ .absent := by
      intro other watched
      by_cases same : other = place
      · subst same
        simp [probing]
      · simpa [same] using watched
    constructor
    · exact sound.placed
    · intro other watched
      exact sound.watched other (present other watched)
    · exact sound.strays
    · exact sound.running
    · intro other watched
      exact sound.probing other (present other watched)
    · exact sound.calm
    · exact sound.putting
    · exact sound.waiting
    · exact sound.expired
  · cases stepped

theorem Sound.develop
    (sound : Sound tree s) {place : Position} {status : ProcessStatus}
    (allowed : completes s (.develop place status) = true)
    (stepped : step tree s (.develop place status) = some after) :
    Sound tree after := by
  simp only [step] at stepped
  split at stepped
  · rename_i enabled
    cases stepped
    have active := (Bool.and_eq_true_iff.mp enabled).1
    refine sound.keep (fun _ => alive_of_active active) ?_ sound.awaitable
      sound.unhung
    intro put
    have kept : stoppable status = true := by
      simpa [completes, put] using allowed
    unfold Process.serving
    rw [kept, Bool.and_true]
    exact active
  · cases stepped

theorem Sound.hang
    (sound : Sound tree s) {place : Position}
    (allowed : completes s (.hang place) = true)
    (stepped : step tree s (.hang place) = some after) :
    Sound tree after := by
  simp only [completes, Bool.and_eq_true, Bool.not_eq_true'] at allowed
  simp only [step] at stepped
  split at stepped
  · rename_i active
    cases stepped
    refine sound.keep (fun _ => alive_of_active active) ?_ sound.awaitable ?_
    · intro put
      rw [allowed.1] at put
      cases put
    · intro expired
      rw [allowed.2] at expired
      cases expired
  · cases stepped

theorem Sound.cancel
    (sound : Sound tree s) {place : Position} {swallows : Bool}
    (allowed : completes s (.cancel place swallows) = true)
    (stepped : step tree s (.cancel place swallows) = some after) :
    Sound tree after := by
  simp only [completes, Bool.not_eq_true'] at allowed
  simp only [step] at stepped
  split at stepped
  · cases stepped
    refine sound.keep alive_of_cancel ?_ ?_ ?_
    · intro put
      rw [allowed] at put
      cases put
    · intro awaited
      exact awaitable_of_cancel (sound.awaitable awaited)
    · intro _
      exact hung_of_cancel swallows _
  · cases stepped

theorem Sound.finish
    (sound : Sound tree s) {place : Position} {outcome : TaskOutcome}
    (allowed : completes s (.finish place outcome) = true)
    (stepped : step tree s (.finish place outcome) = some after) :
    Sound tree after := by
  simp only [completes, Bool.and_eq_true, Bool.not_eq_true'] at allowed
  simp only [step] at stepped
  split at stepped
  · cases stepped
    refine sound.keep ?_ ?_ ?_ sound.unhung
    · intro alive
      cases alive
    · intro put
      rw [allowed.1] at put
      cases put
    · intro awaited
      have calm : outcome ≠ .raised := by
        simpa [awaited] using allowed.2
      cases outcome with
      | raised => exact absurd rfl calm
      | _ => rfl
  · cases stepped

/-! ### Steps of `stop` -/

/-- `stop` goes on with the processes and monitors as they are. -/
theorem Sound.advance
    (sound : Sound tree s) {stage : Stage}
    (running : ∀ place, (s.process place).alive = true → stage.MayRun place)
    (probing : ∀ place, s.monitor place ≠ .absent → stage.MayProbe place)
    (calm : stage ≠ .raised)
    (putting : ∀ place todo, stage = .putting place todo →
      (s.process place).serving = true)
    (waiting : ∀ place expired todo, stage = .waiting place expired todo →
      expired = false ∧ (s.process place).task.awaitable = true) :
    Sound tree { s with stage := stage } := by
  constructor
  · exact sound.placed
  · exact sound.watched
  · exact sound.strays
  · exact running
  · exact probing
  · exact calm
  · exact putting
  · intro place expired todo waits
    exact (waiting place expired todo waits).2
  · intro place todo waits
    have never := (waiting place true todo waits).1
    cases never

/-- `_stop` has returned, and the task of its process is finished. -/
theorem Sound.settled
    (sound : Sound tree s) {place : Position} {todo : List Position}
    (running : ∀ other, (s.process other).alive = true →
      Within (place :: todo) other)
    (probing : ∀ other, s.monitor other ≠ .absent →
      Within (place :: todo) other)
    (ended : (s.process place).alive = false) :
    Sound tree { s with stage := .after tree place todo } := by
  have others : ∀ other, (s.process other).alive = true → other ≠ place := by
    rintro other alive rfl
    rw [ended] at alive
    cases alive
  unfold Stage.after
  split
  · refine sound.advance ?_ probing Stage.noConfusion ?_ ?_
    · intro other alive
      rcases within_cons.mp (running other alive) with before | within
      · exact .inl ⟨before, others other alive⟩
      · exact .inr within
    · intro _ _ putting
      cases putting
    · intro _ _ _ waiting
      cases waiting
  · rename_i leaf
    have agent : tree.supervises place = false := by simpa using leaf
    refine sound.advance ?_ ?_ Stage.noConfusion ?_ ?_
    · intro other alive
      rcases within_cons.mp (running other alive) with before | within
      · have same := Shape.eq_of_agent agent (sound.placed other alive) before
        exact absurd same (others other alive)
      · exact within
    · intro other watched
      rcases within_cons.mp (probing other watched) with before | within
      · have supervisor := sound.watched other watched
        have same := Shape.eq_of_agent agent
          (Shape.find_of_supervises supervisor) before
        rw [same, agent] at supervisor
        cases supervisor
      · exact within
    · intro _ _ putting
      cases putting
    · intro _ _ _ waiting
      cases waiting

/-- `_stop` has put its message. -/
theorem Sound.post
    (sound : Sound tree s) {place : Position} {todo : List Position}
    (running : ∀ other, (s.process other).alive = true →
      Within (place :: todo) other)
    (probing : ∀ other, s.monitor other ≠ .absent →
      Within (place :: todo) other) :
    Sound tree { s with stage := s.posted tree place todo } := by
  unfold State.posted
  split
  · rename_i alive
    refine sound.advance running probing Stage.noConfusion ?_ ?_
    · intro _ _ putting
      cases putting
    · intro _ _ _ waiting
      cases waiting
      refine ⟨rfl, ?_⟩
      cases task : (s.process place).task with
      | absent => simp [Process.alive, task] at alive
      | done outcome => simp [Process.alive, task] at alive
      | _ => rfl
  · rename_i ended
    exact sound.settled running probing (by simpa using ended)

/-- The monitor of a supervisor is gone, and its children come next. -/
theorem Sound.leave
    (sound : Sound tree s) {place : Position} {todo : List Position}
    (stage : s.stage = .ending place todo) :
    Sound tree
      { s with
        monitor := update s.monitor place .absent
        stage := .next ((tree.childrenOf place).reverse ++ todo) } := by
  have running := sound.running
  have probing := sound.probing
  rw [stage] at running probing
  have inside : ∀ other, (tree.find other).isSome = true →
      (place <+: other ∧ other ≠ place) ∨ Within todo other →
        Within ((tree.childrenOf place).reverse ++ todo) other := by
    rintro other found (⟨before, apart⟩ | ⟨above, listed, first⟩)
    · rcases Shape.below_child found before apart with
        ⟨child, listed, first⟩
      exact ⟨child, by simp [listed], first⟩
    · exact ⟨above, by simp [listed], first⟩
  have present : ∀ other, update s.monitor place .absent other ≠ .absent →
      other ≠ place ∧ s.monitor other ≠ .absent := by
    intro other watched
    by_cases same : other = place
    · subst same
      simp at watched
    · exact ⟨same, by simpa [same] using watched⟩
  constructor
  · exact sound.placed
  · intro other watched
    exact sound.watched other (present other watched).2
  · exact sound.strays
  · intro other alive
    exact inside other (sound.placed other alive) (running other alive)
  · intro other watched
    rcases present other watched with ⟨apart, kept⟩
    have found := Shape.find_of_supervises (sound.watched other kept)
    refine inside other found ?_
    rcases within_cons.mp (probing other kept) with before | within
    · exact .inl ⟨before, apart⟩
    · exact .inr within
  · exact Stage.noConfusion
  · intro _ _ putting
    cases putting
  · intro _ _ _ waiting
    cases waiting
  · intro _ _ waiting
    cases waiting

theorem Sound.proceed
    (sound : Sound tree s) (allowed : completes s .proceed = true)
    (stepped : s.proceed tree = some after) : Sound tree after := by
  unfold State.proceed at stepped
  split at stepped
  · rename_i stage
    cases stepped
    have none : ∀ place, ¬ s.stage.MayRun place := by
      rw [stage]
      rintro place ⟨above, listed, -⟩
      cases listed
    refine sound.advance ?_ ?_ Stage.noConfusion ?_ ?_
    · intro place alive
      exact none place (sound.running place alive)
    · intro place watched
      have may := sound.probing place watched
      rw [stage] at may
      rcases may with ⟨above, listed, -⟩
      cases listed
    · intro _ _ putting
      cases putting
    · intro _ _ _ waiting
      cases waiting
  · rename_i place todo stage
    have running := sound.running
    have probing := sound.probing
    rw [stage] at running probing
    simp only [completes, stage] at allowed
    split at stepped
    · rename_i stops
      rw [if_pos stops] at allowed
      split at stepped
      · rename_i full
        cases stepped
        refine sound.advance running probing Stage.noConfusion ?_ ?_
        · intro _ _ putting
          cases putting
          simpa [full] using allowed
        · intro _ _ _ waiting
          cases waiting
      · cases stepped
        exact sound.post running probing
    · rename_i skips
      rw [if_neg skips] at allowed
      cases stepped
      exact sound.settled running probing (by simpa using allowed)
  · rename_i place todo stage
    have running := sound.running
    have probing := sound.probing
    rw [stage] at running probing
    split at stepped
    · cases stepped
    · cases stepped
      exact sound.post running probing
  · rename_i place expired todo stage
    have running := sound.running
    have probing := sound.probing
    have awaitable := sound.waiting place expired todo stage
    rw [stage] at running probing
    split at stepped
    · rename_i raised
      rw [raised] at awaitable
      cases awaitable
    · rename_i ended
      cases stepped
      exact sound.settled running probing (by simp [Process.alive, ended])
    · cases stepped
  · rename_i place todo stage
    have running := sound.running
    have probing := sound.probing
    rw [stage] at running probing
    have healthy : s.monitor place ≠ .failed := by
      simpa [completes, stage] using allowed
    split at stepped
    · rename_i failed
      exact absurd failed healthy
    · cases stepped
      exact sound.leave stage
  · cases stepped

theorem Sound.timeout
    (sound : Sound tree s) {swallows : Bool}
    (stepped : step tree s (.timeout swallows) = some after) :
    Sound tree after := by
  simp only [step] at stepped
  split at stepped
  · rename_i place todo stage
    split at stepped
    · cases stepped
      have awaitable := sound.waiting place false todo stage
      have probing := sound.probing
      rw [stage] at probing
      have cancelled :
          Sound tree (s.set place ((s.process place).cancel swallows)) := by
        refine sound.keep alive_of_cancel ?_ ?_ ?_
        · intro put
          simp [stage, Stage.puts] at put
        · intro _
          exact awaitable_of_cancel awaitable
        · intro expired
          simp [stage, Stage.expired] at expired
      constructor
      · exact cancelled.placed
      · exact cancelled.watched
      · exact cancelled.strays
      · intro other alive
        have may := cancelled.running other alive
        rw [show (s.set place _).stage = s.stage from rfl, stage] at may
        exact may
      · exact probing
      · exact Stage.noConfusion
      · intro _ _ putting
        cases putting
      · intro _ _ _ waiting
        cases waiting
        exact cancelled.waiting place false todo stage
      · intro _ _ waiting
        cases waiting
        simp only [State.set, Function.update_self]
        exact hung_of_cancel swallows _
    · cases stepped
  · cases stepped

/-- One step keeps the invariant. -/
theorem step_sound
    (sound : Sound tree s) (allowed : completes s label = true)
    (stepped : step tree s label = some after) : Sound tree after := by
  cases label with
  | call =>
      simp only [step] at stepped
      split at stepped
      · cases stepped
        have everything : ∀ place, Within [[]] place := by
          intro place
          exact ⟨[], List.mem_singleton_self _, List.nil_prefix⟩
        refine sound.advance (fun place _ => everything place)
          (fun place _ => everything place) Stage.noConfusion ?_ ?_
        · intro _ _ putting
          cases putting
        · intro _ _ _ waiting
          cases waiting
      · cases stepped
  | proceed => exact sound.proceed allowed stepped
  | timeout swallows => exact sound.timeout stepped
  | start starter place => exact sound.start allowed stepped
  | startMonitor starter place => exact sound.startMonitor allowed stepped
  | failMonitor place => exact sound.failMonitor stepped
  | develop place status => exact sound.develop allowed stepped
  | hang place => exact sound.hang allowed stepped
  | fill place =>
      simp only [step] at stepped
      split at stepped
      · cases stepped
      · cases stepped
        exact sound.keep id sound.put sound.awaitable sound.unhung
  | take place =>
      simp only [step] at stepped
      split at stepped
      · cases stepped
        exact sound.keep id sound.put sound.awaitable sound.unhung
      · cases stepped
  | cancel place swallows => exact sound.cancel allowed stepped
  | finish place outcome => exact sound.finish allowed stepped
  | strayEnds =>
      simp only [step, sound.strays, Nat.lt_irrefl, if_false] at stepped
      cases stepped

end Invariant

/-! ## Every run -/

/-- Where `stop` waits, it goes on or what it waits for is on its way. -/
theorem Sound.advances
    {tree : Shape} {s : State} (sound : Sound tree s)
    (underway : s.stage.underway = true) :
    (step tree s .proceed).isSome = true ∨
      (step tree s (.timeout false)).isSome = true ∨ s.promised = true := by
  cases stage : s.stage with
  | idle => simp [stage, Stage.underway] at underway
  | returned => simp [stage, Stage.underway] at underway
  | raised => simp [stage, Stage.underway] at underway
  | next todo =>
      left
      cases todo with
      | nil => simp [step, State.proceed, stage]
      | cons place todo =>
          simp only [step, State.proceed, stage]
          split
          · split <;> rfl
          · rfl
  | putting place todo =>
      right
      right
      simpa [State.promised, stage] using sound.putting place todo stage
  | ending place todo =>
      left
      simp only [step, State.proceed, stage]
      split <;> rfl
  | waiting place expired todo =>
      have awaitable := sound.waiting place expired todo stage
      by_cases alive : (s.process place).alive = true
      · right
        cases expired with
        | false =>
            left
            simp [step, stage, alive]
        | true =>
            right
            have unhung := sound.expired place todo stage
            simp [State.promised, stage, alive, unhung]
      · left
        simp only [step, State.proceed, stage]
        cases task : (s.process place).task with
        | absent => simp [task, Task.awaitable] at awaitable
        | live => simp [Process.alive, task] at alive
        | closing => simp [Process.alive, task] at alive
        | done outcome => cases outcome <;> rfl

theorem Sound.stopsCompletely
    {tree : Shape} {s : State} (sound : Sound tree s) :
    StopsCompletely tree s where
  calm := sound.calm
  bounded := fun _ _ stepped => work_of_step stepped
  advances := sound.advances
  finished := by
    intro returned
    refine ⟨sound.strays, ?_⟩
    intro place
    constructor
    · by_contra alive
      have may := sound.running place (by simpa using alive)
      rw [returned] at may
      exact may
    · by_contra watched
      have may := sound.probing place watched
      rw [returned] at may
      exact may

theorem stop_completes_in_every_run
    (tree : Shape) {s : State}
    (reached : Reaches (step tree) (completes · ·) init s) :
    StopsCompletely tree s := by
  have sound : Sound tree s := by
    refine reached.invariant sound_init ?_
    intro before label after sound allowed stepped
    exact step_sound sound allowed stepped
  exact sound.stopsCompletely

/-- A supervisor with two agents. -/
def pair : Shape := .supervisor [.agent, .agent]

/-- A supervisor and two agents start. -/
def upRun : List Label :=
  [.start none [], .develop [] .running, .start none [0],
    .develop [0] .running, .start none [1], .develop [1] .running,
    .startMonitor none []]

/-- The loop of the supervisor ends, and its monitor is stopped. -/
def loopRun : List Label :=
  [.call, .proceed, .develop [] .stopping, .develop [] .stopped,
    .finish [] .returned, .proceed, .proceed]

/-- They are stopped; the second agent hangs until it is cancelled. -/
def pairRun : List Label :=
  upRun ++ loopRun ++
    [Label.hang [1], .proceed, .timeout false, .finish [1] .cancelled, .proceed,
      .proceed, .develop [0] .stopping, .develop [0] .stopped,
      .finish [0] .returned, .proceed, .proceed]

/-- An agent that hangs is cancelled, the other ends when it is asked to. -/
theorem pair_stopped :
    ∃ s, s.stage = .returned ∧ StopsCompletely pair s := by
  have run :
      ((runWhere (step pair) (completes · ·) init pairRun).map fun s =>
        decide (s.stage = .returned)) = some true := by
    decide +kernel
  rcases Option.map_eq_some_iff.mp run with ⟨s, ran, held⟩
  exact ⟨s, of_decide_eq_true held,
    stop_completes_in_every_run pair (reaches_of_runWhere .start ran)⟩

/-- An agent escalates while its shutdown is pending. -/
def escalationRun : List Label :=
  upRun ++ loopRun ++
    [Label.proceed, .develop [1] .crashed, .finish [1] .raised, .proceed]

/-- `stop` raises, and the other agent goes on. -/
theorem stop_raises_when_child_escalates :
    ¬ ∀ s, Reaches (step pair) (fun _ _ => True) init s →
      StopsCompletely pair s := by
  intro always
  have run :
      ((runWhere (step pair) (fun _ _ => True) init escalationRun).map
        fun s =>
          decide (s.stage = .raised ∧ (s.process [0]).alive = true)) =
        some true := by
    decide +kernel
  rcases Option.map_eq_some_iff.mp run with ⟨s, ran, held⟩
  have facts := of_decide_eq_true held
  have complete := always s (reaches_of_runWhere .start ran)
  exact complete.calm facts.1

end Civitas.Supervision.Stopping
