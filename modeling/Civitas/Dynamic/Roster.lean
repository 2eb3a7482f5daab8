import Civitas.Dynamic.Step
import Mathlib.Tactic.SplitIfs

/-!
# Incarnations and names

An abstract view of a dynamic supervisor: which incarnations exist, which
record they belong to, how far the handling of their exits has come, and which
spawn last took a name.  Six motions describe all that a step can do to it.

The invariant `Kept` says that the tasks which work under a name all work for
the record that took it last.  It needs one assumption about claims: a name is
claimed only when nothing works under it any more.
-/

namespace Civitas.Dynamic

open Civitas.PyValue
open Function (update)

/-! ## Stages -/

/-- The handler runs and has not replaced the incarnation. -/
def ExitStage.begun : ExitStage → Bool
  | .scheduled _ | .clearing _ | .announcing _ | .unsubscribing _
  | .draining _ | .leaving _ | .wiring _ _ | .transferring _ _
  | .rewireClearing => true
  | _ => false

/-- The incarnation still holds its record. -/
def ExitStage.holds : ExitStage → Bool
  | .watched => true
  | stage => stage.begun

/-- The handler may still do something under the name. -/
def ExitStage.acting : ExitStage → Bool
  | .starting _ _ => true
  | stage => stage.holds

/-- The record and the incarnation that a restart builds. -/
def ExitStage.building : ExitStage → Option (Nat × Nat)
  | .wiring record fresh | .transferring record fresh => some (record, fresh)
  | _ => none

/-- The continuation tears its child down. -/
def SpawnStage.tearing : SpawnStage → Bool
  | .unsubscribing | .draining => true
  | _ => false

/-- The continuation may still do something under the name. -/
def SpawnStage.acting : SpawnStage → Bool
  | .waiting => true
  | stage => stage.tearing

theorem ExitStage.holds_of_begun {stage : ExitStage}
    (begun : stage.begun = true) : stage.holds = true := by
  cases stage <;> first | rfl | exact begun

theorem ExitStage.acting_of_holds {stage : ExitStage}
    (holds : stage.holds = true) : stage.acting = true := by
  cases stage <;> first | rfl | exact holds

theorem ExitStage.begun_of_building {stage : ExitStage} {built : Nat × Nat}
    (building : stage.building = some built) : stage.begun = true := by
  cases stage <;> first | rfl | cases building

theorem SpawnStage.acting_of_tearing {stage : SpawnStage}
    (tearing : stage.tearing = true) : stage.acting = true := by
  cases stage <;> first | rfl | exact tearing

/-! ## The roster -/

/-- What the loop does for a spawn before its admission. -/
inductive Errand where
  | none
  | asking (name : Name)
  | claimed (name : Name) (agent : Nat)

theorem Errand.unclaimed_of_none {errand : Errand} (free : errand = .none)
    (name : Name) (agent : Nat) : errand ≠ .claimed name agent := by
  subst free
  intro claimed
  cases claimed

theorem Errand.unclaimed_of_asking
    {errand : Errand} {asked : Name} (asks : errand = .asking asked)
    (name : Name) (agent : Nat) : errand ≠ .claimed name agent := by
  subst asks
  intro claimed
  cases claimed

/-- The incarnations that were made, with their names, records and tasks. -/
structure Roster where
  next : Nat
  agentName : Nat → Name
  home : Nat → Nat
  recAgent : Nat → Nat
  task : Nat → TaskState
  reachedLoop : Nat → Bool
  exit : Nat → ExitStage
  continuation : Nat → SpawnStage
  entry : Name → Option Nat
  spawnerNames : Name → Option Key
  origins : List Origin
  errand : Errand

namespace Roster

/-- The spawn that took a name last. -/
def incumbent (a : Roster) (name : Name) : Option Origin :=
  a.origins.find? fun origin => decide (origin.name = name)

/-- The incarnation runs or its exit is handled. -/
def Acting (a : Roster) (agent : Nat) : Prop :=
  a.task agent = .live ∨ (a.exit agent).acting = true

/-- Nothing works under the name. -/
def Free (a : Roster) (name : Name) : Prop :=
  ∀ agent, a.agentName agent = name →
    ¬ a.Acting agent ∧ (a.continuation agent).acting = false

/-- The incarnation works for the record that took its name last. -/
def Serves (a : Roster) (agent : Nat) : Prop :=
  ∃ origin, a.incumbent (a.agentName agent) = some origin ∧
    origin.record = a.home agent

/-! ## Motions -/

/-- How a task moves by itself. -/
inductive TaskMoves (a : Roster) (agent : Nat) : TaskState → Prop where
  | stay : TaskMoves a agent (a.task agent)
  | finish {outcome : TaskOutcome} :
      a.task agent = .live →
      (outcome = .returned → a.reachedLoop agent = true) →
        TaskMoves a agent (.done outcome)

/-- How an exit handler moves without building or starting anything. -/
inductive ExitMoves (a : Roster) (agent : Nat) : ExitStage → Prop where
  | stay : ExitMoves a agent (a.exit agent)
  | schedule {outcome : TaskOutcome} :
      a.exit agent = .watched →
      a.task agent = .done outcome →
      outcome ≠ .cancelled →
        ExitMoves a agent (.scheduled outcome.crashed)
  | handle {stage : ExitStage} :
      (a.exit agent).begun = true →
      stage.begun = true →
      stage.building = none →
      (∀ crashed, stage ≠ .scheduled crashed) →
        ExitMoves a agent stage
  | wire {record fresh : Nat} :
      a.exit agent = .wiring record fresh →
        ExitMoves a agent (.transferring record fresh)
  | notify {spawner : Key} :
      (a.exit agent).begun = true →
      a.spawnerNames (a.agentName agent) = some spawner →
        ExitMoves a agent (.notifying spawner)
  | finish :
      a.exit agent ≠ .unwatched →
      (a.exit agent = .watched → ∃ outcome, a.task agent = .done outcome) →
        ExitMoves a agent .finished

/-- How a continuation moves; `tears` are those that begin a teardown. -/
inductive SpawnMoves (tears : Nat → Prop) (a : Roster) (record : Nat) :
    SpawnStage → Prop where
  | stay : SpawnMoves tears a record (a.continuation record)
  | tear {outcome : TaskOutcome} :
      tears record →
      a.continuation record = .waiting →
      a.task record = .done outcome →
        SpawnMoves tears a record .unsubscribing
  | drain :
      a.continuation record = .unsubscribing →
        SpawnMoves tears a record .draining
  | settle {stage : SpawnStage} :
      a.continuation record ≠ .absent →
      stage.acting = false →
        SpawnMoves tears a record stage

/-- How the errand of the loop moves, claims and admissions apart. -/
inductive ErrandMoves (a : Roster) : Errand → Prop where
  | stay : ErrandMoves a a.errand
  | drop : ErrandMoves a .none
  | ask {name : Name} : a.entry name = none → ErrandMoves a (.asking name)

/-- A step that neither builds nor starts an incarnation. -/
structure Quiet (tears : Nat → Prop) (a b : Roster) : Prop where
  next : b.next = a.next
  agentName : b.agentName = a.agentName
  home : b.home = a.home
  recAgent : b.recAgent = a.recAgent
  spawnerNames : b.spawnerNames = a.spawnerNames
  origins : b.origins = a.origins
  task : ∀ agent, TaskMoves a agent (b.task agent)
  reachedLoop : ∀ agent,
    b.reachedLoop agent = a.reachedLoop agent ∨
      (a.task agent = .live ∧ b.reachedLoop agent = true)
  exit : ∀ agent, ExitMoves a agent (b.exit agent)
  continuation : ∀ record,
    SpawnMoves tears a record (b.continuation record)
  entry : ∀ name, b.entry name = a.entry name ∨ b.entry name = none
  errand : ErrandMoves a b.errand

/-- A new incarnation of a record is built. -/
def number (a : Roster) (name : Name) (record : Nat) : Roster :=
  { a with
    agentName := update a.agentName a.next name
    home := update a.home a.next record
    next := a.next + 1 }

/-- A name is claimed for a new agent. -/
def claim (a : Roster) (name : Name) : Roster :=
  { a.number name a.next with errand := .claimed name a.next }

/-- A claimed agent becomes a child. -/
def enroll (a : Roster) (origin : Origin) (waits : Bool) : Roster :=
  { a with
    task := update a.task origin.record .live
    recAgent := update a.recAgent origin.record origin.record
    exit := update a.exit origin.record .watched
    continuation :=
      if waits then update a.continuation origin.record .waiting
      else a.continuation
    entry := update a.entry origin.name (some origin.record)
    spawnerNames := update a.spawnerNames origin.name (some origin.spawner)
    origins := origin :: a.origins
    errand := .none }

/-- The exit handler of an agent builds the next incarnation. -/
def build (a : Roster) (agent record : Nat) : Roster :=
  { a.number (a.agentName agent) record with
    exit := update a.exit agent (.wiring record a.next) }

/-- The next incarnation takes the record over and starts. -/
def start (a : Roster) (agent record fresh : Nat) : Roster :=
  { a with
    recAgent := update a.recAgent record fresh
    task := update a.task fresh .live
    exit := update a.exit agent (.starting record fresh) }

/-- The next incarnation is watched. -/
def publish (a : Roster) (agent fresh : Nat) : Roster :=
  { a with exit := update (update a.exit agent .finished) fresh .watched }

/-- All that a step does to a roster; `claims` are the names it claims. -/
inductive Motion
    (claims : Name → Prop) (tears : Nat → Prop) (a : Roster) :
    Roster → Prop where
  | quiet {b : Roster} : Quiet tears a b → Motion claims tears a b
  | claim (name : Name) :
      claims name →
      a.errand = .asking name →
        Motion claims tears a (a.claim name)
  | enroll (origin : Origin) (waits : Bool) :
      a.errand = .claimed origin.name origin.record →
        Motion claims tears a (a.enroll origin waits)
  | build (agent record : Nat) (crashed : Bool) :
      a.exit agent = .scheduled crashed →
      a.entry (a.agentName agent) = some record →
      (crashed = true → a.reachedLoop (a.recAgent record) = true) →
        Motion claims tears a (a.build agent record)
  | start (agent record fresh : Nat) :
      a.exit agent = .transferring record fresh →
        Motion claims tears a (a.start agent record fresh)
  | publish (agent record fresh : Nat) :
      a.exit agent = .starting record fresh →
        Motion claims tears a (a.publish agent fresh)

/-! ## The invariant -/

/-- What the numbers of incarnations and records mean. -/
structure Numbered (a : Roster) : Prop where
  blank : ∀ agent, a.next ≤ agent →
    a.task agent = .notStarted ∧ a.exit agent = .unwatched ∧
      a.continuation agent = .absent ∧ a.reachedLoop agent = false ∧
      a.home agent = agent ∧ a.recAgent agent = agent
  root : ∀ agent,
    a.home (a.home agent) = a.home agent ∧
      a.agentName (a.home agent) = a.agentName agent ∧
      (agent < a.next → a.home agent < a.next)
  current : ∀ record, a.home record = record →
    a.home (a.recAgent record) = record ∧
      (record < a.next → a.recAgent record < a.next)
  unreached : ∀ record, a.home record = record →
    a.reachedLoop record = false → a.recAgent record = record

/-- How far tasks and handlers can be apart. -/
structure Staged (a : Roster) : Prop where
  watched : ∀ agent, a.exit agent = .watched → a.task agent ≠ .notStarted
  begun : ∀ agent, (a.exit agent).begun = true →
    ∃ outcome, a.task agent = .done outcome
  scheduled : ∀ agent crashed, a.exit agent = .scheduled crashed →
    ∃ outcome, a.task agent = .done outcome ∧ outcome ≠ .cancelled ∧
      outcome.crashed = crashed
  returned : ∀ agent,
    a.task agent = .done .returned → a.reachedLoop agent = true
  building : ∀ agent record fresh,
    (a.exit agent).building = some (record, fresh) →
      a.reachedLoop agent = true ∧ record = a.home agent ∧
        fresh < a.next ∧ a.home fresh = a.home agent ∧
        fresh ≠ a.home agent ∧ a.agentName fresh = a.agentName agent ∧
        a.task fresh = .notStarted ∧ a.exit fresh = .unwatched ∧
        a.continuation fresh = .absent
  starting : ∀ agent record fresh,
    a.exit agent = .starting record fresh →
      record = a.home agent ∧ a.recAgent record = fresh ∧
        fresh < a.next ∧ a.home fresh = a.home agent ∧ fresh ≠ agent ∧
        a.agentName fresh = a.agentName agent ∧
        a.task fresh ≠ .notStarted ∧ a.exit fresh = .unwatched ∧
        (∃ outcome, a.task agent = .done outcome) ∧ fresh ≠ a.home agent
  apart : ∀ left right record record' fresh,
    a.exit left = .starting record fresh →
      a.exit right = .starting record' fresh → left = right

/-- The tasks that work under a name work for the record that took it last. -/
structure Kept (a : Roster) : Prop where
  numbered : a.Numbered
  staged : a.Staged
  incumbent : ∀ name origin, a.incumbent name = some origin →
    origin.record < a.next ∧ a.agentName origin.record = name ∧
      a.home origin.record = origin.record ∧
      a.spawnerNames name = some origin.spawner
  entry : ∀ name record, a.entry name = some record →
    ∃ origin, a.incumbent name = some origin ∧ origin.record = record
  acting : ∀ agent, a.Acting agent → a.Serves agent
  continuing : ∀ record, (a.continuation record).acting = true →
    a.Serves record ∧ a.home record = record
  holder : ∀ agent,
    a.task agent = .live ∨ (a.exit agent).holds = true →
      a.recAgent (a.home agent) = agent
  asked : ∀ name, a.errand = .asking name → a.entry name = none
  claimed : ∀ name agent, a.errand = .claimed name agent →
    agent < a.next ∧ a.agentName agent = name ∧ a.home agent = agent ∧
      a.entry name = none ∧ a.task agent = .notStarted ∧
      a.exit agent = .unwatched ∧ a.continuation agent = .absent ∧
      a.reachedLoop agent = false ∧ a.Free name
  notifying : ∀ agent spawner, a.exit agent = .notifying spawner →
    ∃ origin ∈ a.origins,
      origin.record = a.home agent ∧ origin.name = a.agentName agent ∧
        origin.spawner = spawner

/-! ## What the moves keep -/

section Moves

variable {tears : Nat → Prop} {a : Roster} {agent : Nat}

theorem TaskMoves.live {task : TaskState}
    (moves : TaskMoves a agent task) (live : task = .live) :
    a.task agent = .live := by
  cases moves with
  | stay => exact live
  | finish => cases live

theorem TaskMoves.notStarted_iff {task : TaskState}
    (moves : TaskMoves a agent task) :
    task = .notStarted ↔ a.task agent = .notStarted := by
  cases moves with
  | stay => rfl
  | finish running => simp [running]

theorem TaskMoves.done {task : TaskState} {outcome : TaskOutcome}
    (moves : TaskMoves a agent task) (done : a.task agent = .done outcome) :
    task = .done outcome := by
  cases moves with
  | stay => exact done
  | finish running =>
      rw [running] at done
      cases done

theorem ExitMoves.holds {stage : ExitStage}
    (moves : ExitMoves a agent stage) (holds : stage.holds = true) :
    (a.exit agent).holds = true := by
  cases moves with
  | stay => exact holds
  | schedule watched => rw [watched]; rfl
  | handle begun => exact ExitStage.holds_of_begun begun
  | wire wiring => rw [wiring]; rfl
  | notify => cases holds
  | finish => cases holds

theorem ExitMoves.acting {stage : ExitStage}
    (moves : ExitMoves a agent stage) (acting : stage.acting = true) :
    (a.exit agent).acting = true := by
  cases moves with
  | stay => exact acting
  | schedule watched => rw [watched]; rfl
  | handle begun =>
      exact ExitStage.acting_of_holds (ExitStage.holds_of_begun begun)
  | wire wiring => rw [wiring]; rfl
  | notify => cases acting
  | finish => cases acting

theorem ExitMoves.unwatched {stage : ExitStage}
    (moves : ExitMoves a agent stage)
    (unwatched : a.exit agent = .unwatched) : stage = .unwatched := by
  cases moves with
  | stay => exact unwatched
  | schedule watched => rw [watched] at unwatched; cases unwatched
  | handle begun => rw [unwatched] at begun; cases begun
  | wire wiring => rw [wiring] at unwatched; cases unwatched
  | notify begun => rw [unwatched] at begun; cases begun
  | finish moved => exact absurd unwatched moved

theorem ExitMoves.building {stage : ExitStage} {record fresh : Nat}
    (moves : ExitMoves a agent stage)
    (building : stage.building = some (record, fresh)) :
    (a.exit agent).building = some (record, fresh) := by
  cases moves with
  | stay => exact building
  | handle _ _ none => rw [none] at building; cases building
  | wire wiring => rw [wiring]; exact building
  | schedule => cases building
  | notify => cases building
  | finish => cases building

theorem ExitMoves.starting {record fresh : Nat} {stage : ExitStage}
    (moves : ExitMoves a agent stage)
    (starting : stage = .starting record fresh) :
    a.exit agent = .starting record fresh := by
  cases moves with
  | stay => exact starting
  | handle _ begun => rw [starting] at begun; cases begun
  | schedule => cases starting
  | wire => cases starting
  | notify => cases starting
  | finish => cases starting

theorem ExitMoves.watched {stage : ExitStage}
    (moves : ExitMoves a agent stage)
    (watched : stage = .watched) :
    a.exit agent = .watched := by
  cases moves with
  | stay => exact watched
  | handle _ begun => rw [watched] at begun; cases begun
  | schedule => cases watched
  | wire => cases watched
  | notify => cases watched
  | finish => cases watched

theorem SpawnMoves.acting {stage : SpawnStage}
    (moves : SpawnMoves tears a agent stage) (acting : stage.acting = true) :
    (a.continuation agent).acting = true := by
  cases moves with
  | stay => exact acting
  | tear _ waiting => rw [waiting]; rfl
  | drain unsubscribing => rw [unsubscribing]; rfl
  | settle _ quiet => rw [quiet] at acting; cases acting

theorem SpawnMoves.absent {stage : SpawnStage}
    (moves : SpawnMoves tears a agent stage)
    (absent : a.continuation agent = .absent) : stage = .absent := by
  cases moves with
  | stay => exact absent
  | tear _ waiting => rw [absent] at waiting; cases waiting
  | drain unsubscribing => rw [absent] at unsubscribing; cases unsubscribing
  | settle present => exact absurd absent present

end Moves

theorem incumbent_mem {a : Roster} {name : Name} {origin : Origin}
    (taken : a.incumbent name = some origin) :
    origin ∈ a.origins ∧ origin.name = name := by
  refine ⟨List.mem_of_find?_eq_some taken, ?_⟩
  have named := List.find?_some taken
  exact of_decide_eq_true named

/-! ## Quiet steps -/

section Quiet

variable {tears : Nat → Prop} {a b : Roster} (quiet : Quiet tears a b)

include quiet

theorem Quiet.acting {agent : Nat} (acting : b.Acting agent) :
    a.Acting agent := by
  rcases acting with live | handled
  · exact .inl ((quiet.task agent).live live)
  · exact .inr ((quiet.exit agent).acting handled)

theorem Quiet.incumbent (name : Name) :
    b.incumbent name = a.incumbent name := by
  rw [Roster.incumbent, quiet.origins, Roster.incumbent]

theorem Quiet.serves {agent : Nat} (serves : a.Serves agent) :
    b.Serves agent := by
  rcases serves with ⟨origin, taken, record⟩
  refine ⟨origin, ?_, ?_⟩
  · rw [quiet.incumbent, quiet.agentName]
    exact taken
  · rw [quiet.home]
    exact record

theorem Quiet.free {name : Name} (free : a.Free name) : b.Free name := by
  intro agent named
  rw [quiet.agentName] at named
  rcases free agent named with ⟨idle, settled⟩
  constructor
  · intro acting
    exact idle (quiet.acting acting)
  · rw [Bool.eq_false_iff]
    intro acting
    rw [(quiet.continuation agent).acting acting] at settled
    cases settled

theorem Quiet.entry_none {name : Name} (absent : a.entry name = none) :
    b.entry name = none := by
  rcases quiet.entry name with same | gone
  · rw [same]
    exact absent
  · exact gone

theorem Quiet.reached {agent : Nat} (reached : a.reachedLoop agent = true) :
    b.reachedLoop agent = true := by
  rcases quiet.reachedLoop agent with same | ⟨_, now⟩
  · rw [same]
    exact reached
  · exact now

theorem Quiet.unreached {agent : Nat}
    (idle : a.task agent = .notStarted)
    (unreached : a.reachedLoop agent = false) :
    b.reachedLoop agent = false := by
  rcases quiet.reachedLoop agent with same | ⟨running, _⟩
  · rw [same]
    exact unreached
  · rw [idle] at running
    cases running

theorem Quiet.numbered (kept : a.Numbered) : b.Numbered where
  blank := by
    intro agent bound
    rw [quiet.next] at bound
    rcases kept.blank agent bound with
      ⟨task, exit, continuation, unreached, home, current⟩
    refine
      ⟨(quiet.task agent).notStarted_iff.mpr task,
        (quiet.exit agent).unwatched exit,
        (quiet.continuation agent).absent continuation,
        quiet.unreached task unreached, ?_, ?_⟩
    · rw [quiet.home]
      exact home
    · rw [quiet.recAgent]
      exact current
  root := by
    rw [quiet.home, quiet.agentName, quiet.next]
    exact kept.root
  current := by
    rw [quiet.home, quiet.recAgent, quiet.next]
    exact kept.current
  unreached := by
    intro record root unreached
    rw [quiet.home] at root
    rw [quiet.recAgent]
    apply kept.unreached record root
    rw [Bool.eq_false_iff]
    intro reached
    rw [quiet.reached reached] at unreached
    cases unreached

theorem Quiet.begun_done (kept : a.Staged) (agent : Nat)
    (begun : (b.exit agent).begun = true) :
    ∃ outcome, b.task agent = .done outcome := by
  have before : ∃ outcome, a.task agent = .done outcome := by
    have moves := quiet.exit agent
    generalize b.exit agent = stage at moves begun
    cases moves with
    | stay => exact kept.begun agent begun
    | schedule _ done => exact ⟨_, done⟩
    | handle earlier => exact kept.begun agent earlier
    | wire wiring =>
        apply kept.begun agent
        rw [wiring]
        rfl
    | notify => cases begun
    | finish => cases begun
  rcases before with ⟨outcome, done⟩
  exact ⟨outcome, (quiet.task agent).done done⟩

theorem Quiet.staged (kept : a.Staged) : b.Staged where
  watched := by
    intro agent watched
    rw [Ne, (quiet.task agent).notStarted_iff]
    exact kept.watched agent ((quiet.exit agent).watched watched)
  begun := quiet.begun_done kept
  scheduled := by
    intro agent crashed scheduled
    have before : ∃ outcome, a.task agent = .done outcome ∧
        outcome ≠ .cancelled ∧ outcome.crashed = crashed := by
      have moves := quiet.exit agent
      generalize b.exit agent = stage at moves scheduled
      cases moves with
      | stay => exact kept.scheduled agent crashed scheduled
      | schedule _ done uncancelled =>
          cases scheduled
          exact ⟨_, done, uncancelled, rfl⟩
      | handle _ _ _ other => exact absurd scheduled (other crashed)
      | wire => cases scheduled
      | notify => cases scheduled
      | finish => cases scheduled
    rcases before with ⟨outcome, done, rest⟩
    exact ⟨outcome, (quiet.task agent).done done, rest⟩
  returned := by
    intro agent returned
    have moves := quiet.task agent
    generalize b.task agent = task at moves returned
    cases moves with
    | stay => exact quiet.reached (kept.returned agent returned)
    | finish _ reached =>
        cases returned
        exact quiet.reached (reached rfl)
  building := by
    intro agent record fresh building
    rcases kept.building agent record fresh
        ((quiet.exit agent).building building) with
      ⟨reached, home, bound, freshHome, apart, named, task, exit, spawn⟩
    rw [quiet.home, quiet.next, quiet.agentName]
    exact
      ⟨quiet.reached reached, home, bound, freshHome, apart, named,
        (quiet.task fresh).notStarted_iff.mpr task,
        (quiet.exit fresh).unwatched exit,
        (quiet.continuation fresh).absent spawn⟩
  starting := by
    intro agent record fresh starting
    rcases kept.starting agent record fresh
        ((quiet.exit agent).starting starting) with
      ⟨home, current, bound, freshHome, apart, named, task, exit,
        ⟨outcome, done⟩, newer⟩
    rw [quiet.home, quiet.recAgent, quiet.next, quiet.agentName]
    refine
      ⟨home, current, bound, freshHome, apart, named, ?_,
        (quiet.exit fresh).unwatched exit,
        ⟨outcome, (quiet.task agent).done done⟩, newer⟩
    rw [Ne, (quiet.task fresh).notStarted_iff]
    exact task
  apart := by
    intro left right record record' fresh leftStarts rightStarts
    exact kept.apart left right record record' fresh
      ((quiet.exit left).starting leftStarts)
      ((quiet.exit right).starting rightStarts)

theorem Quiet.kept (kept : a.Kept) : b.Kept where
  numbered := quiet.numbered kept.numbered
  staged := quiet.staged kept.staged
  incumbent := by
    intro name origin taken
    rw [quiet.incumbent] at taken
    rw [quiet.next, quiet.agentName, quiet.home, quiet.spawnerNames]
    exact kept.incumbent name origin taken
  entry := by
    intro name record entered
    rw [quiet.incumbent]
    rcases quiet.entry name with same | gone
    · rw [same] at entered
      exact kept.entry name record entered
    · rw [gone] at entered
      cases entered
  acting := by
    intro agent acting
    exact quiet.serves (kept.acting agent (quiet.acting acting))
  continuing := by
    intro record acting
    rcases kept.continuing record
        ((quiet.continuation record).acting acting) with ⟨serves, root⟩
    rw [quiet.home]
    exact ⟨quiet.serves serves, root⟩
  holder := by
    intro agent holds
    rw [quiet.recAgent, quiet.home]
    apply kept.holder agent
    rcases holds with live | handled
    · exact .inl ((quiet.task agent).live live)
    · exact .inr ((quiet.exit agent).holds handled)
  asked := by
    intro name asking
    have moves := quiet.errand
    generalize b.errand = errand at moves asking
    cases moves with
    | stay => exact quiet.entry_none (kept.asked name asking)
    | drop => cases asking
    | ask absent =>
        cases asking
        exact quiet.entry_none absent
  claimed := by
    intro name agent claimed
    have before : a.errand = .claimed name agent := by
      have moves := quiet.errand
      generalize b.errand = errand at moves claimed
      cases moves with
      | stay => exact claimed
      | drop => cases claimed
      | ask => cases claimed
    rcases kept.claimed name agent before with
      ⟨bound, named, home, entry, task, exit, spawn, unreached, free⟩
    rw [quiet.next, quiet.agentName, quiet.home]
    exact
      ⟨bound, named, home, quiet.entry_none entry,
        (quiet.task agent).notStarted_iff.mpr task,
        (quiet.exit agent).unwatched exit,
        (quiet.continuation agent).absent spawn,
        quiet.unreached task unreached, quiet.free free⟩
  notifying := by
    intro agent spawner notifying
    rw [quiet.origins, quiet.home, quiet.agentName]
    have moves := quiet.exit agent
    generalize b.exit agent = stage at moves notifying
    cases moves with
    | stay => exact kept.notifying agent spawner notifying
    | notify begun found =>
        cases notifying
        have acting : a.Acting agent :=
          .inr (ExitStage.acting_of_holds (ExitStage.holds_of_begun begun))
        rcases kept.acting agent acting with ⟨origin, taken, record⟩
        rcases incumbent_mem taken with ⟨member, named⟩
        have charged := (kept.incumbent _ _ taken).2.2.2
        rw [found] at charged
        exact ⟨origin, member, record, named, (Option.some.inj charged).symm⟩
    | handle _ begun =>
        rw [notifying] at begun
        cases begun
    | schedule => cases notifying
    | wire => cases notifying
    | finish => cases notifying

end Quiet

/-! ## Claims, admissions and restarts -/

theorem numbered_number {a : Roster} {name : Name} {record : Nat}
    (kept : a.Numbered)
    (known : record = a.next ∨
      record < a.next ∧ a.home record = record ∧
        a.agentName record = name) :
    (a.number name record).Numbered := by
  have blank := kept.blank
  have root := kept.root
  have current := kept.current
  have unreached := kept.unreached
  constructor
  · intro agent bound
    simp only [number, Function.update_apply] at *
    grind -ring -linarith
  · intro agent
    have := root agent
    have := blank agent
    simp only [number, Function.update_apply] at *
    by_cases agent = a.next
    · grind -ring -linarith
    · have : a.home agent ≠ a.next := by grind -ring -linarith
      grind -ring -linarith
  · intro other
    have own := current other
    have unused := blank a.next (Nat.le_refl _)
    have unborn := blank other
    clear root current unreached blank
    simp only [number, Function.update_apply]
    by_cases fresh : other = a.next
    · grind -ring -linarith
    · grind -ring -linarith
  · intro other
    have own := unreached other
    have unborn := blank other
    clear root current unreached blank
    simp only [number, Function.update_apply]
    by_cases fresh : other = a.next
    · grind -ring -linarith
    · grind -ring -linarith

theorem staged_number {a : Roster} {name : Name} {record : Nat}
    (kept : a.Kept) :
    (a.number name record).Staged := by
  have blank := kept.numbered.blank
  constructor
  · exact kept.staged.watched
  · exact kept.staged.begun
  · exact kept.staged.scheduled
  · exact kept.staged.returned
  · intro agent record fresh building
    have := kept.staged.building agent record fresh building
    have := blank agent
    simp only [number, Function.update_apply] at *
    grind -ring -linarith [ExitStage.building]
  · intro agent record fresh starting
    have := kept.staged.starting agent record fresh starting
    have := blank agent
    simp only [number, Function.update_apply] at *
    grind -ring -linarith
  · exact kept.staged.apart

theorem kept_number {a : Roster} {name : Name} {record : Nat}
    (kept : a.Kept)
    (known : record = a.next ∨
      record < a.next ∧ a.home record = record ∧
        a.agentName record = name) :
    (a.number name record).Kept := by
  have blank := kept.numbered.blank
  have incumbent (name' : Name) :
      (a.number name record).incumbent name' = a.incumbent name' := rfl
  have acting (agent : Nat) :
      (a.number name record).Acting agent ↔ a.Acting agent := Iff.rfl
  have idle (agent : Nat) (born : a.Acting agent) : agent ≠ a.next := by
    rintro rfl
    unfold Acting at born
    rw [(blank _ (le_refl _)).1, (blank _ (le_refl _)).2.1] at born
    rcases born with h | h <;> cases h
  have settled (agent : Nat) (born : (a.continuation agent).acting = true) :
      agent ≠ a.next := by
    rintro rfl
    rw [(blank _ (le_refl _)).2.2.1] at born
    cases born
  constructor
  · exact numbered_number kept.numbered known
  · exact staged_number kept
  · intro name origin taken
    rw [incumbent] at taken
    have := kept.incumbent name origin taken
    simp only [number, Function.update_apply] at *
    grind -ring -linarith
  · exact kept.entry
  · intro agent works
    have := kept.acting agent works
    have := idle agent works
    simp only [Serves, incumbent]
    simp only [Serves] at *
    simp only [number, Function.update_apply]
    grind -ring -linarith
  · intro record acting
    have := kept.continuing record acting
    have := settled record acting
    simp only [Serves, incumbent]
    simp only [Serves] at *
    simp only [number, Function.update_apply]
    grind -ring -linarith
  · intro agent holds
    have := kept.holder agent holds
    have : agent ≠ a.next := by
      apply idle
      rcases holds with h | h
      · exact .inl h
      · exact .inr (ExitStage.acting_of_holds h)
    simp only [number, Function.update_apply]
    grind -ring -linarith
  · exact kept.asked
  · intro name' agent claimed
    have this_1 := kept.claimed name' agent claimed
    have free : (a.number name record).Free name' := by
      intro other named
      constructor
      · intro works
        have := idle other works
        simp only [number, Function.update_apply, if_neg this] at named
        exact (this_1.2.2.2.2.2.2.2.2 other named).1 works
      · rw [Bool.eq_false_iff]
        intro works
        have := settled other works
        simp only [number, Function.update_apply, if_neg this] at named
        have := (this_1.2.2.2.2.2.2.2.2 other named).2
        grind -ring -linarith [number]
    simp only [number, Function.update_apply] at *
    grind -ring -linarith
  · intro agent spawner notifying
    have := kept.notifying agent spawner notifying
    have : agent ≠ a.next := by
      have := blank agent
      simp only [number] at *
      grind -ring -linarith
    simp only [number, Function.update_apply] at *
    grind -ring -linarith

/-- The errand can be exchanged for one that meets its conditions. -/
theorem Kept.withErrand {a : Roster} (kept : a.Kept) (errand : Errand)
    (asked : ∀ name, errand = .asking name → a.entry name = none)
    (claimed : ∀ name agent, errand = .claimed name agent →
      agent < a.next ∧ a.agentName agent = name ∧ a.home agent = agent ∧
        a.entry name = none ∧ a.task agent = .notStarted ∧
        a.exit agent = .unwatched ∧ a.continuation agent = .absent ∧
        a.reachedLoop agent = false ∧ a.Free name) :
    { a with errand := errand }.Kept where
  numbered :=
    ⟨kept.numbered.blank, kept.numbered.root, kept.numbered.current,
      kept.numbered.unreached⟩
  staged :=
    ⟨kept.staged.watched, kept.staged.begun, kept.staged.scheduled,
      kept.staged.returned, kept.staged.building, kept.staged.starting,
      kept.staged.apart⟩
  incumbent := kept.incumbent
  entry := kept.entry
  acting := kept.acting
  continuing := kept.continuing
  holder := kept.holder
  asked := asked
  claimed := claimed
  notifying := kept.notifying

theorem blank_idle {a : Roster} (kept : a.Numbered) :
    ¬ a.Acting a.next ∧ (a.continuation a.next).acting = false := by
  rcases kept.blank a.next (Nat.le_refl _) with ⟨task, exit, spawn, _⟩
  constructor
  · rintro (live | handled)
    · rw [task] at live
      cases live
    · rw [exit] at handled
      cases handled
  · rw [spawn]
    rfl

theorem kept_claim {a : Roster} {name : Name} (kept : a.Kept)
    (asking : a.errand = .asking name) (free : a.Free name) :
    (a.claim name).Kept := by
  have wide : (a.number name a.next).Kept := kept_number kept (.inl rfl)
  rcases kept.numbered.blank a.next (Nat.le_refl _) with
    ⟨task, exit, spawn, unreached, _⟩
  apply wide.withErrand
  · intro other asked
    cases asked
  · intro other agent claimed
    cases claimed
    refine
      ⟨Nat.lt_succ_self _, Function.update_self .., Function.update_self ..,
        kept.asked _ asking, task, exit, spawn, unreached, ?_⟩
    intro other named
    by_cases same : other = a.next
    · rw [same]
      exact blank_idle kept.numbered
    · apply free other
      rw [← named]
      exact (Function.update_of_ne same ..).symm

/-- The exit handler turns to the incarnation that it has built. -/
theorem Kept.wire {a : Roster} {agent record fresh : Nat} (kept : a.Kept)
    (begun : (a.exit agent).begun = true)
    (built : a.reachedLoop agent = true ∧ record = a.home agent ∧
      fresh < a.next ∧ a.home fresh = a.home agent ∧
      fresh ≠ a.home agent ∧ a.agentName fresh = a.agentName agent ∧
      a.task fresh = .notStarted ∧ a.exit fresh = .unwatched ∧
      a.continuation fresh = .absent) :
    { a with exit := update a.exit agent (.wiring record fresh) }.Kept := by
  have holds := ExitStage.holds_of_begun begun
  have acting := ExitStage.acting_of_holds holds
  have moved : a.exit agent ≠ .unwatched := by
    intro unwatched
    rw [unwatched] at begun
    cases begun
  constructor
  · refine
      ⟨?_, kept.numbered.root, kept.numbered.current,
        kept.numbered.unreached⟩
    intro other bound
    have := kept.numbered.blank other bound
    simp only [Function.update_apply] at *
    grind -ring -linarith
  · constructor
    · intro other
      have := kept.staged.watched other
      simp only [Function.update_apply] at *
      grind -ring -linarith
    · intro other
      have := kept.staged.begun other
      simp only [Function.update_apply] at *
      grind -ring -linarith
    · intro other
      have := kept.staged.scheduled other
      simp only [Function.update_apply] at *
      grind -ring -linarith
    · exact kept.staged.returned
    · intro other record' fresh'
      have := kept.staged.building other record' fresh'
      simp only [Function.update_apply] at *
      grind -ring -linarith [ExitStage.building]
    · intro other record' fresh'
      have := kept.staged.starting other record' fresh'
      simp only [Function.update_apply] at *
      grind -ring -linarith
    · intro left right record' record'' fresh'
      have := kept.staged.apart left right record' record'' fresh'
      simp only [Function.update_apply] at *
      grind -ring -linarith
  · exact kept.incumbent
  · exact kept.entry
  · intro other
    have := kept.acting other
    simp only [Serves, Acting, Function.update_apply] at *
    intro h
    apply this
    grind -ring -linarith
  · exact kept.continuing
  · intro other
    have := kept.holder other
    simp only [Function.update_apply] at *
    grind -ring -linarith
  · exact kept.asked
  · intro name agent' claimed
    have := kept.claimed name agent' claimed
    simp only [Free, Acting, Function.update_apply] at *
    grind -ring -linarith
  · intro other spawner
    have := kept.notifying other spawner
    simp only [Function.update_apply] at *
    grind -ring -linarith

theorem Kept.entry_home {a : Roster} {agent record : Nat} (kept : a.Kept)
    (acting : a.Acting agent)
    (entered : a.entry (a.agentName agent) = some record) :
    record = a.home agent := by
  rcases kept.acting agent acting with ⟨origin, taken, serves⟩
  rcases kept.entry _ _ entered with ⟨other, taken', held⟩
  rw [taken] at taken'
  rw [← serves, ← held, Option.some.inj taken']

/-- What works under one name works for one record. -/
theorem Serves.home_eq {a : Roster} {agent other : Nat}
    (serves : a.Serves agent) (serves' : a.Serves other)
    (named : a.agentName agent = a.agentName other) :
    a.home agent = a.home other := by
  rcases serves with ⟨origin, taken, record⟩
  rcases serves' with ⟨origin', taken', record'⟩
  rw [named, taken'] at taken
  rw [← record, ← record', Option.some.inj taken]

theorem Numbered.born {a : Roster} {agent : Nat} (numbered : a.Numbered)
    (handled : a.exit agent ≠ .unwatched) : agent < a.next := by
  by_contra unborn
  exact handled (numbered.blank agent (Nat.le_of_not_lt unborn)).2.1

theorem kept_build {a : Roster} {agent record : Nat} {crashed : Bool}
    (kept : a.Kept)
    (scheduled : a.exit agent = .scheduled crashed)
    (entered : a.entry (a.agentName agent) = some record)
    (reached : crashed = true →
      a.reachedLoop (a.recAgent record) = true) :
    (a.build agent record).Kept := by
  have begun : (a.exit agent).begun = true := by
    rw [scheduled]
    rfl
  have holds := ExitStage.holds_of_begun begun
  have home : record = a.home agent :=
    kept.entry_home (.inr (ExitStage.acting_of_holds holds)) entered
  have current : a.recAgent (a.home agent) = agent :=
    kept.holder agent (.inr holds)
  have loop : a.reachedLoop agent = true := by
    rcases kept.staged.scheduled agent crashed scheduled with
      ⟨outcome, done, uncancelled, crash⟩
    cases outcome with
    | returned => exact kept.staged.returned agent done
    | cancelled => exact absurd rfl uncancelled
    | raised =>
        rw [home, current] at reached
        exact reached crash.symm
    | raisedTimeout =>
        rw [home, current] at reached
        exact reached crash.symm
  have born : agent < a.next := by
    apply kept.numbered.born
    rw [scheduled]
    simp
  rcases kept.numbered.root agent with ⟨root, named, below⟩
  have bound := below born
  have wide : (a.number (a.agentName agent) record).Kept := by
    apply kept_number kept
    right
    rw [home]
    exact ⟨bound, root, named⟩
  rcases kept.numbered.blank a.next (Nat.le_refl _) with
    ⟨task, exit, spawn, _⟩
  have apart : agent ≠ a.next := Nat.ne_of_lt born
  apply wide.wire begun
  simp only [number, Function.update_of_ne apart, Function.update_self]
  refine
    ⟨loop, home, Nat.lt_succ_self _, home, ?_, trivial, task, exit, spawn⟩
  exact Nat.ne_of_gt bound

theorem kept_start {a : Roster} {agent record fresh : Nat}
    (kept : a.Kept)
    (transferring : a.exit agent = .transferring record fresh) :
    (a.start agent record fresh).Kept := by
  have begun : (a.exit agent).begun = true := by
    rw [transferring]
    rfl
  have holds := ExitStage.holds_of_begun begun
  have acting := ExitStage.acting_of_holds holds
  have serves := kept.acting agent (.inr acting)
  have current := kept.holder agent (.inr holds)
  have done := kept.staged.begun agent begun
  have building : (a.exit agent).building = some (record, fresh) := by
    rw [transferring]
    rfl
  rcases kept.staged.building agent record fresh building with
    ⟨loop, home, bound, freshHome, apart, named, task, exit, spawn⟩
  rcases kept.numbered.root agent with ⟨root, homeName, below⟩
  have distinct : fresh ≠ agent := by
    rintro rfl
    rw [transferring] at exit
    cases exit
  constructor
  · constructor
    · intro other unborn
      have := kept.numbered.blank other unborn
      simp only [start, Function.update_apply] at *
      grind -ring -linarith
    · exact kept.numbered.root
    · intro other
      have := kept.numbered.current other
      simp only [start, Function.update_apply] at *
      grind -ring -linarith
    · intro other
      have := kept.numbered.unreached other
      simp only [start, Function.update_apply] at *
      grind -ring -linarith
  · constructor
    · intro other
      have := kept.staged.watched other
      simp only [start, Function.update_apply] at *
      grind -ring -linarith
    · intro other
      have := kept.staged.begun other
      simp only [start, Function.update_apply] at *
      grind -ring -linarith [ExitStage.begun]
    · intro other
      have := kept.staged.scheduled other
      simp only [start, Function.update_apply] at *
      grind -ring -linarith
    · intro other
      have := kept.staged.returned other
      simp only [start, Function.update_apply] at *
      grind -ring -linarith
    · intro other record' fresh' building
      have same : other ≠ agent := by
        rintro rfl
        simp only [start, Function.update_self] at building
        cases building
      simp only [start, Function.update_of_ne same] at building
      have held :=
        ExitStage.holds_of_begun (ExitStage.begun_of_building building)
      have := kept.holder other (.inr held)
      have := kept.staged.building other record' fresh' building
      simp only [start, Function.update_apply] at *
      grind -ring -linarith
    · intro other record' fresh' starting
      by_cases same : other = agent
      · subst same
        simp only [start, Function.update_self] at starting
        cases starting
        simp only [start, Function.update_apply] at *
        grind -ring -linarith
      · simp only [start, Function.update_of_ne same] at starting
        have := kept.staged.starting other record' fresh' starting
        simp only [start, Function.update_apply] at *
        grind -ring -linarith
    · intro left right record' record'' fresh'
      have := kept.staged.apart left right record' record'' fresh'
      have := kept.staged.starting left record' fresh'
      have := kept.staged.starting right record'' fresh'
      simp only [start, Function.update_apply] at *
      grind -ring -linarith
  · exact kept.incumbent
  · exact kept.entry
  · intro other works
    by_cases same : other = fresh
    · rw [same]
      rcases serves with ⟨origin, taken, served⟩
      refine ⟨origin, ?_, ?_⟩
      · rw [← named] at taken
        exact taken
      · rw [← freshHome] at served
        exact served
    · have : a.Acting other := by
        simp only [start, Acting, Function.update_apply] at *
        grind -ring -linarith
      exact kept.acting other this
  · exact kept.continuing
  · intro other holding
    by_cases same : other = agent
    · subst same
      simp only [start, Function.update_self,
        Function.update_of_ne distinct.symm] at *
      grind -ring -linarith [ExitStage.holds, ExitStage.begun]
    · have := kept.holder other
      simp only [start, Function.update_apply] at *
      grind -ring -linarith
  · exact kept.asked
  · intro name agent' claimed
    have := kept.claimed name agent' claimed
    simp only [start, Free, Acting, Function.update_apply] at *
    grind -ring -linarith
  · intro other spawner
    have := kept.notifying other spawner
    simp only [start, Function.update_apply] at *
    grind -ring -linarith

theorem kept_publish {a : Roster} {agent record fresh : Nat}
    (kept : a.Kept)
    (starting : a.exit agent = .starting record fresh) :
    (a.publish agent fresh).Kept := by
  have acting : (a.exit agent).acting = true := by
    rw [starting]
    rfl
  have serves := kept.acting agent (.inr acting)
  rcases kept.staged.starting agent record fresh starting with
    ⟨home, current, bound, freshHome, apart, named, task, exit, done, _⟩
  constructor
  · refine
      ⟨?_, kept.numbered.root, kept.numbered.current,
        kept.numbered.unreached⟩
    intro other unborn
    have := kept.numbered.blank other unborn
    simp only [publish, Function.update_apply] at *
    grind -ring -linarith
  · constructor
    · intro other
      have := kept.staged.watched other
      simp only [publish, Function.update_apply] at *
      grind -ring -linarith
    · intro other
      have := kept.staged.begun other
      simp only [publish, Function.update_apply] at *
      grind -ring -linarith [ExitStage.begun]
    · intro other
      have := kept.staged.scheduled other
      simp only [publish, Function.update_apply] at *
      grind -ring -linarith
    · exact kept.staged.returned
    · intro other record' fresh' building
      have before : (a.exit other).building = some (record', fresh') := by
        simp only [publish, Function.update_apply] at building
        grind -ring -linarith [ExitStage.building]
      have facts := kept.staged.building other record' fresh' before
      have newer : fresh' ≠ fresh := by grind -ring -linarith
      have idle : fresh' ≠ agent := by grind -ring -linarith
      simp only [publish, Function.update_of_ne newer,
        Function.update_of_ne idle]
      exact facts
    · intro other record' fresh' starts
      have moved : other ≠ agent := by
        rintro rfl
        simp only [publish, Function.update_apply] at starts
        grind -ring -linarith
      have before : a.exit other = .starting record' fresh' := by
        simp only [publish, Function.update_apply] at starts
        grind -ring -linarith
      have facts := kept.staged.starting other record' fresh' before
      have newer : fresh' ≠ fresh := by
        rintro rfl
        exact moved (kept.staged.apart _ _ _ _ _ before starting)
      have idle : fresh' ≠ agent := by grind -ring -linarith
      simp only [publish, Function.update_of_ne newer,
        Function.update_of_ne idle]
      exact facts
    · intro left right record' record'' fresh'
      have := kept.staged.apart left right record' record'' fresh'
      simp only [publish, Function.update_apply] at *
      grind -ring -linarith
  · exact kept.incumbent
  · exact kept.entry
  · intro other works
    by_cases same : other = fresh
    · rw [same]
      rcases serves with ⟨origin, taken, served⟩
      refine ⟨origin, ?_, ?_⟩
      · rw [← named] at taken
        exact taken
      · rw [← freshHome] at served
        exact served
    · have : a.Acting other := by
        simp only [publish, Acting, Function.update_apply] at *
        grind -ring -linarith
      exact kept.acting other this
  · exact kept.continuing
  · intro other holding
    have := kept.holder other
    simp only [publish, Function.update_apply] at *
    grind -ring -linarith [ExitStage.holds, ExitStage.begun]
  · exact kept.asked
  · intro name agent' claimed
    have := kept.claimed name agent' claimed
    simp only [publish, Free, Acting, Function.update_apply] at *
    grind -ring -linarith
  · intro other spawner
    have := kept.notifying other spawner
    simp only [publish, Function.update_apply] at *
    grind -ring -linarith

theorem incumbent_enroll (a : Roster) (origin : Origin) (waits : Bool)
    (name : Name) :
    (a.enroll origin waits).incumbent name =
      if origin.name = name then some origin else a.incumbent name := by
  simp only [incumbent, enroll, List.find?_cons]
  by_cases same : origin.name = name
  · simp [same]
  · simp [same]

section Enrolled

variable {a : Roster} {origin : Origin} {waits : Bool}

theorem continuation_enroll (other : Nat) :
    (a.enroll origin waits).continuation other =
      if other = origin.record ∧ waits = true then .waiting
      else a.continuation other := by
  simp only [enroll]
  cases waits <;> grind -ring -linarith [Function.update_apply]

theorem Kept.numbered_enroll
    (kept : a.Kept)
    (claimed : a.errand = .claimed origin.name origin.record) :
    (a.enroll origin waits).Numbered := by
  rcases kept.claimed _ _ claimed with
    ⟨bound, named, home, entry, task, exit, spawn, unreached, free⟩
  constructor
  · intro other unborn
    have := kept.numbered.blank other unborn
    rw [continuation_enroll]
    simp only [enroll, Function.update_apply] at *
    grind -ring -linarith
  · exact kept.numbered.root
  · intro other
    have := kept.numbered.current other
    simp only [enroll, Function.update_apply] at *
    grind -ring -linarith
  · intro other
    have := kept.numbered.unreached other
    simp only [enroll, Function.update_apply] at *
    grind -ring -linarith

theorem Kept.building_enroll
    (kept : a.Kept)
    (claimed : a.errand = .claimed origin.name origin.record) :
    ∀ agent record fresh,
      ((a.enroll origin waits).exit agent).building = some (record, fresh) →
        (a.enroll origin waits).reachedLoop agent = true ∧
          record = (a.enroll origin waits).home agent ∧
          fresh < (a.enroll origin waits).next ∧
          (a.enroll origin waits).home fresh =
            (a.enroll origin waits).home agent ∧
          fresh ≠ (a.enroll origin waits).home agent ∧
          (a.enroll origin waits).agentName fresh =
            (a.enroll origin waits).agentName agent ∧
          (a.enroll origin waits).task fresh = .notStarted ∧
          (a.enroll origin waits).exit fresh = .unwatched ∧
          (a.enroll origin waits).continuation fresh = .absent := by
  rcases kept.claimed _ _ claimed with
    ⟨bound, named, home, entry, task, exit, spawn, unreached, free⟩
  intro other record' fresh' building
  have before : (a.exit other).building = some (record', fresh') := by
    simp only [enroll, Function.update_apply] at building
    grind -ring -linarith [ExitStage.building]
  have facts := kept.staged.building other record' fresh' before
  have newer : fresh' ≠ origin.record := by grind -ring -linarith
  rw [continuation_enroll, if_neg (by simp [newer])]
  simp only [enroll, Function.update_of_ne newer]
  exact facts

theorem Kept.starting_enroll
    (kept : a.Kept)
    (claimed : a.errand = .claimed origin.name origin.record) :
    ∀ agent record fresh,
      (a.enroll origin waits).exit agent = .starting record fresh →
        record = (a.enroll origin waits).home agent ∧
          (a.enroll origin waits).recAgent record = fresh ∧
          fresh < (a.enroll origin waits).next ∧
          (a.enroll origin waits).home fresh =
            (a.enroll origin waits).home agent ∧
          fresh ≠ agent ∧
          (a.enroll origin waits).agentName fresh =
            (a.enroll origin waits).agentName agent ∧
          (a.enroll origin waits).task fresh ≠ .notStarted ∧
          (a.enroll origin waits).exit fresh = .unwatched ∧
          (∃ outcome, (a.enroll origin waits).task agent = .done outcome) ∧
          fresh ≠ (a.enroll origin waits).home agent := by
  rcases kept.claimed _ _ claimed with
    ⟨bound, named, home, entry, task, exit, spawn, unreached, free⟩
  intro other record' fresh' starts
  have before : a.exit other = .starting record' fresh' := by
    simp only [enroll, Function.update_apply] at starts
    grind -ring -linarith
  have facts := kept.staged.starting other record' fresh' before
  have newer : fresh' ≠ origin.record := by grind -ring -linarith
  have older : other ≠ origin.record := by grind -ring -linarith
  have apart : record' ≠ origin.record := by
    rintro rfl
    have := kept.numbered.unreached _ home unreached
    grind -ring -linarith
  simp only [enroll, Function.update_of_ne newer,
    Function.update_of_ne older, Function.update_of_ne apart]
  exact facts

theorem Kept.staged_enroll
    (kept : a.Kept)
    (claimed : a.errand = .claimed origin.name origin.record) :
    (a.enroll origin waits).Staged := by
  rcases kept.claimed _ _ claimed with
    ⟨bound, named, home, entry, task, exit, spawn, unreached, free⟩
  constructor
  · intro other
    have := kept.staged.watched other
    simp only [enroll, Function.update_apply] at *
    grind -ring -linarith
  · intro other
    have := kept.staged.begun other
    simp only [enroll, Function.update_apply] at *
    grind -ring -linarith [ExitStage.begun]
  · intro other
    have := kept.staged.scheduled other
    simp only [enroll, Function.update_apply] at *
    grind -ring -linarith
  · intro other
    have := kept.staged.returned other
    simp only [enroll, Function.update_apply] at *
    grind -ring -linarith
  · exact kept.building_enroll claimed
  · exact kept.starting_enroll claimed
  · intro left right record' record'' fresh'
    have := kept.staged.apart left right record' record'' fresh'
    simp only [enroll, Function.update_apply] at *
    grind -ring -linarith

theorem Kept.acting_enroll
    (kept : a.Kept)
    (claimed : a.errand = .claimed origin.name origin.record) :
    ∀ agent, (a.enroll origin waits).Acting agent →
      (a.enroll origin waits).Serves agent := by
  rcases kept.claimed _ _ claimed with
    ⟨bound, named, home, entry, task, exit, spawn, unreached, free⟩
  intro other works
  by_cases same : other = origin.record
  · refine ⟨origin, ?_, ?_⟩
    · rw [incumbent_enroll]
      rw [same]
      exact if_pos named.symm
    · rw [same]
      exact home.symm
  · have before : a.Acting other := by
      simp only [enroll, Acting, Function.update_apply] at *
      grind -ring -linarith
    have other' : origin.name ≠ a.agentName other := by
      intro same'
      exact (free other same'.symm).1 before
    rcases kept.acting other before with ⟨origin', taken, served⟩
    refine ⟨origin', ?_, served⟩
    rw [incumbent_enroll]
    rw [← taken]
    exact if_neg other'

theorem Kept.continuing_enroll
    (kept : a.Kept)
    (claimed : a.errand = .claimed origin.name origin.record) :
    ∀ record, ((a.enroll origin waits).continuation record).acting = true →
      (a.enroll origin waits).Serves record ∧
        (a.enroll origin waits).home record = record := by
  rcases kept.claimed _ _ claimed with
    ⟨bound, named, home, entry, task, exit, spawn, unreached, free⟩
  intro other works
  by_cases same : other = origin.record
  · rw [same]
    refine ⟨⟨origin, ?_, ?_⟩, home⟩
    · rw [incumbent_enroll]
      exact if_pos named.symm
    · exact home.symm
  · have before : (a.continuation other).acting = true := by
      rw [continuation_enroll] at works
      grind -ring -linarith
    have other' : origin.name ≠ a.agentName other := by
      intro same'
      rw [(free other same'.symm).2] at before
      cases before
    rcases kept.continuing other before with ⟨⟨origin', taken, served⟩, root⟩
    refine ⟨⟨origin', ?_, served⟩, root⟩
    rw [incumbent_enroll]
    rw [← taken]
    exact if_neg other'

/-- The enrolled agent is the only one that its record names. -/
theorem Kept.holder_enroll
    (kept : a.Kept)
    (claimed : a.errand = .claimed origin.name origin.record) :
    ∀ agent,
      (a.enroll origin waits).task agent = .live ∨
          ((a.enroll origin waits).exit agent).holds = true →
        (a.enroll origin waits).recAgent ((a.enroll origin waits).home agent) =
          agent := by
  rcases kept.claimed _ _ claimed with
    ⟨bound, named, home, entry, task, exit, spawn, unreached, free⟩
  have root := kept.numbered.root
  intro other holding
  by_cases same : other = origin.record
  · simp only [enroll, Function.update_apply] at *
    grind -ring -linarith
  · have before : a.task other = .live ∨ (a.exit other).holds = true := by
      simp only [enroll, Function.update_apply] at *
      grind -ring -linarith
    have current := kept.holder other before
    have : a.home other ≠ origin.record := by
      intro same'
      have : a.agentName other = origin.name := by
        have := (root other).2.1
        grind -ring -linarith
      apply (free other this).1
      rcases before with live | held
      · exact .inl live
      · exact .inr (ExitStage.acting_of_holds held)
    simp only [enroll, Function.update_of_ne this]
    exact current

theorem kept_enroll
    (kept : a.Kept)
    (claimed : a.errand = .claimed origin.name origin.record) :
    (a.enroll origin waits).Kept := by
  rcases kept.claimed _ _ claimed with
    ⟨bound, named, home, entry, task, exit, spawn, unreached, free⟩
  have incumbent := incumbent_enroll a origin waits
  constructor
  · exact kept.numbered_enroll claimed
  · exact kept.staged_enroll claimed
  · intro name origin' taken
    rw [incumbent] at taken
    have := kept.incumbent name origin'
    simp only [enroll, Function.update_apply] at *
    grind -ring -linarith
  · intro name record entered
    rw [incumbent]
    have := kept.entry name record
    simp only [enroll, Function.update_apply] at *
    grind -ring -linarith
  · exact kept.acting_enroll claimed
  · exact kept.continuing_enroll claimed
  · exact kept.holder_enroll claimed
  · intro name asking
    cases asking
  · intro name agent claimed
    cases claimed
  · intro other spawner notifying
    have := kept.notifying other spawner
    simp only [enroll, Function.update_apply] at *
    grind -ring -linarith

end Enrolled

/-- A motion keeps the invariant when a claim finds its name free. -/
theorem Motion.kept
    {claims : Name → Prop} {tears : Nat → Prop} {a b : Roster}
    (motion : Motion claims tears a b) (kept : a.Kept)
    (free : ∀ name, claims name → a.Free name) : b.Kept := by
  cases motion with
  | quiet quiet => exact quiet.kept kept
  | claim name claims asking =>
      exact kept_claim kept asking (free name claims)
  | enroll origin waits claimed => exact kept_enroll kept claimed
  | build agent record crashed scheduled entered reached =>
      exact kept_build kept scheduled entered reached
  | start agent record fresh transferring =>
      exact kept_start kept transferring
  | publish agent record fresh starting => exact kept_publish kept starting

/-- Numbers that are given out keep their names and records. -/
structure Grows (a b : Roster) : Prop where
  next : a.next ≤ b.next
  agentName : ∀ agent, agent < a.next → b.agentName agent = a.agentName agent
  home : ∀ agent, agent < a.next → b.home agent = a.home agent
  origins : ∀ origin ∈ a.origins, origin ∈ b.origins

theorem grows_number (a : Roster) (name : Name) (record : Nat) :
    Grows a (a.number name record) where
  next := Nat.le_succ _
  agentName := fun _ born => Function.update_of_ne (Nat.ne_of_lt born) ..
  home := fun _ born => Function.update_of_ne (Nat.ne_of_lt born) ..
  origins := fun _ member => member

theorem Motion.grows
    {claims : Name → Prop} {tears : Nat → Prop} {a b : Roster}
    (motion : Motion claims tears a b) : Grows a b := by
  cases motion with
  | quiet quiet =>
      constructor
      · exact Nat.le_of_eq quiet.next.symm
      · exact fun agent _ => congrFun quiet.agentName agent
      · exact fun agent _ => congrFun quiet.home agent
      · rw [quiet.origins]
        exact fun _ member => member
  | claim name => exact { grows_number a name a.next with }
  | enroll =>
      exact
        ⟨Nat.le_refl _, fun _ _ => rfl, fun _ _ => rfl,
          fun _ member => List.mem_cons_of_mem _ member⟩
  | build agent record => exact { grows_number a _ record with }
  | start =>
      exact
        ⟨Nat.le_refl _, fun _ _ => rfl, fun _ _ => rfl,
          fun _ member => member⟩
  | publish =>
      exact
        ⟨Nat.le_refl _, fun _ _ => rfl, fun _ _ => rfl,
          fun _ member => member⟩

/-- A record has ended by the time that it gets another incarnation. -/
def Descended (a : Roster) : Prop :=
  ∀ agent, a.home agent ≠ agent →
    ∃ outcome, a.task (a.home agent) = .done outcome

theorem Motion.descended
    {claims : Name → Prop} {tears : Nat → Prop} {a b : Roster}
    (motion : Motion claims tears a b) (kept : a.Kept)
    (descended : a.Descended) : b.Descended := by
  cases motion with
  | quiet quiet =>
      intro agent later
      rw [quiet.home] at later ⊢
      rcases descended agent later with ⟨outcome, done⟩
      exact ⟨outcome, (quiet.task _).done done⟩
  | claim name =>
      intro agent later
      have apart : agent ≠ a.next := by
        rintro rfl
        exact later (Function.update_self ..)
      have same : (a.claim name).home agent = a.home agent :=
        Function.update_of_ne apart ..
      rw [same] at later ⊢
      exact descended agent later
  | enroll origin waits claimed =>
      rcases kept.claimed _ _ claimed with ⟨_, _, _, _, task, _⟩
      intro agent later
      rcases descended agent later with ⟨outcome, done⟩
      have apart : a.home agent ≠ origin.record := by
        intro same
        rw [same, task] at done
        cases done
      refine ⟨outcome, ?_⟩
      simp only [Roster.enroll, Function.update_of_ne apart]
      exact done
  | build agent record crashed scheduled entered =>
      intro other later
      have begun : (a.exit agent).begun = true := by
        rw [scheduled]
        rfl
      have home : record = a.home agent :=
        kept.entry_home
          (.inr (ExitStage.acting_of_holds (ExitStage.holds_of_begun begun)))
          entered
      by_cases same : other = a.next
      · have found : (a.build agent record).home other = record := by
          rw [same]
          exact Function.update_self ..
        rw [found, home]
        by_cases root : a.home agent = agent
        · rw [root]
          exact kept.staged.begun agent begun
        · exact descended agent root
      · have found : (a.build agent record).home other = a.home other :=
          Function.update_of_ne same ..
        rw [found] at later ⊢
        exact descended other later
  | start agent record fresh transferring =>
      rcases kept.staged.building agent record fresh
          (by rw [transferring]; rfl) with
        ⟨_, _, _, freshHome, newer, _⟩
      intro other later
      rcases descended other later with ⟨outcome, done⟩
      have apart : a.home other ≠ fresh := by
        intro same
        have root := (kept.numbered.root other).1
        rw [same, freshHome] at root
        exact newer root.symm
      refine ⟨outcome, ?_⟩
      simp only [Roster.start, Function.update_of_ne apart]
      exact done
  | publish => exact descended

/-- What a continuation tears down has ended without reaching its loop. -/
def Torn (a : Roster) : Prop :=
  ∀ record, (a.continuation record).tearing = true →
    (∃ outcome, a.task record = .done outcome) ∧
      a.reachedLoop record = false

theorem Quiet.torn {tears : Nat → Prop} {a b : Roster}
    (quiet : Quiet tears a b) (torn : a.Torn)
    (unreached : ∀ record, tears record → a.reachedLoop record = false) :
    b.Torn := by
  intro record tearing
  have before :
      (∃ outcome, a.task record = .done outcome) ∧
        a.reachedLoop record = false := by
    have moves := quiet.continuation record
    generalize b.continuation record = stage at moves tearing
    cases moves with
    | stay => exact torn record tearing
    | tear tears _ done => exact ⟨⟨_, done⟩, unreached record tears⟩
    | drain unsubscribing =>
        apply torn record
        rw [unsubscribing]
        rfl
    | settle _ settled =>
        rw [SpawnStage.acting_of_tearing tearing] at settled
        cases settled
  rcases before with ⟨⟨outcome, done⟩, idle⟩
  refine ⟨⟨outcome, (quiet.task record).done done⟩, ?_⟩
  rcases quiet.reachedLoop record with same | ⟨live, _⟩
  · rw [same]
    exact idle
  · rw [done] at live
    cases live

theorem Motion.torn
    {claims : Name → Prop} {tears : Nat → Prop} {a b : Roster}
    (motion : Motion claims tears a b) (kept : a.Kept) (torn : a.Torn)
    (unreached : ∀ record, tears record → a.reachedLoop record = false) :
    b.Torn := by
  cases motion with
  | quiet quiet => exact quiet.torn torn unreached
  | claim => exact torn
  | enroll origin waits claimed =>
      rcases kept.claimed _ _ claimed with
        ⟨_, _, _, _, _, _, absent, _⟩
      intro record tearing
      have apart : record ≠ origin.record := by
        rintro rfl
        cases waits with
        | true =>
            simp only [Roster.enroll, if_true, Function.update_self]
              at tearing
            cases tearing
        | false =>
            simp only [Roster.enroll, Bool.false_eq_true, if_false, absent]
              at tearing
            cases tearing
      have before : (a.continuation record).tearing = true := by
        cases waits with
        | true =>
            simp only [Roster.enroll, if_true,
              Function.update_of_ne apart] at tearing
            exact tearing
        | false => exact tearing
      simp only [Roster.enroll, Function.update_of_ne apart]
      exact torn record before
  | build => exact torn
  | start agent record fresh transferring =>
      have built := kept.staged.building agent record fresh
        (by rw [transferring]; rfl)
      have absent := built.2.2.2.2.2.2.2.2
      intro other tearing
      have apart : other ≠ fresh := by
        rintro rfl
        simp only [Roster.start, absent] at tearing
        cases tearing
      simp only [Roster.start, Function.update_of_ne apart]
      exact torn other tearing
  | publish => exact torn

end Roster

end Civitas.Dynamic
