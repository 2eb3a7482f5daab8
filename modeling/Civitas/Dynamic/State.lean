import Civitas.CountTable
import Civitas.PyText
import Civitas.PyValue
import Mathlib.Logic.Function.Basic

/-!
# The state of a dynamic supervisor

`DynamicSupervisor` of `supervisor.py` runs as one task that takes messages
(the loop), one task for each exit of a child (`_handle_child_exit`) and one
for each spawn that waits for its child (`_await_spawn_readiness_and_reply`).
Each of them runs until its next `await`; any other task may run there,
whether or not the awaited coroutine really suspends.

Children are numbered in the order in which their `AgentProcess` objects are
built, across restarts: a number is an incarnation, and stands for its task
as well.  A `_ChildRec` is named by the first incarnation it held.  The
attributes of both are functions of these numbers.

Left out are the contents of mailboxes, the cluster-wide announcements (an
`await` that can fail), and the texts of log records.  `requested`, `requests`
and `log` are history: the removals asked for, the number of messages taken,
and what the outside world could observe.
-/

namespace Civitas.Dynamic

open Civitas.CountTable
open Civitas.PyValue

/-- A child name, as a dictionary key. -/
abbrev Name := Key

/-! ## Children -/

/-- `ProcessStatus`. -/
inductive ProcessStatus where
  | initializing
  | running
  | suspended
  | stopping
  | stopped
  | crashed
deriving DecidableEq

/-- The child has entered its message loop and not left it. -/
def ProcessStatus.ready : ProcessStatus → Bool
  | .running | .suspended => true
  | _ => false

/-- How a task ends.  A `TimeoutError` is told apart because callers do. -/
inductive TaskOutcome where
  | returned
  | raised
  | raisedTimeout
  | cancelled
deriving DecidableEq

/-- `task.exception()` is an exception. -/
def TaskOutcome.crashed : TaskOutcome → Bool
  | .raised | .raisedTimeout => true
  | _ => false

/-- The task of an incarnation. -/
inductive TaskState where
  | notStarted
  | live
  | done (outcome : TaskOutcome)
deriving DecidableEq

/-- The reasons given in a `civitas.dynamic.terminated` message. -/
inductive Reason where
  | startFailed
  | cleanExit
  | restartsExhausted
deriving DecidableEq

/-- What follows `_terminal_cleanup` in `_handle_child_exit`. -/
inductive CleanupCause where
  | startFailed (record : Nat)
  | rewireFailed
deriving DecidableEq

/--
Where the handling of an incarnation's exit stands.  `watched` means that
`_on_child_done` is attached to the task; the stages after `scheduled` are the
awaits of `_handle_child_exit`.
-/
inductive ExitStage where
  | unwatched
  | watched
  | scheduled (crashed : Bool)
  | clearing (reason : Reason)
  | announcing (reason : Reason)
  | notifying (spawner : Key)
  | unsubscribing (cause : CleanupCause)
  | draining (cause : CleanupCause)
  | leaving (cause : CleanupCause)
  | wiring (record fresh : Nat)
  | transferring (record fresh : Nat)
  | rewireClearing
  | starting (record fresh : Nat)
  | finished
deriving DecidableEq

/-- Where the continuation of a waiting spawn stands. -/
inductive SpawnStage where
  | absent
  | waiting
  | announcing
  | unsubscribing
  | draining
  | leaving
  | replying (ok : Bool)
  | finished
deriving DecidableEq

/-! ## Requests -/

/-- The fields of `Message` that the supervisor reads. -/
structure Message where
  type : String
  sender : String
  payload : Dict
  correlated : Bool := true

/-- A message being handled: its number and whether it wants a reply. -/
structure Request where
  id : Nat
  correlated : Bool
deriving DecidableEq

/-- Why a request is refused. -/
inductive Refusal where
  | alreadyRunning
  | alreadyRegistered
  | maxChildren
  | maxTotalSpawns
  | maxChildrenPerSpawner
  | maxTotalSpawnsPerSpawner
  | invalidClassPath
  | cannotImport
  | spawnerNotAllowed
  | deniedByGovernance
  | noDynamicAgent
deriving DecidableEq

/-- The reply to a request; `removed` is the ok of a despawn or a stop. -/
inductive Answer where
  | ok
  | removed (name : Name)
  | startFailed
  | error (reason : Refusal)
deriving DecidableEq

/-- A spawn request past its checks. -/
structure SpawnRequest where
  request : Request
  sender : String
  name : Name
  spawner : Value
  wait : Bool
  spawnId : Value

/-- A stop request that found its child: the agent and its recorded task. -/
structure StopRequest where
  request : Request
  name : Name
  agent : Nat
  task : Option Nat
  drainAll : Bool
deriving DecidableEq

/-- Where the supervisor's own task stands. -/
inductive LoopStage where
  | idle
  | consulting (spawn : SpawnRequest)
  | subscribing (spawn : SpawnRequest) (agent : Nat)
  | auditing (spawn : SpawnRequest) (agent : Nat)
  | despawnWaiting (request : Request) (name : Name) (task : Nat)
  | despawnClearing (request : Request) (name : Name)
  | stopPosting (stop : StopRequest)
  | stopAgentWaiting (stop : StopRequest)
  | stopAgentCancelled (stop : StopRequest)
  | stopWaiting (stop : StopRequest) (task : Nat)
  | stopCancelled (stop : StopRequest) (task : Nat)
  | removing (request : Request) (name : Name)
  | replying (request : Request) (answer : Answer)
  | stopping (remaining : List Name) (task : Nat)
  | gathering
  | ended

/-! ## Configuration and state -/

/-- `RestartMode`. -/
inductive RestartMode where
  | permanent
  | transient
  | never
deriving DecidableEq

/-- The arguments of `DynamicSupervisor`, and the modules it can import. -/
structure Config where
  maxChildren : Option Int := none
  maxTotalSpawns : Option Int := none
  restart : RestartMode := .transient
  maxRestarts : Int := 3
  restartWindow : Nat := 60
  spawnerAllowlist : Option (List Key) := none
  maxChildrenPerSpawner : Option Int := none
  maxTotalSpawnsPerSpawner : Option Int := none
  imports : String → Bool
  floats : Value → Bool

/-- Who put a name in the registry. -/
inductive Owner where
  | mine
  | foreign
deriving DecidableEq

/-- What the outside world can observe. -/
inductive Event where
  | spawned (record : Nat) (name : Name) (sender : String) (spawner : Key)
  | tookRemoval (id : Nat)
  | answered (id : Nat) (answer : Answer)
  | notified (about : Nat) (child : Name) (spawner : Key)
  | raised
deriving DecidableEq

/-- The spawn that a record comes from. -/
structure Origin where
  record : Nat
  name : Name
  sender : String
  spawner : Key
deriving DecidableEq

/-- The spawn that an event reports. -/
def Event.origin? : Event → Option Origin
  | .spawned record name sender spawner =>
      some ⟨record, name, sender, spawner⟩
  | _ => none

/-- The state of a supervisor with its children. -/
structure State where
  loop : LoopStage := .idle
  dynamicChildren : Table Name Nat := ∅
  childTasks : Name → Option Nat := fun _ => none
  spawnerNames : Name → Option Key := fun _ => none
  totalSpawns : Nat := 0
  spawnerTotalCounts : Table Key Nat := ∅
  currentSpawner : Option Value := none
  windows : Name → List Nat := fun _ => []
  registry : Name → Option Owner := fun _ => none
  handlers : Name → Option Nat := fun _ => none
  next : Nat := 0
  agentName : Nat → Name := fun _ => .none
  home : Nat → Nat := fun agent => agent
  task : Nat → TaskState := fun _ => .notStarted
  status : Nat → ProcessStatus := fun _ => .initializing
  reachedLoop : Nat → Bool := fun _ => false
  marker : Nat → Bool := fun _ => false
  exit : Nat → ExitStage := fun _ => .unwatched
  recAgent : Nat → Nat := fun record => record
  recTask : Nat → Nat := fun record => record
  acknowledged : Nat → Bool := fun _ => false
  spawnId : Nat → Value := fun _ => .str ""
  continuation : Nat → SpawnStage := fun _ => .absent
  spawnRequest : Nat → Request := fun _ => ⟨0, false⟩
  requested : Nat → Bool := fun _ => false
  requests : Nat := 0
  log : List Event := []

/-- A supervisor that has just started. -/
def init : State := {}

end Civitas.Dynamic
