import Civitas.Dynamic.State

/-!
# Supervision trees

The children of a `Supervisor`: agents and child supervisors, with what
`_start` and `_stop` make of them.  An agent is an object; its serial number
tells it from the objects that take its place, its specification is the
`_civitas_spec` it was built from.

What a process does when it is stopped or started is decided by its handlers
and hooks.  A `Behaviour` says it for every process, by name; within the
processing of one crash event a process is stopped and started at most once.
-/

namespace Civitas.Supervision

open Civitas.Dynamic (ProcessStatus)

/-- `RestartStrategy`. -/
inductive RestartStrategy where
  | oneForOne
  | oneForAll
  | restForOne
deriving DecidableEq

/-! ## Nodes -/

/-- An `AgentProcess` that is not a supervisor. -/
structure Agent where
  name : String
  spec : Nat
  serial : Nat
  status : ProcessStatus
  /-- The task of the agent has not finished. -/
  live : Bool
  /-- The numbers of the buffered messages. -/
  mailbox : List Nat
deriving DecidableEq

/-- A child: an agent, or a supervisor with its own loop and children. -/
inductive Node where
  | agent (process : Agent)
  | supervisor (name : String) (live : Bool) (children : List Node)

/-- The name of a child. -/
def Node.name : Node → String
  | .agent process => process.name
  | .supervisor name _ _ => name

mutual

/-- `all_agents`, for one child. -/
def Node.agents : Node → List Agent
  | .agent process => [process]
  | .supervisor _ _ children => agentsOf children

/-- `all_agents`, for a list of children. -/
def agentsOf : List Node → List Agent
  | [] => []
  | node :: rest => node.agents ++ agentsOf rest

end

/-! ## Stopping and starting -/

/-- What the processes of a tree do when they are stopped and started. -/
structure Behaviour where
  /--
  The status and the mailbox that a process leaves when `_stop` has ended its
  task; `none` when the task raises into `_stop`.
  -/
  stops : String → Option (ProcessStatus × List Nat)
  /-- Construction, wiring, subscription and transfer do not raise. -/
  builds : String → Bool
  /--
  The status of a process that has been started, when the processing of the
  event ends; `none` when its start raises.
  -/
  starts : String → Option ProcessStatus

/-- `_stop` waits for the task of a process in this status. -/
def stoppable : ProcessStatus → Bool
  | .running | .initializing | .suspended => true
  | _ => false

/-- `AgentProcess._stop`. -/
def Agent.stop (behaviour : Behaviour) (agent : Agent) : Option Agent :=
  if stoppable agent.status then
    (behaviour.stops agent.name).map fun (status, mailbox) =>
      { agent with status := status, live := false, mailbox := mailbox }
  else some agent

/-- `AgentProcess._start`. -/
def Agent.start (behaviour : Behaviour) (agent : Agent) : Option Agent :=
  (behaviour.starts agent.name).map fun status =>
    { agent with status := status, live := status.ready }

mutual

/-- `Supervisor.stop`, or `_stop` of an agent. -/
def Node.stop (behaviour : Behaviour) : Node → Option Node
  | .agent process => (process.stop behaviour).map .agent
  | .supervisor name live children =>
      if live && (behaviour.stops name).isNone then none
      else
        match stopEach behaviour children with
        | none => none
        | some stopped => some (.supervisor name false stopped)

/-- `Node.stop` of each child. -/
def stopEach (behaviour : Behaviour) : List Node → Option (List Node)
  | [] => some []
  | node :: rest =>
      match node.stop behaviour, stopEach behaviour rest with
      | some stopped, some others => some (stopped :: others)
      | _, _ => none

end

mutual

/-- `Supervisor.start`, or `_start` of an agent. -/
def Node.start (behaviour : Behaviour) : Node → Option Node
  | .agent process => (process.start behaviour).map .agent
  | .supervisor name _ children =>
      match behaviour.starts name, startEach behaviour children with
      | some status, some started =>
          some (.supervisor name status.ready started)
      | _, _ => none

/-- `Node.start` of each child. -/
def startEach (behaviour : Behaviour) : List Node → Option (List Node)
  | [] => some []
  | node :: rest =>
      match node.start behaviour, startEach behaviour rest with
      | some started, some others => some (started :: others)
      | _, _ => none

end

end Civitas.Supervision
