import Civitas.Dynamic.Requests
import Civitas.Transition

/-!
# Exits, continuations and steps

`_on_child_done`, `_handle_child_exit` and `_terminal_cleanup`, the
continuation `_await_spawn_readiness_and_reply`, what a child does by itself,
and the step function that interleaves them with the loop.

An exit handler knows the incarnation that exited only by its name: it looks
the record up in `_dynamic_children` and works on what it finds there.
-/

namespace Civitas.Dynamic

open Civitas.CountTable
open Civitas.PyValue
open Function (update)

/-! ## Restart budgets -/

/--
`RestartEngine.record_crash`: append, drop what lies a window or more back,
oldest first.
-/
def recordCrash (window : List Nat) (restartWindow now : Nat) : List Nat :=
  (window ++ [now]).dropWhile fun crash => crash + restartWindow ≤ now

/-- The window after an exit, and whether the budget is exhausted. -/
def State.verdict
    (cfg : Config) (s : State) (name : Name) (agent now : Nat) :
    List Nat × Bool :=
  if s.marker agent then (s.windows name, false)
  else
    let window := recordCrash (s.windows name) cfg.restartWindow now
    (window, cfg.maxRestarts < (window.length : Int))

/-! ## Exit handlers -/

/-- The exit of an agent comes to a stage. -/
def State.setExit (s : State) (agent : Nat) (stage : ExitStage) : State :=
  { s with exit := update s.exit agent stage }

/-- `_clear_child_marker`, then what the stage says. -/
def State.clearThen
    (s : State) (agent : Nat) (stage : ExitStage) : State :=
  (s.clearMarker (s.agentName agent)).setExit agent stage

/-- Build the next incarnation of a record. -/
def State.buildFresh (s : State) (agent record : Nat) : State :=
  { s with
    agentName := update s.agentName s.next (s.agentName agent)
    home := update s.home s.next record
    next := s.next + 1
    exit := update s.exit agent (.wiring record s.next) }

/-- `_handle_child_exit` up to its first await. -/
def State.beginExit
    (cfg : Config) (s : State) (agent : Nat) (crashed : Bool)
    (now : Nat) (constructs : Bool) : State :=
  match s.dynamicChildren.lookup (s.agentName agent) with
  | none => s.setExit agent .finished
  | some record =>
      if crashed && !s.reachedLoop (s.recAgent record) then
        (s.deregister (s.agentName agent)).setExit agent
          (.unsubscribing (.startFailed record))
      else if cfg.restart = .never then
        s.clearThen agent
          (.clearing (if crashed then .restartsExhausted else .cleanExit))
      else if cfg.restart = .transient && !crashed then
        s.clearThen agent (.clearing .cleanExit)
      else
        let name := s.agentName agent
        let verdict := s.verdict cfg name (s.recAgent record) now
        let s := { s with windows := update s.windows name verdict.1 }
        if verdict.2 then s.clearThen agent (.clearing .restartsExhausted)
        else if constructs then s.buildFresh agent record
        else s.clearThen agent .rewireClearing

/-- `bool(spawner_name)`. -/
def spawnerTruthy : Key → Bool
  | .none => false
  | .number value => value ≠ 0
  | .infinite _ => true
  | .str text => text ≠ ""
  | .bytes data => data ≠ []
  | .ext _ _ => true

/-- Where `_notify_spawner` gets to. -/
def State.noticeStage (s : State) (agent : Nat) : ExitStage :=
  match s.spawnerNames (s.agentName agent) with
  | some spawner =>
      if spawnerTruthy spawner then .notifying spawner else .finished
  | none => .finished

/-- What follows `_terminal_cleanup`. -/
def State.afterCleanup
    (s : State) (agent : Nat) (cause : CleanupCause) : ExitStage :=
  match cause with
  | .startFailed record =>
      if s.acknowledged record then s.noticeStage agent else .finished
  | .rewireFailed => s.noticeStage agent

/-- The fresh incarnation takes the record over and its task starts. -/
def State.startFresh (s : State) (agent record fresh : Nat) : State :=
  { s with
    recAgent := update s.recAgent record fresh
    task := update s.task fresh .live
    exit := update s.exit agent (.starting record fresh) }

/-- The fresh task is recorded and watched. -/
def State.publishFresh (s : State) (agent record fresh : Nat) : State :=
  { s with
    recTask := update s.recTask record fresh
    childTasks := update s.childTasks (s.agentName agent) (some fresh)
    exit := update (update s.exit agent .finished) fresh .watched }

/-- An exit handler resumes; `none` when it cannot resume in this way. -/
def State.resumeExit
    (cfg : Config) (s : State) (agent : Nat) (resumption : Resumption)
    (now : Nat) (constructs : Bool) : Option State :=
  let name := s.agentName agent
  match s.exit agent, resumption with
  | .watched, .returned =>
      match s.task agent with
      | .done .cancelled => some (s.setExit agent .finished)
      | .done outcome => some (s.setExit agent (.scheduled outcome.crashed))
      | _ => none
  | .scheduled crashed, .returned =>
      some (s.beginExit cfg agent crashed now constructs)
  | .clearing reason, .returned =>
      some ((s.removeChild name).setExit agent (.announcing reason))
  | .announcing _, .returned => some (s.setExit agent (s.noticeStage agent))
  | .announcing _, .raised => some (s.setExit agent .finished)
  | .notifying spawner, .returned =>
      some
        { s.setExit agent .finished with
          log := .notified agent name spawner :: s.log }
  | .notifying _, .raised => some (s.setExit agent .finished)
  | .unsubscribing cause, .returned =>
      some
        { s.setExit agent (.draining cause) with
          handlers := update s.handlers name none }
  | .unsubscribing _, .raised => some (s.setExit agent .finished)
  | .draining cause, .returned =>
      some ((s.removeChild name).setExit agent (.leaving cause))
  | .draining _, .raised => some (s.setExit agent .finished)
  | .leaving cause, .returned =>
      some (s.setExit agent (s.afterCleanup agent cause))
  | .leaving _, .raised => some (s.setExit agent .finished)
  | .wiring record fresh, .returned =>
      some
        { s.setExit agent (.transferring record fresh) with
          handlers := update s.handlers name (some fresh) }
  | .wiring _ _, .raised => some (s.clearThen agent .rewireClearing)
  | .transferring record fresh, .returned =>
      some (s.startFresh agent record fresh)
  | .transferring _ _, .raised => some (s.clearThen agent .rewireClearing)
  | .rewireClearing, .returned =>
      some ((s.deregister name).setExit agent (.unsubscribing .rewireFailed))
  | .starting record fresh, .returned =>
      match s.reachedLoop fresh, s.task fresh with
      | true, _ => some (s.publishFresh agent record fresh)
      | false, .done outcome =>
          if outcome.crashed
          then some (s.setExit agent .finished)
          else some (s.publishFresh agent record fresh)
      | false, _ => none
  | _, _ => none

/-! ## The continuation of a waiting spawn -/

/-- The spawn of a record comes to a stage. -/
def State.setContinuation
    (s : State) (record : Nat) (stage : SpawnStage) : State :=
  { s with continuation := update s.continuation record stage }

/-- The child is ready or its task has ended. -/
def State.startSettled (s : State) (agent : Nat) : Bool :=
  s.reachedLoop agent ||
    (match s.task agent with | .done _ => true | _ => false)

/-- A continuation resumes; a record is named by the agent it waits for. -/
def State.resumeContinuation
    (s : State) (record : Nat) (resumption : Resumption) : Option State :=
  let name := s.agentName record
  match s.continuation record, resumption with
  | .waiting, .returned =>
      if !s.startSettled record then none
      else if (s.status record).ready then
        some
          { s.setContinuation record .announcing with
            acknowledged := update s.acknowledged record true }
      else
        match s.task record with
        | .done _ =>
            some ((s.deregister name).setContinuation record .unsubscribing)
        | _ => some (s.setContinuation record .finished)
  | .announcing, .returned => some (s.setContinuation record (.replying true))
  | .announcing, .raised => some (s.setContinuation record .finished)
  | .unsubscribing, .returned =>
      some
        { s.setContinuation record .draining with
          handlers := update s.handlers name none }
  | .unsubscribing, .raised => some (s.setContinuation record .finished)
  | .draining, .returned =>
      some ((s.removeChild name).setContinuation record .leaving)
  | .draining, .raised => some (s.setContinuation record .finished)
  | .leaving, .returned => some (s.setContinuation record (.replying false))
  | .leaving, .raised => some (s.setContinuation record .finished)
  | .replying ok, .returned =>
      some
        { s.setContinuation record .finished with
          log :=
            .answered (s.spawnRequest record).id
              (if ok then .ok else .startFailed) :: s.log }
  | .replying _, .raised => some (s.setContinuation record .finished)
  | _, _ => none

/-! ## Children and other registrants -/

/-- What a child does by itself. -/
inductive ChildEvent where
  | reach (suspended : Bool)
  | change (status : ProcessStatus) (marker : Bool)
  | finish (outcome : TaskOutcome) (status : ProcessStatus)
deriving DecidableEq

/-- A child acts while its task is live. -/
def State.childStep
    (s : State) (agent : Nat) (event : ChildEvent) : Option State :=
  if s.task agent ≠ .live then none
  else
    match event with
    | .reach suspended =>
        if s.reachedLoop agent then none
        else
          some
            { s with
              reachedLoop := update s.reachedLoop agent true
              status :=
                update s.status agent
                  (if suspended then .suspended else .running)
              marker := update s.marker agent suspended }
    | .change status marker =>
        if s.reachedLoop agent then
          some
            { s with
              status := update s.status agent status
              marker := update s.marker agent marker }
        else none
    | .finish outcome status =>
        if status.ready || (outcome = .returned && !s.reachedLoop agent)
        then none
        else
          some
            { s with
              task := update s.task agent (.done outcome)
              status := update s.status agent status }

/-- Another process registers or deregisters a name of its own. -/
def State.foreignStep
    (s : State) (name : Name) (joins : Bool) : Option State :=
  match joins, s.registry name with
  | true, none =>
      some { s with registry := update s.registry name (some .foreign) }
  | false, some .foreign =>
      some { s with registry := update s.registry name none }
  | _, _ => none

/-! ## Steps -/

/-- One step of one of the tasks. -/
inductive Label where
  | take (message : Message)
  | consulted (approved constructs : Bool)
  | loop (resumption : Resumption)
  | exit
      (agent : Nat) (resumption : Resumption)
      (now : Nat) (constructs : Bool)
  | continuation (record : Nat) (resumption : Resumption)
  | child (agent : Nat) (event : ChildEvent)
  | foreign (name : Name) (joins : Bool)

/-- The successor of a state; `none` when the step is not enabled. -/
def step (cfg : Config) (s : State) : Label → Option State
  | .take message =>
      match s.loop with
      | .idle => some (s.takeMessage cfg message)
      | _ => none
  | .consulted approved constructs =>
      match s.loop with
      | .consulting spawn =>
          some (s.resumeConsulting spawn approved constructs)
      | _ => none
  | .loop resumption => s.resumeLoop resumption
  | .exit agent resumption now constructs =>
      s.resumeExit cfg agent resumption now constructs
  | .continuation record resumption =>
      s.resumeContinuation record resumption
  | .child agent event => s.childStep agent event
  | .foreign name joins => s.foreignStep name joins

/-- A supervisor without limits. -/
def openConfig : Config where
  imports := fun _ => true
  floats := fun _ => true

/-- Spawn a child without waiting for it, up to the reply. -/
def spawnQuickly (message : Message) : List Label :=
  [.take message, .consulted true true, .loop .returned, .loop .returned,
    .loop .returned]

end Civitas.Dynamic
