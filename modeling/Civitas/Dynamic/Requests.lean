import Civitas.Dynamic.State

/-!
# Requests to a dynamic supervisor

`_handle_spawn`, `_handle_despawn`, `_handle_stop` and `on_stop`, cut at their
awaits.  An exception that leaves a handler reaches the default `on_error`,
which escalates: the loop ends and `on_stop` runs.  The cancellation of an
awaited child leaves the handler in the same way.  A wait whose time is up
cancels the awaited task and goes on until the task has ended, so that an
exception of the task still leaves the handler.

The spawner of a request is read from its payload.  `spawnDecision` takes it
as an argument, so that what the checks decide can be compared for two
identities.
-/

namespace Civitas.Dynamic

open Civitas.CountTable
open Civitas.PyText
open Civitas.PyValue
open Function (update)

/-! ## Stopping -/

/-- A pending exit handler that is cancelled does nothing more. -/
def ExitStage.cancel : ExitStage → ExitStage
  | .unwatched => .unwatched
  | .watched => .watched
  | _ => .finished

/-- The task of a spawn is cancelled. -/
def SpawnStage.cancel : SpawnStage → SpawnStage
  | .absent => .absent
  | _ => .finished

/-- The first name whose recorded task is live, and the names after it. -/
def State.firstLive (s : State) : List Name → Option (List Name × Nat)
  | [] => none
  | name :: rest =>
      match s.childTasks name with
      | some task =>
          if s.task task = .live then some (rest, task) else s.firstLive rest
      | none => s.firstLive rest

/--
The body of `on_stop` over the names still to visit: cancel the next live
child and wait for it, or else cancel the pending tasks.
-/
def State.stopChildren (s : State) (names : List Name) : State :=
  let found := s.firstLive names
  { s with
    loop :=
      match found with
      | some (rest, task) => .stopping rest task
      | none => .gathering
    exit :=
      if found.isSome then s.exit else fun agent => (s.exit agent).cancel
    continuation :=
      if found.isSome then s.continuation
      else fun record => (s.continuation record).cancel }

/-- `on_stop`, run when the loop ends for whatever reason. -/
def State.onStop (s : State) : State :=
  State.stopChildren { s with requested := fun _ => true }
    s.dynamicChildren.keys

/-- A handler raised: the error escalates and the loop ends. -/
def State.fail (s : State) : State :=
  State.onStop { s with log := .raised :: s.log }

/-- The loop goes on to answer a request. -/
def State.respond (s : State) (request : Request) (answer : Answer) : State :=
  { s with loop := .replying request answer }

/-! ## Spawn -/

/-- The limit is set and reached. -/
def limitReached (limit : Option Int) (count : Nat) : Bool :=
  match limit with
  | some bound => bound ≤ (count : Int)
  | none => false

/-- The children recorded for a spawner. -/
def State.liveFor (s : State) (spawner : Key) : Nat :=
  countKeys s.dynamicChildren fun name => s.spawnerNames name == some spawner

/-- What the checks of `_handle_spawn` decide. -/
inductive SpawnDecision where
  | reply (answer : Answer)
  | raise
  | consult (name : Name)
deriving DecidableEq

/-- The per-spawner limits; `none` when looking a counter up raises. -/
def State.spawnerLimit
    (cfg : Config) (s : State) (spawner : Value) : Option (Option Refusal) :=
  let live := (spawner.key?.map s.liveFor).getD 0
  if limitReached cfg.maxChildrenPerSpawner live
  then some (some .maxChildrenPerSpawner)
  else if cfg.maxTotalSpawnsPerSpawner.isNone then some none
  else
    spawner.key?.map fun key =>
      if limitReached cfg.maxTotalSpawnsPerSpawner
          (count s.spawnerTotalCounts key)
      then some .maxTotalSpawnsPerSpawner
      else none

/-- The dotted path and the allowlist; `none` when a check raises. -/
def classAllowed
    (cfg : Config) (classPath spawner : Value) : Option (Option Refusal) :=
  match classPath with
  | .str path =>
      if beforeLast path '.' = "" then some (some .invalidClassPath)
      else if !cfg.imports path then some (some .cannotImport)
      else
        match cfg.spawnerAllowlist with
        | none => some none
        | some allowed =>
            spawner.key?.map fun key =>
              if allowed.contains key then none else some .spawnerNotAllowed
  | _ => none

/-- The checks of `_handle_spawn` up to the governance hook, in order. -/
def State.spawnDecision
    (cfg : Config) (s : State) (payload : Dict) (spawner : Value) :
    SpawnDecision :=
  match (field payload "name" (.str "")).key? with
  | none => .raise
  | some name =>
      match s.dynamicChildren.lookup name with
      | some record =>
          let spawnId := field payload "spawn_id" (.str "")
          if spawnId.truthy && Value.pyEq (s.spawnId record) spawnId
          then .reply .ok
          else .reply (.error .alreadyRunning)
      | none =>
          if (s.registry name).isSome then
            .reply (.error .alreadyRegistered)
          else if limitReached cfg.maxChildren
              s.dynamicChildren.keys.length then
            .reply (.error .maxChildren)
          else if limitReached cfg.maxTotalSpawns s.totalSpawns then
            .reply (.error .maxTotalSpawns)
          else
            match s.spawnerLimit cfg spawner with
            | none => .raise
            | some (some reason) => .reply (.error reason)
            | some none =>
                match classAllowed cfg
                    (field payload "class_path" (.str "")) spawner with
                | none => .raise
                | some (some reason) => .reply (.error reason)
                | some none => .consult name

/-- A spawn that reaches the hook asks for a name without a child. -/
theorem spawnDecision_fresh
    {cfg : Config} {s : State} {payload : Dict} {spawner : Value}
    {name : Name}
    (decided : s.spawnDecision cfg payload spawner = .consult name) :
    s.dynamicChildren.lookup name = none := by
  unfold State.spawnDecision at decided
  split at decided
  · cases decided
  · split at decided
    · simp only at decided
      split_ifs at decided
    · rename_i absent
      repeat' split at decided
      all_goals cases decided
      exact absent

/-- `payload.get("spawner", "")`. -/
def spawnerOf (payload : Dict) : Value :=
  field payload "spawner" (.str "")

/-- Call `on_spawn_requested` for a request past its checks. -/
def State.consult
    (s : State) (request : Request) (message : Message) (name : Name) :
    State :=
  { s with
    currentSpawner := some (spawnerOf message.payload)
    loop :=
      .consulting
        { request := request
          sender := message.sender
          name := name
          spawner := spawnerOf message.payload
          wait := (field message.payload "wait" (.bool true)).truthy
          spawnId := field message.payload "spawn_id" (.str "") } }

/-- `_handle_spawn` up to `on_spawn_requested`. -/
def State.takeSpawn
    (cfg : Config) (s : State) (request : Request) (message : Message) :
    State :=
  match s.spawnDecision cfg message.payload (spawnerOf message.payload) with
  | .reply answer => s.respond request answer
  | .raise => s.fail
  | .consult name => s.consult request message name

/-- Build the child and claim its name in the registry. -/
def State.claim (s : State) (spawn : SpawnRequest) : State :=
  { s with
    registry := update s.registry spawn.name (some .mine)
    agentName := update s.agentName s.next spawn.name
    home := update s.home s.next s.next
    next := s.next + 1
    loop := .subscribing spawn s.next }

/-- The hook returned; `constructs` tells whether the class can be built. -/
def State.resumeConsulting
    (s : State) (spawn : SpawnRequest) (approved constructs : Bool) :
    State :=
  if !approved then
    State.respond { s with currentSpawner := none } spawn.request
      (.error .deniedByGovernance)
  else if !constructs then State.fail { s with currentSpawner := none }
  else if (s.registry spawn.name).isSome then
    State.respond { s with currentSpawner := none } spawn.request
      (.error .alreadyRegistered)
  else State.claim { s with currentSpawner := none } spawn

/-- The synchronous admission block of `_handle_spawn`. -/
def State.enroll
    (s : State) (spawn : SpawnRequest) (agent : Nat) : State :=
  match spawn.spawner.key? with
  | none => State.fail { s with totalSpawns := s.totalSpawns + 1 }
  | some spawner =>
      { s with
        totalSpawns := s.totalSpawns + 1
        spawnerTotalCounts := bump s.spawnerTotalCounts spawner
        task := update s.task agent .live
        recAgent := update s.recAgent agent agent
        recTask := update s.recTask agent agent
        spawnId := update s.spawnId agent spawn.spawnId
        dynamicChildren := s.dynamicChildren.insert spawn.name agent
        spawnerNames := update s.spawnerNames spawn.name (some spawner)
        childTasks := update s.childTasks spawn.name (some agent)
        exit := update s.exit agent .watched
        acknowledged := update s.acknowledged agent (!spawn.wait)
        continuation :=
          if spawn.wait
          then update s.continuation agent .waiting
          else s.continuation
        spawnRequest := update s.spawnRequest agent spawn.request
        log := .spawned agent spawn.name spawn.sender spawner :: s.log
        loop := if spawn.wait then .idle else .replying spawn.request .ok }

/-! ## Despawn and stop -/

/-- `_clear_child_marker`. -/
def State.clearMarker (s : State) (name : Name) : State :=
  { s with
    marker :=
      match s.dynamicChildren.lookup name with
      | some record => update s.marker (s.recAgent record) false
      | none => s.marker }

/-- `_remove_child`. -/
def State.removeChild (s : State) (name : Name) : State :=
  { s with
    dynamicChildren := s.dynamicChildren.erase name
    childTasks := update s.childTasks name none }

/-- `registry.deregister`. -/
def State.deregister (s : State) (name : Name) : State :=
  { s with registry := update s.registry name none }

/-- The end of a despawn or a stop, up to the announcement. -/
def State.finishRemoval
    (s : State) (request : Request) (name : Name) : State :=
  { (s.removeChild name).deregister name with
    loop := .removing request name }

/-- The marker of a child that is despawned is cleared. -/
def State.despawnClear
    (s : State) (request : Request) (name : Name) : State :=
  { s.clearMarker name with loop := .despawnClearing request name }

/-- `_handle_despawn` up to its first await. -/
def State.takeDespawn
    (s : State) (request : Request) (payload : Dict) : State :=
  match (field payload "name" (.str "")).key? with
  | none => s.fail
  | some name =>
      match s.dynamicChildren.lookup name with
      | none => s.respond request (.error .noDynamicAgent)
      | some record =>
          let s :=
            { s with requested := update s.requested (s.recAgent record) true }
          match s.childTasks name with
          | some task =>
              if s.task task = .live
              then { s with loop := .despawnWaiting request name task }
              else s.despawnClear request name
          | none => s.despawnClear request name

/-- `_handle_stop` after the child has been told to stop. -/
def State.afterStop (s : State) (stop : StopRequest) : State :=
  match stop.task with
  | some task =>
      if s.task task = .live
      then { s with loop := .stopWaiting stop task }
      else s.finishRemoval stop.request stop.name
  | none => s.finishRemoval stop.request stop.name

/-- `AgentProcess._stop` has something to do. -/
def ProcessStatus.stoppable : ProcessStatus → Bool
  | .running | .initializing | .suspended => true
  | _ => false

/-- `_handle_stop` up to its first await. -/
def State.takeStop
    (cfg : Config) (s : State) (request : Request) (payload : Dict) :
    State :=
  if !cfg.floats (field payload "timeout" (.int 30)) then s.fail
  else
    match (field payload "name" (.str "")).key? with
    | none => s.fail
    | some name =>
        match s.dynamicChildren.lookup name with
        | none => s.respond request (.error .noDynamicAgent)
        | some record =>
            let drain := field payload "drain" (.str "current")
            let stop : StopRequest :=
              { request := request
                name := name
                agent := s.recAgent record
                task := s.childTasks name
                drainAll := drain.pyEq (.str "all") }
            let s :=
              { s with requested := update s.requested stop.agent true }
            if stop.drainAll || (s.status stop.agent).stoppable
            then { s with loop := .stopPosting stop }
            else s.afterStop stop

/-! ## The requests agents send -/

/-- The message of `AgentProcess.spawn_into`. -/
def spawnInto
    (sender classPath name : String) (wait : Bool) (spawnId : String) :
    Message where
  type := "civitas.dynamic.spawn"
  sender := sender
  payload :=
    dictOf
      [("class_path", .str classPath), ("name", .str name),
        ("config", .dict []), ("spawner", .str sender),
        ("wait", .bool wait), ("spawn_id", .str spawnId)]

/-- The message of `AgentProcess.despawn`. -/
def despawn (sender name : String) : Message where
  type := "civitas.dynamic.despawn"
  sender := sender
  payload := dictOf [("name", .str name)]

/-- The message of `AgentProcess.stop`. -/
def stop (sender name drain : String) (timeout : Int) : Message where
  type := "civitas.dynamic.stop"
  sender := sender
  payload :=
    dictOf
      [("name", .str name), ("drain", .str drain), ("timeout", .int timeout)]

/-! ## The loop -/

/-- What the loop does with a message, by its type. -/
inductive MessageKind where
  | shutdown
  | spawn
  | despawn
  | stop
  | other
deriving DecidableEq

/-- What the loop does with a message, by its type. -/
def Message.kind (message : Message) : MessageKind :=
  if message.type = "_agency.shutdown" then .shutdown
  else if message.type = "civitas.eval.halt" then .shutdown
  else if message.type = "civitas.dynamic.spawn" then .spawn
  else if message.type = "civitas.dynamic.despawn" then .despawn
  else if message.type = "civitas.dynamic.stop" then .stop
  else .other

/-- Count a message and record a removal that wants a reply. -/
def State.receive (s : State) (message : Message) : State :=
  { s with
    requests := s.requests + 1
    log :=
      if message.correlated &&
          (message.kind == .despawn || message.kind == .stop)
      then .tookRemoval s.requests :: s.log
      else s.log }

/-- The loop takes a message. -/
def State.takeMessage
    (cfg : Config) (s : State) (message : Message) : State :=
  let request : Request := ⟨s.requests, message.correlated⟩
  let s := s.receive message
  match message.kind with
  | .shutdown => s.onStop
  | .spawn => s.takeSpawn cfg request message
  | .despawn => s.takeDespawn request message.payload
  | .stop => s.takeStop cfg request message.payload
  | .other => s

/-- How an await of the supervisor's tasks resumes. -/
inductive Resumption where
  | returned
  | raised
  | timedOut
  | cancelled
deriving DecidableEq

/-- The reply has been routed. -/
def State.answer
    (s : State) (request : Request) (answer : Answer) : State :=
  { s with
    loop := .idle
    log :=
      if request.correlated
      then .answered request.id answer :: s.log
      else s.log }

/--
The loop resumes from an await other than the governance hook.  `none` means
that it cannot resume in this way.
-/
def State.resumeLoop
    (s : State) (resumption : Resumption) : Option State :=
  match s.loop with
  | .subscribing spawn agent =>
      match resumption with
      | .returned =>
          some
            { s with
              handlers := update s.handlers spawn.name (some agent)
              loop := .auditing spawn agent }
      | .raised => some s.fail
      | .cancelled => some s.onStop
      | .timedOut => none
  | .auditing spawn agent =>
      match resumption with
      | .returned => some (s.enroll spawn agent)
      | .raised => some s.fail
      | .cancelled => some s.onStop
      | .timedOut => none
  | .despawnWaiting request name task =>
      match resumption, s.task task with
      | .returned, .done _ => some (s.despawnClear request name)
      | .cancelled, _ => some (s.despawnClear request name)
      | _, _ => none
  | .despawnClearing request name =>
      match resumption with
      | .returned => some (s.finishRemoval request name)
      | .cancelled => some s.onStop
      | _ => none
  | .stopPosting stop =>
      match resumption with
      | .returned =>
          if !stop.drainAll && s.task stop.agent = .live
          then some { s with loop := .stopAgentWaiting stop }
          else some (s.afterStop stop)
      | .cancelled => some s.onStop
      | _ => none
  | .stopAgentWaiting stop =>
      match resumption, s.task stop.agent with
      | .returned, .done .raised => some s.fail
      | .returned, .done _ => some (s.afterStop stop)
      | .timedOut, _ => some { s with loop := .stopAgentCancelled stop }
      | .cancelled, _ => some { s with loop := .stopAgentCancelled stop }
      | _, _ => none
  | .stopAgentCancelled stop =>
      match resumption, s.task stop.agent with
      | .returned, .done .raised => some s.fail
      | .returned, .done _ => some (s.afterStop stop)
      | .cancelled, _ => some (s.afterStop stop)
      | _, _ => none
  | .stopWaiting stop task =>
      match resumption, s.task task with
      | .returned, .done .raised => some s.fail
      | .returned, .done .cancelled => some s.fail
      | .returned, .done _ => some (s.finishRemoval stop.request stop.name)
      | .timedOut, _ => some { s with loop := .stopCancelled stop task }
      | .cancelled, _ => some s.onStop
      | _, _ => none
  | .stopCancelled stop task =>
      match resumption, s.task task with
      | .returned, .done .raised => some s.fail
      | .returned, .done _ =>
          some (s.finishRemoval stop.request stop.name)
      -- The timeout leaves a cancellation from outside as it is.
      | .cancelled, _ => some s.onStop
      | _, _ => none
  | .removing request name =>
      match resumption with
      | .returned => some (s.respond request (.removed name))
      | .raised => some s.fail
      | .cancelled => some s.onStop
      | .timedOut => none
  | .replying request answer =>
      match resumption with
      | .returned => some (s.answer request answer)
      | .raised => some s.fail
      | .cancelled => some s.onStop
      | .timedOut => none
  | .stopping remaining task =>
      match resumption, s.task task with
      | .returned, .done _ => some (s.stopChildren remaining)
      | .cancelled, _ => some (s.stopChildren remaining)
      | _, _ => none
  | .gathering =>
      if resumption = .returned then some { s with loop := .ended } else none
  | .idle => if resumption = .cancelled then some s.onStop else none
  | .consulting _ =>
      match resumption with
      | .raised => some (State.fail { s with currentSpawner := none })
      | .cancelled => some (State.onStop { s with currentSpawner := none })
      | _ => none
  | .ended => none

end Civitas.Dynamic
