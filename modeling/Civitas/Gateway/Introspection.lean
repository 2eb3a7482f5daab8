import Civitas.PyValue

/-!
# The views of the topology agent

`_TopologyIntrospection` of `topology_server.py`: what the read operations
collect from the supervision tree, the registry, the metrics and the workers,
and `_raw_json`, which encodes it.  `json.dumps` raises on a view that is not
JSON; the text it writes is a parameter, and so is the Prometheus text.

The fields of agents, metrics and samples have the types that the source
declares.  Capabilities and their metadata are what an application declares on
its classes, and the metadata of a waiting message is what came over the wire,
so these are arbitrary values.
-/

namespace Civitas.Gateway

open Civitas.PyValue

/-! ## The state that is read -/

/-- The metadata of a message in a mailbox. -/
structure Waiting where
  id : Value
  type : Value
  sender : Value
  recipient : Value
  priority : Value
  timestamp : Value

/-- What the views read of an agent. -/
structure AgentRecord where
  status : String
  capabilities : List Value
  capabilityMetadata : Dict
  uptimeSeconds : PyFloat
  sessionTurnCount : Int
  sessionDurationSeconds : PyFloat
  suspendCategory : String
  /-- `_mailbox.peek()`. -/
  mailbox : List Waiting

/-- A node of the supervision tree. -/
inductive TreeNode where
  | agent (name : String) (record : AgentRecord)
  | dynamicSupervisor
      (name status : String) (maxChildren maxTotalSpawns : Option Int)
      (children : List (String × AgentRecord)) (restarts : String → Int)
  | supervisor
      (name strategy : String) (crashesInWindow : Int)
      (children : List TreeNode) (restarts : String → Int)

/-- The name of a node. -/
def TreeNode.name : TreeNode → String
  | .agent name _ => name
  | .dynamicSupervisor name _ _ _ _ _ => name
  | .supervisor name _ _ _ _ => name

/-- `AgentMetrics`, as far as `_build_metrics` reads it. -/
structure AgentMetrics where
  messagesHandled : Int
  messagesSent : Int
  avgLatencyMs : PyFloat
  restarts : Int
  errors : Int
  tokensIn : Int
  tokensOut : Int
  costUsd : PyFloat
  lastModel : String

/-- `RestartEvent`. -/
structure RestartEvent where
  agentName : String
  timestamp : PyFloat
  reason : String

/-- `RuntimeSnapshot`. -/
structure RuntimeSnapshot where
  agents : List (String × AgentMetrics)
  totalMessages : Int
  totalCostUsd : PyFloat
  uptimeSeconds : PyFloat
  restartHistory : List RestartEvent

/-- What `sample_process` returns. -/
structure ProcessSample where
  pid : Int
  cpuPercent : PyFloat
  rssBytes : Int
  uptimeSeconds : PyFloat
  containerized : Bool
  orchestrator : Option String

/-- How a health probe ends; a `Message` has a payload that JSON can write. -/
inductive Probe where
  | failed
  | acknowledged (payload : Value) (json : payload.jsonable = true)

/-- The topology agent and what it looks at. -/
structure Introspection where
  name : String
  rootSupervisor : Option TreeNode
  /-- `_agents`. -/
  agents : List (String × AgentRecord)
  /-- The health channels of the registry's entries, by name. -/
  channels : List (String × String)
  metrics : Option RuntimeSnapshot
  sample : Option ProcessSample
  /-- `_bus` is set. -/
  wired : Bool
  probe : String → Probe
  transportClass : String
  /-- `json.dumps`. -/
  dumps : Value → String
  /-- `render_prometheus_metrics`. -/
  renderPrometheus : RuntimeSnapshot → String

/-! ## Views -/

/-- A count that may be missing. -/
def countOrNone : Option Int → Value
  | some count => .int count
  | none => .none

/-- `_raw_json`; `none` when `json.dumps` raises. -/
def Introspection.rawJson
    (here : Introspection) (data : Value) (status : Int) : Option Dict :=
  if data.jsonable then
    some
      (dictOf
        [("__raw_body__", .str (here.dumps data)),
          ("__content_type__", .str "application/json"),
          ("__status__", .int status)])
  else none

/-- `_process_id_for`. -/
def Introspection.processIdFor
    (here : Introspection) (name : String) : String :=
  match here.channels.lookup name with
  | none => here.name
  | some channel => if channel = "" then here.name else channel

/-- The entries that every view of an agent ends with. -/
def Introspection.agentFields
    (here : Introspection) (name : String) (record : AgentRecord) :
    List (String × Value) :=
  [("process_id", .str (here.processIdFor name)),
    ("capabilities", .list record.capabilities),
    ("capability_metadata", .dict record.capabilityMetadata),
    ("uptime_seconds", .float record.uptimeSeconds),
    ("session_turn_count", .int record.sessionTurnCount),
    ("session_duration_seconds", .float record.sessionDurationSeconds),
    ("suspend_category", .str record.suspendCategory)]

/-- An agent in the view of the tree. -/
def Introspection.serializeAgent
    (here : Introspection) (name : String) (record : AgentRecord)
    (restartCount : Int) : Value :=
  .dict (dictOf
    ([("name", .str name), ("type", .str "agent"),
        ("status", .str record.status),
        ("restart_count", .int restartCount)] ++
      here.agentFields name record))

mutual

/-- `_serialize_node`. -/
def Introspection.serializeNode
    (here : Introspection) (restartCount : Int) : TreeNode → Value
  | .agent name record => here.serializeAgent name record restartCount
  | .dynamicSupervisor name status maxChildren maxTotalSpawns children
      restarts =>
      .dict (dictOf
        [("name", .str name), ("type", .str "dynamic_supervisor"),
          ("status", .str status), ("restart_count", .int restartCount),
          ("process_id", .str (here.processIdFor name)),
          ("max_children", countOrNone maxChildren),
          ("max_total_spawns", countOrNone maxTotalSpawns),
          ("live_count", .int children.length),
          ("children",
            .list (children.map fun child =>
              here.serializeAgent child.1 child.2 (restarts child.1)))])
  | .supervisor name strategy crashesInWindow children restarts =>
      .dict (dictOf
        [("name", .str name), ("type", .str "supervisor"),
          ("strategy", .str strategy), ("restart_count", .int restartCount),
          ("crashes_in_window", .int crashesInWindow),
          ("process_id", .str here.name),
          ("children", .list (here.serializeNodes restarts children))])

/-- The children of a supervisor, each with its restart count. -/
def Introspection.serializeNodes
    (here : Introspection) (restarts : String → Int) :
    List TreeNode → List Value
  | [] => []
  | node :: rest =>
      here.serializeNode (restarts node.name) node ::
        here.serializeNodes restarts rest

end

/-- `_build_topology`. -/
def Introspection.buildTopology (here : Introspection) : Value :=
  match here.rootSupervisor with
  | none => .dict (dictOf [("error", .str "runtime not available")])
  | some root => here.serializeNode 0 root

mutual

/-- `_collect_dynamic_children`, with the restart count of each child. -/
def collectDynamicChildren :
    TreeNode → List (String × AgentRecord × Int)
  | .agent _ _ => []
  | .dynamicSupervisor _ _ _ _ children restarts =>
      children.map fun child => (child.1, child.2, restarts child.1)
  | .supervisor _ _ _ children _ => collectFromNodes children

/-- The dynamic children below a supervisor's children. -/
def collectFromNodes : List TreeNode → List (String × AgentRecord × Int)
  | [] => []
  | node :: rest => collectDynamicChildren node ++ collectFromNodes rest

end

/-- The dynamic children of the whole tree. -/
def Introspection.dynamicChildren
    (here : Introspection) : List (String × AgentRecord × Int) :=
  match here.rootSupervisor with
  | none => []
  | some root => collectDynamicChildren root

/-- An agent in a list of agents, or on its own. -/
def Introspection.describeAgent
    (here : Introspection) (name : String) (record : AgentRecord) : Value :=
  .dict (dictOf
    ([("name", .str name), ("status", .str record.status)] ++
      here.agentFields name record))

/-- A dynamic child in the list of agents. -/
def Introspection.describeChild
    (here : Introspection) (child : String × AgentRecord × Int) : Value :=
  .dict (dictOf
    ([("name", .str child.1), ("status", .str child.2.1.status),
        ("restart_count", .int child.2.2)] ++
      here.agentFields child.1 child.2.1))

/-- `_build_agents_list`. -/
def Introspection.buildAgentsList (here : Introspection) : Value :=
  .list
    ((here.agents.map fun agent => here.describeAgent agent.1 agent.2) ++
      here.dynamicChildren.map here.describeChild)

mutual

/-- `_search_tree`. -/
def searchTree (name : String) : TreeNode → Option AgentRecord
  | .agent _ _ => none
  | .dynamicSupervisor _ _ _ _ children _ => children.lookup name
  | .supervisor _ _ _ children _ => searchNodes name children

/-- The first child of a supervisor below which the name is found. -/
def searchNodes (name : String) : List TreeNode → Option AgentRecord
  | [] => none
  | node :: rest => (searchTree name node).or (searchNodes name rest)

end

/-- `_find_dynamic_agent`. -/
def Introspection.findDynamicAgent
    (here : Introspection) (name : String) : Option AgentRecord :=
  here.rootSupervisor.bind (searchTree name)

/-- The agent of a name, static or dynamic. -/
def Introspection.findAgent
    (here : Introspection) (name : String) : Option AgentRecord :=
  (here.agents.lookup name).or (here.findDynamicAgent name)

/-- `_build_agent_detail`. -/
def Introspection.buildAgentDetail
    (here : Introspection) (name : String) : Option Value :=
  (here.findAgent name).map (here.describeAgent name)

/-- The view of an agent's metrics. -/
def AgentMetrics.view (metrics : AgentMetrics) : Value :=
  .dict (dictOf
    [("messages_handled", .int metrics.messagesHandled),
      ("messages_sent", .int metrics.messagesSent),
      ("avg_latency_ms", .float metrics.avgLatencyMs),
      ("restarts", .int metrics.restarts),
      ("errors", .int metrics.errors),
      ("tokens_in", .int metrics.tokensIn),
      ("tokens_out", .int metrics.tokensOut),
      ("cost_usd", .float metrics.costUsd),
      ("last_model", .str metrics.lastModel)])

/-- The view of a restart. -/
def RestartEvent.view (event : RestartEvent) : Value :=
  .dict (dictOf
    [("agent_name", .str event.agentName),
      ("timestamp", .float event.timestamp),
      ("reason", .str event.reason)])

/-- `_build_metrics`. -/
def Introspection.buildMetrics (here : Introspection) : Value × Int :=
  match here.metrics with
  | none => (.dict (dictOf [("error", .str "metrics not available")]), 404)
  | some snapshot =>
      (.dict (dictOf
        [("agents",
            .dict (dictOf
              (snapshot.agents.map fun agent => (agent.1, agent.2.view)))),
          ("total_messages", .int snapshot.totalMessages),
          ("total_cost_usd", .float snapshot.totalCostUsd),
          ("uptime_seconds", .float snapshot.uptimeSeconds),
          ("restart_history",
            .list (snapshot.restartHistory.map RestartEvent.view))]), 200)

/-- `_build_prometheus_metrics`. -/
def Introspection.buildPrometheusMetrics
    (here : Introspection) : String × Int × String :=
  (match here.metrics with
    | none => ""
    | some snapshot => here.renderPrometheus snapshot,
    200, "text/plain; version=0.0.4; charset=utf-8")

/-- The view of a process sample. -/
def ProcessSample.entries (sample : ProcessSample) : Dict :=
  dictOf
    [("pid", .int sample.pid), ("cpu_percent", .float sample.cpuPercent),
      ("rss_bytes", .int sample.rssBytes),
      ("uptime_seconds", .float sample.uptimeSeconds),
      ("container",
        .dict (dictOf
          [("containerized", .bool sample.containerized),
            ("orchestrator",
              match sample.orchestrator with
              | some name => .str name
              | none => .none)]))]

/-- `_distinct_health_channels`. -/
def Introspection.distinctHealthChannels
    (here : Introspection) : List String :=
  ((here.channels.map (·.2)).filter (· ≠ "")).dedup

/--
The row of a worker that has acknowledged a probe.  The outer `none` is an
exception: the payload is no dictionary, or its `process` cannot be unpacked.
-/
def acknowledgedRow (channel : String) (payload : Value) :
    Option (Option Value) :=
  match payload with
  | .dict entries =>
      match field? entries "process" with
      | none | some .none => some none
      | some (.dict sample) =>
          some (some (.dict
            (merge
              (dictOf [("kind", .str "worker"), ("id", .str channel)])
              sample)))
      | some _ => none
  | _ => none

/-- `_probe_worker_process`, and its row in `_build_processes`. -/
def Introspection.workerRow
    (here : Introspection) (channel : String) : Option (Option Value) :=
  if !here.wired then some none
  else
    match here.probe channel with
    | .failed => some none
    | .acknowledged payload _ => acknowledgedRow channel payload

/-- The rows of all workers; `none` when one of them raises. -/
def Introspection.workerRows
    (here : Introspection) : List String → Option (List Value)
  | [] => some []
  | channel :: rest =>
      match here.workerRow channel with
      | none => none
      | some row => (here.workerRows rest).map (row.toList ++ ·)

/-- `_deployment_shape`. -/
def Introspection.deploymentShape (here : Introspection) : Value :=
  let shape :=
    if !here.wired then ("unknown", "unknown")
    else if here.transportClass = "InProcessTransport"
    then ("in_process", "single_process")
    else if here.transportClass = "ZMQTransport"
    then ("zmq", "multi_process")
    else if here.transportClass = "NATSTransport"
    then ("nats", "distributed")
    else ("unknown", "unknown")
  .dict (dictOf [("transport", .str shape.1), ("mode", .str shape.2)])

/-- `_build_processes`; `none` when it raises. -/
def Introspection.buildProcesses (here : Introspection) : Option Value :=
  let own :=
    here.sample.toList.map fun sample =>
      Value.dict
        (merge
          (dictOf [("kind", .str "runtime"), ("id", .str here.name)])
          sample.entries)
  (here.workerRows here.distinctHealthChannels).map fun rows =>
    .dict (dictOf
      [("deployment", here.deploymentShape),
        ("processes", .list (own ++ rows))])

/-- The metadata of a waiting message. -/
def Waiting.view (message : Waiting) : Value :=
  .dict (dictOf
    [("id", message.id), ("type", message.type),
      ("sender", message.sender), ("recipient", message.recipient),
      ("priority", message.priority), ("timestamp", message.timestamp)])

/-- `_op_mailbox_peek` for a name. -/
def Introspection.opMailboxPeek
    (here : Introspection) (name : String) : Option Dict :=
  match here.findAgent name with
  | none =>
      here.rawJson
        (.dict (dictOf
          [("error",
            .str ("agent '" ++ name ++
              "' not found (or not in this process)"))]))
        404
  | some record =>
      here.rawJson
        (.dict (dictOf
          [("agent", .str name), ("depth", .int record.mailbox.length),
            ("messages", .list (record.mailbox.map Waiting.view))]))
        200

section Equations

-- The equations of `Value.jsonable` are derived here, for all that unfold it.
attribute [local simp] Value.jsonable

end Equations

/-! ## Which views are JSON -/

theorem jsonable_list (items : List Value) :
    (Value.list items).jsonable = items.all Value.jsonable := by
  induction items with
  | nil => rfl
  | cons item rest ih =>
      rw [List.all_cons, ← ih]
      rfl

theorem jsonable_dictOf (entries : List (String × Value)) :
    (Value.dict (dictOf entries)).jsonable =
      entries.all fun entry => entry.2.jsonable := by
  induction entries with
  | nil => rfl
  | cons entry rest ih =>
      rw [List.all_cons, ← ih]
      rfl

theorem jsonable_merge {left right : Dict}
    (first : (Value.dict left).jsonable = true)
    (second : (Value.dict right).jsonable = true) :
    (Value.dict (merge left right)).jsonable = true := by
  unfold merge
  induction right with
  | nil => exact first
  | cons entry rest ih =>
      rcases entry with ⟨key, value⟩
      cases key with
      | str text =>
          change (value.jsonable && _) = true at second
          change (value.jsonable && _) = true
          rw [Bool.and_eq_true] at second ⊢
          exact ⟨second.1, ih second.2⟩
      | bytes data => contradiction

/-- The value of an entry of a JSON object is JSON. -/
theorem jsonable_of_field? {entries : Dict} {name : String} {value : Value}
    (json : (Value.dict entries).jsonable = true)
    (found : field? entries name = some value) :
    value.jsonable = true := by
  unfold field? at found
  induction entries with
  | nil => contradiction
  | cons entry rest ih =>
      rcases entry with ⟨key, other⟩
      cases key with
      | bytes data => contradiction
      | str text =>
          change (other.jsonable && _) = true at json
          rw [Bool.and_eq_true] at json
          rw [List.lookup_cons] at found
          split at found
          · rw [← Option.some.inj found]
            exact json.1
          · exact ih json.2 found

/-- What an application declares about an agent is JSON. -/
def AgentRecord.json (record : AgentRecord) : Bool :=
  (Value.list record.capabilities).jsonable &&
    (Value.dict record.capabilityMetadata).jsonable

/-- The metadata of a waiting message is JSON. -/
def Waiting.json (message : Waiting) : Bool :=
  message.id.jsonable && message.type.jsonable &&
    message.sender.jsonable && message.recipient.jsonable &&
      message.priority.jsonable && message.timestamp.jsonable

mutual

/-- The agents of a tree declare JSON. -/
def TreeNode.json : TreeNode → Bool
  | .agent _ record => record.json
  | .dynamicSupervisor _ _ _ _ children _ =>
      children.all fun child => child.2.json
  | .supervisor _ _ _ children _ => jsonNodes children

/-- The agents below all children of a supervisor declare JSON. -/
def jsonNodes : List TreeNode → Bool
  | [] => true
  | node :: rest => node.json && jsonNodes rest

end

section Views

variable (here : Introspection)

theorem jsonable_agentFields (name : String) (record : AgentRecord) :
    ((here.agentFields name record).all fun entry => entry.2.jsonable) =
      record.json := by
  simp [Introspection.agentFields, AgentRecord.json, Value.jsonable]

theorem jsonable_serializeAgent
    (name : String) (record : AgentRecord) (restartCount : Int) :
    (here.serializeAgent name record restartCount).jsonable =
      record.json := by
  rw [Introspection.serializeAgent, jsonable_dictOf, List.all_append,
    jsonable_agentFields]
  simp [Value.jsonable]

theorem jsonable_describeAgent (name : String) (record : AgentRecord) :
    (here.describeAgent name record).jsonable = record.json := by
  rw [Introspection.describeAgent, jsonable_dictOf, List.all_append,
    jsonable_agentFields]
  simp [Value.jsonable]

theorem jsonable_describeChild (child : String × AgentRecord × Int) :
    (here.describeChild child).jsonable = child.2.1.json := by
  rw [Introspection.describeChild, jsonable_dictOf, List.all_append,
    jsonable_agentFields]
  simp [Value.jsonable]

theorem jsonable_countOrNone (count : Option Int) :
    (countOrNone count).jsonable = true := by
  cases count with
  | none => rfl
  | some count => rfl

mutual

/-- The view of a node is JSON if its agents declare JSON. -/
theorem jsonable_serializeNode (restartCount : Int) :
    (node : TreeNode) →
      (here.serializeNode restartCount node).jsonable = node.json
  | .agent name record => by
      rw [Introspection.serializeNode, TreeNode.json]
      exact jsonable_serializeAgent here name record restartCount
  | .dynamicSupervisor name status maxChildren maxTotalSpawns children
      restarts => by
      rw [Introspection.serializeNode, TreeNode.json, jsonable_dictOf]
      have rows :
          (Value.list (children.map fun child =>
            here.serializeAgent child.1 child.2 (restarts child.1))).jsonable =
            children.all fun child => child.2.json := by
        rw [jsonable_list, List.all_map]
        exact congrArg children.all
          (funext fun child => jsonable_serializeAgent here _ _ _)
      simp only [List.all_cons, List.all_nil, rows, jsonable_countOrNone]
      simp [Value.jsonable]
  | .supervisor name strategy crashesInWindow children restarts => by
      rw [Introspection.serializeNode, TreeNode.json, jsonable_dictOf]
      have rows := jsonable_serializeNodes restarts children
      simp only [List.all_cons, List.all_nil, jsonable_list, rows]
      simp [Value.jsonable]

theorem jsonable_serializeNodes (restarts : String → Int) :
    (nodes : List TreeNode) →
      (here.serializeNodes restarts nodes).all Value.jsonable =
        jsonNodes nodes
  | [] => by
      rw [Introspection.serializeNodes, jsonNodes, List.all_nil]
  | node :: rest => by
      rw [Introspection.serializeNodes, jsonNodes, List.all_cons,
        jsonable_serializeNode (restarts node.name) node,
        jsonable_serializeNodes restarts rest]

end

/-- What the view of the tree shows is JSON. -/
def Introspection.topologyJson : Bool :=
  match here.rootSupervisor with
  | none => true
  | some root => root.json

theorem jsonable_buildTopology :
    here.buildTopology.jsonable = here.topologyJson := by
  unfold Introspection.buildTopology Introspection.topologyJson
  cases here.rootSupervisor with
  | none => rfl
  | some root => exact jsonable_serializeNode here 0 root

/-- What the list of agents shows is JSON. -/
def Introspection.agentsJson : Bool :=
  (here.agents.all fun agent => agent.2.json) &&
    here.dynamicChildren.all fun child => child.2.1.json

theorem jsonable_buildAgentsList :
    here.buildAgentsList.jsonable = here.agentsJson := by
  rw [Introspection.buildAgentsList, Introspection.agentsJson, jsonable_list,
    List.all_append, List.all_map, List.all_map]
  congr 1
  · exact congrArg here.agents.all
      (funext fun agent => jsonable_describeAgent here _ _)
  · exact congrArg here.dynamicChildren.all
      (funext fun child => jsonable_describeChild here child)

/-- The metrics are always JSON. -/
theorem jsonable_buildMetrics : here.buildMetrics.1.jsonable = true := by
  unfold Introspection.buildMetrics
  cases here.metrics with
  | none => rfl
  | some snapshot =>
      have agents :
          (Value.dict (dictOf (snapshot.agents.map fun agent =>
            (agent.1, agent.2.view)))).jsonable = true := by
        rw [jsonable_dictOf, List.all_map, List.all_eq_true]
        exact fun agent _ => rfl
      have restarts :
          (Value.list
            (snapshot.restartHistory.map RestartEvent.view)).jsonable =
              true := by
        rw [jsonable_list, List.all_map, List.all_eq_true]
        exact fun event _ => rfl
      rw [jsonable_dictOf]
      simp only [List.all_cons, List.all_nil, agents, restarts]
      simp [Value.jsonable]

theorem jsonable_waiting (message : Waiting) :
    message.view.jsonable = message.json := by
  rw [Waiting.view, jsonable_dictOf]
  simp [Waiting.json, Bool.and_assoc]

/-- The payload and the sample in it, if any, are dictionaries. -/
def ReadableAck (payload : Value) : Prop :=
  ∃ entries, payload = .dict entries ∧
    ∀ sample, field? entries "process" = some sample →
      sample = .none ∨ ∃ process, sample = .dict process

theorem acknowledgedRow_isSome_iff (channel : String) (payload : Value) :
    (acknowledgedRow channel payload).isSome = true ↔
      ReadableAck payload := by
  unfold acknowledgedRow ReadableAck
  cases payload with
  | dict entries =>
      cases found : field? entries "process" with
      | none => simp [found]
      | some sample => cases sample <;> simp [found]
  | _ => simp

theorem jsonable_acknowledgedRow
    {channel : String} {payload row : Value}
    (json : payload.jsonable = true)
    (made : acknowledgedRow channel payload = some (some row)) :
    row.jsonable = true := by
  unfold acknowledgedRow at made
  split at made
  · next entries =>
      split at made
      · cases made
      · cases made
      · next sample found =>
          cases made
          exact jsonable_merge rfl (jsonable_of_field? json found)
      · cases made
  · cases made

/-- A worker does not acknowledge a probe, or does so readably. -/
def Introspection.WorkerReplies (channel : String) : Prop :=
  here.wired = true → ∀ payload json,
    here.probe channel = .acknowledged payload json → ReadableAck payload

/-- A row is made of every worker that replies, and it is JSON. -/
theorem workerRow_isSome_iff (channel : String) :
    (here.workerRow channel).isSome = true ↔ here.WorkerReplies channel := by
  unfold Introspection.workerRow Introspection.WorkerReplies
  cases here.wired with
  | false => simp
  | true =>
      cases here.probe channel with
      | failed => simp
      | acknowledged payload json =>
          simp only [Bool.not_true, Bool.false_eq_true, if_false,
            acknowledgedRow_isSome_iff, Probe.acknowledged.injEq]
          constructor
          · rintro readable _ other _ rfl
            exact readable
          · exact fun replies => replies trivial payload json rfl

theorem jsonable_workerRow
    {channel : String} {row : Value}
    (made : here.workerRow channel = some (some row)) :
    row.jsonable = true := by
  unfold Introspection.workerRow at made
  split at made
  · cases made
  · split at made
    · cases made
    · next payload json _ => exact jsonable_acknowledgedRow json made

theorem workerRows_isSome_iff (channels : List String) :
    (here.workerRows channels).isSome = true ↔
      ∀ channel ∈ channels, here.WorkerReplies channel := by
  induction channels with
  | nil => simp [Introspection.workerRows]
  | cons channel rest ih =>
      rw [List.forall_mem_cons, ← ih, ← workerRow_isSome_iff,
        Introspection.workerRows]
      cases here.workerRow channel with
      | none => simp
      | some row => simp

theorem jsonable_workerRows
    {channels : List String} {rows : List Value}
    (made : here.workerRows channels = some rows) :
    rows.all Value.jsonable = true := by
  induction channels generalizing rows with
  | nil =>
      rw [← Option.some.inj made]
      rfl
  | cons channel rest ih =>
      rw [Introspection.workerRows] at made
      cases first : here.workerRow channel with
      | none =>
          rw [first] at made
          contradiction
      | some row =>
          rw [first] at made
          rcases Option.map_eq_some_iff.mp made with ⟨others, later, same⟩
          rw [← same, List.all_append, ih later, Bool.and_true]
          cases row with
          | none => rfl
          | some value =>
              simpa using jsonable_workerRow here first

theorem jsonable_deploymentShape : here.deploymentShape.jsonable = true := by
  rw [Introspection.deploymentShape, jsonable_dictOf]
  rfl

/-- The processes are collected if all workers reply, and are JSON. -/
theorem buildProcesses_isSome_iff :
    here.buildProcesses.isSome = true ↔
      ∀ channel ∈ here.distinctHealthChannels,
        here.WorkerReplies channel := by
  rw [← workerRows_isSome_iff, Introspection.buildProcesses,
    Option.isSome_map]

theorem jsonable_buildProcesses {view : Value}
    (made : here.buildProcesses = some view) :
    view.jsonable = true := by
  rcases Option.map_eq_some_iff.mp made with ⟨rows, collected, same⟩
  have workers := jsonable_workerRows here collected
  have own :
      (here.sample.toList.map fun sample =>
        Value.dict
          (merge
            (dictOf [("kind", .str "runtime"), ("id", .str here.name)])
            sample.entries)).all Value.jsonable = true := by
    rw [List.all_map, List.all_eq_true]
    intro sample _
    refine jsonable_merge rfl ?_
    rw [ProcessSample.entries, jsonable_dictOf]
    cases sample.orchestrator <;> rfl
  rw [← same, jsonable_dictOf]
  simp only [List.all_cons, List.all_nil, jsonable_deploymentShape,
    jsonable_list, List.all_append, own, workers]
  rfl

/-- Encoding succeeds on JSON. -/
theorem rawJson_isSome_iff (data : Value) (status : Int) :
    (here.rawJson data status).isSome = data.jsonable := by
  unfold Introspection.rawJson
  cases data.jsonable with
  | true => rfl
  | false => rfl

/-- A mailbox can be shown if the metadata of its messages is JSON. -/
theorem opMailboxPeek_isSome_iff (name : String) :
    (here.opMailboxPeek name).isSome = true ↔
      ∀ record, here.findAgent name = some record →
        record.mailbox.all Waiting.json = true := by
  unfold Introspection.opMailboxPeek
  cases here.findAgent name with
  | none =>
      refine iff_of_true ?_ (by simp)
      rw [rawJson_isSome_iff]
      rfl
  | some record =>
      have messages :
          (Value.list (record.mailbox.map Waiting.view)).jsonable =
            record.mailbox.all Waiting.json := by
        rw [jsonable_list, List.all_map]
        exact congrArg record.mailbox.all (funext jsonable_waiting)
      dsimp only
      rw [rawJson_isSome_iff, jsonable_dictOf]
      simp only [List.all_cons, List.all_nil, messages]
      simp [Value.jsonable]

end Views

end Civitas.Gateway
