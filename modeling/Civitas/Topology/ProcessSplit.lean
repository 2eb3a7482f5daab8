import Civitas.Topology.Config

/-!
# Splitting a topology over processes

`Runtime.from_config_dict` of `runtime.py` builds the nodes of a topology file
that its `process_filter` lets through, after the variables of the file have
been substituted.  `_find_process_agents` and `_build_worker_agent` of
`cli/run.py` build the nodes of one process from the file as it stands.

The two walks visit the same leaves.  They differ in how they compare the
`process` tag, in the kinds of nodes they know and in the options they pass
on.  This module says what each of them makes of every leaf.
-/

namespace Civitas.Topology

/-! ## Constructor calls -/

/-- What the two walks use of the interpreter and of other modules. -/
structure Python where
  /-- `str()`. -/
  str : Yaml → String
  str_str : ∀ text, str (.str text) = text
  /-- `float()`; `none` when it raises. -/
  float : Yaml → Option Yaml
  /-- `str.upper`. -/
  upper : String → String
  Class : Type
  /-- The class at a dotted path; `none` when it cannot be loaded. -/
  importClass : String → Option Class
  /-- `_build_exporters`; `none` when it raises. -/
  exporters : Yaml → Option Yaml

/-- The class of a process. -/
inductive BuiltClass (Class : Type) where
  | topologyAgent
  | httpGateway
  | dynamicSupervisor
  | evalAgent
  | imported (cls : Class)

/-- A process, by its class and the arguments of its constructor. -/
structure Built (Class : Type) where
  cls : BuiltClass Class
  arguments : Dict

/-- A constructor argument: its name, the key it is read from, its default. -/
structure OptionRow where
  parameter : String
  key : String
  default : Yaml

/-- Read a table of options. -/
def readOptions (table : List OptionRow) (entries : Dict) : Dict :=
  table.map fun row =>
    (row.parameter, Dict.getOr entries row.key row.default)

/-- An argument named after its key. -/
def OptionRow.same (key : String) (default : Yaml) : OptionRow where
  parameter := key
  key := key
  default := default

/-- `60.0`. -/
def sixty : Yaml :=
  .float ⟨0x404e000000000000#64, by decide⟩

/-- `30.0`. -/
def thirty : Yaml :=
  .float ⟨0x403e000000000000#64, by decide⟩

/-- `1.0`. -/
def one : Yaml :=
  .float ⟨0x3ff0000000000000#64, by decide⟩

/-- The quotas and restart options that both walks pass on. -/
def sharedDynamicOptions : List OptionRow :=
  [.same "max_children" .null, .same "max_total_spawns" .null,
    .same "restart" (.str "transient"), .same "max_restarts" (.int 3),
    .same "restart_window" sixty]

/-- The quotas of each spawner. -/
def spawnerOptions : List OptionRow :=
  [.same "max_children_per_spawner" .null,
    .same "max_total_spawns_per_spawner" .null]

/-- The options of an `EvalAgent` that have defaults. -/
def evalOptions : List OptionRow :=
  [.same "max_corrections_per_window" (.int 10),
    .same "window_seconds" sixty]

/-- `GatewayConfig` of an `http_gateway` node, from its `config`. -/
def gatewayOptions : List OptionRow :=
  [.same "host" (.str "0.0.0.0"), .same "port" (.int 8080),
    .same "port_quic" .null, .same "tls_cert" .null, .same "tls_key" .null,
    .same "request_timeout" thirty, .same "enable_http3" (.bool false),
    .same "routes" (.list []), .same "middleware" (.list []),
    .same "topology_agent" .null, .same "topology_prefix" (.str ""),
    .same "topology_middleware" (.list [])]

/-- Its documentation options, from `config["docs"]`. -/
def docsOptions : List OptionRow :=
  [{ parameter := "docs_enabled", key := "enabled", default := .null },
    { parameter := "docs_path", key := "path", default := .str "/docs" }]

/-- `GatewayConfig` of a `topology_server` node, from its `config`. -/
def topologyOptions : List OptionRow :=
  [.same "host" (.str "127.0.0.1"), .same "port" (.int 6789),
    .same "tls_cert" .null, .same "tls_key" .null,
    { parameter := "topology_prefix", key := "prefix",
      default := .str "" }]

/-- The options of a `Supervisor` that are not texts. -/
def supervisorOptions : List OptionRow :=
  [.same "max_restarts" (.int 3), .same "restart_window" sixty,
    .same "backoff_base" one, .same "backoff_max" sixty]

/-- A value that has to be a dictionary. -/
def asDict : Yaml → Option Dict
  | .dict entries => some entries
  | _ => none

/-- `first or second`. -/
def Yaml.orElse (first second : Yaml) : Yaml :=
  if first.truthy then first else second

/--
The values of `GatewayAuthConfig.from_dict`; `none` when it raises.  The frozen
set of networks stands as a list.
-/
def gatewayAuth (block : Yaml) : Option Dict := do
  let entries ← asDict block
  let mtls ← asDict (Dict.getOr entries "mtls" (.dict []))
  let cidrs ← (Dict.getOr mtls "trusted_proxy_cidrs" (.list [])).iterate
  if cidrs.all Yaml.hashable then
    return [("tls_ca_cert",
        (Dict.getOr mtls "ca_cert" .null).orElse
          (Dict.getOr mtls "tls_ca_cert" .null)),
      ("client_cert_mode", Dict.getOr mtls "client_cert_mode" (.str "none")),
      ("mtls_source", Dict.getOr mtls "mtls_source" (.str "direct")),
      ("trusted_proxy_cidrs", .list cidrs)]
  else
    none

/-! ## Leaves -/

/-- `entries.get("type") == kind`. -/
def isType (entries : Dict) (kind : String) : Bool :=
  match Dict.get entries "type" with
  | some (.str text) => text = kind
  | _ => false

/-- `key in entries`. -/
def hasKey (entries : Dict) (key : String) : Bool :=
  (Dict.get entries key).isSome

/-- The branch of `_build_node` that a leaf takes. -/
inductive Kind where
  | topologyServer
  | dynamicSupervisor
  | evalAgent
  | httpGateway
  | agent (config : Dict)
  | genServer
  | flat
  | unknown

/-- The tests of `_build_node`, in order. -/
def kindOf (leaf : Leaf) : Kind :=
  if isType leaf.entries "topology_server" then .topologyServer
  else if isType leaf.entries "dynamic_supervisor" && hasKey leaf.entries "name"
  then .dynamicSupervisor
  else if isType leaf.entries "eval_agent" && hasKey leaf.entries "name"
  then .evalAgent
  else if isType leaf.entries "http_gateway" && hasKey leaf.entries "name"
  then .httpGateway
  else
    match leaf.agent with
    | some config => .agent config
    | none =>
        if (isType leaf.entries "gen_server" || isType leaf.entries "agent") &&
            hasKey leaf.entries "module" && hasKey leaf.entries "class"
        then .genServer
        else if hasKey leaf.entries "type" && hasKey leaf.entries "name"
        then .flat
        else .unknown

section Leaves

variable (python : Python)

/-- `_resolve_class`, and `_resolve_agent_class` of the worker. -/
def resolveClass : Yaml → Option python.Class
  | .str path => python.importClass path
  | _ => none

/-- The single process of most leaves. -/
def single (cls : BuiltClass python.Class) (arguments : Dict) :
    List (Built python.Class) :=
  [{ cls := cls, arguments := arguments }]

/-- The `TopologyAgent` of a node and, unless it is attached, its gateway. -/
def buildTopologyServer (entries : Dict) :
    Option (List (Built python.Class)) := do
  let config ← asDict (Dict.getOr entries "config" (.dict []))
  let name := Dict.getOr entries "name" (.str "topology_server")
  let agent : Built python.Class :=
    { cls := .topologyAgent, arguments := [("name", name)] }
  if (Dict.getOr config "attach_to" .null).truthy then
    return [agent]
  else
    let authBlock := Dict.getOr config "auth" (.dict [])
    let auth ← gatewayAuth authBlock
    let block ← asDict authBlock
    let gateway : Built python.Class :=
      { cls := .httpGateway
        arguments :=
          [("name", .str (python.str name ++ "_gateway"))] ++
            readOptions topologyOptions config ++ auth ++
            [("topology_agent", name),
              ("topology_middleware",
                Dict.getOr block "middleware" (.list [])),
              ("docs_enabled", .bool false)] }
    return [agent, gateway]

/-- The `EvalAgent` of a node. -/
def buildEvalAgent (entries : Dict) :
    Option (List (Built python.Class)) := do
  let name ← Dict.get entries "name"
  let exporters ←
    python.exporters (Dict.getOr entries "exporters" (.list []))
  return single python .evalAgent
    ([("name", name)] ++ readOptions evalOptions entries ++
      [("exporters", exporters)])

/-- The `HTTPGateway` of a node. -/
def buildHttpGateway (entries : Dict) :
    Option (List (Built python.Class)) := do
  let name ← Dict.get entries "name"
  let config ← asDict (Dict.getOr entries "config" (.dict []))
  let auth ← gatewayAuth (Dict.getOr config "auth" (.dict []))
  let docs ← asDict (Dict.getOr config "docs" (.dict []))
  return single python .httpGateway
    ([("name", name)] ++ readOptions gatewayOptions config ++ auth ++
      readOptions docsOptions docs)

/-- The `DynamicSupervisor` of a node. -/
def buildDynamicSupervisor (entries : Dict) :
    Option (List (Built python.Class)) := do
  let name ← Dict.get entries "name"
  return single python .dynamicSupervisor
    ([("name", name)] ++ readOptions sharedDynamicOptions entries ++
      readOptions spawnerOptions entries)

/-- The watchdog, passed only when it is configured. -/
def timeoutArgument (config : Dict) : Option Dict :=
  match Dict.get config "handle_timeout" with
  | none => some []
  | some value =>
      (python.float value).map fun seconds => [("handle_timeout", seconds)]

/-- The agent of an `agent` mapping. -/
def buildAgent (config : Dict) : Option (List (Built python.Class)) := do
  let path ← Dict.get config "type"
  let cls ← resolveClass python path
  let name ← Dict.get config "name"
  let timeout ← timeoutArgument python config
  return single python (.imported cls) ([("name", name)] ++ timeout)

/-- The process of a node with `module` and `class`. -/
def buildGenServer (entries : Dict) :
    Option (List (Built python.Class)) := do
  let module ← Dict.get entries "module"
  let name ← Dict.get entries "class"
  let cls ←
    python.importClass (python.str module ++ "." ++ python.str name)
  let own ← Dict.get entries "name"
  return single python (.imported cls) [("name", own)]

/-- The process of a node whose `type` is a dotted path. -/
def buildFlat (entries : Dict) : Option (List (Built python.Class)) := do
  let path ← Dict.get entries "type"
  let cls ← resolveClass python path
  let name ← Dict.get entries "name"
  return single python (.imported cls) [("name", name)]

/-- `_build_node` on a leaf; `none` when it raises. -/
def buildLeaf (leaf : Leaf) : Option (List (Built python.Class)) :=
  match kindOf leaf with
  | .topologyServer => buildTopologyServer python leaf.entries
  | .dynamicSupervisor => buildDynamicSupervisor python leaf.entries
  | .evalAgent => buildEvalAgent python leaf.entries
  | .httpGateway => buildHttpGateway python leaf.entries
  | .agent config => buildAgent python config
  | .genServer => buildGenServer python leaf.entries
  | .flat => buildFlat python leaf.entries
  | .unknown => none

/-- The value of the `process` key, wherever the node has it. -/
def processOf (leaf : Leaf) : Option Yaml :=
  match leaf.agent with
  | some config => Dict.get config "process"
  | none => Dict.get leaf.entries "process"

/-- `_node_process_tag`. -/
def tagOf (leaf : Leaf) : Option String :=
  match processOf leaf with
  | none => none
  | some .null => none
  | some value => some (python.str value)

end Leaves

/-! ## Trees -/

/-- `process_filter`. -/
inductive Filter where
  /-- `"*"`. -/
  | all
  /-- `None`. -/
  | untagged
  | named (tag : String)

/-- The processes of one leaf. -/
structure Placed (Class : Type) where
  label : Nat
  processes : List (Built Class)

/-- A built node. -/
inductive BuiltNode (Class : Type) where
  | supervisor (arguments : Dict) (children : List (BuiltNode Class))
  | leaf (placed : Placed Class)

mutual

/-- The leaves of a built tree. -/
def BuiltNode.placed {Class : Type} : BuiltNode Class → List (Placed Class)
  | .supervisor _ children => placedOf children
  | .leaf placed => [placed]

/-- The leaves of some built trees. -/
def placedOf {Class : Type} : List (BuiltNode Class) → List (Placed Class)
  | [] => []
  | node :: rest => BuiltNode.placed node ++ placedOf rest

end

section Trees

variable (python : Python)

/-- `_node_belongs_to`. -/
def belongsTo (filter : Filter) (leaf : Leaf) : Bool :=
  match filter with
  | .all => true
  | .untagged => tagOf python leaf = none
  | .named tag => tagOf python leaf = some tag

/-- `options.get(key, default).upper()`. -/
def upperOption (options : Dict) (key default : String) : Option Yaml :=
  match Dict.getOr options key (.str default) with
  | .str text => some (.str (python.upper text))
  | _ => none

/-- The arguments of a `Supervisor` after its name and children. -/
def supervisorArguments (options : Dict) : Option Dict := do
  let strategy ← upperOption python options "strategy" "ONE_FOR_ONE"
  let backoff ← upperOption python options "backoff" "CONSTANT"
  return [("strategy", strategy), ("backoff", backoff)] ++
    readOptions supervisorOptions options

mutual

/-- `_build_node`; `none` when it raises, `some none` for a node left out. -/
def buildNode (filter : Filter) :
    Node → Option (Option (BuiltNode python.Class))
  | .supervisor options children => do
      let children ← buildChildren filter children
      let name ← Dict.get options "name"
      let arguments ← supervisorArguments python options
      return some (.supervisor (("name", name) :: arguments) children)
  | .leaf leaf =>
      if belongsTo python filter leaf then
        (buildLeaf python leaf).map fun processes =>
          some (.leaf { label := leaf.label, processes := processes })
      else
        some none

/-- `_build_node` of each child; those left out are dropped. -/
def buildChildren (filter : Filter) :
    List Node → Option (List (BuiltNode python.Class))
  | [] => some []
  | node :: rest => do
      let first ← buildNode filter node
      let others ← buildChildren filter rest
      return first.toList ++ others

end

/-- `config.get("supervision") or config.get("supervisor")`. -/
def Config.runtimeRoot (config : Config) : Option Root :=
  match config.supervision.filter Root.truthy with
  | some root => some root
  | none => config.supervisor.filter Root.truthy

/-- The keys of a root beside its children. -/
def Root.options : Root → Dict
  | .null => []
  | .dict options _ => options

/-- The tree of `Runtime.from_config_dict`. -/
def fromConfigDict (filter : Filter) (config : Config) :
    Option (BuiltNode python.Class) := do
  let root ← config.runtimeRoot
  let children ← buildChildren python filter root.children
  let arguments ← supervisorArguments python root.options
  let name := Dict.getOr root.options "name" (.str "root")
  return .supervisor (("name", name) :: arguments) children

/-- The tree of `Runtime.from_config`. -/
def fromConfig (env : String → Option String) (filter : Filter)
    (config : Config) : Option (BuiltNode python.Class) := do
  let config ← config.substitute env
  fromConfigDict python filter config

/-! ## Workers -/

/-- `config.get("supervision", config.get("supervisor", (empty)))`. -/
def Config.workerRoot (config : Config) : Root :=
  config.supervision.getD (config.supervisor.getD (.dict [] none))

/-- `entries.get("process") == tag`. -/
def isAssigned (entries : Dict) (tag : String) : Bool :=
  match Dict.get entries "process" with
  | some (.str text) => text = tag
  | _ => false

/-- What `_walk` appends for a leaf. -/
def assigned (tag : String) (leaf : Leaf) : Option Dict :=
  match leaf.agent with
  | some config => if isAssigned config tag then some config else none
  | none =>
      if isType leaf.entries "dynamic_supervisor" &&
          isAssigned leaf.entries tag
      then some leaf.entries
      else none

mutual

/-- `_walk` of `_find_process_agents`. -/
def walk (tag : String) : Node → List (Nat × Dict)
  | .supervisor _ children => walkChildren tag children
  | .leaf leaf =>
      ((assigned tag leaf).map fun config => (leaf.label, config)).toList

/-- `_walk` over the children, in order. -/
def walkChildren (tag : String) : List Node → List (Nat × Dict)
  | [] => []
  | node :: rest => walk tag node ++ walkChildren tag rest

end

/-- `_find_process_agents`; `none` for a root without `get`. -/
def findProcessAgents (tag : String) (config : Config) :
    Option (List (Nat × Dict)) :=
  match config.workerRoot with
  | .null => none
  | .dict _ children => some (walkChildren tag (children.getD []))

/-- `_build_worker_agent`. -/
def buildWorkerAgent (config : Dict) : Option (Built python.Class) :=
  if isType config "dynamic_supervisor" then do
    let name ← Dict.get config "name"
    return {
      cls := .dynamicSupervisor
      arguments :=
        [("name", name)] ++ readOptions sharedDynamicOptions config ++
          readOptions spawnerOptions [] }
  else do
    let path ← Dict.get config "type"
    let cls ← resolveClass python path
    let name ← Dict.get config "name"
    return { cls := .imported cls, arguments := [("name", name)] }

/-- `[_build_worker_agent(acfg) for acfg in agents_cfg]`. -/
def buildWorkerAgents :
    List (Nat × Dict) → Option (List (Placed python.Class))
  | [] => some []
  | found :: rest => do
      let process ← buildWorkerAgent python found.2
      let others ← buildWorkerAgents rest
      return { label := found.1, processes := [process] } :: others

/-- The agents of `_run_worker`; `none` when it ends with an error. -/
def runWorker (tag : String) (config : Config) :
    Option (List (Placed python.Class)) := do
  let found ← findProcessAgents tag config
  if found.isEmpty then
    none
  else
    buildWorkerAgents python found

end Trees

/-! ## What the trees hold -/

section Contents

variable {python : Python}

/-- The processes at a label. -/
def processesAt {Class : Type} (label : Nat) (placed : List (Placed Class)) :
    List (List (Built Class)) :=
  (placed.filter fun one => one.label = label).map Placed.processes

@[simp]
theorem processesAt_nil
    {Class : Type} (label : Nat) :
    processesAt label ([] : List (Placed Class)) = [] := rfl

theorem processesAt_cons
    {Class : Type} (label : Nat) (one : Placed Class)
    (rest : List (Placed Class)) :
    processesAt label (one :: rest) =
      if one.label = label then one.processes :: processesAt label rest
      else processesAt label rest := by
  simp only [processesAt, List.filter_cons, decide_eq_true_eq]
  split <;> rfl

/-- Nothing is placed at a label that no leaf has. -/
theorem processesAt_eq_nil
    {Class : Type} {label : Nat} {placed : List (Placed Class)}
    (absent : ∀ one ∈ placed, one.label ≠ label) :
    processesAt label placed = [] := by
  simp only [processesAt, List.map_eq_nil_iff, List.filter_eq_nil_iff,
    decide_eq_true_eq]
  exact absent

/-- Leaves with distinct labels keep their own processes. -/
theorem processesAt_filterMap
    {Class : Type} {place : Leaf → Option (Placed Class)} {leaves : List Leaf}
    (labelled :
      ∀ leaf placed, place leaf = some placed → placed.label = leaf.label)
    (distinct : (leaves.map Leaf.label).Nodup)
    {leaf : Leaf} (member : leaf ∈ leaves) :
    processesAt leaf.label (leaves.filterMap place) =
      ((place leaf).map Placed.processes).toList := by
  induction leaves with
  | nil => cases member
  | cons first rest ih =>
      simp only [List.map_cons, List.nodup_cons, List.mem_map,
        not_exists, not_and] at distinct
      have elsewhere : processesAt first.label (rest.filterMap place) = [] := by
        refine processesAt_eq_nil ?_
        intro one there
        rcases List.mem_filterMap.mp there with ⟨other, known, placed⟩
        rw [labelled other one placed]
        exact distinct.1 other known
      rcases List.mem_cons.mp member with rfl | later
      · cases own : place leaf with
        | none => simpa [own] using elsewhere
        | some placed =>
            simp [own, processesAt_cons, labelled leaf placed own, elsewhere]
      · have apart : first.label ≠ leaf.label :=
          fun same => distinct.1 leaf later same.symm
        cases own : place first with
        | none => simpa [own] using ih distinct.2 later
        | some placed =>
            simpa [own, processesAt_cons, labelled first placed own, apart]
              using ih distinct.2 later

/-- What a leaf becomes. -/
def placeLeaf (python : Python) (leaf : Leaf) : Placed python.Class where
  label := leaf.label
  processes := (buildLeaf python leaf).getD []

theorem placedOf_append
    {Class : Type} (first second : List (BuiltNode Class)) :
    placedOf (first ++ second) = placedOf first ++ placedOf second := by
  induction first with
  | nil => rfl
  | cons node rest ih =>
      simp only [List.cons_append, placedOf, ih, List.append_assoc]

/-- What a tree holds of one leaf. -/
theorem processesAt_filter
    {belongs : Leaf → Bool} {leaves : List Leaf}
    (distinct : (leaves.map Leaf.label).Nodup)
    {leaf : Leaf} (member : leaf ∈ leaves) :
    processesAt leaf.label
        ((leaves.filter belongs).map (placeLeaf python)) =
      if belongs leaf then [(placeLeaf python leaf).processes] else [] := by
  rw [← List.filterMap_eq_map, ← List.filterMap_eq_filter,
    List.filterMap_filterMap, processesAt_filterMap ?_ distinct member]
  · cases own : belongs leaf <;> simp [Option.guard, own]
  · intro other placed own
    simp only [Option.bind_eq_some_iff, Function.comp_apply,
      Option.some.injEq] at own
    rcases own with ⟨same, guarded, rfl⟩
    rw [← (Option.guard_eq_some_iff.mp guarded).1]
    rfl

/-- The leaves of a filter, all of which can be built. -/
structure BuiltFrom
    (filter : Filter) (leaves : List Leaf)
    (placed : List (Placed python.Class)) :
    Prop where
  placed_eq :
    placed =
      (leaves.filter (belongsTo python filter)).map (placeLeaf python)
  buildable :
    ∀ leaf ∈ leaves, belongsTo python filter leaf = true →
      (buildLeaf python leaf).isSome

theorem BuiltFrom.append
    {filter : Filter} {first second : List Leaf}
    {placed others : List (Placed python.Class)}
    (front : BuiltFrom filter first placed)
    (back : BuiltFrom filter second others) :
    BuiltFrom filter (first ++ second) (placed ++ others) where
  placed_eq := by
    rw [front.placed_eq, back.placed_eq, List.filter_append, List.map_append]
  buildable := by
    intro leaf member belongs
    rcases List.mem_append.mp member with early | late
    · exact front.buildable leaf early belongs
    · exact back.buildable leaf late belongs

theorem children_built_from
    {filter : Filter} {nodes : List Node}
    (parts :
      ∀ node ∈ nodes, ∀ built, buildNode python filter node = some built →
        BuiltFrom filter node.leaves (placedOf built.toList))
    {built : List (BuiltNode python.Class)}
    (done : buildChildren python filter nodes = some built) :
    BuiltFrom filter (Node.leavesOf nodes) (placedOf built) := by
  induction nodes generalizing built with
  | nil =>
      cases done
      exact ⟨rfl, by rintro _ ⟨⟩⟩
  | cons node rest ih =>
      simp only [buildChildren, Option.bind_eq_bind,
        Option.bind_eq_some_iff, Option.pure_def, Option.some.injEq] at done
      rcases done with ⟨first, own, others, remaining, rfl⟩
      rw [placedOf_append, Node.leavesOf]
      refine (parts node List.mem_cons_self first own).append ?_
      refine ih ?_ remaining
      exact fun child member => parts child (List.mem_cons_of_mem _ member)

/-- A built tree holds the leaves of its filter. -/
theorem node_built_from
    {filter : Filter} {node : Node}
    {built : Option (BuiltNode python.Class)}
    (done : buildNode python filter node = some built) :
    BuiltFrom filter node.leaves (placedOf built.toList) := by
  induction node using Node.children_induction generalizing built with
  | leaf value =>
      simp only [buildNode] at done
      split at done
      next belongs =>
        simp only [Option.map_eq_some_iff] at done
        rcases done with ⟨processes, made, rfl⟩
        constructor
        · simp [Node.leaves, placedOf, BuiltNode.placed, belongs, placeLeaf,
            made]
        · intro leaf member _
          rw [List.mem_singleton.mp member, made]
          rfl
      next foreign =>
        cases done
        constructor
        · simp [Node.leaves, placedOf, foreign]
        · intro leaf member belongs
          rw [List.mem_singleton.mp member] at belongs
          exact absurd belongs foreign
  | supervisor options children ih =>
      simp only [buildNode, Option.bind_eq_bind, Option.bind_eq_some_iff,
        Option.pure_def, Option.some.injEq] at done
      rcases done with ⟨parts, made, name, -, arguments, -, rfl⟩
      have inside :=
        children_built_from
          (fun child member _ own => ih child member own) made
      simpa [Node.leaves, placedOf, BuiltNode.placed] using inside

/-- What can be built as a whole can be built in part. -/
theorem children_buildable_in_part
    {filter : Filter} {nodes : List Node}
    (parts :
      ∀ node ∈ nodes, (buildNode python .all node).isSome →
        (buildNode python filter node).isSome)
    (whole : (buildChildren python .all nodes).isSome) :
    (buildChildren python filter nodes).isSome := by
  induction nodes with
  | nil => rfl
  | cons node rest ih =>
      rcases Option.isSome_iff_exists.mp whole with ⟨built, done⟩
      simp only [buildChildren, Option.bind_eq_bind,
        Option.bind_eq_some_iff, Option.pure_def, Option.some.injEq] at done
      rcases done with ⟨first, own, others, remaining, -⟩
      have some_first :=
        parts node List.mem_cons_self (Option.isSome_of_eq_some own)
      have some_others :=
        ih (fun child member => parts child (List.mem_cons_of_mem _ member))
          (Option.isSome_of_eq_some remaining)
      rcases Option.isSome_iff_exists.mp some_first with ⟨_, part⟩
      rcases Option.isSome_iff_exists.mp some_others with ⟨_, tail⟩
      simp [buildChildren, part, tail]

theorem node_buildable_in_part
    {filter : Filter} {node : Node}
    (whole : (buildNode python .all node).isSome) :
    (buildNode python filter node).isSome := by
  induction node using Node.children_induction with
  | leaf value =>
      have made : (buildLeaf python value).isSome := by
        simpa [buildNode, belongsTo] using whole
      simp only [buildNode]
      split
      · simpa using made
      · rfl
  | supervisor options children ih =>
      rcases Option.isSome_iff_exists.mp whole with ⟨built, done⟩
      simp only [buildNode, Option.bind_eq_bind, Option.bind_eq_some_iff,
        Option.pure_def, Option.some.injEq] at done
      rcases done with ⟨parts, made, name, named, arguments, given, -⟩
      have part :=
        children_buildable_in_part ih (Option.isSome_of_eq_some made)
      rcases Option.isSome_iff_exists.mp part with ⟨_, inside⟩
      simp [buildNode, inside, named, given]

/-- The tree of a filter, from the tree of everything. -/
theorem fromConfigDict_of_all
    {config : Config} {whole : BuiltNode python.Class}
    (done : fromConfigDict python .all config = some whole) :
    ∃ root,
      config.runtimeRoot = some root ∧
        ∀ filter,
          ∃ part,
            fromConfigDict python filter config = some part ∧
              BuiltFrom filter (Node.leavesOf root.children) part.placed := by
  simp only [fromConfigDict, Option.bind_eq_bind, Option.bind_eq_some_iff,
    Option.pure_def, Option.some.injEq] at done
  rcases done with ⟨root, chosen, children, made, arguments, given, -⟩
  refine ⟨root, chosen, fun filter => ?_⟩
  have buildable : (buildChildren python filter root.children).isSome :=
    children_buildable_in_part (fun _ _ => node_buildable_in_part)
      (Option.isSome_of_eq_some made)
  rcases Option.isSome_iff_exists.mp buildable with ⟨parts, inside⟩
  refine ⟨_, by simp [fromConfigDict, chosen, inside, given]; rfl, ?_⟩
  exact children_built_from (fun _ _ _ own => node_built_from own) inside

end Contents

/-! ## What a worker holds -/

section WorkerContents

variable {python : Python}

/-- What `_walk` finds at the leaves. -/
def foundAt (tag : String) (leaf : Leaf) : Option (Nat × Dict) :=
  (assigned tag leaf).map fun config => (leaf.label, config)

theorem walkChildren_of_parts
    {tag : String} {nodes : List Node}
    (parts :
      ∀ node ∈ nodes, walk tag node = node.leaves.filterMap (foundAt tag)) :
    walkChildren tag nodes =
      (Node.leavesOf nodes).filterMap (foundAt tag) := by
  induction nodes with
  | nil => rfl
  | cons node rest ih =>
      rw [walkChildren, Node.leavesOf, List.filterMap_append,
        parts node List.mem_cons_self,
        ih fun child member => parts child (List.mem_cons_of_mem _ member)]

theorem walk_eq
    (tag : String) (node : Node) :
    walk tag node = node.leaves.filterMap (foundAt tag) := by
  induction node using Node.children_induction with
  | leaf value =>
      rw [walk, Node.leaves]
      cases held : assigned tag value with
      | none => simp [foundAt, held]
      | some config => simp [foundAt, held]
  | supervisor options children ih =>
      rw [walk, Node.leaves]
      exact walkChildren_of_parts ih

theorem walkChildren_eq
    (tag : String) (nodes : List Node) :
    walkChildren tag nodes =
      (Node.leavesOf nodes).filterMap (foundAt tag) :=
  walkChildren_of_parts fun node _ => walk_eq tag node

/-- What a worker makes of a node it has found. -/
def placeFound (python : Python) (found : Nat × Dict) :
    Placed python.Class where
  label := found.1
  processes := (buildWorkerAgent python found.2).toList

theorem buildWorkerAgents_eq_some_iff
    {found : List (Nat × Dict)} {placed : List (Placed python.Class)} :
    buildWorkerAgents python found = some placed ↔
      (∀ one ∈ found, (buildWorkerAgent python one.2).isSome) ∧
        placed = found.map (placeFound python) := by
  induction found generalizing placed with
  | nil =>
      simp only [buildWorkerAgents, Option.some.injEq, List.not_mem_nil,
        false_imp_iff, implies_true, true_and, List.map_nil]
      exact eq_comm
  | cons one rest ih =>
      cases own : buildWorkerAgent python one.2 with
      | none => simp [buildWorkerAgents, own]
      | some process =>
          simp only [buildWorkerAgents, own, Option.bind_eq_bind,
            Option.bind_some, Option.bind_eq_some_iff, ih, Option.pure_def,
            Option.some.injEq, List.forall_mem_cons, Option.isSome_some,
            true_and, List.map_cons]
          have head :
              placeFound python one =
                { label := one.1, processes := [process] } := by
            simp [placeFound, own]
          rw [head]
          constructor
          · rintro ⟨others, ⟨buildable, rfl⟩, rfl⟩
            exact ⟨buildable, rfl⟩
          · rintro ⟨buildable, rfl⟩
            exact ⟨_, ⟨buildable, rfl⟩, rfl⟩

/-- The dictionary of a leaf that a worker reads. -/
def workerPart (leaf : Leaf) : Dict :=
  leaf.agent.getD leaf.entries

theorem isAssigned_iff
    {entries : Dict} {tag : String} :
    isAssigned entries tag = true ↔
      Dict.get entries "process" = some (.str tag) := by
  unfold isAssigned
  split
  next text found => simp [found]
  next other =>
    simp only [Bool.false_eq_true, false_iff]
    exact fun found => other tag found

theorem assigned_eq_some_iff
    {tag : String} {leaf : Leaf} {config : Dict} :
    assigned tag leaf = some config ↔
      config = workerPart leaf ∧ processOf leaf = some (.str tag) ∧
        (leaf.agent.isSome ∨
          isType leaf.entries "dynamic_supervisor" = true) := by
  cases held : leaf.agent with
  | some own =>
      simp only [assigned, held, workerPart, processOf, Option.getD_some,
        Option.isSome_some, true_or, and_true, ← isAssigned_iff]
      cases isAssigned own tag <;> simp [eq_comm]
  | none =>
      simp only [assigned, held, workerPart, processOf, Option.getD_none,
        Option.isSome_none, Bool.false_eq_true, false_or, ← isAssigned_iff]
      cases isAssigned leaf.entries tag <;>
        cases isType leaf.entries "dynamic_supervisor" <;> simp [eq_comm]

/-- What a worker holds of one leaf. -/
theorem processesAt_found
    {tag : String} {leaves : List Leaf}
    (distinct : (leaves.map Leaf.label).Nodup)
    {leaf : Leaf} (member : leaf ∈ leaves) :
    processesAt leaf.label
        ((leaves.filterMap (foundAt tag)).map (placeFound python)) =
      ((assigned tag leaf).map fun config =>
        (buildWorkerAgent python config).toList).toList := by
  rw [List.map_filterMap, processesAt_filterMap ?_ distinct member]
  · simp only [foundAt, Option.map_map]
    rfl
  · intro other placed own
    simp only [foundAt, Option.map_map, Option.map_eq_some_iff] at own
    rcases own with ⟨config, -, rfl⟩
    rfl

end WorkerContents

end Civitas.Topology
