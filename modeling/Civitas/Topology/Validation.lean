import Civitas.Topology.Sections

/-!
# Validating and loading a topology

`_validate_topology` of `cli/topology.py` collects what it finds wrong in a
topology file.  `Runtime.from_config_dict` of `runtime.py` makes a tree of
processes from the same file, and `Runtime.start` registers their names.

The two walks read the same nodes by different rules.  The validator looks
for an `agent` key before it looks at `type`, gives a default to a supervisor
without a name and knows only the names that stand in the file.
-/

namespace Civitas.Topology

/-! ## The validator -/

/-- A failed check, by its category and its text. -/
structure Failure where
  category : String
  message : String
deriving DecidableEq

/-- What `_validate_node` has found. -/
structure Report where
  failures : List Failure
  agentNames : List Yaml
  supervisorNames : List Yaml
  /-- `has_empty_sup`. -/
  empty : Bool

/-- Nothing to report. -/
def Report.none : Report where
  failures := []
  agentNames := []
  supervisorNames := []
  empty := false

/-- What is found one after the other. -/
def Report.append (first second : Report) : Report where
  failures := first.failures ++ second.failures
  agentNames := first.agentNames ++ second.agentNames
  supervisorNames := first.supervisorNames ++ second.supervisorNames
  empty := first.empty || second.empty

/-- `_VALID_STRATEGIES`, which are the values of `RestartStrategy`. -/
def validStrategies : List String :=
  ["ONE_FOR_ONE", "ONE_FOR_ALL", "REST_FOR_ONE"]

/-- `_VALID_BACKOFF`, which are the values of `BackoffPolicy`. -/
def validBackoff : List String :=
  ["CONSTANT", "LINEAR", "EXPONENTIAL"]

/-- `_VALID_TRANSPORTS`. -/
def validTransports : List String :=
  ["in_process", "zmq", "nats"]

/-- `isinstance(value, int) and value >= 0`. -/
def Yaml.isCount : Yaml → Bool
  | .int value => 0 ≤ value
  | .bool _ => true
  | _ => false

/-- A failure, if something is bad. -/
def failIf (bad : Bool) (category message : String) : List Failure :=
  if bad then [{ category := category, message := message }] else []

section Validate

variable (python : Python)

/-- The name of a node, or a failure. -/
def nameReport (entries : Dict) (message : String) : Report where
  failures := failIf (!given entries "name") "Naming" message
  agentNames :=
    if given entries "name" then [Dict.getOr entries "name" .null] else []
  supervisorNames := []
  empty := false

/-- The types that need no class. -/
def hasBuiltinType (entries : Dict) : Bool :=
  isType entries "dynamic_supervisor" || isType entries "topology_server" ||
    isType entries "eval_agent" || isType entries "http_gateway"

/-- `node.get("type", "node")` as a text. -/
def typeText (entries : Dict) : String :=
  python.str (Dict.getOr entries "type" (.str "node"))

/-- `_validate_node` on a leaf. -/
def validateLeaf (path : String) (leaf : Leaf) : Report :=
  match leaf.agent with
  | some config =>
      { nameReport config (path ++ ": agent missing 'name'") with
        failures :=
          (nameReport config (path ++ ": agent missing 'name'")).failures ++
            failIf (!given config "type") "Naming"
              (path ++ ": agent missing 'type'") }
  | none =>
      if (isType leaf.entries "gen_server" || isType leaf.entries "agent") &&
          hasKey leaf.entries "module" && hasKey leaf.entries "class"
      then
        nameReport leaf.entries
          (path ++ ": " ++ typeText python leaf.entries ++
            " missing 'name'")
      else if hasBuiltinType leaf.entries ||
          (hasKey leaf.entries "type" && hasKey leaf.entries "name")
      then
        nameReport leaf.entries
          (path ++ ": " ++ typeText python leaf.entries ++
            " missing 'name'")
      else
        { Report.none with
          failures :=
            failIf true "Structure"
              (path ++ ": node is neither 'supervisor' nor 'agent'") }

/-- The strategy and the backoff of a supervisor. -/
def policyFailures (path : String) (options : Dict) :
    Option (List Failure) := do
  let strategy ← upperOption python options "strategy" "one_for_one"
  let backoff ← upperOption python options "backoff" "constant"
  return failIf (!strategy.isOneOf validStrategies) "Configuration"
      (path ++ ": invalid strategy '" ++ python.str strategy ++ "'") ++
    failIf (!backoff.isOneOf validBackoff) "Configuration"
      (path ++ ": invalid backoff '" ++ python.str backoff ++ "'")

/-- `s.get("name", "<unnamed>")`. -/
def nameOrUnnamed (options : Dict) : Yaml :=
  Dict.getOr options "name" (.str "<unnamed>")

/-- The path of a node in the messages. -/
def dotted (path : String) (options : Dict) : String :=
  path ++ "." ++ python.str (nameOrUnnamed options)

mutual

/-- `_validate_node`; `none` when it raises. -/
def validateNode (path : String) : Node → Option Report
  | .supervisor options children => do
      let policies ←
        policyFailures python (dotted python path options) options
      let below ← validateNodes (dotted python path options) children
      let restarts :=
        failIf (!(Dict.getOr options "max_restarts" (.int 3)).isCount)
          "Configuration"
          (dotted python path options ++
            ": max_restarts must be non-negative int")
      let own : Report :=
        { failures := policies ++ restarts
          agentNames := []
          supervisorNames := [nameOrUnnamed options]
          empty := children.isEmpty }
      return own.append below
  | .leaf leaf => some (validateLeaf python path leaf)

/-- `_validate_node` of each child, in order. -/
def validateNodes (path : String) : List Node → Option Report
  | [] => some Report.none
  | node :: rest => do
      let first ← validateNode path node
      let others ← validateNodes path rest
      return first.append others

end

variable (same : Yaml → Yaml → Bool)

/-- The names that stand in a list more than once, after those seen. -/
def repeated (seen : List Yaml) : List Yaml → List Yaml
  | [] => []
  | name :: rest =>
      if seen.any (same name) then name :: repeated (name :: seen) rest
      else repeated (name :: seen) rest

/-- The duplicates and conflicts; `none` for a name that no set can hold. -/
def namingFailures (report : Report) : Option (List Failure) :=
  if report.agentNames.all Yaml.hashable then
    some <|
      ((repeated same [] report.agentNames).map fun name =>
        { category := "Naming"
          message := "Duplicate agent name: '" ++ python.str name ++ "'" }) ++
      ((report.agentNames.filter fun name =>
          report.supervisorNames.any (same name)).map fun name =>
        { category := "Naming"
          message :=
            "Agent/supervisor name conflict: '" ++ python.str name ++ "'" })
  else
    none

/-- What is wrong with the `transport` section. -/
def transportFailures (sections : Dict) : Option (List Failure) :=
  if (Dict.getOr sections "transport" (.dict [])).truthy then do
    let entries ← asDict (Dict.getOr sections "transport" (.dict []))
    let type := Dict.getOr entries "type" (.str "in_process")
    if type.hashable then
      return failIf (!type.isOneOf validTransports) "Configuration"
        ("Invalid transport type: '" ++ python.str type ++ "'")
    else
      none
  else
    some []

/-- `config.get("supervision", config.get("supervisor"))`. -/
def Config.validatedRoot (config : Config) : Option Root :=
  match config.supervision with
  | some root => some root
  | none => config.supervisor

/-- The failed checks of `_validate_topology`; `none` when it raises. -/
def validateTopology (file : Parsed) : Option (List Failure) :=
  match file.config.validatedRoot with
  | some (.dict options children) => do
      let policies ← policyFailures python "root" options
      let below ← validateNodes python "root" (children.getD [])
      let report : Report :=
        { below with
          supervisorNames :=
            Dict.getOr options "name" (.str "root") ::
              below.supervisorNames
          empty := (children.getD []).isEmpty || below.empty }
      let naming ← namingFailures python same report
      let transport ← transportFailures python file.sections
      return policies ++ report.failures ++
        failIf report.empty "Structure" "Supervisor with no children" ++
        naming ++ transport
  | _ =>
      some
        [{ category := "Structure"
           message := "Missing 'supervision' section" }]

/-- `_validate_topology(config).passed`. -/
def Passed (file : Parsed) : Prop :=
  validateTopology python same file = some []

end Validate

/-! ## The loader -/

/-- `_KNOWN_CONFIG_KEYS`. -/
def knownConfigKeys : List String :=
  ["transport", "plugins", "supervision", "supervisor", "mcp", "security",
    "audit", "presidium"]

section Load

variable (python : Python)

section Constructors

variable {Class : Type} (readers : Readers Class)

/-- `RestartMode`. -/
def restartModes : List String :=
  ["permanent", "transient", "never"]

/--
The constructor of a process accepts its arguments.  Every class of another
module can be constructed by name.
-/
def Built.accepted (built : Built Class) : Bool :=
  match built.cls with
  | .dynamicSupervisor =>
      (Dict.getOr built.arguments "restart" (.str "transient")).isOneOf
        restartModes
  | .httpGateway => gatewayAccepted readers built.arguments
  | .imported cls =>
      (Dict.get built.arguments "handle_timeout").all (readers.watchdog cls)
  | _ => true

/-- The `name` that a process is built with. -/
def Built.name {Class : Type} (built : Built Class) : Yaml :=
  Dict.getOr built.arguments "name" .null

/-- The names under which a node stands among the children of a supervisor. -/
def BuiltNode.hashable {Class : Type} : BuiltNode Class → Bool
  | .supervisor arguments _ => (Dict.getOr arguments "name" .null).hashable
  | .leaf placed => placed.processes.all fun built => built.name.hashable

/-- `RestartStrategy(strategy)` and `BackoffPolicy(backoff)`. -/
def policiesAccepted (arguments : Dict) : Bool :=
  (Dict.getOr arguments "strategy" .null).isOneOf validStrategies &&
    (Dict.getOr arguments "backoff" .null).isOneOf validBackoff

mutual

/-- Every constructor of a tree accepts its arguments. -/
def BuiltNode.accepted : BuiltNode Class → Bool
  | .supervisor arguments children =>
      policiesAccepted arguments && childrenAccepted children
  | .leaf placed => placed.processes.all (Built.accepted readers)

/-- `BuiltNode.accepted` of each child. -/
def childrenAccepted : List (BuiltNode Class) → Bool
  | [] => true
  | node :: rest =>
      node.hashable && BuiltNode.accepted node && childrenAccepted rest

end

end Constructors

/-- `Runtime.from_config_dict`; `none` when it raises. -/
def loadTopology
    (readers : Readers python.Class) (file : Parsed) :
    Option (BuiltNode python.Class) := do
  if file.sections.all fun entry => entry.1 ∈ knownConfigKeys then
    let tree ← fromConfigDict python .all file.config
    if tree.accepted readers && sectionsRead python readers file then
      return tree
    else
      none
  else
    none

/-! ## Registration -/

mutual

/-- `all_agents`, by their names. -/
def BuiltNode.agentNames {Class : Type} : BuiltNode Class → List Yaml
  | .supervisor _ children => agentNamesOf children
  | .leaf placed => placed.processes.map Built.name

/-- The names of the agents below some nodes. -/
def agentNamesOf {Class : Type} : List (BuiltNode Class) → List Yaml
  | [] => []
  | node :: rest => BuiltNode.agentNames node ++ agentNamesOf rest

end

/-- The supervisor of a topology server and its gateway. -/
def implicitSupervisor {Class : Type} : List (Built Class) → List Yaml
  | [agent, _] => [.str (python.str agent.name ++ "_supervisor")]
  | _ => []

mutual

/-- `all_supervisors`, by their names. -/
def BuiltNode.supervisorNames {Class : Type} : BuiltNode Class → List Yaml
  | .supervisor arguments children =>
      Dict.getOr arguments "name" .null :: supervisorNamesOf children
  | .leaf placed => implicitSupervisor python placed.processes

/-- The names of the supervisors below some nodes. -/
def supervisorNamesOf {Class : Type} : List (BuiltNode Class) → List Yaml
  | [] => []
  | node :: rest => BuiltNode.supervisorNames node ++ supervisorNamesOf rest

end

/-- The names that `Runtime.start` registers, in order. -/
def registeredNames {Class : Type} (tree : BuiltNode Class) : List Yaml :=
  tree.agentNames ++ .str "_runtime" :: tree.supervisorNames python

variable (same : Yaml → Yaml → Bool)

/-- `register` for each name in turn; `false` for one already registered. -/
def registerAll (entries : List Yaml) : List Yaml → Bool
  | [] => true
  | name :: rest =>
      !entries.any (same name) && registerAll (name :: entries) rest

end Load

end Civitas.Topology
