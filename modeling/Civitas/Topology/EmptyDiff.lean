import Civitas.Topology.Flattening
import Civitas.Decimal

/-!
# What an empty diff says

Two topology files with equal flat maps build the same supervision tree
exactly when they also agree on what the maps leave out: the names in their
order below their parents, the windows and delays of the supervisors, the
backoff of the root, every node that is no `agent` node, and whatever stands
at a path that a second node overwrites.  Values are compared by `==`, so that
a setting written as `60` is the default of `60.0`.
-/

namespace Civitas.Topology

/-! ## Trees to compare -/

/-- What is compared of a process. -/
structure Member (Class : Type) where
  cls : BuiltClass Class
  name : Option Yaml
  /-- The restart settings, which only a dynamic supervisor has. -/
  restarts : Option (Option Yaml × Option Yaml)

/-- The restart settings of a dynamic supervisor. -/
def Built.restarts {Class : Type} (built : Built Class) :
    Option (Option Yaml × Option Yaml) :=
  match built.cls with
  | .dynamicSupervisor =>
      some (Dict.get built.arguments "max_restarts",
        Dict.get built.arguments "restart_window")
  | _ => none

/-- What is compared of a process that is built. -/
def Built.member {Class : Type} (built : Built Class) : Member Class where
  cls := built.cls
  name := Dict.get built.arguments "name"
  restarts := built.restarts

/-- A tree of supervisors over leaves of any kind. -/
inductive Outline (α : Type) where
  | supervisor (arguments : Dict) (children : List (Outline α))
  | leaf (value : α)

/-- Two processes with equal classes, names and restart settings. -/
structure SameMember
    {python : Python} (comparison : Comparison python)
    (first second : Member python.Class) : Prop where
  cls : comparison.classOf first.cls = comparison.classOf second.cls
  name : SameEntry comparison.same first.name second.name
  restarts :
    Option.Rel
      (fun own other =>
        SameEntry comparison.same own.1 other.1 ∧
          SameEntry comparison.same own.2 other.2)
      first.restarts second.restarts

/-- Two lists of arguments with equal values. -/
def SameArguments (same : Yaml → Yaml → Bool) (first second : Dict) : Prop :=
  List.Forall₂
    (fun own other => own.1 = other.1 ∧ same own.2 other.2 = true)
    first second

mutual

/-- Two trees with the same supervisors over leaves that are alike. -/
def Outline.Same {α : Type}
    (same : Yaml → Yaml → Bool) (alike : α → α → Prop) :
    Outline α → Outline α → Prop
  | .supervisor arguments children, .supervisor others siblings =>
      SameArguments same arguments others ∧
        SameOutlines same alike children siblings
  | .leaf first, .leaf second => alike first second
  | _, _ => False

/-- `Outline.Same`, node by node. -/
def SameOutlines {α : Type}
    (same : Yaml → Yaml → Bool) (alike : α → α → Prop) :
    List (Outline α) → List (Outline α) → Prop
  | [], [] => True
  | first :: rest, second :: others =>
      Outline.Same same alike first second ∧
        SameOutlines same alike rest others
  | _, _ => False

end

mutual

/-- What is compared of a built tree. -/
def BuiltNode.outline {Class : Type} :
    BuiltNode Class → Outline (List (Member Class))
  | .supervisor arguments children =>
      .supervisor arguments (outlines children)
  | .leaf placed => .leaf (placed.processes.map Built.member)

/-- `BuiltNode.outline` of each child. -/
def outlines {Class : Type} :
    List (BuiltNode Class) → List (Outline (List (Member Class)))
  | [] => []
  | node :: rest => BuiltNode.outline node :: outlines rest

end

section Tags

variable (python : Python)

mutual

/-- The process tags of a tree, each at its place. -/
def Node.tags : Node → Outline (Option String)
  | .supervisor _ children => .supervisor [] (tagsOf children)
  | .leaf value => .leaf (tagOf python value)

/-- `Node.tags` of each child. -/
def tagsOf : List Node → List (Outline (Option String))
  | [] => []
  | node :: rest => Node.tags node :: tagsOf rest

end

/-- The process tags of the tree of `Runtime.from_config_dict`. -/
def Config.tags (config : Config) :
    Option (List (Outline (Option String))) :=
  config.runtimeRoot.map fun root => tagsOf python root.children

variable {python}

/-- Two built trees are compared as equal. -/
def SameTree (comparison : Comparison python)
    (first second : BuiltNode python.Class) : Prop :=
  first.outline.Same comparison.same
    (List.Forall₂ (SameMember comparison)) second.outline

/--
Two files build the same tree: the same nodes in the same order below the same
parents, with the same classes, tags and restart settings.
-/
def SameSystem
    (comparison : Comparison python) (first second : Config) : Prop :=
  Option.Rel (SameTree comparison)
      (fromConfigDict python .all first) (fromConfigDict python .all second) ∧
    first.tags python = second.tags python

end Tags

/-! ## What the maps leave out -/

section Agreement

variable (python : Python)

/-- The class that `module` and `class` name. -/
def moduleClass (entries : Dict) : Option python.Class := do
  let module ← Dict.get entries "module"
  let name ← Dict.get entries "class"
  python.importClass (python.str module ++ "." ++ python.str name)

/-- The class of a leaf. -/
def leafClass (leaf : Leaf) : Option (BuiltClass python.Class) :=
  match kindOf leaf with
  | .topologyServer => some .topologyAgent
  | .dynamicSupervisor => some .dynamicSupervisor
  | .evalAgent => some .evalAgent
  | .httpGateway => some .httpGateway
  | .agent config => (classOf python config).map .imported
  | .genServer => (moduleClass python leaf.entries).map .imported
  | .flat => (classOf python leaf.entries).map .imported
  | .unknown => none

/-- The name of a leaf. -/
def leafName (leaf : Leaf) : Option Yaml :=
  match kindOf leaf with
  | .topologyServer =>
      some (Dict.getOr leaf.entries "name" (.str "topology_server"))
  | .agent config => Dict.get config "name"
  | _ => Dict.get leaf.entries "name"

/-- The restart settings of a leaf. -/
def leafRestarts (leaf : Leaf) : Option (Option Yaml × Option Yaml) :=
  match kindOf leaf with
  | .dynamicSupervisor =>
      some (some (Dict.getOr leaf.entries "max_restarts" (.int 3)),
        some (Dict.getOr leaf.entries "restart_window" sixty))
  | _ => none

/-- Whether the leaf is a topology server that brings its own gateway. -/
def servesItself (leaf : Leaf) : Bool :=
  match kindOf leaf with
  | .topologyServer =>
      let config := asDict (Dict.getOr leaf.entries "config" (.dict []))
      !(Dict.getOr (config.getD []) "attach_to" .null).truthy
  | _ => false

/-- The name of the gateway that a topology server brings. -/
def gatewayName (leaf : Leaf) : Option String :=
  if servesItself leaf
  then (leafName leaf).map fun name => python.str name ++ "_gateway"
  else none

variable {python} in
/-- Two leaves that agree on everything that is compared. -/
structure SameLeaf
    (comparison : Comparison python) (first second : Leaf) : Prop where
  cls :
    (leafClass python first).map comparison.classOf =
      (leafClass python second).map comparison.classOf
  name : SameEntry comparison.same (leafName first) (leafName second)
  restarts :
    Option.Rel
      (fun own other =>
        SameEntry comparison.same own.1 other.1 ∧
          SameEntry comparison.same own.2 other.2)
      (leafRestarts first) (leafRestarts second)
  gateway : gatewayName python first = gatewayName python second
  tag : tagOf python first = tagOf python second

/-- A tag that no other value equals. -/
def PlainTag : Option Yaml → Prop
  | none => True
  | some .null => True
  | some (.str _) => True
  | _ => False

/-- A leaf whose class and tag the map shows. -/
structure LeafShown
    (mentions : List Mention) (path : String) (leaf : Leaf) (config : Dict) :
    Prop where
  kind : kindOf leaf = .agent config
  shows :
    Shows mentions
      (.agent (pathBelow python path (Dict.getOr config "name" (.str "?")))
        config)
  plain : PlainTag (Dict.get config "process")

/-- The settings of a supervisor that no map has. -/
def hiddenOptions : List OptionRow :=
  [.same "restart_window" sixty, .same "backoff_base" one,
    .same "backoff_max" sixty]

/-- A table of options reads equal values from two supervisors. -/
def SameOptions
    (same : Yaml → Yaml → Bool) (table : List OptionRow)
    (first second : Dict) : Prop :=
  ∀ row ∈ table,
    same (Dict.getOr first row.key row.default)
        (Dict.getOr second row.key row.default) =
      true

variable {python} in
/-- Two supervisors with the same settings. -/
structure SameSettings
    (comparison : Comparison python) (first second : Dict) : Prop where
  strategy :
    upperOption python first "strategy" "ONE_FOR_ONE" =
      upperOption python second "strategy" "ONE_FOR_ONE"
  backoff :
    upperOption python first "backoff" "CONSTANT" =
      upperOption python second "backoff" "CONSTANT"
  options : SameOptions comparison.same supervisorOptions first second

/-- A supervisor whose strategy and budget the map shows. -/
structure SupervisorShown
    (mentions : List Mention) (mention : Mention) (options : Dict) : Prop where
  shows : Shows mentions mention
  /-- The text of another value could be that of an integer. -/
  whole : ∃ count, Dict.getOr options "max_restarts" (.int 3) = .int count

variable {python} (comparison : Comparison python)
  (ours theirs : List Mention)

/-- What two leaves at one place have to agree on. -/
def LeavesAgree (path trail : String) (first second : Leaf) : Prop :=
  SameLeaf comparison first second ∨
    ∃ left right,
      LeafShown python ours path first left ∧
        LeafShown python theirs trail second right ∧
        SameEntry comparison.same (Dict.get left "name")
          (Dict.get right "name") ∧
        pathBelow python path (Dict.getOr left "name" (.str "?")) =
          pathBelow python trail (Dict.getOr right "name" (.str "?"))

/-- What two supervisors, at their paths, have to agree on. -/
def SupervisorsAgree (path trail : String) (first second : Dict) : Prop :=
  SameSettings comparison first second ∨
    path = trail ∧ SupervisorShown ours (.supervisor path first) first ∧
      SupervisorShown theirs (.supervisor trail second) second ∧
      SameOptions comparison.same hiddenOptions first second

/-- The map does not have the backoff of the root either. -/
def RootsAgree (path trail : String) (first second : Dict) : Prop :=
  SameSettings comparison first second ∨
    path = trail ∧ SupervisorShown ours (.root path first) first ∧
      SupervisorShown theirs (.root trail second) second ∧
      SameOptions comparison.same hiddenOptions first second ∧
      upperOption python first "backoff" "CONSTANT" =
        upperOption python second "backoff" "CONSTANT"

mutual

/--
Two nodes, below their paths, agree on their names and on what the maps leave
out.
-/
def NodesAgree (path trail : String) : Node → Node → Prop
  | .supervisor options children, .supervisor others siblings =>
      SameEntry comparison.same (Dict.get options "name")
          (Dict.get others "name") ∧
        SupervisorsAgree comparison ours theirs
          (pathBelow python path (Dict.getOr options "name" (.str "?")))
          (pathBelow python trail (Dict.getOr others "name" (.str "?")))
          options others ∧
        ChildrenAgree
          (pathBelow python path (Dict.getOr options "name" (.str "?")))
          (pathBelow python trail (Dict.getOr others "name" (.str "?")))
          children siblings
  | .leaf first, .leaf second =>
      LeavesAgree comparison ours theirs path trail first second
  | _, _ => False

/-- `NodesAgree`, child by child. -/
def ChildrenAgree (path trail : String) : List Node → List Node → Prop
  | [], [] => True
  | first :: rest, second :: others =>
      NodesAgree path trail first second ∧
        ChildrenAgree path trail rest others
  | _, _ => False

end

end Agreement

/-- Two files agree on their names and on what their maps leave out. -/
def FilesAgree
    {python : Python} (comparison : Comparison python)
    (first second : Parsed) : Prop :=
  ∃ root other,
    first.config.runtimeRoot = some root ∧
      second.config.runtimeRoot = some other ∧
      comparison.same (Dict.getOr root.options "name" (.str "root"))
          (Dict.getOr other.options "name" (.str "root")) =
        true ∧
      RootsAgree comparison (first.mentions python) (second.mentions python)
        (rootPath python root.options) (rootPath python other.options)
        root.options other.options ∧
      ChildrenAgree comparison (first.mentions python)
        (second.mentions python) (rootPath python root.options)
        (rootPath python other.options) root.children other.children

/-! ## Built trees -/

section Trees

variable {python : Python}

theorem buildNode_all
    {node : Node} {built : Option (BuiltNode python.Class)}
    (done : buildNode python .all node = some built) :
    ∃ whole, built = some whole := by
  cases node with
  | supervisor options children =>
      simp only [buildNode, Option.bind_eq_bind, Option.bind_eq_some_iff,
        Option.pure_def, Option.some.injEq] at done
      rcases done with ⟨parts, -, name, -, arguments, -, rfl⟩
      exact ⟨_, rfl⟩
  | leaf leaf =>
      simp only [buildNode, belongsTo, if_true, Option.map_eq_some_iff]
        at done
      rcases done with ⟨processes, -, rfl⟩
      exact ⟨_, rfl⟩

/-- The tree of everything has one part for each child. -/
theorem buildChildren_all_cons
    {node : Node} {rest : List Node} {built : List (BuiltNode python.Class)}
    (done : buildChildren python .all (node :: rest) = some built) :
    ∃ first others,
      buildNode python .all node = some (some first) ∧
        buildChildren python .all rest = some others ∧
        built = first :: others := by
  simp only [buildChildren, Option.bind_eq_bind, Option.bind_eq_some_iff,
    Option.pure_def, Option.some.injEq] at done
  rcases done with ⟨first, own, others, remaining, rfl⟩
  rcases buildNode_all own with ⟨whole, rfl⟩
  exact ⟨whole, others, own, remaining, rfl⟩

theorem buildNode_all_leaf
    {leaf : Leaf} {built : BuiltNode python.Class}
    (done : buildNode python .all (.leaf leaf) = some (some built)) :
    ∃ processes,
      buildLeaf python leaf = some processes ∧
        built.outline = .leaf (processes.map Built.member) := by
  simp only [buildNode, belongsTo, if_true, Option.map_eq_some_iff,
    Option.some.injEq] at done
  rcases done with ⟨processes, made, rfl⟩
  exact ⟨processes, made, by simp [BuiltNode.outline]⟩

theorem buildNode_all_supervisor
    {options : Dict} {children : List Node} {built : BuiltNode python.Class}
    (done :
      buildNode python .all (.supervisor options children) =
        some (some built)) :
    ∃ name arguments parts,
      Dict.get options "name" = some name ∧
        supervisorArguments python options = some arguments ∧
        buildChildren python .all children = some parts ∧
        built.outline =
          .supervisor (("name", name) :: arguments) (outlines parts) := by
  simp only [buildNode, Option.bind_eq_bind, Option.bind_eq_some_iff,
    Option.pure_def, Option.some.injEq] at done
  rcases done with ⟨parts, made, name, named, arguments, given, rfl⟩
  exact
    ⟨name, arguments, parts, named, given, made, by simp [BuiltNode.outline]⟩

theorem supervisorArguments_eq_some
    {options arguments : Dict}
    (given : supervisorArguments python options = some arguments) :
    ∃ strategy backoff,
      upperOption python options "strategy" "ONE_FOR_ONE" = some strategy ∧
        upperOption python options "backoff" "CONSTANT" = some backoff ∧
        arguments =
          [("strategy", strategy), ("backoff", backoff)] ++
            readOptions supervisorOptions options := by
  simp only [supervisorArguments, Option.bind_eq_bind,
    Option.bind_eq_some_iff, Option.pure_def, Option.some.injEq] at given
  rcases given with ⟨strategy, read, backoff, waits, rfl⟩
  exact ⟨strategy, backoff, read, waits, rfl⟩

/-- Equal texts are the same text. -/
theorem Comparison.texts_iff
    (comparison : Comparison python) {first second : String} :
    comparison.same (.str first) (.str second) = true ↔ first = second := by
  rw [comparison.same_str, Yaml.str.injEq, eq_comm]

theorem sameArguments_readOptions
    {same : Yaml → Yaml → Bool} {table : List OptionRow}
    {first second : Dict} :
    SameArguments same (readOptions table first) (readOptions table second) ↔
      SameOptions same table first second := by
  simp [SameArguments, readOptions, SameOptions, List.forall₂_same]

theorem upperOption_eq_some
    {options : Dict} {key default : String} {value : Yaml}
    (read : upperOption python options key default = some value) :
    ∃ text, value = .str text := by
  unfold upperOption at read
  split at read
  next text _ => exact ⟨_, (Option.some.inj read).symm⟩
  next => cases read

/-- The arguments of a supervisor are its settings. -/
theorem sameSettings_iff
    (comparison : Comparison python) {first second arguments others : Dict}
    (given : supervisorArguments python first = some arguments)
    (taken : supervisorArguments python second = some others) :
    SameSettings comparison first second ↔
      SameArguments comparison.same arguments others := by
  rcases supervisorArguments_eq_some given with
    ⟨strategy, backoff, read, waits, rfl⟩
  rcases supervisorArguments_eq_some taken with
    ⟨strategy', backoff', read', waits', rfl⟩
  rcases upperOption_eq_some read with ⟨kind, rfl⟩
  rcases upperOption_eq_some read' with ⟨kind', rfl⟩
  rcases upperOption_eq_some waits with ⟨delay, rfl⟩
  rcases upperOption_eq_some waits' with ⟨delay', rfl⟩
  have rows :
      SameArguments comparison.same
          ([("strategy", .str kind), ("backoff", .str delay)] ++
            readOptions supervisorOptions first)
          ([("strategy", .str kind'), ("backoff", .str delay')] ++
            readOptions supervisorOptions second) ↔
        kind = kind' ∧ delay = delay' ∧
          SameOptions comparison.same supervisorOptions first second := by
    rw [← sameArguments_readOptions]
    simp [SameArguments, comparison.texts_iff]
  rw [rows]
  constructor
  · rintro ⟨same, delays, options⟩
    rw [read, read'] at same
    rw [waits, waits'] at delays
    cases same
    cases delays
    exact ⟨rfl, rfl, options⟩
  · rintro ⟨rfl, rfl, options⟩
    exact
      { strategy := read.trans read'.symm
        backoff := waits.trans waits'.symm
        options := options }

/-- The gateway of a topology server. -/
def gatewayMember {Class : Type} (name : String) : Member Class where
  cls := .httpGateway
  name := some (.str name)
  restarts := none

/-- What is compared of the processes of a leaf. -/
def leafMembers (python : Python) (leaf : Leaf) :
    Option (List (Member python.Class)) := do
  let cls ← leafClass python leaf
  let name ← leafName leaf
  return { cls := cls, name := some name, restarts := leafRestarts leaf } ::
    (gatewayName python leaf).toList.map gatewayMember

theorem members_of_buildLeaf
    {leaf : Leaf} {processes : List (Built python.Class)}
    (made : buildLeaf python leaf = some processes) :
    leafMembers python leaf = some (processes.map Built.member) := by
  unfold buildLeaf at made
  cases kind : kindOf leaf with
  | topologyServer =>
      simp only [kind, buildTopologyServer, Option.bind_eq_bind,
        Option.bind_eq_some_iff] at made
      rcases made with ⟨config, read, built⟩
      split at built
      next attached =>
        cases built
        simp [leafMembers, leafClass, leafName, leafRestarts, gatewayName,
          servesItself, kind, read, attached, Built.member, Built.restarts,
          Dict.get]
      next apart =>
        simp only [Option.bind_eq_some_iff, Option.pure_def,
          Option.some.injEq] at built
        rcases built with ⟨auth, -, block, -, rfl⟩
        simp [leafMembers, leafClass, leafName, leafRestarts, gatewayName,
          servesItself, kind, read, apart, gatewayMember, Built.member,
          Built.restarts, Dict.get]
  | dynamicSupervisor =>
      simp only [kind, buildDynamicSupervisor, single, Option.bind_eq_bind,
        Option.bind_eq_some_iff, Option.pure_def, Option.some.injEq] at made
      rcases made with ⟨name, named, rfl⟩
      simp only [leafMembers, leafClass, leafName, leafRestarts, gatewayName,
        servesItself, kind, named, Option.bind_eq_bind, Option.bind_some]
      rfl
  | evalAgent =>
      simp only [kind, buildEvalAgent, single, Option.bind_eq_bind,
        Option.bind_eq_some_iff, Option.pure_def, Option.some.injEq] at made
      rcases made with ⟨name, named, exporters, -, rfl⟩
      simp only [leafMembers, leafClass, leafName, leafRestarts, gatewayName,
        servesItself, kind, named, Option.bind_eq_bind, Option.bind_some]
      rfl
  | httpGateway =>
      simp only [kind, buildHttpGateway, single, Option.bind_eq_bind,
        Option.bind_eq_some_iff, Option.pure_def, Option.some.injEq] at made
      rcases made with ⟨name, named, config, -, auth, -, docs, -, rfl⟩
      simp only [leafMembers, leafClass, leafName, leafRestarts, gatewayName,
        servesItself, kind, named, Option.bind_eq_bind, Option.bind_some]
      rfl
  | agent config =>
      simp only [kind, buildAgent, single, Option.bind_eq_bind,
        Option.bind_eq_some_iff, Option.pure_def, Option.some.injEq] at made
      rcases made with ⟨path, typed, cls, found, name, named, timeout, -, rfl⟩
      simp only [leafMembers, leafClass, leafName, leafRestarts, gatewayName,
        servesItself, kind, classOf, typed, found, named, Option.bind_eq_bind,
        Option.bind_some, Option.map_some]
      rfl
  | genServer =>
      simp only [kind, buildGenServer, single, Option.bind_eq_bind,
        Option.bind_eq_some_iff, Option.pure_def, Option.some.injEq] at made
      rcases made with
        ⟨module, placed, own, titled, cls, found, name, named, rfl⟩
      simp only [leafMembers, leafClass, leafName, leafRestarts, gatewayName,
        servesItself, kind, moduleClass, placed, titled, found, named,
        Option.bind_eq_bind, Option.bind_some, Option.map_some]
      rfl
  | flat =>
      simp only [kind, buildFlat, single, Option.bind_eq_bind,
        Option.bind_eq_some_iff, Option.pure_def, Option.some.injEq] at made
      rcases made with ⟨path, typed, cls, found, name, named, rfl⟩
      simp only [leafMembers, leafClass, leafName, leafRestarts, gatewayName,
        servesItself, kind, classOf, typed, found, named, Option.bind_eq_bind,
        Option.bind_some, Option.map_some]
      rfl
  | unknown => simp [kind] at made

theorem leafMembers_eq_some
    {leaf : Leaf} {members : List (Member python.Class)}
    (read : leafMembers python leaf = some members) :
    ∃ cls name,
      leafClass python leaf = some cls ∧ leafName leaf = some name ∧
        members =
          { cls := cls, name := some name, restarts := leafRestarts leaf } ::
            (gatewayName python leaf).toList.map gatewayMember := by
  simp only [leafMembers, Option.bind_eq_bind, Option.bind_eq_some_iff,
    Option.pure_def, Option.some.injEq] at read
  rcases read with ⟨cls, classed, name, named, rfl⟩
  exact ⟨cls, name, classed, named, rfl⟩

/-- Two gateways are the same when their names are. -/
theorem sameGateways_iff
    (comparison : Comparison python) {first second : Option String} :
    List.Forall₂ (SameMember comparison) (first.toList.map gatewayMember)
        (second.toList.map gatewayMember) ↔
      first = second := by
  cases first with
  | none => cases second <;> simp
  | some name =>
      cases second with
      | none => simp
      | some other =>
          simp only [Option.toList_some, List.map_cons, List.map_nil,
            List.forall₂_cons, List.forall₂_nil_left_iff, and_true,
            Option.some.injEq]
          constructor
          · exact fun same => comparison.texts_iff.mp same.name
          · rintro rfl
            exact ⟨rfl, comparison.texts_iff.mpr rfl, .none⟩

/-- The members of a leaf and its tag are what is compared of it. -/
theorem sameLeaf_iff
    (comparison : Comparison python) {first second : Leaf}
    {members others : List (Member python.Class)}
    (read : leafMembers python first = some members)
    (taken : leafMembers python second = some others) :
    SameLeaf comparison first second ↔
      List.Forall₂ (SameMember comparison) members others ∧
        tagOf python first = tagOf python second := by
  rcases leafMembers_eq_some read with ⟨cls, name, classed, named, rfl⟩
  rcases leafMembers_eq_some taken with ⟨cls', name', classed', named', rfl⟩
  rw [List.forall₂_cons, sameGateways_iff]
  constructor
  · rintro ⟨classes, names, restarts, gateway, tag⟩
    rw [classed, classed'] at classes
    rw [named, named'] at names
    exact ⟨⟨⟨Option.some.inj classes, names, restarts⟩, gateway⟩, tag⟩
  · rintro ⟨⟨⟨classes, names, restarts⟩, gateway⟩, tag⟩
    refine
      { cls := ?_
        name := ?_
        restarts := restarts
        gateway := gateway
        tag := tag }
    · rw [classed, classed']
      exact congrArg some classes
    · rw [named, named']
      exact names

end Trees

/-! ## What is shown alike -/

section Shown

variable {python : Python} {comparison : Comparison python}
  {ours theirs : List Mention}

/-- Mentions of one path state the same wherever both are shown. -/
def Alike
    (comparison : Comparison python) (ours theirs : List Mention) : Prop :=
  ∀ mention other, Shows ours mention → Shows theirs other →
    mention.Clash other → ∀ aspect : Attribute,
      aspect.belongsTo mention.isSupervisor →
        SameEntry comparison.same (mention.value python aspect)
          (other.value python aspect)

/-- Equal maps show alike. -/
theorem alike_of_sameMap
    {first second : Parsed} {writes others : Writes}
    (flattened : flattenTopology python first = some writes)
    (smoothed : flattenTopology python second = some others)
    (same : SameMap comparison.same writes others) :
    Alike comparison (first.mentions python) (second.mentions python) := by
  intro mention other shown seen clash aspect own
  have entry := same (flatKey mention.path aspect)
  rw [flatGet_of_shows flattened shown own, clash.2,
    flatGet_of_shows smoothed seen (clash.1 ▸ own)] at entry
  exact entry

theorem eq_of_sameEntry
    {text : String} {value : Option Yaml}
    (same : SameEntry comparison.same (some (.str text)) value) :
    value = some (.str text) := by
  cases value with
  | none => cases same
  | some value => rw [(comparison.same_str text value).mp same]

/-- An option in capitals that both maps show. -/
theorem upperOption_alike
    {first second : Dict} {key default : String} {value : Yaml}
    (read : upperOption python first key default = some value)
    (same :
      SameEntry comparison.same (upperOption python first key default)
        (upperOption python second key default)) :
    upperOption python first key default =
      upperOption python second key default := by
  rcases upperOption_eq_some read with ⟨text, rfl⟩
  rw [read] at same
  rw [read, eq_of_sameEntry same]

/-- A budget that both maps show. -/
theorem maxRestarts_alike
    {first second : Dict} {count total : Int}
    (own : Dict.getOr first "max_restarts" (.int 3) = .int count)
    (other : Dict.getOr second "max_restarts" (.int 3) = .int total)
    (same :
      SameEntry comparison.same (some (restartsText python first))
        (some (restartsText python second))) :
    comparison.same (Dict.getOr first "max_restarts" (.int 3))
        (Dict.getOr second "max_restarts" (.int 3)) =
      true := by
  unfold restartsText at same
  rw [own, other] at same
  have texts := eq_of_sameEntry same
  simp only [Option.some.injEq, Yaml.str.injEq] at texts
  rw [own, other, comparison.str_int total count texts]
  exact comparison.same_int count

theorem sameOptions_of_hidden
    {same : Yaml → Yaml → Bool} {first second : Dict}
    (budget :
      same (Dict.getOr first "max_restarts" (.int 3))
          (Dict.getOr second "max_restarts" (.int 3)) =
        true)
    (hidden : SameOptions same hiddenOptions first second) :
    SameOptions same supervisorOptions first second := by
  intro row member
  rcases List.mem_cons.mp member with rfl | later
  · exact budget
  · exact hidden row later

/-- Supervisors that agree have the same settings. -/
theorem sameSettings_of_supervisorsAgree
    (alike : Alike comparison ours theirs)
    {path trail : String} {first second arguments : Dict}
    (given : supervisorArguments python first = some arguments)
    (agree : SupervisorsAgree comparison ours theirs path trail first second) :
    SameSettings comparison first second := by
  rcases agree with same | ⟨rfl, shown, seen, hidden⟩
  · exact same
  rcases supervisorArguments_eq_some given with
    ⟨strategy, backoff, read, waits, -⟩
  rcases shown.whole with ⟨count, own⟩
  rcases seen.whole with ⟨total, other⟩
  have stated := alike _ _ shown.shows seen.shows ⟨rfl, rfl⟩
  exact
    { strategy := upperOption_alike read (stated .strategy rfl)
      backoff := upperOption_alike waits (stated .backoff rfl)
      options :=
        sameOptions_of_hidden
          (maxRestarts_alike own other (stated .maxRestarts rfl)) hidden }

theorem sameSettings_of_rootsAgree
    (alike : Alike comparison ours theirs)
    {path trail : String} {first second arguments : Dict}
    (given : supervisorArguments python first = some arguments)
    (agree : RootsAgree comparison ours theirs path trail first second) :
    SameSettings comparison first second := by
  rcases agree with same | ⟨rfl, shown, seen, hidden, delays⟩
  · exact same
  rcases supervisorArguments_eq_some given with
    ⟨strategy, backoff, read, waits, -⟩
  rcases shown.whole with ⟨count, own⟩
  rcases seen.whole with ⟨total, other⟩
  have stated := alike _ _ shown.shows seen.shows ⟨rfl, rfl⟩
  exact
    { strategy := upperOption_alike read (stated .strategy rfl)
      backoff := delays
      options :=
        sameOptions_of_hidden
          (maxRestarts_alike own other (stated .maxRestarts rfl)) hidden }

/-- A tag that both maps show. -/
theorem tag_alike
    {first second : Option Yaml} (plain : PlainTag first)
    (clear : PlainTag second)
    (same : SameEntry comparison.same first second) : first = second := by
  cases first with
  | none =>
      cases second with
      | none => rfl
      | some value => cases same
  | some value =>
      cases second with
      | none => cases same
      | some other =>
          cases value with
          | null => rw [comparison.same_null other same]
          | str text => rw [(comparison.same_str text other).mp same]
          | bool _ => cases plain
          | int _ => cases plain
          | float _ => cases plain
          | timestamp _ => cases plain
          | list _ => cases plain
          | dict _ => cases plain

theorem type_of_buildAgent
    {config : Dict} {processes : List (Built python.Class)}
    (made : buildAgent python config = some processes) :
    ∃ path, Dict.get config "type" = some (.str path) := by
  simp only [buildAgent, Option.bind_eq_bind, Option.bind_eq_some_iff]
    at made
  rcases made with ⟨value, typed, cls, found, -⟩
  unfold resolveClass at found
  split at found
  next path => exact ⟨path, typed⟩
  next => cases found

/-- Leaves that agree are compared as equal. -/
theorem sameLeaf_of_leavesAgree
    (alike : Alike comparison ours theirs)
    {path trail : String} {first second : Leaf}
    {processes others : List (Built python.Class)}
    (made : buildLeaf python first = some processes)
    (built : buildLeaf python second = some others)
    (agree : LeavesAgree comparison ours theirs path trail first second) :
    SameLeaf comparison first second := by
  rcases agree with same | ⟨left, right, shown, seen, named, placed⟩
  · exact same
  have own : buildAgent python left = some processes := by
    simpa only [buildLeaf, shown.kind] using made
  have other : buildAgent python right = some others := by
    simpa only [buildLeaf, seen.kind] using built
  rcases type_of_buildAgent own with ⟨typed, there⟩
  rcases type_of_buildAgent other with ⟨titled, here⟩
  have clash :
      Mention.Clash
        (.agent (pathBelow python path (Dict.getOr left "name" (.str "?")))
          left)
        (.agent (pathBelow python trail (Dict.getOr right "name" (.str "?")))
          right) :=
    ⟨rfl, placed⟩
  have stated := alike _ _ shown.shows seen.shows clash
  have types : Dict.get left "type" = Dict.get right "type" := by
    have entry := stated .className rfl
    simp only [Mention.value, Dict.getOr, there, here, Option.getD_some]
      at entry
    rw [there, here, eq_of_sameEntry entry]
  have tags : Dict.get left "process" = Dict.get right "process" :=
    tag_alike shown.plain seen.plain (stated .process rfl)
  exact
    { cls := by simp only [leafClass, shown.kind, seen.kind, classOf, types]
      name := by simpa only [leafName, shown.kind, seen.kind] using named
      restarts := by
        simp only [leafRestarts, shown.kind, seen.kind]
        exact .none
      gateway := by simp [gatewayName, servesItself, shown.kind, seen.kind]
      tag := by
        simp only [tagOf, processOf, agent_of_kindOf shown.kind,
          agent_of_kindOf seen.kind, tags] }

end Shown

/-! ## Whole trees -/

section Whole

variable {python : Python} {comparison : Comparison python}
  {ours theirs : List Mention}

/-- Two lists of built trees are compared as equal. -/
def SameTrees (comparison : Comparison python)
    (first second : List (BuiltNode python.Class)) : Prop :=
  SameOutlines comparison.same (List.Forall₂ (SameMember comparison))
    (outlines first) (outlines second)

/-- Two nodes that are built alike. -/
def BuiltAlike (comparison : Comparison python) (first second : Node) :
    Prop :=
  ∀ built other,
    buildNode python .all first = some (some built) →
      buildNode python .all second = some (some other) →
        (SameTree comparison built other ∧
          first.tags python = second.tags python)

section Agreeing

theorem children_alike_of_agree
    {path trail : String} {first second : List Node}
    (parts :
      ∀ node ∈ first, ∀ other,
        NodesAgree comparison ours theirs path trail node other →
          BuiltAlike comparison node other)
    (agree : ChildrenAgree comparison ours theirs path trail first second)
    {built others : List (BuiltNode python.Class)}
    (made : buildChildren python .all first = some built)
    (done : buildChildren python .all second = some others) :
    SameTrees comparison built others ∧
      tagsOf python first = tagsOf python second := by
  induction first generalizing second built others with
  | nil =>
      cases second with
      | nil =>
          cases made
          cases done
          exact ⟨trivial, rfl⟩
      | cons other siblings => simp [ChildrenAgree] at agree
  | cons node rest ih =>
      cases second with
      | nil => simp [ChildrenAgree] at agree
      | cons other siblings =>
          simp only [ChildrenAgree] at agree
          rcases buildChildren_all_cons made with
            ⟨whole, remaining, own, later, rfl⟩
          rcases buildChildren_all_cons done with
            ⟨whole', remaining', own', later', rfl⟩
          rcases parts node List.mem_cons_self other agree.1 whole whole' own
              own' with ⟨heads, tags⟩
          rcases ih (fun child member =>
              parts child (List.mem_cons_of_mem _ member))
              agree.2 later later' with ⟨tails, others⟩
          exact
            ⟨⟨heads, tails⟩, by simp only [tagsOf, tags, others]⟩

/-- Nodes that agree are built alike. -/
theorem builtAlike_of_agree
    (alike : Alike comparison ours theirs)
    {path trail : String} {first second : Node}
    (agree : NodesAgree comparison ours theirs path trail first second) :
    BuiltAlike comparison first second := by
  induction first using Node.children_induction
    generalizing path trail second with
  | leaf leaf =>
      intro built other made done
      cases second with
      | supervisor options children => simp [NodesAgree] at agree
      | leaf twin =>
          simp only [NodesAgree] at agree
          rcases buildNode_all_leaf made with ⟨processes, own, outlined⟩
          rcases buildNode_all_leaf done with ⟨others, twins, drawn⟩
          have same := sameLeaf_of_leavesAgree alike own twins agree
          rcases (sameLeaf_iff comparison (members_of_buildLeaf own)
              (members_of_buildLeaf twins)).mp same with ⟨members, tags⟩
          rw [SameTree, outlined, drawn]
          exact ⟨members, by simp only [Node.tags, tags]⟩
  | supervisor options children ih =>
      intro built other made done
      cases second with
      | leaf twin => simp [NodesAgree] at agree
      | supervisor others siblings =>
          simp only [NodesAgree] at agree
          rcases agree with ⟨names, settings, below⟩
          rcases buildNode_all_supervisor made with
            ⟨name, arguments, parts, named, given, inside, outlined⟩
          rcases buildNode_all_supervisor done with
            ⟨name', arguments', parts', named', given', inside', drawn⟩
          have same :=
            (sameSettings_iff comparison given given').mp
              (sameSettings_of_supervisorsAgree alike given settings)
          rcases children_alike_of_agree
              (fun child member _ twins => ih child member twins) below
              inside inside' with ⟨nodes, tags⟩
          rw [named, named'] at names
          rw [SameTree, outlined, drawn]
          exact
            ⟨⟨.cons ⟨rfl, names⟩ same, nodes⟩,
              by simp only [Node.tags, tags]⟩

end Agreeing

theorem children_agree_of_alike
    {path trail : String} {first second : List Node}
    (parts :
      ∀ node ∈ first, ∀ other built whole,
        buildNode python .all node = some (some built) →
          buildNode python .all other = some (some whole) →
            SameTree comparison built whole →
              node.tags python = other.tags python →
                NodesAgree comparison ours theirs path trail node other)
    {built others : List (BuiltNode python.Class)}
    (made : buildChildren python .all first = some built)
    (done : buildChildren python .all second = some others)
    (nodes : SameTrees comparison built others)
    (tags : tagsOf python first = tagsOf python second) :
    ChildrenAgree comparison ours theirs path trail first second := by
  induction first generalizing second built others with
  | nil =>
      cases second with
      | nil => simp [ChildrenAgree]
      | cons other siblings => simp [tagsOf] at tags
  | cons node rest ih =>
      cases second with
      | nil => simp [tagsOf] at tags
      | cons other siblings =>
          rcases buildChildren_all_cons made with
            ⟨whole, remaining, own, later, rfl⟩
          rcases buildChildren_all_cons done with
            ⟨whole', remaining', own', later', rfl⟩
          simp only [tagsOf, List.cons.injEq] at tags
          simp only [ChildrenAgree]
          refine ⟨?_, ?_⟩
          · exact
              parts node List.mem_cons_self other whole whole' own own'
                nodes.1 tags.1
          · refine ih ?_ later later' nodes.2 tags.2
            exact fun child member =>
              parts child (List.mem_cons_of_mem _ member)

/-- Nodes that are built alike agree. -/
theorem agree_of_builtAlike
    {path trail : String} {first second : Node}
    {built other : BuiltNode python.Class}
    (made : buildNode python .all first = some (some built))
    (done : buildNode python .all second = some (some other))
    (nodes : SameTree comparison built other)
    (tags : first.tags python = second.tags python) :
    NodesAgree comparison ours theirs path trail first second := by
  induction first using Node.children_induction
    generalizing path trail second built other with
  | leaf leaf =>
      cases second with
      | supervisor options children => simp [Node.tags] at tags
      | leaf twin =>
          rcases buildNode_all_leaf made with ⟨processes, own, outlined⟩
          rcases buildNode_all_leaf done with ⟨others, twins, drawn⟩
          rw [SameTree, outlined, drawn] at nodes
          simp only [Node.tags, Outline.leaf.injEq] at tags
          simp only [NodesAgree]
          refine Or.inl ?_
          exact
            (sameLeaf_iff comparison (members_of_buildLeaf own)
              (members_of_buildLeaf twins)).mpr ⟨nodes, tags⟩
  | supervisor options children ih =>
      cases second with
      | leaf twin => simp [Node.tags] at tags
      | supervisor others siblings =>
          rcases buildNode_all_supervisor made with
            ⟨name, arguments, parts, named, given, inside, outlined⟩
          rcases buildNode_all_supervisor done with
            ⟨name', arguments', parts', named', given', inside', drawn⟩
          rw [SameTree, outlined, drawn] at nodes
          simp only [Node.tags, Outline.supervisor.injEq, true_and] at tags
          rcases nodes with ⟨settings, below⟩
          rcases List.forall₂_cons.mp settings with ⟨⟨-, names⟩, same⟩
          simp only [NodesAgree, named, named']
          refine ⟨names, ?_, ?_⟩
          · exact
              Or.inl ((sameSettings_iff comparison given given').mpr same)
          · refine children_agree_of_alike ?_ inside inside' below tags
            exact fun child member _ _ _ => ih child member

theorem fromConfigDict_eq_some
    {config : Config} {whole : BuiltNode python.Class}
    (done : fromConfigDict python .all config = some whole) :
    ∃ root arguments parts,
      config.runtimeRoot = some root ∧
        supervisorArguments python root.options = some arguments ∧
        buildChildren python .all root.children = some parts ∧
        whole.outline =
          .supervisor
            (("name", Dict.getOr root.options "name" (.str "root")) ::
              arguments)
            (outlines parts) := by
  simp only [fromConfigDict, Option.bind_eq_bind, Option.bind_eq_some_iff,
    Option.pure_def, Option.some.injEq] at done
  rcases done with ⟨root, chosen, parts, made, arguments, given, rfl⟩
  exact
    ⟨root, arguments, parts, chosen, given, made,
      by simp [BuiltNode.outline]⟩

/-- Two files that build the same tree have roots with the same settings. -/
theorem sameSettings_of_sameTrees
    {first second : Config}
    (same :
      Option.Rel (SameTree comparison) (fromConfigDict python .all first)
        (fromConfigDict python .all second))
    (loads : (fromConfigDict python .all first).isSome) :
    ∃ root other,
      first.runtimeRoot = some root ∧ second.runtimeRoot = some other ∧
        SameSettings comparison root.options other.options := by
  rcases Option.isSome_iff_exists.mp loads with ⟨whole, built⟩
  rw [built] at same
  cases made : fromConfigDict python .all second with
  | none =>
      rw [made] at same
      cases same
  | some other =>
      rw [made, Option.rel_some_some] at same
      rcases fromConfigDict_eq_some built with
        ⟨root, arguments, parts, chosen, given, -, outlined⟩
      rcases fromConfigDict_eq_some made with
        ⟨root', arguments', parts', chosen', given', -, drawn⟩
      rw [SameTree, outlined, drawn] at same
      have settings := (List.forall₂_cons.mp same.1).2
      exact
        ⟨root, root', chosen, chosen',
          (sameSettings_iff comparison given given').mpr settings⟩

end Whole

/-! ## Two pairs of files -/

section Instances

/-- The value of a double that is an integer. -/
def wholeOf (float : Wire.Double) : Option Int :=
  let number := float.bits.toNat
  let exponent := number / 2 ^ 52 % 2 ^ 11
  let mantissa := number % 2 ^ 52 + if exponent = 0 then 0 else 2 ^ 52
  let sign : Int := if number < 2 ^ 63 then 1 else -1
  if exponent = 2047 then none
  else if 1075 ≤ exponent then
    some (sign * (mantissa * 2 ^ (exponent - 1075) : Nat))
  else if mantissa % 2 ^ (1075 - exponent) = 0 then
    some (sign * (mantissa / 2 ^ (1075 - exponent) : Nat))
  else none

/-- `==` of scalars. -/
def sameScalar : Yaml → Yaml → Bool
  | .null, .null => true
  | .bool first, .bool second => first == second
  | .bool first, .int second => (first.toNat : Int) == second
  | .bool first, .float second => some (first.toNat : Int) == wholeOf second
  | .int first, .bool second => first == (second.toNat : Int)
  | .int first, .int second => first == second
  | .int first, .float second => some first == wholeOf second
  | .float first, .bool second => wholeOf first == some (second.toNat : Int)
  | .float first, .int second => wholeOf first == some second
  | .float first, .float second =>
      (!Wire.isNaN first.bits && !Wire.isNaN second.bits) &&
        (first.bits == second.bits ||
          wholeOf first == some 0 && wholeOf second == some 0)
  | .str first, .str second => first == second
  | .timestamp first, .timestamp second => first == second
  | _, _ => false

/-- The comparison of scalars. -/
def scalarComparison : Comparison dottedPython where
  same := sameScalar
  same_str := by
    intro text value
    cases value with
    | str other =>
        change (text == other) = true ↔ Yaml.str other = Yaml.str text
        rw [beq_iff_eq, Yaml.str.injEq, eq_comm]
    | null | bool _ | int _ | float _ | timestamp _ | list _ | dict _ =>
        exact ⟨by rintro ⟨⟩, by rintro ⟨⟩⟩
  same_int := by
    intro number
    simp [sameScalar]
  same_null := by
    intro value same
    cases value <;> simp_all [sameScalar]
  str_int := by
    intro first second same
    exact Decimal.eq_of_toString same
  classOf
    | .topologyAgent => "civitas.gateway.topology.TopologyAgent"
    | .httpGateway => "civitas.gateway.core.HTTPGateway"
    | .dynamicSupervisor => "civitas.supervisor.DynamicSupervisor"
    | .evalAgent => "civitas.evalloop.EvalAgent"
    | .imported cls => cls
  classOf_imported := fun _ => rfl

/-- A file with one `supervision` key. -/
def parsedOf (options : Dict) (children : List Node) : Parsed where
  config :=
    { supervision := some (.dict options (some children)), supervisor := none }
  sections := []

/-- Equal assignments make equal maps when all of them are texts. -/
theorem sameMap_of_texts
    {writes : Writes}
    (texts : ∀ write ∈ writes, ∃ text, write.2 = .str text) :
    SameMap sameScalar writes writes := by
  intro key
  cases found : flatGet writes key with
  | none => trivial
  | some value =>
      have member := List.mem_reverse.mp (mem_of_lookup found)
      rcases texts _ member with ⟨text, rfl⟩
      simp [SameEntry, sameScalar]

/-- One agent under the default settings. -/
def patientShop : Parsed :=
  parsedOf [] [.leaf frontLeaf]

/-- The same agent with a window of one second. -/
def hastyShop : Parsed :=
  parsedOf [("restart_window", one)] [.leaf frontLeaf]

/-- What `_flatten_topology` writes of a shop. -/
def shopWrites : Writes :=
  [("/root/@type", .str "supervisor"),
    ("/root/@strategy", .str "ONE_FOR_ONE"),
    ("/root/@max_restarts", .str "3"), ("/root/front/@type", .str "agent"),
    ("/root/front/@class", .str "shop.Front")]

/-- The defaults written out, the window as an integer. -/
def explicitShop : Parsed :=
  parsedOf
    [("strategy", .str "ONE_FOR_ONE"), ("max_restarts", .int 3),
      ("restart_window", .int 60)]
    [.leaf frontLeaf]

theorem flatten_shops :
    flattenTopology dottedPython patientShop = some shopWrites ∧
      flattenTopology dottedPython hastyShop = some shopWrites ∧
      flattenTopology dottedPython explicitShop = some shopWrites :=
  ⟨rfl, rfl, rfl⟩

theorem shopWrites_same : SameMap sameScalar shopWrites shopWrites := by
  refine sameMap_of_texts ?_
  simp [shopWrites]

/-- The single agent of a shop is shown. -/
theorem front_shown
    (options : Dict) :
    LeafShown dottedPython
      [.root "/root" options,
        .agent "/root/front"
          [("type", .str "shop.Front"), ("name", .str "front")]]
      "/root" frontLeaf
      [("type", .str "shop.Front"), ("name", .str "front")] where
  kind := rfl
  shows := by
    refine ⟨List.mem_cons_of_mem _ List.mem_cons_self, ?_⟩
    intro other member clash
    simp only [List.mem_cons, List.not_mem_nil, or_false] at member
    rcases member with rfl | rfl
    · cases clash.1
    · rfl
  plain := trivial

theorem root_shown
    {options : Dict} {config : Dict}
    (whole : ∃ count, Dict.getOr options "max_restarts" (.int 3) = .int count) :
    SupervisorShown [.root "/root" options, .agent "/root/front" config]
      (.root "/root" options) options where
  shows := by
    refine ⟨List.mem_cons_self, ?_⟩
    simp [Mention.Clash, Mention.isSupervisor]
  whole := whole

theorem shops_agree :
    FilesAgree scalarComparison patientShop explicitShop := by
  refine ⟨_, _, rfl, rfl, by decide, ?_, ?_⟩
  · refine
      Or.inr ⟨rfl, root_shown ⟨3, rfl⟩, root_shown ⟨3, rfl⟩, ?_, rfl⟩
    simp only [SameOptions, hiddenOptions, List.forall_mem_cons]
    exact
      ⟨by decide +kernel, by decide +kernel, by decide +kernel, by simp⟩
  · refine ⟨?_, trivial⟩
    exact
      Or.inr
        ⟨_, _, front_shown _, front_shown _, (by decide : _ = true), rfl⟩

end Instances

end Civitas.Topology
