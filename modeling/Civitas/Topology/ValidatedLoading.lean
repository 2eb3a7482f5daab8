import Civitas.Topology.EmptyDiff
import Civitas.Topology.Validation

/-!
# What a passed validation promises

A file that passes `civitas topology validate` loads, and registers each of
its names once, exactly when nothing goes wrong in what the validator does not
look at: unknown sections, supervisors without a name or with the same name,
the options of the nodes, and the names that are not written in the file.
-/

namespace Civitas.Topology

/-! ## What the validator leaves open -/

/-- Two names that a set or a registry can hold side by side. -/
def Distinct (same : Yaml → Yaml → Bool) (names : List Yaml) : Prop :=
  names.Pairwise fun first second => same first second = false

mutual

/-- The supervisors below a node, by their options. -/
def Node.supervisors : Node → List Dict
  | .supervisor options children => options :: supervisorsOf children
  | .leaf _ => []

/-- `Node.supervisors` of each child. -/
def supervisorsOf : List Node → List Dict
  | [] => []
  | node :: rest => Node.supervisors node ++ supervisorsOf rest

end

/-- `sup_cfg["name"]`. -/
def supervisorName (options : Dict) : Yaml :=
  Dict.getOr options "name" .null

/-- The name of the first process of a leaf. -/
def ownName (leaf : Leaf) : Yaml :=
  (leafName leaf).getD .null

/-- A leaf with an `agent` key that is built by its `type`. -/
def mixed (leaf : Leaf) : Bool :=
  leaf.agent.isSome &&
    match kindOf leaf with
    | .agent _ => false
    | _ => true

/-- The name of a leaf that the validator has seen. -/
def checkedNames (leaf : Leaf) : List Yaml :=
  if mixed leaf then [] else [ownName leaf]

section Conditions

variable (python : Python) (readers : Readers python.Class)
  (same : Yaml → Yaml → Bool)

/-- The names of a leaf that the validator has not seen. -/
def uncheckedNames (leaf : Leaf) : List Yaml :=
  (if mixed leaf then [ownName leaf] else []) ++
    if servesItself leaf then
      [.str (python.str (ownName leaf) ++ "_gateway"),
        .str (python.str (ownName leaf) ++ "_supervisor")]
    else
      []

/-- The options of a leaf have the shape that its branch reads. -/
def readable (leaf : Leaf) : Bool :=
  match kindOf leaf with
  | .topologyServer =>
      match asDict (Dict.getOr leaf.entries "config" (.dict [])) with
      | none => false
      | some config =>
          (Dict.getOr config "attach_to" .null).truthy ||
            ((gatewayAuth
                (Dict.getOr config "auth" (.dict []))).isSome &&
              (asDict (Dict.getOr config "auth" (.dict []))).isSome)
  | .evalAgent =>
      (python.exporters
        (Dict.getOr leaf.entries "exporters" (.list []))).isSome
  | .httpGateway =>
      match asDict (Dict.getOr leaf.entries "config" (.dict [])) with
      | none => false
      | some config =>
          (gatewayAuth
              (Dict.getOr config "auth" (.dict []))).isSome &&
            (asDict (Dict.getOr config "docs" (.dict []))).isSome
  | .agent config => (timeoutArgument python config).isSome
  | _ => true

/-- What has to hold of a file beside what the validator checks. -/
structure Loadable (file : Parsed) (root : Root) : Prop where
  known : ∀ entry ∈ file.sections, entry.1 ∈ knownConfigKeys
  sections : sectionsRead python readers file = true
  named :
    ∀ options ∈ supervisorsOf root.children,
      hasKey options "name" = true
  hashable :
    ∀ options ∈ supervisorsOf root.children,
      (supervisorName options).hashable = true
  mixed_hashable :
    ∀ leaf ∈ Node.leavesOf root.children, mixed leaf = true →
      (ownName leaf).hashable = true
  readable :
    ∀ leaf ∈ Node.leavesOf root.children, readable python leaf = true
  /-- The constructors take the options. -/
  accepted :
    ∀ leaf ∈ Node.leavesOf root.children, ∀ processes,
      buildLeaf python leaf = some processes →
        ∀ built ∈ processes, built.accepted readers = true
  supervisors :
    Distinct same
      (Dict.getOr root.options "name" (.str "root") ::
        (supervisorsOf root.children).map supervisorName)
  unchecked :
    Distinct same
      (.str "_runtime" ::
        (Node.leavesOf root.children).flatMap (uncheckedNames python))
  /-- The names that are not in the file are not in use. -/
  fresh :
    ∀ name ∈
        .str "_runtime" ::
          (Node.leavesOf root.children).flatMap (uncheckedNames python),
      ∀ other ∈
          (Node.leavesOf root.children).flatMap checkedNames ++
            Dict.getOr root.options "name" (.str "root") ::
              (supervisorsOf root.children).map supervisorName,
        same name other = false

/-- The file loads, and its names are registered one by one. -/
def LoadsAndRegisters (file : Parsed) : Prop :=
  ∃ tree,
    loadTopology python readers file = some tree ∧
      Distinct same (registeredNames python tree) ∧
      registerAll same [] (registeredNames python tree) = true

/-- The root of the tree that is built. -/
def Parsed.root (file : Parsed) : Root :=
  file.config.runtimeRoot.getD .null

/-- Every class that the tree refers to can be imported. -/
def Importable (file : Parsed) : Prop :=
  ∀ leaf ∈ Node.leavesOf file.root.children,
    kindOf leaf = .unknown ∨ (leafClass python leaf).isSome

end Conditions

/-- What the two walks rely on of `==` and `upper`. -/
structure Naming (python : Python) where
  /-- `==`. -/
  same : Yaml → Yaml → Bool
  comm : ∀ first second, same first second = same second first
  strategy : python.upper "one_for_one" = python.upper "ONE_FOR_ONE"
  backoff : python.upper "constant" = python.upper "CONSTANT"

/-! ## What a passed validation says -/

section Passed

variable {python : Python}

/-- The policies of a supervisor are valid. -/
def PoliciesValid (python : Python) (options : Dict) : Prop :=
  ∃ strategy backoff,
    upperOption python options "strategy" "one_for_one" = some strategy ∧
      upperOption python options "backoff" "constant" = some backoff ∧
      strategy.isOneOf validStrategies = true ∧
      backoff.isOneOf validBackoff = true

theorem failIf_eq_nil
    {bad : Bool} {category message : String} :
    failIf bad category message = [] ↔ bad = false := by
  cases bad <;> simp [failIf]

theorem policiesValid_of_failures
    {path : String} {options : Dict}
    (checked : policyFailures python path options = some []) :
    PoliciesValid python options := by
  simp only [policyFailures, Option.bind_eq_bind, Option.bind_eq_some_iff,
    Option.pure_def, Option.some.injEq, List.append_eq_nil_iff,
    failIf_eq_nil, Bool.not_eq_false'] at checked
  rcases checked with ⟨strategy, read, backoff, waits, first, second⟩
  exact ⟨strategy, backoff, read, waits, first, second⟩

/-- The names that the validator takes from a leaf. -/
def givenNames (leaf : Leaf) : List Yaml :=
  match leaf.agent with
  | some config =>
      if given config "name" then [Dict.getOr config "name" .null] else []
  | none =>
      if given leaf.entries "name" then [Dict.getOr leaf.entries "name" .null]
      else []

/-- A leaf that the validator does not complain about. -/
def LeafPasses (python : Python) (leaf : Leaf) : Prop :=
  ∃ path, (validateLeaf python path leaf).failures = []

theorem validateLeaf_agentNames
    {path : String} {leaf : Leaf}
    (passes : (validateLeaf python path leaf).failures = []) :
    (validateLeaf python path leaf).agentNames = givenNames leaf := by
  unfold validateLeaf at passes ⊢
  unfold givenNames
  cases held : leaf.agent with
  | some config => rfl
  | none =>
      simp only [held] at passes ⊢
      split
      next => rfl
      next first =>
        rw [if_neg first] at passes
        split
        next => rfl
        next second =>
          rw [if_neg second] at passes
          simp [failIf] at passes

theorem validateLeaf_supervisorNames
    (path : String) (leaf : Leaf) :
    (validateLeaf python path leaf).supervisorNames = [] ∧
      (validateLeaf python path leaf).empty = false := by
  unfold validateLeaf
  cases leaf.agent with
  | some config => exact ⟨rfl, rfl⟩
  | none =>
      simp only
      split
      · exact ⟨rfl, rfl⟩
      · split
        · exact ⟨rfl, rfl⟩
        · exact ⟨rfl, rfl⟩

/-- What a report without failures says of its nodes. -/
structure Examined
    (python : Python) (leaves : List Leaf) (supervisors : List Dict)
    (report : Report) : Prop where
  policies : ∀ options ∈ supervisors, PoliciesValid python options
  passes : ∀ leaf ∈ leaves, LeafPasses python leaf
  agentNames : report.agentNames = leaves.flatMap givenNames
  supervisorNames : report.supervisorNames = supervisors.map nameOrUnnamed

theorem Examined.append
    {leaves others : List Leaf} {supervisors more : List Dict}
    {first second : Report}
    (front : Examined python leaves supervisors first)
    (back : Examined python others more second) :
    Examined python (leaves ++ others) (supervisors ++ more)
      (first.append second) where
  policies := by
    intro options member
    rcases List.mem_append.mp member with early | late
    · exact front.policies options early
    · exact back.policies options late
  passes := by
    intro leaf member
    rcases List.mem_append.mp member with early | late
    · exact front.passes leaf early
    · exact back.passes leaf late
  agentNames := by
    simp only [Report.append, front.agentNames, back.agentNames,
      List.flatMap_append]
  supervisorNames := by
    simp only [Report.append, front.supervisorNames, back.supervisorNames,
      List.map_append]

theorem validateNodes_examined
    {path : String} {nodes : List Node}
    (parts :
      ∀ node ∈ nodes, ∀ report,
        validateNode python path node = some report →
          report.failures = [] →
            Examined python node.leaves node.supervisors report)
    {report : Report}
    (done : validateNodes python path nodes = some report)
    (clean : report.failures = []) :
    Examined python (Node.leavesOf nodes) (supervisorsOf nodes) report := by
  induction nodes generalizing report with
  | nil =>
      cases done
      exact ⟨by rintro _ ⟨⟩, by rintro _ ⟨⟩, rfl, rfl⟩
  | cons node rest ih =>
      simp only [validateNodes, Option.bind_eq_bind,
        Option.bind_eq_some_iff, Option.pure_def, Option.some.injEq] at done
      rcases done with ⟨first, own, others, remaining, rfl⟩
      rcases List.append_eq_nil_iff.mp clean with ⟨early, late⟩
      refine (parts node List.mem_cons_self first own early).append ?_
      refine ih ?_ remaining late
      exact fun child member => parts child (List.mem_cons_of_mem _ member)

theorem validateNode_examined
    {path : String} {node : Node} {report : Report}
    (done : validateNode python path node = some report)
    (clean : report.failures = []) :
    Examined python node.leaves node.supervisors report := by
  induction node using Node.children_induction
    generalizing path report with
  | leaf leaf =>
      cases done
      refine ⟨?_, ?_, ?_, (validateLeaf_supervisorNames path leaf).1⟩
      · intro options member
        cases member
      · intro other member
        rw [Node.leaves, List.mem_singleton] at member
        rw [member]
        exact ⟨path, clean⟩
      · rw [validateLeaf_agentNames clean, Node.leaves]
        simp
  | supervisor options children ih =>
      simp only [validateNode, Option.bind_eq_bind, Option.bind_eq_some_iff,
        Option.pure_def, Option.some.injEq] at done
      rcases done with ⟨policies, checked, below, inside, rfl⟩
      simp only [Report.append, List.append_eq_nil_iff] at clean
      rcases clean with ⟨⟨rfl, -⟩, later⟩
      have children_examined :=
        validateNodes_examined
          (fun child member _ made => ih child member made) inside later
      have own :
          Examined python [] [options]
            { failures := []
              agentNames := []
              supervisorNames := [nameOrUnnamed options]
              empty := children.isEmpty } := by
        refine ⟨?_, by simp, rfl, rfl⟩
        intro other member
        rw [List.mem_singleton.mp member]
        exact policiesValid_of_failures checked
      have whole := own.append children_examined
      exact
        { policies := whole.policies
          passes := whole.passes
          agentNames := whole.agentNames
          supervisorNames := whole.supervisorNames }

theorem given_iff
    {entries : Dict} {key : String} (there : given entries key = true) :
    ∃ value, Dict.get entries key = some value := by
  unfold given Dict.getOr at there
  cases found : Dict.get entries key with
  | none =>
      rw [found] at there
      cases there
  | some value => exact ⟨value, rfl⟩

/-- What the validator has checked of a leaf that it passes. -/
theorem leaf_checked
    {leaf : Leaf} (passes : LeafPasses python leaf) :
    (∃ config, leaf.agent = some config ∧ given config "name" = true) ∨
      leaf.agent = none ∧ given leaf.entries "name" = true ∧
        ((isType leaf.entries "gen_server" || isType leaf.entries "agent") &&
            hasKey leaf.entries "module" && hasKey leaf.entries "class" ∨
          hasBuiltinType leaf.entries = true ∨
          hasKey leaf.entries "type" = true) := by
  rcases passes with ⟨path, clean⟩
  unfold validateLeaf at clean
  cases held : leaf.agent with
  | some config =>
      simp only [held, nameReport, List.append_eq_nil_iff, failIf_eq_nil,
        Bool.not_eq_false'] at clean
      exact Or.inl ⟨config, rfl, clean.1⟩
  | none =>
      simp only [held] at clean
      refine Or.inr ⟨rfl, ?_⟩
      split at clean
      next first =>
        simp only [nameReport, failIf_eq_nil, Bool.not_eq_false'] at clean
        exact ⟨clean, Or.inl first⟩
      next first =>
        split at clean
        next second =>
          simp only [nameReport, failIf_eq_nil, Bool.not_eq_false'] at clean
          refine ⟨clean, Or.inr ?_⟩
          simp only [Bool.or_eq_true, Bool.and_eq_true] at second
          rcases second with builtin | ⟨typed, -⟩
          · exact Or.inl builtin
          · exact Or.inr typed
        next => simp [failIf] at clean

theorem hasKey_of_isType
    {entries : Dict} {kind : String} (typed : isType entries kind = true) :
    hasKey entries "type" = true := by
  unfold isType at typed
  unfold hasKey
  cases found : Dict.get entries "type" with
  | none => simp [found] at typed
  | some value => rfl

theorem hasKey_of_hasBuiltinType
    {entries : Dict} (builtin : hasBuiltinType entries = true) :
    hasKey entries "type" = true := by
  simp only [hasBuiltinType, Bool.or_eq_true] at builtin
  rcases builtin with ((typed | typed) | typed) | typed
  · exact hasKey_of_isType typed
  · exact hasKey_of_isType typed
  · exact hasKey_of_isType typed
  · exact hasKey_of_isType typed

/-- A leaf that the validator passes belongs to a branch of the loader. -/
theorem kindOf_ne_unknown
    {leaf : Leaf} (passes : LeafPasses python leaf) :
    kindOf leaf ≠ .unknown := by
  intro unknown
  unfold kindOf at unknown
  rcases leaf_checked passes with ⟨config, held, -⟩ | ⟨held, named, typed⟩
  · simp only [held] at unknown
    repeat' split at unknown
    all_goals cases unknown
  · simp only [held] at unknown
    rcases given_iff named with ⟨name, there⟩
    have key : hasKey leaf.entries "name" = true := by
      simp [hasKey, there]
    repeat' split at unknown
    all_goals try cases unknown
    next apart other =>
      simp only [key, Bool.and_true, Bool.not_eq_true] at other
      rcases typed with generic | builtin | typed
      · exact apart generic
      · rw [hasKey_of_hasBuiltinType builtin] at other
        cases other
      · rw [typed] at other
        cases other

theorem hasKey_iff
    {entries : Dict} {key : String} :
    hasKey entries key = true ↔ ∃ value, Dict.get entries key = some value := by
  simp [hasKey, Option.isSome_iff_exists]

/-- The kinds that take their name from the node itself. -/
theorem name_of_kindOf
    {leaf : Leaf} (passes : LeafPasses python leaf) :
    match kindOf leaf with
    | .agent config => given config "name" = true
    | .topologyServer => True
    | _ => hasKey leaf.entries "name" = true := by
  have checked := leaf_checked passes
  cases kind : kindOf leaf with
  | agent config =>
      rw [agent_of_kindOf kind] at checked
      rcases checked with ⟨own, same, named⟩ | ⟨impossible, -⟩
      · cases same
        exact named
      · cases impossible
  | topologyServer => trivial
  | unknown => exact absurd kind (kindOf_ne_unknown passes)
  | dynamicSupervisor =>
      unfold kindOf at kind
      repeat' split at kind
      all_goals cases kind
      simp_all
  | evalAgent =>
      unfold kindOf at kind
      repeat' split at kind
      all_goals cases kind
      simp_all
  | httpGateway =>
      unfold kindOf at kind
      repeat' split at kind
      all_goals cases kind
      simp_all
  | genServer =>
      rw [agent_eq_none_of_kindOf (Or.inl kind)] at checked
      rcases checked with ⟨own, impossible, -⟩ | ⟨-, named, -⟩
      · cases impossible
      · exact hasKey_iff.mpr (given_iff named)
  | flat =>
      rw [agent_eq_none_of_kindOf (Or.inr kind)] at checked
      rcases checked with ⟨own, impossible, -⟩ | ⟨-, named, -⟩
      · cases impossible
      · exact hasKey_iff.mpr (given_iff named)

/-- Every leaf that the validator passes has a name for the loader. -/
theorem leafName_eq_ownName
    {leaf : Leaf} (passes : LeafPasses python leaf) :
    leafName leaf = some (ownName leaf) := by
  have named := name_of_kindOf passes
  unfold ownName leafName
  cases kind : kindOf leaf with
  | topologyServer => rfl
  | agent config =>
      rw [kind] at named
      rcases given_iff named with ⟨name, there⟩
      simp [there]
  | _ =>
      rw [kind] at named
      rcases hasKey_iff.mp named with ⟨name, there⟩
      simp [there]

/-- The name that the validator takes is the one that is built. -/
theorem givenNames_eq
    {leaf : Leaf} (passes : LeafPasses python leaf)
    (plain : mixed leaf = false) : givenNames leaf = [ownName leaf] := by
  rcases leaf_checked passes with ⟨config, held, named⟩ | ⟨held, named, -⟩
  · have kind : kindOf leaf = .agent config := by
      unfold mixed at plain
      rw [held] at plain
      cases own : kindOf leaf with
      | agent other =>
          rw [agent_of_kindOf own] at held
          cases held
          rfl
      | _ => simp [own] at plain
    rcases given_iff named with ⟨name, there⟩
    simp [givenNames, held, named, ownName, leafName, kind, Dict.getOr, there]
  · rcases given_iff named with ⟨name, there⟩
    have own : ownName leaf = name := by
      unfold ownName leafName
      cases kind : kindOf leaf with
      | agent config =>
          rw [agent_of_kindOf kind] at held
          cases held
      | _ => simp [Dict.getOr, there]
    simp [givenNames, held, named, own, Dict.getOr, there]

end Passed

/-! ## Names one by one -/

section Names

variable {same : Yaml → Yaml → Bool}

/-- Registration goes through when no name meets an earlier one. -/
theorem registerAll_iff
    {entries names : List Yaml} :
    registerAll same entries names = true ↔
      (∀ name ∈ names, ∀ entry ∈ entries, same name entry = false) ∧
        names.Pairwise fun first second => same second first = false := by
  induction names generalizing entries with
  | nil => simp [registerAll]
  | cons name rest ih =>
      simp only [registerAll, Bool.and_eq_true, Bool.not_eq_true',
        List.any_eq_false, Bool.not_eq_true, ih, List.forall_mem_cons,
        List.pairwise_cons]
      constructor
      · rintro ⟨new, ahead, later⟩
        refine ⟨⟨new, ?_⟩, ?_, later⟩
        · exact fun other member => (ahead other member).2
        · exact fun other member => (ahead other member).1
      · rintro ⟨⟨new, apart⟩, ahead, later⟩
        refine ⟨new, ?_, later⟩
        exact fun other member => ⟨ahead other member, apart other member⟩

/-- The validator looks for the same repetitions. -/
theorem repeated_eq_nil_iff
    {seen names : List Yaml} :
    repeated same seen names = [] ↔ registerAll same seen names = true := by
  induction names generalizing seen with
  | nil => simp [repeated, registerAll]
  | cons name rest ih =>
      simp only [repeated, registerAll]
      cases seen.any (same name) with
      | true => simp
      | false => simp [ih]

/-- Registration goes through when the names are distinct. -/
theorem registerAll_nil_iff
    (comm : ∀ first second, same first second = same second first)
    {names : List Yaml} :
    registerAll same [] names = true ↔ Distinct same names := by
  rw [registerAll_iff, Distinct]
  simp only [List.not_mem_nil, false_imp_iff, implies_true, true_and, comm]

end Names

/-! ## The validated file -/

section File

variable {python : Python} {same : Yaml → Yaml → Bool}

/-- Everything that a passed validation says. -/
structure Validated
    (python : Python) (same : Yaml → Yaml → Bool) (file : Parsed)
    (root : Root) : Prop where
  chosen : file.config.runtimeRoot = some root
  policies : PoliciesValid python root.options
  below :
    ∀ options ∈ supervisorsOf root.children, PoliciesValid python options
  passes : ∀ leaf ∈ Node.leavesOf root.children, LeafPasses python leaf
  hashable :
    ∀ name ∈ (Node.leavesOf root.children).flatMap givenNames,
      name.hashable = true
  distinct :
    registerAll same []
      ((Node.leavesOf root.children).flatMap givenNames) = true
  apart :
    ∀ name ∈ (Node.leavesOf root.children).flatMap givenNames,
      ∀ other ∈
          Dict.getOr root.options "name" (.str "root") ::
            (supervisorsOf root.children).map nameOrUnnamed,
        same name other = false

theorem runtimeRoot_of_validatedRoot
    {config : Config} {options : Dict} {children : List Node}
    (chosen :
      config.validatedRoot = some (.dict options (some children))) :
    config.runtimeRoot = some (.dict options (some children)) := by
  unfold Config.validatedRoot at chosen
  unfold Config.runtimeRoot
  cases top : config.supervision with
  | some root =>
      rw [top] at chosen
      cases chosen
      simp [Option.filter, Root.truthy]
  | none =>
      rw [top] at chosen
      simp only at chosen
      simp [chosen, Option.filter, Root.truthy]

theorem namingFailures_eq_nil
    {report : Report}
    (clean : namingFailures python same report = some []) :
    (∀ name ∈ report.agentNames, name.hashable = true) ∧
      registerAll same [] report.agentNames = true ∧
      ∀ name ∈ report.agentNames, ∀ other ∈ report.supervisorNames,
        same name other = false := by
  unfold namingFailures at clean
  split at clean
  next hashable =>
    simp only [Option.some.injEq, List.append_eq_nil_iff,
      List.map_eq_nil_iff, repeated_eq_nil_iff, List.filter_eq_nil_iff,
      List.any_eq_true, not_exists, not_and, Bool.not_eq_true] at clean
    exact ⟨List.all_eq_true.mp hashable, clean.1, clean.2⟩
  next => cases clean

theorem validated_of_passed
    {file : Parsed} (passed : Passed python same file) :
    ∃ root, Validated python same file root := by
  unfold Passed validateTopology at passed
  split at passed
  next options children chosen =>
    simp only [Option.bind_eq_bind, Option.bind_eq_some_iff, Option.pure_def,
      Option.some.injEq, List.append_eq_nil_iff, failIf_eq_nil] at passed
    rcases passed with
      ⟨policies, checked, below, inside, naming, names, transport, carried,
        ⟨⟨⟨rfl, clean⟩, full⟩, rfl⟩, rfl⟩
    have examined :=
      validateNodes_examined
        (fun node _ _ made => validateNode_examined made) inside clean
    rcases namingFailures_eq_nil names with ⟨hashable, distinct, apart⟩
    simp only [examined.agentNames, examined.supervisorNames]
      at hashable distinct apart
    cases children with
    | none => simp at full
    | some nodes =>
        exact
          ⟨.dict options (some nodes),
            { chosen := runtimeRoot_of_validatedRoot chosen
              policies := policiesValid_of_failures checked
              below := examined.policies
              passes := examined.passes
              hashable := hashable
              distinct := distinct
              apart := apart }⟩
  next => simp at passed

end File

/-! ## The built tree -/

section Tree

variable {python : Python} {readers : Readers python.Class}

/-- What the loader needs of a leaf. -/
structure LeafLoads
    (python : Python) (readers : Readers python.Class) (leaf : Leaf) :
    Prop where
  readable : readable python leaf = true
  accepted :
    ∀ processes, buildLeaf python leaf = some processes →
      ∀ built ∈ processes, built.accepted readers = true
  hashable : (ownName leaf).hashable = true

/-- What the loader needs of a nested supervisor. -/
structure SupervisorLoads (options : Dict) : Prop where
  named : hasKey options "name" = true
  hashable : (supervisorName options).hashable = true

/-- The branch of a leaf raises for its options only. -/
theorem buildLeaf_isSome_iff
    {leaf : Leaf} (passes : LeafPasses python leaf)
    (importable : (leafClass python leaf).isSome) :
    (buildLeaf python leaf).isSome ↔ readable python leaf = true := by
  have named := leafName_eq_ownName passes
  unfold leafName at named
  unfold leafClass at importable
  unfold buildLeaf readable
  cases kind : kindOf leaf with
  | topologyServer =>
      simp only [buildTopologyServer, Option.bind_eq_bind]
      cases asDict (Dict.getOr leaf.entries "config" (.dict [])) with
      | none => simp
      | some config =>
          simp only [Option.bind_some]
          cases (Dict.getOr config "attach_to" .null).truthy with
          | true => simp
          | false =>
              cases gatewayAuth
                  (Dict.getOr config "auth" (.dict [])) <;>
                cases asDict (Dict.getOr config "auth" (.dict [])) <;> simp
  | dynamicSupervisor =>
      simp only [kind] at named
      simp [buildDynamicSupervisor, named]
  | evalAgent =>
      simp only [kind] at named
      simp only [buildEvalAgent, named, Option.bind_eq_bind,
        Option.bind_some]
      cases python.exporters
        (Dict.getOr leaf.entries "exporters" (.list [])) <;> simp
  | httpGateway =>
      simp only [kind] at named
      simp only [buildHttpGateway, named, Option.bind_eq_bind,
        Option.bind_some]
      cases asDict (Dict.getOr leaf.entries "config" (.dict [])) with
      | none => simp
      | some config =>
          simp only [Option.bind_some]
          cases gatewayAuth (Dict.getOr config "auth" (.dict [])) <;>
            cases asDict (Dict.getOr config "docs" (.dict [])) <;> simp
  | agent config =>
      simp only [kind] at named
      simp only [kind, Option.isSome_map, classOf,
        Option.isSome_iff_exists, Option.bind_eq_some_iff] at importable
      rcases importable with ⟨cls, path, typed, found⟩
      simp only [buildAgent, named, typed, found, Option.bind_eq_bind,
        Option.bind_some]
      cases timeoutArgument python config <;> simp
  | genServer =>
      simp only [kind] at named
      simp only [kind, Option.isSome_map, moduleClass,
        Option.isSome_iff_exists, Option.bind_eq_bind,
        Option.bind_eq_some_iff] at importable
      rcases importable with ⟨cls, module, placed, own, titled, found⟩
      simp [buildGenServer, named, placed, titled, found]
  | flat =>
      simp only [kind] at named
      simp only [kind, Option.isSome_map, classOf,
        Option.isSome_iff_exists, Option.bind_eq_some_iff] at importable
      rcases importable with ⟨cls, path, typed, found⟩
      simp [buildFlat, named, typed, found]
  | unknown => exact absurd kind (kindOf_ne_unknown passes)

/-- The processes of a leaf, by their names. -/
theorem leaf_processes
    {leaf : Leaf} (passes : LeafPasses python leaf)
    {processes : List (Built python.Class)}
    (made : buildLeaf python leaf = some processes) :
    processes.map Built.name =
        ownName leaf ::
          (if servesItself leaf then
            [.str (python.str (ownName leaf) ++ "_gateway")]
          else
            []) ∧
      implicitSupervisor python processes =
        if servesItself leaf then
          [.str (python.str (ownName leaf) ++ "_supervisor")]
        else
          [] := by
  rcases leafMembers_eq_some (members_of_buildLeaf made) with
    ⟨cls, name, -, named, members⟩
  rw [leafName_eq_ownName passes] at named
  have gateway :
      gatewayName python leaf =
        if servesItself leaf
        then some (python.str (ownName leaf) ++ "_gateway")
        else none := by
    simp [gatewayName, leafName_eq_ownName passes]
  cases named
  rw [gateway] at members
  have name_of :
      ∀ (built : Built python.Class) (value : Yaml),
        built.member.name = some value → built.name = value := by
    intro built value there
    simp only [Built.member] at there
    simp [Built.name, Dict.getOr, there]
  cases own : servesItself leaf with
  | false =>
      simp only [own, Bool.false_eq_true, if_false, Option.toList_none,
        List.map_nil] at members ⊢
      rcases List.map_eq_cons_iff.mp members with ⟨first, rest, rfl, one, none⟩
      rw [List.map_eq_nil_iff] at none
      subst none
      have titled := name_of first _ (congrArg Member.name one)
      exact ⟨by simp [titled], rfl⟩
  | true =>
      simp only [own, if_true, Option.toList_some, List.map_cons,
        List.map_nil] at members ⊢
      rcases List.map_eq_cons_iff.mp members with
        ⟨first, rest, rfl, one, others⟩
      rcases List.map_eq_cons_iff.mp others with
        ⟨second, none, rfl, two, last⟩
      rw [List.map_eq_nil_iff] at last
      subst last
      have titled := name_of first _ (congrArg Member.name one)
      have served := name_of second _ (congrArg Member.name two)
      exact ⟨by simp [titled, served], by simp [implicitSupervisor, titled]⟩

/-- A leaf is built and fits under its supervisor. -/
def NodeLoads
    (python : Python) (readers : Readers python.Class) (node : Node)
    (built : BuiltNode python.Class) : Prop :=
  buildNode python .all node = some (some built) ∧
    built.accepted readers = true ∧ built.hashable = true

theorem leaf_loads_iff
    {leaf : Leaf} (passes : LeafPasses python leaf)
    (importable : (leafClass python leaf).isSome) :
    (∃ built, NodeLoads python readers (.leaf leaf) built) ↔
      LeafLoads python readers leaf := by
  have readability := buildLeaf_isSome_iff passes importable
  constructor
  · rintro ⟨built, made, accepted, hashable⟩
    simp only [buildNode, belongsTo, if_true, Option.map_eq_some_iff,
      Option.some.injEq] at made
    rcases made with ⟨processes, done, rfl⟩
    simp only [BuiltNode.accepted, List.all_eq_true] at accepted
    simp only [BuiltNode.hashable, List.all_eq_true] at hashable
    refine ⟨readability.mp (by rw [done]; rfl), ?_, ?_⟩
    · intro others again built member
      cases done.symm.trans again
      exact accepted built member
    · have first : ownName leaf ∈ processes.map Built.name := by
        rw [(leaf_processes passes done).1]
        exact List.mem_cons_self
      rcases List.mem_map.mp first with ⟨built, member, named⟩
      rw [← named]
      exact hashable built member
  · rintro ⟨readable, accepted, hashable⟩
    rcases Option.isSome_iff_exists.mp (readability.mpr readable) with
      ⟨processes, done⟩
    refine ⟨.leaf { label := leaf.label, processes := processes }, ?_, ?_, ?_⟩
    · simp [buildNode, belongsTo, done]
    · simp only [BuiltNode.accepted, List.all_eq_true]
      exact accepted processes done
    · simp only [BuiltNode.hashable, List.all_eq_true]
      intro built member
      have listed := List.mem_map_of_mem (f := Built.name) member
      rw [(leaf_processes passes done).1] at listed
      rcases List.mem_cons.mp listed with own | gateway
      · rw [own]
        exact hashable
      · split at gateway
        · rw [List.mem_singleton.mp gateway]
          rfl
        · cases gateway

theorem upperOption_default
    {options : Dict} {key first second : String}
    (same : python.upper first = python.upper second) :
    upperOption python options key first =
      upperOption python options key second := by
  unfold upperOption Dict.getOr
  cases Dict.get options key with
  | none => simp [same]
  | some value => rfl

/-- Valid policies are accepted. -/
theorem arguments_of_policiesValid
    (naming : Naming python) {options : Dict}
    (valid : PoliciesValid python options) :
    ∃ arguments,
      supervisorArguments python options = some arguments ∧
        ∀ name, policiesAccepted (("name", name) :: arguments) = true := by
  rcases valid with ⟨strategy, backoff, read, waits, known, policy⟩
  rw [upperOption_default naming.strategy] at read
  rw [upperOption_default naming.backoff] at waits
  refine ⟨_, by simp [supervisorArguments, read, waits]; rfl, ?_⟩
  intro name
  simp [policiesAccepted, Dict.getOr, Dict.get, List.lookup_cons, known, policy]

/-- What the loader needs of the nodes below a supervisor. -/
structure PartsLoad
    (python : Python) (readers : Readers python.Class) (supervisors : List Dict)
    (leaves : List Leaf) : Prop where
  supervisors : ∀ options ∈ supervisors, SupervisorLoads options
  leaves : ∀ leaf ∈ leaves, LeafLoads python readers leaf

theorem partsLoad_append
    {supervisors more : List Dict} {leaves others : List Leaf} :
    PartsLoad python readers (supervisors ++ more) (leaves ++ others) ↔
      PartsLoad python readers supervisors leaves ∧
        PartsLoad python readers more others := by
  constructor
  · rintro ⟨first, second⟩
    exact
      ⟨⟨fun _ member => first _ (List.mem_append_left _ member),
          fun _ member => second _ (List.mem_append_left _ member)⟩,
        ⟨fun _ member => first _ (List.mem_append_right _ member),
          fun _ member => second _ (List.mem_append_right _ member)⟩⟩
  · rintro ⟨⟨first, second⟩, ⟨third, fourth⟩⟩
    refine ⟨?_, ?_⟩
    · intro options member
      rcases List.mem_append.mp member with early | late
      · exact first options early
      · exact third options late
    · intro leaf member
      rcases List.mem_append.mp member with early | late
      · exact second leaf early
      · exact fourth leaf late

/-- What the validator and the imports give for a part of the tree. -/
structure PartsPass
    (python : Python) (supervisors : List Dict) (leaves : List Leaf) :
    Prop where
  policies : ∀ options ∈ supervisors, PoliciesValid python options
  passes : ∀ leaf ∈ leaves, LeafPasses python leaf
  importable : ∀ leaf ∈ leaves, (leafClass python leaf).isSome

theorem PartsPass.mono
    {supervisors fewer : List Dict} {leaves others : List Leaf}
    (pass : PartsPass python supervisors leaves)
    (first : fewer ⊆ supervisors) (second : others ⊆ leaves) :
    PartsPass python fewer others where
  policies := fun options member => pass.policies options (first member)
  passes := fun leaf member => pass.passes leaf (second member)
  importable := fun leaf member => pass.importable leaf (second member)

theorem supervisorName_eq
    {options : Dict} {name : Yaml}
    (named : Dict.get options "name" = some name) :
    supervisorName options = name := by
  simp [supervisorName, Dict.getOr, named]

theorem supervisors_subset
    {node : Node} {nodes : List Node} (member : node ∈ nodes) :
    node.supervisors ⊆ supervisorsOf nodes := by
  induction nodes with
  | nil => cases member
  | cons first rest ih =>
      intro options there
      rw [supervisorsOf, List.mem_append]
      rcases List.mem_cons.mp member with rfl | later
      · exact Or.inl there
      · exact Or.inr (ih later there)

theorem leaves_subset
    {node : Node} {nodes : List Node} (member : node ∈ nodes) :
    node.leaves ⊆ Node.leavesOf nodes := by
  induction nodes with
  | nil => cases member
  | cons first rest ih =>
      intro leaf there
      rw [Node.leavesOf, List.mem_append]
      rcases List.mem_cons.mp member with rfl | later
      · exact Or.inl there
      · exact Or.inr (ih later there)

theorem children_load_iff
    {nodes : List Node}
    (parts :
      ∀ node ∈ nodes,
        (∃ built, NodeLoads python readers node built) ↔
          PartsLoad python readers node.supervisors node.leaves) :
    (∃ built,
      buildChildren python .all nodes = some built ∧
        childrenAccepted readers built = true) ↔
      PartsLoad python readers (supervisorsOf nodes)
        (Node.leavesOf nodes) := by
  induction nodes with
  | nil =>
      refine iff_of_true ⟨[], rfl, by simp [childrenAccepted]⟩ ?_
      exact ⟨by rintro _ ⟨⟩, by rintro _ ⟨⟩⟩
  | cons node rest ih =>
      rw [supervisorsOf, Node.leavesOf, partsLoad_append,
        ← parts node List.mem_cons_self,
        ← ih fun child member => parts child (List.mem_cons_of_mem _ member)]
      constructor
      · rintro ⟨built, made, accepted⟩
        rcases buildChildren_all_cons made with
          ⟨first, others, own, remaining, rfl⟩
        simp only [childrenAccepted, Bool.and_eq_true] at accepted
        exact
          ⟨⟨first, own, accepted.1.2, accepted.1.1⟩,
            ⟨others, remaining, accepted.2⟩⟩
      · rintro ⟨⟨first, own, accepted, hashable⟩, others, remaining, rest⟩
        refine ⟨first :: others, by simp [buildChildren, own, remaining], ?_⟩
        simp [childrenAccepted, hashable, accepted, rest]

/-- A node loads when each of its parts does. -/
theorem node_loads_iff
    (naming : Naming python) {node : Node}
    (pass : PartsPass python node.supervisors node.leaves) :
    (∃ built, NodeLoads python readers node built) ↔
      PartsLoad python readers node.supervisors node.leaves := by
  induction node using Node.children_induction with
  | leaf leaf =>
      have member : leaf ∈ Node.leaves (.leaf leaf) := by
        simp [Node.leaves]
      rw [leaf_loads_iff (pass.passes leaf member)
        (pass.importable leaf member)]
      simp only [Node.leaves, Node.supervisors]
      constructor
      · intro loads
        refine ⟨by simp, fun other there => ?_⟩
        rw [List.mem_singleton.mp there]
        exact loads
      · rintro ⟨-, leaves⟩
        exact leaves leaf (List.mem_singleton.mpr rfl)
  | supervisor options children ih =>
      simp only [Node.supervisors, Node.leaves] at pass ⊢
      have inside :=
        @children_load_iff python readers children fun child member =>
          ih child member
            (pass.mono
              (fun _ there =>
                List.mem_cons_of_mem _ (supervisors_subset member there))
              (leaves_subset member))
      rcases arguments_of_policiesValid naming
          (pass.policies options List.mem_cons_self) with
        ⟨arguments, given, accepted⟩
      constructor
      · rintro ⟨built, made, fits, hashable⟩
        simp only [buildNode, Option.bind_eq_bind,
          Option.bind_eq_some_iff, Option.pure_def,
          Option.some.injEq] at made
        rcases made with ⟨parts, done, name, named, values, -, rfl⟩
        simp only [BuiltNode.accepted, Bool.and_eq_true] at fits
        rcases inside.mp ⟨parts, done, fits.2⟩ with ⟨below, leaves⟩
        refine ⟨List.forall_mem_cons.mpr ⟨⟨?_, ?_⟩, below⟩, leaves⟩
        · exact hasKey_iff.mpr ⟨name, named⟩
        · rw [supervisorName_eq named]
          exact hashable
      · rintro ⟨supervisors, leaves⟩
        rcases List.forall_mem_cons.mp supervisors with ⟨first, below⟩
        rcases inside.mpr ⟨below, leaves⟩ with ⟨parts, done, fits⟩
        rcases hasKey_iff.mp first.named with ⟨name, named⟩
        refine
          ⟨.supervisor (("name", name) :: arguments) parts, ?_, ?_, ?_⟩
        · simp [buildNode, done, named, given]
        · simp [BuiltNode.accepted, accepted name, fits]
        · have own := first.hashable
          rw [supervisorName_eq named] at own
          exact own

end Tree

/-! ## The registered names -/

section Registered

variable {python : Python}

/--
The names of a part of the tree: those of the file and those that are not.
-/
def namesOf (python : Python) (leaves : List Leaf) (supervisors : List Dict) :
    List Yaml :=
  leaves.flatMap checkedNames ++ supervisors.map supervisorName ++
    leaves.flatMap (uncheckedNames python)

open scoped Classical in
theorem count_namesOf_append
    (name : Yaml) (leaves others : List Leaf) (supervisors more : List Dict) :
    (namesOf python (leaves ++ others) (supervisors ++ more)).count name =
      (namesOf python leaves supervisors).count name +
        (namesOf python others more).count name := by
  simp only [namesOf, List.flatMap_append, List.map_append,
    List.count_append]
  omega

theorem children_names_perm
    {nodes : List Node}
    (parts :
      ∀ node ∈ nodes, ∀ built,
        buildNode python .all node = some (some built) →
          (built.agentNames ++ built.supervisorNames python).Perm
            (namesOf python node.leaves node.supervisors))
    {built : List (BuiltNode python.Class)}
    (made : buildChildren python .all nodes = some built) :
    (agentNamesOf built ++ supervisorNamesOf python built).Perm
      (namesOf python (Node.leavesOf nodes) (supervisorsOf nodes)) := by
  classical
  induction nodes generalizing built with
  | nil =>
      cases made
      exact List.Perm.refl _
  | cons node rest ih =>
      rcases buildChildren_all_cons made with
        ⟨first, others, own, remaining, rfl⟩
      have front := parts node List.mem_cons_self first own
      have back :=
        ih (fun child member => parts child (List.mem_cons_of_mem _ member))
          remaining
      refine List.perm_iff_count.mpr fun name => ?_
      have here := front.count_eq name
      have there := back.count_eq name
      rw [Node.leavesOf, supervisorsOf, count_namesOf_append, ← here, ← there]
      simp only [agentNamesOf, supervisorNamesOf, List.count_append]
      omega

/-- The names of a tree are those of its file and those it adds. -/
theorem node_names_perm
    {node : Node} (passes : ∀ leaf ∈ node.leaves, LeafPasses python leaf)
    {built : BuiltNode python.Class}
    (made : buildNode python .all node = some (some built)) :
    (built.agentNames ++ built.supervisorNames python).Perm
      (namesOf python node.leaves node.supervisors) := by
  classical
  induction node using Node.children_induction generalizing built with
  | leaf leaf =>
      simp only [buildNode, belongsTo, if_true, Option.map_eq_some_iff,
        Option.some.injEq] at made
      rcases made with ⟨processes, done, rfl⟩
      have member : leaf ∈ Node.leaves (.leaf leaf) := by
        simp [Node.leaves]
      rcases leaf_processes (passes leaf member) done with ⟨names, implicit⟩
      simp only [BuiltNode.agentNames, BuiltNode.supervisorNames, names,
        implicit, Node.leaves, Node.supervisors, namesOf,
        List.flatMap_singleton, checkedNames, uncheckedNames]
      cases mixed leaf <;> cases servesItself leaf <;> simp
  | supervisor options children ih =>
      simp only [buildNode, Option.bind_eq_bind, Option.bind_eq_some_iff,
        Option.pure_def, Option.some.injEq] at made
      rcases made with ⟨parts, done, name, named, arguments, -, rfl⟩
      have inside :=
        children_names_perm
          (fun child member _ own =>
            ih child member
              (fun leaf there => passes leaf (leaves_subset member there))
              own)
          done
      refine List.perm_iff_count.mpr fun value => ?_
      have below := inside.count_eq value
      have own : Dict.getOr (("name", name) :: arguments) "name" .null = name :=
        rfl
      simp only [BuiltNode.agentNames, BuiltNode.supervisorNames, own,
        Node.leaves, Node.supervisors, namesOf, List.map_cons,
        supervisorName_eq named, List.count_append, List.count_cons]
        at below ⊢
      omega

/-- The names that the validator has seen are among those it compares. -/
theorem checkedNames_sublist
    {leaves : List Leaf} (passes : ∀ leaf ∈ leaves, LeafPasses python leaf) :
    (leaves.flatMap checkedNames).Sublist (leaves.flatMap givenNames) := by
  induction leaves with
  | nil => exact List.Sublist.refl _
  | cons leaf rest ih =>
      rw [List.flatMap_cons, List.flatMap_cons]
      refine List.Sublist.append ?_ (ih ?_)
      · unfold checkedNames
        cases own : mixed leaf with
        | true => exact List.nil_sublist _
        | false =>
            rw [givenNames_eq (passes leaf List.mem_cons_self) own]
            exact List.Sublist.refl _
      · exact fun other member => passes other (List.mem_cons_of_mem _ member)

/-- All names of a validated tree. -/
theorem registered_perm
    {root : Root} {arguments : Dict} {parts : List (BuiltNode python.Class)}
    (passes : ∀ leaf ∈ Node.leavesOf root.children, LeafPasses python leaf)
    (made : buildChildren python .all root.children = some parts) :
    (registeredNames python
      (.supervisor
        (("name", Dict.getOr root.options "name" (.str "root")) :: arguments)
        parts)).Perm
      (((Node.leavesOf root.children).flatMap checkedNames ++
          Dict.getOr root.options "name" (.str "root") ::
            (supervisorsOf root.children).map supervisorName) ++
        .str "_runtime" ::
          (Node.leavesOf root.children).flatMap (uncheckedNames python)) := by
  classical
  have inside :=
    children_names_perm
      (fun child member _ own =>
        node_names_perm
          (fun leaf there => passes leaf (leaves_subset member there)) own)
      made
  refine List.perm_iff_count.mpr fun value => ?_
  have below := inside.count_eq value
  have own :
      Dict.getOr
          (("name", Dict.getOr root.options "name" (.str "root")) ::
            arguments)
          "name" .null =
        Dict.getOr root.options "name" (.str "root") := rfl
  simp only [registeredNames, BuiltNode.agentNames,
    BuiltNode.supervisorNames, own, namesOf, List.count_append,
    List.count_cons] at below ⊢
  omega

/-- The names of a validated tree are distinct when the others are. -/
theorem distinct_registered_iff
    (naming : Naming python) {file : Parsed} {root : Root}
    (validated : Validated python naming.same file root)
    (named :
      ∀ options ∈ supervisorsOf root.children, hasKey options "name" = true)
    (arguments : Dict) {parts : List (BuiltNode python.Class)}
    (made : buildChildren python .all root.children = some parts) :
    Distinct naming.same
        (registeredNames python
          (.supervisor
            (("name", Dict.getOr root.options "name" (.str "root")) ::
              arguments)
            parts)) ↔
      Distinct naming.same
          (Dict.getOr root.options "name" (.str "root") ::
            (supervisorsOf root.children).map supervisorName) ∧
        Distinct naming.same
          (.str "_runtime" ::
            (Node.leavesOf root.children).flatMap (uncheckedNames python)) ∧
        ∀ name ∈
            .str "_runtime" ::
              (Node.leavesOf root.children).flatMap (uncheckedNames python),
          ∀ other ∈
              (Node.leavesOf root.children).flatMap checkedNames ++
                Dict.getOr root.options "name" (.str "root") ::
                  (supervisorsOf root.children).map supervisorName,
            naming.same name other = false := by
  have symmetric :
      ∀ {first second}, naming.same first second = false →
        naming.same second first = false := by
    intro first second apart
    rw [naming.comm]
    exact apart
  have seen := checkedNames_sublist validated.passes
  have checked :
      Distinct naming.same
        ((Node.leavesOf root.children).flatMap checkedNames) :=
    ((registerAll_nil_iff naming.comm).mp validated.distinct).sublist seen
  have titles :
      (supervisorsOf root.children).map nameOrUnnamed =
        (supervisorsOf root.children).map supervisorName := by
    refine List.map_congr_left fun options member => ?_
    rcases hasKey_iff.mp (named options member) with ⟨name, there⟩
    simp [nameOrUnnamed, supervisorName, Dict.getOr, there]
  have apart := validated.apart
  rw [titles] at apart
  unfold Distinct
  rw [(registered_perm validated.passes made).pairwise_iff symmetric,
    List.pairwise_append, List.pairwise_append]
  constructor
  · rintro ⟨⟨-, supervisors, -⟩, unchecked, cross⟩
    refine ⟨supervisors, unchecked, ?_⟩
    exact fun name new other there => symmetric (cross other there name new)
  · rintro ⟨supervisors, unchecked, fresh⟩
    refine ⟨⟨checked, supervisors, ?_⟩, unchecked, ?_⟩
    · exact fun name own other there =>
        apart name (seen.subset own) other there
    · exact fun name there other new =>
        symmetric (fresh other new name there)

end Registered

/-! ## Validated files -/

section Validated

variable {python : Python} {readers : Readers python.Class}

theorem loadTopology_eq_some_iff
    {file : Parsed} {tree : BuiltNode python.Class} :
    loadTopology python readers file = some tree ↔
      (∀ entry ∈ file.sections, entry.1 ∈ knownConfigKeys) ∧
        fromConfigDict python .all file.config = some tree ∧
        tree.accepted readers = true ∧
          sectionsRead python readers file = true := by
  unfold loadTopology
  split
  next known =>
    simp only [List.all_eq_true, decide_eq_true_eq] at known
    simp only [Option.bind_eq_bind, Option.bind_eq_some_iff,
      Option.pure_def]
    constructor
    · rintro ⟨built, made, fits⟩
      split at fits
      next accepted =>
        cases fits
        rw [Bool.and_eq_true] at accepted
        exact ⟨known, made, accepted⟩
      next => cases fits
    · rintro ⟨-, made, accepted, read⟩
      exact ⟨tree, made, by simp [accepted, read]⟩
  next unknown =>
    simp only [List.all_eq_true, decide_eq_true_eq] at unknown
    constructor
    · intro impossible
      cases impossible
    · rintro ⟨known, -⟩
      exact absurd known unknown

theorem partsPass_of_validated
    {same : Yaml → Yaml → Bool} {file : Parsed} {root : Root}
    (validated : Validated python same file root)
    (importable : Importable python file) :
    PartsPass python (supervisorsOf root.children)
      (Node.leavesOf root.children) where
  policies := validated.below
  passes := validated.passes
  importable := by
    intro leaf member
    have same : file.root = root := by
      rw [Parsed.root, validated.chosen]
      rfl
    rcases importable leaf (same ▸ member) with unknown | found
    · exact absurd unknown (kindOf_ne_unknown (validated.passes leaf member))
    · exact found

/--
A file that passes the validation loads and registers its names exactly when
what the validator does not look at is in order.
-/
theorem validated_file_loads_iff
    (naming : Naming python) {file : Parsed}
    (passed : Passed python naming.same file)
    (importable : Importable python file) :
    LoadsAndRegisters python readers naming.same file ↔
      Loadable python readers naming.same file file.root := by
  rcases validated_of_passed passed with ⟨root, validated⟩
  have own : file.root = root := by
    rw [Parsed.root, validated.chosen]
    rfl
  rw [own]
  have pass := partsPass_of_validated validated importable
  have inside :=
    @children_load_iff python readers root.children fun child member =>
      node_loads_iff naming
        (pass.mono (supervisors_subset member) (leaves_subset member))
  rcases arguments_of_policiesValid naming validated.policies with
    ⟨arguments, given, accepted⟩
  constructor
  · rintro ⟨tree, loaded, distinct, -⟩
    rcases loadTopology_eq_some_iff.mp loaded with
      ⟨known, built, fits, sections⟩
    simp only [fromConfigDict, validated.chosen, Option.bind_eq_bind,
      Option.bind_some, Option.bind_eq_some_iff, Option.pure_def,
      Option.some.injEq] at built
    rcases built with ⟨parts, made, values, -, rfl⟩
    simp only [BuiltNode.accepted, Bool.and_eq_true] at fits
    rcases inside.mp ⟨parts, made, fits.2⟩ with ⟨supervisors, leaves⟩
    have named :
        ∀ options ∈ supervisorsOf root.children,
          hasKey options "name" = true :=
      fun options member => (supervisors options member).named
    rcases (distinct_registered_iff naming validated named values made).mp
        distinct with ⟨titles, unchecked, fresh⟩
    exact
      { known := known
        sections := sections
        named := named
        hashable := fun options member => (supervisors options member).hashable
        mixed_hashable := fun leaf member _ => (leaves leaf member).hashable
        readable := fun leaf member => (leaves leaf member).readable
        accepted := fun leaf member => (leaves leaf member).accepted
        supervisors := titles
        unchecked := unchecked
        fresh := fresh }
  · intro loadable
    have leaves :
        ∀ leaf ∈ Node.leavesOf root.children,
          LeafLoads python readers leaf := by
      intro leaf member
      refine
        ⟨loadable.readable leaf member, loadable.accepted leaf member, ?_⟩
      cases plain : mixed leaf with
      | true => exact loadable.mixed_hashable leaf member plain
      | false =>
          refine validated.hashable _ (List.mem_flatMap.mpr ⟨leaf, member, ?_⟩)
          rw [givenNames_eq (validated.passes leaf member) plain]
          exact List.mem_singleton.mpr rfl
    have supervisors :
        ∀ options ∈ supervisorsOf root.children, SupervisorLoads options :=
      fun options member =>
        ⟨loadable.named options member, loadable.hashable options member⟩
    rcases inside.mpr ⟨supervisors, leaves⟩ with ⟨parts, made, fits⟩
    have distinct :=
      (distinct_registered_iff naming validated loadable.named arguments
        made).mpr
        ⟨loadable.supervisors, loadable.unchecked, loadable.fresh⟩
    refine ⟨_, loadTopology_eq_some_iff.mpr ?_, distinct, ?_⟩
    · refine ⟨loadable.known, ?_, ?_, loadable.sections⟩
      · simp [fromConfigDict, validated.chosen, made, given]
      · simp [BuiltNode.accepted, accepted, fits]
    · exact (registerAll_nil_iff naming.comm).mpr distinct

end Validated

/-! ## Two files -/

section Instances

/-- An interpreter with the capitals of the English letters. -/
def upperPython : Python :=
  { dottedPython with
    upper := fun text => String.ofList (text.toList.map Char.toUpper) }

theorem sameScalar_comm
    (first second : Yaml) :
    sameScalar first second = sameScalar second first := by
  cases first <;> cases second <;>
    simp [sameScalar, Bool.beq_comm, Bool.and_comm]

/-- Names are compared as scalars. -/
def scalarNaming : Naming upperPython where
  same := sameScalar
  comm := sameScalar_comm
  strategy := by decide +kernel
  backoff := by decide +kernel

/-- An environment in which everything is found and accepted. -/
def lenientReaders : Readers String where
  plugin _ _ _ := true
  int _ := some 0
  stateKey _ := true
  cipher := true
  journal _ := true
  syslog _ := true
  otlp _ _ := true
  network _ := true
  watchdog _ _ := true

/-- An agent by its dotted path. -/
def deskLeaf : Leaf where
  label := 1
  agent := some [("type", .str "shop.Desk"), ("name", .str "desk")]
  entries := []

/-- A topology server. -/
def mapLeaf : Leaf where
  label := 2
  agent := none
  entries := [("type", .str "topology_server"), ("name", .str "map")]

/-- An agent, a desk under its own supervisor, and a topology server. -/
def servedShop : Parsed :=
  parsedOf []
    [.leaf frontLeaf, .supervisor [("name", .str "office")] [.leaf deskLeaf],
      .leaf mapLeaf]

theorem servedShop_passed : Passed upperPython sameScalar servedShop := by
  unfold Passed
  decide +kernel

theorem servedShop_importable : Importable upperPython servedShop := by
  intro leaf member
  have listed : leaf ∈ [frontLeaf, deskLeaf, mapLeaf] := member
  simp only [List.mem_cons, List.not_mem_nil, or_false] at listed
  rcases listed with rfl | rfl | rfl
  · exact Or.inr (by decide +kernel)
  · exact Or.inr (by decide +kernel)
  · exact Or.inr (by decide +kernel)

theorem servedShop_leaves :
    Node.leavesOf servedShop.root.children =
      [frontLeaf, deskLeaf, mapLeaf] := rfl

theorem servedShop_loadable :
    Loadable upperPython lenientReaders sameScalar servedShop
      servedShop.root where
  known := by rintro _ ⟨⟩
  sections := by decide +kernel
  named := by
    intro options member
    rw [List.mem_singleton.mp member]
    decide +kernel
  hashable := by
    intro options member
    rw [List.mem_singleton.mp member]
    decide +kernel
  mixed_hashable := by
    rw [servedShop_leaves]
    decide +kernel
  readable := by
    rw [servedShop_leaves]
    decide +kernel
  accepted := by
    intro leaf member processes made built listed
    rw [servedShop_leaves] at member
    simp only [List.mem_cons, List.not_mem_nil, or_false] at member
    rcases member with rfl | rfl | rfl
    · cases made
      rw [List.mem_singleton.mp listed]
      rfl
    · cases made
      rw [List.mem_singleton.mp listed]
      rfl
    · cases made
      simp only [List.mem_cons, List.not_mem_nil, or_false] at listed
      rcases listed with rfl | rfl
      · rfl
      · decide +kernel
  supervisors := by
    unfold Distinct
    decide +kernel
  unchecked := by
    unfold Distinct
    decide +kernel
  fresh := by decide +kernel

/-- The shop with its topology server loads. -/
theorem served_shop_loads :
    LoadsAndRegisters upperPython lenientReaders sameScalar servedShop :=
  (validated_file_loads_iff scalarNaming servedShop_passed
    servedShop_importable).mpr servedShop_loadable

/-- Two supervisors of one name. -/
def twinOffices : Parsed :=
  parsedOf []
    [.supervisor [("name", .str "office")] [.leaf frontLeaf],
      .supervisor [("name", .str "office")] [.leaf deskLeaf]]

theorem twinOffices_importable : Importable upperPython twinOffices := by
  intro leaf member
  have listed : leaf ∈ [frontLeaf, deskLeaf] := member
  simp only [List.mem_cons, List.not_mem_nil, or_false] at listed
  rcases listed with rfl | rfl
  · exact Or.inr (by decide +kernel)
  · exact Or.inr (by decide +kernel)

/-- The validator passes two supervisors that cannot both be registered. -/
theorem twin_offices_pass_validation :
    Passed upperPython scalarNaming.same twinOffices ∧
      Importable upperPython twinOffices ∧
      ¬LoadsAndRegisters upperPython lenientReaders scalarNaming.same
        twinOffices := by
  refine ⟨?_, twinOffices_importable, ?_⟩
  · unfold Passed
    decide +kernel
  · rintro ⟨tree, loaded, -, registers⟩
    have refused :
        (loadTopology upperPython lenientReaders twinOffices).any
          (fun tree =>
            registerAll scalarNaming.same []
              (registeredNames upperPython tree)) =
          false := by
      decide +kernel
    rw [loaded] at refused
    simp [registers] at refused

end Instances

end Civitas.Topology
