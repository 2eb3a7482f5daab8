import Civitas.Topology.ProcessSplit

/-!
# When a split keeps the topology

A leaf comes out of the coordinator and the worker of its tag as the single
process would have built it exactly when it has no tag, or none of the
differences between the two walks touches it.
-/

namespace Civitas.Topology

section Leaves

variable {python : Python} {env : String → Option String}

/-- A dynamic supervisor that a worker builds like the runtime. -/
structure KeptDynamic (raw cooked : Leaf) : Prop where
  typed : isType (workerPart raw) "dynamic_supervisor" = true
  kind : kindOf cooked = .dynamicSupervisor
  name : Dict.get (workerPart raw) "name" = Dict.get cooked.entries "name"
  options :
    ∀ row ∈ sharedDynamicOptions,
      Dict.getOr (workerPart raw) row.key row.default =
        Dict.getOr cooked.entries row.key row.default
  /-- The worker does not pass the quotas of each spawner on. -/
  unlimited :
    ∀ row ∈ spawnerOptions,
      Dict.getOr cooked.entries row.key row.default = row.default

/-- The class that the `type` of an `agent` names. -/
def classOf (python : Python) (config : Dict) : Option python.Class :=
  (Dict.get config "type").bind (resolveClass python)

/-- An agent that a worker builds like the runtime. -/
structure KeptAgent (python : Python) (raw cooked : Leaf) : Prop where
  untyped : isType (workerPart raw) "dynamic_supervisor" = false
  kind : kindOf cooked = .agent (workerPart cooked)
  cls : classOf python (workerPart raw) = classOf python (workerPart cooked)
  name :
    Dict.get (workerPart raw) "name" = Dict.get (workerPart cooked) "name"
  /-- The worker does not pass the watchdog on. -/
  unwatched : Dict.get (workerPart cooked) "handle_timeout" = none

/-- A tagged leaf that its worker builds like the runtime. -/
structure KeptByWorker
    (python : Python) (tag : String) (raw cooked : Leaf) : Prop where
  /-- The tag is a text and holds no variable. -/
  written : processOf raw = some (.str tag)
  same : KeptDynamic raw cooked ∨ KeptAgent python raw cooked

theorem readOptions_eq_iff
    {table : List OptionRow} {first second : Dict} :
    readOptions table first = readOptions table second ↔
      ∀ row ∈ table,
        Dict.getOr first row.key row.default =
          Dict.getOr second row.key row.default := by
  simp [readOptions]

/-- The class of a leaf that is built as one process. -/
theorem cls_of_buildLeaf
    {leaf : Leaf} {process : Built python.Class}
    (made : buildLeaf python leaf = some [process]) :
    match kindOf leaf with
    | .topologyServer => process.cls = .topologyAgent
    | .dynamicSupervisor => process.cls = .dynamicSupervisor
    | .evalAgent => process.cls = .evalAgent
    | .httpGateway => process.cls = .httpGateway
    | .agent _ | .genServer | .flat => ∃ cls, process.cls = .imported cls
    | .unknown => False := by
  unfold buildLeaf at made
  cases kind : kindOf leaf with
  | topologyServer =>
      simp only [kind, buildTopologyServer, Option.bind_eq_bind,
        Option.bind_eq_some_iff] at made
      rcases made with ⟨config, -, built⟩
      split at built
      · cases built
        rfl
      · simp [Option.bind_eq_some_iff] at built
  | dynamicSupervisor =>
      simp only [kind, buildDynamicSupervisor, single, Option.bind_eq_bind,
        Option.bind_eq_some_iff, Option.pure_def, Option.some.injEq,
        List.cons.injEq, and_true] at made
      rcases made with ⟨name, -, rfl⟩
      rfl
  | evalAgent =>
      simp only [kind, buildEvalAgent, single, Option.bind_eq_bind,
        Option.bind_eq_some_iff, Option.pure_def, Option.some.injEq,
        List.cons.injEq, and_true] at made
      rcases made with ⟨name, -, exporters, -, rfl⟩
      rfl
  | httpGateway =>
      simp only [kind, buildHttpGateway, single, Option.bind_eq_bind,
        Option.bind_eq_some_iff, Option.pure_def, Option.some.injEq,
        List.cons.injEq, and_true] at made
      rcases made with ⟨name, -, config, -, auth, -, docs, -, rfl⟩
      rfl
  | agent config =>
      simp only [kind, buildAgent, single, Option.bind_eq_bind,
        Option.bind_eq_some_iff, Option.pure_def, Option.some.injEq,
        List.cons.injEq, and_true] at made
      rcases made with ⟨path, -, cls, -, name, -, timeout, -, rfl⟩
      exact ⟨cls, rfl⟩
  | genServer =>
      simp only [kind, buildGenServer, single, Option.bind_eq_bind,
        Option.bind_eq_some_iff, Option.pure_def, Option.some.injEq,
        List.cons.injEq, and_true] at made
      rcases made with ⟨module, -, own, -, cls, -, name, -, rfl⟩
      exact ⟨cls, rfl⟩
  | flat =>
      simp only [kind, buildFlat, single, Option.bind_eq_bind,
        Option.bind_eq_some_iff, Option.pure_def, Option.some.injEq,
        List.cons.injEq, and_true] at made
      rcases made with ⟨path, -, cls, -, name, -, rfl⟩
      exact ⟨cls, rfl⟩
  | unknown => simp [kind] at made

/-- The `agent` key is what makes a leaf an agent. -/
theorem agent_of_kindOf
    {leaf : Leaf} {config : Dict} (kind : kindOf leaf = .agent config) :
    leaf.agent = some config := by
  unfold kindOf at kind
  repeat' split at kind
  all_goals cases kind
  assumption

theorem agent_eq_none_of_kindOf
    {leaf : Leaf} (kind : kindOf leaf = .genServer ∨ kindOf leaf = .flat) :
    leaf.agent = none := by
  unfold kindOf at kind
  repeat' split at kind
  all_goals simp_all

theorem agent_isSome_of_substituted
    {raw cooked : Leaf} (replaced : Replaced env raw cooked) :
    cooked.agent.isSome = raw.agent.isSome := by
  rcases (leaf_substitute_iff.mp replaced).2.2 with
    ⟨own, new⟩ | ⟨agent, changed, own, new, -⟩
  · rw [own, new]
  · rw [own, new]
    rfl

/-! ## One leaf -/

/-- The worker of a tag builds the processes of a leaf. -/
def WorkerBuilds
    (python : Python) (tag : String) (raw : Leaf)
    (processes : List (Built python.Class)) : Prop :=
  ∃ config process,
    assigned tag raw = some config ∧
      buildWorkerAgent python config = some process ∧ processes = [process]

theorem keptDynamic_of_built
    {raw cooked : Leaf} {process : Built python.Class}
    (typed : isType (workerPart raw) "dynamic_supervisor" = true)
    (held : buildWorkerAgent python (workerPart raw) = some process)
    (made : buildLeaf python cooked = some [process]) :
    KeptDynamic raw cooked := by
  simp only [buildWorkerAgent, typed, if_true, Option.bind_eq_bind,
    Option.bind_eq_some_iff, Option.pure_def, Option.some.injEq] at held
  rcases held with ⟨name, named, rfl⟩
  have classes := cls_of_buildLeaf made
  have kind : kindOf cooked = .dynamicSupervisor := by
    cases own : kindOf cooked <;> simp [own] at classes ⊢
  simp only [buildLeaf, kind, buildDynamicSupervisor, single,
    Option.bind_eq_bind, Option.bind_eq_some_iff, Option.pure_def,
    Option.some.injEq, List.cons.injEq, Built.mk.injEq, and_true,
    true_and, List.cons_append, List.nil_append, Prod.mk.injEq] at made
  rcases made with ⟨same, found, rfl, arguments⟩
  have lengths :
      (readOptions sharedDynamicOptions cooked.entries).length =
        (readOptions sharedDynamicOptions (workerPart raw)).length := by
    simp [readOptions]
  rcases List.append_inj arguments lengths with ⟨shared, quotas⟩
  exact
    { typed := typed
      kind := kind
      name := by rw [named, found]
      options := readOptions_eq_iff.mp shared.symm
      unlimited := readOptions_eq_iff.mp quotas }

theorem keptAgent_of_built
    {raw cooked : Leaf} {process : Built python.Class}
    (replaced : Replaced env raw cooked)
    (untyped : isType (workerPart raw) "dynamic_supervisor" = false)
    (agent : raw.agent.isSome)
    (held : buildWorkerAgent python (workerPart raw) = some process)
    (made : buildLeaf python cooked = some [process]) :
    KeptAgent python raw cooked := by
  simp only [buildWorkerAgent, untyped, Bool.false_eq_true, if_false,
    Option.bind_eq_bind, Option.bind_eq_some_iff, Option.pure_def,
    Option.some.injEq] at held
  rcases held with ⟨path, typed, cls, resolved, name, named, rfl⟩
  have present : cooked.agent.isSome := by
    rw [agent_isSome_of_substituted replaced, agent]
  have classes := cls_of_buildLeaf made
  have kind : ∃ config, kindOf cooked = .agent config := by
    cases own : kindOf cooked with
    | agent config => exact ⟨config, rfl⟩
    | genServer =>
        rw [agent_eq_none_of_kindOf (.inl own)] at present
        cases present
    | flat =>
        rw [agent_eq_none_of_kindOf (.inr own)] at present
        cases present
    | topologyServer => simp [own] at classes
    | dynamicSupervisor => simp [own] at classes
    | evalAgent => simp [own] at classes
    | httpGateway => simp [own] at classes
    | unknown => simp [own] at classes
  rcases kind with ⟨config, kind⟩
  have part : workerPart cooked = config := by
    rw [workerPart, agent_of_kindOf kind]
    rfl
  simp only [buildLeaf, kind, buildAgent, single, Option.bind_eq_bind,
    Option.bind_eq_some_iff, Option.pure_def, Option.some.injEq,
    List.cons.injEq, Built.mk.injEq, BuiltClass.imported.injEq, and_true,
    List.cons_append, List.nil_append, Prod.mk.injEq, true_and] at made
  rcases made with
    ⟨path', typed', cls', resolved', name', named', timeout, given, rfl,
      rfl, rfl⟩
  refine
    { untyped := untyped
      kind := by rw [kind, part]
      cls := ?_
      name := by rw [part, named, named']
      unwatched := ?_ }
  · rw [part, classOf, classOf, typed, typed']
    simp only [Option.bind_some, resolved, resolved']
  · rw [part]
    unfold timeoutArgument at given
    split at given
    next absent => exact absent
    next value watched => simp at given

theorem KeptDynamic.builds
    {raw cooked : Leaf} (kept : KeptDynamic raw cooked)
    {processes : List (Built python.Class)}
    (made : buildLeaf python cooked = some processes) :
    ∃ process,
      buildWorkerAgent python (workerPart raw) = some process ∧
        processes = [process] := by
  simp only [buildLeaf, kept.kind, buildDynamicSupervisor, single,
    Option.bind_eq_bind, Option.bind_eq_some_iff, Option.pure_def,
    Option.some.injEq] at made
  rcases made with ⟨name, named, rfl⟩
  have quotas :
      readOptions spawnerOptions cooked.entries =
        readOptions spawnerOptions [] :=
    readOptions_eq_iff.mpr kept.unlimited
  refine ⟨_, ?_, rfl⟩
  simp only [buildWorkerAgent, kept.typed, if_true, kept.name, named,
    readOptions_eq_iff.mpr kept.options, quotas, Option.bind_eq_bind,
    Option.bind_some, Option.pure_def]

theorem KeptAgent.builds
    {raw cooked : Leaf} (kept : KeptAgent python raw cooked)
    {processes : List (Built python.Class)}
    (made : buildLeaf python cooked = some processes) :
    ∃ process,
      buildWorkerAgent python (workerPart raw) = some process ∧
        processes = [process] := by
  simp only [buildLeaf, kept.kind, buildAgent, single, Option.bind_eq_bind,
    Option.bind_eq_some_iff, Option.pure_def, Option.some.injEq] at made
  rcases made with
    ⟨path, typed, cls, resolved, name, named, timeout, given, rfl⟩
  have none_given : timeout = [] := by
    simpa [timeoutArgument, kept.unwatched, eq_comm] using given
  have loaded : classOf python (workerPart raw) = some cls := by
    rw [kept.cls, classOf, typed]
    exact resolved
  rcases Option.bind_eq_some_iff.mp loaded with ⟨path', typed', resolved'⟩
  subst none_given
  refine ⟨_, ?_, rfl⟩
  simp only [buildWorkerAgent, kept.untyped, Bool.false_eq_true, if_false,
    typed', resolved', kept.name, named, Option.bind_eq_bind,
    Option.bind_some, Option.pure_def, List.append_nil]

/-- When the worker of a tag builds a leaf like the runtime. -/
theorem workerBuilds_iff
    {tag : String} {raw cooked : Leaf}
    (replaced : Replaced env raw cooked)
    {processes : List (Built python.Class)}
    (made : buildLeaf python cooked = some processes) :
    WorkerBuilds python tag raw processes ↔
      KeptByWorker python tag raw cooked := by
  constructor
  · rintro ⟨config, process, found, held, rfl⟩
    rcases assigned_eq_some_iff.mp found with ⟨rfl, written, listed⟩
    refine ⟨written, ?_⟩
    cases typed : isType (workerPart raw) "dynamic_supervisor" with
    | true => exact Or.inl (keptDynamic_of_built typed held made)
    | false =>
        refine Or.inr (keptAgent_of_built replaced typed ?_ held made)
        rcases listed with agent | flat
        · exact agent
        · cases own : raw.agent with
          | some config => rfl
          | none =>
              rw [workerPart, own, Option.getD_none, flat] at typed
              cases typed
  · intro kept
    have listed :
        raw.agent.isSome ∨
          isType raw.entries "dynamic_supervisor" = true := by
      rcases kept.same with dynamic | agent
      · cases own : raw.agent with
        | some config => exact Or.inl rfl
        | none =>
            have typed := dynamic.typed
            rw [workerPart, own] at typed
            exact Or.inr typed
      · have present := agent_of_kindOf agent.kind
        rw [← agent_isSome_of_substituted replaced, present]
        exact Or.inl rfl
    have built :
        ∃ process,
          buildWorkerAgent python (workerPart raw) = some process ∧
            processes = [process] := by
      rcases kept.same with dynamic | agent
      · exact dynamic.builds made
      · exact agent.builds made
    rcases built with ⟨process, held, rfl⟩
    exact
      ⟨workerPart raw, process,
        assigned_eq_some_iff.mpr ⟨rfl, kept.written, listed⟩, held, rfl⟩

/-- A text tag is a tag. -/
theorem tagged_of_written
    {tag : String} {raw cooked : Leaf}
    (replaced : Replaced env raw cooked)
    (written : processOf raw = some (.str tag)) :
    (tagOf python cooked).isSome := by
  have kept : ∃ text, processOf cooked = some (.str text) := by
    rcases leaf_substitute_iff.mp replaced with
      ⟨-, entries, ⟨own, new⟩ | ⟨agent, changed, own, new, inside⟩⟩
    · rw [processOf, own] at written
      rw [processOf, new]
      exact get_str_of_substituted entries written
    · rw [processOf, own] at written
      rw [processOf, new]
      exact get_str_of_substituted inside written
  rcases kept with ⟨text, there⟩
  simp [tagOf, there]

end Leaves

/-! ## The whole topology -/

/-- A topology file, whose leaves are told apart by their places. -/
structure TopologyFile where
  config : Config
  distinct :
    ∀ root, config.supervision = some root ∨ config.supervisor = some root →
      ((Node.leavesOf root.children).map Leaf.label).Nodup

/-- The leaves that the runtime sees. -/
def TopologyFile.leaves (file : TopologyFile) : List Leaf :=
  match file.config.runtimeRoot with
  | some root => Node.leavesOf root.children
  | none => []

section Split

variable (python : Python) (env : String → Option String)

/-- The processes of a leaf in the tree of a filter. -/
def heldBy (filter : Filter) (file : TopologyFile) (label : Nat) :
    List (List (Built python.Class)) :=
  match fromConfig python env filter file.config with
  | some tree => processesAt label tree.placed
  | none => []

/-- The processes of a leaf in the worker of its tag. -/
def heldByWorker (file : TopologyFile) (label : Nat) :
    Option String → List (List (Built python.Class))
  | none => []
  | some tag =>
      match runWorker python tag file.config with
      | some placed => processesAt label placed
      | none => []

/--
Every leaf is built by exactly one of the coordinator and the worker of its
tag, with the class and the arguments that the single process gives it.
-/
def SplitPreserves (file : TopologyFile) : Prop :=
  ∀ leaf ∈ file.leaves, ∀ cooked, Replaced env leaf cooked →
    ∃ processes,
      heldBy python env .all file leaf.label = [processes] ∧
        heldBy python env .untagged file leaf.label ++
            heldByWorker python file leaf.label (tagOf python cooked) =
          [processes]

/-- Both walks start at the same key. -/
def SameRoot (file : TopologyFile) : Prop :=
  ∀ root, file.config.supervision = some root → root.truthy = true

/-- Every tagged leaf is kept by its worker. -/
def SplitsCleanly (file : TopologyFile) : Prop :=
  ∀ leaf ∈ file.leaves, ∀ cooked, Replaced env leaf cooked →
    ∀ tag, tagOf python cooked = some tag →
      SameRoot file ∧ KeptByWorker python tag leaf cooked

end Split

section Runs

variable {python : Python} {env : String → Option String}

theorem filter_truthy_of_substituted
    {raw cooked : Option Root}
    (done : substituteRoot env raw = some cooked)
    {root : Root} (chosen : cooked.filter Root.truthy = some root) :
    ∃ own, raw.filter Root.truthy = some own ∧
      Root.substitute env own = some root := by
  cases raw with
  | none =>
      cases done
      cases chosen
  | some own =>
      rcases Option.map_eq_some_iff.mp done with ⟨new, replaced, rfl⟩
      rcases Option.filter_eq_some_iff.mp chosen with ⟨same, truthy⟩
      cases same
      have kept := (root_of_substituted replaced).1
      rw [truthy] at kept
      exact ⟨own, by simp [Option.filter, ← kept], replaced⟩

theorem filter_eq_none_of_substituted
    {raw cooked : Option Root}
    (done : substituteRoot env raw = some cooked)
    (absent : cooked.filter Root.truthy = none) :
    raw.filter Root.truthy = none := by
  cases raw with
  | none => rfl
  | some own =>
      rcases Option.map_eq_some_iff.mp done with ⟨new, replaced, rfl⟩
      have kept := (root_of_substituted replaced).1
      simpa [Option.filter, kept] using absent

/-- The root of the substituted file is the substituted root. -/
theorem runtimeRoot_of_substituted
    {raw cooked : Config} (done : raw.substitute env = some cooked)
    {root : Root} (chosen : cooked.runtimeRoot = some root) :
    ∃ own, raw.runtimeRoot = some own ∧
      Root.substitute env own = some root := by
  simp only [Config.substitute, Option.bind_eq_bind,
    Option.bind_eq_some_iff, Option.pure_def, Option.some.injEq] at done
  rcases done with ⟨supervision, first, supervisor, second, rfl⟩
  unfold Config.runtimeRoot at chosen ⊢
  dsimp only at chosen
  cases top : supervision.filter Root.truthy with
  | some new =>
      rw [top] at chosen
      cases chosen
      rcases filter_truthy_of_substituted first top with ⟨own, there, same⟩
      exact ⟨own, by rw [there], same⟩
  | none =>
      rw [top] at chosen
      rw [filter_eq_none_of_substituted first top]
      exact filter_truthy_of_substituted second chosen

/-- The run of everything: its root and leaves, before and after. -/
structure WholeRun (file : TopologyFile) (raws cookeds : List Leaf) :
    Prop where
  leaves_eq : file.leaves = raws
  distinct : (raws.map Leaf.label).Nodup
  replaced : List.Forall₂ (Replaced env) raws cookeds
  trees :
    ∀ filter,
      ∃ part,
        fromConfig python env filter file.config = some part ∧
          BuiltFrom filter cookeds part.placed

/-- What a successful run of everything gives. -/
theorem wholeRun_of_fromConfig
    {file : TopologyFile} {whole : BuiltNode python.Class}
    (done : fromConfig python env .all file.config = some whole) :
    ∃ raws cookeds, @WholeRun python env file raws cookeds := by
  simp only [fromConfig, Option.bind_eq_bind, Option.bind_eq_some_iff]
    at done
  rcases done with ⟨cooked, substituted, built⟩
  rcases fromConfigDict_of_all built with ⟨root, chosen, trees⟩
  rcases runtimeRoot_of_substituted substituted chosen with
    ⟨own, selected, replaced⟩
  refine
    ⟨Node.leavesOf own.children, Node.leavesOf root.children, ?_, ?_,
      (root_of_substituted replaced).2, ?_⟩
  · rw [TopologyFile.leaves, selected]
  · refine file.distinct own ?_
    unfold Config.runtimeRoot at selected
    split at selected
    next top kept =>
      cases selected
      exact Or.inl (Option.filter_eq_some_iff.mp kept).1
    next absent => exact Or.inr (Option.filter_eq_some_iff.mp selected).1
  · intro filter
    rcases trees filter with ⟨part, made, holds⟩
    exact ⟨part, by simp [fromConfig, substituted, made], holds⟩

theorem exists_replaced
    {raws cookeds : List Leaf}
    (replaced : List.Forall₂ (Replaced env) raws cookeds)
    {raw : Leaf} (member : raw ∈ raws) :
    ∃ cooked ∈ cookeds, Replaced env raw cooked := by
  induction replaced with
  | nil => cases member
  | cons own rest ih =>
      rcases List.mem_cons.mp member with rfl | later
      · exact ⟨_, List.mem_cons_self, own⟩
      · rcases ih later with ⟨cooked, there, same⟩
        exact ⟨cooked, List.mem_cons_of_mem _ there, same⟩

theorem labels_of_replaced
    {raws cookeds : List Leaf}
    (replaced : List.Forall₂ (Replaced env) raws cookeds) :
    cookeds.map Leaf.label = raws.map Leaf.label := by
  induction replaced with
  | nil => rfl
  | cons own rest ih =>
      rw [List.map_cons, List.map_cons, ih, (leaf_substitute_iff.mp own).1]

/-- What the tree of a filter holds of a leaf. -/
theorem WholeRun.heldBy_eq
    {file : TopologyFile} {raws cookeds : List Leaf}
    (run : @WholeRun python env file raws cookeds)
    {raw cooked : Leaf} (member : raw ∈ raws)
    (replaced : Replaced env raw cooked) (filter : Filter) :
    heldBy python env filter file raw.label =
      if belongsTo python filter cooked then
        [(buildLeaf python cooked).getD []]
      else [] := by
  rcases exists_replaced run.replaced member with ⟨other, there, same⟩
  have agree : other = cooked := Option.some.inj (same.symm.trans replaced)
  subst agree
  have distinct : (cookeds.map Leaf.label).Nodup := by
    rw [labels_of_replaced run.replaced]
    exact run.distinct
  rcases run.trees filter with ⟨part, made, holds⟩
  have label : other.label = raw.label := (leaf_substitute_iff.mp same).1
  unfold heldBy
  rw [made]
  dsimp only
  rw [holds.placed_eq, ← label, processesAt_filter distinct there]
  rfl

/-- Every leaf of a successful run can be built. -/
theorem WholeRun.buildable
    {file : TopologyFile} {raws cookeds : List Leaf}
    (run : @WholeRun python env file raws cookeds)
    {raw cooked : Leaf} (member : raw ∈ raws)
    (replaced : Replaced env raw cooked) :
    ∃ processes, buildLeaf python cooked = some processes := by
  rcases exists_replaced run.replaced member with ⟨other, there, same⟩
  have agree : other = cooked := Option.some.inj (same.symm.trans replaced)
  subst agree
  rcases run.trees .all with ⟨part, -, holds⟩
  exact Option.isSome_iff_exists.mp (holds.buildable other there rfl)

/-- Without the same root a worker finds nothing. -/
theorem runWorker_of_not_sameRoot
    {file : TopologyFile} (differs : ¬SameRoot file) (tag : String) :
    runWorker python tag file.config = none := by
  simp only [SameRoot, not_forall] at differs
  rcases differs with ⟨root, present, falsy⟩
  have chosen : file.config.workerRoot = root := by
    rw [Config.workerRoot, present]
    rfl
  cases root with
  | null => simp [runWorker, findProcessAgents, chosen]
  | dict options children =>
      have absent : children = none := by
        simp only [Root.truthy, Bool.or_eq_true, not_or,
          Bool.not_eq_true, Option.isSome_eq_false_iff,
          Option.isNone_iff_eq_none] at falsy
        exact falsy.2
      subst absent
      simp [runWorker, findProcessAgents, chosen, walkChildren]

/-- With the same root a worker finds its nodes among the same leaves. -/
theorem findProcessAgents_of_sameRoot
    {file : TopologyFile} (agrees : SameRoot file) (tag : String)
    {root : Root} (chosen : file.config.runtimeRoot = some root) :
    findProcessAgents tag file.config =
      some (file.leaves.filterMap (foundAt tag)) := by
  have own : file.config.workerRoot = root ∧ root.truthy = true := by
    unfold Config.runtimeRoot at chosen
    unfold Config.workerRoot
    cases top : file.config.supervision with
    | some value =>
        have truthy := agrees value top
        rw [top] at chosen
        simp only [Option.filter, truthy, if_true, Option.some.injEq] at chosen
        rw [← chosen]
        exact ⟨rfl, truthy⟩
    | none =>
        rw [top] at chosen
        rcases Option.filter_eq_some_iff.mp chosen with ⟨there, truthy⟩
        rw [there]
        exact ⟨rfl, truthy⟩
  rw [TopologyFile.leaves, chosen, findProcessAgents, own.1]
  cases root with
  | null => exact absurd own.2 (by decide)
  | dict options children => exact congrArg some (walkChildren_eq tag _)

/-- What the worker of a tag holds of a leaf. -/
theorem runWorker_eq_some_iff
    {file : TopologyFile} (agrees : SameRoot file) {tag : String}
    {root : Root} (chosen : file.config.runtimeRoot = some root)
    {placed : List (Placed python.Class)} :
    runWorker python tag file.config = some placed ↔
      file.leaves.filterMap (foundAt tag) ≠ [] ∧
        (∀ one ∈ file.leaves.filterMap (foundAt tag),
          (buildWorkerAgent python one.2).isSome) ∧
        placed =
          (file.leaves.filterMap (foundAt tag)).map (placeFound python) := by
  rw [runWorker, findProcessAgents_of_sameRoot agrees tag chosen]
  simp only [Option.bind_eq_bind, Option.bind_some, ←
    buildWorkerAgents_eq_some_iff]
  cases file.leaves.filterMap (foundAt tag) with
  | nil => simp
  | cons first rest => simp

theorem runtimeRoot_of_mem
    {file : TopologyFile} {leaf : Leaf} (member : leaf ∈ file.leaves) :
    ∃ root, file.config.runtimeRoot = some root := by
  cases own : file.config.runtimeRoot with
  | some root => exact ⟨root, rfl⟩
  | none =>
      rw [TopologyFile.leaves, own] at member
      cases member

/-- A leaf that its worker holds is kept. -/
theorem WholeRun.kept_of_held
    {file : TopologyFile} {raws cookeds : List Leaf}
    (run : @WholeRun python env file raws cookeds)
    {raw cooked : Leaf} (member : raw ∈ raws)
    (replaced : Replaced env raw cooked)
    {tag : String} {processes : List (Built python.Class)}
    (made : buildLeaf python cooked = some processes)
    (held : heldByWorker python file raw.label (some tag) = [processes]) :
    SameRoot file ∧ KeptByWorker python tag raw cooked := by
  have agrees : SameRoot file := by
    by_contra differs
    simp [heldByWorker, runWorker_of_not_sameRoot differs tag] at held
  rcases runtimeRoot_of_mem (run.leaves_eq ▸ member) with ⟨root, chosen⟩
  refine ⟨agrees, (workerBuilds_iff replaced made).mp ?_⟩
  unfold heldByWorker at held
  cases ran : runWorker python tag file.config with
  | none => simp [ran] at held
  | some placed =>
      rcases (runWorker_eq_some_iff agrees chosen).mp ran with
        ⟨-, buildable, rfl⟩
      simp only [ran, run.leaves_eq] at held
      rw [processesAt_found run.distinct member] at held
      cases found : assigned tag raw with
      | none => simp [found] at held
      | some config =>
          simp only [found, Option.map_some, Option.toList_some,
            List.cons.injEq, and_true] at held
          have listed :
              (raw.label, config) ∈ file.leaves.filterMap (foundAt tag) := by
            rw [run.leaves_eq]
            exact
              List.mem_filterMap.mpr ⟨raw, member, by simp [foundAt, found]⟩
          rcases Option.isSome_iff_exists.mp (buildable _ listed) with
            ⟨process, built⟩
          refine ⟨config, process, found, built, ?_⟩
          rw [← held, built]
          rfl

/-- When all tagged leaves are kept, a worker holds each of its own. -/
theorem WholeRun.held_of_clean
    {file : TopologyFile} {raws cookeds : List Leaf}
    (run : @WholeRun python env file raws cookeds)
    (clean : SplitsCleanly python env file)
    {raw cooked : Leaf} (member : raw ∈ raws)
    (replaced : Replaced env raw cooked)
    {tag : String} (tagged : tagOf python cooked = some tag)
    {processes : List (Built python.Class)}
    (made : buildLeaf python cooked = some processes) :
    heldByWorker python file raw.label (some tag) = [processes] := by
  have inside : raw ∈ file.leaves := run.leaves_eq ▸ member
  rcases clean raw inside cooked replaced tag tagged with ⟨agrees, kept⟩
  rcases (workerBuilds_iff replaced made).mpr kept with
    ⟨config, process, found, built, rfl⟩
  rcases runtimeRoot_of_mem inside with ⟨root, chosen⟩
  have buildable :
      ∀ one ∈ file.leaves.filterMap (foundAt tag),
        (buildWorkerAgent python one.2).isSome := by
    intro one listed
    rcases List.mem_filterMap.mp listed with ⟨other, known, there⟩
    rcases Option.map_eq_some_iff.mp there with ⟨part, taken, rfl⟩
    have written := (assigned_eq_some_iff.mp taken).2.1
    have known' : other ∈ raws := run.leaves_eq ▸ known
    rcases exists_replaced run.replaced known' with ⟨new, -, same⟩
    rcases Option.isSome_iff_exists.mp
        (@tagged_of_written python _ _ _ _ same written) with
      ⟨own, tagged'⟩
    have stays := (clean other known new same own tagged').2
    have equal : own = tag := by
      have texts := stays.written.symm.trans written
      simpa using texts
    subst equal
    rcases run.buildable known' same with ⟨parts, made'⟩
    rcases (workerBuilds_iff same made').mpr stays with
      ⟨config', process', taken', built', -⟩
    rw [taken] at taken'
    cases taken'
    rw [built']
    rfl
  have listed :
      (raw.label, config) ∈ file.leaves.filterMap (foundAt tag) :=
    List.mem_filterMap.mpr ⟨raw, inside, by simp [foundAt, found]⟩
  have ran :
      runWorker python tag file.config =
        some
          ((file.leaves.filterMap (foundAt tag)).map (placeFound python)) :=
    (runWorker_eq_some_iff agrees chosen).mpr
      ⟨List.ne_nil_of_mem listed, buildable, rfl⟩
  simp only [heldByWorker, ran, run.leaves_eq]
  rw [processesAt_found run.distinct member, found]
  simp [built]

/--
The split keeps a topology that the single process can build exactly when
every tagged leaf is one that its worker builds like the runtime.
-/
theorem splitPreserves_iff_splitsCleanly
    {file : TopologyFile} {whole : BuiltNode python.Class}
    (runs : fromConfig python env .all file.config = some whole) :
    SplitPreserves python env file ↔ SplitsCleanly python env file := by
  rcases wholeRun_of_fromConfig runs with ⟨raws, cookeds, run⟩
  constructor
  · intro preserved raw inside cooked replaced tag tagged
    have member : raw ∈ raws := run.leaves_eq ▸ inside
    rcases run.buildable member replaced with ⟨processes, made⟩
    rcases preserved raw inside cooked replaced with
      ⟨expected, single, split⟩
    rw [run.heldBy_eq member replaced, made] at single split
    simp only [belongsTo, if_true, Option.getD_some, List.cons.injEq,
      and_true] at single
    subst single
    simp only [belongsTo, tagged, reduceCtorEq, decide_false,
      Bool.false_eq_true, if_false, List.nil_append] at split
    exact run.kept_of_held member replaced made split
  · intro clean raw inside cooked replaced
    have member : raw ∈ raws := run.leaves_eq ▸ inside
    rcases run.buildable member replaced with ⟨processes, made⟩
    refine ⟨processes, ?_, ?_⟩
    · rw [run.heldBy_eq member replaced, made]
      rfl
    · rw [run.heldBy_eq member replaced, made]
      cases tagged : tagOf python cooked with
      | none => simp [belongsTo, tagged, heldByWorker]
      | some tag =>
          rw [run.held_of_clean clean member replaced tagged made]
          simp [belongsTo, tagged]

end Runs

/-! ## Two topologies -/

section Instances

/-- `str` of a scalar without a fraction. -/
def scalarText : Yaml → String
  | .str text => text
  | .int value => toString value
  | .bool true => "True"
  | .bool false => "False"
  | .timestamp text => text
  | _ => "None"

/-- An interpreter that knows every class by its dotted path. -/
def dottedPython : Python where
  str := scalarText
  str_str := fun _ => rfl
  float := some
  upper := id
  Class := String
  importClass := fun path => if '.' ∈ path.toList then some path else none
  exporters := some

/-- No variable is set. -/
def noVariables : String → Option String :=
  fun _ => none

/-- A file with one `supervision` key. -/
def fileOf
    (children : List Node)
    (distinct : ((Node.leavesOf children).map Leaf.label).Nodup) :
    TopologyFile where
  config :=
    { supervision := some (.dict [] (some children)), supervisor := none }
  distinct := by
    rintro root (same | same)
    · cases same
      exact distinct
    · cases same

/-- An agent of the main process. -/
def frontLeaf : Leaf where
  label := 0
  agent := some [("type", .str "shop.Front"), ("name", .str "front")]
  entries := []

/-- An agent of another process. -/
def clerkLeaf : Leaf where
  label := 1
  agent :=
    some
      [("type", .str "shop.Clerk"), ("name", .str "clerk"),
        ("process", .str "back")]
  entries := []

/-- A dynamic supervisor of another process. -/
def poolLeaf : Leaf where
  label := 2
  agent := none
  entries :=
    [("type", .str "dynamic_supervisor"), ("name", .str "pool"),
      ("max_children", .int 4), ("process", .str "back")]

/-- A coordinator with one agent, and a worker with two processes. -/
def shop : TopologyFile :=
  fileOf
    [.leaf frontLeaf,
      .supervisor [("name", .str "back_office")]
        [.leaf clerkLeaf, .leaf poolLeaf]]
    (by decide)

theorem shop_leaves : shop.leaves = [frontLeaf, clerkLeaf, poolLeaf] := rfl

theorem shop_built :
    (fromConfig dottedPython noVariables .all shop.config).isSome := by
  decide +kernel

theorem clerk_kept : KeptByWorker dottedPython "back" clerkLeaf clerkLeaf where
  written := rfl
  same :=
    Or.inr
      { untyped := by decide
        kind := rfl
        cls := rfl
        name := rfl
        unwatched := by decide }

theorem pool_kept : KeptByWorker dottedPython "back" poolLeaf poolLeaf where
  written := rfl
  same :=
    Or.inl
      { typed := by decide
        kind := by rfl
        name := rfl
        options := fun _ _ => rfl
        unlimited := by
          simp only [spawnerOptions, List.forall_mem_cons]
          exact ⟨rfl, rfl, by simp⟩ }

theorem shop_clean : SplitsCleanly dottedPython noVariables shop := by
  intro leaf member cooked replaced tag tagged
  have agrees : SameRoot shop := by
    intro root present
    cases present
    rfl
  rw [shop_leaves] at member
  simp only [List.mem_cons, List.not_mem_nil, or_false] at member
  rcases member with rfl | rfl | rfl
  · have same : Leaf.substitute noVariables frontLeaf = some frontLeaf := by
      rfl
    cases same.symm.trans replaced
    cases tagged
  · have same : Leaf.substitute noVariables clerkLeaf = some clerkLeaf := by
      rfl
    cases same.symm.trans replaced
    cases tagged
    exact ⟨agrees, clerk_kept⟩
  · have same : Leaf.substitute noVariables poolLeaf = some poolLeaf := by
      rfl
    cases same.symm.trans replaced
    cases tagged
    exact ⟨agrees, pool_kept⟩

/-- The shop is kept by its split. -/
theorem shop_preserved :
    SplitPreserves dottedPython noVariables shop :=
  have built := Option.isSome_iff_exists.mp shop_built
  (splitPreserves_iff_splitsCleanly built.choose_spec).mpr shop_clean

/-- A flat node with a process tag. -/
def ledgerLeaf : Leaf where
  label := 0
  agent := none
  entries :=
    [("type", .str "shop.Ledger"), ("name", .str "ledger"),
      ("process", .str "back")]

/-- A flat node that belongs to a worker. -/
def ledgerFile : TopologyFile :=
  fileOf [.leaf ledgerLeaf] (by decide)

/-- The single process builds the flat node, the split does not. -/
theorem flat_node_built_by_nobody :
    (fromConfig dottedPython noVariables .all ledgerFile.config).isSome ∧
      ¬SplitPreserves dottedPython noVariables ledgerFile := by
  refine ⟨by decide +kernel, fun preserved => ?_⟩
  have replaced : Leaf.substitute noVariables ledgerLeaf = some ledgerLeaf := by
    rfl
  rcases preserved ledgerLeaf (List.mem_singleton.mpr rfl) ledgerLeaf
      replaced with ⟨processes, -, split⟩
  have nobody :
      (heldBy dottedPython noVariables .untagged ledgerFile 0 ++
        heldByWorker dottedPython ledgerFile 0
          (tagOf dottedPython ledgerLeaf)).isEmpty := by
    decide +kernel
  rw [show ledgerLeaf.label = 0 from rfl] at split
  rw [split] at nobody
  cases nobody

end Instances

end Civitas.Topology
