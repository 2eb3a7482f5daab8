import Mathlib.Tactic.Common
import Civitas.Topology.Refinement

/-!
# Comparing two topologies by their flat maps

`civitas topology diff` compares two topology files through
`_flatten_topology` of `cli/topology.py`, which writes one entry for every
setting of every supervisor and every `agent` node it visits.  An empty diff
is an equality of the two maps.

The map leaves out the order of the nodes, every other kind of node and some
settings of the supervisors, and a second node at the same path overwrites the
first.  What a file builds is known from its map and from what the map leaves
out.
-/

namespace Civitas.Topology

/-- A parsed topology file: the keys of its tree and its other sections. -/
structure Parsed where
  config : Config
  sections : Dict

/-! ## Flat maps -/

/-- A setting that the map names. -/
inductive Attribute where
  | type
  | strategy
  | maxRestarts
  | backoff
  | className
  | process
deriving DecidableEq

/-- The name of an attribute in a path. -/
def Attribute.text : Attribute → String
  | .type => "type"
  | .strategy => "strategy"
  | .maxRestarts => "max_restarts"
  | .backoff => "backoff"
  | .className => "class"
  | .process => "process"

/-- The key of a setting of the node at a path. -/
def flatKey (path : String) (aspect : Attribute) : String :=
  path ++ "/@" ++ aspect.text

/-- The assignments to `flat`, in order. -/
abbrev Writes := List (String × Yaml)

/-- `flat.get(key)` after the assignments. -/
def flatGet (writes : Writes) (key : String) : Option Yaml :=
  writes.reverse.lookup key

section Flatten

variable (python : Python)

/-- The path of a node below another. -/
def pathBelow (path : String) (name : Yaml) : String :=
  path ++ "/" ++ python.str name

/-- `str(options.get("max_restarts", 3))`. -/
def restartsText (options : Dict) : Yaml :=
  .str (python.str (Dict.getOr options "max_restarts" (.int 3)))

/-- What `_flatten_node` assigns for an `agent` node at its own path. -/
def agentWrites (path : String) (config : Dict) : Writes :=
  [(flatKey path .type, .str "agent"),
    (flatKey path .className, Dict.getOr config "type" (.str "?"))] ++
    match Dict.get config "process" with
    | none => []
    | some value => [(flatKey path .process, value)]

/-- What it assigns for a supervisor, before its children. -/
def supervisorWrites (path : String) (options : Dict) : Option Writes := do
  let strategy ← upperOption python options "strategy" "ONE_FOR_ONE"
  let backoff ← upperOption python options "backoff" "CONSTANT"
  return [(flatKey path .type, .str "supervisor"),
    (flatKey path .strategy, strategy),
    (flatKey path .maxRestarts, restartsText python options),
    (flatKey path .backoff, backoff)]

/-- What `_flatten_topology` assigns for the root. -/
def rootWrites (path : String) (options : Dict) : Option Writes := do
  let strategy ← upperOption python options "strategy" "ONE_FOR_ONE"
  return [(flatKey path .type, .str "supervisor"),
    (flatKey path .strategy, strategy),
    (flatKey path .maxRestarts, restartsText python options)]

mutual

/-- `_flatten_node`; `none` when it raises. -/
def flattenNode (path : String) : Node → Option Writes
  | .supervisor options children => do
      let own := pathBelow python path (Dict.getOr options "name" (.str "?"))
      let first ← supervisorWrites python own options
      let below ← flattenNodes own children
      return first ++ below
  | .leaf leaf =>
      match leaf.agent with
      | none => some []
      | some config =>
          some
            (agentWrites
              (pathBelow python path (Dict.getOr config "name" (.str "?")))
              config)

/-- `_flatten_node` of each child, in order. -/
def flattenNodes (path : String) : List Node → Option Writes
  | [] => some []
  | node :: rest => do
      let first ← flattenNode path node
      let others ← flattenNodes path rest
      return first ++ others

end

/-- The entries of the `transport` section. -/
def transportWrites (sections : Dict) : Option Writes :=
  if (Dict.getOr sections "transport" (.dict [])).truthy then do
    let entries ← asDict (Dict.getOr sections "transport" (.dict []))
    return ("transport/@type",
        Dict.getOr entries "type" (.str "in_process")) ::
      (entries.filter fun entry => entry.1 ≠ "type").map fun entry =>
        ("transport/@" ++ entry.1, .str (python.str entry.2))
  else
    some []

/-- The entry of one plugin of a list. -/
def pluginWrite (part : String) (entry : Yaml × Nat) :
    Option (String × Yaml) := do
  let config ← asDict entry.1
  return ("plugins/" ++ part ++ "[" ++ toString entry.2 ++ "]/@type",
    Dict.getOr config "type" (.str "?"))

/-- The entries of one section of `plugins`. -/
def pluginSection (entry : String × Yaml) : Option Writes :=
  match entry.2 with
  | .list items => items.zipIdx.mapM (pluginWrite entry.1)
  | .dict config =>
      some [("plugins/" ++ entry.1 ++ "/@type",
        Dict.getOr config "type" (.str "?"))]
  | _ => some []

/-- What is written of the `plugins` section. -/
def pluginWrites (sections : Dict) : Option Writes := do
  let plugins ← asDict (Dict.getOr sections "plugins" (.dict []))
  let entries ← plugins.mapM pluginSection
  return entries.flatten

/-- The path of the root. -/
def rootPath (options : Dict) : String :=
  "/" ++ python.str (Dict.getOr options "name" (.str "root"))

/-- `_flatten_topology`, as its assignments; `none` when it raises. -/
def flattenTopology (file : Parsed) : Option Writes :=
  match file.config.workerRoot with
  | .null => none
  | .dict options children => do
      let path := rootPath python options
      let root ← rootWrites python path options
      let tree ← flattenNodes python path (children.getD [])
      let transport ← transportWrites python file.sections
      let plugins ← pluginWrites file.sections
      return root ++ tree ++ transport ++ plugins

end Flatten

/-- What a comparison of two files relies on of the interpreter. -/
structure Comparison (python : Python) where
  /-- `==`. -/
  same : Yaml → Yaml → Bool
  /-- A text is equal to itself only. -/
  same_str :
    ∀ text value, same (.str text) value = true ↔ value = .str text
  /-- An integer is equal to itself. -/
  same_int : ∀ number, same (.int number) (.int number) = true
  /-- `None` is equal to itself only. -/
  same_null : ∀ value, same .null value = true → value = .null
  /-- Two integers have different texts. -/
  str_int :
    ∀ first second,
      python.str (.int first) = python.str (.int second) → first = second
  /-- A class of the library, or of another module. -/
  classOf : BuiltClass python.Class → python.Class
  classOf_imported : ∀ cls, classOf (.imported cls) = cls

/-- Two values that may be missing. -/
def SameEntry (same : Yaml → Yaml → Bool) : Option Yaml → Option Yaml → Prop
  | none, none => True
  | some first, some second => same first second = true
  | _, _ => False

/-- The two maps are equal. -/
def SameMap (same : Yaml → Yaml → Bool) (first second : Writes) : Prop :=
  ∀ key, SameEntry same (flatGet first key) (flatGet second key)

/-! ## What a map shows -/

/-- A node that the map has entries for. -/
inductive Mention where
  | root (path : String) (options : Dict)
  | supervisor (path : String) (options : Dict)
  | agent (path : String) (config : Dict)

/-- The path that is written to. -/
def Mention.path : Mention → String
  | .root path _ => path
  | .supervisor path _ => path
  | .agent path _ => path

/-- What is written there is of a supervisor. -/
def Mention.isSupervisor : Mention → Bool
  | .root _ _ => true
  | .supervisor _ _ => true
  | .agent _ _ => false

/-- Two mentions that write the same settings at the same path. -/
def Mention.Clash (first second : Mention) : Prop :=
  first.isSupervisor = second.isSupervisor ∧ first.path = second.path

/-- The map keeps every entry of a mention. -/
def Shows (mentions : List Mention) (mention : Mention) : Prop :=
  mention ∈ mentions ∧
    ∀ other ∈ mentions, other.Clash mention → other = mention

section Mentions

variable (python : Python)

/-- What a mention says about a setting. -/
def Mention.value : Mention → Attribute → Option Yaml
  | .root _ options, .strategy =>
      upperOption python options "strategy" "ONE_FOR_ONE"
  | .root _ options, .maxRestarts => some (restartsText python options)
  | .root _ _, .type => some (.str "supervisor")
  | .supervisor _ options, .strategy =>
      upperOption python options "strategy" "ONE_FOR_ONE"
  | .supervisor _ options, .maxRestarts =>
      some (restartsText python options)
  | .supervisor _ options, .backoff =>
      upperOption python options "backoff" "CONSTANT"
  | .supervisor _ _, .type => some (.str "supervisor")
  | .agent _ config, .className => some (Dict.getOr config "type" (.str "?"))
  | .agent _ config, .process => Dict.get config "process"
  | .agent _ _, .type => some (.str "agent")
  | _, _ => none

mutual

/-- The nodes that `_flatten_node` has entries for. -/
def mentionsBelow (path : String) : Node → List Mention
  | .supervisor options children =>
      .supervisor
          (pathBelow python path (Dict.getOr options "name" (.str "?")))
          options ::
        mentionsOf
          (pathBelow python path (Dict.getOr options "name" (.str "?")))
          children
  | .leaf leaf =>
      leaf.agent.toList.map fun config =>
        .agent
          (pathBelow python path (Dict.getOr config "name" (.str "?")))
          config

/-- The mentions of the children, in order. -/
def mentionsOf (path : String) : List Node → List Mention
  | [] => []
  | node :: rest => mentionsBelow path node ++ mentionsOf path rest

end

/--
The nodes of the tree that the map has entries for.  There are none when an
empty `supervision` hides the `supervisor` that is built.
-/
def Parsed.mentions (file : Parsed) : List Mention :=
  if file.config.supervision.any fun root => !root.truthy then
    []
  else
    match file.config.workerRoot with
    | .null => []
    | .dict options children =>
        .root (rootPath python options) options ::
          mentionsOf python (rootPath python options) (children.getD [])

end Mentions

/-! ## Reading the map -/

section Reading

variable {python : Python}

theorem flatKey_inj
    {first second : String} {left right : Attribute} :
    flatKey first left = flatKey second right ↔
      first = second ∧ left = right := by
  constructor
  · intro same
    have letters := congrArg (fun text => text.toList.reverse) same
    clear same
    cases left <;> cases right <;>
      simp_all [flatKey, Attribute.text, String.toList_append,
        String.toList_inj]
  · rintro ⟨rfl, rfl⟩
    rfl

theorem mem_of_lookup
    {writes : Writes} {key : String} {value : Yaml}
    (found : writes.lookup key = some value) : (key, value) ∈ writes := by
  rcases List.lookup_eq_some_iff.mp found with ⟨before, after, rfl, -⟩
  simp

theorem flatGet_eq_none
    {writes : Writes} {key : String}
    (absent : ∀ value, (key, value) ∉ writes) : flatGet writes key = none := by
  cases found : flatGet writes key with
  | none => rfl
  | some value =>
      exact absurd (List.mem_reverse.mp (mem_of_lookup found)) (absent value)

/-- The value of a key that is always written with the same value. -/
theorem flatGet_eq_some
    {writes : Writes} {key : String} {value : Yaml}
    (written : (key, value) ∈ writes)
    (only : ∀ other, (key, other) ∈ writes → other = value) :
    flatGet writes key = some value := by
  cases found : flatGet writes key with
  | none =>
      have absent := List.lookup_eq_none_iff.mp found (key, value)
        (List.mem_reverse.mpr written)
      simp at absent
  | some other =>
      rw [only other (List.mem_reverse.mp (mem_of_lookup found))]

/-- A path of the tree, which the other sections do not write. -/
def Rooted (path : String) : Prop :=
  path.toList.head? = some '/'

/-- The entries of the tree are those of the mentions. -/
def Covers (python : Python) (mentions : List Mention) (writes : Writes) :
    Prop :=
  ∀ path aspect value, Rooted path →
    ((flatKey path aspect, value) ∈ writes ↔
      ∃ mention ∈ mentions,
        mention.path = path ∧ mention.value python aspect = some value)

theorem Covers.append
    {first second : List Mention} {writes others : Writes}
    (front : Covers python first writes)
    (back : Covers python second others) :
    Covers python (first ++ second) (writes ++ others) := by
  intro path aspect value rooted
  rw [List.mem_append, front path aspect value rooted,
    back path aspect value rooted]
  simp only [List.mem_append, or_and_right, exists_or]

theorem covers_agentWrites
    (path : String) (config : Dict) :
    Covers python [.agent path config] (agentWrites path config) := by
  intro own aspect value rooted
  cases tag : Dict.get config "process" with
  | none =>
      cases aspect <;>
        simp [agentWrites, tag, flatKey_inj, Mention.path, Mention.value,
          eq_comm]
  | some tagged =>
      cases aspect <;>
        simp [agentWrites, tag, flatKey_inj, Mention.path, Mention.value,
          eq_comm]

theorem covers_supervisorWrites
    {path : String} {options : Dict} {writes : Writes}
    (done : supervisorWrites python path options = some writes) :
    Covers python [.supervisor path options] writes := by
  simp only [supervisorWrites, Option.bind_eq_bind, Option.bind_eq_some_iff,
    Option.pure_def, Option.some.injEq] at done
  rcases done with ⟨strategy, read, backoff, waits, rfl⟩
  intro own aspect value rooted
  cases aspect <;>
    simp [flatKey_inj, Mention.path, Mention.value, read, waits, eq_comm]

theorem covers_rootWrites
    {path : String} {options : Dict} {writes : Writes}
    (done : rootWrites python path options = some writes) :
    Covers python [.root path options] writes := by
  simp only [rootWrites, Option.bind_eq_bind, Option.bind_eq_some_iff,
    Option.pure_def, Option.some.injEq] at done
  rcases done with ⟨strategy, read, rfl⟩
  intro own aspect value rooted
  cases aspect <;>
    simp [flatKey_inj, Mention.path, Mention.value, read, eq_comm]

theorem covers_nil : Covers python [] [] := by
  intro path aspect value rooted
  simp

theorem covers_flattenNodes
    {path : String} {nodes : List Node}
    (parts :
      ∀ node ∈ nodes, ∀ writes,
        flattenNode python path node = some writes →
          Covers python (mentionsBelow python path node) writes)
    {writes : Writes}
    (done : flattenNodes python path nodes = some writes) :
    Covers python (mentionsOf python path nodes) writes := by
  induction nodes generalizing writes with
  | nil =>
      cases done
      exact covers_nil
  | cons node rest ih =>
      simp only [flattenNodes, Option.bind_eq_bind,
        Option.bind_eq_some_iff, Option.pure_def, Option.some.injEq] at done
      rcases done with ⟨first, own, others, remaining, rfl⟩
      refine (parts node List.mem_cons_self first own).append ?_
      refine ih ?_ remaining
      exact fun child member => parts child (List.mem_cons_of_mem _ member)

theorem covers_flattenNode
    {path : String} {node : Node} {writes : Writes}
    (done : flattenNode python path node = some writes) :
    Covers python (mentionsBelow python path node) writes := by
  induction node using Node.children_induction generalizing path writes with
  | leaf value =>
      simp only [flattenNode] at done
      simp only [mentionsBelow]
      cases held : value.agent with
      | none =>
          rw [held] at done
          cases done
          exact covers_nil
      | some config =>
          rw [held] at done
          cases done
          exact covers_agentWrites _ config
  | supervisor options children ih =>
      simp only [flattenNode, Option.bind_eq_bind, Option.bind_eq_some_iff,
        Option.pure_def, Option.some.injEq] at done
      rcases done with ⟨first, own, below, parts, rfl⟩
      refine (covers_supervisorWrites own).append ?_
      exact
        covers_flattenNodes (fun child member _ made => ih child member made)
          parts

/-- Entries whose keys are not below the root. -/
theorem covers_of_foreign
    {writes : Writes}
    (foreign : ∀ write ∈ writes, write.1.toList.head? ≠ some '/') :
    Covers python [] writes := by
  intro path aspect value rooted
  simp only [List.not_mem_nil, false_and, exists_false, iff_false]
  intro member
  refine foreign _ member ?_
  unfold Rooted at rooted
  cases letters : path.toList with
  | nil =>
      rw [letters] at rooted
      cases rooted
  | cons first rest =>
      rw [letters] at rooted
      cases rooted
      simp [flatKey, String.toList_append, letters]

theorem covers_transportWrites
    {sections : Dict} {writes : Writes}
    (done : transportWrites python sections = some writes) :
    Covers python [] writes := by
  refine covers_of_foreign ?_
  unfold transportWrites at done
  split at done
  next =>
    simp only [Option.bind_eq_bind, Option.bind_eq_some_iff, Option.pure_def,
      Option.some.injEq] at done
    rcases done with ⟨entries, -, rfl⟩
    intro write member
    simp only [List.mem_cons, List.mem_map] at member
    rcases member with rfl | ⟨entry, -, rfl⟩
    · simp
    · simp [String.toList_append]
  next =>
    cases done
    simp

theorem exists_of_mem_mapM
    {α β : Type} {read : α → Option β} {items : List α} {results : List β}
    (done : items.mapM read = some results)
    {result : β} (member : result ∈ results) :
    ∃ item ∈ items, read item = some result := by
  induction items generalizing results with
  | nil =>
      cases done
      cases member
  | cons item rest ih =>
      simp only [List.mapM_cons, Option.bind_eq_bind,
        Option.bind_eq_some_iff, Option.pure_def, Option.some.injEq] at done
      rcases done with ⟨first, own, others, remaining, rfl⟩
      rcases List.mem_cons.mp member with rfl | later
      · exact ⟨item, List.mem_cons_self, own⟩
      · rcases ih remaining later with ⟨other, there, made⟩
        exact ⟨other, List.mem_cons_of_mem _ there, made⟩

theorem foreign_pluginSection
    {entry : String × Yaml} {writes : Writes}
    (done : pluginSection entry = some writes) :
    ∀ write ∈ writes, write.1.toList.head? ≠ some '/' := by
  intro write member
  unfold pluginSection at done
  split at done
  next items _ =>
    rcases exists_of_mem_mapM done member with ⟨item, -, made⟩
    simp only [pluginWrite, Option.bind_eq_bind, Option.bind_eq_some_iff,
      Option.pure_def, Option.some.injEq] at made
    rcases made with ⟨config, -, rfl⟩
    simp [String.toList_append]
  next config _ =>
    cases done
    rw [List.mem_singleton.mp member]
    simp [String.toList_append]
  next =>
    cases done
    cases member

theorem covers_pluginWrites
    {sections : Dict} {writes : Writes}
    (done : pluginWrites sections = some writes) :
    Covers python [] writes := by
  refine covers_of_foreign ?_
  simp only [pluginWrites, Option.bind_eq_bind, Option.bind_eq_some_iff,
    Option.pure_def, Option.some.injEq] at done
  rcases done with ⟨plugins, -, parts, made, rfl⟩
  intro write member
  rcases List.mem_flatten.mp member with ⟨part, listed, inside⟩
  rcases exists_of_mem_mapM made listed with ⟨entry, -, own⟩
  exact foreign_pluginSection own write inside

theorem rooted_pathBelow
    {path : String} (rooted : Rooted path) (name : Yaml) :
    Rooted (pathBelow python path name) := by
  unfold Rooted at rooted ⊢
  cases letters : path.toList with
  | nil =>
      rw [letters] at rooted
      cases rooted
  | cons first rest =>
      rw [letters] at rooted
      simpa [pathBelow, String.toList_append, letters] using rooted

theorem rooted_mentionsOf
    {path : String} {nodes : List Node}
    (parts :
      ∀ node ∈ nodes, ∀ mention ∈ mentionsBelow python path node,
        Rooted mention.path) :
    ∀ mention ∈ mentionsOf python path nodes, Rooted mention.path := by
  induction nodes with
  | nil => rintro _ ⟨⟩
  | cons node rest ih =>
      intro mention member
      rcases List.mem_append.mp member with early | late
      · exact parts node List.mem_cons_self mention early
      · refine ih ?_ mention late
        exact fun child inside => parts child (List.mem_cons_of_mem _ inside)

theorem rooted_mentionsBelow
    {path : String} (rooted : Rooted path) (node : Node) :
    ∀ mention ∈ mentionsBelow python path node, Rooted mention.path := by
  induction node using Node.children_induction generalizing path with
  | leaf value =>
      intro mention member
      simp only [mentionsBelow, List.mem_map] at member
      rcases member with ⟨config, -, rfl⟩
      exact rooted_pathBelow rooted _
  | supervisor options children ih =>
      intro mention member
      simp only [mentionsBelow, List.mem_cons] at member
      rcases member with rfl | below
      · exact rooted_pathBelow rooted _
      · refine rooted_mentionsOf ?_ mention below
        intro child inside
        exact ih child inside (rooted_pathBelow rooted _)

theorem rooted_rootPath
    (options : Dict) : Rooted (rootPath python options) := by
  simp [Rooted, rootPath, String.toList_append]

/-- The settings of one kind of mention beside its type. -/
def Attribute.belongsTo : Attribute → Bool → Prop
  | .strategy, supervisor => supervisor = true
  | .maxRestarts, supervisor => supervisor = true
  | .backoff, supervisor => supervisor = true
  | .className, supervisor => supervisor = false
  | .process, supervisor => supervisor = false
  | .type, _ => False

theorem isSupervisor_of_value
    {mention : Mention} {aspect : Attribute} {value : Yaml}
    {supervisor : Bool} (own : aspect.belongsTo supervisor)
    (stated : mention.value python aspect = some value) :
    mention.isSupervisor = supervisor := by
  cases mention <;> cases aspect <;>
    simp_all [Attribute.belongsTo, Mention.value, Mention.isSupervisor]

/-- The map holds what a mention states when nothing clashes with it. -/
theorem Covers.flatGet_eq
    {mentions : List Mention} {writes : Writes}
    (covered : Covers python mentions writes)
    {mention : Mention} (shown : Shows mentions mention)
    (rooted : Rooted mention.path)
    {aspect : Attribute} (own : aspect.belongsTo mention.isSupervisor) :
    flatGet writes (flatKey mention.path aspect) =
      mention.value python aspect := by
  rcases shown with ⟨member, alone⟩
  have only :
      ∀ value, (flatKey mention.path aspect, value) ∈ writes →
        mention.value python aspect = some value := by
    intro value written
    rcases (covered mention.path aspect value rooted).mp written with
      ⟨other, there, same, stated⟩
    have equal := alone other there ⟨isSupervisor_of_value own stated, same⟩
    rw [← equal]
    exact stated
  cases stated : mention.value python aspect with
  | none =>
      refine flatGet_eq_none fun value written => ?_
      have impossible := only value written
      rw [stated] at impossible
      cases impossible
  | some value =>
      refine flatGet_eq_some ?_ ?_
      · exact
          (covered mention.path aspect value rooted).mpr
            ⟨mention, member, rfl, stated⟩
      · intro other written
        have same := only other written
        rw [stated] at same
        exact (Option.some.inj same).symm

/-- The entries of a file that shows its tree. -/
theorem covers_of_flattened
    {file : Parsed} {writes : Writes}
    (done : flattenTopology python file = some writes)
    {mention : Mention} (member : mention ∈ file.mentions python) :
    Covers python (file.mentions python) writes ∧ Rooted mention.path := by
  unfold Parsed.mentions at member ⊢
  split at member
  next => cases member
  next seen =>
    rw [if_neg seen]
    unfold flattenTopology at done
    cases chosen : file.config.workerRoot with
    | null =>
        rw [chosen] at member
        cases member
    | dict options children =>
        simp only [chosen, Option.bind_eq_bind, Option.bind_eq_some_iff,
          Option.pure_def, Option.some.injEq] at member done ⊢
        rcases done with
          ⟨root, first, tree, nodes, transport, carried, plugins, loaded,
            rfl⟩
        constructor
        · have covered :=
            (((covers_rootWrites first).append
              (covers_flattenNodes
                (fun node _ _ made => covers_flattenNode made) nodes)).append
              (covers_transportWrites carried)).append
              (@covers_pluginWrites python _ _ loaded)
          simpa only [List.append_nil, List.singleton_append] using covered
        · rcases List.mem_cons.mp member with rfl | below
          · exact rooted_rootPath options
          · refine rooted_mentionsOf ?_ mention below
            exact fun node _ =>
              rooted_mentionsBelow (rooted_rootPath options) node

theorem flatGet_of_shows
    {file : Parsed} {writes : Writes}
    (done : flattenTopology python file = some writes)
    {mention : Mention} (shown : Shows (file.mentions python) mention)
    {aspect : Attribute} (own : aspect.belongsTo mention.isSupervisor) :
    flatGet writes (flatKey mention.path aspect) =
      mention.value python aspect := by
  rcases covers_of_flattened done shown.1 with ⟨covered, rooted⟩
  exact covered.flatGet_eq shown rooted own

end Reading

end Civitas.Topology
