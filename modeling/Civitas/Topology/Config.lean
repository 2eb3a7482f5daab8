import Civitas.Wire.Objects
import Mathlib.Data.Char
import Mathlib.Data.List.Forall2

/-!
# Topology files

What `yaml.safe_load` makes of a topology file, and `substitute_vars` of
`secrets/substitution.py`, which replaces every `${VAR}` in the texts of a
parsed file and fails on a variable that is not set.

A topology is a tree of nodes.  A node with a `supervisor` key has children;
every other node is a leaf, with or without an `agent` key.  Leaves carry a
label, which stands for their place in the file.
-/

namespace Civitas.Topology

/-- A parsed YAML value. -/
inductive Yaml where
  | null
  | bool (flag : Bool)
  | int (value : Int)
  | float (value : Wire.Double)
  | str (text : String)
  /-- A date or a time, by its text. -/
  | timestamp (text : String)
  | list (items : List Yaml)
  | dict (entries : List (String × Yaml))

/-- A mapping with text keys. -/
abbrev Dict := List (String × Yaml)

/-- `entries.get(key)`. -/
def Dict.get (entries : Dict) (key : String) : Option Yaml :=
  entries.lookup key

/-- `entries.get(key, default)`. -/
def Dict.getOr (entries : Dict) (key : String) (default : Yaml) : Yaml :=
  (Dict.get entries key).getD default

/-- `bool(value)`. -/
def Yaml.truthy : Yaml → Bool
  | .null => false
  | .bool flag => flag
  | .int value => value ≠ 0
  | .float value => value.bits.toNat % 2 ^ 63 ≠ 0
  | .str text => text ≠ ""
  | .timestamp _ => true
  | .list items => !items.isEmpty
  | .dict entries => !entries.isEmpty

/-- A value that can be a member of a set or a key of a dictionary. -/
def Yaml.hashable : Yaml → Bool
  | .list _ => false
  | .dict _ => false
  | _ => true

/-- A text of a list. -/
def Yaml.isOneOf (texts : List String) : Yaml → Bool
  | .str text => text ∈ texts
  | _ => false

/-- What `for item in value` runs over; `none` when it raises. -/
def Yaml.iterate : Yaml → Option (List Yaml)
  | .list items => some items
  | .dict entries => some (entries.map fun entry => .str entry.1)
  | .str text => some (text.toList.map fun letter => .str letter.toString)
  | _ => none

/-- The value can be run over, and every item passes. -/
def Yaml.every (test : Yaml → Bool) (value : Yaml) : Bool :=
  value.iterate.any fun items => items.all test

/-- `bool(entries.get(key))`. -/
def given (entries : Dict) (key : String) : Bool :=
  (Dict.getOr entries key .null).truthy

/-! ## Substitution -/

section Substitution

/-- `[A-Za-z_]`. -/
def isNameStart (letter : Char) : Bool :=
  letter.isAlpha || letter = '_'

/-- `[A-Za-z0-9_]`. -/
def isNameChar (letter : Char) : Bool :=
  isNameStart letter || letter.isDigit

/-- The variable after an opening brace, and the text after the closing one. -/
def takeReference (text : List Char) : Option (List Char × List Char) :=
  match text.takeWhile isNameChar, text.dropWhile isNameChar with
  | first :: name, '\x7d' :: rest =>
      if isNameStart first then some (first :: name, rest) else none
  | _, _ => none

variable (env : String → Option String)

/-- `_VAR_RE.sub(_replace_var, text)`; `none` for a variable that is not set. -/
def expand : Nat → List Char → Option (List Char)
  | 0, text => some text
  | _ + 1, [] => some []
  | fuel + 1, letter :: text =>
      match letter, text with
      | '$', '\x7b' :: inside =>
          match takeReference inside with
          | some (name, rest) => do
              let value ← env (String.ofList name)
              let tail ← expand fuel rest
              return value.toList ++ tail
          | none => (expand fuel text).map ('$' :: ·)
      | letter, text => (expand fuel text).map (letter :: ·)

/-- `_VAR_RE.sub` on a text. -/
def expandText (text : String) : Option String :=
  (expand env text.length text.toList).map String.ofList

mutual

/-- `substitute_vars`; `none` is a `ConfigurationError`. -/
def Yaml.substitute : Yaml → Option Yaml
  | .str text => (expandText env text).map .str
  | .list items => (substituteItems items).map .list
  | .dict entries => (substituteEntries entries).map .dict
  | scalar => some scalar

/-- `[substitute_vars(v) for v in value]`. -/
def substituteItems : List Yaml → Option (List Yaml)
  | [] => some []
  | item :: rest => do
      let first ← Yaml.substitute item
      let others ← substituteItems rest
      return first :: others

/-- `{k: substitute_vars(v) for k, v in value.items()}`. -/
def substituteEntries : List (String × Yaml) → Option (List (String × Yaml))
  | [] => some []
  | entry :: rest => do
      let value ← Yaml.substitute entry.2
      let others ← substituteEntries rest
      return (entry.1, value) :: others

end

end Substitution

/-! ## Nodes -/

/-- A node without a `supervisor` key. -/
structure Leaf where
  label : Nat
  /-- The value of its `agent` key. -/
  agent : Option Dict
  /-- Its other keys. -/
  entries : Dict

/-- A node of the tree. -/
inductive Node where
  | supervisor (options : Dict) (children : List Node)
  | leaf (leaf : Leaf)

/-- The value of a top-level `supervision` or `supervisor` key. -/
inductive Root where
  /-- `null`, or another empty value that is no mapping. -/
  | null
  | dict (options : Dict) (children : Option (List Node))

/-- What the two walks read of a topology file. -/
structure Config where
  supervision : Option Root
  supervisor : Option Root

mutual

/-- The leaves of a node, in the order of the file. -/
def Node.leaves : Node → List Leaf
  | .supervisor _ children => Node.leavesOf children
  | .leaf value => [value]

/-- The leaves of some nodes, in the order of the file. -/
def Node.leavesOf : List Node → List Leaf
  | [] => []
  | node :: rest => Node.leaves node ++ Node.leavesOf rest

end

/-- `bool(root)`. -/
def Root.truthy : Root → Bool
  | .null => false
  | .dict options children => !options.isEmpty || children.isSome

/-- `root.get("children", [])`. -/
def Root.children : Root → List Node
  | .null => []
  | .dict _ children => children.getD []

section Substituted

variable (env : String → Option String)

/-- `substitute_vars` of a leaf. -/
def Leaf.substitute (leaf : Leaf) : Option Leaf := do
  let agent ←
    match leaf.agent with
    | none => some none
    | some agent => (substituteEntries env agent).map some
  let entries ← substituteEntries env leaf.entries
  return { label := leaf.label, agent := agent, entries := entries }

mutual

/-- `substitute_vars` of a node. -/
def Node.substitute : Node → Option Node
  | .supervisor options children => do
      let options ← substituteEntries env options
      let children ← substituteNodes children
      return .supervisor options children
  | .leaf value => (Leaf.substitute env value).map .leaf

/-- `substitute_vars` of a list of nodes. -/
def substituteNodes : List Node → Option (List Node)
  | [] => some []
  | node :: rest => do
      let first ← Node.substitute node
      let others ← substituteNodes rest
      return first :: others

end

/-- `substitute_vars` of the value of a top-level key. -/
def Root.substitute : Root → Option Root
  | .null => some .null
  | .dict options none =>
      (substituteEntries env options).map fun options =>
        .dict options none
  | .dict options (some children) => do
      let options ← substituteEntries env options
      let children ← substituteNodes env children
      return .dict options (some children)

/-- `substitute_vars` of a top-level key that may be absent. -/
def substituteRoot : Option Root → Option (Option Root)
  | none => some none
  | some root => (Root.substitute env root).map some

/-- `substitute_vars` of a topology file. -/
def Config.substitute (config : Config) : Option Config := do
  let supervision ← substituteRoot env config.supervision
  let supervisor ← substituteRoot env config.supervisor
  return { supervision := supervision, supervisor := supervisor }

end Substituted

/-! ## What substitution keeps -/

section Kept

variable {env : String → Option String}

/-- A text stays a text. -/
theorem get_str_of_substituted
    {raw cooked : Dict} (done : substituteEntries env raw = some cooked)
    {key text : String} (found : Dict.get raw key = some (.str text)) :
    ∃ replaced, Dict.get cooked key = some (.str replaced) := by
  induction raw generalizing cooked with
  | nil => cases found
  | cons entry rest ih =>
      rcases entry with ⟨own, value⟩
      simp only [substituteEntries, Option.bind_eq_bind,
        Option.bind_eq_some_iff, Option.pure_def, Option.some.injEq] at done
      rcases done with ⟨first, replaced, others, later, rfl⟩
      by_cases same : key = own
      · subst same
        have value_eq : value = .str text := by
          simpa [Dict.get] using found
        subst value_eq
        simp only [Yaml.substitute, Option.map_eq_some_iff] at replaced
        rcases replaced with ⟨result, -, rfl⟩
        exact ⟨result, by simp [Dict.get]⟩
      · have apart : (key == own) = false := beq_false_of_ne same
        have deeper : Dict.get rest key = some (.str text) := by
          simpa [Dict.get, List.lookup_cons, apart] using found
        rcases ih later deeper with ⟨result, there⟩
        exact ⟨result, by simpa [Dict.get, List.lookup_cons, apart] using there⟩

theorem leaf_substitute_iff
    {raw cooked : Leaf} :
    Leaf.substitute env raw = some cooked ↔
      cooked.label = raw.label ∧
        substituteEntries env raw.entries = some cooked.entries ∧
        ((raw.agent = none ∧ cooked.agent = none) ∨
          ∃ agent replaced,
            raw.agent = some agent ∧ cooked.agent = some replaced ∧
              substituteEntries env agent = some replaced) := by
  rcases raw with ⟨label, agent, entries⟩
  rcases cooked with ⟨label', agent', entries'⟩
  cases agent with
  | none =>
      simp only [Leaf.substitute, Option.bind_eq_bind, Option.bind_some,
        Option.bind_eq_some_iff, Option.pure_def, Option.some.injEq,
        Leaf.mk.injEq]
      constructor
      · rintro ⟨replaced, done, rfl, rfl, rfl⟩
        exact ⟨rfl, done, Or.inl ⟨trivial, rfl⟩⟩
      · rintro ⟨rfl, done, ⟨-, rfl⟩ | ⟨agent, replaced, impossible, -⟩⟩
        · exact ⟨entries', done, rfl, rfl, rfl⟩
        · cases impossible
  | some agent =>
      simp only [Leaf.substitute, Option.bind_eq_bind,
        Option.bind_eq_some_iff, Option.map_eq_some_iff, Option.pure_def,
        Option.some.injEq, Leaf.mk.injEq]
      constructor
      · rintro ⟨-, ⟨own, first, rfl⟩, replaced, done, rfl, rfl, rfl⟩
        exact ⟨rfl, done, Or.inr ⟨agent, own, rfl, rfl, first⟩⟩
      · rintro ⟨rfl, done, ⟨impossible, -⟩ | ⟨own, replaced, same, rfl, first⟩⟩
        · cases impossible
        · cases same
          exact ⟨_, ⟨replaced, first, rfl⟩, entries', done, rfl, rfl, rfl⟩

section NodeInduction

variable {motive : Node → Prop}
  (leaf : ∀ value, motive (.leaf value))
  (supervisor :
    ∀ options children, (∀ child ∈ children, motive child) →
      motive (.supervisor options children))

include leaf supervisor

/-- Induction over a node, its children taken together. -/
@[elab_as_elim]
theorem Node.children_induction (node : Node) : motive node := by
  refine
    @Node.rec motive (fun children => ∀ child ∈ children, motive child)
      ?_ ?_ ?_ ?_ node
  · exact fun options children parts => supervisor options children parts
  · exact fun value => leaf value
  · simp
  · intro head tail first rest child member
    rcases List.mem_cons.mp member with rfl | later
    · exact first
    · exact rest child later

end NodeInduction

/-- One leaf before and after substitution. -/
abbrev Replaced (env : String → Option String) (raw cooked : Leaf) : Prop :=
  Leaf.substitute env raw = some cooked

theorem leavesOf_of_parts
    {raw cooked : List Node}
    (parts :
      ∀ node ∈ raw, ∀ new, Node.substitute env node = some new →
        List.Forall₂ (Replaced env) node.leaves new.leaves)
    (done : substituteNodes env raw = some cooked) :
    List.Forall₂ (Replaced env) (Node.leavesOf raw)
      (Node.leavesOf cooked) := by
  induction raw generalizing cooked with
  | nil =>
      cases done
      exact List.Forall₂.nil
  | cons node rest ih =>
      simp only [substituteNodes, Option.bind_eq_bind,
        Option.bind_eq_some_iff, Option.pure_def, Option.some.injEq] at done
      rcases done with ⟨first, own, others, remaining, rfl⟩
      simp only [Node.leavesOf]
      refine
        List.rel_append (parts node List.mem_cons_self first own)
          (ih ?_ remaining)
      exact fun child member => parts child (List.mem_cons_of_mem _ member)

/-- Substitution works leaf by leaf. -/
theorem leaves_of_substituted
    {raw cooked : Node} (done : Node.substitute env raw = some cooked) :
    List.Forall₂ (Replaced env) raw.leaves cooked.leaves := by
  induction raw using Node.children_induction generalizing cooked with
  | leaf value =>
      simp only [Node.substitute, Option.map_eq_some_iff] at done
      rcases done with ⟨replaced, own, rfl⟩
      simp only [Node.leaves]
      exact List.Forall₂.cons own List.Forall₂.nil
  | supervisor options children ih =>
      simp only [Node.substitute, Option.bind_eq_bind,
        Option.bind_eq_some_iff, Option.pure_def, Option.some.injEq] at done
      rcases done with ⟨settings, -, replaced, parts, rfl⟩
      simp only [Node.leaves]
      exact
        leavesOf_of_parts (fun child member _ own => ih child member own)
          parts

theorem leavesOf_of_substituted
    {raw cooked : List Node} (done : substituteNodes env raw = some cooked) :
    List.Forall₂ (Replaced env) (Node.leavesOf raw)
      (Node.leavesOf cooked) :=
  leavesOf_of_parts (fun _ _ _ own => leaves_of_substituted own) done

theorem isEmpty_of_substituted
    {raw cooked : Dict} (done : substituteEntries env raw = some cooked) :
    cooked.isEmpty = raw.isEmpty := by
  cases raw with
  | nil =>
      cases done
      rfl
  | cons entry rest =>
      simp only [substituteEntries, Option.bind_eq_bind,
        Option.bind_eq_some_iff, Option.pure_def, Option.some.injEq] at done
      rcases done with ⟨value, -, others, -, rfl⟩
      rfl

/-- A root keeps its leaves and whether it is empty. -/
theorem root_of_substituted
    {raw cooked : Root} (done : Root.substitute env raw = some cooked) :
    cooked.truthy = raw.truthy ∧
      List.Forall₂ (Replaced env) (Node.leavesOf raw.children)
        (Node.leavesOf cooked.children) := by
  cases raw with
  | null =>
      cases done
      exact ⟨rfl, List.Forall₂.nil⟩
  | dict options children =>
      cases children with
      | none =>
          simp only [Root.substitute, Option.map_eq_some_iff] at done
          rcases done with ⟨settings, replaced, rfl⟩
          refine ⟨?_, List.Forall₂.nil⟩
          simp only [Root.truthy, isEmpty_of_substituted replaced]
      | some children =>
          simp only [Root.substitute, Option.bind_eq_bind,
            Option.bind_eq_some_iff, Option.pure_def, Option.some.injEq]
            at done
          rcases done with ⟨settings, -, others, replaced, rfl⟩
          refine ⟨?_, leavesOf_of_substituted replaced⟩
          simp only [Root.truthy, Option.isSome_some, Bool.or_true]

end Kept

end Civitas.Topology
