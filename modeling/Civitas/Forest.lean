import Mathlib.Data.List.Basic

/-!
# Forests that grow

Nodes are added one after the other.  A node may have a name, which no node
before it has, and may name one node before it as its parent.  Following the
parents leads every node to one root.  Where a label passes from parent to
child and the roots have labels of their own, the nodes of one label are the
nodes of one tree.
-/

namespace Civitas.Forest

variable {Node Id Label : Type*}

/-- The nodes, the newest first; a parent and its child meet `joins`. -/
inductive Grown
    (name parent : Node → Option Id) (joins : Node → Node → Prop) :
    List Node → Prop where
  | nil : Grown name parent joins []
  | add {node : Node} {nodes : List Node}
      (below : Grown name parent joins nodes)
      (fresh : ∀ id, name node = some id →
        ∀ old ∈ nodes, name old ≠ some id)
      (joined : ∀ id, parent node = some id →
        ∃ old ∈ nodes, name old = some id ∧ joins node old) :
      Grown name parent joins (node :: nodes)

section Roots

variable [DecidableEq Id] (name parent : Node → Option Id)

/-- Where the parents of a node lead. -/
def root : List Node → Node → Node
  | [], node => node
  | old :: earlier, node =>
      if (parent node).isSome ∧ parent node = name old
      then root earlier old
      else root earlier node

end Roots

variable
  {name parent : Node → Option Id} {joins : Node → Node → Prop}
  {nodes : List Node}

/-- The parent of a node is one of the nodes. -/
def Joined
    (name parent : Node → Option Id) (joins : Node → Node → Prop)
    (nodes : List Node) (node : Node) : Prop :=
  ∀ id, parent node = some id →
    ∃ old ∈ nodes, name old = some id ∧ joins node old

theorem Grown.joined
    (grown : Grown name parent joins nodes) {node : Node}
    (member : node ∈ nodes) : Joined name parent joins nodes node := by
  induction grown with
  | nil => cases member
  | add below fresh joined ih =>
      intro id up
      rcases List.mem_cons.mp member with rfl | earlier
      · rcases joined id up with ⟨old, there, named, meets⟩
        exact ⟨old, List.mem_cons_of_mem _ there, named, meets⟩
      · rcases ih earlier id up with ⟨old, there, named, meets⟩
        exact ⟨old, List.mem_cons_of_mem _ there, named, meets⟩

/-- The parent of a node was added before it. -/
theorem Grown.joined_earlier
    {later earlier : List Node} {node : Node} {id : Id}
    (grown : Grown name parent joins (later ++ node :: earlier))
    (up : parent node = some id) :
    ∃ old ∈ earlier, name old = some id ∧ joins node old := by
  induction later with
  | nil =>
      cases grown with
      | add below fresh joined => exact joined id up
  | cons newest later ih =>
      cases grown with
      | add below fresh joined => exact ih below

/-- A name is the name of one node. -/
theorem Grown.name_inj
    (grown : Grown name parent joins nodes) {first second : Node} {id : Id}
    (one : first ∈ nodes) (other : second ∈ nodes)
    (named : name first = some id) (alike : name second = some id) :
    first = second := by
  induction grown with
  | nil => cases one
  | add below fresh joined ih =>
      rcases List.mem_cons.mp one with rfl | early
      · rcases List.mem_cons.mp other with rfl | late
        · rfl
        · exact absurd alike (fresh id named _ late)
      · rcases List.mem_cons.mp other with rfl | late
        · exact absurd named (fresh id alike _ early)
        · exact ih early late

/-- The forest can be read with a weaker relation. -/
theorem Grown.mono
    {weaker : Node → Node → Prop} (grown : Grown name parent joins nodes)
    (weaken : ∀ node old, joins node old → weaker node old) :
    Grown name parent weaker nodes := by
  induction grown with
  | nil => exact .nil
  | add below fresh joined ih =>
      refine .add ih fresh ?_
      intro id up
      rcases joined id up with ⟨old, there, named, meets⟩
      exact ⟨old, there, named, weaken _ _ meets⟩

section Climbing

variable [DecidableEq Id]

/-- The parents of a node lead to a root that they all join. -/
theorem Grown.root_spec
    (grown : Grown name parent joins nodes) {label : Node → Label}
    (passes : ∀ node old, joins node old → label old = label node)
    {node : Node} (joined : Joined name parent joins nodes node) :
    parent (root name parent nodes node) = none ∧
      (root name parent nodes node = node ∨
        root name parent nodes node ∈ nodes) ∧
      label (root name parent nodes node) = label node := by
  induction grown generalizing node with
  | nil =>
      refine ⟨?_, .inl rfl, rfl⟩
      cases up : parent node with
      | none => exact up
      | some id =>
          rcases joined id up with ⟨old, there, -, -⟩
          cases there
  | @add newest earlier below fresh own ih =>
      simp only [root]
      split_ifs with link
      · rcases ih own with ⟨top, within, passed⟩
        refine ⟨top, .inr ?_, ?_⟩
        · rcases within with same | there
          · rw [same]
            exact List.mem_cons_self
          · exact List.mem_cons_of_mem _ there
        · rcases Option.isSome_iff_exists.mp link.1 with ⟨id, up⟩
          have named : name newest = some id := link.2 ▸ up
          rcases joined id up with ⟨old, there, alike, meets⟩
          rcases List.mem_cons.mp there with rfl | early
          · exact passed.trans (passes _ _ meets)
          · exact absurd alike (fresh id named old early)
      · have before : Joined name parent joins earlier node := by
          intro id up
          rcases joined id up with ⟨old, there, named, meets⟩
          rcases List.mem_cons.mp there with rfl | early
          · exact absurd ⟨by rw [up]; rfl, up.trans named.symm⟩ link
          · exact ⟨old, early, named, meets⟩
        rcases ih before with ⟨top, within, passed⟩
        exact ⟨top, within.imp_right (List.mem_cons_of_mem _), passed⟩

/-- The root of a node is a node. -/
theorem Grown.root_mem
    (grown : Grown name parent joins nodes) {node : Node}
    (member : node ∈ nodes) : root name parent nodes node ∈ nodes := by
  rcases (grown.root_spec (fun _ _ _ => Eq.refl ()) (grown.joined member)).2.1
    with same | there
  · rw [same]
    exact member
  · exact there

/-- The nodes of one label are the nodes of one tree. -/
theorem Grown.label_eq_iff
    (grown : Grown name parent joins nodes) {label : Node → Label}
    (passes : ∀ node old, joins node old → label old = label node)
    (own : ∀ first ∈ nodes, ∀ second ∈ nodes,
      parent first = none → parent second = none →
        label first = label second → first = second)
    {first second : Node} (one : first ∈ nodes) (other : second ∈ nodes) :
    label first = label second ↔
      root name parent nodes first = root name parent nodes second := by
  have above := grown.root_spec passes (grown.joined one)
  have beside := grown.root_spec passes (grown.joined other)
  constructor
  · intro same
    exact own _ (grown.root_mem one) _ (grown.root_mem other) above.1 beside.1
      (above.2.2.trans (same.trans beside.2.2.symm))
  · intro same
    rw [← above.2.2, ← beside.2.2, same]

end Climbing

end Civitas.Forest
