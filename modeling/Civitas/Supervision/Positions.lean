import Mathlib.Algebra.BigOperators.Group.List.Basic
import Mathlib.Algebra.GroupWithZero.Nat
import Mathlib.Data.List.Basic

/-!
# Positions in a supervision tree

A process of a tree is named by its position: the indices of the children that
lead to it from the root.  A supervisor stands above a process when its
position is a proper beginning of the position of the process.
-/

namespace Civitas.Supervision

/-- The shape of a tree: an agent, or a supervisor with its children. -/
inductive Shape where
  | agent
  | supervisor (children : List Shape)

/-- A place in a tree: the numbers of the children on the way to it. -/
abbrev Position := List Nat

namespace Shape

/-- The part of a tree at a position. -/
def find : Shape → Position → Option Shape
  | node, [] => some node
  | .agent, _ :: _ => none
  | .supervisor children, index :: rest =>
      match children[index]? with
      | some child => child.find rest
      | none => none

/-- There is a supervisor at the position. -/
def supervises (tree : Shape) (place : Position) : Bool :=
  match tree.find place with
  | some (.supervisor _) => true
  | _ => false

/-- The children of the process at a position, in the order of the list. -/
def childrenOf (tree : Shape) (place : Position) : List Position :=
  match tree.find place with
  | some (.supervisor children) =>
      (List.range children.length).map fun index => place ++ [index]
  | _ => []

mutual

/-- The number of processes. -/
def size : Shape → Nat
  | .agent => 1
  | .supervisor children => 1 + sizeEach children

/-- `Shape.size` of each child, added up. -/
def sizeEach : List Shape → Nat
  | [] => 0
  | child :: rest => child.size + sizeEach rest

end

/-- The number of processes from a position on. -/
def weight (tree : Shape) (place : Position) : Nat :=
  match tree.find place with
  | some node => node.size
  | none => 1

section

variable {tree : Shape} {place other : Position}

theorem find_append (tree : Shape) (place rest : Position) :
    tree.find (place ++ rest) = (tree.find place).bind (·.find rest) := by
  induction place generalizing tree with
  | nil => simp [find]
  | cons index tail ih =>
      cases tree with
      | agent => simp [find]
      | supervisor children =>
          simp only [List.cons_append, find]
          cases children[index]? with
          | none => rfl
          | some child => exact ih child

/-- What stands below a position stands at or below one of its children. -/
theorem below_child
    (found : (tree.find other).isSome = true) (above : place <+: other)
    (apart : other ≠ place) :
    ∃ child ∈ tree.childrenOf place, child <+: other := by
  rcases above with ⟨rest, rfl⟩
  cases rest with
  | nil => exact absurd (List.append_nil place) apart
  | cons index tail =>
      rw [find_append] at found
      cases node : tree.find place with
      | none => simp [node] at found
      | some shape =>
          cases shape with
          | agent => simp [node, find] at found
          | supervisor children =>
              refine ⟨place ++ [index], ?_, ⟨tail, by simp⟩⟩
              have inside : index < children.length := by
                by_contra outside
                have none : children[index]? = none :=
                  List.getElem?_eq_none (Nat.le_of_not_lt outside)
                simp [node, find, none] at found
              simp only [childrenOf, node, List.mem_map, List.mem_range]
              exact ⟨index, inside, rfl⟩

/-- Nothing stands below an agent. -/
theorem childrenOf_agent
    (agent : tree.supervises place = false) : tree.childrenOf place = [] := by
  unfold supervises at agent
  unfold childrenOf
  split
  · rename_i children found
    simp [found] at agent
  · rfl

theorem find_of_supervises
    (supervisor : tree.supervises place = true) :
    (tree.find place).isSome = true := by
  unfold supervises at supervisor
  split at supervisor
  · rename_i found
    simp [found]
  · cases supervisor

/-- A position at or below an agent is that of the agent. -/
theorem eq_of_agent
    (agent : tree.supervises place = false)
    (found : (tree.find other).isSome = true) (above : place <+: other) :
    other = place := by
  by_contra apart
  rcases below_child found above apart with ⟨child, listed, -⟩
  rw [childrenOf_agent agent] at listed
  cases listed

theorem size_pos (node : Shape) : 1 ≤ node.size := by
  cases node with
  | agent => exact Nat.le_refl 1
  | supervisor children => exact Nat.le_add_right 1 _

theorem weight_pos (tree : Shape) (place : Position) :
    1 ≤ tree.weight place := by
  unfold weight
  split
  · exact size_pos _
  · exact Nat.le_refl 1

theorem sizeEach_eq_sum (children : List Shape) :
    sizeEach children = (children.map size).sum := by
  induction children with
  | nil => rfl
  | cons child rest ih => simp [sizeEach, ih]

/-- A supervisor and the trees of its children. -/
theorem weight_supervisor
    (supervisor : tree.supervises place = true) :
    tree.weight place =
      1 + ((tree.childrenOf place).map tree.weight).sum := by
  unfold supervises at supervisor
  split at supervisor
  · rename_i children found
    have each :
        (tree.childrenOf place).map tree.weight = children.map size := by
      simp only [childrenOf, found, List.map_map]
      apply List.ext_getElem
      · simp
      · intro index left right
        have inside : index < children.length := by simpa using right
        simp [weight, find_append, found, find, inside]
    rw [each, ← sizeEach_eq_sum]
    simp [weight, found, size]
  · cases supervisor

end

end Shape

end Civitas.Supervision
