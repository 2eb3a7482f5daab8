import Mathlib.Data.List.Basic

/-!
# Objects, references and the values they stand for

A heap of mutable containers that refer to one another, with leaves that cannot
change.  `read` gives the tree that a reference stands for, provided it is not
deeper than a bound; `build` lays a tree out in fresh objects.

What a reference stands for does not change when the heap grows, nor when an
object is changed that cannot be reached from it.
-/

namespace Civitas.ObjectHeap

/-- The containers. -/
inductive Kind where
  | dict
  | list
deriving DecidableEq

/-- A value without identities; the keys of a list are not used. -/
inductive ValueTree (α : Type) where
  | leaf (value : α)
  | node (kind : Kind) (children : List (String × ValueTree α))

/-- What a container holds at a key. -/
inductive Datum (α : Type) where
  | leaf (value : α)
  | ref (address : Nat)
deriving DecidableEq

/-- A list or a dictionary, with references to its parts. -/
structure Object (α : Type) where
  kind : Kind
  entries : List (String × Datum α)
deriving DecidableEq

/-- The objects, by address. -/
abbrev Heap (α : Type) := List (Object α)

variable {α : Type}

/-! ## Reading -/

/-- Read every entry of an object. -/
def readEntries (readDatum : Datum α → Option (ValueTree α)) :
    List (String × Datum α) → Option (List (String × ValueTree α))
  | [] => some []
  | (key, datum) :: rest =>
      match readDatum datum, readEntries readDatum rest with
      | some tree, some trees => some ((key, tree) :: trees)
      | _, _ => none

/-- The tree that a datum stands for, when it is at most so deep. -/
def read (heap : Heap α) : Nat → Datum α → Option (ValueTree α)
  | _, .leaf value => some (.leaf value)
  | 0, .ref _ => none
  | depth + 1, .ref address =>
      match heap[address]? with
      | none => none
      | some object =>
          (readEntries (read heap depth) object.entries).map
            (.node object.kind)

/-- The addresses that a reading to the depth visits. -/
def reach (heap : Heap α) : Nat → Datum α → List Nat
  | _, .leaf _ => []
  | 0, .ref address => [address]
  | depth + 1, .ref address =>
      address ::
        match heap[address]? with
        | none => []
        | some object =>
            object.entries.flatMap fun entry => reach heap depth entry.2

section Equations

-- The equations of `readEntries` are derived here, for all that unfold it.
attribute [local simp] readEntries read reach

end Equations

theorem readEntries_congr
    {first second : Datum α → Option (ValueTree α)}
    {entries : List (String × Datum α)} {trees : List (String × ValueTree α)}
    (same : ∀ entry ∈ entries, ∀ tree,
      first entry.2 = some tree → second entry.2 = some tree)
    (found : readEntries first entries = some trees) :
    readEntries second entries = some trees := by
  induction entries generalizing trees with
  | nil => exact found
  | cons entry rest ih =>
      rcases entry with ⟨key, datum⟩
      cases head : first datum with
      | none => simp [readEntries, head] at found
      | some tree =>
          cases tail : readEntries first rest with
          | none => simp [readEntries, head, tail] at found
          | some others =>
              have headed := same _ List.mem_cons_self tree head
              have tailed :=
                ih (fun entry within => same entry
                  (List.mem_cons_of_mem _ within)) tail
              simp only [readEntries, head, tail] at found
              simpa only [readEntries, headed, tailed] using found

/-- One level of a reading. -/
theorem read_ref_iff
    {heap : Heap α} {depth address : Nat} {tree : ValueTree α} :
    read heap (depth + 1) (.ref address) = some tree ↔
      ∃ object trees,
        heap[address]? = some object ∧
          readEntries (read heap depth) object.entries = some trees ∧
          tree = .node object.kind trees := by
  cases found : heap[address]? with
  | none => simp [read, found]
  | some object =>
      simp only [read, found, Option.map_eq_some_iff, Option.some.injEq]
      constructor
      · rintro ⟨trees, entries, rfl⟩
        exact ⟨object, trees, rfl, entries, rfl⟩
      · rintro ⟨_, trees, rfl, entries, rfl⟩
        exact ⟨trees, entries, rfl⟩

/-- A reading to some depth is a reading to every greater depth. -/
theorem read_succ
    {heap : Heap α} {depth : Nat} {datum : Datum α} {tree : ValueTree α}
    (found : read heap depth datum = some tree) :
    read heap (depth + 1) datum = some tree := by
  induction depth generalizing datum tree with
  | zero =>
      cases datum with
      | leaf value => exact found
      | ref address => cases found
  | succ depth ih =>
      cases datum with
      | leaf value => exact found
      | ref address =>
          rcases read_ref_iff.mp found with
            ⟨object, trees, held, entries, rfl⟩
          refine read_ref_iff.mpr ⟨object, trees, held, ?_, rfl⟩
          exact readEntries_congr (fun _ _ _ => ih) entries

theorem read_mono
    {heap : Heap α} {depth deeper : Nat} {datum : Datum α} {tree : ValueTree α}
    (within : depth ≤ deeper) (found : read heap depth datum = some tree) :
    read heap deeper datum = some tree := by
  induction within with
  | refl => exact found
  | step _ ih => exact read_succ ih

/-- New objects do not change what is read. -/
theorem read_append
    {heap : Heap α} (extra : Heap α) {depth : Nat} {datum : Datum α}
    {tree : ValueTree α} (found : read heap depth datum = some tree) :
    read (heap ++ extra) depth datum = some tree := by
  induction depth generalizing datum tree with
  | zero =>
      cases datum with
      | leaf value => exact found
      | ref address => cases found
  | succ depth ih =>
      cases datum with
      | leaf value => exact found
      | ref address =>
          rcases read_ref_iff.mp found with
            ⟨object, trees, held, entries, rfl⟩
          refine read_ref_iff.mpr ⟨object, trees, ?_, ?_, rfl⟩
          · rcases List.getElem?_eq_some_iff.mp held with ⟨below, -⟩
            rw [List.getElem?_append_left below]
            exact held
          · exact readEntries_congr (fun _ _ _ => ih) entries

/-- A change of an object that is not visited does not change what is read. -/
theorem read_set
    {heap : Heap α} {target : Nat} (object : Object α) {depth : Nat}
    {datum : Datum α} {tree : ValueTree α}
    (apart : target ∉ reach heap depth datum)
    (found : read heap depth datum = some tree) :
    read (heap.set target object) depth datum = some tree := by
  induction depth generalizing datum tree with
  | zero =>
      cases datum with
      | leaf value => exact found
      | ref address => cases found
  | succ depth ih =>
      cases datum with
      | leaf value => exact found
      | ref address =>
          rcases read_ref_iff.mp found with
            ⟨visited, trees, held, entries, rfl⟩
          simp only [reach, held, List.mem_cons, List.mem_flatMap, not_or,
            not_exists, not_and] at apart
          refine read_ref_iff.mpr ⟨visited, trees, ?_, ?_, rfl⟩
          · rw [List.getElem?_set_ne apart.1]
            exact held
          · refine readEntries_congr ?_ entries
            intro entry within tree
            exact ih (apart.2 entry within)

/-! ## Building -/

mutual

/-- Lay a tree out in fresh objects. -/
def build : ValueTree α → Heap α → Datum α × Heap α
  | .leaf value, heap => (.leaf value, heap)
  | .node kind children, heap =>
      let built := buildEntries children heap
      (.ref built.2.length, built.2 ++ [⟨kind, built.1⟩])

/-- `build` of each entry, from the left. -/
def buildEntries :
    List (String × ValueTree α) → Heap α → List (String × Datum α) × Heap α
  | [], heap => ([], heap)
  | (key, child) :: rest, heap =>
      let first := build child heap
      let others := buildEntries rest first.2
      ((key, first.1) :: others.1, others.2)

end

mutual

/-- A tree that has been laid out can be read again. -/
theorem read_build (tree : ValueTree α) (heap : Heap α) :
    ∃ extra,
      (build tree heap).2 = heap ++ extra ∧
        read (build tree heap).2 extra.length (build tree heap).1 =
          some tree := by
  cases tree with
  | leaf value => exact ⟨[], (List.append_nil heap).symm, rfl⟩
  | node kind children =>
      rcases read_buildEntries children heap with ⟨extra, grown, entries⟩
      refine ⟨extra ++ [⟨kind, (buildEntries children heap).1⟩], ?_, ?_⟩
      · simp only [build, grown, List.append_assoc]
      · simp only [build, List.length_append, List.length_singleton]
        refine read_ref_iff.mpr
          ⟨⟨kind, (buildEntries children heap).1⟩, children, ?_, ?_, rfl⟩
        · exact List.getElem?_concat_length
        · exact readEntries_congr (fun _ _ _ => read_append _) entries

theorem read_buildEntries
    (children : List (String × ValueTree α)) (heap : Heap α) :
    ∃ extra,
      (buildEntries children heap).2 = heap ++ extra ∧
        readEntries (read (buildEntries children heap).2 extra.length)
          (buildEntries children heap).1 = some children := by
  cases children with
  | nil => exact ⟨[], (List.append_nil heap).symm, rfl⟩
  | cons entry rest =>
      rcases entry with ⟨key, child⟩
      rcases read_build child heap with ⟨first, grown, head⟩
      rcases read_buildEntries rest (build child heap).2 with
        ⟨others, further, tail⟩
      refine ⟨first ++ others, ?_, ?_⟩
      · simp only [buildEntries]
        rw [further, grown, List.append_assoc]
      · have headed :
            read (buildEntries rest (build child heap).2).2
              (first ++ others).length (build child heap).1 =
                some child := by
          rw [further, List.length_append]
          exact read_mono (Nat.le_add_right _ _) (read_append _ head)
        have tailed :
            readEntries
              (read (buildEntries rest (build child heap).2).2
                (first ++ others).length)
              (buildEntries rest (build child heap).2).1 = some rest := by
          refine readEntries_congr (fun _ _ _ => ?_) tail
          rw [List.length_append]
          exact read_mono (Nat.le_add_left _ _)
        simp only [buildEntries, readEntries, headed, tailed]

end

end Civitas.ObjectHeap
