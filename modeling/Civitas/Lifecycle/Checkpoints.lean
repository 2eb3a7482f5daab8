import Civitas.ObjectHeap
import Civitas.Transition

/-!
# Checkpoints

`checkpoint` and `_restore_state` of an agent over the two state stores.
`InMemoryStateStore` keeps a dictionary: `set` copies the entries of `state`,
but not the containers they refer to, and `get` returns the dictionary that it
keeps.  `SQLiteStateStore` keeps a text, from which `get` makes fresh objects.

The code of an agent changes the objects that it holds in place, makes new ones
and assigns `state`.  A run keeps a history, latest event first: the value of
`state` at each checkpoint, and the value with which each incarnation enters
`on_start`.
-/

namespace Civitas.Lifecycle.Checkpoints

open Civitas.ObjectHeap
open Civitas.Transition

variable {α : Type}

/-- The state stores that keep values themselves. -/
inductive Store where
  | inMemory
  | sqlite
deriving DecidableEq

/-- What the agent sees of its state. -/
inductive Event (α : Type) where
  | checkpoint (value : ValueTree α)
  | entered (value : Option (ValueTree α))

/-- The objects of the process, the state of the agent and what is stored. -/
structure State (α : Type) where
  heap : Heap α
  /-- The `state` of the incarnation. -/
  root : Datum α
  /-- What `InMemoryStateStore` keeps for the name. -/
  kept : Option (Datum α) := none
  /-- What `SQLiteStateStore` keeps for the name. -/
  blob : Option (ValueTree α) := none
  history : List (Event α) := []

/-- The first incarnation has an empty `state`. -/
def init : State α where
  heap := [⟨.dict, []⟩]
  root := .ref 0

/--
The value of a datum.  A datum that is deeper than there are objects contains
itself, and has none.
-/
def valueOf (heap : Heap α) (datum : Datum α) : Option (ValueTree α) :=
  read heap heap.length datum

/-- The objects of a datum. -/
def objectsOf (heap : Heap α) (datum : Datum α) : List Nat :=
  reach heap heap.length datum

/-- `dict(state)`. -/
def copyDict (heap : Heap α) (datum : Datum α) : Datum α × Heap α :=
  match datum with
  | .leaf value => (.leaf value, heap)
  | .ref address =>
      match heap[address]? with
      | none => (.ref address, heap)
      | some object => (.ref heap.length, heap ++ [object])

/-! ## Steps -/

/-- What the code of the agent, its supervisor and the store do. -/
inductive Label (α : Type) where
  /-- An object is changed in place. -/
  | mutate (address : Nat) (object : Object α)
  /-- An object is made. -/
  | allocate (object : Object α)
  /-- `state` is assigned. -/
  | assign (address : Nat)
  | checkpoint
  /-- The agent crashes, and a fresh incarnation comes to `on_start`. -/
  | restart

/-- `set`, for a state whose value is a tree. -/
def State.save (store : Store) (s : State α) (value : ValueTree α) : State α :=
  match store with
  | .inMemory =>
      let copied := copyDict s.heap s.root
      { s with heap := copied.2, kept := some copied.1 }
  | .sqlite => { s with blob := some value }

/-- `self.state = {}` and `_restore_state`. -/
def State.restore (store : Store) (s : State α) : State α :=
  let fresh :=
    { s with heap := s.heap ++ [⟨.dict, []⟩], root := .ref s.heap.length }
  match store with
  | .inMemory =>
      match s.kept with
      | none => fresh
      | some saved => { s with root := saved }
  | .sqlite =>
      match s.blob with
      | none => fresh
      | some value =>
          { s with
            heap := (build value s.heap).2
            root := (build value s.heap).1 }

/-- One step of an agent with its store. -/
def step (store : Store) (s : State α) : Label α → Option (State α)
  | .mutate address object =>
      some { s with heap := s.heap.set address object }
  | .allocate object => some { s with heap := s.heap ++ [object] }
  | .assign address =>
      if address < s.heap.length then some { s with root := .ref address }
      else none
  | .checkpoint =>
      match valueOf s.heap s.root with
      | none => none
      | some value =>
          some
            { s.save store value with
              history := .checkpoint value :: s.history }
  | .restart =>
      let restored := s.restore store
      some
        { restored with
          history :=
            .entered (valueOf restored.heap restored.root) :: s.history }

/-! ## Histories -/

/-- The value of the last checkpoint, empty when there is none. -/
def lastCheckpoint : List (Event α) → ValueTree α
  | [] => .node .dict []
  | .checkpoint value :: _ => value
  | .entered _ :: earlier => lastCheckpoint earlier

/-- Every incarnation starts from the last checkpoint. -/
def Faithful : List (Event α) → Prop
  | [] => True
  | .checkpoint _ :: earlier => Faithful earlier
  | .entered value :: earlier =>
      value = some (lastCheckpoint earlier) ∧ Faithful earlier

/-- What an agent does, apart from what it gets back. -/
def asked (history : List (Event α)) : List (Option (ValueTree α)) :=
  history.map fun
    | .checkpoint value => some value
    | .entered _ => none

/-- Faithful stores give an agent the same answers. -/
theorem eq_of_faithful
    {history other : List (Event α)}
    (faithful : Faithful history) (likewise : Faithful other)
    (same : asked history = asked other) :
    history = other := by
  induction history generalizing other with
  | nil =>
      cases other with
      | nil => rfl
      | cons event rest => cases same
  | cons event rest ih =>
      cases other with
      | nil => cases same
      | cons second others =>
          rcases List.cons.inj same with ⟨head, tail⟩
          cases event with
          | checkpoint value =>
              cases second with
              | checkpoint found =>
                  cases Option.some.inj head
                  have equal : rest = others := ih faithful likewise tail
                  rw [equal]
              | entered found => cases head
          | entered value =>
              cases second with
              | checkpoint found => cases head
              | entered found =>
                  have equal : rest = others :=
                    ih faithful.2 likewise.2 tail
                  rw [faithful.1, likewise.1, equal]

/-! ## The condition -/

/--
No object that `InMemoryStateStore` keeps is changed in place: neither a
container inside the last checkpoint, nor, after a restore, `state` itself.
-/
def apart (store : Store) (s : State α) : Label α → Bool
  | .mutate address _ =>
      match store with
      | .inMemory =>
          s.kept.all fun saved => decide (address ∉ objectsOf s.heap saved)
      | .sqlite => true
  | _ => true

/-- What the store has is the last checkpoint. -/
def State.Current (store : Store) (s : State α) : Prop :=
  match store with
  | .inMemory =>
      match s.kept with
      | none => lastCheckpoint s.history = .node .dict []
      | some saved =>
          valueOf s.heap saved = some (lastCheckpoint s.history)
  | .sqlite => s.blob.getD (.node .dict []) = lastCheckpoint s.history

/-- What holds in every run that meets the condition. -/
structure Sound (store : Store) (s : State α) : Prop where
  faithful : Faithful s.history
  current : s.Current store

section Sound

variable {store : Store} {s after : State α} {label : Label α}

theorem sound_init : Sound store (init : State α) := by
  cases store
  · exact ⟨trivial, rfl⟩
  · exact ⟨trivial, rfl⟩

theorem valueOf_append
    {heap : Heap α} (extra : Heap α) {datum : Datum α} {value : ValueTree α}
    (found : valueOf heap datum = some value) :
    valueOf (heap ++ extra) datum = some value := by
  unfold valueOf at *
  rw [List.length_append]
  exact read_mono (Nat.le_add_right _ _) (read_append extra found)

theorem valueOf_fresh (heap : Heap α) :
    valueOf (heap ++ [⟨.dict, []⟩]) (.ref heap.length) =
      some (.node .dict []) := by
  unfold valueOf
  rw [List.length_append, List.length_singleton]
  refine read_ref_iff.mpr ⟨⟨.dict, []⟩, [], ?_, rfl, rfl⟩
  exact List.getElem?_concat_length

theorem valueOf_copyDict
    {heap : Heap α} {datum : Datum α} {value : ValueTree α}
    (found : valueOf heap datum = some value) :
    valueOf (copyDict heap datum).2 (copyDict heap datum).1 =
      some value := by
  cases datum with
  | leaf scalar => exact found
  | ref address =>
      cases held : heap[address]? with
      | none =>
          simp only [copyDict, held]
          exact found
      | some object =>
          simp only [copyDict, held]
          have grown := valueOf_append [object] found
          unfold valueOf at grown ⊢
          rw [List.length_append, List.length_singleton] at grown ⊢
          rcases read_ref_iff.mp grown with
            ⟨same, trees, again, entries, rfl⟩
          rcases List.getElem?_eq_some_iff.mp held with ⟨below, -⟩
          rw [List.getElem?_append_left below, held] at again
          cases again
          refine read_ref_iff.mpr ⟨object, trees, ?_, entries, rfl⟩
          exact List.getElem?_concat_length

theorem valueOf_build (value : ValueTree α) (heap : Heap α) :
    valueOf (build value heap).2 (build value heap).1 = some value := by
  rcases read_build value heap with ⟨extra, grown, found⟩
  unfold valueOf
  refine read_mono ?_ found
  rw [grown, List.length_append]
  exact Nat.le_add_left _ _

/-- A change of the heap that the store does not notice. -/
theorem Sound.reheap
    (sound : Sound store s) {heap : Heap α} {root : Datum α}
    (unnoticed : store = .inMemory → ∀ saved, s.kept = some saved →
      ∀ value, valueOf s.heap saved = some value →
        valueOf heap saved = some value) :
    Sound store { s with heap := heap, root := root } := by
  refine ⟨sound.faithful, ?_⟩
  have current := sound.current
  cases store with
  | sqlite => exact current
  | inMemory =>
      unfold State.Current at *
      cases kept : s.kept with
      | none =>
          simp only [kept] at current ⊢
          exact current
      | some saved =>
          simp only [kept] at current ⊢
          exact unnoticed rfl saved kept _ current

/-- A restored state has the value of the last checkpoint. -/
theorem Sound.restore (sound : Sound store s) :
    valueOf (s.restore store).heap (s.restore store).root =
        some (lastCheckpoint s.history) ∧
      Sound store (s.restore store) ∧
      (s.restore store).history = s.history := by
  have current := sound.current
  cases store with
  | inMemory =>
      cases kept : s.kept with
      | none =>
          have shape :
              s.restore .inMemory =
                { s with
                  heap := s.heap ++ [⟨.dict, []⟩]
                  root := .ref s.heap.length } := by
            simp only [State.restore, kept]
          simp only [State.Current, kept] at current
          rw [shape, current]
          refine ⟨valueOf_fresh s.heap, sound.reheap ?_, rfl⟩
          intro _ saved found
          cases kept.symm.trans found
      | some saved =>
          have shape : s.restore .inMemory = { s with root := saved } := by
            simp only [State.restore, kept]
          simp only [State.Current, kept] at current
          rw [shape]
          exact ⟨current, sound.reheap fun _ _ _ _ => id, rfl⟩
  | sqlite =>
      cases blob : s.blob with
      | none =>
          have shape :
              s.restore .sqlite =
                { s with
                  heap := s.heap ++ [⟨.dict, []⟩]
                  root := .ref s.heap.length } := by
            simp only [State.restore, blob]
          simp only [State.Current, blob, Option.getD_none] at current
          rw [shape, ← current]
          exact ⟨valueOf_fresh s.heap, sound.reheap (by simp), rfl⟩
      | some value =>
          have shape :
              s.restore .sqlite =
                { s with
                  heap := (build value s.heap).2
                  root := (build value s.heap).1 } := by
            simp only [State.restore, blob]
          simp only [State.Current, blob, Option.getD_some] at current
          rw [shape, ← current]
          exact ⟨valueOf_build value s.heap, sound.reheap (by simp), rfl⟩

/-- A checkpoint makes the store current. -/
theorem Sound.save
    (sound : Sound store s) {value : ValueTree α}
    (found : valueOf s.heap s.root = some value) :
    Sound store
      { s.save store value with
        history := .checkpoint value :: s.history } := by
  refine ⟨sound.faithful, ?_⟩
  cases store with
  | inMemory => exact valueOf_copyDict found
  | sqlite => rfl

theorem Sound.step
    (sound : Sound store s) (kept : apart store s label = true)
    (stepped : step store s label = some after) :
    Sound store after := by
  cases label with
  | mutate address object =>
      cases stepped
      refine sound.reheap ?_
      rintro rfl saved found value held
      have outside : address ∉ objectsOf s.heap saved := by
        simpa [apart, found] using kept
      unfold valueOf at held ⊢
      rw [List.length_set]
      exact read_set object outside held
  | allocate object =>
      cases stepped
      refine sound.reheap ?_
      intro _ saved _ value held
      exact valueOf_append [object] held
  | assign address =>
      simp only [Checkpoints.step] at stepped
      split at stepped
      · cases stepped
        exact sound.reheap fun _ _ _ _ => id
      · cases stepped
  | checkpoint =>
      simp only [Checkpoints.step] at stepped
      split at stepped
      · cases stepped
      · rename_i value found
        cases stepped
        exact sound.save found
  | restart =>
      cases stepped
      rcases sound.restore with ⟨entered, restored, same⟩
      refine ⟨⟨entered, sound.faithful⟩, ?_⟩
      have current := restored.current
      unfold State.Current at current ⊢
      simp only [lastCheckpoint, ← same]
      exact current

end Sound

/--
In every run in which no object that the store keeps is changed in place, each
incarnation starts from the last checkpoint; and the two stores then give an
agent the same answers.
-/
theorem restart_from_last_checkpoint :
    (∀ (store : Store) (s : State α),
      Reaches (step store) (fun s label => apart store s label = true) init
          s →
        Faithful s.history) ∧
      ∀ inMemory sqlite : State α,
        Reaches (step .inMemory)
            (fun s label => apart .inMemory s label = true) init inMemory →
          Reaches (step .sqlite) (fun _ _ => True) init sqlite →
            asked inMemory.history = asked sqlite.history →
              inMemory.history = sqlite.history := by
  have faithful : ∀ (store : Store) (s : State α),
      Reaches (step store) (fun s label => apart store s label = true) init
          s →
        Faithful s.history := by
    intro store s reached
    have sound : Sound store s := by
      refine reached.invariant sound_init ?_
      intro before label after holds kept stepped
      exact holds.step kept stepped
    exact sound.faithful
  refine ⟨faithful, ?_⟩
  intro inMemory sqlite reached other same
  have unchanged := other.mono fun before label _ => by
    show apart .sqlite before label = true
    cases label <;> rfl
  exact eq_of_faithful (faithful .inMemory inMemory reached)
    (faithful .sqlite sqlite unchanged) same

/--
An agent checkpoints a state with a list inside, works on a new list, crashes
and is restarted.
-/
def careful : List (Label Nat) :=
  [.allocate ⟨.list, [("", .leaf 1)]⟩,
    .mutate 0 ⟨.dict, [("items", .ref 1)]⟩, .checkpoint,
    .allocate ⟨.list, []⟩, .mutate 0 ⟨.dict, [("items", .ref 3)]⟩, .restart]

/-- The value that `careful` checkpoints. -/
def oneItem : ValueTree Nat :=
  .node .dict [("items", .node .list [("", .leaf 1)])]

theorem careful_restart :
    ∃ s : State Nat,
      Reaches (step .inMemory)
          (fun s label => apart .inMemory s label = true) init s ∧
        Faithful s.history ∧
        s.history = [.entered (some oneItem), .checkpoint oneItem] := by
  have ran :
      (runWhere (step .inMemory)
          (fun s label => apart .inMemory s label = true) init careful).map
        State.history =
        some [.entered (some oneItem), .checkpoint oneItem] := by
    rfl
  rcases exists_reaches_of_run ran with ⟨s, run, seen⟩
  exact ⟨s, run, restart_from_last_checkpoint.1 .inMemory s run, seen⟩

/-- An item that is appended after the checkpoint is still there. -/
theorem uncheckpointed_item_survives :
    ¬ ((∀ (store : Store) (s : State Nat),
        Reaches (step store) (fun _ _ => True) init s →
          Faithful s.history) ∧
        ∀ inMemory sqlite : State Nat,
          Reaches (step .inMemory) (fun _ _ => True) init inMemory →
            Reaches (step .sqlite) (fun _ _ => True) init sqlite →
              asked inMemory.history = asked sqlite.history →
                inMemory.history = sqlite.history) := by
  rintro ⟨faithful, -⟩
  have ran :
      (runWhere (step .inMemory) (fun _ _ => True) init
          [.allocate ⟨.list, []⟩, .mutate 0 ⟨.dict, [("items", .ref 1)]⟩,
            .checkpoint, .mutate 1 ⟨.list, [("", .leaf 1)]⟩,
            .restart]).map State.history =
        some
          [.entered (some oneItem),
            .checkpoint (.node .dict [("items", .node .list [])])] := by
    rfl
  rcases exists_reaches_of_run ran with ⟨s, run, seen⟩
  have entered := faithful .inMemory s run
  rw [seen] at entered
  have same := Option.some.inj entered.1
  simp [oneItem, lastCheckpoint] at same

end Civitas.Lifecycle.Checkpoints
