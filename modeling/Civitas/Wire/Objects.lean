import Mathlib.Algebra.Group.Int.Defs
import Mathlib.Algebra.Group.Nat.Defs
import Mathlib.Data.List.Basic
import Mathlib.Data.List.Forall2
import Mathlib.Data.List.Nodup

/-!
# Python objects and the wire formats

The objects that an application hands to `json` and `msgpack`, which are more
than what these libraries hand back: tuples, dictionaries with keys that are
not texts, texts with surrogate code points, floats that are not numbers and
integers of any size.

A property that every part of an object has is one traversal with a `Check`
for the scalars, the keys and the sizes.  Reading an object back from a wire
format is one traversal with a function for the floats: every format turns
tuples into lists.
-/

namespace Civitas.Wire

/-- A Python `bytes` object. -/
abbrev Bytes := List UInt8

/-! ## Texts -/

/-- A Unicode code point.  Python texts may hold surrogates. -/
abbrev CodePoint := Fin 0x110000

/-- A Python `str`. -/
abbrev Text := List CodePoint

/-- The first half of a surrogate pair. -/
def CodePoint.isHighSurrogate (point : CodePoint) : Bool :=
  0xd800 ≤ point.val && point.val ≤ 0xdbff

/-- The second half of a surrogate pair. -/
def CodePoint.isLowSurrogate (point : CodePoint) : Bool :=
  0xdc00 ≤ point.val && point.val ≤ 0xdfff

theorem CodePoint.isHighSurrogate_iff {point : CodePoint} :
    CodePoint.isHighSurrogate point = true ↔
      0xd800 ≤ point.val ∧ point.val ≤ 0xdbff := by
  simp [CodePoint.isHighSurrogate]

theorem CodePoint.isLowSurrogate_iff {point : CodePoint} :
    CodePoint.isLowSurrogate point = true ↔
      0xdc00 ≤ point.val ∧ point.val ≤ 0xdfff := by
  simp [CodePoint.isLowSurrogate]

/-- A code point that UTF-8 can encode. -/
def CodePoint.isScalar (point : CodePoint) : Bool :=
  !CodePoint.isHighSurrogate point && !CodePoint.isLowSurrogate point

/-- The code points of a character, which is never a surrogate. -/
def CodePoint.ofChar (letter : Char) : CodePoint :=
  ⟨letter.toNat, by
    have valid := letter.valid
    rcases valid with small | ⟨-, large⟩
    · exact Nat.lt_trans small (by decide)
    · exact large⟩

/-- A text literal of a program. -/
def Text.ofString (text : String) : Text :=
  text.toList.map CodePoint.ofChar

theorem Text.ofString_ofList (letters : List Char) :
    Text.ofString (String.ofList letters) = letters.map CodePoint.ofChar := by
  rw [Text.ofString, String.toList_ofList]

theorem CodePoint.isScalar_ofChar (letter : Char) :
    CodePoint.isScalar (CodePoint.ofChar letter) = true := by
  have valid := letter.valid
  have size : (CodePoint.ofChar letter).val = letter.val.toNat := rfl
  have high :
      CodePoint.isHighSurrogate (CodePoint.ofChar letter) = false := by
    rw [← Bool.not_eq_true, CodePoint.isHighSurrogate_iff]
    rcases valid with small | ⟨large, -⟩
    · omega
    · omega
  have low :
      CodePoint.isLowSurrogate (CodePoint.ofChar letter) = false := by
    rw [← Bool.not_eq_true, CodePoint.isLowSurrogate_iff]
    rcases valid with small | ⟨large, -⟩
    · omega
    · omega
  simp [CodePoint.isScalar, high, low]

theorem CodePoint.ofChar_injective :
    Function.Injective CodePoint.ofChar := by
  intro left right same
  have values : left.toNat = right.toNat := Fin.mk.inj same
  exact Char.toNat_inj.mp values

theorem Text.ofString_injective : Function.Injective Text.ofString := by
  intro left right same
  have letters :=
    (List.map_injective_iff.mpr CodePoint.ofChar_injective) same
  exact String.toList_inj.mp letters

@[simp]
theorem Text.ofString_inj {left right : String} :
    Text.ofString left = Text.ofString right ↔ left = right :=
  Text.ofString_injective.eq_iff

/-- A text that UTF-8 can encode. -/
def Text.encodable (text : Text) : Bool :=
  text.all CodePoint.isScalar

@[simp]
theorem Text.encodable_ofString (text : String) :
    Text.encodable (Text.ofString text) = true := by
  unfold Text.encodable Text.ofString
  rw [List.all_map, List.all_eq_true]
  intro letter _
  exact CodePoint.isScalar_ofChar letter

/-! ## Floats -/

/-- The one not-a-number that the model keeps. -/
def quietNaN : BitVec 64 := 0x7ff8000000000000#64

/-- The bits encode no number. -/
def isNaN (bits : BitVec 64) : Bool :=
  bits.toNat / 2 ^ 52 % 2 ^ 11 = 2047 && bits.toNat % 2 ^ 52 ≠ 0

/-- A Python `float`, as the bits of an IEEE 754 double. -/
structure Double where
  bits : BitVec 64
  canonical : isNaN bits = true → bits = quietNaN
deriving DecidableEq

/-- The double with the given bits. -/
def Double.ofBits (bits : BitVec 64) : Double :=
  if number : isNaN bits = true
  then ⟨quietNaN, fun _ => rfl⟩
  else ⟨bits, fun nan => absurd nan number⟩

@[simp]
theorem Double.ofBits_bits (float : Double) :
    Double.ofBits float.bits = float := by
  rcases float with ⟨bits, canonical⟩
  unfold Double.ofBits
  split
  · rename_i nan
    cases canonical nan
    rfl
  · rfl

/-- Neither infinite nor a NaN. -/
def Double.isFinite (float : Double) : Bool :=
  float.bits.toNat / 2 ^ 52 % 2 ^ 11 ≠ 2047

/-! ## Objects -/

/-- A dictionary key that `json` or `msgpack` knows. -/
inductive Key where
  | none
  | bool (flag : Bool)
  | int (value : Int)
  | float (value : Double)
  | str (text : Text)
  | bytes (data : Bytes)
deriving DecidableEq

/-- The key with the text of a program literal. -/
def Key.named (name : String) : Key :=
  .str (Text.ofString name)

@[simp]
theorem Key.named_inj {left right : String} :
    Key.named left = Key.named right ↔ left = right := by
  simp [Key.named]

/-- A Python object made of the types that `json` or `msgpack` knows. -/
inductive Obj where
  | none
  | bool (flag : Bool)
  | int (value : Int)
  | float (value : Double)
  | str (text : Text)
  | bytes (data : Bytes)
  | ext (code : Int) (data : Bytes)
  | list (items : List Obj)
  | tuple (items : List Obj)
  | dict (entries : List (Key × Obj))

/-- An object without parts. -/
def Obj.isScalar : Obj → Bool
  | .list _ | .tuple _ | .dict _ => false
  | _ => true

section Induction

variable {motive : Obj → Prop}
  (scalar : ∀ object : Obj, object.isScalar = true → motive object)
  (list : ∀ items, (∀ item ∈ items, motive item) → motive (.list items))
  (tuple : ∀ items, (∀ item ∈ items, motive item) → motive (.tuple items))
  (dict :
    ∀ entries : List (Key × Obj),
      (∀ entry ∈ entries, motive entry.2) → motive (.dict entries))

include scalar list tuple dict

/-- Induction over an object, its parts taken together. -/
@[elab_as_elim]
theorem Obj.parts_induction (object : Obj) : motive object := by
  refine
    @Obj.rec motive
      (fun items => ∀ item ∈ items, motive item)
      (fun entries => ∀ entry ∈ entries, motive entry.2)
      (fun entry => motive entry.2)
      ?_ ?_ ?_ ?_ ?_ ?_ ?_ ?_ ?_ ?_ ?_ ?_ ?_ ?_ ?_ object
  · exact scalar _ rfl
  · exact fun _ => scalar _ rfl
  · exact fun _ => scalar _ rfl
  · exact fun _ => scalar _ rfl
  · exact fun _ => scalar _ rfl
  · exact fun _ => scalar _ rfl
  · exact fun _ _ => scalar _ rfl
  · exact fun items parts => list items parts
  · exact fun items parts => tuple items parts
  · exact fun entries parts => dict entries parts
  · simp
  · intro head tail first rest item member
    rcases List.mem_cons.mp member with rfl | later
    · exact first
    · exact rest item later
  · simp
  · intro head tail first rest entry member
    rcases List.mem_cons.mp member with rfl | later
    · exact first
    · exact rest entry later
  · exact fun _ _ value => value

end Induction

/-! ## Checks on every part -/

/-- What is asked of the parts of an object. -/
structure Check where
  /-- Of an object without parts. -/
  scalar : Obj → Bool
  /-- Of the keys of a dictionary. -/
  keys : List Key → Bool
  /-- Of the number of items or entries. -/
  size : Nat → Bool
  /-- Whether there may be tuples. -/
  tuples : Bool

mutual

/-- Every part of the object passes the check. -/
def Obj.passes (check : Check) : Obj → Bool
  | .list items => check.size items.length && Obj.passesItems check items
  | .tuple items =>
      check.tuples && check.size items.length && Obj.passesItems check items
  | .dict entries =>
      check.size entries.length && check.keys (entries.map Prod.fst) &&
        Obj.passesEntries check entries
  | scalar => check.scalar scalar

/-- `Obj.passes` of each item. -/
def Obj.passesItems (check : Check) : List Obj → Bool
  | [] => true
  | item :: rest => Obj.passes check item && Obj.passesItems check rest

/-- `Obj.passes` of each value. -/
def Obj.passesEntries (check : Check) : List (Key × Obj) → Bool
  | [] => true
  | entry :: rest =>
      Obj.passes check entry.2 && Obj.passesEntries check rest

end

section Equations

-- The equations of `Obj.passes` are derived here, for all that unfold it.
attribute [local simp] Obj.passes Obj.passesItems Obj.passesEntries

end Equations

section Passes

variable {check : Check} {items : List Obj} {entries : List (Key × Obj)}

theorem Obj.passesItems_iff :
    Obj.passesItems check items = true ↔
      ∀ item ∈ items, item.passes check = true := by
  induction items with
  | nil => simp [Obj.passesItems]
  | cons item rest ih => simp [Obj.passesItems, ih]

theorem Obj.passesEntries_iff :
    Obj.passesEntries check entries = true ↔
      ∀ entry ∈ entries, entry.2.passes check = true := by
  induction entries with
  | nil => simp [Obj.passesEntries]
  | cons entry rest ih => simp [Obj.passesEntries, ih]

theorem Obj.passes_list :
    (Obj.list items).passes check = true ↔
      check.size items.length = true ∧
        ∀ item ∈ items, item.passes check = true := by
  simp [Obj.passes, Obj.passesItems_iff]

theorem Obj.passes_tuple :
    (Obj.tuple items).passes check = true ↔
      check.tuples = true ∧ check.size items.length = true ∧
        ∀ item ∈ items, item.passes check = true := by
  simp [Obj.passes, Obj.passesItems_iff, and_assoc]

theorem Obj.passes_dict :
    (Obj.dict entries).passes check = true ↔
      check.size entries.length = true ∧
        check.keys (entries.map Prod.fst) = true ∧
        ∀ entry ∈ entries, entry.2.passes check = true := by
  simp [Obj.passes, Obj.passesEntries_iff, and_assoc]

theorem Obj.passes_list_iff
    (check : Check) (size : ∀ count, check.size count = true) :
    (Obj.list items).passes check = true ↔
      ∀ item ∈ items, item.passes check = true := by
  rw [Obj.passes_list, and_iff_right (size _)]

theorem Obj.passes_tuple_iff
    (check : Check) (size : ∀ count, check.size count = true)
    (tuples : check.tuples = true) :
    (Obj.tuple items).passes check = true ↔
      ∀ item ∈ items, item.passes check = true := by
  rw [Obj.passes_tuple, and_iff_right tuples, and_iff_right (size _)]

theorem Obj.passes_dict_iff
    (check : Check) (size : ∀ count, check.size count = true) :
    (Obj.dict entries).passes check = true ↔
      check.keys (entries.map Prod.fst) = true ∧
        ∀ entry ∈ entries, entry.2.passes check = true := by
  rw [Obj.passes_dict, and_iff_right (size _)]

theorem Obj.passes_scalar
    {object : Obj} (scalar : object.isScalar = true) :
    object.passes check = check.scalar object := by
  cases object with
  | list items => cases scalar
  | tuple items => cases scalar
  | dict entries => cases scalar
  | _ => rfl

end Passes

/-- The keys of every dictionary are distinct. -/
def distinctKeys : Check where
  scalar _ := true
  keys keys := decide keys.Nodup
  size _ := true
  tuples := true

/-- An integer that fits into 64 bits, with or without a sign. -/
def fits64 (value : Int) : Bool :=
  -2 ^ 63 ≤ value && value < 2 ^ 64

/-- A key whose text or number has an encoding. -/
def Key.encodable : Key → Bool
  | .int value => fits64 value
  | .str text => Text.encodable text
  | _ => true

/-- A scalar whose text or number has an encoding. -/
def Obj.scalarEncodable : Obj → Bool
  | .int value => fits64 value
  | .str text => Text.encodable text
  | _ => true

/-- 64-bit integers and UTF-8 texts. -/
def encodable : Check where
  scalar := Obj.scalarEncodable
  keys keys := keys.all Key.encodable
  size _ := true
  tuples := true

/-- A key that `strict_map_key` lets through. -/
def Key.isStrict : Key → Bool
  | .str _ | .bytes _ => true
  | _ => false

/-- Texts and byte strings as keys. -/
def strictKeys : Check where
  scalar _ := true
  keys keys := keys.all Key.isStrict
  size _ := true
  tuples := true

/-- An object as a decoder builds it. -/
def decoded : Check where
  scalar _ := true
  keys keys := keys.all Key.isStrict && decide keys.Nodup
  size _ := true
  tuples := false

/-- No infinity and no NaN among the values. -/
def finiteFloats : Check where
  scalar
    | .float value => value.isFinite
    | _ => true
  keys _ := true
  size _ := true
  tuples := true

/-! ## Reading an object back -/

mutual

/-- Tuples become lists, and floats what `float` makes of them. -/
def Obj.rebuild (float : Double → Obj) : Obj → Obj
  | .float value => float value
  | .list items | .tuple items => .list (Obj.rebuildItems float items)
  | .dict entries => .dict (Obj.rebuildEntries float entries)
  | scalar => scalar

/-- `Obj.rebuild` of each item. -/
def Obj.rebuildItems (float : Double → Obj) : List Obj → List Obj
  | [] => []
  | item :: rest => Obj.rebuild float item :: Obj.rebuildItems float rest

/-- `Obj.rebuild` of each value. -/
def Obj.rebuildEntries
    (float : Double → Obj) : List (Key × Obj) → List (Key × Obj)
  | [] => []
  | entry :: rest =>
      (entry.1, Obj.rebuild float entry.2) ::
        Obj.rebuildEntries float rest

end

/-- The object with its tuples as lists. -/
def Obj.listed (object : Obj) : Obj :=
  object.rebuild .float

section Equations

-- The equations of `Obj.rebuild` are derived here, for all that unfold it.
attribute [local simp] Obj.rebuild Obj.rebuildItems Obj.rebuildEntries

end Equations

section Rebuild

variable {float : Double → Obj}

theorem Obj.rebuildItems_eq (items : List Obj) :
    Obj.rebuildItems float items = items.map (Obj.rebuild float) := by
  induction items with
  | nil => rfl
  | cons item rest ih => simp [Obj.rebuildItems, ih]

theorem Obj.rebuildEntries_eq (entries : List (Key × Obj)) :
    Obj.rebuildEntries float entries =
      entries.map fun entry => (entry.1, entry.2.rebuild float) := by
  induction entries with
  | nil => rfl
  | cons entry rest ih => simp [Obj.rebuildEntries, ih]

theorem Obj.rebuild_list (items : List Obj) :
    (Obj.list items).rebuild float = .list (items.map (Obj.rebuild float)) := by
  simp [Obj.rebuild, Obj.rebuildItems_eq]

theorem Obj.rebuild_tuple (items : List Obj) :
    (Obj.tuple items).rebuild float =
      .list (items.map (Obj.rebuild float)) := by
  simp [Obj.rebuild, Obj.rebuildItems_eq]

theorem Obj.rebuild_dict (entries : List (Key × Obj)) :
    (Obj.dict entries).rebuild float =
      .dict (entries.map fun entry => (entry.1, entry.2.rebuild float)) := by
  simp [Obj.rebuild, Obj.rebuildEntries_eq]

end Rebuild

theorem Obj.listed_scalar
    {object : Obj} (scalar : object.isScalar = true) :
    object.listed = object := by
  cases object with
  | list items => cases scalar
  | tuple items => cases scalar
  | dict entries => cases scalar
  | _ => rfl

/-- What a decoder has built holds no tuple. -/
theorem Obj.listed_of_decoded
    {object : Obj} (plain : object.passes decoded = true) :
    object.listed = object := by
  induction object using Obj.parts_induction with
  | scalar object scalar => exact Obj.listed_scalar scalar
  | list items ih =>
      have parts := (Obj.passes_list.mp plain).2
      have same : items.map Obj.listed = items.map id :=
        List.map_congr_left fun item member =>
          ih item member (parts item member)
      have rebuilt : (Obj.list items).listed = .list (items.map Obj.listed) :=
        Obj.rebuild_list items
      rw [rebuilt, same, List.map_id]
  | tuple items ih => cases (Obj.passes_tuple.mp plain).1
  | dict entries ih =>
      have parts := (Obj.passes_dict.mp plain).2.2
      have same :
          (entries.map fun entry => (entry.1, entry.2.listed)) =
            entries.map id :=
        List.map_congr_left fun entry member =>
          Prod.ext rfl (ih entry member (parts entry member))
      have rebuilt :
          (Obj.dict entries).listed =
            .dict (entries.map fun entry => (entry.1, entry.2.listed)) :=
        Obj.rebuild_dict entries
      rw [rebuilt, same, List.map_id]

/-- What has been read holds no tuple. -/
theorem Obj.listed_rebuild
    {float : Double → Obj}
    (floats : ∀ value, (float value).listed = float value) (object : Obj) :
    (object.rebuild float).listed = object.rebuild float := by
  induction object using Obj.parts_induction with
  | scalar object scalar =>
      cases object with
      | float value =>
          simp only [Obj.rebuild]
          exact floats value
      | list items => cases scalar
      | tuple items => cases scalar
      | dict entries => cases scalar
      | _ => rfl
  | list items ih =>
      rw [Obj.rebuild_list, Obj.listed, Obj.rebuild_list, List.map_map,
        Obj.list.injEq, List.map_inj_left]
      exact ih
  | tuple items ih =>
      rw [Obj.rebuild_tuple, Obj.listed, Obj.rebuild_list, List.map_map,
        Obj.list.injEq, List.map_inj_left]
      exact ih
  | dict entries ih =>
      rw [Obj.rebuild_dict, Obj.listed, Obj.rebuild_dict, List.map_map,
        Obj.dict.injEq, List.map_inj_left]
      exact fun entry member => Prod.ext rfl (ih entry member)

/-- A check that the scalars, keys and sizes carry over to what is read. -/
theorem Obj.passes_rebuild
    (check target : Check) {float : Double → Obj}
    (scalars :
      ∀ object : Obj, object.isScalar = true →
        check.scalar object = true →
          (object.rebuild float).passes target = true)
    (keys : ∀ keys, check.keys keys = true → target.keys keys = true)
    (sizes : ∀ size, check.size size = true → target.size size = true)
    {object : Obj} (passed : object.passes check = true) :
    (object.rebuild float).passes target = true := by
  induction object using Obj.parts_induction with
  | scalar object scalar =>
      rw [Obj.passes_scalar scalar] at passed
      exact scalars object scalar passed
  | list items ih =>
      rcases Obj.passes_list.mp passed with ⟨size, parts⟩
      rw [Obj.rebuild_list, Obj.passes_list, List.length_map,
        List.forall_mem_map]
      exact
        ⟨sizes _ size, fun item member => ih item member (parts item member)⟩
  | tuple items ih =>
      rcases Obj.passes_tuple.mp passed with ⟨-, size, parts⟩
      rw [Obj.rebuild_tuple, Obj.passes_list, List.length_map,
        List.forall_mem_map]
      exact
        ⟨sizes _ size, fun item member => ih item member (parts item member)⟩
  | dict entries ih =>
      rcases Obj.passes_dict.mp passed with ⟨size, named, parts⟩
      rw [Obj.rebuild_dict, Obj.passes_dict, List.length_map, List.map_map,
        List.forall_mem_map]
      exact
        ⟨sizes _ size, keys _ named,
          fun entry member => ih entry member (parts entry member)⟩

/-- A check that asks for less. -/
theorem Obj.passes_mono
    {check target : Check}
    (scalars :
      ∀ object, check.scalar object = true → target.scalar object = true)
    (keys : ∀ keys, check.keys keys = true → target.keys keys = true)
    (sizes : ∀ size, check.size size = true → target.size size = true)
    (tuples : check.tuples = true → target.tuples = true)
    {object : Obj} (passed : object.passes check = true) :
    object.passes target = true := by
  induction object using Obj.parts_induction with
  | scalar object scalar =>
      rw [Obj.passes_scalar scalar] at passed ⊢
      exact scalars object passed
  | list items ih =>
      rcases Obj.passes_list.mp passed with ⟨size, parts⟩
      exact
        Obj.passes_list.mpr
          ⟨sizes _ size,
            fun item member => ih item member (parts item member)⟩
  | tuple items ih =>
      rcases Obj.passes_tuple.mp passed with ⟨allowed, size, parts⟩
      exact
        Obj.passes_tuple.mpr
          ⟨tuples allowed, sizes _ size,
            fun item member => ih item member (parts item member)⟩
  | dict entries ih =>
      rcases Obj.passes_dict.mp passed with ⟨size, named, parts⟩
      exact
        Obj.passes_dict.mpr
          ⟨sizes _ size, keys _ named,
            fun entry member => ih entry member (parts entry member)⟩

/-- The keys of what a decoder has built are strict and distinct. -/
theorem Obj.strictKeys_of_decoded
    {object : Obj} (plain : object.passes decoded = true) :
    object.passes strictKeys = true := by
  refine
    Obj.passes_mono (fun _ _ => rfl) ?_ (fun _ _ => rfl) (fun _ => rfl) plain
  intro keys both
  exact (Bool.and_eq_true_iff.mp both).1

theorem Obj.distinctKeys_of_decoded
    {object : Obj} (plain : object.passes decoded = true) :
    object.passes distinctKeys = true := by
  refine
    Obj.passes_mono (fun _ _ => rfl) ?_ (fun _ _ => rfl) (fun _ => rfl) plain
  intro keys both
  exact (Bool.and_eq_true_iff.mp both).2

end Civitas.Wire
