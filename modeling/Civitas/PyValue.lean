import Mathlib.Data.List.Basic
import Mathlib.Data.Rat.Defs

/-!
# Python values carried by messages

Message payloads, signed envelopes and request bodies are dictionaries whose
values come from `json.loads` or `msgpack.unpackb`.  No annotation of the
source is enforced on them, so every function that reads a payload has to be
modelled on arbitrary values.

`Value` covers what the two decoders produce.  Dictionary keys are strings or
byte strings (the only keys `msgpack` accepts).  A float that is not a number
is left out: Python compares such keys by object identity.

Three notions of the language are used by the programs below: the truth of a
value, its equality, and the dictionary key it hashes to (`none` for the
unhashable lists and dictionaries).
-/

namespace Civitas.PyValue

/-- A Python `bytes` object. -/
abbrev Bytes := List UInt8

/-- A Python `float` that is a number. -/
inductive PyFloat where
  | finite (value : ℚ)
  | negZero
  | infinite (negative : Bool)
deriving DecidableEq

/-- A dictionary key as the decoders produce it. -/
inductive MapKey where
  | str (text : String)
  | bytes (data : Bytes)
deriving DecidableEq

/-- A decoded Python value. -/
inductive Value where
  | none
  | bool (flag : Bool)
  | int (value : Int)
  | float (value : PyFloat)
  | str (text : String)
  | bytes (data : Bytes)
  | ext (code : Int) (data : Bytes)
  | list (items : List Value)
  | dict (entries : List (MapKey × Value))

/-- The entries of a dictionary, in insertion order. -/
abbrev Dict := List (MapKey × Value)

/-! ## Dictionaries -/

/-- `entries.get(name)`. -/
def field? (entries : Dict) (name : String) : Option Value :=
  entries.lookup (.str name)

/-- `entries.get(name, default)`. -/
def field (entries : Dict) (name : String) (default : Value) : Value :=
  (field? entries name).getD default

/-- `{**left, **right}`: the right operand wins. -/
def merge (left right : Dict) : Dict :=
  right ++ left

/-- A dictionary with string keys. -/
def dictOf (entries : List (String × Value)) : Dict :=
  entries.map fun entry => (.str entry.1, entry.2)

theorem field?_merge
    (left right : Dict) (name : String) :
    field? (merge left right) name =
      (field? right name).or (field? left name) := by
  simp only [field?, merge]
  induction right with
  | nil => rfl
  | cons entry rest ih =>
      rcases entry with ⟨key, value⟩
      by_cases same : MapKey.str name = key
      · simp [same]
      · simpa [List.lookup_cons, beq_eq_false_iff_ne.mpr same] using ih

/-! ## Truth, hashing and equality -/

/-- `bool(value)`. -/
def Value.truthy : Value → Bool
  | .none => false
  | .bool flag => flag
  | .int value => value ≠ 0
  | .float (.finite value) => value ≠ 0
  | .float .negZero => false
  | .float (.infinite _) => true
  | .str text => text ≠ ""
  | .bytes data => data ≠ []
  | .ext _ _ => true
  | .list items => !items.isEmpty
  | .dict entries => !entries.isEmpty

/--
The key a hashable value occupies in a dictionary or a set.  Numbers that
compare equal (`True`, `1` and `1.0`) share one key.
-/
inductive Key where
  | none
  | number (value : ℚ)
  | infinite (negative : Bool)
  | str (text : String)
  | bytes (data : Bytes)
  | ext (code : Int) (data : Bytes)
deriving DecidableEq

/-- The key of a value; `none` means `TypeError: unhashable type`. -/
def Value.key? : Value → Option Key
  | .none => some .none
  | .bool flag => some (.number (if flag then 1 else 0))
  | .int value => some (.number value)
  | .float (.finite value) => some (.number value)
  | .float .negZero => some (.number 0)
  | .float (.infinite negative) => some (.infinite negative)
  | .str text => some (.str text)
  | .bytes data => some (.bytes data)
  | .ext code data => some (.ext code data)
  | .list _ => Option.none
  | .dict _ => Option.none

mutual

/-- `left == right`. -/
def Value.pyEq : Value → Value → Bool
  | .list left, .list right => Value.listEq left right
  | .dict left, .dict right =>
      left.length == right.length && Value.dictWithin left right
  | left, right =>
      match left.key?, right.key? with
      | some leftKey, some rightKey => leftKey = rightKey
      | _, _ => false

/-- Equality of list items, position by position. -/
def Value.listEq : List Value → List Value → Bool
  | [], [] => true
  | left :: lefts, right :: rights =>
      Value.pyEq left right && Value.listEq lefts rights
  | _, _ => false

/-- Every entry of the left dictionary is in the right one. -/
def Value.dictWithin : List (MapKey × Value) → Dict → Bool
  | [], _ => true
  | (key, left) :: rest, right =>
      (match right.lookup key with
        | some other => Value.pyEq left other
        | Option.none => false) &&
        Value.dictWithin rest right

end

instance : BEq Value :=
  ⟨Value.pyEq⟩

/-- An attribute that holds text is empty by default. -/
instance : Inhabited Value :=
  ⟨.str ""⟩

/-- `json.dumps(value)` succeeds: no byte strings and only string keys. -/
def Value.jsonable : Value → Bool
  | .none | .bool _ | .int _ | .float _ | .str _ => true
  | .bytes _ | .ext _ _ => false
  | .list items => jsonableItems items
  | .dict entries => jsonableEntries entries
where
  /-- Every item of a list is serializable. -/
  jsonableItems : List Value → Bool
    | [] => true
    | item :: rest => item.jsonable && jsonableItems rest
  /-- Every entry of a dictionary is serializable. -/
  jsonableEntries : List (MapKey × Value) → Bool
    | [] => true
    | (.str _, item) :: rest => item.jsonable && jsonableEntries rest
    | (.bytes _, _) :: _ => false

/-- A merged dictionary is serializable when both of its parts are. -/
theorem Value.jsonable_merge (left right : Dict) :
    (Value.dict (merge left right)).jsonable =
      ((Value.dict right).jsonable && (Value.dict left).jsonable) := by
  simp only [Value.jsonable, merge]
  induction right with
  | nil => simp [Value.jsonable.jsonableEntries]
  | cons entry rest ih =>
      rcases entry with ⟨key, value⟩
      cases key with
      | str text =>
          simp [Value.jsonable.jsonableEntries, ih, Bool.and_assoc]
      | bytes data => simp [Value.jsonable.jsonableEntries]

/-- A dictionary of texts is serializable. -/
theorem Value.jsonable_texts (entries : List (String × String)) :
    (Value.dict (dictOf (entries.map fun entry =>
      (entry.1, .str entry.2)))).jsonable = true := by
  simp only [Value.jsonable, dictOf]
  induction entries with
  | nil => rfl
  | cons entry rest ih =>
      simpa [Value.jsonable, Value.jsonable.jsonableEntries] using ih

/-- A string hashes to itself. -/
@[simp]
theorem Value.key?_str (text : String) :
    (Value.str text).key? = some (.str text) :=
  rfl

/--
Python's `str()`.  Only its behaviour on strings matters to the programs
below; the texts of other values are left to the interpreter.
-/
structure StrFunction where
  render : Value → String
  render_str : ∀ text, render (.str text) = text

/-- A `str` that names only texts. -/
def textOnly : StrFunction where
  render
    | .str text => text
    | _ => ""
  render_str _ := rfl

/-- The exceptions the conversions below raise. -/
inductive PyError where
  | valueError
  | typeError
  | overflowError
deriving DecidableEq

/--
Python's `int()`, `tuple()` and `dict()` on payload values.  The values a
well-behaved peer sends convert to themselves; what the interpreter makes of
any other value is left open.
-/
structure Conversions where
  int : Value → Except PyError Int
  tuple : Value → Except PyError (List Value)
  dict : Value → Except PyError Value
  int_int : ∀ value, int (.int value) = .ok value
  tuple_list : ∀ items, tuple (.list items) = .ok items
  dict_dict : ∀ entries, dict (.dict entries) = .ok (.dict entries)

/-- Conversions that reject everything a well-behaved peer does not send. -/
def plainConversions : Conversions where
  int := fun value =>
    match value with | .int value => .ok value | _ => .error .typeError
  tuple := fun value =>
    match value with | .list items => .ok items | _ => .error .typeError
  dict := fun value =>
    match value with
    | .dict entries => .ok (.dict entries)
    | _ => .error .typeError
  int_int := fun _ => rfl
  tuple_list := fun _ => rfl
  dict_dict := fun _ => rfl

end Civitas.PyValue
