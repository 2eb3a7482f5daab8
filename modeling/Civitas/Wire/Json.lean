import Civitas.Wire.Objects

/-!
# The `json` module

`json.dumps` and `json.loads` with their default arguments, between objects
and JSON documents.  A document keeps what the text says: strings as the
UTF-16 code units of their `\uXXXX` escapes, numbers as they are written, and
the members of an object in order.

Two things are lost on the way.  A high surrogate directly before a low one is
read back as the one code point they encode, and every key is read back as a
text, the last of equal ones winning.
-/

namespace Civitas.Wire

/-! ## Strings -/

/-- A UTF-16 code unit. -/
abbrev CodeUnit := Fin 0x10000

/-- The first unit of a code point beyond the basic plane. -/
def highHalf (point : CodePoint) : CodeUnit :=
  ⟨0xd800 + (point.val - 0x10000) / 0x400, by omega⟩

/-- The second unit of a code point beyond the basic plane. -/
def lowHalf (point : CodePoint) : CodeUnit :=
  ⟨0xdc00 + (point.val - 0x10000) % 0x400, by omega⟩

/-- The escapes of a code point. -/
def escapePoint (point : CodePoint) : List CodeUnit :=
  if small : point.val < 0x10000 then [⟨point.val, small⟩]
  else [highHalf point, lowHalf point]

/-- `py_encode_basestring_ascii`. -/
def escape (text : Text) : List CodeUnit :=
  text.flatMap escapePoint

/-- The code point of the same number. -/
def CodeUnit.point (unit : CodeUnit) : CodePoint :=
  ⟨unit.val, by omega⟩

/-- The two units are the halves of one code point. -/
def isPair (first second : CodeUnit) : Bool :=
  CodePoint.isHighSurrogate (CodeUnit.point first) &&
    CodePoint.isLowSurrogate (CodeUnit.point second)

/-- The code point of a surrogate pair. -/
def joined (first second : CodeUnit) : CodePoint :=
  ⟨0x10000 + (first.val - 0xd800) % 0x400 * 0x400 +
      (second.val - 0xdc00) % 0x400, by omega⟩

/-- `py_scanstring`. -/
def unescape : List CodeUnit → Text
  | [] => []
  | [unit] => [CodeUnit.point unit]
  | first :: second :: rest =>
      if isPair first second
      then joined first second :: unescape rest
      else CodeUnit.point first :: unescape (second :: rest)

/-- No high surrogate stands directly before a low one. -/
def Text.unpaired : Text → Bool
  | first :: second :: rest =>
      !(CodePoint.isHighSurrogate first && CodePoint.isLowSurrogate second) &&
        Text.unpaired (second :: rest)
  | _ => true

section Equations

-- The equations of `unescape` are derived here, for all that unfold it.
attribute [local simp] unescape Text.unpaired

end Equations

theorem escapePoint_small
    {point : CodePoint} (small : point.val < 0x10000) :
    escapePoint point = [⟨point.val, small⟩] := by
  simp [escapePoint, small]

theorem escapePoint_large
    {point : CodePoint} (large : 0x10000 ≤ point.val) :
    escapePoint point = [highHalf point, lowHalf point] := by
  simp [escapePoint, Nat.not_lt.mpr large]

theorem isPair_halves (point : CodePoint) :
    isPair (highHalf point) (lowHalf point) = true := by
  have bound := point.isLt
  rw [isPair, Bool.and_eq_true, CodePoint.isHighSurrogate_iff,
    CodePoint.isLowSurrogate_iff]
  simp only [CodeUnit.point, highHalf, lowHalf]
  omega

theorem joined_halves
    {point : CodePoint} (large : 0x10000 ≤ point.val) :
    joined (highHalf point) (lowHalf point) = point := by
  apply Fin.ext
  simp only [joined, highHalf, lowHalf]
  omega

theorem isPair_highHalf (unit : CodeUnit) (point : CodePoint) :
    isPair unit (highHalf point) = false := by
  have bound := point.isLt
  rw [isPair, ← Bool.not_eq_true, Bool.and_eq_true,
    CodePoint.isLowSurrogate_iff]
  simp only [CodeUnit.point, highHalf]
  omega

/-- A code point beyond the basic plane is read back from its two halves. -/
theorem unescape_large
    {point : CodePoint} (large : 0x10000 ≤ point.val) (rest : Text) :
    unescape (escape (point :: rest)) = point :: unescape (escape rest) := by
  have escaped :
      escape (point :: rest) =
        highHalf point :: lowHalf point :: escape rest := by
    simp [escape, escapePoint_large large]
  rw [escaped, unescape, if_pos (isPair_halves point), joined_halves large]

/-- A code point that does not start a pair is read back as itself. -/
theorem unescape_single
    {point next : CodePoint} (small : point.val < 0x10000) {rest : Text}
    (alone :
      (CodePoint.isHighSurrogate point && CodePoint.isLowSurrogate next) =
        false) :
    unescape (escape (point :: next :: rest)) =
      point :: unescape (escape (next :: rest)) := by
  have escaped :
      escape (point :: next :: rest) =
        ⟨point.val, small⟩ :: escape (next :: rest) := by
    simp [escape, escapePoint_small small]
  have start :
      ∃ unit units,
        escape (next :: rest) = unit :: units ∧
          isPair ⟨point.val, small⟩ unit = false := by
    by_cases basic : next.val < 0x10000
    · refine ⟨⟨next.val, basic⟩, escape rest, ?_, alone⟩
      simp [escape, escapePoint_small basic]
    · refine
        ⟨highHalf next, lowHalf next :: escape rest, ?_,
          isPair_highHalf _ next⟩
      simp [escape, escapePoint_large (Nat.le_of_not_lt basic)]
  rcases start with ⟨unit, units, found, separate⟩
  rw [escaped, found, unescape, separate]
  rfl

/-- A surrogate pair is read back as another code point. -/
theorem unescape_pair
    {point next : CodePoint} {rest : Text}
    (pair :
      (CodePoint.isHighSurrogate point && CodePoint.isLowSurrogate next) =
        true) :
    unescape (escape (point :: next :: rest)) ≠ point :: next :: rest := by
  have bounds := pair
  rw [Bool.and_eq_true, CodePoint.isHighSurrogate_iff,
    CodePoint.isLowSurrogate_iff] at bounds
  have small : point.val < 0x10000 := by omega
  have basic : next.val < 0x10000 := by omega
  have escaped :
      escape (point :: next :: rest) =
        ⟨point.val, small⟩ :: ⟨next.val, basic⟩ :: escape rest := by
    simp [escape, escapePoint_small small, escapePoint_small basic]
  have together :
      isPair ⟨point.val, small⟩ ⟨next.val, basic⟩ = true :=
    pair
  rw [escaped, unescape, if_pos together]
  intro same
  have first := congrArg Fin.val (List.cons.inj same).1
  simp only [joined] at first
  omega

/-- A text comes back from JSON exactly when it holds no surrogate pair. -/
theorem unescape_escape_iff (text : Text) :
    unescape (escape text) = text ↔ Text.unpaired text = true := by
  induction text with
  | nil => simp [escape, unescape, Text.unpaired]
  | cons point rest ih =>
      cases rest with
      | nil =>
          by_cases small : point.val < 0x10000
          · simp [escape, escapePoint_small small, unescape, Text.unpaired,
              CodeUnit.point]
          · have large := unescape_large (Nat.le_of_not_lt small) []
            simpa [Text.unpaired, escape, unescape] using large
      | cons next rest =>
          cases pair :
              CodePoint.isHighSurrogate point &&
                CodePoint.isLowSurrogate next with
          | true =>
              have differs := @unescape_pair point next rest pair
              simp [Text.unpaired, pair, differs]
          | false =>
              have step :
                  unescape (escape (point :: next :: rest)) =
                    point :: unescape (escape (next :: rest)) := by
                by_cases small : point.val < 0x10000
                · exact unescape_single small pair
                · exact unescape_large (Nat.le_of_not_lt small) _
              rw [step]
              simpa [Text.unpaired, pair] using ih

theorem Text.unpaired_of_encodable
    {text : Text} (valid : Text.encodable text = true) :
    Text.unpaired text = true := by
  induction text with
  | nil => rfl
  | cons point rest ih =>
      have parts :
          CodePoint.isScalar point = true ∧ Text.encodable rest = true := by
        simpa [Text.encodable] using valid
      have whole := ih parts.2
      cases rest with
      | nil => rfl
      | cons next rest =>
          have low : CodePoint.isHighSurrogate point = false := by
            have scalar := parts.1
            simp only [CodePoint.isScalar, Bool.and_eq_true,
              Bool.not_eq_true'] at scalar
            exact scalar.1
          simp [Text.unpaired, low, whole]

theorem unescape_escape
    {text : Text} (valid : Text.encodable text = true) :
    unescape (escape text) = text :=
  (unescape_escape_iff text).mpr (Text.unpaired_of_encodable valid)

/-! ## Documents -/

/-- `sys.get_int_max_str_digits()`. -/
def maxStrDigits : Nat := 4300

/-- `int.__repr__` returns instead of raising `ValueError`. -/
def hasDecimalText (value : Int) : Bool :=
  value.natAbs < 10 ^ maxStrDigits

/-- A machine integer is far below the limit. -/
theorem hasDecimalText_of_fits64
    {value : Int} (fits : fits64 value = true) :
    hasDecimalText value = true := by
  have bounds : -2 ^ 63 ≤ value ∧ value < 2 ^ 64 := by
    simpa [fits64] using fits
  have digits : 10 ^ 20 ≤ 10 ^ maxStrDigits :=
    Nat.pow_le_pow_right (by decide) (by decide)
  refine decide_eq_true ?_
  omega

/-- An integer that the interpreter writes and reads in decimal. -/
abbrev DecimalInt := { value : Int // hasDecimalText value = true }

/-- A JSON document. -/
inductive Json where
  | null
  | bool (flag : Bool)
  | int (value : DecimalInt)
  | float (value : Double)
  | str (units : List CodeUnit)
  | array (items : List Json)
  | object (members : List (List CodeUnit × Json))

/-- Set one entry of a dictionary. -/
def setEntry (entries : List (Key × Obj)) (entry : Key × Obj) :
    List (Key × Obj) :=
  if entry.1 ∈ entries.map Prod.fst
  then entries.map fun old => if old.1 = entry.1 then entry else old
  else entries ++ [entry]

/-- `dict(pairs)`. -/
def dictOfPairs (pairs : List (Key × Obj)) : List (Key × Obj) :=
  pairs.foldl setEntry []

section Pairs

theorem mem_setEntry
    {entries : List (Key × Obj)} {added entry : Key × Obj}
    (member : entry ∈ setEntry entries added) :
    entry ∈ entries ∨ entry = added := by
  unfold setEntry at member
  split at member
  · rcases List.mem_map.mp member with ⟨old, inside, rfl⟩
    split
    · exact Or.inr rfl
    · exact Or.inl inside
  · rcases List.mem_append.mp member with inside | last
    · exact Or.inl inside
    · exact Or.inr (List.mem_singleton.mp last)

theorem mem_foldl_setEntry
    {pairs entries : List (Key × Obj)} {entry : Key × Obj}
    (member : entry ∈ pairs.foldl setEntry entries) :
    entry ∈ entries ∨ entry ∈ pairs := by
  induction pairs generalizing entries with
  | nil => exact Or.inl member
  | cons pair rest ih =>
      rcases ih member with early | late
      · rcases mem_setEntry early with inside | rfl
        · exact Or.inl inside
        · exact Or.inr List.mem_cons_self
      · exact Or.inr (List.mem_cons_of_mem _ late)

theorem mem_of_mem_dictOfPairs
    {pairs : List (Key × Obj)} {entry : Key × Obj}
    (member : entry ∈ dictOfPairs pairs) :
    entry ∈ pairs := by
  rcases mem_foldl_setEntry member with impossible | inside
  · cases impossible
  · exact inside

theorem setEntry_nodup
    {entries : List (Key × Obj)} (distinct : (entries.map Prod.fst).Nodup)
    (entry : Key × Obj) :
    ((setEntry entries entry).map Prod.fst).Nodup := by
  unfold setEntry
  split
  · have keys :
        (entries.map fun old => if old.1 = entry.1 then entry else old).map
            Prod.fst =
          entries.map Prod.fst := by
      rw [List.map_map, List.map_inj_left]
      intro old _
      simp only [Function.comp_apply]
      split
      · rename_i same
        exact same.symm
      · rfl
    rw [keys]
    exact distinct
  · rename_i absent
    rw [List.map_append]
    exact
      List.nodup_append.mpr
        ⟨distinct, by simp, by
          intro key present other last
          rw [List.map_singleton, List.mem_singleton] at last
          rintro rfl
          exact absent (last ▸ present)⟩

theorem foldl_setEntry_nodup
    (pairs : List (Key × Obj)) {entries : List (Key × Obj)}
    (distinct : (entries.map Prod.fst).Nodup) :
    ((pairs.foldl setEntry entries).map Prod.fst).Nodup := by
  induction pairs generalizing entries with
  | nil => exact distinct
  | cons pair rest ih => exact ih (setEntry_nodup distinct pair)

/-- A dictionary has distinct keys. -/
theorem dictOfPairs_nodup (pairs : List (Key × Obj)) :
    ((dictOfPairs pairs).map Prod.fst).Nodup :=
  foldl_setEntry_nodup pairs List.nodup_nil

theorem foldl_setEntry_of_nodup
    {pairs entries : List (Key × Obj)}
    (distinct : ((entries ++ pairs).map Prod.fst).Nodup) :
    pairs.foldl setEntry entries = entries ++ pairs := by
  induction pairs generalizing entries with
  | nil => simp
  | cons pair rest ih =>
      have absent : pair.1 ∉ entries.map Prod.fst := by
        rw [List.map_append, List.nodup_append] at distinct
        intro present
        exact distinct.2.2 pair.1 present pair.1 (by simp) rfl
      have added : setEntry entries pair = entries ++ [pair] := by
        simp only [setEntry, absent, if_false]
      have later := @ih (entries ++ [pair]) (by simpa using distinct)
      rw [List.foldl_cons, added, later]
      simp

/-- Distinct pairs make a dictionary as they are. -/
theorem dictOfPairs_of_nodup
    {pairs : List (Key × Obj)}
    (distinct : (pairs.map Prod.fst).Nodup) :
    dictOfPairs pairs = pairs :=
  foldl_setEntry_of_nodup distinct

end Pairs

/-! ## `json.dumps` and `json.loads` -/

section Dumps

variable (repr : Double → Text)

/--
The text of a key, with `repr` for `float.__repr__`; `none` is a `TypeError`
or a `ValueError`.
-/
def keyText : Key → Option Text
  | .none => some (Text.ofString "null")
  | .bool true => some (Text.ofString "true")
  | .bool false => some (Text.ofString "false")
  | .int value =>
      if hasDecimalText value
      then some (Text.ofString (toString value))
      else none
  | .float value => some (repr value)
  | .str text => some text
  | .bytes _ => none

mutual

/-- `json.dumps`. -/
def dumps : Obj → Option Json
  | .none => some .null
  | .bool flag => some (.bool flag)
  | .int value =>
      if short : hasDecimalText value = true
      then some (.int ⟨value, short⟩)
      else none
  | .float value => some (.float value)
  | .str text => some (.str (escape text))
  | .bytes _ => none
  | .ext _ _ => none
  | .list items => (dumpsItems items).map .array
  | .tuple items => (dumpsItems items).map .array
  | .dict entries => (dumpsEntries entries).map .object

/-- `dumps` of each item. -/
def dumpsItems : List Obj → Option (List Json)
  | [] => some []
  | item :: rest => do
      let document ← dumps item
      let documents ← dumpsItems rest
      return document :: documents

/-- `dumps` of each entry; keys become texts. -/
def dumpsEntries : List (Key × Obj) → Option (List (List CodeUnit × Json))
  | [] => some []
  | entry :: rest => do
      let text ← keyText repr entry.1
      let document ← dumps entry.2
      let members ← dumpsEntries rest
      return (escape text, document) :: members

end

end Dumps

mutual

/-- `json.loads`. -/
def loads : Json → Obj
  | .null => .none
  | .bool flag => .bool flag
  | .int value => .int value.val
  | .float value => .float value
  | .str units => .str (unescape units)
  | .array items => .list (loadsItems items)
  | .object members => .dict (dictOfPairs (loadsMembers members))

/-- `loads` of each item. -/
def loadsItems : List Json → List Obj
  | [] => []
  | item :: rest => loads item :: loadsItems rest

/-- `loads` of each member. -/
def loadsMembers : List (List CodeUnit × Json) → List (Key × Obj)
  | [] => []
  | member :: rest =>
      (.str (unescape member.1), loads member.2) :: loadsMembers rest

end

section Equations

-- The equations of `keyText` are derived here, for all that unfold it.
attribute [local simp] keyText dumps dumpsItems dumpsEntries loads
  loadsItems loadsMembers

end Equations

/-! ## Round trips -/

section RoundTrips

variable {repr : Double → Text}

theorem loadsItems_eq (items : List Json) :
    loadsItems items = items.map loads := by
  induction items with
  | nil => rfl
  | cons item rest ih => simp [loadsItems, ih]

theorem loadsMembers_eq (members : List (List CodeUnit × Json)) :
    loadsMembers members =
      members.map fun member =>
        (Key.str (unescape member.1), loads member.2) := by
  induction members with
  | nil => rfl
  | cons member rest ih => simp [loadsMembers, ih]

theorem dumpsItems_eq_some_iff
    {items : List Obj} {documents : List Json} :
    dumpsItems repr items = some documents ↔
      List.Forall₂ (fun item document => dumps repr item = some document)
        items documents := by
  induction items generalizing documents with
  | nil => simp [dumpsItems, eq_comm]
  | cons item rest ih =>
      simp only [dumpsItems, Option.bind_eq_bind, Option.bind_eq_some_iff,
        Option.pure_def, Option.some.injEq, List.forall₂_cons_left_iff]
      constructor
      · rintro ⟨document, first, others, later, rfl⟩
        exact ⟨document, others, first, ih.mp later, rfl⟩
      · rintro ⟨document, others, first, later, rfl⟩
        exact ⟨document, first, others, ih.mpr later, rfl⟩

/-- One member of the object that `dumps` writes. -/
def Writes
    (repr : Double → Text) (entry : Key × Obj)
    (member : List CodeUnit × Json) : Prop :=
  ∃ text,
    keyText repr entry.1 = some text ∧ member.1 = escape text ∧
      dumps repr entry.2 = some member.2

theorem dumpsEntries_eq_some_iff
    {entries : List (Key × Obj)} {members : List (List CodeUnit × Json)} :
    dumpsEntries repr entries = some members ↔
      List.Forall₂ (Writes repr) entries members := by
  induction entries generalizing members with
  | nil => simp [dumpsEntries, eq_comm]
  | cons entry rest ih =>
      simp only [dumpsEntries, Option.bind_eq_bind, Option.bind_eq_some_iff,
        Option.pure_def, Option.some.injEq, List.forall₂_cons_left_iff]
      constructor
      · rintro ⟨text, named, document, first, others, later, rfl⟩
        exact
          ⟨_, others, ⟨text, named, rfl, first⟩, ih.mp later, rfl⟩
      · rintro ⟨⟨units, document⟩, others, ⟨text, named, same, first⟩,
          later, rfl⟩
        cases same
        exact ⟨text, named, document, first, others, ih.mpr later, rfl⟩

theorem dumps_list_iff {items : List Obj} {document : Json} :
    dumps repr (.list items) = some document ↔
      ∃ documents,
        List.Forall₂ (fun item part => dumps repr item = some part)
            items documents ∧
          document = .array documents := by
  simp only [dumps, Option.map_eq_some_iff, dumpsItems_eq_some_iff,
    eq_comm (b := document)]

theorem dumps_tuple (items : List Obj) :
    dumps repr (.tuple items) = dumps repr (.list items) := by
  simp only [dumps]

theorem dumps_dict_iff
    {entries : List (Key × Obj)} {document : Json} :
    dumps repr (.dict entries) = some document ↔
      ∃ members,
        List.Forall₂ (Writes repr) entries members ∧
          document = .object members := by
  simp only [dumps, Option.map_eq_some_iff, dumpsEntries_eq_some_iff,
    eq_comm (b := document)]

theorem dumpsItems_isSome_iff {items : List Obj} :
    (dumpsItems repr items).isSome = true ↔
      ∀ item ∈ items, (dumps repr item).isSome = true := by
  induction items with
  | nil => simp [dumpsItems]
  | cons item rest ih =>
      cases first : dumps repr item with
      | none => simp [dumpsItems, first]
      | some document =>
          cases later : dumpsItems repr rest with
          | none => simpa [dumpsItems, first, later] using ih
          | some documents => simpa [dumpsItems, first, later] using ih

theorem dumpsEntries_isSome_iff {entries : List (Key × Obj)} :
    (dumpsEntries repr entries).isSome = true ↔
      ∀ entry ∈ entries,
        (keyText repr entry.1).isSome = true ∧
          (dumps repr entry.2).isSome = true := by
  induction entries with
  | nil => simp [dumpsEntries]
  | cons entry rest ih =>
      cases named : keyText repr entry.1 with
      | none => simp [dumpsEntries, named]
      | some text =>
          cases first : dumps repr entry.2 with
          | none => simp [dumpsEntries, named, first]
          | some document =>
              cases later : dumpsEntries repr rest with
              | none =>
                  simpa [dumpsEntries, named, first, later] using ih
              | some members =>
                  simpa [dumpsEntries, named, first, later] using ih

/-- Whatever `loads` returns can be written again. -/
theorem dumps_loads_isSome (document : Json) :
    (dumps repr (loads document)).isSome = true := by
  refine
    @Json.rec
      (fun document => (dumps repr (loads document)).isSome = true)
      (fun items =>
        ∀ item ∈ items, (dumps repr (loads item)).isSome = true)
      (fun members =>
        ∀ member ∈ members, (dumps repr (loads member.2)).isSome = true)
      (fun member => (dumps repr (loads member.2)).isSome = true)
      ?_ ?_ ?_ ?_ ?_ ?_ ?_ ?_ ?_ ?_ ?_ ?_ document
  · rfl
  · exact fun _ => rfl
  · intro value
    simp [loads, dumps, value.property]
  · exact fun _ => rfl
  · exact fun _ => rfl
  · intro items parts
    simp only [loads, dumps, loadsItems_eq, Option.isSome_map,
      dumpsItems_isSome_iff]
    intro item member
    rcases List.mem_map.mp member with ⟨part, inside, rfl⟩
    exact parts part inside
  · intro members parts
    simp only [loads, dumps, loadsMembers_eq, Option.isSome_map,
      dumpsEntries_isSome_iff]
    intro entry member
    rcases List.mem_map.mp (mem_of_mem_dictOfPairs member) with
      ⟨part, inside, rfl⟩
    exact ⟨rfl, parts part inside⟩
  · simp
  · intro head tail first rest item member
    rcases List.mem_cons.mp member with rfl | later
    · exact first
    · exact rest item later
  · simp
  · intro head tail first rest item member
    rcases List.mem_cons.mp member with rfl | later
    · exact first
    · exact rest item later
  · exact fun _ _ value => value

/-- A list of documents is read back part by part. -/
theorem map_loads_of_forall₂
    {items : List Obj} {documents : List Json}
    (written :
      List.Forall₂ (fun item part => dumps repr item = some part)
        items documents)
    (back :
      ∀ item ∈ items, ∀ part, dumps repr item = some part →
        loads part = item.listed) :
    documents.map loads = items.map Obj.listed := by
  induction written with
  | nil => rfl
  | cons first later ih =>
      rw [List.map_cons, List.map_cons,
        back _ List.mem_cons_self _ first,
        ih fun item member => back item (List.mem_cons_of_mem _ member)]

/-- The members of an object are read back under the keys they had. -/
theorem map_loads_of_writes
    {entries : List (Key × Obj)} {members : List (List CodeUnit × Json)}
    (written : List.Forall₂ (Writes repr) entries members)
    (back :
      ∀ entry ∈ entries, ∀ part, dumps repr entry.2 = some part →
        loads part = entry.2.listed)
    (texts :
      ∀ entry ∈ entries,
        ∃ text, entry.1 = .str text ∧ Text.encodable text = true) :
    (members.map fun member =>
        (Key.str (unescape member.1), loads member.2)) =
      entries.map fun entry => (entry.1, entry.2.listed) := by
  induction written with
  | nil => rfl
  | cons first later ih =>
      rename_i entry member entries members
      rcases first with ⟨text, named, units, document⟩
      rcases texts entry List.mem_cons_self with ⟨own, key, valid⟩
      have same : own = text := by
        rw [key] at named
        exact Option.some.inj named
      subst same
      rw [List.map_cons, List.map_cons, units, unescape_escape valid, ← key,
        back entry List.mem_cons_self _ document,
        ih
          (fun item inside => back item (List.mem_cons_of_mem _ inside))
          (fun item inside => texts item (List.mem_cons_of_mem _ inside))]

/-- A key that JSON can write and `strict_map_key` lets through is a text. -/
theorem text_of_strict
    {key : Key} (written : (keyText repr key).isSome = true)
    (strict : key.isStrict = true) :
    ∃ text, key = .str text := by
  cases key with
  | str text => exact ⟨text, rfl⟩
  | bytes data => cases written
  | _ => cases strict

theorem dumps_list_isSome_iff {items : List Obj} :
    (dumps repr (.list items)).isSome = true ↔
      ∀ item ∈ items, (dumps repr item).isSome = true := by
  rw [← dumpsItems_isSome_iff, dumps, Option.isSome_map]

theorem dumps_dict_isSome_iff {entries : List (Key × Obj)} :
    (dumps repr (.dict entries)).isSome = true ↔
      ∀ entry ∈ entries,
        (keyText repr entry.1).isSome = true ∧
          (dumps repr entry.2).isSome = true := by
  rw [← dumpsEntries_isSome_iff, dumps, Option.isSome_map]

theorem keyText_of_writes
    {entries : List (Key × Obj)} {members : List (List CodeUnit × Json)}
    (written : List.Forall₂ (Writes repr) entries members)
    {entry : Key × Obj} (member : entry ∈ entries) :
    (keyText repr entry.1).isSome = true := by
  have whole : (dumpsEntries repr entries).isSome = true := by
    rw [dumpsEntries_eq_some_iff.mpr written]
    rfl
  exact (dumpsEntries_isSome_iff.mp whole entry member).1

theorem loads_scalar
    {object : Obj} {document : Json}
    (scalar : object.isScalar = true)
    (valid : object.scalarEncodable = true)
    (written : dumps repr object = some document) :
    loads document = object := by
  cases object with
  | str text =>
      cases written
      exact congrArg Obj.str (unescape_escape valid)
  | int value =>
      simp only [dumps] at written
      split at written
      · cases written
        rfl
      · cases written
  | bytes data => cases written
  | ext code data => cases written
  | list items => cases scalar
  | tuple items => cases scalar
  | dict entries => cases scalar
  | _ =>
      cases written
      rfl

/-- An object with encodable texts as keys loses only its tuples. -/
theorem loads_of_dumps
    {object : Obj} {document : Json}
    (valid : object.passes encodable = true)
    (strict : object.passes strictKeys = true)
    (distinct : object.passes distinctKeys = true)
    (written : dumps repr object = some document) :
    loads document = object.listed := by
  induction object using Obj.parts_induction generalizing document with
  | scalar object scalar =>
      rw [Obj.passes_scalar scalar] at valid
      rw [Obj.listed_scalar scalar]
      exact loads_scalar scalar valid written
  | list items ih =>
      rcases dumps_list_iff.mp written with ⟨documents, parts, rfl⟩
      have same :=
        map_loads_of_forall₂ parts fun item member part first =>
          ih item member
            ((Obj.passes_list.mp valid).2 item member)
            ((Obj.passes_list.mp strict).2 item member)
            ((Obj.passes_list.mp distinct).2 item member) first
      rw [loads, loadsItems_eq, same]
      exact (Obj.rebuild_list items).symm
  | tuple items ih =>
      rw [dumps_tuple] at written
      rcases dumps_list_iff.mp written with ⟨documents, parts, rfl⟩
      have same :=
        map_loads_of_forall₂ parts fun item member part first =>
          ih item member
            ((Obj.passes_tuple.mp valid).2.2 item member)
            ((Obj.passes_tuple.mp strict).2.2 item member)
            ((Obj.passes_tuple.mp distinct).2.2 item member) first
      rw [loads, loadsItems_eq, same]
      exact (Obj.rebuild_tuple items).symm
  | dict entries ih =>
      rcases dumps_dict_iff.mp written with ⟨members, parts, rfl⟩
      rcases Obj.passes_dict.mp valid with ⟨-, validKeys, validParts⟩
      rcases Obj.passes_dict.mp strict with ⟨-, strictKeys, strictParts⟩
      rcases Obj.passes_dict.mp distinct with
        ⟨-, distinctKeys, distinctParts⟩
      have texts :
          ∀ entry ∈ entries,
            ∃ text, entry.1 = .str text ∧ Text.encodable text = true := by
        intro entry member
        have inside := List.mem_map_of_mem (f := Prod.fst) member
        rcases
            text_of_strict (keyText_of_writes parts member)
              (List.all_eq_true.mp strictKeys _ inside) with
          ⟨text, named⟩
        have own := List.all_eq_true.mp validKeys _ inside
        rw [named] at own
        exact ⟨text, named, own⟩
      have same :=
        map_loads_of_writes parts
          (fun entry member part first =>
            ih entry member (validParts entry member)
              (strictParts entry member) (distinctParts entry member) first)
          texts
      have keys :
          ((entries.map fun entry => (entry.1, entry.2.listed)).map
            Prod.fst).Nodup := by
        rw [List.map_map]
        exact of_decide_eq_true distinctKeys
      rw [loads, loadsMembers_eq, same, dictOfPairs_of_nodup keys]
      exact (Obj.rebuild_dict entries).symm

end RoundTrips

end Civitas.Wire
