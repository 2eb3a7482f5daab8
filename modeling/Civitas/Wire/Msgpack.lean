import Civitas.Wire.Json

/-!
# MessagePack

`Msgpack` states what the `msgpack` package documents about `packb` and
`unpackb`: 64-bit integers, UTF-8 texts, tuples packed as arrays and arrays
read as lists, and only texts and byte strings accepted as map keys when
unpacking.  The sizes and the nesting that the package can hold are left open.

The rest of the module is the format itself, without the extension types and
without floats of 32 bits, which `packb` does not write, and shows that an
implementation of it behaves as documented.
-/

namespace Civitas.Wire

/--
`msgpack.packb(..., use_bin_type=True)` and `msgpack.unpackb(..., raw=False)`.
-/
structure Msgpack where
  /-- `none` when it raises. -/
  packb : Obj → Option Bytes
  /-- `none` when it raises. -/
  unpackb : Bytes → Option Obj
  /-- The sizes and the nesting of the object are within the limits. -/
  holds : Obj → Bool
  packb_isSome :
    ∀ object, (packb object).isSome = (object.passes encodable && holds object)
  /-- Tuples are packed as arrays. -/
  packb_listed : ∀ object, packb object.listed = packb object
  /-- Arrays are unpacked as lists, and the map keys are checked. -/
  unpackb_packb :
    ∀ object data, object.passes distinctKeys = true →
      packb object = some data →
        unpackb data =
          if object.passes strictKeys then some object.listed else none
  /-- The unpacker never builds a tuple or a map with other keys. -/
  unpackb_decoded :
    ∀ data object, unpackb data = some object →
      object.passes decoded = true

/-! ## Heads -/

/-- `width` bytes of a number, the most significant first. -/
def bigEndian : Nat → Nat → Bytes
  | 0, _ => []
  | width + 1, value =>
      UInt8.ofNat (value / 256 ^ width) :: bigEndian width value

/-- Read a number of `width` bytes. -/
def readBigEndian : Nat → Bytes → Option (Nat × Bytes)
  | 0, data => some (0, data)
  | _ + 1, [] => none
  | width + 1, byte :: data =>
      (readBigEndian width data).map fun (value, rest) =>
        (value + 256 ^ width * byte.toNat, rest)

theorem readBigEndian_bigEndian (width value : Nat) (rest : Bytes) :
    readBigEndian width (bigEndian width value ++ rest) =
      some (value % 256 ^ width, rest) := by
  induction width with
  | zero => simp [bigEndian, readBigEndian, Nat.mod_one]
  | succ width ih =>
      have digit :
          (UInt8.ofNat (value / 256 ^ width)).toNat =
            value / 256 ^ width % 256 :=
        UInt8.toNat_ofNat
      rw [bigEndian, List.cons_append, readBigEndian, ih, Option.map_some,
        digit, Nat.mod_pow_succ]

/-- What stands before the contents of an object. -/
inductive Head where
  | nil
  | bool (flag : Bool)
  | int (value : Int)
  | float (bits : BitVec 64)
  | str (length : Nat)
  | bin (length : Nat)
  | array (length : Nat)
  | map (length : Nat)
deriving DecidableEq

/-- The value of a two's complement number of `width` bytes. -/
def ofTwosComplement (width value : Nat) : Int :=
  if value < 256 ^ width / 2 then value else value - (256 ^ width : Nat)

/-- The heads that start with a tag: how many bytes follow, and the head. -/
def taggedHead : Nat → Option (Nat × (Nat → Head))
  | 0xc0 => some (0, fun _ => .nil)
  | 0xc2 => some (0, fun _ => .bool false)
  | 0xc3 => some (0, fun _ => .bool true)
  | 0xc4 => some (1, .bin)
  | 0xc5 => some (2, .bin)
  | 0xc6 => some (4, .bin)
  | 0xcb => some (8, fun value => .float (BitVec.ofNat 64 value))
  | 0xcc => some (1, fun value => .int value)
  | 0xcd => some (2, fun value => .int value)
  | 0xce => some (4, fun value => .int value)
  | 0xcf => some (8, fun value => .int value)
  | 0xd0 => some (1, fun value => .int (ofTwosComplement 1 value))
  | 0xd1 => some (2, fun value => .int (ofTwosComplement 2 value))
  | 0xd2 => some (4, fun value => .int (ofTwosComplement 4 value))
  | 0xd3 => some (8, fun value => .int (ofTwosComplement 8 value))
  | 0xd9 => some (1, .str)
  | 0xda => some (2, .str)
  | 0xdb => some (4, .str)
  | 0xdc => some (2, .array)
  | 0xdd => some (4, .array)
  | 0xde => some (2, .map)
  | 0xdf => some (4, .map)
  | _ => none

/-- Read the head of an object. -/
def readHead : Bytes → Option (Head × Bytes)
  | [] => none
  | byte :: data =>
      let tag := byte.toNat
      if tag < 0x80 then some (.int tag, data)
      else if tag < 0x90 then some (.map (tag - 0x80), data)
      else if tag < 0xa0 then some (.array (tag - 0x90), data)
      else if tag < 0xc0 then some (.str (tag - 0xa0), data)
      else if 0xe0 ≤ tag then some (.int (tag - 256), data)
      else
        match taggedHead tag with
        | none => none
        | some (width, head) =>
            (readBigEndian width data).map fun (value, rest) =>
              (head value, rest)

/-- A tag and the number after it. -/
def tagged (tag width value : Nat) : Bytes :=
  UInt8.ofNat tag :: bigEndian width value

/-- The shortest head of an integer. -/
def writeInt (value : Int) : Bytes :=
  if 0 ≤ value then
    if value < 2 ^ 7 then tagged value.toNat 0 0
    else if value < 2 ^ 8 then tagged 0xcc 1 value.toNat
    else if value < 2 ^ 16 then tagged 0xcd 2 value.toNat
    else if value < 2 ^ 32 then tagged 0xce 4 value.toNat
    else tagged 0xcf 8 value.toNat
  else if -2 ^ 5 ≤ value then tagged (value + 2 ^ 8).toNat 0 0
  else if -2 ^ 7 ≤ value then tagged 0xd0 1 (value + 2 ^ 8).toNat
  else if -2 ^ 15 ≤ value then tagged 0xd1 2 (value + 2 ^ 16).toNat
  else if -2 ^ 31 ≤ value then tagged 0xd2 4 (value + 2 ^ 32).toNat
  else tagged 0xd3 8 (value + 2 ^ 64).toNat

/-- The shortest head. -/
def writeHead : Head → Bytes
  | .nil => tagged 0xc0 0 0
  | .bool false => tagged 0xc2 0 0
  | .bool true => tagged 0xc3 0 0
  | .int value => writeInt value
  | .float bits => tagged 0xcb 8 bits.toNat
  | .str length =>
      if length < 32 then tagged (0xa0 + length) 0 0
      else if length < 2 ^ 8 then tagged 0xd9 1 length
      else if length < 2 ^ 16 then tagged 0xda 2 length
      else tagged 0xdb 4 length
  | .bin length =>
      if length < 2 ^ 8 then tagged 0xc4 1 length
      else if length < 2 ^ 16 then tagged 0xc5 2 length
      else tagged 0xc6 4 length
  | .array length =>
      if length < 16 then tagged (0x90 + length) 0 0
      else if length < 2 ^ 16 then tagged 0xdc 2 length
      else tagged 0xdd 4 length
  | .map length =>
      if length < 16 then tagged (0x80 + length) 0 0
      else if length < 2 ^ 16 then tagged 0xde 2 length
      else tagged 0xdf 4 length

/-- A length that has four bytes. -/
def fits32 (length : Nat) : Bool :=
  length < 2 ^ 32

/-- The number in the head is within the format. -/
def Head.fits : Head → Bool
  | .int value => fits64 value
  | .str length | .bin length | .array length | .map length => fits32 length
  | _ => true

/-- A head that starts with a tag of its own is read by the table. -/
theorem readHead_tagged
    {tag width value : Nat} {head : Nat → Head}
    (large : 0xc0 ≤ tag) (small : tag < 0xe0)
    (known : taggedHead tag = some (width, head))
    (bounded : value < 256 ^ width) (rest : Bytes) :
    readHead (tagged tag width value ++ rest) = some (head value, rest) := by
  have byte : (UInt8.ofNat tag).toNat = tag :=
    UInt8.toNat_ofNat_of_lt' (by change tag < 256; omega)
  have h80 : ¬ tag < 0x80 := by omega
  have h90 : ¬ tag < 0x90 := by omega
  have ha0 : ¬ tag < 0xa0 := by omega
  have hc0 : ¬ tag < 0xc0 := by omega
  have he0 : ¬ 0xe0 ≤ tag := by omega
  simp only [tagged, List.cons_append, readHead, byte, h80, h90, ha0, hc0,
    he0, if_false, known, readBigEndian_bigEndian, Option.map_some,
    Nat.mod_eq_of_lt bounded]

/-- A head of one byte. -/
theorem readHead_short
    {tag : Nat} (small : tag < 256) (rest : Bytes) :
    readHead (tagged tag 0 0 ++ rest) =
      if tag < 0x80 then some (.int tag, rest)
      else if tag < 0x90 then some (.map (tag - 0x80), rest)
      else if tag < 0xa0 then some (.array (tag - 0x90), rest)
      else if tag < 0xc0 then some (.str (tag - 0xa0), rest)
      else if 0xe0 ≤ tag then some (.int (tag - 256), rest)
      else (taggedHead tag).bind fun (width, head) =>
        (readBigEndian width rest).map fun (value, rest) =>
          (head value, rest) := by
  have byte : (UInt8.ofNat tag).toNat = tag :=
    UInt8.toNat_ofNat_of_lt' small
  simp only [tagged, bigEndian, List.cons_append, List.nil_append, readHead,
    byte]
  cases taggedHead tag with
  | none => rfl
  | some found => rfl

/-- A negative number is read back from its two's complement. -/
theorem ofTwosComplement_of_neg
    (width : Nat) {value : Int} (negative : value < 0)
    (bounded : -(256 ^ width / 2 : Nat) ≤ value)
    (even : 256 ^ width / 2 * 2 = 256 ^ width) :
    ofTwosComplement width (value + (256 ^ width : Nat)).toNat = value := by
  unfold ofTwosComplement
  generalize 256 ^ width = range at *
  split
  · omega
  · omega

theorem readHead_writeInt_of_nonneg
    {value : Int} (positive : 0 ≤ value) (bounded : value < 2 ^ 64)
    (rest : Bytes) :
    readHead (writeInt value ++ rest) = some (.int value, rest) := by
  have whole : (value.toNat : Int) = value := Int.toNat_of_nonneg positive
  unfold writeInt
  rw [if_pos positive]
  split
  · have small : value.toNat < 0x80 := by omega
    rw [readHead_short (by omega), if_pos small, whole]
  · split
    · rw [readHead_tagged (by decide) (by decide) rfl (by omega), whole]
    · split
      · rw [readHead_tagged (by decide) (by decide) rfl (by omega), whole]
      · split
        · rw [readHead_tagged (by decide) (by decide) rfl (by omega), whole]
        · rw [readHead_tagged (by decide) (by decide) rfl (by omega), whole]

theorem readHead_writeInt_of_neg
    {value : Int} (negative : value < 0) (bounded : -2 ^ 63 ≤ value)
    (rest : Bytes) :
    readHead (writeInt value ++ rest) = some (.int value, rest) := by
  unfold writeInt
  rw [if_neg (by omega)]
  split
  · have small : (value + 2 ^ 8).toNat < 256 := by omega
    have large : 0xe0 ≤ (value + 2 ^ 8).toNat := by omega
    have back : ((value + 2 ^ 8).toNat : Int) - 256 = value := by omega
    rw [readHead_short small, if_neg (by omega), if_neg (by omega),
      if_neg (by omega), if_neg (by omega), if_pos large, back]
  · split
    · have back :=
        ofTwosComplement_of_neg 1 negative (by omega) (by decide)
      rw [readHead_tagged (by decide) (by decide) rfl (by omega)]
      exact congrArg (fun found => some (Head.int found, rest)) back
    · split
      · have back :=
          ofTwosComplement_of_neg 2 negative (by omega) (by decide)
        rw [readHead_tagged (by decide) (by decide) rfl (by omega)]
        exact congrArg (fun found => some (Head.int found, rest)) back
      · split
        · have back :=
            ofTwosComplement_of_neg 4 negative (by omega)
              (by decide)
          rw [readHead_tagged (by decide) (by decide) rfl (by omega)]
          exact congrArg (fun found => some (Head.int found, rest)) back
        · have back :=
            ofTwosComplement_of_neg 8 negative (by omega)
              (by decide)
          rw [readHead_tagged (by decide) (by decide) rfl (by omega)]
          exact congrArg (fun found => some (Head.int found, rest)) back

/-- Every head within the format is read back. -/
theorem readHead_writeHead
    (head : Head) (fits : head.fits = true) (rest : Bytes) :
    readHead (writeHead head ++ rest) = some (head, rest) := by
  cases head with
  | nil =>
      simp only [writeHead]
      rw [readHead_tagged (by decide) (by decide) rfl (by decide)]
  | bool flag =>
      cases flag with
      | false =>
          simp only [writeHead]
          rw [readHead_tagged (by decide) (by decide) rfl (by decide)]
      | true =>
          simp only [writeHead]
          rw [readHead_tagged (by decide) (by decide) rfl (by decide)]
  | int value =>
      simp only [Head.fits, fits64, Bool.and_eq_true, decide_eq_true_eq]
        at fits
      by_cases positive : 0 ≤ value
      · exact readHead_writeInt_of_nonneg positive fits.2 rest
      · exact readHead_writeInt_of_neg (by omega) fits.1 rest
  | float bits =>
      have bounded : bits.toNat < 256 ^ 8 := bits.isLt
      have whole : BitVec.ofNat 64 bits.toNat = bits := by simp
      simp only [writeHead]
      rw [readHead_tagged (by decide) (by decide) rfl bounded, whole]
  | str length =>
      have bounded : length < 2 ^ 32 := of_decide_eq_true fits
      simp only [writeHead]
      split
      · rw [readHead_short (by omega), if_neg (by omega), if_neg (by omega),
          if_neg (by omega), if_pos (by omega), Nat.add_sub_cancel_left]
      · split
        · exact readHead_tagged (by decide) (by decide) rfl (by omega) rest
        · split
          · exact readHead_tagged (by decide) (by decide) rfl (by omega) rest
          · exact readHead_tagged (by decide) (by decide) rfl (by omega) rest
  | bin length =>
      have bounded : length < 2 ^ 32 := of_decide_eq_true fits
      simp only [writeHead]
      split
      · exact readHead_tagged (by decide) (by decide) rfl (by omega) rest
      · split
        · exact readHead_tagged (by decide) (by decide) rfl (by omega) rest
        · exact readHead_tagged (by decide) (by decide) rfl (by omega) rest
  | array length =>
      have bounded : length < 2 ^ 32 := of_decide_eq_true fits
      simp only [writeHead]
      split
      · rw [readHead_short (by omega), if_neg (by omega), if_neg (by omega),
          if_pos (by omega), Nat.add_sub_cancel_left]
      · split
        · exact readHead_tagged (by decide) (by decide) rfl (by omega) rest
        · exact readHead_tagged (by decide) (by decide) rfl (by omega) rest
  | map length =>
      have bounded : length < 2 ^ 32 := of_decide_eq_true fits
      simp only [writeHead]
      split
      · rw [readHead_short (by omega), if_neg (by omega), if_pos (by omega),
          Nat.add_sub_cancel_left]
      · split
        · exact readHead_tagged (by decide) (by decide) rfl (by omega) rest
        · exact readHead_tagged (by decide) (by decide) rfl (by omega) rest

/-! ## Texts -/

/-- The character of a code point. -/
def CodePoint.toChar (point : CodePoint) : Char :=
  Char.ofNat point.val

theorem CodePoint.ofChar_toChar
    {point : CodePoint} (scalar : CodePoint.isScalar point = true) :
    CodePoint.ofChar (CodePoint.toChar point) = point := by
  have parts := scalar
  rw [CodePoint.isScalar, Bool.and_eq_true, Bool.not_eq_true',
    Bool.not_eq_true', ← Bool.not_eq_true, ← Bool.not_eq_true,
    CodePoint.isHighSurrogate_iff, CodePoint.isLowSurrogate_iff] at parts
  have bound := point.isLt
  have valid : point.val.isValidChar := by
    unfold Nat.isValidChar
    omega
  apply Fin.ext
  rw [CodePoint.ofChar, CodePoint.toChar, Char.ofNat, dif_pos valid]
  rfl

/-- UTF-8. -/
def encodeText (text : Text) : Bytes :=
  (text.map CodePoint.toChar).flatMap String.utf8EncodeChar

/-- `bytes.decode()`. -/
def decodeText (data : Bytes) : Option Text :=
  data.toByteArray.utf8Decode?.map fun letters =>
    letters.toList.map CodePoint.ofChar

theorem decodeText_encodeText
    {text : Text} (valid : Text.encodable text = true) :
    decodeText (encodeText text) = some text := by
  have bytes :
      (encodeText text).toByteArray =
        (text.map CodePoint.toChar).utf8Encode :=
    rfl
  have back :
      (text.map CodePoint.toChar).map CodePoint.ofChar = text.map id := by
    rw [List.map_map]
    refine List.map_congr_left ?_
    intro point member
    exact
      CodePoint.ofChar_toChar
        (List.all_eq_true.mp valid point member)
  rw [decodeText, bytes, List.utf8Decode?_utf8Encode, Option.map_some, back,
    List.map_id]

/-! ## Packing -/

/-- A key as an object. -/
def Key.toObj : Key → Obj
  | .none => .none
  | .bool flag => .bool flag
  | .int value => .int value
  | .float value => .float value
  | .str text => .str text
  | .bytes data => .bytes data

/-- The bytes of an object without parts. -/
def packScalar : Obj → Bytes
  | .none => writeHead .nil
  | .bool flag => writeHead (.bool flag)
  | .int value => writeHead (.int value)
  | .float value => writeHead (.float value.bits)
  | .str text =>
      writeHead (.str (encodeText text).length) ++ encodeText text
  | .bytes data => writeHead (.bin data.length) ++ data
  | _ => []

mutual

/-- What `packb` writes of an object that it packs. -/
def pack : Obj → Bytes
  | .list items | .tuple items =>
      writeHead (.array items.length) ++ packItems items
  | .dict entries => writeHead (.map entries.length) ++ packEntries entries
  | scalar => packScalar scalar

/-- `pack` of each item. -/
def packItems : List Obj → Bytes
  | [] => []
  | item :: rest => pack item ++ packItems rest

/-- `pack` of each key and its value. -/
def packEntries : List (Key × Obj) → Bytes
  | [] => []
  | entry :: rest =>
      (packScalar entry.1.toObj ++ pack entry.2) ++ packEntries rest

end

/-- The size of a scalar is within the format. -/
def Obj.scalarSized : Obj → Bool
  | .str text => fits32 (encodeText text).length
  | .bytes data => fits32 data.length
  | .ext _ _ => false
  | _ => true

/-- Every size is within the format. -/
def sized : Check where
  scalar := Obj.scalarSized
  keys keys := keys.all fun key => key.toObj.scalarSized
  size := fits32
  tuples := true

/-! ## Unpacking -/

/-- The next `count` bytes. -/
def takeBytes (count : Nat) (data : Bytes) : Option (Bytes × Bytes) :=
  if count ≤ data.length
  then some (data.take count, data.drop count)
  else none

/-- Read `count` things one after the other. -/
def readMany
    {α : Type} (read : Bytes → Option (α × Bytes)) :
    Nat → Bytes → Option (List α × Bytes)
  | 0, data => some ([], data)
  | count + 1, data => do
      let (first, rest) ← read data
      let (others, rest) ← readMany read count rest
      return (first :: others, rest)

/-- `strict_map_key`. -/
def keyOf : Obj → Option Key
  | .str text => some (.str text)
  | .bytes data => some (.bytes data)
  | _ => none

/-- A key and its value. -/
def readEntry
    (read : Bytes → Option (Obj × Bytes)) (data : Bytes) :
    Option ((Key × Obj) × Bytes) := do
  let (name, rest) ← read data
  let key ← keyOf name
  let (value, rest) ← read rest
  return ((key, value), rest)

/-- Read one object. -/
def unpack : Nat → Bytes → Option (Obj × Bytes)
  | 0, _ => none
  | fuel + 1, data =>
      match readHead data with
      | none => none
      | some (.nil, rest) => some (.none, rest)
      | some (.bool flag, rest) => some (.bool flag, rest)
      | some (.int value, rest) => some (.int value, rest)
      | some (.float bits, rest) => some (.float (.ofBits bits), rest)
      | some (.str length, rest) => do
          let (content, rest) ← takeBytes length rest
          let text ← decodeText content
          return (.str text, rest)
      | some (.bin length, rest) => do
          let (content, rest) ← takeBytes length rest
          return (.bytes content, rest)
      | some (.array length, rest) => do
          let (items, rest) ← readMany (unpack fuel) length rest
          return (.list items, rest)
      | some (.map length, rest) => do
          let (entries, rest) ← readMany (readEntry (unpack fuel)) length rest
          return (.dict (dictOfPairs entries), rest)

/-! ## Round trips -/

theorem takeBytes_append (content rest : Bytes) :
    takeBytes content.length (content ++ rest) = some (content, rest) := by
  simp [takeBytes]

theorem readMany_flatMap
    {α β : Type} {read : Bytes → Option (β × Bytes)} {items : List α}
    {write : α → Bytes} {accepted : α → Bool} {result : α → β}
    (reads :
      ∀ item ∈ items, ∀ rest,
        read (write item ++ rest) =
          if accepted item then some (result item, rest) else none)
    (rest : Bytes) :
    readMany read items.length (items.flatMap write ++ rest) =
      if items.all accepted then some (items.map result, rest)
      else none := by
  induction items with
  | nil => rfl
  | cons item others ih =>
      have first := reads item List.mem_cons_self
      have later :=
        ih fun other member => reads other (List.mem_cons_of_mem _ member)
      rw [List.flatMap_cons, List.append_assoc, List.length_cons, readMany,
        first]
      cases ok : accepted item with
      | false => simp [ok]
      | true =>
          simp only [if_true, Option.bind_eq_bind, Option.bind_some, later]
          cases all : others.all accepted with
          | false => simp [ok, all]
          | true => simp [ok, all]

theorem packItems_eq (items : List Obj) :
    packItems items = items.flatMap pack := by
  induction items with
  | nil => rfl
  | cons item rest ih => simp [packItems, ih]

theorem packEntries_eq (entries : List (Key × Obj)) :
    packEntries entries =
      entries.flatMap fun entry =>
        packScalar entry.1.toObj ++ pack entry.2 := by
  induction entries with
  | nil => rfl
  | cons entry rest ih => simp [packEntries, ih]

theorem writeHead_length_pos (head : Head) :
    0 < (writeHead head).length := by
  have positive : ∀ tag width value,
      0 < (tagged tag width value).length := by
    intro tag width value
    simp [tagged]
  cases head with
  | bool flag => cases flag <;> exact positive _ _ _
  | int value =>
      simp only [writeHead, writeInt]
      split_ifs <;> exact positive _ _ _
  | str length =>
      simp only [writeHead]
      split_ifs <;> exact positive _ _ _
  | bin length =>
      simp only [writeHead]
      split_ifs <;> exact positive _ _ _
  | array length =>
      simp only [writeHead]
      split_ifs <;> exact positive _ _ _
  | map length =>
      simp only [writeHead]
      split_ifs <;> exact positive _ _ _
  | _ => exact positive _ _ _

/-- A scalar within the format is read back. -/
theorem unpack_packScalar
    {object : Obj} (scalar : object.isScalar = true)
    (valid : object.scalarEncodable = true)
    (small : object.scalarSized = true) (fuel : Nat) (rest : Bytes) :
    unpack (fuel + 1) (packScalar object ++ rest) = some (object, rest) := by
  cases object with
  | none => simp [packScalar, unpack, readHead_writeHead .nil rfl]
  | bool flag =>
      simp [packScalar, unpack, readHead_writeHead (.bool flag) rfl]
  | int value =>
      simp [packScalar, unpack, readHead_writeHead (.int value) valid]
  | float value =>
      simp [packScalar, unpack, readHead_writeHead (.float value.bits) rfl]
  | str text =>
      have head := readHead_writeHead (.str (encodeText text).length) small
      simp [packScalar, unpack, head, takeBytes_append,
        decodeText_encodeText valid]
  | bytes data =>
      have head := readHead_writeHead (.bin data.length) small
      simp [packScalar, unpack, head, takeBytes_append]
  | ext code data => cases small
  | list items => cases scalar
  | tuple items => cases scalar
  | dict entries => cases scalar

theorem unpack_scalar
    {object : Obj} (scalar : object.isScalar = true)
    (valid : object.scalarEncodable = true)
    (small : object.scalarSized = true)
    {fuel : Nat} (enough : (packScalar object).length ≤ fuel)
    (rest : Bytes) :
    unpack fuel (packScalar object ++ rest) = some (object, rest) := by
  cases fuel with
  | zero =>
      have empty := List.eq_nil_of_length_eq_zero (Nat.le_zero.mp enough)
      have read := unpack_packScalar scalar valid small 0 []
      rw [empty] at read
      cases read
  | succ fuel => exact unpack_packScalar scalar valid small fuel rest

theorem strictKeys_list (items : List Obj) :
    (Obj.list items).passes strictKeys =
      items.all fun item => item.passes strictKeys := by
  rw [Bool.eq_iff_iff, List.all_eq_true]
  exact Obj.passes_list_iff strictKeys fun _ => rfl

theorem strictKeys_tuple (items : List Obj) :
    (Obj.tuple items).passes strictKeys =
      items.all fun item => item.passes strictKeys := by
  rw [Bool.eq_iff_iff, List.all_eq_true]
  exact Obj.passes_tuple_iff strictKeys (fun _ => rfl) rfl

theorem strictKeys_dict (entries : List (Key × Obj)) :
    (Obj.dict entries).passes strictKeys =
      entries.all fun entry =>
        entry.1.isStrict && entry.2.passes strictKeys := by
  rw [Bool.eq_iff_iff, Obj.passes_dict_iff strictKeys fun _ => rfl,
    List.all_eq_true]
  simp only [strictKeys, List.all_map, List.all_eq_true, Bool.and_eq_true,
    Function.comp_apply]
  constructor
  · rintro ⟨keys, parts⟩ entry member
    exact ⟨keys entry member, parts entry member⟩
  · intro both
    exact
      ⟨fun entry member => (both entry member).1,
        fun entry member => (both entry member).2⟩

theorem keyOf_toObj (key : Key) :
    keyOf key.toObj = if key.isStrict then some key else none := by
  cases key <;> rfl

/-- One entry is read back if its key is strict and its value is. -/
theorem readEntry_append
    {read : Bytes → Option (Obj × Bytes)} {entry : Key × Obj}
    {ok : Bool} {value : Obj}
    (key :
      ∀ rest,
        read (packScalar entry.1.toObj ++ rest) =
          some (entry.1.toObj, rest))
    (part :
      ∀ rest,
        read (pack entry.2 ++ rest) = if ok then some (value, rest) else none)
    (rest : Bytes) :
    readEntry read ((packScalar entry.1.toObj ++ pack entry.2) ++ rest) =
      if entry.1.isStrict && ok then some ((entry.1, value), rest)
      else none := by
  rw [List.append_assoc, readEntry, key]
  simp only [Option.bind_eq_bind, Option.bind_some, keyOf_toObj]
  cases strict : entry.1.isStrict with
  | false => rfl
  | true =>
      simp only [if_true, Option.bind_some, part]
      cases ok with
      | false => rfl
      | true => rfl

theorem pack_scalar
    {object : Obj} (scalar : object.isScalar = true) :
    pack object = packScalar object := by
  cases object with
  | list items => cases scalar
  | tuple items => cases scalar
  | dict entries => cases scalar
  | _ => rfl

theorem length_le_flatMap
    {α : Type} {items : List α} {item : α} (member : item ∈ items)
    (write : α → Bytes) :
    (write item).length ≤ (items.flatMap write).length := by
  rcases List.append_of_mem member with ⟨before, after, rfl⟩
  simp only [List.flatMap_append, List.flatMap_cons, List.length_append]
  omega

theorem unpack_packKey
    {key : Key} (valid : key.encodable = true)
    (small : key.toObj.scalarSized = true)
    {fuel : Nat} (enough : (packScalar key.toObj).length ≤ fuel)
    (rest : Bytes) :
    unpack fuel (packScalar key.toObj ++ rest) = some (key.toObj, rest) := by
  have scalar : key.toObj.isScalar = true := by
    cases key <;> rfl
  have same : key.toObj.scalarEncodable = true := by
    cases key <;> exact valid
  exact unpack_scalar scalar same small enough rest

/-- The array of `items` is read back. -/
theorem unpack_array
    {items : List Obj} {fuel : Nat}
    (small : fits32 items.length = true)
    (parts :
      ∀ item ∈ items, ∀ rest,
        unpack fuel (pack item ++ rest) =
          if item.passes strictKeys then some (item.listed, rest)
          else none)
    (rest : Bytes) :
    unpack (fuel + 1)
        ((writeHead (.array items.length) ++ packItems items) ++ rest) =
      if items.all fun item => item.passes strictKeys
      then some (.list (items.map Obj.listed), rest)
      else none := by
  have head := readHead_writeHead (.array items.length) small
  rw [List.append_assoc, unpack, head, packItems_eq]
  simp only [readMany_flatMap parts]
  cases items.all fun item => item.passes strictKeys with
  | false => rfl
  | true => rfl

/-- Packing and unpacking lists the tuples and checks the keys. -/
theorem unpack_pack
    {object : Obj} (valid : object.passes encodable = true)
    (small : object.passes sized = true)
    (distinct : object.passes distinctKeys = true)
    {fuel : Nat} (enough : (pack object).length ≤ fuel) (rest : Bytes) :
    unpack fuel (pack object ++ rest) =
      if object.passes strictKeys then some (object.listed, rest)
      else none := by
  induction object using Obj.parts_induction generalizing fuel rest with
  | scalar object scalar =>
      rw [Obj.passes_scalar scalar] at valid small
      have strict : object.passes strictKeys = true :=
        Obj.passes_scalar scalar
      rw [pack_scalar scalar] at enough ⊢
      rw [strict, if_pos rfl, Obj.listed_scalar scalar]
      exact unpack_scalar scalar valid small enough rest
  | list items ih =>
      rcases Obj.passes_list.mp small with ⟨few, smallParts⟩
      have whole := enough
      simp only [pack, packItems_eq, List.length_append] at whole
      have started := writeHead_length_pos (.array items.length)
      cases fuel with
      | zero => omega
      | succ fuel =>
          have parts :
              ∀ item ∈ items, ∀ rest,
                unpack fuel (pack item ++ rest) =
                  if item.passes strictKeys then some (item.listed, rest)
                  else none := by
            intro item member rest
            have shorter := length_le_flatMap member pack
            exact
              ih item member ((Obj.passes_list.mp valid).2 item member)
                (smallParts item member)
                ((Obj.passes_list.mp distinct).2 item member)
                (by omega) rest
          rw [strictKeys_list]
          have read := unpack_array few parts rest
          have rebuilt : (Obj.list items).listed =
              .list (items.map Obj.listed) :=
            Obj.rebuild_list items
          rw [rebuilt, ← read]
          simp only [pack]
  | tuple items ih =>
      rcases Obj.passes_tuple.mp small with ⟨-, few, smallParts⟩
      have whole := enough
      simp only [pack, packItems_eq, List.length_append] at whole
      have started := writeHead_length_pos (.array items.length)
      cases fuel with
      | zero => omega
      | succ fuel =>
          have parts :
              ∀ item ∈ items, ∀ rest,
                unpack fuel (pack item ++ rest) =
                  if item.passes strictKeys then some (item.listed, rest)
                  else none := by
            intro item member rest
            have shorter := length_le_flatMap member pack
            exact
              ih item member ((Obj.passes_tuple.mp valid).2.2 item member)
                (smallParts item member)
                ((Obj.passes_tuple.mp distinct).2.2 item member)
                (by omega) rest
          rw [strictKeys_tuple]
          have read := unpack_array few parts rest
          have rebuilt : (Obj.tuple items).listed =
              .list (items.map Obj.listed) :=
            Obj.rebuild_tuple items
          rw [rebuilt, ← read]
          simp only [pack]
  | dict entries ih =>
      rcases Obj.passes_dict.mp small with ⟨few, smallKeys, smallParts⟩
      rcases Obj.passes_dict.mp valid with ⟨-, validKeys, validParts⟩
      rcases Obj.passes_dict.mp distinct with ⟨-, keys, distinctParts⟩
      have whole := enough
      simp only [pack, packEntries_eq, List.length_append] at whole
      have started := writeHead_length_pos (.map entries.length)
      cases fuel with
      | zero => omega
      | succ fuel =>
          have parts :
              ∀ entry ∈ entries, ∀ rest,
                readEntry (unpack fuel)
                    ((packScalar entry.1.toObj ++ pack entry.2) ++ rest) =
                  if entry.1.isStrict && entry.2.passes strictKeys
                  then some ((entry.1, entry.2.listed), rest)
                  else none := by
            intro entry member rest
            have inside := List.mem_map_of_mem (f := Prod.fst) member
            have shorter :=
              length_le_flatMap member fun entry =>
                packScalar entry.1.toObj ++ pack entry.2
            simp only [List.length_append] at shorter
            refine readEntry_append ?_ ?_ rest
            · intro rest
              exact
                unpack_packKey (List.all_eq_true.mp validKeys _ inside)
                  (List.all_eq_true.mp smallKeys _ inside) (by omega) rest
            · intro rest
              exact
                ih entry member (validParts entry member)
                  (smallParts entry member) (distinctParts entry member)
                  (by omega) rest
          rw [strictKeys_dict]
          have listedKeys :
              ((entries.map fun entry => (entry.1, entry.2.listed)).map
                Prod.fst).Nodup := by
            rw [List.map_map]
            exact of_decide_eq_true keys
          have rebuilt :
              (Obj.dict entries).listed =
                .dict (entries.map fun entry => (entry.1, entry.2.listed)) :=
            Obj.rebuild_dict entries
          have head := readHead_writeHead (.map entries.length) few
          simp only [pack]
          rw [rebuilt, List.append_assoc, unpack, head, packEntries_eq]
          simp only [readMany_flatMap parts]
          cases entries.all fun entry =>
              entry.1.isStrict && entry.2.passes strictKeys with
          | false => rfl
          | true =>
              simp only [if_true, Option.bind_eq_bind, Option.bind_some,
                dictOfPairs_of_nodup listedKeys]
              rfl

/-! ## What the unpacker builds -/

theorem read_of_mem_readMany
    {α : Type} {read : Bytes → Option (α × Bytes)} {count : Nat}
    {data rest : Bytes} {items : List α}
    (many : readMany read count data = some (items, rest))
    {item : α} (member : item ∈ items) :
    ∃ data rest, read data = some (item, rest) := by
  induction count generalizing data items with
  | zero =>
      cases many
      cases member
  | succ count ih =>
      simp only [readMany, Option.bind_eq_bind, Option.bind_eq_some_iff,
        Option.pure_def, Option.some.injEq] at many
      rcases many with ⟨⟨first, after⟩, one, ⟨others, last⟩, later, same⟩
      cases same
      rcases List.mem_cons.mp member with rfl | inside
      · exact ⟨data, after, one⟩
      · exact ih later inside

theorem isStrict_of_keyOf
    {object : Obj} {key : Key} (found : keyOf object = some key) :
    key.isStrict = true := by
  cases object with
  | str text =>
      cases found
      rfl
  | bytes data =>
      cases found
      rfl
  | _ => cases found

theorem readEntry_eq_some
    {read : Bytes → Option (Obj × Bytes)} {data rest : Bytes}
    {entry : Key × Obj}
    (found : readEntry read data = some (entry, rest)) :
    entry.1.isStrict = true ∧
      ∃ data rest, read data = some (entry.2, rest) := by
  simp only [readEntry, Option.bind_eq_bind, Option.bind_eq_some_iff,
    Option.pure_def, Option.some.injEq] at found
  rcases found with
    ⟨⟨name, after⟩, first, key, strict, ⟨value, last⟩, second, same⟩
  cases same
  exact ⟨isStrict_of_keyOf strict, after, last, second⟩

/-- The unpacker builds lists and dictionaries with strict keys. -/
theorem decoded_of_unpack
    {fuel : Nat} {data rest : Bytes} {object : Obj}
    (read : unpack fuel data = some (object, rest)) :
    object.passes decoded = true := by
  induction fuel generalizing data rest object with
  | zero => cases read
  | succ fuel ih =>
      rw [unpack] at read
      split at read
      · cases read
      · cases read
        rfl
      · cases read
        rfl
      · cases read
        rfl
      · cases read
        rfl
      · simp only [Option.bind_eq_bind, Option.bind_eq_some_iff,
          Option.pure_def, Option.some.injEq] at read
        rcases read with ⟨content, -, text, -, same⟩
        cases same
        rfl
      · simp only [Option.bind_eq_bind, Option.bind_eq_some_iff,
          Option.pure_def, Option.some.injEq] at read
        rcases read with ⟨content, -, same⟩
        cases same
        rfl
      · simp only [Option.bind_eq_bind, Option.bind_eq_some_iff,
          Option.pure_def, Option.some.injEq] at read
        rcases read with ⟨⟨items, after⟩, many, same⟩
        cases same
        refine Obj.passes_list.mpr ⟨rfl, ?_⟩
        intro item member
        rcases read_of_mem_readMany many member with ⟨source, left, one⟩
        exact ih one
      · simp only [Option.bind_eq_bind, Option.bind_eq_some_iff,
          Option.pure_def, Option.some.injEq] at read
        rcases read with ⟨⟨entries, after⟩, many, same⟩
        cases same
        refine Obj.passes_dict.mpr ⟨rfl, ?_, ?_⟩
        · refine
            Bool.and_eq_true_iff.mpr
              ⟨List.all_eq_true.mpr ?_,
                decide_eq_true (dictOfPairs_nodup entries)⟩
          intro key named
          rcases List.mem_map.mp named with ⟨entry, member, rfl⟩
          rcases
              read_of_mem_readMany many (mem_of_mem_dictOfPairs member) with
            ⟨source, left, one⟩
          exact (readEntry_eq_some one).1
        · intro entry member
          rcases
              read_of_mem_readMany many (mem_of_mem_dictOfPairs member) with
            ⟨source, left, one⟩
          rcases (readEntry_eq_some one).2 with ⟨inner, last, value⟩
          exact ih value

/-! ## Tuples as arrays -/

theorem passes_listed
    {check : Check} (tuples : check.tuples = true) (object : Obj) :
    object.listed.passes check = object.passes check := by
  rw [Bool.eq_iff_iff]
  induction object using Obj.parts_induction with
  | scalar object scalar => rw [Obj.listed_scalar scalar]
  | list items ih =>
      have rebuilt : (Obj.list items).listed = .list (items.map Obj.listed) :=
        Obj.rebuild_list items
      rw [rebuilt, Obj.passes_list, Obj.passes_list, List.length_map,
        List.forall_mem_map]
      exact and_congr_right' (forall₂_congr ih)
  | tuple items ih =>
      have rebuilt :
          (Obj.tuple items).listed = .list (items.map Obj.listed) :=
        Obj.rebuild_tuple items
      rw [rebuilt, Obj.passes_list, Obj.passes_tuple, and_iff_right tuples,
        List.length_map, List.forall_mem_map]
      exact and_congr_right' (forall₂_congr ih)
  | dict entries ih =>
      have rebuilt :
          (Obj.dict entries).listed =
            .dict (entries.map fun entry => (entry.1, entry.2.listed)) :=
        Obj.rebuild_dict entries
      rw [rebuilt, Obj.passes_dict, Obj.passes_dict, List.length_map,
        List.map_map, List.forall_mem_map]
      exact and_congr_right' (and_congr_right' (forall₂_congr ih))

theorem pack_listed (object : Obj) :
    pack object.listed = pack object := by
  induction object using Obj.parts_induction with
  | scalar object scalar => rw [Obj.listed_scalar scalar]
  | list items ih =>
      have rebuilt : (Obj.list items).listed = .list (items.map Obj.listed) :=
        Obj.rebuild_list items
      rw [rebuilt]
      simp only [pack, packItems_eq, List.length_map, List.flatMap_map]
      rw [List.flatMap_congr ih]
  | tuple items ih =>
      have rebuilt :
          (Obj.tuple items).listed = .list (items.map Obj.listed) :=
        Obj.rebuild_tuple items
      rw [rebuilt]
      simp only [pack, packItems_eq, List.length_map, List.flatMap_map]
      rw [List.flatMap_congr ih]
  | dict entries ih =>
      have rebuilt :
          (Obj.dict entries).listed =
            .dict (entries.map fun entry => (entry.1, entry.2.listed)) :=
        Obj.rebuild_dict entries
      have same :
          ∀ entry ∈ entries,
            packScalar entry.1.toObj ++ pack entry.2.listed =
              packScalar entry.1.toObj ++ pack entry.2 := by
        intro entry member
        rw [ih entry member]
      rw [rebuilt]
      simp only [pack, packEntries_eq, List.length_map, List.flatMap_map]
      rw [List.flatMap_congr same]

/--
The format as an implementation of the package, which does not read extension
types or floats of 32 bits.
-/
def msgpackFormat : Msgpack where
  packb object :=
    if object.passes encodable && object.passes sized
    then some (pack object)
    else none
  unpackb data :=
    match unpack (data.length + 1) data with
    | some (object, []) => some object
    | _ => none
  holds object := object.passes sized
  packb_isSome := by
    intro object
    split
    · rename_i both
      rw [both]
      rfl
    · rename_i refused
      simpa using refused
  packb_listed := by
    intro object
    rw [passes_listed rfl, passes_listed rfl, pack_listed]
  unpackb_packb := by
    intro object data distinct packed
    split at packed
    · rename_i both
      rw [Bool.and_eq_true] at both
      cases packed
      have read :=
        unpack_pack both.1 both.2 distinct
          (Nat.le_succ (pack object).length) []
      rw [List.append_nil] at read
      rw [read]
      cases object.passes strictKeys with
      | false => rfl
      | true => rfl
    · cases packed
  unpackb_decoded := by
    intro data object found
    split at found
    · rename_i read
      cases found
      exact decoded_of_unpack read
    · cases found

end Civitas.Wire
