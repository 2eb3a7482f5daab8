import Civitas.Security.Signing

/-!
# A concrete instance of the signing libraries

MessagePack restricted to its shortest forms (`nil`, booleans, positive
fixint, the float zero, fixstr, `str 8`, `bin 8`, fixarray, fixmap and
`map 16`, with ASCII texts), which is what a small signed envelope is made of,
and an ideal signature: the only text that validates under a key is the one
sealed with it.

The concrete runs of this directory are evaluated over this instance.
-/

namespace Civitas.Security

open Civitas.PyValue

/-- The encoding of a short ASCII text. -/
def shortStr (text : String) : Option Bytes :=
  let data := text.toList.map fun letter => UInt8.ofNat letter.toNat
  if data.length < 32
  then some (UInt8.ofNat (0xa0 + data.length) :: data)
  else if data.length < 256
  then some (0xd9 :: UInt8.ofNat data.length :: data)
  else none

mutual

/-- `msgpack.packb` on values that have a short encoding. -/
def shortPackb : Value → Option Bytes
  | .none => some [0xc0]
  | .bool false => some [0xc2]
  | .bool true => some [0xc3]
  | .int value =>
      if 0 ≤ value ∧ value < 128
      then some [UInt8.ofNat value.toNat]
      else none
  | .float (.finite value) =>
      if value = 0 then some [0xcb, 0, 0, 0, 0, 0, 0, 0, 0] else none
  | .float _ => none
  | .str text => shortStr text
  | .bytes data =>
      if data.length < 256
      then some (0xc4 :: UInt8.ofNat data.length :: data)
      else none
  | .ext _ _ => none
  | .list items =>
      if items.length < 16
      then
        (shortItems items).map
          (UInt8.ofNat (0x90 + items.length) :: ·)
      else none
  | .dict entries =>
      if entries.length < 16
      then
        (shortEntries entries).map
          (UInt8.ofNat (0x80 + entries.length) :: ·)
      else if entries.length < 256
      then
        (shortEntries entries).map
          ([0xde, 0, UInt8.ofNat entries.length] ++ ·)
      else none

/-- The encodings of list items, one after the other. -/
def shortItems : List Value → Option Bytes
  | [] => some []
  | item :: rest => do
      let head ← shortPackb item
      let tail ← shortItems rest
      return head ++ tail

/-- The encodings of dictionary entries, key before value. -/
def shortEntries : List (MapKey × Value) → Option Bytes
  | [] => some []
  | (.str name, item) :: rest => do
      let key ← shortStr name
      let head ← shortPackb item
      let tail ← shortEntries rest
      return key ++ head ++ tail
  | (.bytes _, _) :: _ => none

end

/-- The ideal signature of `data` under the key of `owner`. -/
def sealWith (owner : String) (data : Bytes) : Bytes :=
  (owner.toList.map fun letter => UInt8.ofNat letter.toNat) ++ data

/-- `str()` on the values that occur in small envelopes. -/
def shortRender : Value → String
  | .str text => text
  | .none => "None"
  | .bool true => "True"
  | .bool false => "False"
  | .int value => toString value
  | _ => "<object>"

/-- Libraries whose decoder knows the given envelopes. -/
def shortLibraries (wire : List Dict) : Libraries where
  VerifyKey := String
  packb := shortPackb
  unpackb data :=
    (wire.find? fun envelope =>
      shortPackb (.dict envelope) == some data).map Value.dict
  validates owner data signature :=
    match signature with
    | .bytes text => text == sealWith owner data
    | _ => false
  str :=
    { render := shortRender
      render_str := fun _ => rfl }
  freshId := .str "0190"
  now := .int 0

/-- A strict receiver that knows the key of every agent in `names`. -/
def strictReceiver
    (wire : List Dict) (names : List String) : MessageSigner where
  libraries := shortLibraries wire
  registry name := if name ∈ names then some name else none
  config := { requireVerification := true, allowUnsigned := false }

/-- The envelope of `msgDict`, sealed by `owner` in the name of `signer`. -/
def sealedEnvelope
    (owner signer : String) (nonce : Bytes) (msgDict : Dict) : Dict :=
  let content :=
    signedContent
      { signer := signer
        nonce := .bytes nonce
        signature := .none
        msgDict := .dict msgDict }
  let signature := sealWith owner ((shortPackb content).getD [])
  dictOf
    [("v", .int 2), ("msg", .dict msgDict),
      ("sig", .dict (dictOf
        [("signer", .str signer), ("alg", .str "ed25519"),
          ("value", .bytes signature), ("nonce", .bytes nonce)]))]

end Civitas.Security
