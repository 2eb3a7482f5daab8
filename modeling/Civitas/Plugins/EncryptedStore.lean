import Civitas.Base64
import Civitas.Transition
import Civitas.Wire.Json
import Civitas.Wire.Msgpack
import Mathlib.Data.List.Infix
import Mathlib.Logic.Function.Basic

/-!
# Encrypted agent state

`EncryptingStateStore` of `plugins/encrypted_store.py` over one inner store.
An envelope is a version byte, a key id in one byte, a nonce of twelve bytes
and the ciphertext, in Base64 under a reserved key; the name of the agent is
the associated data.  A value that comes out of the inner store is any Python
object, as nobody checks it.

ChaCha20-Poly1305 and the text of JSON documents are parameters.  The world
keeps, beside the inner store, what was encrypted so far, the keys that were
used for it and what each call of `set` was given.
-/

namespace Civitas.Plugins

open Civitas.PyText
open Civitas.Transition
open Civitas.Wire
open Function (update)

/-! ## Libraries -/

/-- The largest input of the cipher, in bytes. -/
def maxData : Nat := 2 ^ 31 - 1

/-- What the store uses of `json` and `cryptography`. -/
structure Libraries where
  /-- `float.__repr__`. -/
  repr : Double → Text
  /-- The text of a document, encoded. -/
  write : Json → Bytes
  /-- The document of a text; `none` is a `JSONDecodeError`. -/
  read : Bytes → Option Json
  encrypt : (key nonce plaintext associated : Bytes) → Bytes
  /-- `none` when it raises, as it does on a wrong tag. -/
  decrypt : (key nonce ciphertext associated : Bytes) → Option Bytes
  read_write : ∀ document, (write document).length ≤ maxData →
    read (write document) = some document
  decrypt_encrypt : ∀ key nonce plaintext associated : Bytes,
    key.length = 32 → nonce.length = 12 → plaintext.length ≤ maxData →
      decrypt key nonce (encrypt key nonce plaintext associated) associated =
        some plaintext

/-- The exceptions of the store. -/
inductive Failure where
  | stateDecryption
  | typeError
  | valueError
  | indexError
  | unicodeEncodeError
  | overflowError
  | jsonDecodeError
deriving DecidableEq

/-! ## The store -/

/-- `ENVELOPE_KEY`. -/
def envelopeKey : Text := Text.ofString "__civitas_enc__"

/-- `EncryptingStateStore`, as its constructor accepts it. -/
structure EncryptingStateStore where
  keys : Int → Option Bytes
  currentKeyId : Int
  allowPlaintextRead : Bool := false
  currentKey : Bytes
  present : keys currentKeyId = some currentKey

/-- `base64.b64decode`. -/
def decodeBase64 : Obj → Except Failure Bytes
  | .str text =>
      if text.all fun point => point.val < 128 then
        match a2bBase64 (text.map CodePoint.toChar) 0 0 0 [] with
        | some data => .ok data
        | none => .error .valueError
      else .error .valueError
  | .bytes encoded =>
      match
        a2bBase64 (encoded.map fun byte => Char.ofNat byte.toNat) 0 0 0 []
      with
      | some data => .ok data
      | none => .error .valueError
  | _ => .error .typeError

/-- `base64.b64encode(data).decode()`. -/
def encodeBase64 (data : Bytes) : Obj :=
  .str ((b64encode data).map CodePoint.ofChar)

/-- `ENVELOPE_KEY in raw`; `none` is a `TypeError`. -/
def hasEnvelopeKey : Obj → Option Bool
  | .dict entries => some (entries.lookup (.str envelopeKey)).isSome
  | .list items | .tuple items =>
      some (items.any fun item =>
        match item with
        | .str text => text = envelopeKey
        | _ => false)
  | .str text => some (decide (envelopeKey <:+: text))
  | .ext _ _ => some false
  | _ => none

section Store

variable (libraries : Libraries)

namespace EncryptingStateStore

variable (store : EncryptingStateStore)

/-- `_decrypt`, on the bytes of an envelope. -/
def openEnvelope (name : Text) : Bytes → Except Failure Obj
  | version :: keyId :: rest =>
      if version ≠ 1 then .error .stateDecryption
      else
        match store.keys keyId.toNat with
        | none => .error .stateDecryption
        | some key =>
            if key.length ≠ 32 then .error .valueError
            else if Text.encodable name = false then .error .stateDecryption
            else
              match
                libraries.decrypt key (rest.take 12) (rest.drop 12)
                  (encodeText name)
              with
              | none => .error .stateDecryption
              | some plaintext =>
                  match libraries.read plaintext with
                  | none => .error .jsonDecodeError
                  | some document => .ok (loads document)
  | _ => .error .indexError

/-- `get`, given what the inner store returns. -/
def get (name : Text) (raw : Obj) : Except Failure Obj :=
  match raw with
  | .none => .ok .none
  | raw =>
      match hasEnvelopeKey raw with
      | none => .error .typeError
      | some false =>
          if store.allowPlaintextRead then .ok raw
          else .error .stateDecryption
      | some true =>
          match raw with
          | .dict entries =>
              match entries.lookup (.str envelopeKey) with
              | none => .error .typeError
              | some encoded =>
                  match decodeBase64 encoded with
                  | .error failure => .error failure
                  | .ok envelope => store.openEnvelope libraries name envelope
          | _ => .error .typeError

/-- The envelope that `set` writes for a plaintext. -/
def sealEnvelope (name : Text) (plaintext nonce : Bytes) :
    Except Failure Obj :=
  if store.currentKey.length ≠ 32 then .error .valueError
  else if Text.encodable name = false then .error .unicodeEncodeError
  else if maxData < plaintext.length ∨ maxData < (encodeText name).length
  then .error .overflowError
  else if store.currentKeyId < 0 ∨ 255 < store.currentKeyId
  then .error .valueError
  else
    let ciphertext :=
      libraries.encrypt store.currentKey nonce plaintext (encodeText name)
    let envelope :=
      1 :: UInt8.ofNat store.currentKeyId.toNat :: (nonce ++ ciphertext)
    .ok (.dict [(.str envelopeKey, encodeBase64 envelope)])

end EncryptingStateStore

/-! ## Histories -/

/-- Something that was encrypted. -/
structure Sealed where
  key : Bytes
  nonce : Bytes
  plaintext : Bytes
  associated : Bytes
deriving DecidableEq

/-- The inner store, and what was encrypted and asked for. -/
structure World where
  /-- What the inner store returns; `None` when it has no entry. -/
  inner : Text → Obj := fun _ => .none
  seals : List Sealed := []
  /-- The keys that were used, with their ids. -/
  used : List (Int × Bytes) := []
  /-- The JSON values that `set` was given, with their names. -/
  assigned : List (Text × Obj) := []
  /-- The JSON value of the last `set` that was not followed by a `delete`. -/
  expected : Text → Option Obj := fun _ => none
  /-- The entry was replaced by somebody else. -/
  tampered : Text → Bool := fun _ => false

/-- What happens to the entries; an attacker may overwrite one. -/
inductive Label where
  | set (store : EncryptingStateStore) (name : Text)
      (state : List (Key × Obj)) (nonce : Bytes)
  | delete (name : Text)
  | corrupt (name : Text) (raw : Obj)

/-- `set`, when the state has a JSON value. -/
def World.assign
    (w : World) (store : EncryptingStateStore) (name : Text)
    (document : Json) (nonce : Bytes) : World :=
  let called : World :=
    { w with
      assigned := (name, loads document) :: w.assigned
      expected := update w.expected name (some (loads document))
      tampered := update w.tampered name false }
  match
    store.sealEnvelope libraries name (libraries.write document) nonce
  with
  | .error _ => called
  | .ok raw =>
      { called with
        inner := update w.inner name raw
        seals :=
          ⟨store.currentKey, nonce, libraries.write document,
            encodeText name⟩ :: w.seals
        used := (store.currentKeyId, store.currentKey) :: w.used }

/-- The successor of a state; `os.urandom` gives twelve bytes. -/
def step (w : World) : Label → Option World
  | .set store name state nonce =>
      if nonce.length = 12 then
        match dumps libraries.repr (.dict state) with
        | none => some w
        | some document => some (w.assign libraries store name document nonce)
      else none
  | .delete name =>
      some
        { w with
          inner := update w.inner name .none
          expected := update w.expected name none
          tampered := update w.tampered name false }
  | .corrupt name raw =>
      some
        { w with
          inner := update w.inner name raw
          tampered := update w.tampered name true }

/-! ## What is assumed -/

/-- The bytes of the envelope in a raw value. -/
def envelopeOf : Obj → Option Bytes
  | .dict entries =>
      (entries.lookup (.str envelopeKey)).bind fun encoded =>
        (decodeBase64 encoded).toOption
  | _ => none

variable (secret : Bytes → Prop)

/--
Who does not have a key can only present what was encrypted with it: a
ciphertext that decrypts under a secret key has been made by `set`.
-/
def Unforged (w : World) (raw : Obj) : Prop :=
  ∀ version keyId rest, envelopeOf raw = some (version :: keyId :: rest) →
    ∀ key associated plaintext, secret key →
      libraries.decrypt key (rest.take 12) (rest.drop 12) associated =
          some plaintext →
        ⟨key, rest.take 12, plaintext, associated⟩ ∈ w.seals

/--
The key ring has every key that was used before, and its keys are secret;
plaintext is not read.
-/
structure Rotated (w : World) (store : EncryptingStateStore) : Prop where
  strict : store.allowPlaintextRead = false
  covers : ∀ pair ∈ w.used, store.keys pair.1 = some pair.2
  secret : ∀ keyId key, store.keys keyId = some key → secret key

/-- What keys and ciphers promise: keys are rotated, seals are not forged. -/
def Premise (w : World) : Label → Prop
  | .set store _ _ _ => Rotated secret w store
  | .delete _ => True
  | .corrupt _ raw => Unforged libraries secret w raw

/-! ## The condition -/

/-- Every key of the ring has 32 bytes. -/
def EncryptingStateStore.FullKeys (store : EncryptingStateStore) : Prop :=
  ∀ keyId key, store.keys keyId = some key → key.length = 32

/--
A raw value on which `get` does not stumble before it looks at the version: a
dictionary without the reserved key or with the Base64 of at least two bytes
under it, or a sequence or text that does not contain the reserved key.
-/
def wellFormed : Obj → Bool
  | .dict entries =>
      match entries.lookup (.str envelopeKey) with
      | none => true
      | some encoded =>
          match decodeBase64 encoded with
          | .ok envelope => 2 ≤ envelope.length
          | .error _ => false
  | raw => hasEnvelopeKey raw = some false

/-- The store and the sizes are ones that the cipher takes. -/
def Orderly : Label → Prop
  | .set store name state _ =>
      store.FullKeys ∧ 0 ≤ store.currentKeyId ∧ store.currentKeyId ≤ 255 ∧
        Text.encodable name = true ∧ (encodeText name).length ≤ maxData ∧
        ∀ document, dumps libraries.repr (.dict state) = some document →
          (libraries.write document).length ≤ maxData
  | .delete _ => True
  | .corrupt _ raw => wellFormed raw = true

/-! ## What is expected -/

/-- What a reader may rely on. -/
structure Guarded (w : World) : Prop where
  /-- An entry that nobody touched has the value of the last `set`. -/
  current : ∀ store : EncryptingStateStore,
    Rotated secret w store → store.FullKeys →
      ∀ name, w.tampered name = false →
        store.get libraries name (w.inner name) =
          .ok ((w.expected name).getD .none)
  /-- Any other entry has a value that was set under its name, or none. -/
  closed : ∀ store : EncryptingStateStore,
    Rotated secret w store → store.FullKeys →
      ∀ name, w.tampered name = true →
        store.get libraries name (w.inner name) = .error .stateDecryption ∨
          ∃ value, store.get libraries name (w.inner name) = .ok value ∧
            (name, value) ∈ w.assigned

/-! ## The invariant -/

/-- The entry that `set` has left under a name. -/
structure Written (w : World) (name : Text) (value : Obj) where
  keyId : Int
  key : Bytes
  nonce : Bytes
  plaintext : Bytes
  document : Json
  used : (keyId, key) ∈ w.used
  byte : 0 ≤ keyId ∧ keyId ≤ 255
  keyLength : key.length = 32
  nonceLength : nonce.length = 12
  size : plaintext.length ≤ maxData
  encodable : Text.encodable name = true
  read : libraries.read plaintext = some document
  value : loads document = value
  entry : w.inner name =
    .dict [(.str envelopeKey,
      encodeBase64
        (1 :: UInt8.ofNat keyId.toNat ::
          (nonce ++
            libraries.encrypt key nonce plaintext (encodeText name))))]

/-- What an entry of the inner store is. -/
structure Entry (w : World) (name : Text) : Prop where
  untouched : w.tampered name = false →
    match w.expected name with
    | none => w.inner name = .none
    | some value => Nonempty (Written libraries w name value)
  touched : w.tampered name = true →
    wellFormed (w.inner name) = true ∧
      Unforged libraries secret w (w.inner name)

/-- The invariant of the entries. -/
structure Kept (w : World) : Prop where
  entries : ∀ name, Entry libraries secret w name
  sealed : ∀ record ∈ w.seals, ∃ name document,
    Text.encodable name = true ∧ record.associated = encodeText name ∧
      libraries.read record.plaintext = some document ∧
        (name, loads document) ∈ w.assigned

theorem kept_fresh : Kept libraries secret {} :=
  ⟨fun _ => ⟨fun _ => rfl, by simp⟩, by simp⟩

end Store

/-! ## Envelopes -/

section Envelopes

variable {libraries : Libraries} {secret : Bytes → Prop} {w : World}

theorem toChar_ofChar (letter : Char) :
    CodePoint.toChar (CodePoint.ofChar letter) = letter :=
  Char.ofNat_toNat letter

theorem decodeBase64_encodeBase64 (data : Bytes) :
    decodeBase64 (encodeBase64 data) = .ok data := by
  have ascii :
      ((b64encode data).map CodePoint.ofChar).all
        (fun point => point.val < 128) = true := by
    rw [List.all_map, List.all_eq_true]
    intro letter within
    exact decide_eq_true (ascii_of_mem_b64encode within)
  have letters :
      ((b64encode data).map CodePoint.ofChar).map CodePoint.toChar =
        b64encode data := by
    rw [List.map_map]
    exact List.map_id'' toChar_ofChar _
  simp only [encodeBase64, decodeBase64, ascii, letters, if_true,
    a2bBase64_b64encode, List.reverse_nil, List.nil_append]

/-- UTF-8 tells names apart. -/
theorem encodeText_injective
    {left right : Text} (leftValid : Text.encodable left = true)
    (rightValid : Text.encodable right = true)
    (same : encodeText left = encodeText right) : left = right := by
  have decoded := decodeText_encodeText leftValid
  rw [same, decodeText_encodeText rightValid] at decoded
  exact (Option.some.inj decoded).symm

/-- What `set` has written is read back. -/
theorem Written.get
    {store : EncryptingStateStore} {name : Text} {value : Obj}
    (written : Written libraries w name value)
    (rotated : Rotated secret w store) :
    store.get libraries name (w.inner name) = .ok value := by
  have byte := written.byte
  have keyId : ((UInt8.ofNat written.keyId.toNat).toNat : Int) =
      written.keyId := by
    rw [UInt8.toNat_ofNat']
    omega
  have key := rotated.covers _ written.used
  have front :
      (written.nonce ++
        libraries.encrypt written.key written.nonce written.plaintext
          (encodeText name)).take 12 = written.nonce :=
    List.take_left' written.nonceLength
  have back :
      (written.nonce ++
        libraries.encrypt written.key written.nonce written.plaintext
          (encodeText name)).drop 12 =
        libraries.encrypt written.key written.nonce written.plaintext
          (encodeText name) :=
    List.drop_left' written.nonceLength
  have opened :=
    libraries.decrypt_encrypt written.key written.nonce written.plaintext
      (encodeText name) written.keyLength written.nonceLength written.size
  rw [written.entry]
  simp only [EncryptingStateStore.get, hasEnvelopeKey, List.lookup_cons_self,
    Option.isSome_some, decodeBase64_encodeBase64,
    EncryptingStateStore.openEnvelope, keyId, key, front, back, opened,
    written.read, written.value, written.keyLength, written.encodable]
  simp

/-- A raw value without an envelope is rejected. -/
theorem get_of_no_envelope
    {store : EncryptingStateStore} (name : Text) {raw : Obj}
    (strict : store.allowPlaintextRead = false)
    (without : hasEnvelopeKey raw = some false) :
    store.get libraries name raw = .error .stateDecryption := by
  cases raw with
  | none => cases without
  | bool flag => cases without
  | int value => cases without
  | float value => cases without
  | bytes data => cases without
  | str text => simp [EncryptingStateStore.get, without, strict]
  | ext code data => simp [EncryptingStateStore.get, without, strict]
  | list items => simp [EncryptingStateStore.get, without, strict]
  | tuple items => simp [EncryptingStateStore.get, without, strict]
  | dict entries => simp [EncryptingStateStore.get, without, strict]

/-- An envelope that has a version and a key id is rejected or authentic. -/
theorem Kept.openEnvelope
    {store : EncryptingStateStore} {version keyId : UInt8} {rest : Bytes}
    (kept : Kept libraries secret w) (rotated : Rotated secret w store)
    (full : store.FullKeys) (name : Text)
    (authentic : ∀ key associated plaintext, secret key →
      libraries.decrypt key (rest.take 12) (rest.drop 12) associated =
          some plaintext →
        ⟨key, rest.take 12, plaintext, associated⟩ ∈ w.seals) :
    store.openEnvelope libraries name (version :: keyId :: rest) =
        .error .stateDecryption ∨
      ∃ value,
        store.openEnvelope libraries name (version :: keyId :: rest) =
            .ok value ∧
          (name, value) ∈ w.assigned := by
  by_cases supported : version = 1
  case neg =>
    refine .inl ?_
    simp [EncryptingStateStore.openEnvelope, supported]
  subst supported
  cases found : store.keys keyId.toNat with
  | none =>
      refine .inl ?_
      simp [EncryptingStateStore.openEnvelope, found]
  | some key =>
      have length := full _ _ found
      cases valid : Text.encodable name with
      | false =>
          refine .inl ?_
          simp [EncryptingStateStore.openEnvelope, found, length, valid]
      | true =>
          cases opened :
              libraries.decrypt key (rest.take 12) (rest.drop 12)
                (encodeText name) with
          | none =>
              refine .inl ?_
              simp [EncryptingStateStore.openEnvelope, found, length, valid,
                opened]
          | some plaintext =>
              have made :=
                authentic key _ plaintext (rotated.secret _ _ found) opened
              rcases kept.sealed _ made with
                ⟨owner, document, ownerValid, associated, read, set⟩
              have same : name = owner :=
                encodeText_injective valid ownerValid associated
              subst same
              have text : libraries.read plaintext = some document := read
              refine .inr ⟨loads document, ?_, set⟩
              simp [EncryptingStateStore.openEnvelope, found, length, valid,
                opened, text]

/-- What somebody else has left is rejected, or was set under the name. -/
theorem Kept.get_touched
    {store : EncryptingStateStore} {name : Text}
    (kept : Kept libraries secret w) (rotated : Rotated secret w store)
    (full : store.FullKeys) (touched : w.tampered name = true) :
    store.get libraries name (w.inner name) = .error .stateDecryption ∨
      ∃ value, store.get libraries name (w.inner name) = .ok value ∧
        (name, value) ∈ w.assigned := by
  rcases (kept.entries name).touched touched with ⟨formed, unforged⟩
  generalize w.inner name = raw at formed unforged
  cases raw with
  | dict entries =>
      cases found : entries.lookup (.str envelopeKey) with
      | none =>
          refine .inl (get_of_no_envelope name rotated.strict ?_)
          simp [hasEnvelopeKey, found]
      | some encoded =>
          simp only [wellFormed, found] at formed
          cases decoded : decodeBase64 encoded with
          | error failure => simp [decoded] at formed
          | ok envelope =>
              rw [decoded] at formed
              rcases envelope with _ | ⟨version, _ | ⟨keyId, rest⟩⟩
              · cases formed
              · cases formed
              · have opened :
                    store.get libraries name (.dict entries) =
                      store.openEnvelope libraries name
                        (version :: keyId :: rest) := by
                  simp [EncryptingStateStore.get, hasEnvelopeKey, found,
                    decoded]
                have parsed : envelopeOf (.dict entries) =
                    some (version :: keyId :: rest) := by
                  simp [envelopeOf, found, decoded, Except.toOption]
                rw [opened]
                exact
                  kept.openEnvelope rotated full name
                    (unforged version keyId rest parsed)
  | none => cases formed
  | bool flag => cases formed
  | int value => cases formed
  | float value => cases formed
  | bytes data => cases formed
  | str text =>
      exact
        .inl (get_of_no_envelope name rotated.strict (of_decide_eq_true formed))
  | ext code data => exact .inl (get_of_no_envelope name rotated.strict rfl)
  | list items =>
      exact
        .inl (get_of_no_envelope name rotated.strict (of_decide_eq_true formed))
  | tuple items =>
      exact
        .inl (get_of_no_envelope name rotated.strict (of_decide_eq_true formed))

theorem Kept.guarded (kept : Kept libraries secret w) :
    Guarded libraries secret w where
  current := by
    intro store rotated full name untouched
    have entry := (kept.entries name).untouched untouched
    cases expected : w.expected name with
    | none =>
        rw [expected] at entry
        have absent : w.inner name = .none := entry
        rw [absent]
        rfl
    | some value =>
        rw [expected] at entry
        rcases entry with ⟨written⟩
        exact written.get rotated
  closed := fun _ rotated full _ touched =>
    kept.get_touched rotated full touched

end Envelopes

/-! ## Every step -/

section Steps

variable {libraries : Libraries} {secret : Bytes → Prop} {w after : World}

/-- An entry stays written while nobody writes under its name. -/
def Written.transport
    {name : Text} {value : Obj} (written : Written libraries w name value)
    (used : ∀ pair ∈ w.used, pair ∈ after.used)
    (inner : after.inner name = w.inner name) :
    Written libraries after name value :=
  { written with
    used := used _ written.used
    entry := inner.trans written.entry }

theorem Unforged.grow
    {raw : Obj} (unforged : Unforged libraries secret w raw)
    (seals : ∀ record ∈ w.seals, record ∈ after.seals) :
    Unforged libraries secret after raw :=
  fun version keyId rest parsed key associated plaintext known opened =>
    seals _ (unforged version keyId rest parsed key associated plaintext known
      opened)

/-- Entries under other names stay as they are. -/
theorem Kept.elsewhere
    {name : Text} (kept : Kept libraries secret w)
    (used : ∀ pair ∈ w.used, pair ∈ after.used)
    (seals : ∀ record ∈ w.seals, record ∈ after.seals)
    (inner : after.inner name = w.inner name)
    (expected : after.expected name = w.expected name)
    (tampered : after.tampered name = w.tampered name) :
    Entry libraries secret after name := by
  constructor
  · rw [tampered, expected]
    intro untouched
    have entry := (kept.entries name).untouched untouched
    cases found : w.expected name with
    | none =>
        rw [found] at entry
        exact inner.trans entry
    | some value =>
        rw [found] at entry
        rcases entry with ⟨written⟩
        exact ⟨written.transport used inner⟩
  · rw [tampered, inner]
    intro touched
    rcases (kept.entries name).touched touched with ⟨formed, unforged⟩
    exact ⟨formed, unforged.grow seals⟩

theorem sealEnvelope_of_orderly
    {store : EncryptingStateStore} {name : Text} {plaintext nonce : Bytes}
    (full : store.FullKeys) (low : 0 ≤ store.currentKeyId)
    (high : store.currentKeyId ≤ 255) (valid : Text.encodable name = true)
    (nameSize : (encodeText name).length ≤ maxData)
    (size : plaintext.length ≤ maxData) :
    store.sealEnvelope libraries name plaintext nonce =
      .ok (.dict [(.str envelopeKey,
        encodeBase64
          (1 :: UInt8.ofNat store.currentKeyId.toNat ::
            (nonce ++
              libraries.encrypt store.currentKey nonce plaintext
                (encodeText name))))]) := by
  have length := full _ _ store.present
  have fits : ¬(maxData < plaintext.length ∨
      maxData < (encodeText name).length) := by omega
  have byte : ¬(store.currentKeyId < 0 ∨ 255 < store.currentKeyId) := by omega
  unfold EncryptingStateStore.sealEnvelope
  rw [if_neg (not_not.mpr length), if_neg (by simp [valid]), if_neg fits,
    if_neg byte]

theorem assign_of_orderly
    {store : EncryptingStateStore} {name : Text} {document : Json}
    {nonce : Bytes} (full : store.FullKeys) (low : 0 ≤ store.currentKeyId)
    (high : store.currentKeyId ≤ 255) (valid : Text.encodable name = true)
    (nameSize : (encodeText name).length ≤ maxData)
    (size : (libraries.write document).length ≤ maxData) :
    w.assign libraries store name document nonce =
      { inner :=
          update w.inner name
            (.dict [(.str envelopeKey,
              encodeBase64
                (1 :: UInt8.ofNat store.currentKeyId.toNat ::
                  (nonce ++
                    libraries.encrypt store.currentKey nonce
                      (libraries.write document) (encodeText name))))])
        seals :=
          ⟨store.currentKey, nonce, libraries.write document,
            encodeText name⟩ :: w.seals
        used := (store.currentKeyId, store.currentKey) :: w.used
        assigned := (name, loads document) :: w.assigned
        expected := update w.expected name (some (loads document))
        tampered := update w.tampered name false } := by
  unfold World.assign
  simp only [sealEnvelope_of_orderly full low high valid nameSize size]

theorem Kept.assign
    {store : EncryptingStateStore} {name : Text} {document : Json}
    {nonce : Bytes} (kept : Kept libraries secret w)
    (full : store.FullKeys) (low : 0 ≤ store.currentKeyId)
    (high : store.currentKeyId ≤ 255) (valid : Text.encodable name = true)
    (nameSize : (encodeText name).length ≤ maxData)
    (size : (libraries.write document).length ≤ maxData)
    (nonceLength : nonce.length = 12) :
    Kept libraries secret (w.assign libraries store name document nonce) := by
  have read := libraries.read_write document size
  have length := full _ _ store.present
  rw [assign_of_orderly full low high valid nameSize size]
  constructor
  · intro other
    by_cases same : other = name
    · subst same
      refine ⟨fun _ => ?_, fun touched => ?_⟩
      · simp only [Function.update_self]
        exact
        ⟨{ keyId := store.currentKeyId
           key := store.currentKey
           nonce := nonce
           plaintext := libraries.write document
           document := document
           used := List.mem_cons_self
           byte := ⟨low, high⟩
           keyLength := length
           nonceLength := nonceLength
           size := size
           encodable := valid
           read := read
           value := rfl
           entry := Function.update_self .. }⟩
      · simp only [Function.update_self] at touched
        cases touched
    · exact
        kept.elsewhere (fun _ => List.mem_cons_of_mem _)
          (fun _ => List.mem_cons_of_mem _) (Function.update_of_ne same ..)
          (Function.update_of_ne same ..) (Function.update_of_ne same ..)
  · intro record within
    rcases List.mem_cons.mp within with rfl | old
    · exact ⟨name, document, valid, rfl, read, List.mem_cons_self⟩
    · rcases kept.sealed record old with
        ⟨owner, text, ownerValid, associated, known, set⟩
      exact
        ⟨owner, text, ownerValid, associated, known,
          List.mem_cons_of_mem _ set⟩

theorem Kept.delete (kept : Kept libraries secret w) (name : Text) :
    Kept libraries secret
      { w with
        inner := update w.inner name .none
        expected := update w.expected name none
        tampered := update w.tampered name false } := by
  refine ⟨?_, kept.sealed⟩
  intro other
  by_cases same : other = name
  · subst same
    refine ⟨fun _ => ?_, fun touched => ?_⟩
    · simp only [Function.update_self]
    · simp only [Function.update_self] at touched
      cases touched
  · exact
      kept.elsewhere (fun _ => id) (fun _ => id)
        (Function.update_of_ne same ..) (Function.update_of_ne same ..)
        (Function.update_of_ne same ..)

theorem Kept.corrupt
    {raw : Obj} (kept : Kept libraries secret w) (name : Text)
    (formed : wellFormed raw = true)
    (unforged : Unforged libraries secret w raw) :
    Kept libraries secret
      { w with
        inner := update w.inner name raw
        tampered := update w.tampered name true } := by
  refine ⟨?_, kept.sealed⟩
  intro other
  by_cases same : other = name
  · subst same
    refine ⟨fun untouched => ?_, fun _ => ?_⟩
    · simp only [Function.update_self] at untouched
      cases untouched
    · simp only [Function.update_self]
      exact ⟨formed, unforged⟩
  · exact
      kept.elsewhere (fun _ => id) (fun _ => id)
        (Function.update_of_ne same ..) rfl (Function.update_of_ne same ..)

theorem step_kept
    {label : Label} (kept : Kept libraries secret w)
    (premise : Premise libraries secret w label)
    (orderly : Orderly libraries label)
    (stepped : step libraries w label = some after) :
    Kept libraries secret after := by
  cases label with
  | set store name state nonce =>
      rcases orderly with ⟨full, low, high, valid, nameSize, sizes⟩
      simp only [step] at stepped
      split_ifs at stepped with length
      cases dumped : dumps libraries.repr (.dict state) with
      | none =>
          rw [dumped] at stepped
          cases stepped
          exact kept
      | some document =>
          rw [dumped] at stepped
          cases stepped
          exact
            kept.assign full low high valid nameSize (sizes document dumped)
              length
  | delete name =>
      cases stepped
      exact kept.delete name
  | corrupt name raw =>
      cases stepped
      exact kept.corrupt name orderly premise

end Steps

/-! ## Encrypted state in every history -/

/--
The condition of the steps, beside what is assumed of the cipher, of its keys
and of the key rings.
-/
theorem encrypted_state_guarded_in_every_run
    (libraries : Libraries) (secret : Bytes → Prop) {w : World}
    (reached :
      Reaches (step libraries)
        (fun before label =>
          Premise libraries secret before label ∧ Orderly libraries label)
        {} w) :
    Guarded libraries secret w := by
  apply Kept.guarded
  apply reached.invariant (kept_fresh libraries secret)
  intro before label after kept permitted stepped
  exact step_kept kept permitted.1 permitted.2 stepped

/-- The text of two small documents; the others are too long for the cipher. -/
def smallText : Json → Bytes
  | .object [] => [123, 125]
  | .object [([], .bool true)] => [123, 34, 34, 58, 32, 116, 114, 117, 101, 125]
  | _ => List.replicate (maxData + 1) 32

/-- A cipher that appends sixteen bytes of the associated data and the key. -/
def tagging : Libraries where
  repr := fun _ => []
  write := smallText
  read := fun text =>
    if text = [123, 125] then some (.object [])
    else if text = [123, 34, 34, 58, 32, 116, 114, 117, 101, 125]
    then some (.object [([], .bool true)])
    else none
  encrypt := fun key _ plaintext associated =>
    plaintext ++ (associated ++ key).take 16
  decrypt := fun key _ ciphertext associated =>
    if 16 ≤ ciphertext.length ∧
        ciphertext.drop (ciphertext.length - 16) = (associated ++ key).take 16
    then some (ciphertext.take (ciphertext.length - 16))
    else none
  read_write := by
    intro document fits
    unfold smallText at fits ⊢
    split at fits
    · rfl
    · rfl
    · simp only [List.length_replicate] at fits
      omega
  decrypt_encrypt := by
    intro key nonce plaintext associated keyLength _ _
    have tag : ((associated ++ key).take 16).length = 16 := by
      simp [keyLength]
    have whole : (plaintext ++ (associated ++ key).take 16).length - 16 =
        plaintext.length := by
      rw [List.length_append, tag]
      omega
    have longer : 16 ≤ (plaintext ++ (associated ++ key).take 16).length := by
      rw [List.length_append, tag]
      omega
    simp only [whole, longer, List.drop_left, List.take_left, true_and,
      if_true]

/-- The key before the rotation. -/
def oldKey : Bytes := List.replicate 32 7

/-- The key after the rotation. -/
def newKey : Bytes := List.replicate 32 9

/-- The store before the rotation. -/
def oldStore : EncryptingStateStore where
  keys := fun keyId => if keyId = 0 then some oldKey else none
  currentKeyId := 0
  currentKey := oldKey
  present := rfl

/-- The ring has both keys, and new entries are written with the second. -/
def newStore : EncryptingStateStore where
  keys := fun keyId =>
    if keyId = 0 then some oldKey
    else if keyId = 1 then some newKey else none
  currentKeyId := 1
  currentKey := newKey
  present := rfl

/-- The keys that are kept secret. -/
def known (key : Bytes) : Prop := key = oldKey ∨ key = newKey

theorem newStore_key
    {keyId : Int} {key : Bytes} (found : newStore.keys keyId = some key) :
    known key ∧ key.length = 32 := by
  simp only [newStore] at found
  split_ifs at found
  · cases found
    exact ⟨.inl rfl, rfl⟩
  · cases found
    exact ⟨.inr rfl, rfl⟩

theorem oldStore_key
    {keyId : Int} {key : Bytes} (found : oldStore.keys keyId = some key) :
    known key ∧ key.length = 32 := by
  simp only [oldStore] at found
  split_ifs at found
  cases found
  exact ⟨.inl rfl, rfl⟩

/-- An envelope that ends after the key id. -/
def truncated : Obj := .dict [(.str envelopeKey, encodeBase64 [1, 0])]

theorem unforged_truncated (w : World) :
    Unforged tagging known w truncated := by
  intro version keyId rest parsed key associated plaintext _ opened
  have envelope : envelopeOf truncated = some [1, 0] := by
    simp [envelopeOf, truncated, decodeBase64_encodeBase64, Except.toOption]
  rw [envelope] at parsed
  cases parsed
  cases opened

/-- The name `alice`. -/
def alice : Text := Text.ofString "alice"

/-- The name `bob`. -/
def bob : Text := Text.ofString "bob"

/-- One entry is written under the old key. -/
def beforeRotation : World :=
  World.assign tagging {} oldStore alice (.object []) (List.replicate 12 1)

/-- Another one is written under the new key. -/
def afterRotation : World :=
  World.assign tagging beforeRotation newStore bob
    (.object [([], .bool true)]) (List.replicate 12 2)

/-- And is cut off by somebody. -/
def cutOff : World :=
  { afterRotation with
    inner := update afterRotation.inner bob truncated
    tampered := update afterRotation.tampered bob true }

theorem used_beforeRotation : beforeRotation.used = [(0, oldKey)] := by
  have full : oldStore.FullKeys := fun _ _ found => (oldStore_key found).2
  have valid : Text.encodable alice = true := Text.encodable_ofString "alice"
  have nameSize : (encodeText alice).length ≤ maxData := by decide +kernel
  have size : (tagging.write (.object [])).length ≤ maxData := by
    decide +kernel
  unfold beforeRotation
  rw [assign_of_orderly full (by decide) (by decide) valid nameSize size]
  rfl

theorem used_afterRotation :
    afterRotation.used = [(1, newKey), (0, oldKey)] := by
  have full : newStore.FullKeys := fun _ _ found => (newStore_key found).2
  have valid : Text.encodable bob = true := Text.encodable_ofString "bob"
  have nameSize : (encodeText bob).length ≤ maxData := by decide +kernel
  have size :
      (tagging.write (.object [([], .bool true)])).length ≤ maxData := by
    decide +kernel
  unfold afterRotation
  rw [assign_of_orderly full (by decide) (by decide) valid nameSize size,
    used_beforeRotation]
  rfl

theorem rotated_newStore
    {w : World} (used : ∀ pair ∈ w.used, pair = (0, oldKey) ∨
      pair = (1, newKey)) :
    Rotated known w newStore := by
  refine ⟨rfl, ?_, fun _ _ found => (newStore_key found).1⟩
  intro pair within
  rcases used pair within with rfl | rfl
  · rfl
  · rfl

theorem reaches_cutOff :
    Reaches (step tagging)
      (fun before label =>
        Premise tagging known before label ∧ Orderly tagging label)
      {} cutOff := by
  have first : step tagging {}
      (.set oldStore alice [] (List.replicate 12 1)) =
        some beforeRotation := rfl
  have second : step tagging beforeRotation
      (.set newStore bob [(.str [], .bool true)] (List.replicate 12 2)) =
        some afterRotation := rfl
  have third : step tagging afterRotation (.corrupt bob truncated) =
      some cutOff := rfl
  refine .step (.step (.step .start ⟨?_, ?_⟩ first) ⟨?_, ?_⟩ second)
    ⟨?_, ?_⟩ third
  · exact ⟨rfl, by simp, fun _ _ found => (oldStore_key found).1⟩
  · refine ⟨fun _ _ found => (oldStore_key found).2, by decide, by decide,
      Text.encodable_ofString "alice", by decide +kernel, ?_⟩
    intro document written
    cases written
    decide +kernel
  · apply rotated_newStore
    rw [used_beforeRotation]
    intro pair within
    exact .inl (List.mem_singleton.mp within)
  · refine ⟨fun _ _ found => (newStore_key found).2, by decide, by decide,
      Text.encodable_ofString "bob", by decide +kernel, ?_⟩
    intro document written
    cases written
    decide +kernel
  · exact unforged_truncated _
  · show wellFormed truncated = true
    simp [wellFormed, truncated, decodeBase64_encodeBase64]

/-- The entry under the old key is read after the rotation. -/
theorem rotated_state_guarded :
    newStore.get tagging alice (cutOff.inner alice) = .ok (.dict []) ∧
      Guarded tagging known cutOff := by
  have guarded : Guarded tagging known cutOff :=
    encrypted_state_guarded_in_every_run tagging known reaches_cutOff
  have rotated : Rotated known cutOff newStore := by
    apply rotated_newStore
    show ∀ pair ∈ afterRotation.used, _
    rw [used_afterRotation]
    intro pair within
    simpa [or_comm] using within
  refine ⟨?_, guarded⟩
  refine
    (guarded.current newStore rotated
      (fun _ _ found => (newStore_key found).2) alice ?_).trans ?_
  · decide +kernel
  · rfl

/-- The constructor accepts a key id that does not fit into a byte. -/
def wideStore : EncryptingStateStore where
  keys := fun keyId => if keyId = 256 then some oldKey else none
  currentKeyId := 256
  currentKey := oldKey
  present := rfl

/--
`set` raises a `ValueError` and nothing is written; and an envelope without
bytes makes `get` raise an `IndexError`.
-/
theorem wide_key_id_loses_state :
    ∃ lost emptied : World,
      Reaches (step tagging) (Premise tagging known) {} lost ∧
        Rotated known lost wideStore ∧ wideStore.FullKeys ∧
        lost.tampered alice = false ∧
        lost.expected alice = some (.dict []) ∧
        wideStore.get tagging alice (lost.inner alice) = .ok .none ∧
      Reaches (step tagging) (Premise tagging known) {} emptied ∧
        Rotated known emptied wideStore ∧
        wideStore.get tagging alice (emptied.inner alice) =
          .error .indexError := by
  have full : wideStore.FullKeys ∧ Rotated known {} wideStore := by
    have key {keyId : Int} {key : Bytes}
        (found : wideStore.keys keyId = some key) : key = oldKey := by
      simp only [wideStore] at found
      split_ifs at found
      exact (Option.some.inj found).symm
    refine
      ⟨fun _ _ found => ?_, rfl, by simp, fun _ _ found => .inl (key found)⟩
    rw [key found]
    rfl
  have fails : step tagging {}
      (.set wideStore alice [] (List.replicate 12 1)) =
        some
          { assigned := [(alice, .dict [])]
            expected := update (fun _ => none) alice (some (.dict []))
            tampered := update (fun _ => false) alice false } := rfl
  have empties : step tagging {}
      (.corrupt alice (.dict [(.str envelopeKey, encodeBase64 [])])) =
        some
          { inner :=
              update (fun _ => .none) alice
                (.dict [(.str envelopeKey, encodeBase64 [])])
            tampered := update (fun _ => false) alice true } := rfl
  refine ⟨_, _, .step .start ?_ fails, ?_, full.1, rfl, rfl, rfl,
    .step .start ?_ empties, ?_, rfl⟩
  · exact full.2
  · exact ⟨rfl, by simp, full.2.secret⟩
  · intro version keyId rest parsed
    have envelope :
        envelopeOf (.dict [(.str envelopeKey, encodeBase64 [])]) = some [] := by
      simp [envelopeOf, decodeBase64_encodeBase64, Except.toOption]
    rw [envelope] at parsed
    cases parsed
  · exact ⟨rfl, by simp, full.2.secret⟩

end Civitas.Plugins
