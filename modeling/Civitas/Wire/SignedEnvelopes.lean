import Civitas.Security.Signing
import Civitas.Wire.Carriage

/-!
# Signed envelopes

`MessageSigner.sign` and `verify` and the `SigningSerializer` of
`security/signing.py` on the objects of an application, so that tuples, every
float and the bytes on the wire are covered.  `verify` packs the decoded
message again and checks the signature over those bytes.

What is signed is read back as the same content with its tuples as lists, and
packs to the same bytes.  Conversely a content that packs to signed bytes is
the signed one, so nothing but a signed message, signer and nonce verifies.
The signer takes part as the text that `str()` makes of it.
-/

namespace Civitas.Wire

/-! ## Libraries and signers -/

/-- What `signing.py` uses of `nacl`. -/
structure Ed25519 where
  SigningKey : Type
  VerifyKey : Type
  sign : SigningKey → Bytes → Bytes
  verifyKey : SigningKey → VerifyKey
  /-- `verify_key.verify(data, signature)` returns instead of raising. -/
  verify : VerifyKey → Bytes → Obj → Bool
  sign_ne_nil : ∀ key data, sign key data ≠ []
  verify_sign :
    ∀ key data, verify (verifyKey key) data (.bytes (sign key data)) = true

/-- The packages and the interpreter. -/
structure SigningLibraries where
  msgpack : Msgpack
  ed25519 : Ed25519
  python : Interpreter
  /-- `str()`. -/
  str : Obj → Text
  str_str : ∀ text, str (.str text) = text

/-- `MessageSigner`, without its nonce cache. -/
structure MessageSigner (libraries : SigningLibraries) where
  identities : Text → Option libraries.ed25519.SigningKey
  registry : Text → Option libraries.ed25519.VerifyKey
  config : Security.SigningConfig

/--
What `check_and_add` answers: whether a nonce is fresh, or `none` for the
`TypeError` of an unhashable one.
-/
abbrev NonceAnswers := Obj → Option Bool

/-- `not signature`, negated. -/
def Obj.truthy : Obj → Bool
  | .none => false
  | .bool flag => flag
  | .int value => value ≠ 0
  | .float value => value.bits.toNat % 2 ^ 63 ≠ 0
  | .str text => !text.isEmpty
  | .bytes data => !data.isEmpty
  | .ext _ _ => true
  | .list items | .tuple items => !items.isEmpty
  | .dict entries => !entries.isEmpty

/-- `value == 2`. -/
def Obj.isTwo : Obj → Bool
  | .int value => value = 2
  | .float value => value.bits = 0x4000000000000000#64
  | _ => false

/-! ## Signing -/

/-- The dictionary whose packed bytes are signed. -/
def signedContent (msg : Obj) (signer : Text) (nonce : Obj) : Obj :=
  .dict
    [(.named "v", .int 2), (.named "msg", msg),
      (.named "signer", .str signer), (.named "nonce", nonce)]

/-- The signature block of an envelope. -/
def signatureEntries
    (signer : Obj) (signature : Bytes) (nonce : Bytes) :
    List (Key × Obj) :=
  [(.named "signer", signer),
    (.named "alg", .str (Text.ofString "ed25519")),
    (.named "value", .bytes signature), (.named "nonce", .bytes nonce)]

/-- An envelope of the form that `sign` returns. -/
def signedEnvelope
    (msg signer : Obj) (signature nonce : Bytes) :
    List (Key × Obj) :=
  [(.named "v", .int 2), (.named "msg", msg),
    (.named "sig", .dict (signatureEntries signer signature nonce))]

/-- The errors of `serialize`. -/
inductive SignError where
  /-- `No signing key for sender '{sender}' ...` -/
  | noSigningKey (sender : Text)
  /-- An object cannot be packed. -/
  | notPackable
deriving DecidableEq

/-- The errors of `deserialize`. -/
inductive Rejection where
  /-- `Failed to deserialize msgpack data: ...` -/
  | malformed
  /-- The envelope or its signature block is not a dictionary. -/
  | attributeError
  /-- The nonce is unhashable, or the content cannot be packed. -/
  | typeError
  /-- `Replayed nonce in message from '{signer}'` -/
  | replayed (signer : Text)
  /-- `Unknown signer '{signer}': no public key registered. ...` -/
  | unknownSigner (signer : Text)
  /-- `Missing signature from known agent '{signer}'` -/
  | missingSignature (signer : Text)
  /-- `Signature verification failed for '{signer}': ...` -/
  | badSignature (signer : Text)
  /-- `Received v=2 envelope with no signature block` -/
  | noSignatureBlock
  /-- `Unsigned message rejected (require_verification=true). ...` -/
  | unsignedRejected
  /-- `Failed to reconstruct Message: ...` -/
  | notAMessage
deriving DecidableEq

/-- What `verify` reads from an envelope. -/
structure ReadBlock where
  signer : Text
  nonce : Obj
  signature : Obj
  msg : Obj

section Signer

variable {libraries : SigningLibraries}

/-- The signature, empty for a sender without identity. -/
def MessageSigner.signature
    (signer : MessageSigner libraries) (sender : Text) (data : Bytes) :
    Bytes :=
  match signer.identities sender with
  | some key => libraries.ed25519.sign key data
  | none => []

/-- `MessageSigner.sign`, with the nonce it draws. -/
def MessageSigner.sign
    (signer : MessageSigner libraries) (nonce : Bytes)
    (msgDict : List (Key × Obj)) :
    Except SignError (List (Key × Obj)) :=
  let sender := libraries.str (entryOr msgDict "sender" (.str []))
  match
    libraries.msgpack.packb
      (signedContent (.dict msgDict) sender (.bytes nonce))
  with
  | none => .error .notPackable
  | some signedBytes =>
      let signature := signer.signature sender signedBytes
      if signature.isEmpty && signer.config.strict
      then .error (.noSigningKey sender)
      else .ok (signedEnvelope (.dict msgDict) (.str sender) signature nonce)

/-- `SigningSerializer.serialize`. -/
def MessageSigner.serialize
    (signer : MessageSigner libraries) (nonce : Bytes) (message : Fields) :
    Except SignError Bytes :=
  match signer.sign nonce message.toDict with
  | .error error => .error error
  | .ok envelope =>
      match libraries.msgpack.packb (.dict envelope) with
      | none => .error .notPackable
      | some data => .ok data

/-- Read the signature block; `none` is an `AttributeError`. -/
def readBlock
    (str : Obj → Text) (envelope : List (Key × Obj)) : Option ReadBlock :=
  match entryOr envelope "sig" (.dict []) with
  | .dict sig =>
      some
        { signer := str (entryOr sig "signer" (.str []))
          nonce := entryOr sig "nonce" (.bytes [])
          signature := entryOr sig "value" (.bytes [])
          msg := entryOr envelope "msg" (.dict []) }
  | _ => none

/-- `verify` once the nonce has been recorded. -/
def MessageSigner.checkSignature
    (signer : MessageSigner libraries) (block : ReadBlock) :
    Except Rejection Obj :=
  match signer.registry block.signer with
  | none =>
      if signer.config.strict
      then .error (.unknownSigner block.signer)
      else .ok block.msg
  | some verifyKey =>
      if !block.signature.truthy then
        if signer.config.strict
        then .error (.missingSignature block.signer)
        else .ok block.msg
      else
        match
          libraries.msgpack.packb
            (signedContent block.msg block.signer block.nonce)
        with
        | none => .error .typeError
        | some signedBytes =>
            if libraries.ed25519.verify verifyKey signedBytes block.signature
            then .ok block.msg
            else .error (.badSignature block.signer)

/-- `MessageSigner.verify`. -/
def MessageSigner.verify
    (signer : MessageSigner libraries) (nonces : NonceAnswers)
    (envelope : List (Key × Obj)) : Except Rejection Obj :=
  match readBlock libraries.str envelope with
  | none => .error .attributeError
  | some block =>
      match nonces block.nonce with
      | none => .error .typeError
      | some false => .error (.replayed block.signer)
      | some true => signer.checkSignature block

/-- The message dictionary that `deserialize` takes from an envelope. -/
def MessageSigner.openEnvelope
    (signer : MessageSigner libraries) (nonces : NonceAnswers)
    (raw : List (Key × Obj)) : Except Rejection Obj :=
  if (entryOr raw "v" .none).isTwo then
    if (raw.lookup (.named "sig")).isSome
    then signer.verify nonces raw
    else if signer.config.strict
    then .error .noSignatureBlock
    else .ok (entryOr raw "msg" (.dict raw))
  else if signer.config.strict
  then .error .unsignedRejected
  else .ok (.dict raw)

/-- `SigningSerializer.deserialize`. -/
def MessageSigner.deserialize
    (signer : MessageSigner libraries) (nonces : NonceAnswers)
    (data : Bytes) : Except Rejection Fields :=
  match libraries.msgpack.unpackb data with
  | none => .error .malformed
  | some (.dict raw) =>
      match signer.openEnvelope nonces raw with
      | .error rejection => .error rejection
      | .ok msgDict =>
          match Fields.fromDict libraries.python msgDict with
          | some fields => .ok fields
          | none => .error .notAMessage
  | some _ => .error .attributeError

end Signer

/-! ## What has been signed -/

section Records

variable (libraries : SigningLibraries)

/-- Something that the holder of a key has signed. -/
structure SignedRecord where
  verifyKey : libraries.ed25519.VerifyKey
  msg : List (Key × Obj)
  signer : Text
  nonce : Bytes
  distinct : (Obj.dict msg).passes distinctKeys = true

variable {libraries}

/-- What was signed. -/
def SignedRecord.content (record : SignedRecord libraries) : Obj :=
  signedContent (.dict record.msg) record.signer (.bytes record.nonce)

/--
A signature that somebody can present verifies only what the holder of the key
has signed.
-/
def Unforgeable
    (known : Obj → Prop) (issued : List (SignedRecord libraries)) : Prop :=
  ∀ key data signature, known signature →
    libraries.ed25519.verify key data signature = true →
      ∃ record ∈ issued,
        record.verifyKey = key ∧
          libraries.msgpack.packb record.content = some data

/-- The envelope has the message, the signer and the nonce of the record. -/
def ReadBlock.Reads
    (block : ReadBlock) (record : SignedRecord libraries) : Prop :=
  block.msg = (Obj.dict record.msg).listed ∧
    block.signer = record.signer ∧ block.nonce = .bytes record.nonce

/-- The signature block on the wire. -/
def blockOf (libraries : SigningLibraries) (data : Bytes) :
    Option ReadBlock :=
  match libraries.msgpack.unpackb data with
  | some (.dict raw) => readBlock libraries.str raw
  | _ => none

end Records

/-! ## Contents -/

section Contents

variable {msg : Obj} {signer : Text} {nonce : Obj}

/-- A check of the signed content is one of its three parts. -/
theorem passes_signedContent_iff
    {check : Check}
    (size : check.size 4 = true)
    (keys :
      check.keys (["v", "msg", "signer", "nonce"].map Key.named) = true)
    (version : check.scalar (.int 2) = true) :
    (signedContent msg signer nonce).passes check = true ↔
      msg.passes check = true ∧
        check.scalar (.str signer) = true ∧ nonce.passes check = true := by
  have two : (Obj.int 2).passes check = true := version
  have text : (Obj.str signer).passes check = check.scalar (.str signer) :=
    Obj.passes_scalar rfl
  rw [signedContent, Obj.passes_dict]
  refine (and_iff_right size).trans ((and_iff_right keys).trans ?_)
  simp only [List.forall_mem_cons, List.not_mem_nil, false_implies,
    implies_true, and_true, two, text, true_and]

theorem passes_signedEnvelope_iff
    {check : Check} {name : Obj} {signature own : Bytes}
    (sizes : ∀ count, count < 5 → check.size count = true)
    (keys : check.keys (["v", "msg", "sig"].map Key.named) = true)
    (inner :
      check.keys (["signer", "alg", "value", "nonce"].map Key.named) = true)
    (scalars :
      check.scalar (.int 2) = true ∧
        check.scalar (.str (Text.ofString "ed25519")) = true ∧
        ∀ data, check.scalar (.bytes data) = true) :
    (Obj.dict (signedEnvelope msg name signature own)).passes check =
        true ↔
      msg.passes check = true ∧ name.passes check = true := by
  have two : (Obj.int 2).passes check = true := scalars.1
  have algorithm :
      (Obj.str (Text.ofString "ed25519")).passes check = true :=
    scalars.2.1
  have bytes : ∀ data, (Obj.bytes data).passes check = true := scalars.2.2
  have block :
      (Obj.dict (signatureEntries name signature own)).passes check =
          true ↔
        name.passes check = true := by
    rw [signatureEntries, Obj.passes_dict]
    refine
      (and_iff_right (sizes 4 (by decide))).trans
        ((and_iff_right inner).trans ?_)
    simp only [List.forall_mem_cons, List.not_mem_nil, false_implies,
      implies_true, and_true, algorithm, bytes]
  rw [signedEnvelope, Obj.passes_dict]
  refine
    (and_iff_right (sizes 3 (by decide))).trans
      ((and_iff_right keys).trans ?_)
  simp only [List.forall_mem_cons, List.not_mem_nil, false_implies,
    implies_true, and_true, two, block, true_and]

theorem listed_signedContent :
    (signedContent msg signer nonce).listed =
      signedContent msg.listed signer nonce.listed := by
  simp [signedContent, Obj.listed, Obj.rebuild_dict, Obj.rebuild]

theorem listed_signedEnvelope
    {name : Obj} (scalar : name.isScalar = true) (signature own : Bytes) :
    (Obj.dict (signedEnvelope msg name signature own)).listed =
      .dict (signedEnvelope msg.listed name signature own) := by
  have same : name.rebuild .float = name := Obj.listed_scalar scalar
  simp [signedEnvelope, signatureEntries, Obj.listed, Obj.rebuild,
    Obj.rebuildEntries, same]

/-- The block that `verify` reads from such an envelope. -/
theorem readBlock_signedEnvelope
    (str : Obj → Text) (name : Obj) (signature own : Bytes) :
    readBlock str (signedEnvelope msg name signature own) =
      some
        { signer := str name
          nonce := .bytes own
          signature := .bytes signature
          msg := msg } := by
  have block :
      entryOr (signedEnvelope msg name signature own) "sig" (.dict []) =
        .dict (signatureEntries name signature own) := by
    simp [signedEnvelope, entryOr_cons]
  have signer :
      entryOr (signatureEntries name signature own) "signer" (.str []) =
        name := by
    simp [signatureEntries, entryOr_cons]
  have once :
      entryOr (signatureEntries name signature own) "nonce" (.bytes []) =
        .bytes own := by
    simp [signatureEntries, entryOr_cons]
  have value :
      entryOr (signatureEntries name signature own) "value" (.bytes []) =
        .bytes signature := by
    simp [signatureEntries, entryOr_cons]
  have inside :
      entryOr (signedEnvelope msg name signature own) "msg" (.dict []) =
        msg := by
    simp [signedEnvelope, entryOr_cons]
  simp only [readBlock, block, signer, once, value, inside]

end Contents

/-! ## The round trip -/

section RoundTrip

variable {libraries : SigningLibraries}
  {sender receiver : MessageSigner libraries}
  {message : Message libraries.python} {nonce : Bytes}
  {key : libraries.ed25519.SigningKey}

/-- The record that signing a message leaves. -/
def recordOf
    (message : Message libraries.python) (nonce : Bytes)
    (key : libraries.ed25519.SigningKey) : SignedRecord libraries where
  verifyKey := libraries.ed25519.verifyKey key
  msg := message.fields.toDict
  signer := message.sender
  nonce := nonce
  distinct := toDict_distinct message

/-- What `sign` returns for a sender with an identity. -/
theorem sign_of_identity
    (identity : sender.identities message.sender = some key)
    {signedBytes : Bytes}
    (packed :
      libraries.msgpack.packb (recordOf message nonce key).content =
        some signedBytes) :
    sender.sign nonce message.fields.toDict =
      .ok
        (signedEnvelope (.dict message.fields.toDict) (.str message.sender)
          (libraries.ed25519.sign key signedBytes) nonce) := by
  have named :
      libraries.str (entryOr message.fields.toDict "sender" (.str [])) =
        message.sender := by
    have found :
        entryOr message.fields.toDict "sender" (.str []) =
          .str message.sender := by
      simp [Fields.toDict, entryOr_cons, Message.fields]
    rw [found, libraries.str_str]
  have content :
      libraries.msgpack.packb
          (signedContent (.dict message.fields.toDict) message.sender
            (.bytes nonce)) =
        some signedBytes :=
    packed
  have signature :
      sender.signature message.sender signedBytes =
        libraries.ed25519.sign key signedBytes := by
    simp only [MessageSigner.signature, identity]
  have signed :
      (libraries.ed25519.sign key signedBytes).isEmpty = false := by
    simpa using libraries.ed25519.sign_ne_nil key signedBytes
  simp only [MessageSigner.sign, named, content, signature, signed,
    Bool.false_and, Bool.false_eq_true, if_false]

/-- The receiver packs the decoded content to the signed bytes. -/
theorem packb_decoded
    (signer : Text) (msg : Obj) (own : Bytes) :
    libraries.msgpack.packb (signedContent msg.listed signer (.bytes own)) =
      libraries.msgpack.packb (signedContent msg signer (.bytes own)) := by
  rw [← libraries.msgpack.packb_listed (signedContent msg signer _),
    listed_signedContent]
  rfl

/--
An envelope verifies under a trusted key and a fresh nonce if its signature is
the one of its message, whatever object names the sender.
-/
theorem verify_signedEnvelope
    {nonces : NonceAnswers} (unseen : nonces (.bytes nonce) = some true)
    (trusts :
      receiver.registry message.sender =
        some (libraries.ed25519.verifyKey key))
    {name : Obj} (named : libraries.str name = message.sender)
    {signedBytes : Bytes}
    (packed :
      libraries.msgpack.packb (recordOf message nonce key).content =
        some signedBytes) :
    receiver.verify nonces
        (signedEnvelope (Obj.dict message.fields.toDict).listed name
          (libraries.ed25519.sign key signedBytes) nonce) =
      .ok (Obj.dict message.fields.toDict).listed := by
  have again :
      libraries.msgpack.packb
          (signedContent (Obj.dict message.fields.toDict).listed
            message.sender (.bytes nonce)) =
        some signedBytes := by
    rw [packb_decoded]
    exact packed
  have signed :
      (Obj.bytes (libraries.ed25519.sign key signedBytes)).truthy = true := by
    simpa [Obj.truthy] using libraries.ed25519.sign_ne_nil key signedBytes
  simp only [MessageSigner.verify, readBlock_signedEnvelope, named, unseen,
    MessageSigner.checkSignature, trusts, signed, again,
    libraries.ed25519.verify_sign, Bool.not_true, Bool.false_eq_true,
    if_false, if_true]

theorem openEnvelope_signedEnvelope
    {nonces : NonceAnswers} (unseen : nonces (.bytes nonce) = some true)
    (trusts :
      receiver.registry message.sender =
        some (libraries.ed25519.verifyKey key))
    {name : Obj} (named : libraries.str name = message.sender)
    {signedBytes : Bytes}
    (packed :
      libraries.msgpack.packb (recordOf message nonce key).content =
        some signedBytes) :
    receiver.openEnvelope nonces
        (signedEnvelope (Obj.dict message.fields.toDict).listed name
          (libraries.ed25519.sign key signedBytes) nonce) =
      .ok (Obj.dict message.fields.toDict).listed := by
  have version :
      entryOr
          (signedEnvelope (Obj.dict message.fields.toDict).listed name
            (libraries.ed25519.sign key signedBytes) nonce)
          "v" .none =
        .int 2 := by
    simp [signedEnvelope, entryOr_cons]
  have two : (Obj.int 2).isTwo = true := rfl
  have block :
      ((signedEnvelope (Obj.dict message.fields.toDict).listed name
        (libraries.ed25519.sign key signedBytes)
        nonce).lookup (.named "sig")).isSome = true := by
    rw [List.lookup_isSome_iff]
    exact
      ⟨(.named "sig",
          .dict
            (signatureEntries name
              (libraries.ed25519.sign key signedBytes) nonce)),
        by simp [signedEnvelope], by simp⟩
  simp only [MessageSigner.openEnvelope, version, two, block, if_true,
    verify_signedEnvelope unseen trusts named packed]

theorem sender_encodable
    (valid : (Obj.dict message.fields.toDict).passes encodable = true) :
    Text.encodable message.sender = true := by
  have parts :=
    (passes_toDict_iff rfl (toDict_keys_encodable _) rfl).mp valid
  have member : message.fields.sender ∈ message.fields.envelope := by
    simp [Fields.envelope]
  exact parts.1 _ member

theorem named_keys_encodable (names : List String) :
    encodable.keys (names.map Key.named) = true := by
  refine List.all_eq_true.mpr ?_
  intro key member
  rcases List.mem_map.mp member with ⟨name, -, rfl⟩
  exact Text.encodable_ofString name

/-- The signed content of an encodable message can be packed. -/
theorem packb_content
    (valid : (Obj.dict message.fields.toDict).passes encodable = true)
    (holds :
      libraries.msgpack.holds (recordOf message nonce key).content = true) :
    ∃ signedBytes,
      libraries.msgpack.packb (recordOf message nonce key).content =
        some signedBytes := by
  have content :
      (recordOf message nonce key).content.passes encodable = true :=
    (passes_signedContent_iff rfl (named_keys_encodable _) rfl).mpr
      ⟨valid, sender_encodable valid, rfl⟩
  have packed :=
    libraries.msgpack.packb_isSome (recordOf message nonce key).content
  rw [content, holds] at packed
  exact Option.isSome_iff_exists.mp packed

/-- The envelope of an encodable message is packed and read back. -/
theorem unpackb_envelope
    (valid : (Obj.dict message.fields.toDict).passes encodable = true)
    (strict : message.fields.payload.passes strictKeys = true)
    (name : Obj) (scalar : name.isScalar = true)
    (named : name.scalarEncodable = true) (signature : Bytes)
    (holds :
      libraries.msgpack.holds
          (.dict
            (signedEnvelope (.dict message.fields.toDict) name signature
              nonce)) =
        true) :
    ∃ data,
      libraries.msgpack.packb
          (.dict
            (signedEnvelope (.dict message.fields.toDict) name signature
              nonce)) =
          some data ∧
        libraries.msgpack.unpackb data =
          some
            (.dict
              (signedEnvelope (Obj.dict message.fields.toDict).listed name
                signature nonce)) := by
  have whole :
      (Obj.dict
        (signedEnvelope (.dict message.fields.toDict) name signature
          nonce)).passes encodable = true :=
    (passes_signedEnvelope_iff (fun _ _ => rfl) (named_keys_encodable _)
      (named_keys_encodable _)
      ⟨rfl, Text.encodable_ofString _, fun _ => rfl⟩).mpr
      ⟨valid, (Obj.passes_scalar scalar).trans named⟩
  have packed :=
    libraries.msgpack.packb_isSome
      (.dict
        (signedEnvelope (.dict message.fields.toDict) name signature nonce))
  rw [whole, holds] at packed
  rcases Option.isSome_iff_exists.mp packed with ⟨data, found⟩
  have apart :
      (Obj.dict
        (signedEnvelope (.dict message.fields.toDict) name signature
          nonce)).passes distinctKeys = true :=
    (passes_signedEnvelope_iff (fun _ _ => rfl) (by decide) (by decide)
      ⟨rfl, rfl, fun _ => rfl⟩).mpr
      ⟨toDict_distinct message, Obj.passes_scalar scalar⟩
  have keys :
      (Obj.dict
        (signedEnvelope (.dict message.fields.toDict) name signature
          nonce)).passes strictKeys = true :=
    (passes_signedEnvelope_iff (fun _ _ => rfl) rfl rfl
      ⟨rfl, rfl, fun _ => rfl⟩).mpr
      ⟨(toDict_strictKeys_iff message).mpr strict,
        Obj.passes_scalar scalar⟩
  have read := libraries.msgpack.unpackb_packb _ _ apart found
  rw [if_pos keys, listed_signedEnvelope scalar] at read
  exact ⟨data, found, read⟩

theorem deserialize_of_opened
    {nonces : NonceAnswers} {data : Bytes} {raw : List (Key × Obj)}
    {msg : Obj} {fields : Fields}
    (unpacked : libraries.msgpack.unpackb data = some (.dict raw))
    (opened : receiver.openEnvelope nonces raw = .ok msg)
    (built : Fields.fromDict libraries.python msg = some fields) :
    receiver.deserialize nonces data = .ok fields := by
  simp only [MessageSigner.deserialize, unpacked, opened, built]

/-- The constructor accepts the message that has been read back. -/
theorem fromDict_listed
    (valid : (Obj.dict message.fields.toDict).passes encodable = true)
    (strict : message.fields.payload.passes strictKeys = true) :
    Fields.fromDict libraries.python
        (Obj.dict message.fields.toDict).listed =
      some (message.fields.map Obj.listed) := by
  have parts :=
    (passes_toDict_iff rfl (toDict_keys_encodable _) rfl).mp valid
  have payload :
      (message.fields.map Obj.listed).payload = message.jsonPayload :=
    (jsonPayload_eq_listed parts.2 strict).symm
  have listed :
      (Obj.dict message.fields.toDict).listed =
        .dict (message.fields.map Obj.listed).toDict :=
    rebuild_toDict message.fields
  rw [listed, fromDict_toDict, payload,
    if_pos (jsonPayload_accepted message)]

end RoundTrip

/-! ## Tampering -/

section Tampering

variable {libraries : SigningLibraries}
  {receiver : MessageSigner libraries}

/-- Under strict verification only a verified signature is accepted. -/
theorem checkSignature_ok
    {block : ReadBlock} {msg : Obj}
    (strict : receiver.config.strict = true)
    (accepted : receiver.checkSignature block = .ok msg) :
    ∃ verifyKey signedBytes,
      libraries.msgpack.packb
          (signedContent block.msg block.signer block.nonce) =
          some signedBytes ∧
        libraries.ed25519.verify verifyKey signedBytes block.signature =
          true := by
  unfold MessageSigner.checkSignature at accepted
  split at accepted
  · rw [if_pos strict] at accepted
    cases accepted
  · rename_i verifyKey registered
    split at accepted
    · cases accepted
    · split at accepted
      · cases accepted
      · rename_i signedBytes packed
        split at accepted
        · rename_i valid
          exact ⟨verifyKey, signedBytes, packed, valid⟩
        · cases accepted

/-- What strict acceptance of some bytes means. -/
theorem deserialize_ok
    {nonces : NonceAnswers} {data : Bytes} {fields : Fields}
    (strict : receiver.config.strict = true)
    (accepted : receiver.deserialize nonces data = .ok fields) :
    ∃ raw block msg,
      libraries.msgpack.unpackb data = some (.dict raw) ∧
        readBlock libraries.str raw = some block ∧
        receiver.checkSignature block = .ok msg := by
  unfold MessageSigner.deserialize at accepted
  split at accepted
  · cases accepted
  · rename_i raw decoded
    split at accepted
    · cases accepted
    · rename_i msg opened
      unfold MessageSigner.openEnvelope at opened
      split at opened
      · split at opened
        · unfold MessageSigner.verify at opened
          split at opened
          · cases opened
          · rename_i block read
            split at opened
            · cases opened
            · cases opened
            · exact ⟨raw, block, msg, decoded, read, opened⟩
        · cases opened
      · cases opened
  · cases accepted

/-- The parts of a decoded dictionary are decoded. -/
theorem decoded_entryOr
    {entries : List (Key × Obj)}
    (plain : (Obj.dict entries).passes decoded = true)
    (name : String) {default : Obj}
    (usual : default.passes decoded = true) :
    (entryOr entries name default).passes decoded = true := by
  have parts := (Obj.passes_dict.mp plain).2.2
  unfold entryOr
  cases found : entries.lookup (.named name) with
  | none => exact usual
  | some value =>
      rcases List.lookup_eq_some_iff.mp found with ⟨before, after, rfl, -⟩
      exact parts (.named name, value) (by simp)

/-- What `verify` packs again has been decoded. -/
theorem decoded_content
    {raw : List (Key × Obj)} {block : ReadBlock} {str : Obj → Text}
    (plain : (Obj.dict raw).passes decoded = true)
    (read : readBlock str raw = some block) :
    (signedContent block.msg block.signer block.nonce).passes decoded =
      true := by
  unfold readBlock at read
  split at read
  · rename_i sig found
    have inner : (Obj.dict sig).passes decoded = true := by
      rw [← found]
      exact decoded_entryOr plain "sig" rfl
    cases read
    exact
      (passes_signedContent_iff rfl (by decide) rfl).mpr
        ⟨decoded_entryOr plain "msg" rfl, rfl,
          decoded_entryOr inner "nonce" rfl⟩
  · cases read

/-- Packing is injective on what has been decoded. -/
theorem content_eq_of_packb
    {content : Obj} (plain : content.passes decoded = true)
    {record : SignedRecord libraries} {data : Bytes}
    (packed : libraries.msgpack.packb content = some data)
    (issued : libraries.msgpack.packb record.content = some data) :
    content = record.content.listed := by
  have apart : record.content.passes distinctKeys = true :=
    (passes_signedContent_iff rfl (by decide) rfl).mpr
      ⟨record.distinct, rfl, rfl⟩
  have first :=
    libraries.msgpack.unpackb_packb _ _
      (Obj.distinctKeys_of_decoded plain) packed
  have second := libraries.msgpack.unpackb_packb _ _ apart issued
  rw [if_pos (Obj.strictKeys_of_decoded plain),
    Obj.listed_of_decoded plain] at first
  rw [first] at second
  split at second
  · exact Option.some.inj second
  · cases second

/-- An accepted envelope is one that has been signed. -/
theorem reads_of_accepted
    {known : Obj → Prop} {issued : List (SignedRecord libraries)}
    (unforgeable : Unforgeable known issued)
    (strict : receiver.config.strict = true)
    {nonces : NonceAnswers} {data : Bytes} {fields : Fields}
    (presented :
      ∀ block, blockOf libraries data = some block → known block.signature)
    (accepted : receiver.deserialize nonces data = .ok fields) :
    ∃ block record,
      blockOf libraries data = some block ∧ record ∈ issued ∧
        block.Reads record := by
  rcases deserialize_ok strict accepted with
    ⟨raw, block, msg, unpacked, read, checked⟩
  rcases checkSignature_ok strict checked with
    ⟨verifyKey, signedBytes, packed, valid⟩
  have found : blockOf libraries data = some block := by
    simp only [blockOf, unpacked, read]
  rcases unforgeable _ _ _ (presented block found) valid with
    ⟨record, member, -, signed⟩
  have plain :=
    decoded_content (libraries.msgpack.unpackb_decoded _ _ unpacked) read
  have same := content_eq_of_packb plain packed signed
  rw [SignedRecord.content, listed_signedContent] at same
  simp only [signedContent, Obj.dict.injEq, List.cons.injEq, Prod.mk.injEq,
    Obj.str.injEq, true_and, and_true] at same
  exact ⟨block, record, found, member, same.1, same.2.1, same.2.2⟩

end Tampering

/--
A message that can be packed comes back with its tuples as lists, verified
over the very bytes that were signed.  Under strict verification, bytes that
differ from everything that was signed in the message, in the nonce or in the
text of the signer are rejected.
-/
theorem signed_message_comes_back_and_others_rejected
    {libraries : SigningLibraries}
    (sender receiver : MessageSigner libraries)
    (message : Message libraries.python) (nonce : Bytes)
    (key : libraries.ed25519.SigningKey)
    (identity : sender.identities message.sender = some key)
    (trusts :
      receiver.registry message.sender =
        some (libraries.ed25519.verifyKey key))
    (valid : (Obj.dict message.fields.toDict).passes encodable = true)
    (strictPayload : message.fields.payload.passes strictKeys = true)
    (holdsContent :
      libraries.msgpack.holds (recordOf message nonce key).content = true)
    (holdsEnvelope :
      ∀ signedBytes,
        libraries.msgpack.packb (recordOf message nonce key).content =
            some signedBytes →
          libraries.msgpack.holds
              (.dict
                (signedEnvelope (.dict message.fields.toDict)
                  (.str message.sender)
                  (libraries.ed25519.sign key signedBytes) nonce)) =
            true)
    (known : Obj → Prop) (issued : List (SignedRecord libraries))
    (unforgeable : Unforgeable known issued) :
    (∀ nonces : NonceAnswers, nonces (.bytes nonce) = some true →
      ∃ data block,
        sender.serialize nonce message.fields = .ok data ∧
          blockOf libraries data = some block ∧
          block.Reads (recordOf message nonce key) ∧
          libraries.msgpack.packb
              (signedContent block.msg block.signer block.nonce) =
            libraries.msgpack.packb (recordOf message nonce key).content ∧
          receiver.deserialize nonces data =
            .ok (message.fields.map Obj.listed)) ∧
      (receiver.config.strict = true →
        ∀ (nonces : NonceAnswers) (data : Bytes),
          (∀ block, blockOf libraries data = some block →
            known block.signature ∧
              ∀ record ∈ issued, ¬ block.Reads record) →
            ∃ rejection,
              receiver.deserialize nonces data = .error rejection) := by
  constructor
  · intro nonces unseen
    rcases packb_content valid holdsContent with ⟨signedBytes, packed⟩
    rcases
        unpackb_envelope valid strictPayload (.str message.sender) rfl
          (sender_encodable valid)
          (libraries.ed25519.sign key signedBytes)
          (holdsEnvelope signedBytes packed) with
      ⟨data, whole, unpacked⟩
    have named : libraries.str (.str message.sender) = message.sender :=
      libraries.str_str message.sender
    refine
      ⟨data,
        { signer := message.sender
          nonce := .bytes nonce
          signature := .bytes (libraries.ed25519.sign key signedBytes)
          msg := (Obj.dict message.fields.toDict).listed },
        ?_, ?_, ⟨rfl, rfl, rfl⟩, ?_, ?_⟩
    · simp only [MessageSigner.serialize, sign_of_identity identity packed,
        whole]
    · simp only [blockOf, unpacked, readBlock_signedEnvelope, named]
    · exact packb_decoded message.sender (.dict message.fields.toDict) nonce
    · exact
        deserialize_of_opened unpacked
          (openEnvelope_signedEnvelope unseen trusts named packed)
          (fromDict_listed valid strictPayload)
  · intro strict nonces data differs
    cases accepted : receiver.deserialize nonces data with
    | error rejection => exact ⟨rejection, rfl⟩
    | ok fields =>
        rcases
            reads_of_accepted unforgeable strict
              (fun block found => (differs block found).1) accepted with
          ⟨block, record, found, member, reads⟩
        exact absurd reads ((differs block found).2 record member)

/-! ## A concrete instance -/

/-- An ideal signature: the signed bytes behind the key. -/
def sealing : Ed25519 where
  SigningKey := UInt8
  VerifyKey := UInt8
  sign key data := key :: data
  verifyKey key := key
  verify key data signature :=
    match signature with
    | .bytes text => text == key :: data
    | _ => false
  sign_ne_nil := by
    intro key data empty
    cases empty
  verify_sign := by
    intro key data
    exact beq_self_eq_true _

/-- `str()` on texts and integers. -/
def plainStr : Obj → Text
  | .str text => text
  | .int value => Text.ofString (toString value)
  | _ => Text.ofString "<object>"

/-- Libraries whose signatures hold what they sign. -/
def sealingLibraries : SigningLibraries where
  msgpack := msgpackFormat
  ed25519 := sealing
  python := plainPython
  str := plainStr
  str_str _ := rfl

/-- A signer that holds and trusts the key of one agent. -/
def signerOf (agent : Text) (key : UInt8) :
    MessageSigner sealingLibraries where
  identities name := if name = agent then some key else none
  registry name := if name = agent then some key else none
  config := { requireVerification := true, allowUnsigned := false }

/-- The signature of a record is all that an outsider knows. -/
theorem sealing_unforgeable
    (record : SignedRecord sealingLibraries) {signedBytes : Bytes}
    (packed : msgpackFormat.packb record.content = some signedBytes) :
    Unforgeable
      (fun signature =>
        signature = .bytes (sealing.sign record.verifyKey signedBytes))
      [record] := by
  intro key data signature same valid
  rw [same] at valid
  have text :
      @List.cons UInt8 record.verifyKey signedBytes =
        @List.cons UInt8 key data :=
    eq_of_beq (α := List UInt8) valid
  rcases List.cons.inj text with ⟨keys, bytes⟩
  exact ⟨record, List.mem_singleton_self _, keys, bytes ▸ packed⟩

/-- What the format packs. -/
theorem eq_pack_of_packb
    {object : Obj} {data : Bytes}
    (packed : msgpackFormat.packb object = some data) :
    data = pack object := by
  simp only [msgpackFormat] at packed
  split at packed
  · exact (Option.some.inj packed).symm
  · cases packed

/-- A payload with a pair. -/
def pairPayload : List (Key × Obj) :=
  [(.named "range", .tuple [.int 1, .int 300])]

theorem pairPayload_distinct :
    (Obj.dict pairPayload).passes distinctKeys = true := by
  decide

theorem pairPayload_accepted :
    (dumps plainPython.repr (.dict pairPayload)).isSome = true := by
  decide +kernel

/-- A pair in a payload. -/
def pairReport : Message sealingLibraries.python :=
  reportOf pairPayload pairPayload_distinct pairPayload_accepted

/-- The payload after somebody has changed a number in it. -/
def widerPayload : List (Key × Obj) :=
  [(.named "range", .tuple [.int 1, .int 301])]

theorem widerPayload_distinct :
    (Obj.dict widerPayload).passes distinctKeys = true := by
  decide

theorem widerPayload_accepted :
    (dumps plainPython.repr (.dict widerPayload)).isSome = true := by
  decide +kernel

/-- The report with the changed payload. -/
def widerReport : Message sealingLibraries.python :=
  reportOf widerPayload widerPayload_distinct widerPayload_accepted

/-- The signature of the report with the pair. -/
def pairSignature : Bytes :=
  sealing.sign (7 : UInt8)
    (pack (recordOf pairReport [1, 2] (7 : UInt8)).content)

/-- The pair comes back; under its signature another payload is rejected. -/
theorem pair_comes_back_as_list :
    (∃ data,
      (signerOf (Text.ofString "clerk") 7).serialize [1, 2]
          pairReport.fields =
          .ok data ∧
        (signerOf (Text.ofString "clerk") 7).deserialize
            (fun _ => some true) data =
          .ok (pairReport.fields.map Obj.listed)) ∧
      ∃ data,
        msgpackFormat.packb
            (.dict
              (signedEnvelope (.dict widerReport.fields.toDict)
                (.str widerReport.sender) pairSignature [1, 2])) =
            some data ∧
          ∀ nonces, ∃ rejection,
            (signerOf (Text.ofString "clerk") 7).deserialize nonces data =
              .error rejection := by
  have holdsEnvelope :
      ∀ signedBytes,
        msgpackFormat.packb
            (recordOf pairReport [1, 2] (7 : UInt8)).content =
            some signedBytes →
          msgpackFormat.holds
              (.dict
                (signedEnvelope (.dict pairReport.fields.toDict)
                  (.str pairReport.sender)
                  (sealing.sign (7 : UInt8) signedBytes) [1, 2])) =
            true := by
    intro signedBytes packed
    rw [eq_pack_of_packb packed]
    decide +kernel
  have packed :
      msgpackFormat.packb
          (recordOf pairReport [1, 2] (7 : UInt8)).content =
        some (pack (recordOf pairReport [1, 2] (7 : UInt8)).content) := by
    have ready :
        ((recordOf pairReport [1, 2] (7 : UInt8)).content.passes encodable &&
          (recordOf pairReport [1, 2] (7 : UInt8)).content.passes sized) =
            true := by
      decide +kernel
    simp only [msgpackFormat, ready, if_true]
  have outcome :=
    signed_message_comes_back_and_others_rejected
      (signerOf (Text.ofString "clerk") 7)
      (signerOf (Text.ofString "clerk") 7) pairReport [1, 2] (7 : UInt8)
      rfl rfl (by decide +kernel) (by decide +kernel) (by decide +kernel)
      holdsEnvelope _ _ (sealing_unforgeable _ packed)
  constructor
  · rcases outcome.1 (fun _ => some true) rfl with
      ⟨data, block, sent, -, -, -, received⟩
    exact ⟨data, sent, received⟩
  · have valid :
        (Obj.dict widerReport.fields.toDict).passes encodable = true := by
      decide +kernel
    have holds :
        sealingLibraries.msgpack.holds
            (.dict
              (signedEnvelope (.dict widerReport.fields.toDict)
                (.str widerReport.sender) pairSignature [1, 2])) = true := by
      decide +kernel
    rcases
        unpackb_envelope valid (by decide +kernel) (.str widerReport.sender)
          rfl (sender_encodable valid) pairSignature holds with
      ⟨data, whole, unpacked⟩
    refine ⟨data, whole, fun nonces => outcome.2 rfl nonces data ?_⟩
    intro block found
    simp only [blockOf, unpacked, readBlock_signedEnvelope,
      Option.some.injEq] at found
    subst found
    refine ⟨rfl, fun record issued reads => ?_⟩
    cases List.mem_singleton.mp issued
    have apart :
        pack (Obj.dict widerReport.fields.toDict).listed ≠
          pack (Obj.dict pairReport.fields.toDict).listed := by
      decide +kernel
    exact apart (congrArg pack reads.1)

/-- An agent whose name is a number. -/
def numberedReport : Message sealingLibraries.python :=
  { pairReport with sender := Text.ofString "1" }

/-- The signature that `sign` computes for it. -/
def numberedSignature : Bytes :=
  sealing.sign (7 : UInt8)
    (pack (recordOf numberedReport [1, 2] (7 : UInt8)).content)

/--
An envelope that names its signer `1` in place of `"1"` is accepted under
strict verification.
-/
theorem number_accepted_as_signer :
    (signerOf (Text.ofString "1") 7).config.strict = true ∧
      (signerOf (Text.ofString "1") 7).sign [1, 2]
          numberedReport.fields.toDict =
        .ok
          (signedEnvelope (.dict numberedReport.fields.toDict)
            (.str (Text.ofString "1")) numberedSignature [1, 2]) ∧
      Obj.int 1 ≠ .str (Text.ofString "1") ∧
      ∃ data,
        msgpackFormat.packb
            (.dict
              (signedEnvelope (.dict numberedReport.fields.toDict) (.int 1)
                numberedSignature [1, 2])) =
            some data ∧
          (signerOf (Text.ofString "1") 7).deserialize (fun _ => some true)
              data =
            .ok (numberedReport.fields.map Obj.listed) := by
  have packed :
      msgpackFormat.packb
          (recordOf numberedReport [1, 2] (7 : UInt8)).content =
        some
          (pack (recordOf numberedReport [1, 2] (7 : UInt8)).content) := by
    have ready :
        ((recordOf numberedReport [1, 2] (7 : UInt8)).content.passes
            encodable &&
          (recordOf numberedReport [1, 2] (7 : UInt8)).content.passes
            sized) = true := by
      decide +kernel
    simp only [msgpackFormat, ready, if_true]
  have valid :
      (Obj.dict numberedReport.fields.toDict).passes encodable = true := by
    decide +kernel
  have strict :
      numberedReport.fields.payload.passes strictKeys = true := by
    decide +kernel
  have holds :
      sealingLibraries.msgpack.holds
          (.dict
            (signedEnvelope (.dict numberedReport.fields.toDict) (.int 1)
              numberedSignature [1, 2])) = true := by
    decide +kernel
  have named :
      sealingLibraries.str (.int 1) = numberedReport.sender := by
    decide +kernel
  have trusts :
      (signerOf (Text.ofString "1") 7).registry numberedReport.sender =
        some (sealingLibraries.ed25519.verifyKey (7 : UInt8)) :=
    rfl
  rcases
      unpackb_envelope valid strict (.int 1) rfl rfl numberedSignature
        holds with
    ⟨data, whole, unpacked⟩
  refine ⟨rfl, sign_of_identity rfl packed, by simp, data, whole, ?_⟩
  exact
    deserialize_of_opened unpacked
      (openEnvelope_signedEnvelope rfl trusts named packed)
      (fromDict_listed valid strict)

end Civitas.Wire
