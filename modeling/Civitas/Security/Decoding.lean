import Civitas.Security.Signing

/-!
# The outcomes of decoding

`deserialize` of the three serializers: `MsgpackSerializer` and
`JsonSerializer` of `serializer.py`, whose decoding and reconstruction stand in
one `try` block, and `SigningSerializer` of `security/signing.py`, which reads
the envelope between two of them.

`Message` declares the types of its fields and `from_dict` checks none of
them, so a message is returned with whatever values the bytes decode to.
-/

namespace Civitas.Security

open Civitas.BoundedCache
open Civitas.PyValue

/-! ## The three decoders -/

/-- The exceptions that callers of `deserialize` distinguish. -/
inductive DecodingError where
  | deserializationError
  | signatureError
  | undocumented
deriving DecidableEq

/-- The class of an exception of `MessageSigner.verify`. -/
def VerifyError.raised : VerifyError → DecodingError
  | .replayed _ | .unknownSigner _ | .missingSignature _
  | .badSignature _ => .signatureError
  | .attributeError | .typeError => .undocumented

/-- The class of an exception of `SigningSerializer.deserialize`. -/
def DeserializeError.raised : DeserializeError → DecodingError
  | .malformed | .notAMessage => .deserializationError
  | .noSignatureBlock | .unsignedRejected => .signatureError
  | .signature error => error.raised
  | .attributeError => .undocumented

/-- A serializer, with the nonces a verifying one has seen. -/
inductive Decoder where
  | msgpack (libraries : Libraries)
  | json (libraries : Libraries) (loads : Bytes → Option Value)
  | signing (signer : MessageSigner) (cache : NonceCache)

/-- Decoding and reconstruction in one `try` block. -/
def readMessage
    (libraries : Libraries) (unpack : Bytes → Option Value) (data : Bytes) :
    Except DecodingError MessageFields :=
  match unpack data with
  | none => .error .deserializationError
  | some raw =>
      match MessageFields.fromDict libraries raw with
      | none => .error .deserializationError
      | some message => .ok message

/-- `deserialize`: the message, or the class of the exception. -/
def Decoder.deserialize
    (decoder : Decoder) (data : Bytes) : Except DecodingError MessageFields :=
  match decoder with
  | .msgpack libraries => readMessage libraries libraries.unpackb data
  | .json libraries loads => readMessage libraries loads data
  | .signing signer cache =>
      match (signer.deserialize cache data).1 with
      | .ok message => .ok message
      | .error error => .error error.raised

/-! ## Declared types -/

/-- `isinstance(value, str)`. -/
def isText : Value → Bool
  | .str _ => true
  | _ => false

/-- `isinstance(value, dict)`. -/
def isMapping : Value → Bool
  | .dict _ => true
  | _ => false

/-- `isinstance(value, int)`; a truth value is an integer. -/
def isInteger : Value → Bool
  | .int _ | .bool _ => true
  | _ => false

/-- The fields that senders and handlers rely on have their declared types. -/
structure MessageFields.Declared (message : MessageFields) : Prop where
  type : isText message.type = true
  sender : isText message.sender = true
  recipient : isText message.recipient = true
  payload : isMapping message.payload = true
  priority : isInteger message.priority = true
  attempt : isInteger message.attempt = true

/-- A message with declared types, or one of the two documented exceptions. -/
def Documented : Except DecodingError MessageFields → Prop
  | .ok message => message.Declared
  | .error raised => raised ≠ .undocumented

/-! ## The condition on the bytes -/

/-- The entries that a message is made of have the declared types. -/
structure DeclaredEntries (entries : Dict) : Prop where
  type : isText (field entries "type" (.str "message")) = true
  sender : isText (field entries "sender" (.str "")) = true
  recipient : isText (field entries "recipient" (.str "")) = true
  payload : isMapping (field entries "payload" (.dict [])) = true
  priority : isInteger (field entries "priority" (.int 0)) = true
  attempt : isInteger (field entries "attempt" (.int 0)) = true

/-- If a value is a message at all, its entries have the declared types. -/
def DeclaredMessage (raw : Value) : Prop :=
  ∀ entries, raw = .dict entries →
    (field entries "payload" (.dict [])).jsonable = true →
      DeclaredEntries entries

/-- The envelope is verified: it has version two and a signature block. -/
def isSigned (raw : Dict) : Bool :=
  isVersionTwo raw && (field? raw "sig").isSome

/-- The message that an envelope carries. -/
def enclosed (raw : Dict) : Value :=
  if isVersionTwo raw then
    if (field? raw "sig").isSome then field raw "msg" (.dict [])
    else field raw "msg" (.dict raw)
  else .dict raw

/-- The signature validates, or the configuration can do without one. -/
def MessageSigner.Believes
    (signer : MessageSigner) (block : SignatureBlock) : Prop :=
  signer.Validates block ∨
    signer.config.strict = false ∧
      (signer.registry block.signer = none ∨
        block.signature.truthy = false)

/-- Where the signature is checked, its content can be packed again. -/
def MessageSigner.Repacks
    (signer : MessageSigner) (block : SignatureBlock) : Prop :=
  (signer.registry block.signer).isSome = true →
    block.signature.truthy = true →
      (signer.libraries.packb (signedContent block)).isSome = true

/-- What `verify` reads of an envelope, with the key of its nonce. -/
def MessageSigner.Reads
    (signer : MessageSigner) (raw : Dict)
    (block : SignatureBlock) (nonce : Key) : Prop :=
  signatureBlock signer.libraries.str raw = some block ∧
    block.nonce.key? = some nonce

/--
The signature block of a signed envelope is a dictionary, its nonce can be
hashed and, unless it is replayed, its content can be packed again.
-/
def MessageSigner.Readable
    (signer : MessageSigner) (cache : NonceCache) (raw : Dict) : Prop :=
  isSigned raw = true →
    ∃ block nonce, signer.Reads raw block nonce ∧
      (¬ cache.Contains nonce → signer.Repacks block)

/-- The policy lets the envelope pass. -/
def MessageSigner.LetsPass
    (signer : MessageSigner) (cache : NonceCache) (raw : Dict) : Prop :=
  if isSigned raw then
    ∃ block nonce, signer.Reads raw block nonce ∧
      ¬ cache.Contains nonce ∧ signer.Believes block
  else signer.config.strict = false

/--
What the bytes decode to is a message with declared types or none at all; for
the signing serializer it is a readable envelope, and this holds of the
message in it if the policy lets it pass.
-/
def Decoder.Declares (decoder : Decoder) (data : Bytes) : Prop :=
  match decoder with
  | .msgpack libraries =>
      ∀ raw, libraries.unpackb data = some raw → DeclaredMessage raw
  | .json _ loads =>
      ∀ raw, loads data = some raw → DeclaredMessage raw
  | .signing signer cache =>
      ∀ raw, signer.libraries.unpackb data = some raw →
        ∃ entries, raw = .dict entries ∧ signer.Readable cache entries ∧
          (signer.LetsPass cache entries →
            DeclaredMessage (enclosed entries))

/-! ## The fields of a message -/

theorem MessageFields.fromDict_eq_some
    {libraries : Libraries} {raw : Value} {message : MessageFields}
    (read : MessageFields.fromDict libraries raw = some message) :
    ∃ entries, raw = .dict entries ∧
      (field entries "payload" (.dict [])).jsonable = true ∧
        (message.Declared ↔ DeclaredEntries entries) := by
  cases raw with
  | dict entries =>
      unfold MessageFields.fromDict at read
      dsimp only at read
      split at read
      · next jsonable =>
          refine ⟨entries, rfl, jsonable, ?_⟩
          rw [← Option.some.inj read]
          constructor
          · intro declared
            exact ⟨declared.type, declared.sender, declared.recipient,
              declared.payload, declared.priority, declared.attempt⟩
          · intro declared
            exact ⟨declared.type, declared.sender, declared.recipient,
              declared.payload, declared.priority, declared.attempt⟩
      · contradiction
  | _ => contradiction

theorem MessageFields.isSome_fromDict
    (libraries : Libraries) {entries : Dict}
    (jsonable : (field entries "payload" (.dict [])).jsonable = true) :
    (MessageFields.fromDict libraries (.dict entries)).isSome = true := by
  unfold MessageFields.fromDict
  dsimp only
  rw [if_pos jsonable]
  rfl

/-- Every message that a value yields is declared, if the value is. -/
theorem declaredMessage_iff (libraries : Libraries) (raw : Value) :
    DeclaredMessage raw ↔
      ∀ message, MessageFields.fromDict libraries raw = some message →
        message.Declared := by
  constructor
  · intro declared message read
    rcases MessageFields.fromDict_eq_some read with
      ⟨entries, same, jsonable, fields⟩
    exact fields.mpr (declared entries same jsonable)
  · intro declared entries same jsonable
    rw [same] at declared
    rcases Option.isSome_iff_exists.mp
      (MessageFields.isSome_fromDict libraries jsonable) with ⟨message, read⟩
    rcases MessageFields.fromDict_eq_some read with
      ⟨others, equal, _, fields⟩
    rw [Value.dict.inj equal]
    exact fields.mp (declared message read)

/-! ## Decoding and reconstruction together -/

/-- With one `try` block only the fields of the message can be wrong. -/
theorem documented_readMessage_iff
    (libraries : Libraries) (unpack : Bytes → Option Value) (data : Bytes) :
    Documented (readMessage libraries unpack data) ↔
      ∀ raw, unpack data = some raw → DeclaredMessage raw := by
  unfold readMessage
  cases decoded : unpack data with
  | none =>
      refine iff_of_true ?_ ?_
      · intro same
        contradiction
      · intro raw same
        contradiction
  | some raw =>
      simp only [Option.some.injEq, forall_eq', declaredMessage_iff libraries]
      cases read : MessageFields.fromDict libraries raw with
      | none =>
          refine iff_of_true ?_ ?_
          · intro same
            contradiction
          · intro message same
            contradiction
      | some message =>
          simp only [Option.some.injEq, forall_eq']
          exact Iff.rfl

/-! ## The signature -/

/-- A block passes the check of its signature precisely if it is trusted. -/
theorem checkSignature_eq_ok_iff
    {signer : MessageSigner} {block : SignatureBlock} {msgDict : Value} :
    signer.checkSignature block = .ok msgDict ↔
      signer.Believes block ∧ block.msgDict = msgDict := by
  unfold MessageSigner.checkSignature MessageSigner.Believes
    MessageSigner.Validates
  cases signer.registry block.signer with
  | none => cases strict : signer.config.strict <;> simp
  | some verifyKey =>
      cases truthy : block.signature.truthy with
      | false => cases strict : signer.config.strict <;> simp
      | true =>
          cases signer.libraries.packb (signedContent block) with
          | none => simp
          | some signedBytes =>
              by_cases valid :
                  signer.libraries.validates
                    verifyKey signedBytes block.signature = true
              · simp [valid]
              · simp [valid]

/-- The check fails outside its `try` block precisely if nothing is packed. -/
theorem checkSignature_undocumented_iff
    {signer : MessageSigner} {block : SignatureBlock} :
    (∃ error, signer.checkSignature block = .error error ∧
        error.raised = .undocumented) ↔
      ¬ signer.Repacks block := by
  unfold MessageSigner.checkSignature MessageSigner.Repacks
  cases signer.registry block.signer with
  | none =>
      cases signer.config.strict <;> simp [VerifyError.raised]
  | some verifyKey =>
      cases block.signature.truthy with
      | false => cases signer.config.strict <;> simp [VerifyError.raised]
      | true =>
          cases signer.libraries.packb (signedContent block) with
          | none => simp [VerifyError.raised]
          | some signedBytes =>
              by_cases valid :
                  signer.libraries.validates
                    verifyKey signedBytes block.signature = true
              · simp [valid]
              · simp [valid, VerifyError.raised]

/-! ## The envelope -/

section Envelopes

variable {signer : MessageSigner} {cache : NonceCache} {raw : Dict}

theorem MessageSigner.Reads.unique
    {left right : SignatureBlock} {leftNonce rightNonce : Key}
    (one : signer.Reads raw left leftNonce)
    (other : signer.Reads raw right rightNonce) :
    left = right ∧ leftNonce = rightNonce := by
  have same : left = right := Option.some.inj (one.1.symm.trans other.1)
  subst same
  exact ⟨rfl, Option.some.inj (one.2.symm.trans other.2)⟩

theorem MessageSigner.Reads.verify
    {block : SignatureBlock} {nonce : Key}
    (reads : signer.Reads raw block nonce) :
    (signer.verify cache raw).1 =
      if cache.Contains nonce then .error (.replayed block.signer)
      else signer.checkSignature block := by
  unfold MessageSigner.verify
  rw [reads.1]
  dsimp only
  rw [reads.2]
  by_cases seen : cache.Contains nonce
  · simp [Cache.offer_of_contains seen, seen]
  · simp [Cache.offer_of_fresh seen, seen]

/-- An envelope that is not read raises outside every `try` block. -/
theorem MessageSigner.verify_of_not_reads
    (unread : ¬ ∃ block nonce, signer.Reads raw block nonce) :
    ∃ error, (signer.verify cache raw).1 = .error error ∧
      error.raised = .undocumented := by
  unfold MessageSigner.verify
  cases read : signatureBlock signer.libraries.str raw with
  | none => exact ⟨.attributeError, rfl, rfl⟩
  | some block =>
      cases hashed : block.nonce.key? with
      | none =>
          refine ⟨.typeError, ?_, rfl⟩
          simp only [hashed]
      | some nonce => exact absurd ⟨block, nonce, read, hashed⟩ unread

/-- `verify` accepts a trusted block over a nonce it has not seen. -/
theorem MessageSigner.verify_eq_ok_iff {msgDict : Value} :
    (signer.verify cache raw).1 = .ok msgDict ↔
      ∃ block nonce, signer.Reads raw block nonce ∧
        ¬ cache.Contains nonce ∧ signer.Believes block ∧
          block.msgDict = msgDict := by
  by_cases read : ∃ block nonce, signer.Reads raw block nonce
  · rcases read with ⟨block, nonce, reads⟩
    rw [reads.verify]
    constructor
    · intro accepted
      split at accepted
      · contradiction
      · next fresh =>
          exact ⟨block, nonce, reads, fresh,
            checkSignature_eq_ok_iff.mp accepted⟩
    · rintro ⟨other, otherNonce, otherReads, fresh, trusted⟩
      rcases reads.unique otherReads with ⟨rfl, rfl⟩
      rw [if_neg fresh]
      exact checkSignature_eq_ok_iff.mpr trusted
  · rcases @MessageSigner.verify_of_not_reads signer cache raw read with
      ⟨error, failed, _⟩
    rw [failed]
    constructor
    · intro accepted
      contradiction
    · rintro ⟨block, nonce, reads, _⟩
      exact absurd ⟨block, nonce, reads⟩ read

/-- `verify` fails undocumented precisely on what it cannot read or repack. -/
theorem MessageSigner.verify_undocumented_iff :
    (∃ error, (signer.verify cache raw).1 = .error error ∧
        error.raised = .undocumented) ↔
      ¬ ∃ block nonce, signer.Reads raw block nonce ∧
        (¬ cache.Contains nonce → signer.Repacks block) := by
  by_cases read : ∃ block nonce, signer.Reads raw block nonce
  · rcases read with ⟨block, nonce, reads⟩
    rw [reads.verify]
    by_cases seen : cache.Contains nonce
    · rw [if_pos seen]
      refine iff_of_false ?_ ?_
      · rintro ⟨error, same, undocumented⟩
        rw [← Except.error.inj same] at undocumented
        contradiction
      · exact fun unread =>
          unread ⟨block, nonce, reads, fun fresh => absurd seen fresh⟩
    · rw [if_neg seen, checkSignature_undocumented_iff]
      refine not_congr ⟨fun repacks => ⟨block, nonce, reads, fun _ => repacks⟩,
        ?_⟩
      rintro ⟨other, otherNonce, otherReads, repacks⟩
      rcases reads.unique otherReads with ⟨rfl, rfl⟩
      exact repacks seen
  · refine iff_of_true (signer.verify_of_not_reads read) ?_
    rintro ⟨block, nonce, reads, _⟩
    exact read ⟨block, nonce, reads⟩

theorem MessageSigner.Reads.msgDict
    {block : SignatureBlock} {nonce : Key}
    (reads : signer.Reads raw block nonce) :
    block.msgDict = field raw "msg" (.dict []) := by
  have read := reads.1
  unfold signatureBlock at read
  split at read
  · rw [← Option.some.inj read]
  · contradiction

theorem MessageSigner.openEnvelope_of_signed
    (signed : isSigned raw = true) :
    (signer.openEnvelope cache raw).1 =
      match (signer.verify cache raw).1 with
      | .ok msgDict => .ok msgDict
      | .error error => .error (.signature error) := by
  rw [isSigned, Bool.and_eq_true] at signed
  unfold MessageSigner.openEnvelope
  rw [if_pos signed.1, if_pos signed.2]
  rcases signer.verify cache raw with ⟨outcome, after⟩
  cases outcome with
  | ok msgDict => rfl
  | error error => rfl

/-- Any other envelope passes unless the configuration is strict. -/
theorem MessageSigner.openEnvelope_of_unsigned
    (unsigned : isSigned raw = false) :
    ∃ error, error.raised = .signatureError ∧
      (signer.openEnvelope cache raw).1 =
        if signer.config.strict then .error error
        else .ok (enclosed raw) := by
  unfold isSigned at unsigned
  unfold MessageSigner.openEnvelope enclosed
  cases version : isVersionTwo raw with
  | true =>
      rw [version, Bool.true_and] at unsigned
      refine ⟨.noSignatureBlock, rfl, ?_⟩
      cases strict : signer.config.strict with
      | true => simp [unsigned]
      | false => simp [unsigned]
  | false =>
      refine ⟨.unsignedRejected, rfl, ?_⟩
      cases strict : signer.config.strict with
      | true => simp
      | false => simp

theorem MessageSigner.openEnvelope_eq_ok_iff {msgDict : Value} :
    (signer.openEnvelope cache raw).1 = .ok msgDict ↔
      signer.LetsPass cache raw ∧ enclosed raw = msgDict := by
  unfold MessageSigner.LetsPass
  cases signed : isSigned raw with
  | true =>
      have carried : enclosed raw = field raw "msg" (.dict []) := by
        rw [isSigned, Bool.and_eq_true] at signed
        rw [enclosed, if_pos signed.1, if_pos signed.2]
      rw [signer.openEnvelope_of_signed signed, if_pos rfl, carried]
      have verified :
          (match (signer.verify cache raw).1 with
            | .ok msgDict => Except.ok msgDict
            | .error error => .error (DeserializeError.signature error)) =
              .ok msgDict ↔
            (signer.verify cache raw).1 = .ok msgDict := by
        cases (signer.verify cache raw).1 with
        | ok value => simp
        | error error => simp
      rw [verified, signer.verify_eq_ok_iff]
      constructor
      · rintro ⟨block, nonce, reads, fresh, trusted, same⟩
        exact ⟨⟨block, nonce, reads, fresh, trusted⟩,
          reads.msgDict ▸ same⟩
      · rintro ⟨⟨block, nonce, reads, fresh, trusted⟩, same⟩
        exact ⟨block, nonce, reads, fresh, trusted,
          reads.msgDict.trans same⟩
  | false =>
      rcases @MessageSigner.openEnvelope_of_unsigned
          signer cache raw signed with
        ⟨error, _, outcome⟩
      rw [outcome, if_neg Bool.false_ne_true]
      cases signer.config.strict with
      | true => simp
      | false => simp

/-- Opening fails undocumented precisely on an unreadable envelope. -/
theorem MessageSigner.openEnvelope_undocumented_iff :
    (∃ error, (signer.openEnvelope cache raw).1 = .error error ∧
        error.raised = .undocumented) ↔
      ¬ signer.Readable cache raw := by
  unfold MessageSigner.Readable
  cases signed : isSigned raw with
  | true =>
      rw [signer.openEnvelope_of_signed signed, imp_iff_right rfl,
        ← signer.verify_undocumented_iff]
      cases (signer.verify cache raw).1 with
      | ok value => simp
      | error error => simp [DeserializeError.raised]
  | false =>
      refine iff_of_false ?_ (fun unread => unread (by simp))
      rcases @MessageSigner.openEnvelope_of_unsigned
          signer cache raw signed with
        ⟨failure, documented, outcome⟩
      rintro ⟨error, failed, undocumented⟩
      rw [outcome] at failed
      split at failed
      · rw [← Except.error.inj failed, documented] at undocumented
        contradiction
      · contradiction

theorem MessageSigner.deserialize_of_dict
    {data : Bytes}
    (decoded : signer.libraries.unpackb data = some (.dict raw)) :
    (signer.deserialize cache data).1 =
      match (signer.openEnvelope cache raw).1 with
      | .error error => .error error
      | .ok msgDict =>
          match MessageFields.fromDict signer.libraries msgDict with
          | some message => .ok message
          | none => .error .notAMessage := by
  unfold MessageSigner.deserialize
  rw [decoded]
  dsimp only
  rcases signer.openEnvelope cache raw with ⟨outcome, after⟩
  cases outcome with
  | error error => rfl
  | ok msgDict =>
      dsimp only
      cases MessageFields.fromDict signer.libraries msgDict with
      | some message => rfl
      | none => rfl

theorem MessageSigner.documented_of_dict
    {data : Bytes}
    (decoded : signer.libraries.unpackb data = some (.dict raw)) :
    Documented ((Decoder.signing signer cache).deserialize data) ↔
      signer.Readable cache raw ∧
        (signer.LetsPass cache raw → DeclaredMessage (enclosed raw)) := by
  have unreadable := @MessageSigner.openEnvelope_undocumented_iff
    signer cache raw
  have passes := @MessageSigner.openEnvelope_eq_ok_iff signer cache raw
  rw [Decoder.deserialize, signer.deserialize_of_dict decoded]
  cases opened : (signer.openEnvelope cache raw).1 with
  | error error =>
      have stopped : ¬ signer.LetsPass cache raw := by
        intro lets
        have opens := passes.mpr ⟨lets, rfl⟩
        rw [opened] at opens
        contradiction
      have readable :
          signer.Readable cache raw ↔ error.raised ≠ .undocumented := by
        rw [← not_iff_not, ← unreadable, not_not, opened]
        simp
      rw [readable]
      exact ⟨fun documented => ⟨documented, fun lets => absurd lets stopped⟩,
        And.left⟩
  | ok msgDict =>
      rcases passes.mp opened with ⟨lets, same⟩
      have readable : signer.Readable cache raw := by
        by_contra unread
        rcases unreadable.mpr unread with ⟨error, failed, _⟩
        rw [opened] at failed
        contradiction
      rw [same, declaredMessage_iff signer.libraries]
      dsimp only
      cases read : MessageFields.fromDict signer.libraries msgDict with
      | none =>
          refine iff_of_true ?_ ⟨readable, fun _ message absent => ?_⟩
          · exact DecodingError.noConfusion
          · contradiction
      | some message =>
          simp only [Option.some.injEq, forall_eq']
          exact ⟨fun declared => ⟨readable, fun _ => declared⟩,
            fun both => both.2 lets⟩

end Envelopes

/-! ## The law -/

theorem documented_signing_iff
    (signer : MessageSigner) (cache : NonceCache) (data : Bytes) :
    Documented ((Decoder.signing signer cache).deserialize data) ↔
      (Decoder.signing signer cache).Declares data := by
  change _ ↔ ∀ raw, signer.libraries.unpackb data = some raw → _
  cases decoded : signer.libraries.unpackb data with
  | none =>
      refine iff_of_true ?_ (by simp)
      simp [Decoder.deserialize, MessageSigner.deserialize, decoded,
        Documented, DeserializeError.raised]
  | some value =>
      simp only [Option.some.injEq, forall_eq']
      cases value with
      | dict raw =>
          rw [signer.documented_of_dict decoded]
          simp only [Value.dict.injEq, exists_eq_left']
      | _ =>
          refine iff_of_false ?_ ?_
          · simp [Decoder.deserialize, MessageSigner.deserialize, decoded,
              Documented, DeserializeError.raised]
          · rintro ⟨entries, same, _⟩
            contradiction

/--
Decoding returns a message with fields of the declared types or raises a
documented exception precisely on the bytes that declare their message.
-/
theorem documented_deserialize_iff (decoder : Decoder) (data : Bytes) :
    Documented (decoder.deserialize data) ↔ decoder.Declares data := by
  cases decoder with
  | msgpack libraries => exact documented_readMessage_iff _ _ _
  | json libraries loads => exact documented_readMessage_iff _ _ _
  | signing signer cache => exact documented_signing_iff signer cache data

/-- Libraries that decode one byte string, and have one key. -/
def librariesFor (data : Bytes) (value : Value) : Libraries where
  VerifyKey := Unit
  packb _ := some []
  unpackb given := if given = data then some value else none
  validates _ _ _ := true
  str := textOnly
  freshId := .str "1"
  now := .int 0

/-- A signer that requires signatures, with these libraries. -/
def strictSigner (data : Bytes) (value : Value) : MessageSigner where
  libraries := librariesFor data value
  registry _ := some ()
  config := { requireVerification := true, allowUnsigned := false }

/-- The bytes of `{"type": 5}`. -/
def numberedType : Bytes :=
  [0x81, 0xa4, 0x74, 0x79, 0x70, 0x65, 0x05]

/-- The bytes of `{"v": 2, "sig": ""}`. -/
def textSignature : Bytes :=
  [0x82, 0xa1, 0x76, 0x02, 0xa3, 0x73, 0x69, 0x67, 0xa0]

/--
A message whose type is a number is returned, and a list and an envelope
whose signature block is a text raise undocumented.
-/
theorem decoding_is_not_total :
    (¬ ∀ (decoder : Decoder) (data : Bytes),
        Documented (decoder.deserialize data)) ∧
      (Decoder.msgpack (librariesFor numberedType
          (.dict (dictOf [("type", .int 5)])))).deserialize numberedType =
        .ok
          { id := .str "1"
            type := .int 5
            sender := .str ""
            recipient := .str ""
            correlationId := .none
            replyTo := .none
            payload := .dict []
            timestamp := .int 0
            traceId := .str ""
            spanId := .str ""
            parentSpanId := .none
            attempt := .int 0
            priority := .int 0
            ttl := .none
            seq := .none } ∧
      (Decoder.signing (strictSigner [0x90] (.list [])) .empty).deserialize
          [0x90] = .error .undocumented ∧
      (Decoder.signing (strictSigner textSignature (.dict (dictOf
          [("v", .int 2), ("sig", .str "")]))) .empty).deserialize
          textSignature = .error .undocumented := by
  refine ⟨?_, rfl, rfl, rfl⟩
  intro total
  exact total (.signing (strictSigner [0x90] (.list [])) .empty) [0x90] rfl

end Civitas.Security
