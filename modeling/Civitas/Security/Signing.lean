import Civitas.BoundedCache
import Civitas.PyValue

/-!
# Message signing

`MessageSigner.verify` and `SigningSerializer.deserialize` of
`security/signing.py`, together with the part of `Message.from_dict` they end
in.  MessagePack and Ed25519 are libraries outside the repository and enter
as parameters: `unpackb`, `packb` and the check of one signature.

The functions are modelled on arbitrary decoded values.  A missing field
takes the source's default, a field of the wrong type takes the path Python
takes, and the nonce cache is passed along explicitly because `verify`
updates it before it knows whether the envelope is genuine.
-/

namespace Civitas.Security

open Civitas.PyValue
open Civitas.BoundedCache

/-! ## Configuration and the libraries -/

/-- The two switches of `SigningConfig` that `verify` reads. -/
structure SigningConfig where
  requireVerification : Bool
  allowUnsigned : Bool
deriving DecidableEq

/-- `require_verification and not allow_unsigned`. -/
def SigningConfig.strict (config : SigningConfig) : Bool :=
  config.requireVerification && !config.allowUnsigned

/-- What `signing.py` uses from `msgpack`, `nacl` and the interpreter. -/
structure Libraries where
  /-- An Ed25519 verify key. -/
  VerifyKey : Type
  /-- `msgpack.packb(value, use_bin_type=True)`; `none` when it raises. -/
  packb : Value → Option Bytes
  /-- `msgpack.unpackb(data, raw=False)`; `none` when it raises. -/
  unpackb : Bytes → Option Value
  /-- `verify_key.verify(data, signature)` returns instead of raising. -/
  validates : VerifyKey → Bytes → Value → Bool
  /-- `str(value)`. -/
  str : StrFunction
  /-- `_uuid7()` and `time.time()`, the defaults of two envelope fields. -/
  freshId : Value
  now : Value

/-! ## The nonce cache -/

/-- `NonceCache()` keeps ten thousand nonces. -/
def nonceCacheSize : Nat := 10000

/-- `NonceCache`: the nonces seen, oldest first. -/
abbrev NonceCache := Cache Key nonceCacheSize

/-! ## Verification -/

/-- The errors `MessageSigner.verify` can end in. -/
inductive VerifyError where
  /-- `Replayed nonce in message from '{signer}'` -/
  | replayed (signer : String)
  /-- `Unknown signer '{signer}': no public key registered. ...` -/
  | unknownSigner (signer : String)
  /-- `Missing signature from known agent '{signer}'` -/
  | missingSignature (signer : String)
  /-- `Signature verification failed for '{signer}': ...` -/
  | badSignature (signer : String)
  /-- The signature block is not a dictionary. -/
  | attributeError
  /-- The nonce is unhashable, or the message cannot be packed again. -/
  | typeError
deriving DecidableEq

/-- `MessageSigner` as far as verification reads it. -/
structure MessageSigner where
  libraries : Libraries
  /-- `KeyRegistry.get`. -/
  registry : String → Option libraries.VerifyKey
  config : SigningConfig

/-- The fields `verify` reads from an envelope with signature block `sig`. -/
structure SignatureBlock where
  signer : String
  nonce : Value
  signature : Value
  msgDict : Value

/-- Read the signature block; `none` when `sig` is not a dictionary. -/
def signatureBlock
    (str : StrFunction) (envelope : Dict) : Option SignatureBlock :=
  match field envelope "sig" (.dict []) with
  | .dict sig =>
      some
        { signer := str.render (field sig "signer" (.str ""))
          nonce := field sig "nonce" (.bytes [])
          signature := field sig "value" (.bytes [])
          msgDict := field envelope "msg" (.dict []) }
  | _ => none

/-- The dictionary whose packed bytes are signed. -/
def signedContent (block : SignatureBlock) : Value :=
  .dict (dictOf
    [("v", .int 2), ("msg", block.msgDict),
      ("signer", .str block.signer), ("nonce", block.nonce)])

/-- `verify` after the nonce has been recorded. -/
def MessageSigner.checkSignature
    (signer : MessageSigner) (block : SignatureBlock) :
    Except VerifyError Value :=
  match signer.registry block.signer with
  | none =>
      if signer.config.strict
      then .error (.unknownSigner block.signer)
      else .ok block.msgDict
  | some verifyKey =>
      if !block.signature.truthy then
        if signer.config.strict
        then .error (.missingSignature block.signer)
        else .ok block.msgDict
      else
        match signer.libraries.packb (signedContent block) with
        | none => .error .typeError
        | some signedBytes =>
            if signer.libraries.validates
                verifyKey signedBytes block.signature
            then .ok block.msgDict
            else .error (.badSignature block.signer)

/-- `MessageSigner.verify`. -/
def MessageSigner.verify
    (signer : MessageSigner) (cache : NonceCache) (envelope : Dict) :
    Except VerifyError Value × NonceCache :=
  match signatureBlock signer.libraries.str envelope with
  | none => (.error .attributeError, cache)
  | some block =>
      match block.nonce.key? with
      | none => (.error .typeError, cache)
      | some nonce =>
          match cache.offer nonce with
          | (false, cache) => (.error (.replayed block.signer), cache)
          | (true, cache) => (signer.checkSignature block, cache)

/-! ## Reconstructing a message -/

/--
A `Message` as `from_dict` builds it.  The dataclass does not check the types
of its fields, so each is an arbitrary value.
-/
structure MessageFields where
  id : Value
  type : Value
  sender : Value
  recipient : Value
  correlationId : Value
  replyTo : Value
  payload : Value
  timestamp : Value
  traceId : Value
  spanId : Value
  parentSpanId : Value
  attempt : Value
  priority : Value
  ttl : Value
  seq : Value

/--
`Message.from_dict`: unknown keys are dropped, missing fields take the
dataclass defaults, and the payload must be JSON-serializable.
-/
def MessageFields.fromDict
    (libraries : Libraries) (data : Value) : Option MessageFields :=
  match data with
  | .dict entries =>
      let payload := field entries "payload" (.dict [])
      if payload.jsonable then
        some
          { id := field entries "id" libraries.freshId
            type := field entries "type" (.str "message")
            sender := field entries "sender" (.str "")
            recipient := field entries "recipient" (.str "")
            correlationId := field entries "correlation_id" .none
            replyTo := field entries "reply_to" .none
            payload := payload
            timestamp := field entries "timestamp" libraries.now
            traceId := field entries "trace_id" (.str "")
            spanId := field entries "span_id" (.str "")
            parentSpanId := field entries "parent_span_id" .none
            attempt := field entries "attempt" (.int 0)
            priority := field entries "priority" (.int 0)
            ttl := field entries "ttl" .none
            seq := field entries "seq" .none }
      else none
  | _ => none

/-! ## Deserialization -/

/-- The errors `SigningSerializer.deserialize` can end in. -/
inductive DeserializeError where
  /-- `Failed to deserialize msgpack data: ...` -/
  | malformed
  /-- The decoded value is not a dictionary. -/
  | attributeError
  /-- An error of `MessageSigner.verify`. -/
  | signature (error : VerifyError)
  /-- `Received v=2 envelope with no signature block` -/
  | noSignatureBlock
  /-- `Unsigned message rejected (require_verification=true). ...` -/
  | unsignedRejected
  /-- `Failed to reconstruct Message: ...` -/
  | notAMessage
deriving DecidableEq

/-- `raw.get("v") == 2`. -/
def isVersionTwo (raw : Dict) : Bool :=
  (field raw "v" .none).pyEq (.int 2)

/-- The message dictionary `deserialize` extracts, and the cache after it. -/
def MessageSigner.openEnvelope
    (signer : MessageSigner) (cache : NonceCache) (raw : Dict) :
    Except DeserializeError Value × NonceCache :=
  if isVersionTwo raw then
    if (field? raw "sig").isSome then
      match signer.verify cache raw with
      | (.ok msgDict, cache) => (.ok msgDict, cache)
      | (.error error, cache) => (.error (.signature error), cache)
    else if signer.config.strict
    then (.error .noSignatureBlock, cache)
    else (.ok (field raw "msg" (.dict raw)), cache)
  else if signer.config.strict
  then (.error .unsignedRejected, cache)
  else (.ok (.dict raw), cache)

/-- `SigningSerializer.deserialize`. -/
def MessageSigner.deserialize
    (signer : MessageSigner) (cache : NonceCache) (data : Bytes) :
    Except DeserializeError MessageFields × NonceCache :=
  match signer.libraries.unpackb data with
  | none => (.error .malformed, cache)
  | some (.dict raw) =>
      match signer.openEnvelope cache raw with
      | (.error error, cache) => (.error error, cache)
      | (.ok msgDict, cache) =>
          match MessageFields.fromDict signer.libraries msgDict with
          | some message => (.ok message, cache)
          | none => (.error .notAMessage, cache)
  | some _ => (.error .attributeError, cache)

/-! ## Genuine envelopes -/

/--
The signature of a block validates under the key registered for the signer it
names.
-/
def MessageSigner.Validates
    (signer : MessageSigner) (block : SignatureBlock) : Prop :=
  ∃ verifyKey signedBytes,
    signer.registry block.signer = some verifyKey ∧
      block.signature.truthy = true ∧
      signer.libraries.packb (signedContent block) = some signedBytes ∧
      signer.libraries.validates
        verifyKey signedBytes block.signature = true

instance (signer : MessageSigner) (block : SignatureBlock) :
    Decidable (signer.Validates block) :=
  match registered : signer.registry block.signer,
      packed : signer.libraries.packb (signedContent block) with
  | some verifyKey, some signedBytes =>
      decidable_of_iff
        (block.signature.truthy = true ∧
          signer.libraries.validates
            verifyKey signedBytes block.signature = true)
        (by simp [MessageSigner.Validates, registered, packed])
  | none, _ =>
      isFalse (by simp [MessageSigner.Validates, registered])
  | some _, none =>
      isFalse (by simp [MessageSigner.Validates, packed])

/-- Under strict signing only a validated signature is accepted. -/
theorem checkSignature_ok_iff
    {signer : MessageSigner} {block : SignatureBlock} {msgDict : Value}
    (strict : signer.config.strict = true) :
    signer.checkSignature block = .ok msgDict ↔
      signer.Validates block ∧ block.msgDict = msgDict := by
  unfold MessageSigner.checkSignature MessageSigner.Validates
  cases signer.registry block.signer with
  | none => simp [strict]
  | some verifyKey =>
      cases truthy : block.signature.truthy with
      | false => simp [strict]
      | true =>
          cases signer.libraries.packb (signedContent block) with
          | none => simp
          | some signedBytes =>
              by_cases valid :
                  signer.libraries.validates
                    verifyKey signedBytes block.signature = true
              · simp [valid]
              · simp [valid]

/--
`verify` accepts exactly a validated signature over a nonce that the cache
does not hold.
-/
theorem verify_ok_iff
    {signer : MessageSigner} {cache : NonceCache}
    {envelope : Dict} {msgDict : Value}
    (strict : signer.config.strict = true) :
    (signer.verify cache envelope).1 = .ok msgDict ↔
      ∃ block nonce,
        signatureBlock signer.libraries.str envelope = some block ∧
          block.nonce.key? = some nonce ∧
          ¬ cache.Contains nonce ∧
          signer.Validates block ∧
          block.msgDict = msgDict := by
  unfold MessageSigner.verify
  cases read : signatureBlock signer.libraries.str envelope with
  | none => simp
  | some block =>
      cases hashed : block.nonce.key? with
      | none => simp [hashed]
      | some nonce =>
          by_cases seen : cache.Contains nonce
          · simp [hashed, Cache.offer_of_contains seen, seen]
          · simp [hashed, Cache.offer_of_fresh seen, seen,
              checkSignature_ok_iff strict]

end Civitas.Security
