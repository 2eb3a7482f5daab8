import Civitas.Security.ShortWire
import Civitas.Security.Signing

/-!
# Which sender a strict receiver accepts

An envelope carries two names: the signer in its signature block, whose
registered key validates the signature, and the sender inside the signed
message.  `verify` ties only the first to a key.

Every byte string a strict receiver accepts was validated by the key
registered for the signer it names.  The sender of the returned message is
that signer exactly when the envelope itself names the same agent twice;
nothing in `verify` or `deserialize` compares the two.
-/

namespace Civitas.Security

open Civitas.PyValue
open Civitas.BoundedCache

/-- The signature block of a byte string, when it decodes to an envelope. -/
def MessageSigner.decodedBlock
    (signer : MessageSigner) (data : Bytes) : Option SignatureBlock :=
  match signer.libraries.unpackb data with
  | some (.dict raw) => signatureBlock signer.libraries.str raw
  | _ => none

/-- The sender field of the signed message, `""` when it is missing. -/
def SignatureBlock.innerSender (block : SignatureBlock) : Value :=
  match block.msgDict with
  | .dict entries => field entries "sender" (.str "")
  | _ => .none

/-- `name` is the signer whose registered key validates the signature. -/
def MessageSigner.ValidatedSigner
    (signer : MessageSigner) (data : Bytes) (name : String) : Prop :=
  ∃ block,
    signer.decodedBlock data = some block ∧
      signer.Validates block ∧
      block.signer = name

/-- The envelope names one agent both as its signer and as its sender. -/
def MessageSigner.NamesItsSigner
    (signer : MessageSigner) (data : Bytes) : Prop :=
  ∃ block,
    signer.decodedBlock data = some block ∧
      block.innerSender = .str block.signer

theorem MessageFields.fromDict_sender
    {libraries : Libraries} {block : SignatureBlock}
    {message : MessageFields}
    (built :
      MessageFields.fromDict libraries block.msgDict = some message) :
    message.sender = block.innerSender := by
  unfold SignatureBlock.innerSender
  cases shape : block.msgDict with
  | dict entries =>
      rw [shape] at built
      simp only [MessageFields.fromDict] at built
      split at built
      · rw [← Option.some.inj built]
      · cases built
  | _ =>
      rw [shape] at built
      cases built

/--
What acceptance means under strict signing: the bytes decode to a validated
signature block, and the message is built from its signed part.
-/
theorem deserialize_ok
    {signer : MessageSigner} {cache : NonceCache}
    {data : Bytes} {message : MessageFields}
    (strict : signer.config.strict = true)
    (accepted : (signer.deserialize cache data).1 = .ok message) :
    ∃ block,
      signer.decodedBlock data = some block ∧
        signer.Validates block ∧
        MessageFields.fromDict signer.libraries block.msgDict =
          some message := by
  unfold MessageSigner.deserialize at accepted
  split at accepted
  · cases accepted
  · rename_i raw decoded
    have opened :
        ∃ msgDict,
          (signer.openEnvelope cache raw).1 = .ok msgDict ∧
            MessageFields.fromDict signer.libraries msgDict =
              some message := by
      split at accepted
      · cases accepted
      · rename_i msgDict after result
        split at accepted
        · rename_i built reconstructed
          cases accepted
          exact ⟨msgDict, by rw [result], reconstructed⟩
        · cases accepted
    rcases opened with ⟨msgDict, result, reconstructed⟩
    have verified :
        (signer.verify cache raw).1 = .ok msgDict := by
      unfold MessageSigner.openEnvelope at result
      simp only [strict, if_true] at result
      split at result
      · split at result
        · split at result
          · rename_i found after outcome
            rw [outcome]
            cases result
            rfl
          · cases result
        · cases result
      · cases result
    rcases (verify_ok_iff strict).mp verified with
      ⟨block, nonce, read, _, _, valid, rfl⟩
    refine ⟨block, ?_, valid, reconstructed⟩
    simp [MessageSigner.decodedBlock, decoded, read]
  · cases accepted

/--
For every byte string a strict receiver accepts there is a signer whose
registered key validated it, and the returned sender is that signer exactly
when the envelope names its signer as its sender.  If the bytes can validate
only under the name of `holder`, because its presenter holds no other key,
the same condition decides whether the sender is `holder`.
-/
theorem accepted_sender_eq_signer_iff
    (signer : MessageSigner) (cache : NonceCache)
    (data : Bytes) (message : MessageFields)
    (strict : signer.config.strict = true)
    (accepted : (signer.deserialize cache data).1 = .ok message) :
    ∃ name,
      signer.ValidatedSigner data name ∧
        (message.sender = .str name ↔ signer.NamesItsSigner data) ∧
        ∀ holder,
          (∀ other,
            signer.ValidatedSigner data other → other = holder) →
            (message.sender = .str holder ↔
              signer.NamesItsSigner data) := by
  rcases deserialize_ok strict accepted with
    ⟨block, decoded, valid, built⟩
  have validated : signer.ValidatedSigner data block.signer :=
    ⟨block, decoded, valid, rfl⟩
  have sender : message.sender = block.innerSender :=
    MessageFields.fromDict_sender built
  have exactly :
      message.sender = .str block.signer ↔
        signer.NamesItsSigner data := by
    constructor
    · intro named
      exact ⟨block, decoded, sender ▸ named⟩
    · rintro ⟨other, otherDecoded, named⟩
      have same : other = block :=
        Option.some.inj (otherDecoded.symm.trans decoded)
      subst same
      rw [sender, named]
  refine ⟨block.signer, validated, exactly, ?_⟩
  intro holder onlyHolder
  rw [← onlyHolder block.signer validated]
  exact exactly

/-! ## An envelope that names two agents -/

/-- A message of `mallory`, claiming to come from `sender`. -/
def reportFrom (sender : String) : Dict :=
  dictOf
    [("type", .str "report"), ("sender", .str sender),
      ("recipient", .str "billing")]

/-- The message, signed by `mallory` under its own name. -/
def signedReport (sender : String) : Dict :=
  sealedEnvelope "mallory" "mallory"
    (List.replicate 16 7) (reportFrom sender)

/-- The bytes of the signed message on the wire. -/
def reportBytes (sender : String) : Bytes :=
  (shortPackb (.dict (signedReport sender))).getD []

/-- A strict receiver that trusts the keys of both agents. -/
def reportReceiver : MessageSigner :=
  strictReceiver
    [signedReport "mallory", signedReport "admin"]
    ["admin", "mallory"]

/-- The genuine report of `mallory` is accepted under its own name. -/
theorem accepted_sender_eq_signer_genuine :
    ∃ message,
      (reportReceiver.deserialize Cache.empty
          (reportBytes "mallory")).1 = .ok message ∧
        ∃ name,
          reportReceiver.ValidatedSigner
              (reportBytes "mallory") name ∧
            (message.sender = .str name ↔
              reportReceiver.NamesItsSigner
                (reportBytes "mallory")) := by
  refine ⟨_, rfl, ?_⟩
  rcases
      accepted_sender_eq_signer_iff reportReceiver Cache.empty
        (reportBytes "mallory") _ rfl rfl with
    ⟨name, validated, exactly, _⟩
  exact ⟨name, validated, exactly⟩

/--
A report that only the key of `mallory` validates is accepted with the
sender `admin`.
-/
theorem impersonated_sender_accepted :
    reportReceiver.config.strict = true ∧
      (∀ name,
        reportReceiver.ValidatedSigner (reportBytes "admin") name ↔
          name = "mallory") ∧
      ∃ message,
        (reportReceiver.deserialize Cache.empty
            (reportBytes "admin")).1 = .ok message ∧
          message.sender = .str "admin" := by
  refine ⟨rfl, ?_, _, rfl, rfl⟩
  intro name
  constructor
  · rintro ⟨block, decoded, _, rfl⟩
    cases decoded
    rfl
  · rintro rfl
    exact ⟨_, rfl, ⟨"mallory", _, rfl, rfl, rfl, by decide⟩, rfl⟩

end Civitas.Security
