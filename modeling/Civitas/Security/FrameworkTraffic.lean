import Civitas.Security.ShortWire

/-!
# The traffic of the framework under strict signing

The messages that civitas itself originates, with the senders they carry, and
the two serializers that turn them into bytes: `SigningSerializer` over the
identities of a process, and the plain `MsgpackSerializer` that a `Worker`
uses unless it is given another one.

`MessageSigner.sign` looks an identity up by the sender of the message.
`Runtime.start` provides identities for the agents of its tree, except for the
units of the topology introspection, and a `DynamicSupervisor` mints one for
each child it spawns.  Supervisors, `_runtime`, and the unnamed sender of a
worker's announcements have none.
-/

namespace Civitas.Security

open Civitas.PyValue
open Civitas.BoundedCache

/-! ## Signing -/

/-- `AgentIdentity`: a signing key whose signatures its verify key accepts. -/
structure AgentIdentity (libraries : Libraries) where
  sign : Bytes → Bytes
  verifyKey : libraries.VerifyKey
  sign_ne_nil : ∀ data, sign data ≠ []
  validates_sign :
    ∀ data, libraries.validates verifyKey data (.bytes (sign data)) = true

/-- The errors of `serialize`. -/
inductive SerializeError where
  /-- `No signing key for sender '{sender}' ...` -/
  | noSigningKey (sender : String)
  /-- The message cannot be packed. -/
  | notPackable
deriving DecidableEq

/-- The part of the envelope that is signed, for a sender and a nonce. -/
def outgoing (sender : String) (nonce : Bytes) (msgDict : Dict) : Value :=
  signedContent
    { signer := sender
      nonce := .bytes nonce
      signature := .none
      msgDict := .dict msgDict }

/-- The envelope `sign` returns. -/
def envelopeOf
    (sender : String) (nonce : Bytes) (msgDict : Dict) (signature : Bytes) :
    Dict :=
  dictOf
    [("v", .int 2), ("msg", .dict msgDict),
      ("sig", .dict (dictOf
        [("signer", .str sender), ("alg", .str "ed25519"),
          ("value", .bytes signature), ("nonce", .bytes nonce)]))]

section Sign

variable {libraries : Libraries}

/-- The signature of an envelope, empty when the sender has no identity. -/
def signatureOf
    (identities : String → Option (AgentIdentity libraries))
    (sender : String) (signedBytes : Bytes) : Bytes :=
  match identities sender with
  | some identity => identity.sign signedBytes
  | none => []

/-- `MessageSigner.sign`. -/
def sign
    (config : SigningConfig)
    (identities : String → Option (AgentIdentity libraries))
    (nonce : Bytes) (msgDict : Dict) : Except SerializeError Dict :=
  let sender := libraries.str.render (field msgDict "sender" (.str ""))
  match libraries.packb (outgoing sender nonce msgDict) with
  | none => .error .notPackable
  | some signedBytes =>
      let signature := signatureOf identities sender signedBytes
      if signature.isEmpty && config.strict
      then .error (.noSigningKey sender)
      else .ok (envelopeOf sender nonce msgDict signature)

/-- The serializer of a process. -/
inductive Serializer (libraries : Libraries) where
  /-- `MsgpackSerializer`. -/
  | msgpack
  /-- `SigningSerializer`, with the identities its signer holds. -/
  | signing (identities : String → Option (AgentIdentity libraries))

/-- The dictionary that a serializer packs. -/
def Serializer.envelope
    (serializer : Serializer libraries) (config : SigningConfig)
    (nonce : Bytes) (msgDict : Dict) : Except SerializeError Dict :=
  match serializer with
  | .msgpack => .ok msgDict
  | .signing identities => sign config identities nonce msgDict

/-- `serialize`, on the dictionary of a message. -/
def Serializer.serialize
    (serializer : Serializer libraries) (config : SigningConfig)
    (nonce : Bytes) (msgDict : Dict) : Except SerializeError Bytes :=
  match serializer.envelope config nonce msgDict with
  | .error error => .error error
  | .ok envelope =>
      match libraries.packb (.dict envelope) with
      | none => .error .notPackable
      | some data => .ok data

/-- The serializer can sign for the sender. -/
def Serializer.signs
    (serializer : Serializer libraries) (sender : String) : Bool :=
  match serializer with
  | .msgpack => false
  | .signing identities => (identities sender).isSome

/-- The envelope of the message can be packed. -/
def Serializer.packs
    (serializer : Serializer libraries) (sender : String) (nonce : Bytes)
    (msgDict : Dict) : Bool :=
  match serializer with
  | .msgpack => (libraries.packb (.dict msgDict)).isSome
  | .signing identities =>
      match libraries.packb (outgoing sender nonce msgDict) with
      | none => false
      | some signedBytes =>
          (libraries.packb
            (.dict
              (envelopeOf sender nonce msgDict
                (signatureOf identities sender signedBytes)))).isSome

/-- The decoder gives back what the serializer has packed. -/
def Serializer.Decodes
    (serializer : Serializer libraries) (config : SigningConfig)
    (nonce : Bytes) (msgDict : Dict) : Prop :=
  ∀ envelope data,
    serializer.envelope config nonce msgDict = .ok envelope →
      libraries.packb (.dict envelope) = some data →
        libraries.unpackb data = some (.dict envelope)

end Sign

/-- `Message.to_dict`. -/
def MessageFields.toDict (message : MessageFields) : Dict :=
  dictOf
    [("schema_version", .int 1), ("id", message.id), ("type", message.type),
      ("sender", message.sender), ("recipient", message.recipient),
      ("correlation_id", message.correlationId),
      ("reply_to", message.replyTo), ("payload", message.payload),
      ("timestamp", message.timestamp), ("trace_id", message.traceId),
      ("span_id", message.spanId),
      ("parent_span_id", message.parentSpanId),
      ("attempt", message.attempt), ("priority", message.priority),
      ("ttl", message.ttl), ("seq", message.seq)]

/-! ## The messages of the framework -/

/-- A dictionary that `Message.__post_init__` accepts as a payload. -/
abbrev JsonDict := { entries : Dict // (Value.dict entries).jsonable = true }

/-- The processes of a deployment. -/
inductive Process where
  | runtime
  | worker
deriving DecidableEq

/-- A message that the framework originates. -/
inductive FrameworkMessage where
  /-- `Supervisor._probe_health_channel`. -/
  | healthProbe (supervisor channel : String)
  /-- `Supervisor._heartbeat_loop`. -/
  | heartbeat (supervisor child : String)
  /-- `Supervisor._restart_remote_child`. -/
  | restart (supervisor child : String)
  /-- `Supervisor._escalate_to_parent`. -/
  | childCrashed (supervisor parent eventId : String)
  /-- `Runtime.ask` and `Runtime.send`. -/
  | runtimeMessage (type recipient : String) (payload : JsonDict)
  /-- `Runtime.suspend`. -/
  | suspend (agent reason category : String)
  /-- `Runtime.resume`. -/
  | resume (agent approver : String)
  /-- `Runtime.restart_agent`. -/
  | forceRestart (agent reason initiatedBy : String)
  /-- `DynamicSupervisor._announce_child`. -/
  | childRegister
      (host : Process) (supervisor child : String)
      (capabilities : List String) (capabilityMetadata : JsonDict)
      (pubkey : String) (epoch : Nat)
  /-- `DynamicSupervisor._announce_deregister`. -/
  | childDeregister
      (host : Process) (supervisor child : String) (epoch : Nat)
  /-- `AgentProcess.reply_to`, for the replies of a `DynamicSupervisor`. -/
  | reply
      (host : Process) (supervisor recipient : String) (payload : JsonDict)
  /-- The acknowledgement in `AgentProcess._message_loop`. -/
  | heartbeatAck (host : Process) (agent recipient : String)
  /-- An announcement of `Worker.start`. -/
  | workerRegister (payload : JsonDict)
  /-- An announcement of `Worker.stop`. -/
  | workerDeregister (name : String)
  /-- `Worker._on_health_probe`. -/
  | healthAck (channel recipient : String) (payload : JsonDict)

namespace FrameworkMessage

/-- The process whose serializer sends the message. -/
def origin : FrameworkMessage → Process
  | .healthProbe _ _ | .heartbeat _ _ | .restart _ _
  | .childCrashed _ _ _ | .runtimeMessage _ _ _ | .suspend _ _ _
  | .resume _ _ | .forceRestart _ _ _ => .runtime
  | .childRegister host _ _ _ _ _ _ | .childDeregister host _ _ _
  | .reply host _ _ _ | .heartbeatAck host _ _ => host
  | .workerRegister _ | .workerDeregister _ | .healthAck _ _ _ => .worker

/-- The `type` of a framework message. -/
def type : FrameworkMessage → Value
  | .healthProbe _ _ => .str "_agency.health_probe"
  | .heartbeat _ _ => .str "_agency.heartbeat"
  | .restart _ _ => .str "_agency.restart"
  | .childCrashed _ _ _ => .str "_agency.child_crashed"
  | .runtimeMessage type _ _ => .str type
  | .suspend _ _ _ => .str "_agency.suspend"
  | .resume _ _ => .str "_agency.resume"
  | .forceRestart _ _ _ => .str "_agency.force_restart"
  | .childRegister _ _ _ _ _ _ _ | .workerRegister _ =>
      .str "_agency.register"
  | .childDeregister _ _ _ _ | .workerDeregister _ =>
      .str "_agency.deregister"
  | .reply _ _ _ payload => field payload.val "type" (.str "reply")
  | .heartbeatAck _ _ _ => .str "_agency.heartbeat_ack"
  | .healthAck _ _ _ => .str "_agency.health_ack"

/-- The `sender` of a framework message. -/
def sender : FrameworkMessage → String
  | .healthProbe supervisor _ | .heartbeat supervisor _
  | .restart supervisor _ | .childCrashed supervisor _ _ => supervisor
  | .runtimeMessage _ _ _ | .suspend _ _ _ | .resume _ _
  | .forceRestart _ _ _ => "_runtime"
  | .childRegister _ supervisor _ _ _ _ _
  | .childDeregister _ supervisor _ _ | .reply _ supervisor _ _ =>
      supervisor
  | .heartbeatAck _ agent _ => agent
  | .workerRegister _ | .workerDeregister _ => ""
  | .healthAck channel _ _ => channel

/-- The `recipient` of a framework message. -/
def recipient : FrameworkMessage → String
  | .healthProbe _ channel => channel
  | .heartbeat _ child => child
  | .restart _ _ => "_agency.worker.restart"
  | .childCrashed _ parent _ => parent
  | .runtimeMessage _ recipient _ => recipient
  | .suspend agent _ _ | .resume agent _ | .forceRestart agent _ _ => agent
  | .childRegister _ _ _ _ _ _ _ => "_agency.register"
  | .childDeregister _ _ _ _ => "_agency.deregister"
  | .reply _ _ recipient _ | .heartbeatAck _ _ recipient => recipient
  | .workerRegister _ | .workerDeregister _ => ""
  | .healthAck _ recipient _ => recipient

/-- The `payload` of a framework message. -/
def payload : FrameworkMessage → Dict
  | .healthProbe _ _ | .heartbeat _ _ | .heartbeatAck _ _ _ => []
  | .restart _ child => dictOf [("agent_name", .str child)]
  | .childCrashed _ _ eventId => dictOf [("event_id", .str eventId)]
  | .runtimeMessage _ _ payload | .reply _ _ _ payload
  | .workerRegister payload | .healthAck _ _ payload => payload.val
  | .suspend _ reason category =>
      dictOf [("reason", .str reason), ("category", .str category)]
  | .resume _ approver => dictOf [("approver", .str approver)]
  | .forceRestart _ reason initiatedBy =>
      dictOf
        [("reason", .str reason), ("initiated_by", .str initiatedBy)]
  | .childRegister _ _ child capabilities capabilityMetadata pubkey epoch =>
      dictOf
        [("name", .str child),
          ("capabilities", .list (capabilities.map .str)),
          ("capability_metadata", .dict capabilityMetadata.val),
          ("pubkey", .str pubkey), ("epoch", .int epoch)]
  | .childDeregister _ _ child epoch =>
      dictOf [("name", .str child), ("epoch", .int epoch)]
  | .workerDeregister name => dictOf [("name", .str name)]

/-- The `priority` of a framework message. -/
def priority : FrameworkMessage → Int
  | .heartbeat _ _ | .childCrashed _ _ _ | .suspend _ _ _ | .resume _ _
  | .forceRestart _ _ _ => 1
  | _ => 0

end FrameworkMessage

/-- The fields of a message that are made up when it is created or routed. -/
structure Stamp where
  id : Value
  correlationId : Value
  replyTo : Value
  timestamp : Value
  traceId : Value
  spanId : Value
  parentSpanId : Value

/-- The message that is serialized. -/
def FrameworkMessage.fields
    (message : FrameworkMessage) (stamp : Stamp) : MessageFields where
  id := stamp.id
  type := message.type
  sender := .str message.sender
  recipient := .str message.recipient
  correlationId := stamp.correlationId
  replyTo := stamp.replyTo
  payload := .dict message.payload
  timestamp := stamp.timestamp
  traceId := stamp.traceId
  spanId := stamp.spanId
  parentSpanId := stamp.parentSpanId
  attempt := .int 0
  priority := .int message.priority
  ttl := .none
  seq := .none

/-! ## Deployments -/

/-- What decides whether `Runtime.start` provides an identity for an agent. -/
inductive AgentKind where
  | agent
  | dynamicSupervisor
  | httpGateway
  /-- A `TopologyAgent` or a `TopologyServer`. -/
  | topologyIntrospection
  /-- An `HTTPGateway` whose configuration names a topology agent. -/
  | topologyGateway
deriving DecidableEq

/-- The units of the topology introspection never sign. -/
def AgentKind.exempt : AgentKind → Bool
  | .topologyIntrospection | .topologyGateway => true
  | _ => false

/-- A deployment with signing enabled on a distributed transport. -/
structure Deployment (libraries : Libraries) where
  /-- `root_supervisor.all_agents()`. -/
  agents : List (String × AgentKind)
  /-- `AgentIdentity.load` or `load_or_generate`. -/
  load : String → AgentIdentity libraries
  /-- The identities minted for dynamic children of the runtime. -/
  spawned : String → Option (AgentIdentity libraries)
  /-- The serializer of the workers. -/
  worker : Serializer libraries

namespace Deployment

variable {libraries : Libraries}

/-- `Runtime.start` provides an identity for the name. -/
def provisioned (deployment : Deployment libraries) (name : String) : Bool :=
  deployment.agents.any fun agent => agent.1 = name && !agent.2.exempt

/-- The identities of the runtime's signer. -/
def identities
    (deployment : Deployment libraries) (name : String) :
    Option (AgentIdentity libraries) :=
  match deployment.spawned name with
  | some identity => some identity
  | none =>
      if deployment.provisioned name then some (deployment.load name)
      else none

/-- The serializer of a process. -/
def serializer
    (deployment : Deployment libraries) : Process → Serializer libraries
  | .runtime => .signing deployment.identities
  | .worker => deployment.worker

end Deployment

/-- The receiver knows the verify key of every identity of the serializer. -/
def MessageSigner.Trusts
    (receiver : MessageSigner)
    (serializer : Serializer receiver.libraries) : Prop :=
  ∀ identities, serializer = .signing identities →
    ∀ name identity, identities name = some identity →
      receiver.registry name = some identity.verifyKey

/-- The serializer produces bytes from which the receiver has the message. -/
def MessageSigner.Accepts
    (receiver : MessageSigner) (cache : NonceCache)
    (serializer : Serializer receiver.libraries) (nonce : Bytes)
    (message : MessageFields) : Prop :=
  ∃ data,
    serializer.serialize receiver.config nonce message.toDict = .ok data ∧
      (receiver.deserialize cache data).1 = .ok message

/-! ## Round trips -/

theorem fromDict_toDict
    (libraries : Libraries) {message : MessageFields}
    (jsonable : message.payload.jsonable = true) :
    MessageFields.fromDict libraries (.dict message.toDict) =
      some message := by
  have payload :
      field message.toDict "payload" (.dict []) = message.payload := rfl
  unfold MessageFields.fromDict
  simp only [payload, jsonable, if_true]
  rfl

theorem payload_jsonable (message : FrameworkMessage) :
    (Value.dict message.payload).jsonable = true := by
  have texts : ∀ items : List String,
      Value.jsonable.jsonableItems (items.map .str) = true := by
    intro items
    induction items with
    | nil => rfl
    | cons item rest ih =>
        simpa [Value.jsonable, Value.jsonable.jsonableItems] using ih
  cases message with
  | runtimeMessage type recipient payload => exact payload.property
  | reply host supervisor recipient payload => exact payload.property
  | workerRegister payload => exact payload.property
  | healthAck channel recipient payload => exact payload.property
  | childRegister host supervisor child capabilities metadata pubkey epoch =>
      have inner := metadata.property
      simp [FrameworkMessage.payload, dictOf, Value.jsonable,
        Value.jsonable.jsonableEntries, texts] at inner ⊢
      exact inner
  | _ => rfl

section RoundTrip

variable {receiver : MessageSigner} {cache : NonceCache}
  {identities : String → Option (AgentIdentity receiver.libraries)}
  {nonce : Bytes} {message : MessageFields} {sender : String}

/-- The signature block that the receiver reads from an envelope. -/
theorem signatureBlock_envelopeOf
    (str : StrFunction) (msgDict : Dict) (signature : Bytes) :
    signatureBlock str (envelopeOf sender nonce msgDict signature) =
      some
        { signer := sender
          nonce := .bytes nonce
          signature := .bytes signature
          msgDict := .dict msgDict } := by
  have rendered : str.render (.str sender) = sender := str.render_str sender
  conv_rhs => rw [← rendered]
  rfl

/-- An envelope signed with a trusted identity is opened. -/
theorem verify_of_signed
    (strict : receiver.config.strict = true)
    (unseen : ¬ cache.Contains (.bytes nonce))
    {identity : AgentIdentity receiver.libraries}
    (trusted : receiver.registry sender = some identity.verifyKey)
    {msgDict : Dict} {signedBytes : Bytes}
    (packed :
      receiver.libraries.packb (outgoing sender nonce msgDict) =
        some signedBytes) :
    (receiver.verify cache
      (envelopeOf sender nonce msgDict (identity.sign signedBytes))).1 =
        .ok (.dict msgDict) := by
  refine (verify_ok_iff strict).mpr
    ⟨_, .bytes nonce, signatureBlock_envelopeOf _ msgDict _, rfl, unseen,
      ?_, rfl⟩
  refine ⟨identity.verifyKey, signedBytes, trusted, ?_, packed,
    identity.validates_sign signedBytes⟩
  simpa [Value.truthy] using identity.sign_ne_nil signedBytes

/-- What `deserialize` makes of a verified envelope. -/
theorem deserialize_of_verified
    {envelope : Dict} {data : Bytes} {msgDict : Value}
    (decoded : receiver.libraries.unpackb data = some (.dict envelope))
    (two : isVersionTwo envelope = true)
    (signed : (field? envelope "sig").isSome = true)
    (verified : (receiver.verify cache envelope).1 = .ok msgDict)
    (rebuilt :
      MessageFields.fromDict receiver.libraries msgDict = some message) :
    (receiver.deserialize cache data).1 = .ok message := by
  unfold MessageSigner.deserialize MessageSigner.openEnvelope
  rw [decoded]
  simp only [two, signed, if_true]
  cases outcome : receiver.verify cache envelope with
  | mk result after =>
      rw [outcome] at verified
      have ok : result = .ok msgDict := verified
      subst ok
      simp [rebuilt]

/-- A dictionary without a version is refused. -/
theorem deserialize_of_unsigned
    (strict : receiver.config.strict = true)
    {envelope : Dict} {data : Bytes}
    (decoded : receiver.libraries.unpackb data = some (.dict envelope))
    (one : isVersionTwo envelope = false) :
    (receiver.deserialize cache data).1 = .error .unsignedRejected := by
  unfold MessageSigner.deserialize MessageSigner.openEnvelope
  rw [decoded]
  simp [one, strict]

theorem sender_of_toDict
    (str : StrFunction) (named : message.sender = .str sender) :
    str.render (field message.toDict "sender" (.str "")) = sender := by
  have found : field message.toDict "sender" (.str "") = message.sender :=
    rfl
  rw [found, named, str.render_str]

/-- What `sign` returns under strict signing. -/
theorem sign_ok_iff
    (strict : receiver.config.strict = true)
    (named : message.sender = .str sender) {envelope : Dict} :
    sign receiver.config identities nonce message.toDict = .ok envelope ↔
      ∃ identity signedBytes,
        identities sender = some identity ∧
          receiver.libraries.packb (outgoing sender nonce message.toDict) =
            some signedBytes ∧
          envelope =
            envelopeOf sender nonce message.toDict
              (identity.sign signedBytes) := by
  have rendered := sender_of_toDict receiver.libraries.str named
  cases packed :
      receiver.libraries.packb (outgoing sender nonce message.toDict) with
  | none => simp [sign, rendered, packed]
  | some signedBytes =>
      cases found : identities sender with
      | none => simp [sign, rendered, packed, signatureOf, found, strict]
      | some identity =>
          have signed : (identity.sign signedBytes).isEmpty = false := by
            simpa using identity.sign_ne_nil signedBytes
          have done :
              sign receiver.config identities nonce message.toDict =
                .ok
                  (envelopeOf sender nonce message.toDict
                    (identity.sign signedBytes)) := by
            simp [sign, rendered, packed, signatureOf, found, signed]
          rw [done]
          constructor
          · intro same
            cases same
            exact ⟨identity, signedBytes, rfl, rfl, rfl⟩
          · rintro ⟨other, bytes, same, equal, rfl⟩
            cases same
            cases equal
            rfl

/--
Under strict signing a message is accepted exactly when its serializer can
sign for its sender and pack its envelope.
-/
theorem accepts_iff
    (strict : receiver.config.strict = true)
    (unseen : ¬ cache.Contains (.bytes nonce))
    {serializer : Serializer receiver.libraries}
    (trusts : receiver.Trusts serializer)
    (named : message.sender = .str sender)
    (jsonable : message.payload.jsonable = true)
    (decodes : serializer.Decodes receiver.config nonce message.toDict) :
    receiver.Accepts cache serializer nonce message ↔
      serializer.signs sender = true ∧
        serializer.packs sender nonce message.toDict = true := by
  cases serializer with
  | msgpack =>
      constructor
      · rintro ⟨data, serialized, opened⟩
        have packed :
            receiver.libraries.packb (.dict message.toDict) = some data := by
          simp only [Serializer.serialize, Serializer.envelope] at serialized
          split at serialized
          · cases serialized
          · rename_i found
            cases serialized
            exact found
        have decoded := decodes message.toDict data rfl packed
        rw [deserialize_of_unsigned strict decoded rfl] at opened
        cases opened
      · rintro ⟨signs, -⟩
        cases signs
  | signing identities =>
      constructor
      · rintro ⟨data, serialized, -⟩
        simp only [Serializer.serialize, Serializer.envelope] at serialized
        split at serialized
        · cases serialized
        · rename_i envelope signed
          rcases (sign_ok_iff strict named).mp signed with
            ⟨identity, signedBytes, found, packed, rfl⟩
          split at serialized
          · cases serialized
          · rename_i bytes whole
            constructor
            · simp [Serializer.signs, found]
            · simp [Serializer.packs, packed, signatureOf, found, whole]
      · rintro ⟨signs, packs⟩
        rcases Option.isSome_iff_exists.mp signs with ⟨identity, found⟩
        cases packed :
            receiver.libraries.packb
              (outgoing sender nonce message.toDict) with
        | none => simp [Serializer.packs, packed] at packs
        | some signedBytes =>
            have signed :
                sign receiver.config identities nonce message.toDict =
                  .ok
                    (envelopeOf sender nonce message.toDict
                      (identity.sign signedBytes)) :=
              (sign_ok_iff strict named).mpr
                ⟨identity, signedBytes, found, packed, rfl⟩
            simp only [Serializer.packs, packed, signatureOf, found] at packs
            rcases Option.isSome_iff_exists.mp packs with ⟨data, whole⟩
            have decoded := decodes _ data signed whole
            have verified :=
              verify_of_signed strict unseen (trusts _ rfl sender _ found)
                packed
            refine ⟨data, ?_, ?_⟩
            · simp [Serializer.serialize, Serializer.envelope, signed, whole]
            · exact deserialize_of_verified decoded rfl rfl verified
                (fromDict_toDict _ jsonable)

end RoundTrip

/--
Strict signing lets a message of the framework through exactly when the process
that sends it holds an identity for its sender, and its envelope can be packed.
-/
theorem framework_traffic_accepted_iff
    {receiver : MessageSigner} {cache : NonceCache}
    (deployment : Deployment receiver.libraries)
    (message : FrameworkMessage) (stamp : Stamp) {nonce : Bytes}
    (strict : receiver.config.strict = true)
    (trusts : receiver.Trusts (deployment.serializer message.origin))
    (unseen : ¬ cache.Contains (.bytes nonce))
    (decodes :
      (deployment.serializer message.origin).Decodes receiver.config nonce
        (message.fields stamp).toDict) :
    receiver.Accepts cache (deployment.serializer message.origin) nonce
        (message.fields stamp) ↔
      (deployment.serializer message.origin).signs message.sender = true ∧
        (deployment.serializer message.origin).packs message.sender nonce
          (message.fields stamp).toDict = true := by
  exact
    accepts_iff strict unseen trusts rfl (payload_jsonable message) decodes

/-- An identity over the short libraries. -/
def shortIdentity
    (wire : List Dict) (name : String) :
    AgentIdentity (shortLibraries wire) where
  sign := sealWith ("key of " ++ name)
  verifyKey := "key of " ++ name
  sign_ne_nil := by
    intro data
    simp [sealWith]
  validates_sign := by
    intro data
    exact beq_self_eq_true _

/-- A strict receiver that trusts the key of `echo`. -/
def echoReceiver (wire : List Dict) : MessageSigner where
  libraries := shortLibraries wire
  registry name := if name = "echo" then some "key of echo" else none
  config := { requireVerification := true, allowUnsigned := false }

/-- A deployment of one agent, with a worker that does not sign. -/
def echoDeployment
    (wire : List Dict) : Deployment (echoReceiver wire).libraries where
  agents := [("echo", .agent)]
  load := shortIdentity wire
  spawned := fun _ => none
  worker := .msgpack

/-- The stamp of an acknowledgement. -/
def echoStamp : Stamp where
  id := .str "0190"
  correlationId := .str "0191"
  replyTo := .none
  timestamp := .float (.finite 0)
  traceId := .str ""
  spanId := .str ""
  parentSpanId := .none

/-- The agent answers a heartbeat of its supervisor. -/
def echoAck : FrameworkMessage :=
  .heartbeatAck .runtime "echo" "_reply.1"

/-- The bytes on the wire are those of this envelope. -/
def echoWire : List Dict :=
  [envelopeOf "echo" [1] (echoAck.fields echoStamp).toDict
    (sealWith "key of echo"
      ((shortPackb
        (outgoing "echo" [1] (echoAck.fields echoStamp).toDict)).getD []))]

theorem echoReceiver_trusts
    (wire : List Dict) (process : Process) :
    (echoReceiver wire).Trusts
      ((echoDeployment wire).serializer process) := by
  intro identities same name identity found
  cases process with
  | worker => cases same
  | runtime =>
      cases same
      by_cases named : name = "echo"
      · subst named
        cases found
        rfl
      · simp [Deployment.identities, Deployment.provisioned, echoDeployment,
          Ne.symm named] at found

theorem unpackb_of_known
    {wire : List Dict} {envelope : Dict} {data : Bytes}
    (known : wire = [envelope])
    (packed : shortPackb (.dict envelope) = some data) :
    (shortLibraries wire).unpackb data = some (.dict envelope) := by
  subst known
  simp [shortLibraries, packed]

theorem echoWire_decodes :
    ((echoDeployment echoWire).serializer echoAck.origin).Decodes
      (echoReceiver echoWire).config [1]
      (echoAck.fields echoStamp).toDict := by
  intro envelope data enveloped packed
  have signed :
      sign (echoReceiver echoWire).config (echoDeployment echoWire).identities
        [1] (echoAck.fields echoStamp).toDict = .ok envelope :=
    enveloped
  have named : (echoAck.fields echoStamp).sender = .str "echo" := rfl
  rcases (sign_ok_iff rfl named).mp signed with
    ⟨identity, signedBytes, found, content, rfl⟩
  have own : identity = shortIdentity echoWire "echo" :=
    (Option.some.inj found).symm
  have bytes :
      shortPackb (outgoing "echo" [1] (echoAck.fields echoStamp).toDict) =
        some signedBytes :=
    content
  have known :
      echoWire =
        [envelopeOf "echo" [1] (echoAck.fields echoStamp).toDict
          (identity.sign signedBytes)] := by
    rw [own]
    unfold echoWire
    rw [bytes]
    rfl
  have whole :
      shortPackb
          (.dict
            (envelopeOf "echo" [1] (echoAck.fields echoStamp).toDict
              (identity.sign signedBytes))) =
        some data :=
    packed
  exact unpackb_of_known known whole

theorem heartbeat_ack_accepted :
    (echoReceiver echoWire).Accepts Cache.empty
      ((echoDeployment echoWire).serializer echoAck.origin) [1]
      (echoAck.fields echoStamp) := by
  have strict : (echoReceiver echoWire).config.strict = true := rfl
  have unseen :
      ¬ (Cache.empty : NonceCache).Contains (.bytes [1]) := by
    decide
  have ready :
      ((echoDeployment echoWire).serializer echoAck.origin).signs
          echoAck.sender = true ∧
        ((echoDeployment echoWire).serializer echoAck.origin).packs
          echoAck.sender [1] (echoAck.fields echoStamp).toDict = true := by
    decide +kernel
  have accepted :=
    framework_traffic_accepted_iff (echoDeployment echoWire) echoAck
      echoStamp strict (echoReceiver_trusts echoWire echoAck.origin) unseen
      echoWire_decodes
  exact accepted.mpr ready

/-- A message of the runtime itself cannot be sent. -/
theorem runtime_message_refused :
    ¬ (echoReceiver []).Accepts Cache.empty
      ((echoDeployment []).serializer .runtime) [1]
      ((FrameworkMessage.runtimeMessage "message" "echo" ⟨[], rfl⟩).fields
        echoStamp) := by
  rintro ⟨data, serialized, -⟩
  have refused :
      ((echoDeployment []).serializer .runtime).serialize
          (echoReceiver []).config [1]
          ((FrameworkMessage.runtimeMessage "message" "echo"
            ⟨[], rfl⟩).fields echoStamp).toDict =
        .error (.noSigningKey "_runtime") := by
    decide +kernel
  cases serialized.symm.trans refused

end Civitas.Security
