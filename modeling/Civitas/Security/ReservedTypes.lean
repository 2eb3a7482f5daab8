import Civitas.Gateway.Dispatch

/-!
# Reserved message types

The messaging calls of `AgentProcess` (`process.py`) down to
`MessageBus.route` and `MessageBus.request`.  Agent code may pass any value
for an argument, so a message type is a value and not a text.

Every call that sends checks the type it is given.  A reply is not sent by a
call: `reply_to` reads its type from the payload, `_dispatch` routes what the
handler returns, and the bus validates the `_agency.` namespace only.

The cancel frame that `stream` puts on the bus when its iteration ends is the
framework's own: no argument of the call reaches its type or its payload.
-/

namespace Civitas.Security

open Civitas.Gateway (reservedType unknownSystemType systemMessageTypes)
open Civitas.PyText
open Civitas.PyValue

/-! ## Messages and the bus -/

/-- The exceptions of the messaging calls. -/
inductive MessagingError where
  | typeIsNoText
  | reservedPrefix
  | payloadNotJson
  | notWired
  | noCapability
  | unknownSystemType
  | suspended
  | noRoute
  | notSerialized
  | transport
deriving DecidableEq

/-- A `Message`; `__post_init__` rejects payloads that are not JSON. -/
structure Outgoing where
  type : Value
  sender : String
  recipient : String
  payload : Dict
  json : (Value.dict payload).jsonable = true

/-- `Message(...)`. -/
def Outgoing.make
    (type : Value) (sender recipient : String) (payload : Dict) :
    Except MessagingError Outgoing :=
  if json : (Value.dict payload).jsonable = true
  then .ok ⟨type, sender, recipient, payload, json⟩
  else .error .payloadNotJson

/-- Registry, serializer and transport when a message is routed. -/
structure Bus where
  registered : String → Bool
  hasReplyAddress : String → Bool
  suspended : String → Bool
  transmits : Outgoing → Bool

/-- `_validate_message_type`. -/
def validateMessageType (type : Value) : Except MessagingError Unit :=
  match type with
  | .str text =>
      if unknownSystemType text then .error .unknownSystemType else .ok ()
  | _ => .error .typeIsNoText

/-- Serialization and publication, once an address is found. -/
def Bus.publish
    (bus : Bus) (serializes : Outgoing → Bool) (message : Outgoing) :
    Except MessagingError Outgoing :=
  if !serializes message then .error .notSerialized
  else if !bus.transmits message then .error .transport
  else .ok message

/-- `MessageBus.route`: the message published, or the exception raised. -/
def Bus.route
    (bus : Bus) (serializes : Outgoing → Bool) (message : Outgoing) :
    Except MessagingError Outgoing := do
  validateMessageType message.type
  if bus.registered message.recipient ||
      bus.hasReplyAddress message.recipient ||
      startsWith message.recipient "_reply."
  then bus.publish serializes message
  else .error .noRoute

/-- `MessageBus.request`, as far as the request is concerned. -/
def Bus.request
    (bus : Bus) (serializes : Outgoing → Bool)
    (failIfSuspended : Bool) (message : Outgoing) :
    Except MessagingError Outgoing := do
  validateMessageType message.type
  if failIfSuspended && bus.suspended message.recipient
  then .error .suspended
  else if bus.registered message.recipient
  then bus.publish serializes message
  else .error .noRoute

/-! ## The messaging calls of an agent -/

/-- What a call published before it returned or raised. -/
structure Effect where
  published : List Outgoing := []
  raised : Option MessagingError := none

/-- The effect of one attempt to publish. -/
def Effect.of : Except MessagingError Outgoing → Effect
  | .ok message => { published := [message] }
  | .error error => { raised := some error }

/-- The agent and what it finds when it makes a call. -/
structure Setting where
  name : String
  wired : Bool
  bus : Nat → Bus
  choose : String → Option String
  lookupAll : String → List String

/-- `_reject_reserved_type`. -/
def rejectReservedType (type : Value) : Except MessagingError Unit :=
  match type with
  | .str text =>
      if reservedType text then .error .reservedPrefix else .ok ()
  | _ => .error .typeIsNoText

variable (setting : Setting) (serializes : Outgoing → Bool)

/-- `send`, at a moment of the call it is made in. -/
def Setting.send
    (moment : Nat) (recipient : String) (payload : Dict) (type : Value) :
    Except MessagingError Outgoing := do
  rejectReservedType type
  if !setting.wired then .error .notWired
  else
    let message ← Outgoing.make type setting.name recipient payload
    (setting.bus moment).route serializes message

/-- `ask` down to its request. -/
def Setting.ask
    (recipient : String) (payload : Dict) (type : Value)
    (failIfSuspended : Bool) : Except MessagingError Outgoing := do
  rejectReservedType type
  if !setting.wired then .error .notWired
  else
    let message ← Outgoing.make type setting.name recipient payload
    (setting.bus 0).request serializes failIfSuspended message

/-- `send_capable`; the registry chooses one of the capable agents. -/
def Setting.sendCapable
    (capability : String) (payload : Dict) (type : Value) :
    Except MessagingError Outgoing := do
  rejectReservedType type
  match setting.choose capability with
  | none => .error .noCapability
  | some address => setting.send serializes 0 address payload type

/-- The loop of `broadcast`. -/
def Setting.sendAll (payload : Dict) : Nat → List String → Effect
  | _, [] => {}
  | moment, target :: rest =>
      match setting.send serializes moment target payload
          (.str "message") with
      | .error error => { raised := some error }
      | .ok message =>
          let later := Setting.sendAll payload (moment + 1) rest
          { later with published := message :: later.published }

/-- `emit_eval`. -/
def Setting.emitEval
    (eventType : Value) (payload : Dict) (evalAgent : String) : Effect :=
  if setting.wired then
    Effect.of
      (setting.send serializes 0 evalAgent
        (merge
          (dictOf
            [("agent_name", .str setting.name), ("event_type", eventType)])
          payload)
        (.str "civitas.eval.event"))
  else {}

/-- The cancel frame of `_emit_cancel`. -/
def streamCancel (sender recipient : String) : Outgoing where
  type := .str "civitas.stream.cancel"
  sender := sender
  recipient := recipient
  payload := []
  json := by decide

/-- `stream`, until its iteration ends: the request and the cancel frame. -/
def Setting.stream
    (recipient : String) (payload : Dict) (type : Value) : Effect :=
  match setting.send serializes 0 recipient payload type with
  | .error error => { raised := some error }
  | .ok request =>
      match (setting.bus 1).route serializes
          (streamCancel setting.name recipient) with
      | .ok frame => { published := [request, frame] }
      | .error .noRoute => { published := [request] }
      | .error error =>
          { published := [request]
            raised := some error }

/-- The message that a reply answers. -/
structure Original where
  replyTo : Option String := none
  sender : String
  correlated : Bool

/-- `reply_to`; `reply` is its use on the current message. -/
def Setting.replyTo
    (original : Original) (payload : Dict) :
    Except MessagingError Outgoing :=
  Outgoing.make (field payload "type" (.str "reply")) setting.name
    (match original.replyTo with
      | some address => if address = "" then original.sender else address
      | none => original.sender)
    payload

/-- A public messaging call, or a reply returned from the handler. -/
inductive MessagingCall where
  | send (recipient : String) (payload : Dict) (type : Value)
  | ask (recipient : String) (payload : Dict) (type : Value)
      (failIfSuspended : Bool)
  | sendCapable (capability : String) (payload : Dict) (type : Value)
  | call (name : String) (payload : Dict)
  | cast (name : String) (payload : Dict)
  | broadcast (pattern : String) (payload : Dict)
  | emitEval (eventType : Value) (payload : Dict) (evalAgent : String)
  | stream (recipient : String) (payload : Dict) (type : Value)
  | returned (original : Original) (reply : Outgoing)

/-- What a call publishes, and what it raises. -/
def Setting.perform : MessagingCall → Effect
  | .send recipient payload type =>
      .of (setting.send serializes 0 recipient payload type)
  | .ask recipient payload type failIfSuspended =>
      .of (setting.ask serializes recipient payload type failIfSuspended)
  | .sendCapable capability payload type =>
      .of (setting.sendCapable serializes capability payload type)
  | .call name payload =>
      .of (setting.ask serializes name payload (.str "message") false)
  | .cast name payload =>
      .of (setting.send serializes 0 name
        (merge payload (dictOf [("__cast__", .bool true)]))
        (.str "message"))
  | .broadcast pattern payload =>
      if setting.wired then
        setting.sendAll serializes payload 0 (setting.lookupAll pattern)
      else { raised := some .notWired }
  | .emitEval eventType payload evalAgent =>
      setting.emitEval serializes eventType payload evalAgent
  | .stream recipient payload type =>
      setting.stream serializes recipient payload type
  | .returned original reply =>
      if original.correlated && setting.wired then
        .of ((setting.bus 0).route serializes reply)
      else {}

/-! ## The law and its condition -/

/-- The type is a text without a reserved prefix. -/
def PlainType (type : Value) : Prop :=
  ∃ text, type = .str text ∧ reservedType text = false

/-- The exceptions that the message is responsible for, and not the bus. -/
def MessagingError.ofMessage : MessagingError → Bool
  | .typeIsNoText | .unknownSystemType | .notSerialized => true
  | _ => false

/-- The call is a reply of the handler. -/
def MessagingCall.isReply : MessagingCall → Bool
  | .returned _ _ => true
  | _ => false

/-- The message is the cancel frame at the end of a stream. -/
def MessagingCall.EndsStream
    (call : MessagingCall) (setting : Setting) (message : Outgoing) : Prop :=
  match call with
  | .stream recipient _ _ => message = streamCancel setting.name recipient
  | _ => False

/--
Wherever the agent makes the call, every message that is published has a plain
type, or is the cancel frame of a stream, and no reply raises on its own
account.
-/
def MessagingCall.Safe
    (serializes : Outgoing → Bool) (call : MessagingCall) : Prop :=
  ∀ setting : Setting,
    (∀ message ∈ (setting.perform serializes call).published,
        PlainType message.type ∨ call.EndsStream setting message) ∧
      (call.isReply = true → ∀ error,
        (setting.perform serializes call).raised = some error →
          error.ofMessage = false)

/-- A reply has a plain type and can be serialized, if it is routed. -/
def MessagingCall.PlainReply
    (serializes : Outgoing → Bool) : MessagingCall → Prop
  | .returned original reply =>
      original.correlated = true →
        PlainType reply.type ∧ serializes reply = true
  | _ => True

/-! ## Checked types -/

theorem reservedType_of_unknownSystemType
    {text : String} (unknown : unknownSystemType text = true) :
    reservedType text = true := by
  unfold unknownSystemType at unknown
  rw [Bool.and_eq_true] at unknown
  rw [reservedType, unknown.1, Bool.true_or]

theorem validateMessageType_of_plain
    {type : Value} (plain : PlainType type) :
    validateMessageType type = .ok () := by
  rcases plain with ⟨text, rfl, unreserved⟩
  have known : unknownSystemType text = false := by
    cases unknown : unknownSystemType text with
    | false => rfl
    | true =>
        rw [reservedType_of_unknownSystemType unknown] at unreserved
        contradiction
  simp [validateMessageType, known]

theorem plainType_of_rejectReservedType
    {type : Value} (passed : rejectReservedType type = .ok ()) :
    PlainType type := by
  cases type with
  | str text =>
      refine ⟨text, rfl, ?_⟩
      cases reserved : reservedType text with
      | false => rfl
      | true => simp [rejectReservedType, reserved] at passed
  | _ => simp [rejectReservedType] at passed

/-! ## The bus -/

theorem Bus.of_publish_eq_ok
    {bus : Bus} {serializes : Outgoing → Bool} {message published : Outgoing}
    (sent : bus.publish serializes message = .ok published) :
    published = message := by
  unfold Bus.publish at sent
  split at sent
  · contradiction
  · split at sent
    · contradiction
    · exact (Except.ok.inj sent).symm

/-- A routed message has been validated. -/
theorem Bus.of_route_eq_ok
    {bus : Bus} {serializes : Outgoing → Bool} {message published : Outgoing}
    (sent : bus.route serializes message = .ok published) :
    published = message := by
  unfold Bus.route at sent
  cases validated : validateMessageType message.type with
  | error error =>
      rw [validated] at sent
      contradiction
  | ok done =>
      rw [validated] at sent
      change (if _ then _ else _) = _ at sent
      split at sent
      · exact Bus.of_publish_eq_ok sent
      · contradiction

theorem Bus.of_request_eq_ok
    {bus : Bus} {serializes : Outgoing → Bool} {failIfSuspended : Bool}
    {message published : Outgoing}
    (sent : bus.request serializes failIfSuspended message = .ok published) :
    published = message := by
  unfold Bus.request at sent
  cases validated : validateMessageType message.type with
  | error error =>
      rw [validated] at sent
      contradiction
  | ok done =>
      rw [validated] at sent
      change (if _ then _ else _) = _ at sent
      split at sent
      · contradiction
      · split at sent
        · exact Bus.of_publish_eq_ok sent
        · contradiction

/-- A plain message that can be serialized fails on account of the bus. -/
theorem Bus.ofMessage_of_route_eq_error
    {bus : Bus} {serializes : Outgoing → Bool} {message : Outgoing}
    {error : MessagingError}
    (plain : PlainType message.type)
    (serialized : serializes message = true)
    (failed : bus.route serializes message = .error error) :
    error.ofMessage = false := by
  unfold Bus.route at failed
  rw [validateMessageType_of_plain plain] at failed
  change (if _ then _ else _) = _ at failed
  split at failed
  · simp only [Bus.publish, serialized, Bool.not_true, Bool.false_eq_true,
      if_false] at failed
    split at failed
    · rw [← Except.error.inj failed]
      rfl
    · contradiction
  · rw [← Except.error.inj failed]
    rfl

/-! ## Sending -/

theorem Outgoing.type_of_make_eq_ok
    {type : Value} {sender recipient : String} {payload : Dict}
    {message : Outgoing}
    (made : Outgoing.make type sender recipient payload = .ok message) :
    message.type = type := by
  unfold Outgoing.make at made
  split at made
  · rw [← Except.ok.inj made]
  · contradiction

variable {setting : Setting} {serializes : Outgoing → Bool}

/-- The outcome of the check, the wiring and the construction of a message. -/
theorem plain_of_checked
    {type : Value} {wired : Bool} {recipient : String} {payload : Dict}
    {next : Outgoing → Except MessagingError Outgoing} {published : Outgoing}
    (same : ∀ message sent, next message = .ok sent → sent = message)
    (sent :
      (do
        rejectReservedType type
        if !wired then .error .notWired
        else
          let message ← Outgoing.make type setting.name recipient payload
          next message) = .ok published) :
    PlainType published.type := by
  cases checked : rejectReservedType type with
  | error error =>
      rw [checked] at sent
      contradiction
  | ok done =>
      rw [checked] at sent
      change (if _ then _ else _) = _ at sent
      split at sent
      · contradiction
      · cases made : Outgoing.make type setting.name recipient payload with
        | error error =>
            rw [made] at sent
            contradiction
        | ok message =>
            rw [made] at sent
            rw [same message published sent, Outgoing.type_of_make_eq_ok made]
            exact plainType_of_rejectReservedType checked

/-- What `send` publishes has a plain type. -/
theorem Setting.plain_of_send
    {moment : Nat} {recipient : String} {payload : Dict} {type : Value}
    {published : Outgoing}
    (sent :
      setting.send serializes moment recipient payload type =
        .ok published) :
    PlainType published.type :=
  plain_of_checked (fun _ _ routed => Bus.of_route_eq_ok routed) sent

theorem Setting.plain_of_ask
    {recipient : String} {payload : Dict} {type : Value}
    {failIfSuspended : Bool} {published : Outgoing}
    (sent :
      setting.ask serializes recipient payload type failIfSuspended =
        .ok published) :
    PlainType published.type :=
  plain_of_checked (fun _ _ requested => Bus.of_request_eq_ok requested) sent

theorem Setting.plain_of_sendCapable
    {capability : String} {payload : Dict} {type : Value}
    {published : Outgoing}
    (sent :
      setting.sendCapable serializes capability payload type =
        .ok published) :
    PlainType published.type := by
  unfold Setting.sendCapable at sent
  cases checked : rejectReservedType type with
  | error error =>
      rw [checked] at sent
      contradiction
  | ok done =>
      rw [checked] at sent
      cases chosen : setting.choose capability with
      | none =>
          rw [chosen] at sent
          contradiction
      | some address =>
          rw [chosen] at sent
          exact Setting.plain_of_send sent

/-- An attempt publishes only what it returns. -/
theorem Effect.eq_ok_of_mem_of
    {attempt : Except MessagingError Outgoing} {message : Outgoing}
    (published : message ∈ (Effect.of attempt).published) :
    attempt = .ok message := by
  cases attempt with
  | error error =>
      change message ∈ [] at published
      contradiction
  | ok sent =>
      change message ∈ [sent] at published
      rw [List.mem_singleton.mp published]

/-- Every message of a broadcast has a plain type. -/
theorem Setting.plain_of_mem_sendAll
    {payload : Dict} {message : Outgoing} (targets : List String) :
    ∀ moment,
      message ∈
          (setting.sendAll serializes payload moment targets).published →
        PlainType message.type := by
  induction targets with
  | nil =>
      intro moment published
      change message ∈ [] at published
      contradiction
  | cons target rest inductionHypothesis =>
      intro moment published
      unfold Setting.sendAll at published
      split at published
      · contradiction
      · next sent outcome =>
          rcases List.mem_cons.mp published with head | later
          · rw [head]
            exact Setting.plain_of_send outcome
          · exact inductionHypothesis (moment + 1) later

/-- What a stream publishes is a plain request, and then its cancel frame. -/
theorem Setting.mem_stream
    {recipient : String} {payload : Dict} {type : Value} {message : Outgoing}
    (published :
      message ∈
        (setting.stream serializes recipient payload type).published) :
    PlainType message.type ∨
      message = streamCancel setting.name recipient := by
  unfold Setting.stream at published
  split at published
  · contradiction
  · next request sent =>
      have plain : PlainType request.type := Setting.plain_of_send sent
      split at published
      · next frame routed =>
          rcases List.mem_cons.mp published with head | last
          · exact .inl (head ▸ plain)
          · right
            rw [List.mem_singleton.mp last]
            exact Bus.of_route_eq_ok routed
      · exact .inl (List.mem_singleton.mp published ▸ plain)
      · exact .inl (List.mem_singleton.mp published ▸ plain)

/-! ## Replies -/

theorem Setting.type_of_replyTo
    {original : Original} {payload : Dict} {reply : Outgoing}
    (made : setting.replyTo original payload = .ok reply) :
    reply.type = field payload "type" (.str "reply") :=
  Outgoing.type_of_make_eq_ok made

/-- A bus that knows every name and loses nothing. -/
def openBus : Bus where
  registered _ := true
  hasReplyAddress _ := true
  suspended _ := false
  transmits _ := true

/-- A wired agent on such a bus. -/
def openSetting : Setting where
  name := "agent"
  wired := true
  bus _ := openBus
  choose _ := none
  lookupAll _ := []

theorem openBus_route
    (serializes : Outgoing → Bool) (message : Outgoing) :
    openBus.route serializes message =
      match validateMessageType message.type with
      | .error error => .error error
      | .ok () =>
          if serializes message then .ok message
          else .error .notSerialized := by
  unfold Bus.route
  cases validateMessageType message.type with
  | error error => rfl
  | ok done =>
      change openBus.publish serializes message = _
      cases serialized : serializes message with
      | false => simp [Bus.publish, serialized]
      | true => simp [openBus, Bus.publish, serialized]

theorem openSetting_perform_returned
    {original : Original} (reply : Outgoing)
    (correlated : original.correlated = true) :
    openSetting.perform serializes (.returned original reply) =
      .of (openBus.route serializes reply) := by
  simp [Setting.perform, correlated, openSetting]

/-- A reply that is safe on the open bus is plain and serialized. -/
theorem plain_of_openBus
    {reply : Outgoing}
    (plain : ∀ message,
      openBus.route serializes reply = .ok message → PlainType message.type)
    (quiet : ∀ error,
      openBus.route serializes reply = .error error →
        error.ofMessage = false) :
    PlainType reply.type ∧ serializes reply = true := by
  rw [openBus_route] at plain quiet
  cases validated : validateMessageType reply.type with
  | error error =>
      rw [validated] at quiet
      have harmless := quiet error rfl
      unfold validateMessageType at validated
      split at validated
      · split at validated
        · rw [← Except.error.inj validated] at harmless
          contradiction
        · contradiction
      · rw [← Except.error.inj validated] at harmless
        contradiction
  | ok done =>
      rw [validated] at plain quiet
      cases serialized : serializes reply with
      | false =>
          rw [serialized] at quiet
          have harmless := quiet .notSerialized rfl
          contradiction
      | true =>
          rw [serialized] at plain
          exact ⟨plain reply rfl, rfl⟩

theorem safe_returned_of_plainReply
    {original : Original} {reply : Outgoing}
    (plain :
      (MessagingCall.returned original reply).PlainReply serializes) :
    (MessagingCall.returned original reply).Safe serializes := by
  intro setting
  cases routed : original.correlated && setting.wired with
  | false =>
      have nothing :
          setting.perform serializes (.returned original reply) = {} := by
        simp only [Setting.perform, routed]
        rfl
      rw [nothing]
      constructor
      · intro message published
        change message ∈ [] at published
        contradiction
      · intro _ error raised
        contradiction
  | true =>
      have outcome :
          setting.perform serializes (.returned original reply) =
            .of ((setting.bus 0).route serializes reply) := by
        simp only [Setting.perform, routed]
        rfl
      rw [outcome]
      rw [Bool.and_eq_true] at routed
      have reply_plain := plain routed.1
      constructor
      · intro message published
        left
        rw [Bus.of_route_eq_ok (Effect.eq_ok_of_mem_of published)]
        exact reply_plain.1
      · intro _ error raised
        cases attempt : (setting.bus 0).route serializes reply with
        | ok message =>
            rw [attempt] at raised
            contradiction
        | error failure =>
            rw [attempt] at raised
            rw [← Option.some.inj raised]
            exact Bus.ofMessage_of_route_eq_error
              reply_plain.1 reply_plain.2 attempt

/-! ## Which calls are safe -/

/-- A call that sends is safe with any arguments. -/
theorem MessagingCall.safe_of_not_isReply
    {call : MessagingCall} (sends : call.isReply = false) :
    call.Safe serializes := by
  intro setting
  refine ⟨?_, fun isReply => absurd (sends.symm.trans isReply) (by decide)⟩
  intro message published
  cases call with
  | send recipient payload type =>
      exact .inl (Setting.plain_of_send (Effect.eq_ok_of_mem_of published))
  | ask recipient payload type failIfSuspended =>
      exact .inl (Setting.plain_of_ask (Effect.eq_ok_of_mem_of published))
  | sendCapable capability payload type =>
      exact .inl
        (Setting.plain_of_sendCapable (Effect.eq_ok_of_mem_of published))
  | call name payload =>
      exact .inl (Setting.plain_of_ask (Effect.eq_ok_of_mem_of published))
  | cast name payload =>
      exact .inl (Setting.plain_of_send (Effect.eq_ok_of_mem_of published))
  | broadcast pattern payload =>
      change message ∈
        (if setting.wired then
          setting.sendAll serializes payload 0 (setting.lookupAll pattern)
        else { raised := some .notWired }).published at published
      split at published
      · exact .inl (Setting.plain_of_mem_sendAll _ _ published)
      · contradiction
  | emitEval eventType payload evalAgent =>
      change message ∈ (Setting.emitEval _ _ _ _ _).published at published
      unfold Setting.emitEval at published
      split at published
      · exact .inl (Setting.plain_of_send (Effect.eq_ok_of_mem_of published))
      · contradiction
  | stream recipient payload type => exact Setting.mem_stream published
  | returned original reply => contradiction

theorem plainReply_of_safe_returned
    {original : Original} {reply : Outgoing}
    (safe : (MessagingCall.returned original reply).Safe serializes) :
    (MessagingCall.returned original reply).PlainReply serializes := by
  intro correlated
  have here := safe openSetting
  rw [openSetting_perform_returned reply correlated] at here
  refine plain_of_openBus ?_ ?_
  · intro message routed
    rw [routed] at here
    rcases here.1 message (List.mem_singleton.mpr rfl) with plain | stream
    · exact plain
    · exact stream.elim
  · intro error failed
    rw [failed] at here
    exact here.2 rfl error rfl

/--
Whatever the arguments of a messaging call are, no message it publishes has a
reserved type and no reply raises on its own account, precisely if the call is
not a reply, or the reply has a plain type and can be serialized.
-/
theorem MessagingCall.safe_iff_plainReply
    (serializes : Outgoing → Bool) (call : MessagingCall) :
    call.Safe serializes ↔ call.PlainReply serializes := by
  cases call with
  | returned original reply =>
      exact ⟨plainReply_of_safe_returned, safe_returned_of_plainReply⟩
  | _ =>
      exact ⟨fun _ => trivial, fun _ => safe_of_not_isReply rfl⟩

/-- The request that an agent answers. -/
def correlatedRequest : Original where
  replyTo := some "_reply.1"
  sender := "client"
  correlated := true

/-- The payload `{"type": "_agency.shutdown"}`. -/
def shutdownPayload : Dict :=
  dictOf [("type", .str "_agency.shutdown")]

/-- The payload `{"type": 5}`. -/
def numberedPayload : Dict :=
  dictOf [("type", .int 5)]

/--
The reply that `reply_to` builds from the payload of a shutdown is published
with its reserved type, and the reply with a number for a type raises.
-/
theorem returned_replies_are_not_safe :
    (∃ reply,
        openSetting.replyTo correlatedRequest shutdownPayload = .ok reply ∧
        (openSetting.perform (fun _ => true)
          (.returned correlatedRequest reply)).published = [reply] ∧
        reply.type = .str "_agency.shutdown" ∧
        ¬ (MessagingCall.returned correlatedRequest reply).Safe
          fun _ => true) ∧
      ∃ reply,
        openSetting.replyTo correlatedRequest numberedPayload = .ok reply ∧
        (openSetting.perform (fun _ => true)
          (.returned correlatedRequest reply)).raised =
            some .typeIsNoText ∧
        ¬ (MessagingCall.returned correlatedRequest reply).Safe
          fun _ => true := by
  constructor
  · refine ⟨⟨_, _, _, shutdownPayload, by decide⟩, rfl, ?_, rfl, ?_⟩
    · have known : validateMessageType (.str "_agency.shutdown") = .ok () := by
        decide +kernel
      have published := openBus_route (fun _ => true)
        ⟨.str "_agency.shutdown", "agent", "_reply.1", shutdownPayload,
          by decide⟩
      rw [known] at published
      rw [openSetting_perform_returned _ rfl]
      exact congrArg (fun outcome => (Effect.of outcome).published) published
    · rw [MessagingCall.safe_iff_plainReply]
      intro plainReply
      rcases (plainReply rfl).1 with ⟨text, same, unreserved⟩
      have reserved : reservedType "_agency.shutdown" = true := by
        decide +kernel
      rw [Value.str.inj same, unreserved] at reserved
      contradiction
  · refine ⟨⟨_, _, _, numberedPayload, by decide⟩, rfl, rfl, ?_⟩
    rw [MessagingCall.safe_iff_plainReply]
    intro plainReply
    rcases (plainReply rfl).1 with ⟨text, same, _⟩
    contradiction

end Civitas.Security
