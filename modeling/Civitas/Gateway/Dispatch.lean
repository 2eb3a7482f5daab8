import Civitas.Gateway.RouteTable

/-!
# Dispatching onto the bus

The shared core of the HTTP and gRPC surfaces: `GatewayDispatcher` of
`gateway/dispatch.py`, the checks of `AgentProcess.ask` and `send`, the raw
stream request of `HTTPGateway`, and the checks of `MessageBus.request` and
`route`.

A `Dispatch` is one request handed to the dispatcher.  `World.attempt` is the
message it puts on the bus, or the error raised before that.  The surroundings
(registry, transport, answering agents) may change from one dispatch of a
request to the next.

Trace ids and correlation ids are carried for tracing and for pairing replies
and decide nothing here; they are left out.
-/

namespace Civitas.Gateway

open Civitas.PyText
open Civitas.PyValue

/-! ## Message types -/

/-- `SYSTEM_MESSAGE_TYPES`. -/
def systemMessageTypes : List String :=
  ["_agency.heartbeat", "_agency.heartbeat_ack", "_agency.health_probe",
    "_agency.health_ack", "_agency.shutdown", "_agency.restart",
    "_agency.register", "_agency.deregister", "_agency.suspend",
    "_agency.resume", "_agency.force_restart", "_agency.child_crashed"]

/-- The types `AgentProcess._reject_reserved_type` raises on. -/
def reservedType (messageType : String) : Bool :=
  startsWith messageType "_agency." ||
    startsWith messageType "civitas.stream."

/-- The types `MessageBus._validate_message_type` raises on. -/
def unknownSystemType (messageType : String) : Bool :=
  startsWith messageType "_agency." &&
    !systemMessageTypes.contains messageType

/-! ## Messages and their surroundings -/

/-- Where a reply goes: a fresh endpoint of `ask`, or an agent's mailbox. -/
inductive ReplyTo where
  | ephemeral
  | agent (name : String)

/-- The fields of `Message` that its recipient acts on. -/
structure BusMessage where
  type : String
  sender : String
  recipient : String
  payload : Dict
  replyTo : Option ReplyTo := none

/-- How a delivered request can fail to be answered. -/
inductive CallFailure where
  | timeout
  | other

/-- Registry, transport and answering agents at the moment of a dispatch. -/
structure Surroundings where
  registered : String → Bool
  hasReplyAddress : String → Bool
  transmits : BusMessage → Bool
  answer : BusMessage → Except CallFailure Dict

/-- The three ways of putting a request on the bus. -/
inductive Mode where
  | call
  | cast
  | stream
deriving DecidableEq

/-- `dispatch(mode=…)` and the stream branch of `_dispatch_handler`. -/
def Mode.ofRoute (mode : String) : Mode :=
  if mode = "stream" then .stream
  else if mode = "cast" then .cast
  else .call

/--
One request handed to the dispatcher.  The last four fields record how it got
there: the middleware it passed, the identity they set, the route that chose
the middleware and the route that was dispatched.
-/
structure Dispatch where
  mode : Mode
  recipient : String
  msgType : String
  payload : Dict
  passed : List String := []
  auth : Option Dict := none
  matched : Option RouteEntry := none
  route : Option RouteEntry := none

/-- Errors raised before a message is on the bus. -/
inductive SendError where
  | reservedPrefix
  | payloadNotJson
  | unknownSystemType
  | noRoute
  | transport
deriving DecidableEq

/-! ## The checks on the way to the bus -/

/-- `MessageBus.route` finds an address. -/
def Surroundings.routable
    (here : Surroundings) (recipient : String) : Bool :=
  here.registered recipient || here.hasReplyAddress recipient ||
    startsWith recipient "_reply."

/-- The recipient is reachable in the given mode; `ask` needs the registry. -/
def Surroundings.resolves
    (here : Surroundings) (mode : Mode) (recipient : String) : Bool :=
  match mode with
  | .call => here.registered recipient
  | .cast | .stream => here.routable recipient

/-- `ask` and `send` reject reserved prefixes; a raw stream request does not. -/
def Mode.rejectsReserved : Mode → Bool
  | .call | .cast => true
  | .stream => false

/-- The message a dispatch builds. -/
def Dispatch.message (dispatch : Dispatch) (gateway : String) : BusMessage where
  type := dispatch.msgType
  sender := gateway
  recipient := dispatch.recipient
  payload := dispatch.payload
  replyTo :=
    match dispatch.mode with
    | .call => some .ephemeral
    | .cast => none
    | .stream => some (.agent gateway)

/--
`ask`, `send` and `_send_stream_request` down to the transport: the reserved
prefixes, the construction of the message, the check of the bus on system
types, the lookup of the recipient, and the transport.
-/
def Surroundings.attempt
    (here : Surroundings) (gateway : String) (dispatch : Dispatch) :
    Except SendError BusMessage :=
  if dispatch.mode.rejectsReserved && reservedType dispatch.msgType
  then .error .reservedPrefix
  else if !(Value.dict dispatch.payload).jsonable
  then .error .payloadNotJson
  else if unknownSystemType dispatch.msgType
  then .error .unknownSystemType
  else if !here.resolves dispatch.mode dispatch.recipient
  then .error .noRoute
  else if !here.transmits (dispatch.message gateway)
  then .error .transport
  else .ok (dispatch.message gateway)

/-- The type of a dispatch passes the checks of its mode. -/
def Dispatch.typeAdmitted (dispatch : Dispatch) : Bool :=
  !(dispatch.mode.rejectsReserved && reservedType dispatch.msgType) &&
    !unknownSystemType dispatch.msgType

/-- Everything but the type is in order: payload, recipient and transport. -/
def Surroundings.deliverable
    (here : Surroundings) (gateway : String) (dispatch : Dispatch) : Bool :=
  (Value.dict dispatch.payload).jsonable &&
    here.resolves dispatch.mode dispatch.recipient &&
    here.transmits (dispatch.message gateway)

/-- A message is put on the bus exactly when type and delivery are in order. -/
theorem Surroundings.attempt_ok_iff
    (here : Surroundings) (gateway : String) (dispatch : Dispatch)
    (message : BusMessage) :
    here.attempt gateway dispatch = .ok message ↔
      dispatch.typeAdmitted = true ∧
        here.deliverable gateway dispatch = true ∧
        message = dispatch.message gateway := by
  unfold attempt Dispatch.typeAdmitted deliverable
  cases (dispatch.mode.rejectsReserved && reservedType dispatch.msgType) with
  | true => simp
  | false =>
      cases unknownSystemType dispatch.msgType with
      | true => simp [apply_ite (· = Except.ok message)]
      | false =>
          cases (Value.dict dispatch.payload).jsonable with
          | false => simp
          | true =>
              cases here.resolves dispatch.mode dispatch.recipient with
              | false => simp
              | true =>
                  cases here.transmits (dispatch.message gateway) with
                  | false => simp
                  | true => simp [eq_comm]

/-! ## Results -/

/-- `DispatchStatus`. -/
inductive DispatchStatus where
  | ok
  | accepted
  | agentError
  | notFound
  | timeout
  | internal
deriving DecidableEq

/-- `DispatchResult`. -/
structure DispatchResult where
  status : DispatchStatus
  payload : Dict := []
  error : Option String := none

/-- The text of a routing failure. -/
def agentNotFound (recipient : String) : String :=
  "agent '" ++ recipient ++ "' not found"

/-- `GatewayDispatcher._call` after the attempt to send. -/
def callResult
    (str : StrFunction) (here : Surroundings) (recipient : String) :
    Except SendError BusMessage → DispatchResult
  | .error .noRoute =>
      { status := .notFound, error := some (agentNotFound recipient) }
  | .error _ =>
      { status := .internal, error := some "internal error" }
  | .ok message =>
      match here.answer message with
      | .error .timeout =>
          { status := .timeout, error := some "upstream timeout" }
      | .error .other =>
          { status := .internal, error := some "internal error" }
      | .ok reply =>
          match field? reply "error" with
          | some error =>
              { status := .agentError
                payload := reply
                error := some (str.render error) }
          | none => { status := .ok, payload := reply }

/-- `GatewayDispatcher._cast` after the attempt to send. -/
def castResult (recipient : String) :
    Except SendError BusMessage → DispatchResult
  | .error .noRoute =>
      { status := .notFound, error := some (agentNotFound recipient) }
  | .error _ =>
      { status := .internal, error := some "internal error" }
  | .ok _ => { status := .accepted }

/-! ## Sessions -/

/--
What one external request has done so far: the dispatches made, in order, and
the streams built but not yet iterated.
-/
structure Session where
  dispatches : List Dispatch := []
  streams : List Dispatch := []

/-- Everything outside the gateway that a request meets. -/
structure World where
  gateway : String
  str : StrFunction
  surroundings : Nat → Surroundings

/-- The surroundings of the next dispatch of a session. -/
def World.now (world : World) (session : Session) : Surroundings :=
  world.surroundings session.dispatches.length

/-- The message a dispatch made at a given moment put on the bus. -/
def World.put?
    (world : World) (moment : Nat) (dispatch : Dispatch) :
    Option BusMessage :=
  ((world.surroundings moment).attempt world.gateway dispatch).toOption

/-- The messages put on the bus on behalf of a request. -/
def World.puts
    (world : World) (session : Session) : List (Dispatch × BusMessage) :=
  session.dispatches.zipIdx.filterMap fun entry =>
    (world.put? entry.2 entry.1).map fun message => (entry.1, message)

/-- `GatewayDispatcher.dispatch`, recorded in the session. -/
def World.dispatch
    (world : World) (dispatch : Dispatch) (session : Session) :
    Session × DispatchResult :=
  let here := world.now session
  let sent := here.attempt world.gateway dispatch
  ({ session with dispatches := session.dispatches ++ [dispatch] },
    match dispatch.mode with
    | .cast => castResult dispatch.recipient sent
    | _ => callResult world.str here dispatch.recipient sent)

/-- `GatewayDispatcher.stream`: a generator that has not started. -/
def Session.openStream
    (session : Session) (dispatch : Dispatch) : Session × Nat :=
  ({ session with streams := session.streams ++ [dispatch] },
    session.streams.length)

/--
`_send_stream_request`; the flag is false when it raises.  A generator runs
it on its first iteration.
-/
def World.sendStreamRequest
    (world : World) (dispatch : Dispatch) (session : Session) :
    Session × Bool :=
  ({ session with dispatches := session.dispatches ++ [dispatch] },
    match (world.now session).attempt world.gateway dispatch with
    | .ok _ => true
    | .error _ => false)

/-- Iterating the stream behind a handle starts its request. -/
def World.iterate
    (world : World) (handle : Nat) (session : Session) : Session :=
  match session.streams[handle]? with
  | some dispatch => (world.sendStreamRequest dispatch session).1
  | none => session

theorem World.put?_eq_some_iff
    (world : World) (moment : Nat) (dispatch : Dispatch)
    (message : BusMessage) :
    world.put? moment dispatch = some message ↔
      dispatch.typeAdmitted = true ∧
        (world.surroundings moment).deliverable
          world.gateway dispatch = true ∧
        message = dispatch.message world.gateway := by
  rw [← Surroundings.attempt_ok_iff, put?]
  cases (world.surroundings moment).attempt world.gateway dispatch with
  | ok sent => simp [Except.toOption]
  | error raised => simp [Except.toOption]

/-- What is on the bus is what was dispatched, admitted and deliverable. -/
theorem World.mem_puts_iff
    (world : World) (session : Session)
    (dispatch : Dispatch) (message : BusMessage) :
    (dispatch, message) ∈ world.puts session ↔
      ∃ moment, session.dispatches[moment]? = some dispatch ∧
        dispatch.typeAdmitted = true ∧
        (world.surroundings moment).deliverable
          world.gateway dispatch = true ∧
        message = dispatch.message world.gateway := by
  simp only [puts, List.mem_filterMap, Option.map_eq_some_iff,
    world.put?_eq_some_iff, Prod.exists, Prod.mk.injEq,
    List.mem_zipIdx_iff_getElem?]
  constructor
  · rintro ⟨_, moment, found, _, sent, rfl, rfl⟩
    exact ⟨moment, found, sent⟩
  · rintro ⟨moment, found, sent⟩
    exact ⟨dispatch, moment, found, message, sent, rfl, rfl⟩

end Civitas.Gateway
