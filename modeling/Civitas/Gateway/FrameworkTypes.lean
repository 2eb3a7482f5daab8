import Civitas.Gateway.Arrivals

/-!
# Framework messages from outside

The message loop interprets some types itself: the `_agency.*` types, the
`civitas.stream.*` types, `civitas.eval.halt` and the `civitas.dynamic.*`
types.  A client chooses the type of its message, and the checks on the way to
the bus reject fewer types than the loop interprets: `ask` and `send` reject
two prefixes, and a stream request is only checked by the bus.

The type a request asks for stands in it: in the header `x-civitas-type`, in
the `type` field of a gRPC call, nowhere in a WebSocket frame.  The mode is
that of the route its method and path match, or of the gRPC method.  The
result characterizes the requests that put no framework message on the bus,
in whatever deployment, by these two.
-/

namespace Civitas.Gateway

open Civitas.PyText
open Civitas.PyValue

/-- The types the framework interprets itself. -/
def frameworkType (messageType : String) : Bool :=
  startsWith messageType "_agency." ||
    startsWith messageType "civitas.stream." ||
    messageType == "civitas.eval.halt" ||
    startsWith messageType "civitas.dynamic."

/-- The framework types that no check of the given mode rejects. -/
def forgeable (mode : Mode) (messageType : String) : Bool :=
  messageType == "civitas.eval.halt" ||
    startsWith messageType "civitas.dynamic." ||
    (mode == .stream &&
      (systemMessageTypes.contains messageType ||
        startsWith messageType "civitas.stream."))

/-- No message put on the bus for the request has a framework type. -/
def NoFrameworkMessage
    (edge : Edge) (config : GatewayConfig) (request : ExternalRequest) :
    Prop :=
  ∀ dispatch message,
    (dispatch, message) ∈ edge.puts (edge.serve config request) →
      frameworkType message.type = false

/-- The mode in which a request with this method and path is dispatched. -/
def GatewayConfig.modeOf
    (config : GatewayConfig) (method path : String) : Option Mode :=
  match config.routeTable.match method path with
  | some (entry, _) => some (Mode.ofRoute entry.mode)
  | none => (defaultRoute method path []).map (·.2.1)

/-- The type in the headers is refused in the mode of the method and path. -/
def GatewayConfig.Unforgeable
    (config : GatewayConfig) (method path : String)
    (headers : List (String × String)) : Prop :=
  ∀ mode, config.modeOf method path = some mode →
    forgeable mode (clientType headers) = false

/--
The request asks for no type that the checks of its mode let through: the
gateway answers it itself, or the type it names is not forgeable.
-/
def GatewayConfig.NoForgeableType
    (config : GatewayConfig) : ExternalRequest → Prop
  | .http scope =>
      servesDocs config scope = false →
        config.Unforgeable scope.method scope.path scope.headers
  | .websocket _ => True
  | .grpc call =>
      config.grpcEnabled = true →
        (Value.dict call.payload).jsonable = true →
          forgeable call.dispatch.mode call.dispatch.msgType = false

/--
The same of what arrives at the end of the chain, for middleware that hands
on another request than it was given.
-/
def Edge.HandsOnUnforgeable
    (edge : Edge) (config : GatewayConfig) : ExternalRequest → Prop
  | .http scope =>
      servesDocs config scope = false →
        ∀ body, edge.parseBody scope = .ok body →
          ∀ request ∈ edge.arrivals config scope body,
            config.Unforgeable request.method request.path request.headers
  | request => config.NoForgeableType request

/-! ## Which types pass the checks -/

/-- A text has only one of two incomparable beginnings. -/
theorem startsWith_exclusive
    {text first second : String}
    (begins : startsWith text first = true)
    (apart : startsWith first second = false)
    (apart' : startsWith second first = false) :
    startsWith text second = false := by
  rw [Bool.eq_false_iff]
  intro other
  simp only [startsWith, List.isPrefixOf_iff_prefix] at begins other
  rcases List.prefix_or_prefix_of_prefix begins other with within | within
  · rw [startsWith, List.isPrefixOf_iff_prefix.mpr within] at apart'
    cases apart'
  · rw [startsWith, List.isPrefixOf_iff_prefix.mpr within] at apart
    cases apart

theorem systemMessageTypes_agency :
    ∀ messageType ∈ systemMessageTypes,
      startsWith messageType "_agency." = true := by
  decide

theorem halt_not_reserved :
    startsWith "civitas.eval.halt" "_agency." = false ∧
      startsWith "civitas.eval.halt" "civitas.stream." = false := by
  decide

theorem dynamic_not_reserved
    {messageType : String}
    (dynamic : startsWith messageType "civitas.dynamic." = true) :
    startsWith messageType "_agency." = false ∧
      startsWith messageType "civitas.stream." = false := by
  constructor
  · exact startsWith_exclusive dynamic (by decide) (by decide)
  · exact startsWith_exclusive dynamic (by decide) (by decide)

theorem stream_not_agency
    {messageType : String}
    (stream : startsWith messageType "civitas.stream." = true) :
    startsWith messageType "_agency." = false :=
  startsWith_exclusive stream (by decide) (by decide)

/-- The forgeable types are the framework types that the checks admit. -/
theorem forgeable_iff (dispatch : Dispatch) :
    forgeable dispatch.mode dispatch.msgType = true ↔
      dispatch.typeAdmitted = true ∧
        frameworkType dispatch.msgType = true := by
  have system := systemMessageTypes_agency dispatch.msgType
  have dynamic := @dynamic_not_reserved dispatch.msgType
  have stream := @stream_not_agency dispatch.msgType
  by_cases halt : dispatch.msgType = "civitas.eval.halt"
  · rw [halt]
    simp [forgeable, frameworkType, Dispatch.typeAdmitted, reservedType,
      unknownSystemType, halt, halt_not_reserved.1, halt_not_reserved.2]
  · cases mode : dispatch.mode with
    | call =>
        simp only [forgeable, frameworkType, Dispatch.typeAdmitted,
          reservedType, unknownSystemType, mode, Mode.rejectsReserved]
        grind
    | cast =>
        simp only [forgeable, frameworkType, Dispatch.typeAdmitted,
          reservedType, unknownSystemType, mode, Mode.rejectsReserved]
        grind
    | stream =>
        simp only [forgeable, frameworkType, Dispatch.typeAdmitted,
          reservedType, unknownSystemType, mode, Mode.rejectsReserved]
        grind

/-! ## What requests ask for -/

/-- The default route reads the mode off the method and the path. -/
theorem mode_defaultRoute (method path : String) (body : Dict) :
    (defaultRoute method path body).map (·.2.1) =
      (defaultRoute method path []).map (·.2.1) := by
  unfold defaultRoute
  split
  · split_ifs <;> rfl
  · split_ifs <;> rfl
  · rfl

/-- A dispatch has the mode of its request and the type in its headers. -/
theorem GatewayConfig.terminal_mode_type
    {config : GatewayConfig} {scope : HttpScope} {request : GatewayRequest}
    {dispatch : Dispatch}
    (built : config.terminal scope request = some dispatch) :
    config.modeOf request.method request.path = some dispatch.mode ∧
      dispatch.msgType = clientType request.headers := by
  unfold GatewayConfig.terminal terminalDispatch at built
  unfold GatewayConfig.modeOf
  cases found : config.routeTable.match request.method request.path with
  | some target =>
      simp only [found, Option.some.injEq] at built
      subst built
      exact ⟨rfl, rfl⟩
  | none =>
      simp only [found] at built
      rcases Option.map_eq_some_iff.mp built with ⟨target, default, rfl⟩
      refine ⟨?_, rfl⟩
      simp [← mode_defaultRoute _ _ request.body, default]

/-- What a route of the table adds to a payload can be written as JSON. -/
theorem GatewayConfig.jsonable_payloadExtra
    {config : GatewayConfig} {entry : RouteEntry}
    (member : entry ∈ config.routeTable) :
    (Value.dict entry.payloadExtra).jsonable = true := by
  rcases config.mem_routeTable member with
    ⟨_, _, _, _, plain⟩ | ⟨op, _, _, extra⟩ | ⟨op, _, _, extra⟩
  · rw [plain]
    rfl
  · rw [extra]
    rfl
  · rw [extra]
    rfl

/-- Without a body and an identity, what is dispatched is deliverable. -/
theorem GatewayConfig.terminal_jsonable
    {config : GatewayConfig} {scope : HttpScope} {request : GatewayRequest}
    {dispatch : Dispatch}
    (built : config.terminal scope request = some dispatch)
    (bodyless : request.body = []) (anonymous : request.auth = none) :
    (Value.dict dispatch.payload).jsonable = true := by
  unfold GatewayConfig.terminal terminalDispatch at built
  cases found : config.routeTable.match request.method request.path with
  | some target =>
      rcases target with ⟨entry, params⟩
      simp only [found, Option.some.injEq] at built
      subst built
      have extra :=
        config.jsonable_payloadExtra (RouteTable.mem_of_match found)
      have bound := Value.jsonable_texts params
      have principal :
          (Value.dict (dictOf
            [("__principal__", principalOf none)])).jsonable = true := by
        decide
      have empty : (Value.dict []).jsonable = true := rfl
      simp only [routePayload, bodyless, anonymous]
      split <;>
        simp only [Value.jsonable_merge, extra, bound, principal, empty,
          Bool.and_self]
  | none =>
      simp only [found] at built
      rcases Option.map_eq_some_iff.mp built with ⟨target, default, rfl⟩
      simp only [defaultRoute, bodyless] at default
      split at default
      · split_ifs at default
        cases default
        rfl
      · split_ifs at default
        · cases default
          rfl
        · cases default
          rfl
      · cases default

/-! ## The law -/

/-- No dispatch with a forgeable type means no framework message. -/
theorem noFrameworkMessage_of_all
    {edge : Edge} {config : GatewayConfig} {request : ExternalRequest}
    (refused : ∀ dispatch ∈ (edge.serve config request).dispatches,
      (Value.dict dispatch.payload).jsonable = true →
        forgeable dispatch.mode dispatch.msgType = false) :
    NoFrameworkMessage edge config request := by
  intro dispatch message sent
  rcases (edge.mem_puts_iff _ _ _).mp sent with
    ⟨moment, made, admitted, delivered, rfl⟩
  have jsonable : (Value.dict dispatch.payload).jsonable = true := by
    simp only [Surroundings.deliverable, Bool.and_eq_true] at delivered
    exact delivered.1.1
  have safe := refused dispatch (List.mem_of_getElem? made) jsonable
  rw [Bool.eq_false_iff] at safe ⊢
  intro framework
  exact safe ((forgeable_iff dispatch).mpr ⟨admitted, framework⟩)

/-- The types of WebSocket frames are the gateway's own. -/
theorem websocket_unforgeable
    (edge : Edge) (config : GatewayConfig) (connection : WsConnection) :
    (edge.handleWebsocket config connection).All fun dispatch =>
      forgeable dispatch.mode dispatch.msgType = false := by
  unfold Edge.handleWebsocket
  split
  · exact Session.All.empty _
  · split
    · have message : forgeable .stream "ws.message" = false := by decide
      have close : forgeable .stream "ws.close" = false := by decide
      exact
        edge.wsLoop_all _ (fun _ => message) close _ _
          (Session.All.empty _)
    · exact Session.All.empty _

theorem noFrameworkMessage_of_handsOnUnforgeable
    {edge : Edge} {config : GatewayConfig} {request : ExternalRequest}
    (condition : edge.HandsOnUnforgeable config request) :
    NoFrameworkMessage edge config request := by
  apply noFrameworkMessage_of_all
  cases request with
  | http scope =>
      have every : (edge.handleHttp config scope).All fun dispatch =>
          forgeable dispatch.mode dispatch.msgType = false := by
        rw [edge.handleHttp_all_iff]
        intro undocumented body parsed request arrived dispatch built
        have asked := config.terminal_mode_type built
        rw [asked.2]
        exact
          condition undocumented body parsed request arrived _ asked.1
      intro dispatch made _
      exact every.sent dispatch made
  | websocket connection =>
      intro dispatch made _
      exact
        (websocket_unforgeable edge config connection).sent dispatch made
  | grpc call =>
      intro dispatch made jsonable
      rcases mem_dispatches_handleGrpc made with ⟨enabled, rfl⟩
      exact condition enabled jsonable

/-- Middleware that forwards hands on what the client asked for. -/
theorem Edge.Forwards.handsOnUnforgeable
    {edge : Edge} (forwards : edge.Forwards) {config : GatewayConfig}
    {request : ExternalRequest}
    (condition : config.NoForgeableType request) :
    edge.HandsOnUnforgeable config request := by
  cases request with
  | http scope =>
      intro undocumented body _ arrived member
      rw [forwards.arrivals member]
      exact condition undocumented
  | websocket connection => trivial
  | grpc call => exact condition

/-- A forgeable type reaches the bus of a deployment that relays. -/
theorem noForgeableType_of_relay
    {config : GatewayConfig} {request : ExternalRequest}
    (safe :
      NoFrameworkMessage (relayEdge [] none) config request) :
    config.NoForgeableType request := by
  have refused : ∀ dispatch,
      ((relayEdge [] none).serve config request).dispatches =
          [dispatch] →
        (Value.dict dispatch.payload).jsonable = true →
          forgeable dispatch.mode dispatch.msgType = false := by
    intro dispatch made jsonable
    rw [Bool.eq_false_iff]
    intro forged
    rcases (forgeable_iff dispatch).mp forged with ⟨admitted, framework⟩
    have sent :=
      safe dispatch _
        (relayEdge_put (by rw [made]; rfl) admitted jsonable)
    rw [Dispatch.message, framework] at sent
    cases sent
  cases request with
  | websocket connection => trivial
  | http scope =>
      intro undocumented mode routed
      have built : ∃ dispatch,
          config.terminal scope (config.relayed scope [] none) =
            some dispatch := by
        unfold GatewayConfig.modeOf at routed
        unfold GatewayConfig.terminal terminalDispatch
        cases found : config.routeTable.match scope.method scope.path with
        | some target =>
            have again :
                config.routeTable.match
                  (config.relayed scope [] none).method
                  (config.relayed scope [] none).path = some target :=
              found
            simp [again]
        | none =>
            have again :
                config.routeTable.match
                  (config.relayed scope [] none).method
                  (config.relayed scope [] none).path = none :=
              found
            simp only [found] at routed
            rcases Option.map_eq_some_iff.mp routed with
              ⟨target, default, _⟩
            have same :
                defaultRoute (config.relayed scope [] none).method
                  (config.relayed scope [] none).path
                  (config.relayed scope [] none).body = some target :=
              default
            simp [again, same]
      rcases built with ⟨dispatch, built⟩
      have asked := config.terminal_mode_type built
      have same : mode = dispatch.mode :=
        Option.some.inj (routed.symm.trans asked.1)
      have safe :=
        refused dispatch
          (relayEdge_dispatches undocumented (fun _ => rfl) built)
          (config.terminal_jsonable built rfl (by simp
            [GatewayConfig.relayed]))
      rw [asked.2] at safe
      rw [same]
      exact safe
  | grpc call =>
      intro enabled jsonable
      apply refused call.dispatch _ jsonable
      have served :
          (relayEdge [] none).grpcAuthorizes config call = true := by
        simp [Edge.grpcAuthorizes, relayEdge, openEdge]
      simp only [Edge.serve, Edge.handleGrpc, enabled, served,
        Bool.and_self, if_true]
      cases call.method <;> rfl

/--
In every deployment an external request puts no framework message on the bus
if every request its middleware hands on asks for a type that the checks
refuse.  Over all deployments whose middleware forwards what it is given, it
puts none exactly when it asks for no forgeable type itself.
-/
theorem noFrameworkMessage_iff_noForgeableType
    (config : GatewayConfig) (request : ExternalRequest) :
    (∀ edge : Edge, edge.HandsOnUnforgeable config request →
      NoFrameworkMessage edge config request) ∧
    ((∀ edge : Edge, edge.Forwards →
        NoFrameworkMessage edge config request) ↔
      config.NoForgeableType request) := by
  refine ⟨fun edge => noFrameworkMessage_of_handsOnUnforgeable, ?_, ?_⟩
  · intro always
    exact
      noForgeableType_of_relay
        (always _ (relayEdge_forwards [] none))
  · intro condition edge forwards
    exact
      noFrameworkMessage_of_handsOnUnforgeable
        (forwards.handsOnUnforgeable condition)

/-- `POST /agents/worker` with `x-civitas-type: civitas.eval.halt`. -/
def haltRequest : ExternalRequest :=
  .http
    { method := "POST"
      path := "/agents/worker"
      headers := [("x-civitas-type", "civitas.eval.halt")] }

/-- The types of the messages the request puts on the bus. -/
theorem haltRequest_types :
    ((openEdge fun _ => none).puts
        ((openEdge fun _ => none).serve {} haltRequest)).map
      (·.2.type) = ["civitas.eval.halt"] := by
  decide +kernel

/-- The default route delivers a halt order to an agent of its choice. -/
theorem halt_request_forges :
    ¬ NoFrameworkMessage (openEdge fun _ => none) {} haltRequest := by
  intro safe
  have sent :
      "civitas.eval.halt" ∈
        ((openEdge fun _ => none).puts
          ((openEdge fun _ => none).serve {} haltRequest)).map
            (·.2.type) := by
    rw [haltRequest_types]
    exact List.mem_singleton.mpr rfl
  rcases List.mem_map.mp sent with ⟨⟨dispatch, message⟩, member, halt⟩
  have clean := safe dispatch message member
  rw [halt] at clean
  revert clean
  decide

end Civitas.Gateway
