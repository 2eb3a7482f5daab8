import Civitas.Gateway.Arrivals
import Civitas.Gateway.TopologyAgent

/-!
# Control-plane writes from outside

A gateway registers write routes for its topology agent.  They carry the
topology middleware and inject the authenticated principal last, so that no
part of the body can replace it.

The agent itself cannot tell these routes from any other way of reaching it:
the default route, a configured route, a WebSocket route or a gRPC call can
name the agent as recipient and fill `__op__` and `__principal__` from the
body.  The result says when a request is handled as intended, whatever its
body says: when it cannot order a write, or runs through a write route.
-/

namespace Civitas.Gateway

open Civitas.PyText
open Civitas.PyValue

/-! ## The law -/

/-- The actor that the principal set by the middleware stands for. -/
def authenticatedActor (str : StrFunction) (auth : Option Dict) :
    Option String :=
  match principalOf auth with
  | .dict entries =>
      some (str.render (field entries "id" (.str "unauthenticated")))
  | _ => none

/-- The request makes the agent execute this write, by this dispatch. -/
def Executes
    (edge : Edge) (config : GatewayConfig) (agent : TopologyAgent)
    (request : ExternalRequest) (dispatch : Dispatch)
    (write : ControlWrite) : Prop :=
  ∃ message,
    (dispatch, message) ∈ edge.puts (edge.serve config request) ∧
      agent.executes message = some write

/--
Every write executed for the request passed the topology middleware and
records the principal set by the middleware.
-/
def WritesAuthorized
    (edge : Edge) (config : GatewayConfig) (agent : TopologyAgent)
    (request : ExternalRequest) : Prop :=
  ∀ dispatch write,
    Executes edge config agent request dispatch write →
      config.topologyMiddleware ⊆ dispatch.passed ∧
        write.actor? =
          (authenticatedActor agent.str dispatch.auth).map Value.str

/-! ## Its condition -/

/-- An admitted dispatch that makes the agent execute a write. -/
structure TopologyAgent.Ordered
    (agent : TopologyAgent) (dispatch : Dispatch) (write : ControlWrite) :
    Prop where
  admitted : dispatch.typeAdmitted = true
  jsonable : (Value.dict dispatch.payload).jsonable = true
  /-- The agent does not look at the sender. -/
  executed : ∀ sender, agent.executes (dispatch.message sender) = some write

/-- The request, at the end of its chain, orders a write from the agent. -/
def GatewayConfig.OrdersWrite
    (config : GatewayConfig) (agent : TopologyAgent) (scope : HttpScope)
    (request : GatewayRequest) : Prop :=
  ∃ dispatch write,
    config.terminal scope request = some dispatch ∧
      agent.Ordered dispatch write

/-- The method and the path match an auto-registered write route. -/
def GatewayConfig.OnWriteRoute
    (config : GatewayConfig) (method path : String) : Prop :=
  ∃ entry params,
    config.routeTable.match method path = some (entry, params) ∧
      entry.injectPrincipal = true

/-- A frame that is not empty, whatever it says. -/
def WsEvent.speaks : WsEvent → Bool
  | .receive (some text) _ => text ≠ ""
  | .receive none bytes => bytes.isSome
  | .disconnect => false

/-- A frame that is not empty arrives before the connection is closed. -/
def WsConnection.speaks (connection : WsConnection) : Bool :=
  (connection.events.takeWhile fun event =>
    match event with
    | .receive _ _ => true
    | .disconnect => false).any WsEvent.speaks

/--
The request cannot order a write, whatever its body or its frames say, or it
is an HTTP request on a write route.
-/
def GatewayConfig.WritesRouted
    (config : GatewayConfig) (agent : TopologyAgent) :
    ExternalRequest → Prop
  | .http scope =>
      servesDocs config scope = false →
        ∀ body, (scope.body = [] → body = []) →
          config.OrdersWrite agent scope (config.entering scope body) →
            config.OnWriteRoute scope.method scope.path
  | .websocket connection =>
      ∀ target, lastOf config.wsRoutes connection.path = some target →
        connection.speaks = true →
          ∀ payload write,
            ¬ agent.Ordered (wsDispatch target "ws.message" payload) write
  | .grpc call =>
      config.grpcEnabled = true →
        ∀ write, ¬ agent.Ordered call.dispatch write

/--
The same of what arrives at the end of the chain, for middleware that hands
on another request than it was given: the chain then needs the topology
middleware by its first match.
-/
def Edge.HandsOnRouted
    (edge : Edge) (config : GatewayConfig) (agent : TopologyAgent) :
    ExternalRequest → Prop
  | .http scope =>
      servesDocs config scope = false →
        ∀ body, edge.parseBody scope = .ok body →
          ∀ request ∈ edge.arrivals config scope body,
            config.OrdersWrite agent scope request →
              config.OnWriteRoute request.method request.path ∧
                config.topologyMiddleware ⊆
                  config.chainOf
                    ((config.routeTable.match scope.method scope.path).map
                      (·.1))
  | request => config.WritesRouted agent request

/-! ## Payloads of routes -/

theorem field?_dictOf_singleton (name : String) (value : Value) :
    field? (dictOf [(name, value)]) name = some value := by
  simp [field?, dictOf]

/-- The principal of a write route is the authenticated one. -/
theorem routePayload_principal
    {entry : RouteEntry} (injects : entry.injectPrincipal = true)
    (params : List (String × String)) (request : GatewayRequest) :
    field? (routePayload entry params request) "__principal__" =
      some (principalOf request.auth) := by
  simp only [routePayload, injects, if_true, field?_merge,
    field?_dictOf_singleton, Option.some_or]

/-- The authenticated principal is the actor of a payload that carries it. -/
theorem principalId_of_principal
    (agent : TopologyAgent) {payload : Dict} {auth : Option Dict}
    (carried :
      field? payload "__principal__" = some (principalOf auth)) :
    agent.principalId payload = authenticatedActor agent.str auth := by
  have truthy : (principalOf auth).truthy = true := by
    unfold principalOf
    split
    · split
      · assumption
      · rfl
    · rfl
  unfold TopologyAgent.principalId authenticatedActor
  rw [carried]
  cases shape : principalOf auth with
  | dict entries =>
      rw [shape] at truthy
      exact if_pos truthy
  | _ =>
      rw [shape] at truthy
      exact if_pos truthy

/-- What the agent executes does not depend on who sent the message. -/
theorem TopologyAgent.executes_message
    (agent : TopologyAgent) (dispatch : Dispatch)
    (sender other : String) :
    agent.executes (dispatch.message sender) =
      agent.executes (dispatch.message other) := by
  unfold TopologyAgent.executes Dispatch.message
  cases dispatch.mode <;> rfl

/-- A write executed for a request was ordered by one of its dispatches. -/
theorem Executes.ordered
    {edge : Edge} {config : GatewayConfig} {agent : TopologyAgent}
    {request : ExternalRequest} {dispatch : Dispatch}
    {write : ControlWrite}
    (executed : Executes edge config agent request dispatch write) :
    dispatch ∈ (edge.serve config request).dispatches ∧
      agent.Ordered dispatch write := by
  rcases executed with ⟨message, sent, written⟩
  rcases (edge.mem_puts_iff _ _ _).mp sent with
    ⟨moment, made, admitted, delivered, rfl⟩
  have jsonable : (Value.dict dispatch.payload).jsonable = true := by
    simp only [Surroundings.deliverable, Bool.and_eq_true] at delivered
    exact delivered.1.1
  refine ⟨List.mem_of_getElem? made, admitted, jsonable, ?_⟩
  intro sender
  rw [agent.executes_message dispatch sender edge.gateway]
  exact written

/-- An ordered write was selected by `__op__` and records its principal. -/
theorem TopologyAgent.Ordered.recorded
    {agent : TopologyAgent} {dispatch : Dispatch} {write : ControlWrite}
    (ordered : agent.Ordered dispatch write) :
    (∃ name op,
        field? dispatch.payload "__op__" = some (.str name) ∧
          WriteOp.ofName name = some op) ∧
      write.actor? =
        (agent.principalId dispatch.payload).map Value.str :=
  TopologyAgent.executes_some (ordered.executed "")

/-! ## Dispatches on write routes -/

theorem GatewayConfig.terminal_passed
    {config : GatewayConfig} {scope : HttpScope} {request : GatewayRequest}
    {dispatch : Dispatch}
    (built : config.terminal scope request = some dispatch) :
    dispatch.passed =
        config.chainOf
          ((config.routeTable.match scope.method scope.path).map (·.1)) ∧
      dispatch.auth = request.auth := by
  unfold GatewayConfig.terminal terminalDispatch at built
  split at built
  · cases built
    exact ⟨rfl, rfl⟩
  · rcases Option.map_eq_some_iff.mp built with ⟨target, _, rfl⟩
    exact ⟨rfl, rfl⟩

/-- A dispatch on a write route carries the authenticated principal. -/
theorem GatewayConfig.OnWriteRoute.principal
    {config : GatewayConfig} {scope : HttpScope} {request : GatewayRequest}
    {dispatch : Dispatch}
    (routed : config.OnWriteRoute request.method request.path)
    (built : config.terminal scope request = some dispatch) :
    field? dispatch.payload "__principal__" =
      some (principalOf dispatch.auth) := by
  rcases routed with ⟨entry, params, found, injects⟩
  unfold GatewayConfig.terminal terminalDispatch at built
  simp only [found, Option.some.injEq] at built
  subst built
  exact routePayload_principal injects params request

/-- The write routes carry the topology middleware. -/
theorem GatewayConfig.OnWriteRoute.guarded
    {config : GatewayConfig} {method path : String}
    (routed : config.OnWriteRoute method path) :
    config.topologyMiddleware ⊆
      config.chainOf
        ((config.routeTable.match method path).map (·.1)) := by
  rcases routed with ⟨entry, params, found, injects⟩
  rw [found]
  rcases GatewayConfig.mem_routeTable (RouteTable.mem_of_match found) with
    ⟨_, _, _, plain, _⟩ | ⟨_, plain, _⟩ | ⟨_, _, middleware, _⟩
  · rw [injects] at plain
    cases plain
  · rw [injects] at plain
    cases plain
  · intro name member
    apply List.mem_append.mpr
    right
    simpa [middleware] using member

/-- Off the write routes the identity has no part in the payload. -/
theorem GatewayConfig.terminal_auth
    {config : GatewayConfig} {scope : HttpScope} {request : GatewayRequest}
    (unrouted : ¬ config.OnWriteRoute request.method request.path)
    (auth : Option Dict) :
    config.terminal scope { request with auth := auth } =
      (config.terminal scope request).map fun dispatch =>
        { dispatch with auth := auth } := by
  unfold GatewayConfig.terminal terminalDispatch
  cases found : config.routeTable.match request.method request.path with
  | none => simp [Option.map_map, Function.comp_def]
  | some target =>
      rcases target with ⟨entry, params⟩
      have plain : entry.injectPrincipal = false := by
        rw [Bool.eq_false_iff]
        intro injects
        exact unrouted ⟨entry, params, found, injects⟩
      simp [routePayload, plain]

/-- The identity is not part of what a dispatch orders. -/
theorem TopologyAgent.Ordered.with_auth
    {agent : TopologyAgent} {dispatch : Dispatch} {write : ControlWrite}
    (ordered : agent.Ordered dispatch write) (auth : Option Dict) :
    agent.Ordered { dispatch with auth := auth } write where
  admitted := ordered.admitted
  jsonable := ordered.jsonable
  executed := ordered.executed

/-! ## WebSocket frames and gRPC calls -/

/-- The frames of a session: messages if it speaks, and the closing one. -/
theorem Edge.wsLoop_dispatches
    {allowed : Dispatch → Prop} (edge : Edge) (agent : String)
    (closed : allowed (wsClose agent)) (events : List WsEvent)
    (session : Session)
    (ok :
      (events.takeWhile fun event =>
        match event with
        | .receive _ _ => true
        | .disconnect => false).any WsEvent.speaks = true →
      ∀ payload, allowed (wsDispatch agent "ws.message" payload))
    (before : session.All allowed) :
    (edge.wsLoop agent events session).All allowed := by
  induction events generalizing session with
  | nil => exact before
  | cons event rest ih =>
      cases event with
      | disconnect => exact before.record closed
      | receive text bytes =>
          simp only [List.takeWhile_cons, if_true, List.any_cons,
            Bool.or_eq_true] at ok
          simp only [wsLoop]
          split
          · exact ih session (fun later => ok (Or.inr later)) before
          · rename_i payload parsed
            have speaks :
                (WsEvent.receive text bytes).speaks = true := by
              unfold wsParse at parsed
              cases text with
              | some given =>
                  by_cases empty : given = ""
                  · simp [empty] at parsed
                  · simp [WsEvent.speaks, empty]
              | none =>
                  cases bytes with
                  | some raw => rfl
                  | none => simp at parsed
            have sent := before.record (ok (Or.inl speaks) payload)
            split
            · exact ih _ (fun _ => ok (Or.inl speaks)) sent
            · exact sent.record closed

/-- The closing frame orders nothing. -/
theorem wsClose_orders_nothing
    (agent : TopologyAgent) (target : String) (write : ControlWrite) :
    ¬ agent.Ordered (wsClose target) write := by
  intro ordered
  rcases ordered.recorded with ⟨⟨name, op, selected, _⟩, _⟩
  have absent : field? (wsClose target).payload "__op__" = none := rfl
  rw [absent] at selected
  cases selected

theorem websocket_orders_nothing
    {edge : Edge} {config : GatewayConfig} {agent : TopologyAgent}
    {connection : WsConnection}
    (condition : config.WritesRouted agent (.websocket connection))
    {dispatch : Dispatch} {write : ControlWrite}
    (made :
      dispatch ∈ (edge.handleWebsocket config connection).dispatches) :
    ¬ agent.Ordered dispatch write := by
  have every :
      (edge.handleWebsocket config connection).All fun dispatch =>
        ∀ write, ¬ agent.Ordered dispatch write := by
    unfold Edge.handleWebsocket
    split
    · exact Session.All.empty _
    · rename_i target found
      split
      · apply edge.wsLoop_dispatches
        · exact wsClose_orders_nothing agent target
        · intro speaks payload write
          exact condition target found speaks payload write
        · exact Session.All.empty _
      · exact Session.All.empty _
  exact every.sent dispatch made write

/-- A gRPC call is dispatched as it asks, if gRPC is served at all. -/
theorem grpc_orders_nothing
    {edge : Edge} {config : GatewayConfig} {agent : TopologyAgent}
    {call : GrpcCall}
    (condition : config.WritesRouted agent (.grpc call))
    {dispatch : Dispatch} {write : ControlWrite}
    (made : dispatch ∈ (edge.handleGrpc config call).dispatches) :
    ¬ agent.Ordered dispatch write := by
  rcases mem_dispatches_handleGrpc made with ⟨enabled, rfl⟩
  exact condition enabled write

/-! ## The condition is enough -/

theorem writesAuthorized_of_handsOnRouted
    {edge : Edge} {config : GatewayConfig} {agent : TopologyAgent}
    {request : ExternalRequest}
    (condition : edge.HandsOnRouted config agent request) :
    WritesAuthorized edge config agent request := by
  intro dispatch write executed
  rcases executed.ordered with ⟨made, ordered⟩
  cases request with
  | websocket connection =>
      exact absurd ordered (websocket_orders_nothing condition made)
  | grpc call => exact absurd ordered (grpc_orders_nothing condition made)
  | http scope =>
      have every : (edge.handleHttp config scope).All fun dispatch =>
          ∀ write, agent.Ordered dispatch write →
            config.topologyMiddleware ⊆ dispatch.passed ∧
              write.actor? =
                (authenticatedActor agent.str dispatch.auth).map
                  Value.str := by
        rw [edge.handleHttp_all_iff]
        intro undocumented body parsed request arrived dispatch built write
          ordered
        have routed :=
          condition undocumented body parsed request arrived
            ⟨dispatch, write, built, ordered⟩
        constructor
        · rw [(config.terminal_passed built).1]
          exact routed.2
        · rw [ordered.recorded.2,
            principalId_of_principal agent (routed.1.principal built)]
      exact every.sent dispatch made write ordered

/-- Middleware that forwards hands on what the client asked for. -/
theorem Edge.Forwards.handsOnRouted
    {edge : Edge} (forwards : edge.Forwards) {config : GatewayConfig}
    {agent : TopologyAgent} {request : ExternalRequest}
    (condition : config.WritesRouted agent request) :
    edge.HandsOnRouted config agent request := by
  cases request with
  | websocket connection => exact condition
  | grpc call => exact condition
  | http scope =>
      intro undocumented body parsed arrived member orders
      have kept := forwards.arrivals member
      have routed : config.OnWriteRoute scope.method scope.path := by
        by_contra unrouted
        rcases orders with ⟨dispatch, write, built, ordered⟩
        rw [kept, @GatewayConfig.terminal_auth config scope
          (config.entering scope body) unrouted] at built
        rcases Option.map_eq_some_iff.mp built with ⟨first, entered, rfl⟩
        exact
          unrouted
            (condition undocumented body
              (fun empty => edge.body_of_parsed empty parsed)
              ⟨first, write, entered, ordered.with_auth first.auth⟩)
      have same :
          arrived.method = scope.method ∧ arrived.path = scope.path := by
        rw [kept]
        exact ⟨rfl, rfl⟩
      rw [same.1, same.2]
      exact ⟨routed, routed.guarded⟩

/-! ## Nothing less is enough -/

/-- What a deployment that relays dispatches first and alone, it executes. -/
theorem relayEdge_executes
    {body : Dict} {auth : Option Dict} {config : GatewayConfig}
    {agent : TopologyAgent} {request : ExternalRequest}
    {dispatch : Dispatch} {write : ControlWrite}
    (made :
      ((relayEdge body auth).serve config request).dispatches[0]? =
        some dispatch)
    (ordered : agent.Ordered dispatch write) :
    Executes (relayEdge body auth) config agent request dispatch write :=
  ⟨_, relayEdge_put made ordered.admitted ordered.jsonable,
    ordered.executed _⟩

/-- An order that passed no middleware is not authorized. -/
theorem not_ordered_of_unguarded
    {body : Dict} {config : GatewayConfig} {agent : TopologyAgent}
    {request : ExternalRequest} {dispatch : Dispatch}
    (guarded : config.topologyMiddleware ≠ [])
    (authorized :
      WritesAuthorized (relayEdge body none) config agent request)
    (made :
      ((relayEdge body none).serve config request).dispatches[0]? =
        some dispatch)
    (unguarded : dispatch.passed = []) (write : ControlWrite) :
    ¬ agent.Ordered dispatch write := by
  intro ordered
  have passed :=
    (authorized dispatch write (relayEdge_executes made ordered)).1
  rw [unguarded] at passed
  exact guarded (List.subset_nil.mp passed)

/-- The identity that names a caller. -/
def named (caller : String) : Option Dict :=
  some
    (dictOf
      [("principal", .dict (dictOf [("id", .str caller)]))])

theorem authenticatedActor_named (str : StrFunction) (caller : String) :
    authenticatedActor str (named caller) = some caller := by
  have principal :
      principalOf (named caller) =
        .dict (dictOf [("id", .str caller)]) := by
    rfl
  rw [authenticatedActor, principal]
  exact congrArg some (str.render_str caller)

/--
Off the write routes the actor of an order does not depend on the identity
that the middleware sets, so it is not the authenticated one.
-/
theorem onWriteRoute_of_authorized
    {config : GatewayConfig} {agent : TopologyAgent} {scope : HttpScope}
    {body : Dict} (guarded : config.topologyMiddleware ≠ [])
    (authorized : ∀ auth,
      WritesAuthorized (relayEdge body auth) config agent (.http scope))
    (undocumented : servesDocs config scope = false)
    (readable : scope.body = [] → body = [])
    (orders :
      config.OrdersWrite agent scope (config.entering scope body)) :
    config.OnWriteRoute scope.method scope.path := by
  by_contra unrouted
  rcases orders with ⟨dispatch, write, built, ordered⟩
  have outcome : ∀ auth,
      config.topologyMiddleware ⊆ dispatch.passed ∧
        write.actor? =
          (authenticatedActor agent.str
            (config.relayed scope body auth).auth).map Value.str := by
    intro auth
    have relayed :
        config.terminal scope (config.relayed scope body auth) =
          some
            { dispatch with
              auth := (config.relayed scope body auth).auth } := by
      have again :=
        @GatewayConfig.terminal_auth config scope
          (config.entering scope body) unrouted
          (config.relayed scope body auth).auth
      rw [built] at again
      exact again
    have made :=
      relayEdge_dispatches undocumented readable relayed
    exact
      authorized auth _ write
        (relayEdge_executes (by rw [Edge.serve, made]; rfl)
          (ordered.with_auth _))
  have chained :
      config.chainOf
        ((config.routeTable.match scope.method scope.path).map (·.1)) ≠
          [] := by
    intro unchained
    have passed := (outcome none).1
    rw [(config.terminal_passed built).1, unchained] at passed
    exact guarded (List.subset_nil.mp passed)
  have actor : ∀ caller, write.actor? = some (.str caller) := by
    intro caller
    rw [(outcome (named caller)).2]
    simp [GatewayConfig.relayed, chained, authenticatedActor_named]
  have impossible :=
    (actor "alice").symm.trans (actor "bob")
  revert impossible
  simp

/-- The first frame that speaks is dispatched with the payload it parses to. -/
theorem relayEdge_wsLoop
    {body : Dict} {auth : Option Dict} {agent : String}
    {events : List WsEvent}
    (speaks :
      (events.takeWhile fun event =>
        match event with
        | .receive _ _ => true
        | .disconnect => false).any WsEvent.speaks = true) :
    ((relayEdge body auth).wsLoop agent events {}).dispatches[0]? =
      some (wsDispatch agent "ws.message" body) := by
  induction events with
  | nil => cases speaks
  | cons event rest ih =>
      cases event with
      | disconnect => cases speaks
      | receive text bytes =>
          by_cases now : (WsEvent.receive text bytes).speaks = true
          · have parsed :
                (relayEdge body auth).wsParse text bytes = some body := by
              cases text with
              | some given =>
                  have present : given ≠ "" := by
                    simpa [WsEvent.speaks] using now
                  simp [Edge.wsParse, present, relayEdge]
              | none =>
                  cases bytes with
                  | none => cases now
                  | some raw => simp [Edge.wsParse, relayEdge]
            have first : [wsDispatch agent "ws.message" body] <+:
                ((relayEdge body auth).wsLoop agent
                  (.receive text bytes :: rest) {}).dispatches := by
              simp only [Edge.wsLoop, parsed]
              split
              · exact Edge.wsLoop_prefix _ agent rest
                  { dispatches := [wsDispatch agent "ws.message" body] }
              · exact List.prefix_append _ _
            rcases first with ⟨later, made⟩
            rw [← made]
            rfl
          · have silent :
                (relayEdge body auth).wsParse text bytes = none := by
              cases text with
              | some given =>
                  have empty : given = "" := by
                    simpa [WsEvent.speaks] using now
                  simp [Edge.wsParse, empty]
              | none =>
                  cases bytes with
                  | none => simp [Edge.wsParse]
                  | some raw => exact absurd rfl now
            simp only [Edge.wsLoop, silent]
            apply ih
            simpa [now] using speaks

theorem writesRouted_of_authorized
    {config : GatewayConfig} {agent : TopologyAgent}
    {request : ExternalRequest}
    (guarded : config.topologyMiddleware ≠ [])
    (authorized : ∀ edge : Edge, edge.Forwards →
      WritesAuthorized edge config agent request) :
    config.WritesRouted agent request := by
  have relayed : ∀ body auth,
      WritesAuthorized (relayEdge body auth) config agent request :=
    fun body auth => authorized _ (relayEdge_forwards body auth)
  cases request with
  | http scope =>
      intro undocumented body readable orders
      exact
        onWriteRoute_of_authorized guarded (relayed body) undocumented
          readable orders
  | websocket connection =>
      intro target found speaks payload write
      apply not_ordered_of_unguarded guarded (relayed payload none) _ rfl
      have accepted :
          (relayEdge payload none).wsAccepts connection = true := rfl
      simp only [Edge.serve, Edge.handleWebsocket, found, accepted,
        if_true]
      exact relayEdge_wsLoop speaks
  | grpc call =>
      intro enabled write
      apply not_ordered_of_unguarded guarded (relayed [] none) _ rfl
      have served :
          (relayEdge [] none).grpcAuthorizes config call = true := by
        simp [Edge.grpcAuthorizes, relayEdge, openEdge]
      simp only [Edge.serve, Edge.handleGrpc, enabled, served,
        Bool.and_self, if_true]
      cases call.method <;> rfl

/-! ## The result -/

/--
In every deployment the writes a request executes are authorized and
attributed if every request its middleware hands on to order a write is on a
write route, behind the topology middleware.  Over all deployments whose
middleware forwards what it is given, this holds exactly when the request
cannot order a write or is on a write route itself.
-/
theorem writesAuthorized_iff_onWriteRoute
    (config : GatewayConfig) (agent : TopologyAgent)
    (request : ExternalRequest)
    (guarded : config.topologyMiddleware ≠ []) :
    (∀ edge : Edge, edge.HandsOnRouted config agent request →
      WritesAuthorized edge config agent request) ∧
    ((∀ edge : Edge, edge.Forwards →
        WritesAuthorized edge config agent request) ↔
      config.WritesRouted agent request) := by
  refine ⟨fun edge => writesAuthorized_of_handsOnRouted, ?_, ?_⟩
  · exact writesRouted_of_authorized guarded
  · intro condition edge forwards
    exact
      writesAuthorized_of_handsOnRouted (forwards.handsOnRouted condition)

/-! ## A write route and the default route -/

/-- A gateway that serves `topology` behind one middleware. -/
def guardedConfig : GatewayConfig where
  topologyAgent := some "topology"
  topologyMiddleware := ["require_admin"]

/-- A topology agent that sees no system. -/
def topologyAgent : TopologyAgent where
  name := "topology"
  str := (openEdge fun _ => none).str
  repr text := "'" ++ text ++ "'"
  wired := true
  views := fun _ => []

/-- The JSON text of a suspend order with a principal of its own. -/
def suspendBody : Bytes :=
  asciiBytes
    "\x7b\"__op__\": \"suspend\", \"name\": \"worker\", \"__principal__\": \x7b\"id\": \"admin\"\x7d\x7d"

/-- `json.loads` on that text. -/
def loadsSuspend (data : Bytes) : Option Value :=
  if data = suspendBody then
    some (.dict
      (dictOf
        [("__op__", .str "suspend"), ("name", .str "worker"),
          ("__principal__", .dict (dictOf [("id", .str "admin")]))]))
  else none

/-- The same order, posted to a write route and to the default route. -/
def suspendOrder (path : String) : ExternalRequest :=
  .http { method := "POST", path := path, body := suspendBody }

theorem openEdge_forwards (loads : Bytes → Option Value) :
    (openEdge loads).Forwards := by
  intro name request
  constructor
  · rfl
  · intro outcome
    cases outcome <;> trivial

/-- What the order makes the agent record: middleware passed and actor. -/
def recordedWrites (path : String) : List (List String × Option String) :=
  ((openEdge loadsSuspend).puts
    ((openEdge loadsSuspend).serve guardedConfig
      (suspendOrder path))).filterMap fun sent =>
        (topologyAgent.executes sent.2).map fun write =>
          (sent.1.passed,
            match write.actor? with
            | some (.str actor) => some actor
            | _ => none)

theorem executes_of_recorded
    {path : String} {passed : List String} {actor : Option String}
    (recorded : (passed, actor) ∈ recordedWrites path) :
    ∃ dispatch write,
      Executes (openEdge loadsSuspend) guardedConfig topologyAgent
          (suspendOrder path) dispatch write ∧
        dispatch.passed = passed := by
  rcases List.mem_filterMap.mp recorded with ⟨sent, member, written⟩
  rcases Option.map_eq_some_iff.mp written with ⟨write, executed, same⟩
  cases same
  exact ⟨sent.1, write, ⟨sent.2, member, executed⟩, rfl⟩

/-- On the write route the order is attributed to nobody it names. -/
theorem writesAuthorized_on_suspend_route :
    (∃ dispatch write,
      Executes (openEdge loadsSuspend) guardedConfig topologyAgent
        (suspendOrder "/agents/worker/suspend") dispatch write) ∧
    WritesAuthorized (openEdge loadsSuspend) guardedConfig topologyAgent
      (suspendOrder "/agents/worker/suspend") := by
  constructor
  · have recorded :
        (["require_admin"], some "unauthenticated") ∈
          recordedWrites "/agents/worker/suspend" := by
      decide +kernel
    rcases executes_of_recorded recorded with ⟨dispatch, write, executed, _⟩
    exact ⟨dispatch, write, executed⟩
  · apply
      (writesAuthorized_iff_onWriteRoute guardedConfig topologyAgent
        (suspendOrder "/agents/worker/suspend") (by decide)).2.mpr _
        (openEdge loadsSuspend) (openEdge_forwards loadsSuspend)
    intro _ _ _ _
    have injecting :
        ((guardedConfig.routeTable.match
            "POST" "/agents/worker/suspend").map
          (·.1.injectPrincipal)) = some true := by
      decide +kernel
    rcases Option.map_eq_some_iff.mp injecting with
      ⟨⟨entry, params⟩, found, injects⟩
    exact ⟨entry, params, found, injects⟩

/-- Posted to the agent itself, the order runs without the middleware. -/
theorem default_route_write_unauthorized :
    ¬ WritesAuthorized (openEdge loadsSuspend) guardedConfig topologyAgent
        (suspendOrder "/agents/topology") := by
  intro authorized
  have recorded :
      ([], some "admin") ∈ recordedWrites "/agents/topology" := by
    decide +kernel
  rcases executes_of_recorded recorded with
    ⟨dispatch, write, executed, passed⟩
  have guarded :=
    (authorized dispatch write executed).1 (List.mem_singleton.mpr rfl)
  rw [passed] at guarded
  cases guarded

end Civitas.Gateway
