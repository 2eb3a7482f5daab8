import Civitas.Gateway.Surfaces

/-!
# Requests that arrive at the end of a chain

What an HTTP request puts on the bus is decided by the requests that the
middleware of its chain hand on to the end: a middleware may answer a request
itself, hand it on more than once, or hand on another one.

`Edge.arrivals` lists them.  `Edge.handleHttp_all_iff` says that the
dispatches of an HTTP request are those of its arrivals, and
`relayEdge_dispatches` computes the one dispatch of a deployment whose
middleware does nothing but set an identity.
-/

namespace Civitas.Gateway

open Civitas.PyText
open Civitas.PyValue

/-! ## Arrivals -/

/--
The requests a middleware hands on, as they arrive at the end of the chain:
`inside` says what becomes of a request that the next handler is given.
-/
def MiddlewareTree.arriving
    (next : Handler)
    (inside : GatewayRequest → Session → List GatewayRequest) :
    MiddlewareTree → Session → List GatewayRequest
  | .respond _, _ => []
  | .raise, _ => []
  | .callNext request resume, session =>
      inside request session ++
        (resume (next request session).2).arriving next inside
          (next request session).1

/-- The requests that arrive at the end of a chain. -/
def Edge.arriving
    (edge : Edge) (handler : List String → Handler) :
    List String → List String →
      GatewayRequest → Session → List GatewayRequest
  | _, [] => fun request _ => [request]
  | passed, name :: rest => fun request =>
      (edge.middleware name request).arriving
        (edge.buildChain handler (passed ++ [name]) rest)
        (edge.arriving handler (passed ++ [name]) rest)

/-- The requests that the middleware of a scope hand on to the end. -/
def Edge.arrivals
    (edge : Edge) (config : GatewayConfig) (scope : HttpScope)
    (body : Dict) : List GatewayRequest :=
  let found := config.routeTable.match scope.method scope.path
  let matched := found.map (·.1)
  edge.arriving (edge.dispatchHandler config.routeTable matched) []
    (config.chainOf matched)
    (chainRequest scope ((found.map (·.2)).getD []) body) {}

/-! ## Sessions and arrivals -/

/-- Recording a dispatch adds that dispatch and nothing else. -/
theorem Session.all_record_iff
    {session : Session} {allowed : Dispatch → Prop} {dispatch : Dispatch} :
    Session.All
        { session with dispatches := session.dispatches ++ [dispatch] }
        allowed ↔
      session.All allowed ∧ allowed dispatch := by
  constructor
  · intro after
    refine ⟨⟨?_, after.waiting⟩, after.sent dispatch (by simp)⟩
    intro other member
    exact after.sent other (List.mem_append_left _ member)
  · rintro ⟨before, ok⟩
    exact before.record ok

theorem Session.all_openStream_iff
    {session : Session} {allowed : Dispatch → Prop} {dispatch : Dispatch} :
    (session.openStream dispatch).1.All allowed ↔
      session.All allowed ∧ allowed dispatch := by
  constructor
  · intro after
    refine ⟨⟨after.sent, ?_⟩, after.waiting dispatch ?_⟩
    · intro other member
      exact after.waiting other (List.mem_append_left _ member)
    · simp [Session.openStream]
  · rintro ⟨before, ok⟩
    exact before.openStream ok

/-- The end of the chain adds the dispatch of the request that arrived. -/
theorem Edge.dispatchHandler_all_iff
    {allowed : Dispatch → Prop} (edge : Edge) (table : RouteTable)
    (matched : Option RouteEntry) (passed : List String)
    (request : GatewayRequest) (session : Session) :
    (edge.dispatchHandler table matched passed request session).1.All
        allowed ↔
      session.All allowed ∧
        ∀ dispatch,
          terminalDispatch table matched passed request = some dispatch →
            allowed dispatch := by
  unfold dispatchHandler
  cases built : terminalDispatch table matched passed request with
  | none => simp
  | some dispatch =>
      simp only [Option.some.injEq, forall_eq']
      cases dispatch.mode with
      | stream => exact Session.all_openStream_iff
      | call => exact Session.all_record_iff
      | cast => exact Session.all_record_iff

/-- A middleware adds what becomes of the requests it hands on. -/
theorem MiddlewareTree.run_all_iff
    {allowed : Dispatch → Prop} {admitted : GatewayRequest → Prop}
    {next : Handler}
    {inside : GatewayRequest → Session → List GatewayRequest}
    (step : ∀ request session,
      (next request session).1.All allowed ↔
        session.All allowed ∧
          ∀ arrived ∈ inside request session, admitted arrived)
    (tree : MiddlewareTree) (session : Session) :
    (tree.run next session).1.All allowed ↔
      session.All allowed ∧
        ∀ arrived ∈ tree.arriving next inside session,
          admitted arrived := by
  induction tree generalizing session with
  | respond response => simp [run, arriving]
  | raise => simp [run, arriving]
  | callNext request resume ih =>
      rw [run, ih, step, arriving, and_assoc]
      simp only [List.mem_append, or_imp, forall_and]

/-- A chain adds what becomes of the requests that arrive at its end. -/
theorem Edge.buildChain_all_iff
    {allowed : Dispatch → Prop} {admitted : GatewayRequest → Prop}
    (edge : Edge) (handler : List String → Handler)
    (passed rest : List String)
    (step : ∀ request session,
      (handler (passed ++ rest) request session).1.All allowed ↔
        session.All allowed ∧ admitted request)
    (request : GatewayRequest) (session : Session) :
    (edge.buildChain handler passed rest request session).1.All allowed ↔
      session.All allowed ∧
        ∀ arrived ∈ edge.arriving handler passed rest request session,
          admitted arrived := by
  induction rest generalizing passed request session with
  | nil =>
      rw [List.append_nil] at step
      simp only [buildChain, arriving, List.mem_singleton, forall_eq]
      exact step request session
  | cons name rest ih =>
      apply MiddlewareTree.run_all_iff
      intro inner current
      apply ih
      rw [List.append_assoc]
      exact step

/-- Writing the response out adds no dispatch that was not waiting. -/
theorem Edge.respond_all_iff
    {allowed : Dispatch → Prop} (edge : Edge) (session : Session)
    (response : Option GatewayResponse) :
    (edge.respond session response).All allowed ↔ session.All allowed := by
  constructor
  · intro after
    cases response with
    | none => exact after
    | some response =>
        cases stream : response.stream with
        | none =>
            simp only [respond, stream] at after
            exact after
        | some handle =>
            simp only [respond, stream, World.iterate] at after
            split at after
            · exact (Session.all_record_iff.mp after).1
            · exact after
  · intro before
    exact before.respond edge response

/-- What the end of the chain of a scope dispatches for a request. -/
def GatewayConfig.terminal
    (config : GatewayConfig) (scope : HttpScope)
    (request : GatewayRequest) : Option Dispatch :=
  terminalDispatch config.routeTable
    ((config.routeTable.match scope.method scope.path).map (·.1))
    (config.chainOf
      ((config.routeTable.match scope.method scope.path).map (·.1)))
    request

/-- The dispatches of an HTTP request are those of its arrivals. -/
theorem Edge.handleHttp_all_iff
    {allowed : Dispatch → Prop} (edge : Edge) (config : GatewayConfig)
    (scope : HttpScope) :
    (edge.handleHttp config scope).All allowed ↔
      (servesDocs config scope = false →
        ∀ body, edge.parseBody scope = .ok body →
          ∀ request ∈ edge.arrivals config scope body,
            ∀ dispatch, config.terminal scope request = some dispatch →
              allowed dispatch) := by
  unfold Edge.handleHttp
  cases docs : servesDocs config scope with
  | true => simp [Session.All.empty]
  | false =>
      cases parsed : edge.parseBody scope with
      | error refused => simp [Session.All.empty]
      | ok body =>
          have chain :
              (edge.runChain config scope body).1.All allowed ↔
                Session.All {} allowed ∧
                  ∀ request ∈ edge.arrivals config scope body,
                    ∀ dispatch,
                      config.terminal scope request = some dispatch →
                        allowed dispatch := by
            apply edge.buildChain_all_iff
            intro request session
            rw [edge.dispatchHandler_all_iff, List.nil_append]
            rfl
          simp only [Bool.false_eq_true, if_false, edge.respond_all_iff,
            chain, Session.All.empty, true_and, Except.ok.injEq,
            forall_eq', forall_const]

/-- An empty body is read as no fields at all. -/
theorem Edge.body_of_parsed
    (edge : Edge) {scope : HttpScope} {body : Dict}
    (empty : scope.body = []) (parsed : edge.parseBody scope = .ok body) :
    body = [] := by
  simp only [Edge.parseBody, empty, if_true] at parsed
  exact (Except.ok.inj parsed).symm

/-- A WebSocket session goes on from the dispatches it has made. -/
theorem Edge.wsLoop_prefix
    (edge : Edge) (agent : String) (events : List WsEvent)
    (session : Session) :
    session.dispatches <+: (edge.wsLoop agent events session).dispatches := by
  have recorded : ∀ (current : Session) dispatch,
      current.dispatches <+:
        (edge.sendStreamRequest dispatch current).1.dispatches :=
    fun current dispatch => List.prefix_append _ _
  induction events generalizing session with
  | nil => exact List.prefix_refl _
  | cons event rest ih =>
      cases event with
      | disconnect => exact recorded session _
      | receive text bytes =>
          simp only [wsLoop]
          split
          · exact ih session
          · split
            · exact (recorded session _).trans (ih _)
            · exact (recorded session _).trans (recorded _ _)

/-- A gRPC call is dispatched as it asks, if gRPC is served at all. -/
theorem mem_dispatches_handleGrpc
    {edge : Edge} {config : GatewayConfig} {call : GrpcCall}
    {dispatch : Dispatch}
    (made : dispatch ∈ (edge.handleGrpc config call).dispatches) :
    config.grpcEnabled = true ∧ dispatch = call.dispatch := by
  unfold Edge.handleGrpc at made
  split at made
  · rename_i admitted
    refine ⟨(Bool.and_eq_true _ _ ▸ admitted).1, ?_⟩
    split at made
    · exact List.mem_singleton.mp made
    · exact List.mem_singleton.mp made
  · cases made

/-! ## Middleware that keeps what it is given -/

/-- What a middleware hands on keeps a property that its own requests have. -/
theorem MiddlewareTree.arriving_of_handsOn
    {expected : GatewayRequest → Prop} {next : Handler}
    {inside : GatewayRequest → Session → List GatewayRequest}
    (step : ∀ request session, expected request →
      ∀ arrived ∈ inside request session, expected arrived)
    {tree : MiddlewareTree} (keeps : tree.HandsOn expected)
    (session : Session) :
    ∀ arrived ∈ tree.arriving next inside session, expected arrived := by
  induction tree generalizing session with
  | respond response => simp [arriving]
  | raise => simp [arriving]
  | callNext request resume ih =>
      intro arrived member
      rcases List.mem_append.mp member with first | later
      · exact step request session keeps.1 arrived first
      · exact ih _ (keeps.2 _) _ arrived later

/-- What all middleware keeps holds of what arrives at the end of a chain. -/
theorem Edge.arriving_of_handsOn
    {edge : Edge} {expected : GatewayRequest → Prop}
    (keeps : ∀ name request, expected request →
      (edge.middleware name request).HandsOn expected)
    (handler : List String → Handler) (passed rest : List String)
    (request : GatewayRequest) (session : Session)
    (sound : expected request) :
    ∀ arrived ∈ edge.arriving handler passed rest request session,
      expected arrived := by
  induction rest generalizing passed request session with
  | nil =>
      intro arrived member
      rw [List.mem_singleton.mp member]
      exact sound
  | cons name rest ih =>
      apply MiddlewareTree.arriving_of_handsOn _ (keeps name request sound)
      intro handed current held
      exact ih _ handed current held

/-- Middleware hands requests on as they came, but for the identity it sets. -/
def Edge.Forwards (edge : Edge) : Prop :=
  ∀ name request,
    (edge.middleware name request).HandsOn fun handed =>
      handed = { request with auth := handed.auth }

/-- The request `_handle_http` makes of a scope and its body. -/
def GatewayConfig.entering
    (config : GatewayConfig) (scope : HttpScope) (body : Dict) :
    GatewayRequest :=
  chainRequest scope
    (((config.routeTable.match scope.method scope.path).map (·.2)).getD [])
    body

theorem Edge.Forwards.arrivals
    {edge : Edge} (forwards : edge.Forwards) {config : GatewayConfig}
    {scope : HttpScope} {body : Dict} {request : GatewayRequest}
    (member : request ∈ edge.arrivals config scope body) :
    request =
      { config.entering scope body with auth := request.auth } := by
  have keeps : ∀ name (current : GatewayRequest),
      current = { config.entering scope body with auth := current.auth } →
        (edge.middleware name current).HandsOn fun handed =>
          handed =
            { config.entering scope body with auth := handed.auth } := by
    intro name current same
    apply (forwards name current).mono
    intro handed forwarded
    rw [same] at forwarded
    exact forwarded
  exact Edge.arriving_of_handsOn keeps _ _ _ _ _ rfl request member

/-! ## A deployment that relays -/

/-- A middleware that sets an identity and goes on. -/
def relay (auth : Option Dict) (request : GatewayRequest) :
    MiddlewareTree :=
  .callNext { request with auth := auth } fun outcome =>
    match outcome with
    | some response => .respond response
    | none => .raise

theorem run_relay
    (next : Handler) (auth : Option Dict) (request : GatewayRequest)
    (session : Session) :
    (relay auth request).run next session =
      next { request with auth := auth } session := by
  simp only [relay, MiddlewareTree.run]
  cases next { request with auth := auth } session with
  | mk after outcome => cases outcome <;> rfl

/--
Every agent is up and answers `{}`, every text parses to `body`, every client
is admitted, and each middleware sets the identity `auth` and goes on.
-/
def relayEdge (body : Dict) (auth : Option Dict) : Edge :=
  { openEdge fun _ => some (.dict body) with
    jsonLoadsText := fun _ => some (.dict body)
    decode := fun _ => "frame"
    parseMultipart := fun _ _ => some body
    middleware := fun _ => relay auth
    mtlsAuthorizes := fun _ => true }

theorem relayEdge_forwards (body : Dict) (auth : Option Dict) :
    (relayEdge body auth).Forwards := by
  intro name request
  constructor
  · rfl
  · intro outcome
    cases outcome <;> trivial

theorem relayEdge_parseBody
    {body : Dict} {scope : HttpScope} (auth : Option Dict)
    (readable : scope.body = [] → body = []) :
    (relayEdge body auth).parseBody scope = .ok body := by
  unfold Edge.parseBody
  by_cases empty : scope.body = []
  · simp [empty, readable empty]
  · simp [empty, relayEdge, openEdge]

/-- A chain that relays does what its handler does. -/
theorem relayEdge_buildChain
    (body : Dict) (auth : Option Dict) (handler : List String → Handler)
    (passed rest : List String) (request : GatewayRequest)
    (session : Session) :
    (relayEdge body auth).buildChain handler passed rest request session =
      handler (passed ++ rest)
        { request with auth := if rest = [] then request.auth else auth }
        session := by
  induction rest generalizing passed request with
  | nil => simp [Edge.buildChain]
  | cons name rest ih =>
      have step :
          (relayEdge body auth).buildChain handler passed (name :: rest)
              request session =
            (relayEdge body auth).buildChain handler (passed ++ [name])
              rest { request with auth := auth } session :=
        run_relay _ auth request session
      rw [step, ih, List.append_assoc]
      simp

/-- What the dispatcher returns never streams. -/
theorem Edge.stream_of_resultToResponse
    {edge : Edge} {raw : Bool} {result : DispatchResult}
    {response : GatewayResponse}
    (answered : edge.resultToResponse raw result = some response) :
    response.stream = none := by
  unfold Edge.resultToResponse at answered
  split at answered
  · cases answered
    rfl
  · cases answered
    rfl
  · cases answered
    rfl
  · cases answered
    rfl
  · cases answered
    rfl
  · split at answered
    · split at answered
      · cases answered
        rfl
      · cases answered
    · cases answered
      rfl

/-- The end of a chain, written out, has made the dispatch of its request. -/
theorem Edge.dispatches_respond_dispatchHandler
    (edge : Edge) {table : RouteTable} {matched : Option RouteEntry}
    {passed : List String} {request : GatewayRequest} {dispatch : Dispatch}
    (built : terminalDispatch table matched passed request = some dispatch) :
    (edge.respond
      (edge.dispatchHandler table matched passed request {}).1
      (edge.dispatchHandler table matched passed request {}).2).dispatches =
        [dispatch] := by
  have answered : ∀ response : Option GatewayResponse,
      (∀ given, response = some given → given.stream = none) →
        (edge.respond { dispatches := [dispatch] } response).dispatches =
          [dispatch] := by
    intro response plain
    cases response with
    | none => rfl
    | some given => simp [Edge.respond, plain given rfl]
  unfold Edge.dispatchHandler
  rw [built]
  cases mode : dispatch.mode with
  | stream =>
      simp [mode, Session.openStream, Edge.respond, World.iterate,
        World.sendStreamRequest]
  | call =>
      simp only [mode, World.dispatch, List.nil_append]
      exact answered _ fun given found =>
        Edge.stream_of_resultToResponse found
  | cast =>
      simp only [mode, World.dispatch, List.nil_append]
      exact answered _ fun given found =>
        Edge.stream_of_resultToResponse found

/-- The request that arrives in a deployment that relays. -/
def GatewayConfig.relayed
    (config : GatewayConfig) (scope : HttpScope) (body : Dict)
    (auth : Option Dict) : GatewayRequest :=
  { config.entering scope body with
    auth :=
      if config.chainOf
          ((config.routeTable.match scope.method scope.path).map (·.1)) = []
      then none
      else auth }

theorem relayEdge_dispatches
    {config : GatewayConfig} {scope : HttpScope} {body : Dict}
    {auth : Option Dict} {dispatch : Dispatch}
    (undocumented : servesDocs config scope = false)
    (readable : scope.body = [] → body = [])
    (built :
      config.terminal scope (config.relayed scope body auth) =
        some dispatch) :
    ((relayEdge body auth).handleHttp config scope).dispatches =
      [dispatch] := by
  have chain :
      (relayEdge body auth).runChain config scope body =
        (relayEdge body auth).dispatchHandler config.routeTable
          ((config.routeTable.match scope.method scope.path).map (·.1))
          (config.chainOf
            ((config.routeTable.match scope.method scope.path).map (·.1)))
          (config.relayed scope body auth) {} :=
    relayEdge_buildChain body auth _ _ _ _ _
  simp only [Edge.handleHttp, undocumented,
    relayEdge_parseBody auth readable, Bool.false_eq_true, if_false, chain]
  exact Edge.dispatches_respond_dispatchHandler _ built

/-- A deployment that relays delivers what can be written as JSON. -/
theorem relayEdge_put
    {body : Dict} {auth : Option Dict} {session : Session}
    {dispatch : Dispatch} (made : session.dispatches[0]? = some dispatch)
    (admitted : dispatch.typeAdmitted = true)
    (jsonable : (Value.dict dispatch.payload).jsonable = true) :
    (dispatch, dispatch.message (relayEdge body auth).gateway) ∈
      (relayEdge body auth).puts session := by
  apply ((relayEdge body auth).mem_puts_iff _ _ _).mpr
  refine ⟨0, made, admitted, ?_, rfl⟩
  cases mode : dispatch.mode <;>
    simp [Surroundings.deliverable, Surroundings.resolves,
      Surroundings.routable, mode, jsonable, relayEdge, openEdge]

end Civitas.Gateway
