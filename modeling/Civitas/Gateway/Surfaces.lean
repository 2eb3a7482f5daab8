import Civitas.Gateway.Dispatch

/-!
# The surfaces of the gateway

The HTTP and WebSocket handlers of `gateway/asgi.py` and the servicer of
`gateway/grpc_server.py`.  HTTP/1.1, HTTP/2 and HTTP/3 share one ASGI
application.

A middleware is code of the operator.  Given a request it answers, raises, or
calls the next handler with a request of its choice and goes on with what that
call returned, so it is a tree whose branching is the answer of the next
handler.  A middleware may call the next handler more than once.

A response that streams carries a handle to the generator; the request behind
a generator is sent when the response is written out.
-/

namespace Civitas.Gateway

open Civitas.PyText
open Civitas.PyValue

/-! ## Requests, responses and middleware -/

/-- `GatewayRequest`. -/
structure GatewayRequest where
  method : String
  path : String
  pathParams : List (String × String) := []
  queryParams : List (String × String) := []
  headers : List (String × String) := []
  body : Dict := []
  clientIp : String := ""
  clientCert : Option Dict := none
  auth : Option Dict := none

/-- `GatewayResponse`; a stream is a handle into the session. -/
structure GatewayResponse where
  status : Int := 200
  body : Dict := []
  headers : List (String × String) := []
  stream : Option Nat := none
  rawBody : Option String := none
  contentType : Option Value := none

/-- A middleware applied to a request. -/
inductive MiddlewareTree where
  | respond (response : GatewayResponse)
  | raise
  | callNext
      (request : GatewayRequest)
      (resume : Option GatewayResponse → MiddlewareTree)

/-- A handler of the chain; no response means that it raised. -/
abbrev Handler :=
  GatewayRequest → Session → Session × Option GatewayResponse

/-- Run a middleware against the next handler. -/
def MiddlewareTree.run (next : Handler) :
    MiddlewareTree → Session → Session × Option GatewayResponse
  | .respond response, session => (session, some response)
  | .raise, session => (session, none)
  | .callNext request resume, session =>
      (resume (next request session).2).run next (next request session).1

/-- The libraries and the operator's code that the surfaces use. -/
structure Edge extends World where
  jsonLoads : Bytes → Option Value
  jsonLoadsText : String → Option Value
  decode : Bytes → String
  parseMultipart : Bytes → String → Option Dict
  int : Value → Option Int
  middleware : String → GatewayRequest → MiddlewareTree
  jwtVerifier : Option (String → Bool)
  mtlsAuthorizes : Option Bytes → Bool

/--
`build_chain`: the first middleware is the outermost.  The handler learns
which middleware called it.
-/
def Edge.buildChain
    (edge : Edge) (handler : List String → Handler) :
    List String → List String → Handler
  | passed, [] => handler passed
  | passed, name :: rest => fun request =>
      (edge.middleware name request).run
        (edge.buildChain handler (passed ++ [name]) rest)

/-! ## HTTP -/

/--
The scope and body of an HTTP request with decoded text; a header that is no
UTF-8 raises before anything else is done.
-/
structure HttpScope where
  method : String
  path : String
  headers : List (String × String) := []
  query : String := ""
  client : String := ""
  clientCert : Option Dict := none
  body : Bytes := []

/-- `dict.get` on pairs where a later pair replaces an earlier one. -/
def lastOf
    (pairs : List (String × String)) (name : String) : Option String :=
  pairs.reverse.lookup name

/-- `_parse_query`. -/
def parseQuery (query : String) : List (String × String) :=
  (split query '&').filterMap fun pair =>
    if pair.toList.contains '='
    then
      some
        (String.ofList (pair.toList.takeWhile (· != '=')),
          String.ofList (pair.toList.dropWhile (· != '=')).tail)
    else none

/-- A response with a JSON error body. -/
def errorResponse (status : Int) (error : String) : GatewayResponse where
  status := status
  body := dictOf [("error", .str error)]

/-- The body of a request, or the 400 it is answered with. -/
def Edge.parseBody
    (edge : Edge) (scope : HttpScope) : Except GatewayResponse Dict :=
  let contentType := (lastOf scope.headers "content-type").getD ""
  if scope.body = [] then .ok []
  else if startsWith contentType "multipart/form-data" then
    match edge.parseMultipart scope.body contentType with
    | some form => .ok form
    | none => .error (errorResponse 400 "invalid multipart/form-data body")
  else
    match edge.jsonLoads scope.body with
    | some (.dict body) => .ok body
    | some _ => .error (errorResponse 400 "request body must be a JSON object")
    | none => .error (errorResponse 400 "invalid JSON body")

/-- `_result_to_response`; `none` when reading a raw reply raises. -/
def Edge.resultToResponse
    (edge : Edge) (rawResponse : Bool) (result : DispatchResult) :
    Option GatewayResponse :=
  match result.status with
  | .accepted => some { status := 202 }
  | .notFound => some (errorResponse 404 (result.error.getD ""))
  | .timeout => some (errorResponse 504 (result.error.getD ""))
  | .internal => some (errorResponse 500 (result.error.getD ""))
  | .agentError => some { status := 400, body := result.payload }
  | .ok =>
      if rawResponse then
        match field result.payload "__raw_body__" (.str ""),
            edge.int (field result.payload "__status__" (.int 200)) with
        | .str raw, some status =>
            some
              { status := status
                rawBody := some raw
                contentType :=
                  some (field result.payload "__content_type__"
                    (.str "text/plain; charset=utf-8")) }
        | _, _ => none
      else some { status := 200, body := result.payload }

/-- `_default_route`: recipient, mode and payload. -/
def defaultRoute (method path : String) (body : Dict) :
    Option (String × Mode × Dict) :=
  match (split (strip path '/') '/').filter (· ≠ "") with
  | ["agents", name] =>
      if method = "POST" then some (name, .call, body) else none
  | ["agents", name, verb] =>
      if method = "POST" ∧ verb = "cast" then some (name, .cast, body)
      else if method = "GET" ∧ verb = "state" then
        some (name, .call, dictOf [("__op__", .str "state")])
      else none
  | _ => none

/-- `{"id": "unauthenticated"}`. -/
def unauthenticated : Value :=
  .dict (dictOf [("id", .str "unauthenticated")])

/-- `(request.auth or {}).get("principal") or {"id": "unauthenticated"}`. -/
def principalOf (auth : Option Dict) : Value :=
  match field? (auth.getD []) "principal" with
  | some principal =>
      if principal.truthy then principal else unauthenticated
  | none => unauthenticated

/-- The payload `_dispatch_handler` builds for a matched route. -/
def routePayload
    (entry : RouteEntry) (params : List (String × String))
    (request : GatewayRequest) : Dict :=
  let payload :=
    merge
      (merge request.body
        (dictOf (params.map fun param => (param.1, .str param.2))))
      entry.payloadExtra
  if entry.injectPrincipal
  then merge payload (dictOf [("__principal__", principalOf request.auth)])
  else payload

/-- The message type a client asks for. -/
def clientType (headers : List (String × String)) : String :=
  (lastOf headers "x-civitas-type").getD "http.request"

/-- What `_dispatch_handler` hands to the dispatcher for a request. -/
def terminalDispatch
    (table : RouteTable) (matched : Option RouteEntry)
    (passed : List String) (request : GatewayRequest) : Option Dispatch :=
  match table.match request.method request.path with
  | some (entry, params) =>
      some
        { mode := Mode.ofRoute entry.mode
          recipient := entry.agent
          msgType := clientType request.headers
          payload := routePayload entry params request
          passed := passed
          auth := request.auth
          matched := matched
          route := some entry }
  | none =>
      (defaultRoute request.method request.path request.body).map
        fun target =>
          { mode := target.2.1
            recipient := target.1
            msgType := clientType request.headers
            payload := target.2.2
            passed := passed
            auth := request.auth
            matched := matched }

/-- `_dispatch_handler`. -/
def Edge.dispatchHandler
    (edge : Edge) (table : RouteTable) (matched : Option RouteEntry)
    (passed : List String) : Handler :=
  fun request session =>
    match terminalDispatch table matched passed request with
    | none =>
        (session,
          some (errorResponse 404
            ("no route for " ++ request.method ++ " " ++ request.path)))
    | some dispatch =>
        match dispatch.mode with
        | .stream =>
            ((session.openStream dispatch).1,
              some { stream := some (session.openStream dispatch).2 })
        | _ =>
            let (session, result) := edge.dispatch dispatch session
            (session,
              edge.resultToResponse
                ((dispatch.route.map (·.rawResponse)).getD false) result)

/-- `_serve_swagger` and `_serve_openapi_json` answer this request. -/
def servesDocs (config : GatewayConfig) (scope : HttpScope) : Bool :=
  config.docsEnabled && scope.method == "GET" &&
    (scope.path == rstrip config.docsPath '/' ||
      scope.path == rstrip config.docsPath '/' ++ "/openapi.json" ||
      scope.path == "/openapi.json")

/-- The request `_handle_http` passes to the chain. -/
def chainRequest
    (scope : HttpScope) (params : List (String × String)) (body : Dict) :
    GatewayRequest where
  method := scope.method
  path := scope.path
  pathParams := params
  queryParams := parseQuery scope.query
  headers := scope.headers
  body := body
  clientIp := scope.client
  clientCert := scope.clientCert

/-- `_respond`: writing a streaming response out iterates the stream. -/
def Edge.respond
    (edge : Edge) (session : Session) :
    Option GatewayResponse → Session
  | some response =>
      match response.stream with
      | some handle => edge.iterate handle session
      | none => session
  | none => session

/-- The middleware `_handle_http` runs for a matched route. -/
def GatewayConfig.chainOf
    (config : GatewayConfig) (matched : Option RouteEntry) : List String :=
  config.middleware ++ (matched.map (·.middleware)).getD []

/-- The chain of a request with a parsed body. -/
def Edge.runChain
    (edge : Edge) (config : GatewayConfig) (scope : HttpScope)
    (body : Dict) : Session × Option GatewayResponse :=
  let found := config.routeTable.match scope.method scope.path
  let matched := found.map (·.1)
  edge.buildChain (edge.dispatchHandler config.routeTable matched) []
    (config.chainOf matched)
    (chainRequest scope ((found.map (·.2)).getD []) body) {}

/-- `_handle_http`. -/
def Edge.handleHttp
    (edge : Edge) (config : GatewayConfig) (scope : HttpScope) : Session :=
  if servesDocs config scope then {}
  else
    match edge.parseBody scope with
    | .error _ => {}
    | .ok body =>
        let (session, response) := edge.runChain config scope body
        edge.respond session response

/-! ## WebSocket -/

/-- An event of an open WebSocket session. -/
inductive WsEvent where
  | receive (text : Option String) (bytes : Option Bytes)
  | disconnect

/-- A WebSocket connection: handshake and the events that follow it. -/
structure WsConnection where
  path : String
  subprotocols : List String := []
  events : List WsEvent := []

/-- `_extract_ws_token`: the token of the first bearer subprotocol. -/
def extractWsToken (subprotocols : List String) : Option String :=
  (subprotocols.find? (startsWith · "civitas.bearer.")).map
    fun offered =>
      String.ofList (offered.toList.drop "civitas.bearer.".toList.length)

/-- `_ws_parse`. -/
def Edge.wsParse
    (edge : Edge) (text : Option String) (bytes : Option Bytes) :
    Option Dict :=
  let decoded :=
    match text, bytes with
    | some given, _ => given
    | none, some raw => edge.decode raw
    | none, none => ""
  if decoded = "" then none
  else
    (edge.jsonLoadsText decoded).map fun parsed =>
      match parsed with
      | .dict frame => frame
      | other => dictOf [("data", other)]

/-- One stream request of a WebSocket session. -/
def wsDispatch (agent msgType : String) (payload : Dict) : Dispatch where
  mode := .stream
  recipient := agent
  msgType := msgType
  payload := payload

/-- The request that closes a session; its failure is suppressed. -/
def wsClose (agent : String) : Dispatch :=
  wsDispatch agent "ws.close" (dictOf [("__session__", .str "closed")])

/-- The loop of `_handle_websocket`, with its `finally` block. -/
def Edge.wsLoop
    (edge : Edge) (agent : String) : List WsEvent → Session → Session
  | [], session => session
  | .disconnect :: _, session =>
      (edge.sendStreamRequest (wsClose agent) session).1
  | .receive text bytes :: rest, session =>
      match edge.wsParse text bytes with
      | none => edge.wsLoop agent rest session
      | some payload =>
          let (session, sent) :=
            edge.sendStreamRequest
              (wsDispatch agent "ws.message" payload) session
          if sent then edge.wsLoop agent rest session
          else (edge.sendStreamRequest (wsClose agent) session).1

/-- The handshake of `_handle_websocket` is accepted. -/
def Edge.wsAccepts (edge : Edge) (connection : WsConnection) : Bool :=
  match edge.jwtVerifier with
  | none => true
  | some verify =>
      match extractWsToken connection.subprotocols with
      | none => false
      | some token => verify token

/-- `_handle_websocket`. -/
def Edge.handleWebsocket
    (edge : Edge) (config : GatewayConfig) (connection : WsConnection) :
    Session :=
  match lastOf config.wsRoutes connection.path with
  | none => {}
  | some agent =>
      if edge.wsAccepts connection
      then edge.wsLoop agent connection.events {}
      else {}

/-! ## gRPC -/

/-- The methods of the `Agent` service. -/
inductive GrpcMethod where
  | invoke
  | cast
  | stream
deriving DecidableEq

/-- A call of the `Agent` service: `AgentRequest` and its credentials. -/
structure GrpcCall where
  method : GrpcMethod
  recipient : String
  type : String := ""
  payload : Dict := []
  token : Option String := none
  certificate : Option Bytes := none

/-- `_AuthInterceptor` lets the call through. -/
def Edge.grpcAuthorizes
    (edge : Edge) (config : GatewayConfig) (call : GrpcCall) : Bool :=
  (match edge.jwtVerifier with
    | none => true
    | some verify =>
        match call.token with
        | none => false
        | some token => verify token) &&
    (!config.clientCertRequired || edge.mtlsAuthorizes call.certificate)

/-- The request `Invoke`, `Cast` and `Stream` hand to the dispatcher. -/
def GrpcCall.dispatch (call : GrpcCall) : Dispatch where
  mode :=
    match call.method with
    | .invoke => .call
    | .cast => .cast
    | .stream => .stream
  recipient := call.recipient
  msgType := if call.type = "" then "grpc.request" else call.type
  payload := call.payload

/-- `_AgentServicer`, behind the interceptor. -/
def Edge.handleGrpc
    (edge : Edge) (config : GatewayConfig) (call : GrpcCall) : Session :=
  if config.grpcEnabled && edge.grpcAuthorizes config call then
    match call.method with
    | .stream => (edge.sendStreamRequest call.dispatch {}).1
    | _ => (edge.dispatch call.dispatch {}).1
  else {}

/-! ## External requests -/

/-- Everything a client can send. -/
inductive ExternalRequest where
  | http (scope : HttpScope)
  | websocket (connection : WsConnection)
  | grpc (call : GrpcCall)

/-- The session of an external request. -/
def Edge.serve
    (edge : Edge) (config : GatewayConfig) : ExternalRequest → Session
  | .http scope => edge.handleHttp config scope
  | .websocket connection => edge.handleWebsocket config connection
  | .grpc call => edge.handleGrpc config call

/-! ## Sessions grow by dispatches of the handler -/

/-- Every dispatch of a session, sent or waiting in a stream, is `allowed`. -/
structure Session.All
    (session : Session) (allowed : Dispatch → Prop) : Prop where
  sent : ∀ dispatch ∈ session.dispatches, allowed dispatch
  waiting : ∀ dispatch ∈ session.streams, allowed dispatch

theorem Session.All.empty (allowed : Dispatch → Prop) :
    Session.All {} allowed where
  sent := by simp
  waiting := by simp

/-- Recording one allowed dispatch keeps the property. -/
theorem Session.All.record
    {session : Session} {allowed : Dispatch → Prop} {dispatch : Dispatch}
    (before : session.All allowed) (ok : allowed dispatch) :
    Session.All
      { session with dispatches := session.dispatches ++ [dispatch] }
      allowed where
  sent := by
    intro other member
    rcases List.mem_append.mp member with old | new
    · exact before.sent other old
    · rw [List.mem_singleton.mp new]
      exact ok
  waiting := before.waiting

theorem Session.All.openStream
    {session : Session} {allowed : Dispatch → Prop} {dispatch : Dispatch}
    (before : session.All allowed) (ok : allowed dispatch) :
    (session.openStream dispatch).1.All allowed where
  sent := before.sent
  waiting := by
    intro other member
    rcases List.mem_append.mp member with old | new
    · exact before.waiting other old
    · rw [List.mem_singleton.mp new]
      exact ok

theorem Session.All.iterate
    {session : Session} {allowed : Dispatch → Prop}
    (edge : Edge) (handle : Nat) (before : session.All allowed) :
    (edge.iterate handle session).All allowed := by
  unfold World.iterate
  split
  · rename_i dispatch found
    exact before.record
      (before.waiting dispatch (List.mem_of_getElem? found))
  · exact before

/-- Every request the middleware can hand on satisfies `expected`. -/
def MiddlewareTree.HandsOn (expected : GatewayRequest → Prop) :
    MiddlewareTree → Prop
  | .respond _ => True
  | .raise => True
  | .callNext request resume =>
      expected request ∧ ∀ outcome, (resume outcome).HandsOn expected

/-- Middleware hands requests on under their method and path. -/
def Edge.Transparent (edge : Edge) : Prop :=
  ∀ name request,
    (edge.middleware name request).HandsOn fun handed =>
      handed.method = request.method ∧ handed.path = request.path

theorem MiddlewareTree.HandsOn.mono
    {expected wider : GatewayRequest → Prop} {tree : MiddlewareTree}
    (keeps : tree.HandsOn expected)
    (weaken : ∀ request, expected request → wider request) :
    tree.HandsOn wider := by
  induction tree with
  | respond response => trivial
  | raise => trivial
  | callNext request resume ih =>
      constructor
      · exact weaken request keeps.1
      · intro outcome
        exact ih outcome (keeps.2 outcome)

theorem Session.All.respond
    {session : Session} {allowed : Dispatch → Prop}
    (edge : Edge) (before : session.All allowed)
    (response : Option GatewayResponse) :
    (edge.respond session response).All allowed := by
  cases response with
  | none => exact before
  | some response =>
      cases stream : response.stream with
      | none =>
          simp only [Edge.respond, stream]
          exact before
      | some handle =>
          simp only [Edge.respond, stream]
          exact before.iterate edge handle

/-- Every frame of a WebSocket session is cast as a stream request. -/
theorem Edge.wsLoop_all
    {allowed : Dispatch → Prop} (edge : Edge) (agent : String)
    (ok : ∀ payload, allowed (wsDispatch agent "ws.message" payload))
    (closed : allowed (wsClose agent))
    (events : List WsEvent) (session : Session)
    (before : session.All allowed) :
    (edge.wsLoop agent events session).All allowed := by
  induction events generalizing session with
  | nil => exact before
  | cons event rest ih =>
      cases event with
      | disconnect => exact before.record closed
      | receive text bytes =>
          simp only [wsLoop]
          split
          · exact ih session before
          · rename_i payload parsed
            have sent := before.record (ok payload)
            split
            · exact ih _ sent
            · exact sent.record closed

/-! ## An open deployment -/

/-- `text.encode()` on ASCII text. -/
def asciiBytes (text : String) : Bytes :=
  text.toList.map fun letter => UInt8.ofNat letter.toNat

/--
A deployment in which every agent is up and answers `{}` and no middleware is
configured.  `loads` stands for `json.loads` on the bodies that occur.
-/
def openEdge (loads : Bytes → Option Value) : Edge where
  gateway := "gateway"
  str := textOnly
  surroundings := fun _ =>
    { registered := fun _ => true
      hasReplyAddress := fun _ => false
      transmits := fun _ => true
      answer := fun _ => .ok [] }
  jsonLoads := loads
  jsonLoadsText := fun _ => none
  decode := fun _ => ""
  parseMultipart := fun _ _ => none
  int := fun _ => none
  middleware := fun _ request => .callNext request fun outcome =>
    match outcome with
    | some response => .respond response
    | none => .raise
  jwtVerifier := none
  mtlsAuthorizes := fun _ => false

end Civitas.Gateway
