import Civitas.Gateway.Arrivals

/-!
# The events of an HTTP response

`_handle_http` of `gateway/asgi.py` decodes the headers of a request and runs
the chain of middleware; `_respond` and `_respond_stream` write the response
out as one start event and a number of body events, the last of which
announces no more.

A streaming response commits its start before its request is on the bus: the
generator of `GatewayDispatcher.stream` sends the request when it is first
iterated.  Of the errors this can raise only `_StreamClosed` is caught where
the frames are written, so a stream that fails to start leaves the exchange
without an end.  A raw reply is read before the start, and one that cannot be
read leaves the exchange without any event.  So does whatever raises on the
way to the response: a header that is no UTF-8, a body nested too deep for the
JSON parser, a certificate that cannot be loaded, and any middleware.
-/

namespace Civitas.Gateway

open Civitas.PyText
open Civitas.PyValue

/-! ## Writing a response -/

/-- An event the application sends. -/
inductive SendEvent where
  | start (status : Int) (headers : List (String × String))
  | body (text : String) (moreBody : Bool)
deriving DecidableEq

/-- What a stream yields: its chunks, and why it closed if not normally. -/
structure StreamOutcome where
  chunks : List Dict := []
  closed : Option String := none

/--
What writing responses needs besides the edge.  A reply is a message, and
`Message.__post_init__` rejects payloads that are not JSON.
-/
structure Responder extends Edge where
  /-- `str.lower`. -/
  lower : String → String
  /-- `json.loads` raises a `RecursionError`, which is no `ValueError`. -/
  nestsTooDeep : Bytes → Bool
  dumps : Value → String
  yields : BusMessage → StreamOutcome
  docs : String → String × String
  portQuic : Option Nat
  answer_jsonable : ∀ moment message reply,
    (surroundings moment).answer message = .ok reply →
      (Value.dict reply).jsonable = true

/-- The HTTP/3 advertisement of `_respond`. -/
def Responder.altSvc (responder : Responder) : List (String × String) :=
  match responder.portQuic with
  | some port => [("alt-svc", "h3=\":" ++ toString port ++ "\"")]
  | none => []

/-- `response.content_type or …`; `none` when it cannot be encoded. -/
def contentTypeText : Option Value → Option String
  | none => some "text/plain; charset=utf-8"
  | some value =>
      if value.truthy then
        match value with
        | .str text => some text
        | _ => none
      else some "text/plain; charset=utf-8"

/-- Body and content type of a response that does not stream. -/
def Responder.encoded
    (responder : Responder) (response : GatewayResponse) :
    Option (String × String) :=
  match response.rawBody with
  | some raw =>
      (contentTypeText response.contentType).map fun type => (raw, type)
  | none =>
      if (Value.dict response.body).jsonable
      then some (responder.dumps (.dict response.body), "application/json")
      else none

/-- An SSE frame of a chunk. -/
def Responder.chunkFrame
    (responder : Responder) (eventId : Nat) (chunk : Dict) : String :=
  "id: " ++ toString eventId ++ "\ndata: " ++
    responder.dumps (.dict chunk) ++ "\n\n"

/-- The SSE frame of a stream that closed abnormally. -/
def Responder.errorFrame (responder : Responder) (reason : String) : String :=
  "event: error\ndata: " ++
    responder.dumps (.dict (dictOf [("error", .str reason)])) ++ "\n\n"

/-- The loop that writes the chunks of a stream. -/
def Responder.writeChunks (responder : Responder) :
    Nat → List Dict → List SendEvent
  | _, [] => []
  | eventId, chunk :: rest =>
      .body (responder.chunkFrame (eventId + 1) chunk) true ::
        responder.writeChunks (eventId + 1) rest

/-- The events of a stream whose request is on the bus. -/
def Responder.writeStream
    (responder : Responder) (outcome : StreamOutcome) : List SendEvent :=
  responder.writeChunks 0 outcome.chunks ++
    (match outcome.closed with
      | some reason => [.body (responder.errorFrame reason) true]
      | none => []) ++
    [.body "" false]

/-- `_respond_stream`. -/
def Responder.respondStream
    (responder : Responder) (session : Session)
    (response : GatewayResponse) (handle : Nat)
    (extra : List (String × String)) : List SendEvent :=
  .start response.status
      ([("content-type", "text/event-stream"),
          ("cache-control", "no-cache")] ++
        responder.altSvc ++ response.headers ++ extra) ::
    match session.streams[handle]? with
    | none => [.body "" false]
    | some dispatch =>
        match (responder.now session).attempt responder.gateway dispatch with
        | .ok message => responder.writeStream (responder.yields message)
        | .error _ => []

/-- `_respond`, with what is sent before an error leaves it. -/
def Responder.respond
    (responder : Responder) (session : Session)
    (response : GatewayResponse) (extra : List (String × String)) :
    List SendEvent :=
  match response.stream with
  | some handle => responder.respondStream session response handle extra
  | none =>
      match responder.encoded response with
      | none => []
      | some (text, type) =>
          [.start response.status
              ([("content-type", type),
                  ("content-length", toString text.utf8ByteSize)] ++
                responder.altSvc ++ response.headers ++ extra),
            .body text false]

/-- `_serve_swagger` and `_serve_openapi_json`. -/
def Responder.serveDocs
    (responder : Responder) (path : String) : List SendEvent :=
  let (text, type) := responder.docs path
  [.start 200
      [("content-type", type),
        ("content-length", toString text.utf8ByteSize)],
    .body text false]

/-- The trace header that is attached to an answer. -/
def traceHeaders (headers : List (String × String)) :
    List (String × String) :=
  match lastOf headers "traceparent" with
  | some value => if value = "" then [] else [("traceparent", value)]
  | none => []

/-- A scope as the server hands it over, and the body of the request. -/
structure RawScope where
  method : String
  path : String
  headers : List (Bytes × Bytes) := []
  query : String := ""
  client : String := ""
  /--
  What `_client_cert_from_headers` or `_client_cert_from_scope` returns;
  `none` when loading the certificate raises what they do not catch.
  -/
  clientCert : Option (Option Dict) := some none
  body : Bytes := []

/-- `bytes.decode`, which raises where the bytes are no UTF-8. -/
def decodeStrict (bytes : Bytes) : Option String :=
  String.fromUTF8? ⟨bytes.toArray⟩

/-- The decoded headers; `none` is a `UnicodeDecodeError`. -/
def Responder.decodeHeaders
    (responder : Responder) (raw : RawScope) :
    Option (List (String × String)) :=
  raw.headers.mapM fun header => do
    let name ← decodeStrict header.1
    let value ← decodeStrict header.2
    some (responder.lower name, value)

/-- The scope with decoded headers. -/
def RawScope.decoded
    (raw : RawScope) (headers : List (String × String)) : HttpScope where
  method := raw.method
  path := raw.path
  headers := headers
  query := raw.query
  client := raw.client
  clientCert := raw.clientCert.join
  body := raw.body

/-- The body is given to `json.loads`, which gives up on it. -/
def Responder.recurses (responder : Responder) (scope : HttpScope) : Bool :=
  !startsWith ((lastOf scope.headers "content-type").getD "")
      "multipart/form-data" &&
    responder.nestsTooDeep scope.body

/-- The events of `_handle_http` once the headers are decoded. -/
def Responder.serve
    (responder : Responder) (config : GatewayConfig) (scope : HttpScope)
    (certified : Bool) : List SendEvent :=
  if servesDocs config scope then responder.serveDocs scope.path
  else if scope.body ≠ [] ∧ responder.recurses scope then []
  else
    match responder.parseBody scope with
    | .error refused => responder.respond {} refused []
    | .ok body =>
        if certified = false then []
        else
          match responder.runChain config scope body with
          | (session, some response) =>
              responder.respond session response (traceHeaders scope.headers)
          | (_, none) => []

/-- The events `_handle_http` sends for a request received completely. -/
def Responder.exchange
    (responder : Responder) (config : GatewayConfig) (raw : RawScope) :
    List SendEvent :=
  match responder.decodeHeaders raw with
  | none => []
  | some headers =>
      responder.serve config (raw.decoded headers) raw.clientCert.isSome

/-! ## The contract of middleware -/

/-- A response that does not stream and can be encoded. -/
def Responder.Plain
    (responder : Responder) (response : GatewayResponse) : Prop :=
  response.stream = none ∧ (responder.encoded response).isSome = true

/--
A middleware raises, answers a request itself, or calls next once and returns
the response, with its status and headers changed at most; an error of the
next handler passes through.
-/
def MiddlewareTree.Passes : MiddlewareTree → Prop
  | .respond response => response.stream = none
  | .raise => True
  | .callNext _ resume =>
      resume none = .raise ∧
        ∀ response, ∃ status headers,
          resume (some response) =
            .respond { response with status := status, headers := headers }

/-- All middleware keeps the contract. -/
def Edge.MiddlewarePasses (edge : Edge) : Prop :=
  ∀ name request, (edge.middleware name request).Passes

/-- How far a request gets through the middleware. -/
inductive Passage where
  | answered (response : GatewayResponse)
  | raised
  | arrived (request : GatewayRequest)

/-- The first middleware that does not let a request through decides. -/
def Edge.passage (edge : Edge) : List String → GatewayRequest → Passage
  | [], request => .arrived request
  | name :: rest, request =>
      match edge.middleware name request with
      | .respond response => .answered response
      | .raise => .raised
      | .callNext handed _ => edge.passage rest handed

/-! ## The law and its condition -/

/-- A raw reply has text, a status that converts, and a textual type. -/
def Edge.RawReadable (edge : Edge) (reply : Dict) : Prop :=
  (∃ raw, field reply "__raw_body__" (.str "") = .str raw) ∧
    (edge.int (field reply "__status__" (.int 200))).isSome = true ∧
    (contentTypeText
      (some (field reply "__content_type__"
        (.str "text/plain; charset=utf-8")))).isSome = true

/-- The dispatch of a request at the end of the chain for a scope. -/
def GatewayConfig.dispatchOf
    (config : GatewayConfig) (scope : HttpScope)
    (request : GatewayRequest) : Option Dispatch :=
  let matched :=
    (config.routeTable.match scope.method scope.path).map (·.1)
  terminalDispatch config.routeTable matched (config.chainOf matched) request

/-- How far a request with a parsed body gets. -/
def Edge.passageOf
    (edge : Edge) (config : GatewayConfig) (scope : HttpScope)
    (body : Dict) : Passage :=
  let found := config.routeTable.match scope.method scope.path
  edge.passage (config.chainOf (found.map (·.1)))
    (chainRequest scope ((found.map (·.2)).getD []) body)

/-- The request of a scope that reaches the dispatcher. -/
def Responder.Dispatches
    (responder : Responder) (config : GatewayConfig) (raw : RawScope)
    (dispatch : Dispatch) : Prop :=
  ∃ headers, responder.decodeHeaders raw = some headers ∧
    let scope := raw.decoded headers
    servesDocs config scope = false ∧
      ∃ body request,
        responder.parseBody scope = .ok body ∧
          responder.passageOf config scope body = .arrived request ∧
          config.dispatchOf scope request = some dispatch

/-- A stream can start, and a raw reply can be read. -/
def Responder.Writable
    (responder : Responder) (dispatch : Dispatch) : Prop :=
  match dispatch.mode with
  | .stream =>
      ∃ message,
        (responder.surroundings 0).attempt responder.gateway dispatch =
          .ok message
  | .cast => True
  | .call =>
      dispatch.route.map (·.rawResponse) = some true →
        ∀ message reply,
          (responder.surroundings 0).attempt responder.gateway dispatch =
              .ok message →
            (responder.surroundings 0).answer message = .ok reply →
              field? reply "error" = none → responder.RawReadable reply

/--
Middleware that does not let a request through answers it with what can be
encoded, and what a request is dispatched to lets the exchange end.
-/
def Responder.Endable
    (responder : Responder) (config : GatewayConfig) (scope : HttpScope)
    (body : Dict) : Prop :=
  match responder.passageOf config scope body with
  | .answered response => responder.Plain response
  | .raised => False
  | .arrived request =>
      ∀ dispatch, config.dispatchOf scope request = some dispatch →
        responder.Writable dispatch

/--
The headers are UTF-8, and, unless the documentation is asked for, the body is
not nested too deep, and if it is read, the certificate can be loaded and the
exchange can end.
-/
def Responder.Orderly
    (responder : Responder) (config : GatewayConfig) (raw : RawScope) :
    Prop :=
  ∃ headers, responder.decodeHeaders raw = some headers ∧
    let scope := raw.decoded headers
    (servesDocs config scope = true ∨
      ¬(scope.body ≠ [] ∧ responder.recurses scope = true) ∧
        ∀ body, responder.parseBody scope = .ok body →
          raw.clientCert.isSome = true ∧
            responder.Endable config scope body)

/-- The events of the chunks of a stream, numbered from one. -/
def Responder.numberedFrames
    (responder : Responder) (chunks : List Dict) : List String :=
  (chunks.zipIdx 1).map fun chunk => responder.chunkFrame chunk.2 chunk.1

/--
One start event, then body events of which exactly the last announces no
more; the chunks of a stream come in order, numbered from one, and an error
event follows them if the stream closed abnormally.
-/
def Responder.WellFormed
    (responder : Responder) (config : GatewayConfig)
    (raw : RawScope) : Prop :=
  ∃ status headers frames last,
    responder.exchange config raw =
        .start status headers ::
          (frames.map (SendEvent.body · true) ++ [.body last false]) ∧
      ∀ dispatch message,
        responder.Dispatches config raw dispatch →
          dispatch.mode = .stream →
            (responder.surroundings 0).attempt responder.gateway dispatch =
                .ok message →
              frames =
                responder.numberedFrames
                    (responder.yields message).chunks ++
                  ((responder.yields message).closed.map
                    responder.errorFrame).toList

/-! ## Chains of middleware that passes requests on -/

/-- What is behind the middleware that a request gets through. -/
def Passage.answer
    (handler : Handler) (session : Session) :
    Passage → Session × Option GatewayResponse
  | .answered response => (session, some response)
  | .raised => (session, none)
  | .arrived request => handler request session

/-- The outcome of a chain is another one up to status and headers. -/
structure Relays (outer inner : Session × Option GatewayResponse) : Prop where
  session : outer.1 = inner.1
  raises : inner.2 = none → outer.2 = none
  answers : ∀ response, inner.2 = some response → ∃ status headers,
    outer.2 = some { response with status := status, headers := headers }

theorem Relays.refl (outcome : Session × Option GatewayResponse) :
    Relays outcome outcome :=
  ⟨rfl, id, fun response answered =>
    ⟨response.status, response.headers, answered⟩⟩

/-- A chain relays what is behind the middleware that lets a request through. -/
theorem Edge.buildChain_relays
    {edge : Edge} (contract : edge.MiddlewarePasses)
    (handler : List String → Handler) (passed rest : List String)
    (request : GatewayRequest) (session : Session) :
    Relays (edge.buildChain handler passed rest request session)
      ((edge.passage rest request).answer (handler (passed ++ rest))
        session) := by
  induction rest generalizing passed request with
  | nil =>
      rw [List.append_nil]
      exact Relays.refl _
  | cons name rest ih =>
      have keeps := contract name request
      cases tree : edge.middleware name request with
      | respond response =>
          simp only [Edge.buildChain, Edge.passage, tree, MiddlewareTree.run,
            Passage.answer]
          exact Relays.refl _
      | raise =>
          simp only [Edge.buildChain, Edge.passage, tree, MiddlewareTree.run,
            Passage.answer]
          exact Relays.refl _
      | callNext handed resume =>
          rw [tree] at keeps
          have next := ih (passed ++ [name]) handed
          rw [List.append_assoc] at next
          simp only [Edge.buildChain, Edge.passage, tree, MiddlewareTree.run]
          rcases ran : edge.buildChain handler (passed ++ [name]) rest handed
            session with ⟨later, answer⟩
          rw [ran] at next
          cases answer with
          | none =>
              rw [keeps.1]
              refine ⟨next.session, fun _ => rfl, fun response answered => ?_⟩
              rcases next.answers response answered with ⟨_, _, impossible⟩
              cases impossible
          | some given =>
              rcases keeps.2 given with ⟨status, headers, resumed⟩
              rw [resumed]
              refine ⟨next.session, fun raised => ?_,
                fun response answered => ?_⟩
              · cases next.raises raised
              · rcases next.answers response answered with ⟨_, _, same⟩
                cases same
                exact ⟨status, headers, rfl⟩

/-- Middleware that answers a request itself does not stream. -/
theorem Edge.stream_of_answered
    {edge : Edge} (contract : edge.MiddlewarePasses) {names : List String}
    {request : GatewayRequest} {response : GatewayResponse}
    (answered : edge.passage names request = .answered response) :
    response.stream = none := by
  induction names generalizing request with
  | nil => cases answered
  | cons name rest ih =>
      have keeps := contract name request
      rw [Edge.passage] at answered
      cases tree : edge.middleware name request with
      | respond own =>
          rw [tree] at answered keeps
          cases answered
          exact keeps
      | raise =>
          rw [tree] at answered
          cases answered
      | callNext handed resume =>
          rw [tree] at answered
          exact ih answered

/-! ## Responses that do not stream -/

/-- The events have the shape of an exchange with these chunk frames. -/
def Terminated (events : List SendEvent) (frames : List String) : Prop :=
  ∃ status headers last,
    events =
      .start status headers ::
        (frames.map (SendEvent.body · true) ++ [.body last false])

theorem not_terminated_nil (frames : List String) :
    ¬ Terminated [] frames := by
  rintro ⟨_, _, _, same⟩
  cases same

theorem not_terminated_start
    (status : Int) (headers : List (String × String))
    (frames : List String) :
    ¬ Terminated [.start status headers] frames := by
  rintro ⟨_, _, _, same⟩
  have rest := (List.cons.inj same).2
  have positive := congrArg List.length rest
  simp at positive

/-- A plain response is written out completely, with one body event. -/
theorem Responder.terminated_respond
    {responder : Responder} {response : GatewayResponse}
    (plain : responder.Plain response)
    (session : Session) (extra : List (String × String)) :
    Terminated (responder.respond session response extra) [] := by
  rcases Option.isSome_iff_exists.mp plain.2 with ⟨⟨text, type⟩, encoded⟩
  simp only [Responder.respond, plain.1, encoded]
  exact ⟨_, _, _, rfl⟩

/-- A response that cannot be encoded is not written out at all. -/
theorem Responder.respond_of_not_plain
    {responder : Responder} {response : GatewayResponse}
    (whole : response.stream = none) (unfit : ¬ responder.Plain response)
    (session : Session) (extra : List (String × String)) :
    responder.respond session response extra = [] := by
  have unencoded : responder.encoded response = none := by
    apply Option.not_isSome_iff_eq_none.mp
    exact fun encoded => unfit ⟨whole, encoded⟩
  simp only [Responder.respond, whole, unencoded]

theorem Responder.plain_errorResponse
    (responder : Responder) (status : Int) (error : String) :
    responder.Plain (errorResponse status error) := by
  constructor
  · rfl
  · simp [Responder.encoded, errorResponse, dictOf, Value.jsonable,
      Value.jsonable.jsonableEntries]

/-- A refused body is answered with an error. -/
theorem Edge.parseBody_error
    {edge : Edge} {scope : HttpScope} {refused : GatewayResponse}
    (parsed : edge.parseBody scope = .error refused) :
    ∃ error, refused = errorResponse 400 error := by
  unfold Edge.parseBody at parsed
  simp only at parsed
  split at parsed
  · cases parsed
  · split at parsed
    · split at parsed
      · cases parsed
      · cases parsed
        exact ⟨_, rfl⟩
    · split at parsed
      · cases parsed
      · cases parsed
        exact ⟨_, rfl⟩
      · cases parsed
        exact ⟨_, rfl⟩

/-! ## Results of the dispatcher -/

/-- A cast is answered plainly, whatever came of it. -/
theorem Responder.plain_castResult
    (responder : Responder) (raw : Bool) (recipient : String)
    (sent : Except SendError BusMessage) :
    ∃ response,
      responder.resultToResponse raw (castResult recipient sent) =
          some response ∧
        responder.Plain response := by
  cases sent with
  | ok message =>
      refine ⟨{ status := 202 }, rfl, rfl, ?_⟩
      simp [Responder.encoded, Value.jsonable,
        Value.jsonable.jsonableEntries]
  | error raised =>
      cases raised <;> exact ⟨_, rfl, responder.plain_errorResponse _ _⟩

/-- A raw reply is answered plainly exactly when it can be read. -/
theorem Responder.plain_rawReply_iff
    (responder : Responder) (reply : Dict) :
    (∃ response,
        responder.resultToResponse true
            { status := .ok, payload := reply } = some response ∧
          responder.Plain response) ↔
      responder.RawReadable reply := by
  unfold Edge.RawReadable
  simp only [Edge.resultToResponse, if_true]
  constructor
  · rintro ⟨response, answered, plain⟩
    split at answered
    · rename_i raw status text converted
      cases answered
      refine ⟨⟨raw, text⟩, by simp [converted], ?_⟩
      have encoded := plain.2
      simpa [Responder.encoded] using encoded
    · cases answered
  · rintro ⟨⟨raw, text⟩, converts, typed⟩
    rcases Option.isSome_iff_exists.mp converts with ⟨status, converted⟩
    rw [text, converted]
    refine ⟨_, rfl, rfl, ?_⟩
    simpa [Responder.encoded] using typed

/-- A call is answered plainly unless a raw reply cannot be read. -/
theorem Responder.plain_callResult_iff
    (responder : Responder) (raw : Bool) (recipient : String)
    (moment : Nat) (sent : Except SendError BusMessage) :
    (∃ response,
        responder.resultToResponse raw
            (callResult responder.str (responder.surroundings moment)
              recipient sent) = some response ∧
          responder.Plain response) ↔
      (raw = true → ∀ message reply, sent = .ok message →
        (responder.surroundings moment).answer message = .ok reply →
          field? reply "error" = none → responder.RawReadable reply) := by
  cases sent with
  | error raised =>
      refine iff_of_true ?_ ?_
      · cases raised <;> exact ⟨_, rfl, responder.plain_errorResponse _ _⟩
      · intro _ message reply impossible
        cases impossible
  | ok message =>
      cases answer : (responder.surroundings moment).answer message with
      | error failure =>
          refine iff_of_true ?_ ?_
          · simp only [callResult, answer]
            cases failure <;>
              exact ⟨_, rfl, responder.plain_errorResponse _ _⟩
          · intro _ other reply same answered
            cases same
            rw [answer] at answered
            cases answered
      | ok reply =>
          have json :=
            responder.answer_jsonable moment message reply answer
          cases failed : field? reply "error" with
          | some error =>
              refine iff_of_true ?_ ?_
              · simp only [callResult, answer, failed]
                refine ⟨_, rfl, rfl, ?_⟩
                simp [Responder.encoded, json]
              · intro _ other given same answered fine
                cases same
                rw [answer] at answered
                cases answered
                rw [failed] at fine
                cases fine
          | none =>
              simp only [callResult, answer, failed]
              cases raw with
              | false =>
                  refine iff_of_true ⟨_, rfl, rfl, ?_⟩ ?_
                  · simp [Responder.encoded, json]
                  · intro impossible
                    cases impossible
              | true =>
                  rw [responder.plain_rawReply_iff]
                  constructor
                  · intro readable _ other given same answered _
                    cases same
                    rw [answer] at answered
                    cases answered
                    exact readable
                  · intro readable
                    exact readable rfl message reply rfl answer failed

/-! ## Streams -/

/-- The chunks are written in order, under consecutive numbers. -/
theorem Responder.writeChunks_eq
    (responder : Responder) (eventId : Nat) (chunks : List Dict) :
    responder.writeChunks eventId chunks =
      ((chunks.zipIdx (eventId + 1)).map fun chunk =>
        responder.chunkFrame chunk.2 chunk.1).map
          (SendEvent.body · true) := by
  induction chunks generalizing eventId with
  | nil => rfl
  | cons chunk rest ih =>
      rw [Responder.writeChunks, ih, List.zipIdx_cons]
      rfl

/-- A stream whose request is on the bus is written out to its end. -/
theorem Responder.writeStream_eq
    (responder : Responder) (outcome : StreamOutcome) :
    responder.writeStream outcome =
      (responder.numberedFrames outcome.chunks ++
          (outcome.closed.map responder.errorFrame).toList).map
        (SendEvent.body · true) ++ [.body "" false] := by
  rw [Responder.writeStream, responder.writeChunks_eq, List.map_append]
  cases outcome.closed <;> rfl

/-- The end of the chain for a scope, applied to a request. -/
def Responder.atEnd
    (responder : Responder) (config : GatewayConfig) (scope : HttpScope)
    (request : GatewayRequest) : Session × Option GatewayResponse :=
  let matched :=
    (config.routeTable.match scope.method scope.path).map (·.1)
  responder.dispatchHandler config.routeTable matched
    (config.chainOf matched) request {}

/-- A stream is opened at the end of the chain and not yet iterated. -/
theorem Responder.atEnd_of_stream
    {responder : Responder} {config : GatewayConfig} {scope : HttpScope}
    {request : GatewayRequest} {dispatch : Dispatch}
    (built : config.dispatchOf scope request = some dispatch)
    (streams : dispatch.mode = .stream) :
    responder.atEnd config scope request =
      ({ streams := [dispatch] }, some { stream := some 0 }) := by
  have made :
      terminalDispatch config.routeTable
          ((config.routeTable.match scope.method scope.path).map (·.1))
          (config.chainOf
            ((config.routeTable.match scope.method scope.path).map (·.1)))
          request = some dispatch := built
  unfold Responder.atEnd Edge.dispatchHandler
  simp only [made, streams, Session.openStream, List.nil_append,
    List.length_nil]

/-- Any other dispatch is made at once and its result read. -/
theorem Responder.atEnd_of_dispatch
    {responder : Responder} {config : GatewayConfig} {scope : HttpScope}
    {request : GatewayRequest} {dispatch : Dispatch}
    (built : config.dispatchOf scope request = some dispatch)
    (atOnce : dispatch.mode ≠ .stream) :
    (responder.atEnd config scope request).2 =
      responder.resultToResponse
        ((dispatch.route.map (·.rawResponse)).getD false)
        (responder.dispatch dispatch {}).2 := by
  have made :
      terminalDispatch config.routeTable
          ((config.routeTable.match scope.method scope.path).map (·.1))
          (config.chainOf
            ((config.routeTable.match scope.method scope.path).map (·.1)))
          request = some dispatch := built
  unfold Responder.atEnd Edge.dispatchHandler
  simp only [made]

/-- What is dispatched at once is answered plainly if it is writable. -/
theorem Responder.plain_atEnd_iff
    {responder : Responder} {config : GatewayConfig} {scope : HttpScope}
    {request : GatewayRequest} {dispatch : Dispatch}
    (built : config.dispatchOf scope request = some dispatch)
    (atOnce : dispatch.mode ≠ .stream) :
    (∃ response,
        (responder.atEnd config scope request).2 = some response ∧
          responder.Plain response) ↔
      responder.Writable dispatch := by
  rw [Responder.atEnd_of_dispatch built atOnce]
  unfold Responder.Writable World.dispatch
  cases mode : dispatch.mode with
  | stream => exact absurd mode atOnce
  | cast =>
      exact iff_of_true (responder.plain_castResult _ _ _) trivial
  | call =>
      have now :
          responder.now {} = responder.surroundings 0 := rfl
      simp only [now]
      rw [responder.plain_callResult_iff]
      cases dispatch.route with
      | none => simp
      | some entry => simp

/-- At the end of the chain only an opened stream is answered with one. -/
theorem Responder.stream_of_atEnd
    {responder : Responder} {config : GatewayConfig} {scope : HttpScope}
    {request : GatewayRequest} {dispatch : Dispatch}
    {response : GatewayResponse}
    (built : config.dispatchOf scope request = some dispatch)
    (atOnce : dispatch.mode ≠ .stream)
    (answered :
      (responder.atEnd config scope request).2 = some response) :
    response.stream = none := by
  rw [Responder.atEnd_of_dispatch built atOnce] at answered
  exact Edge.stream_of_resultToResponse answered

/-! ## Exchanges -/

/-- A request whose body is read and whose certificate is loaded. -/
structure Responder.Reaches
    (responder : Responder) (config : GatewayConfig) (scope : HttpScope)
    (body : Dict) : Prop where
  undocumented : servesDocs config scope = false
  shallow : ¬(scope.body ≠ [] ∧ responder.recurses scope = true)
  parsed : responder.parseBody scope = .ok body

/-- What is behind the middleware, for a request with a parsed body. -/
def Responder.inner
    (responder : Responder) (config : GatewayConfig) (scope : HttpScope)
    (body : Dict) : Session × Option GatewayResponse :=
  let matched :=
    (config.routeTable.match scope.method scope.path).map (·.1)
  (responder.passageOf config scope body).answer
    (responder.dispatchHandler config.routeTable matched
      (config.chainOf matched)) {}

/-- Its answer is written out, or nothing is. -/
theorem Responder.Reaches.serve
    {responder : Responder} (contract : responder.MiddlewarePasses)
    {config : GatewayConfig} {scope : HttpScope} {body : Dict}
    (reaches : responder.Reaches config scope body) :
    ((responder.inner config scope body).2 = none →
        responder.serve config scope true = []) ∧
      ∀ response,
        (responder.inner config scope body).2 = some response →
          ∃ status headers,
            responder.serve config scope true =
              responder.respond (responder.inner config scope body).1
                { response with status := status, headers := headers }
                (traceHeaders scope.headers) := by
  have relays : Relays (responder.runChain config scope body)
      (responder.inner config scope body) := by
    have chain := Edge.buildChain_relays contract
      (responder.dispatchHandler config.routeTable
        ((config.routeTable.match scope.method scope.path).map (·.1)))
      [] (config.chainOf
        ((config.routeTable.match scope.method scope.path).map (·.1)))
      (chainRequest scope
        (((config.routeTable.match scope.method scope.path).map
          (·.2)).getD []) body) {}
    rw [List.nil_append] at chain
    exact chain
  have unfolded :
      responder.serve config scope true =
        match responder.runChain config scope body with
        | (session, some response) =>
            responder.respond session response (traceHeaders scope.headers)
        | (_, none) => [] := by
    simp only [Responder.serve, reaches.undocumented, reaches.parsed,
      Bool.false_eq_true, if_false, if_neg reaches.shallow, Bool.true_eq_false]
  rcases ran : responder.runChain config scope body with ⟨session, answer⟩
  rw [unfolded, ran]
  rw [ran] at relays
  constructor
  · intro raised
    have silent : answer = none := relays.raises raised
    rw [silent]
  · intro response answered
    rcases relays.answers response answered with ⟨status, headers, written⟩
    have same : answer =
        some { response with status := status, headers := headers } := written
    have sameSession : session = (responder.inner config scope body).1 :=
      relays.session
    rw [same, sameSession]
    exact ⟨status, headers, rfl⟩

/-- What is answered at once is written out completely if it is plain. -/
theorem Responder.Reaches.terminated_iff
    {responder : Responder} (contract : responder.MiddlewarePasses)
    {config : GatewayConfig} {scope : HttpScope} {body : Dict}
    (reaches : responder.Reaches config scope body)
    (whole : ∀ response,
      (responder.inner config scope body).2 = some response →
        response.stream = none) :
    (∃ frames, Terminated (responder.serve config scope true) frames) ↔
      ∃ response, (responder.inner config scope body).2 = some response ∧
        responder.Plain response := by
  have written := reaches.serve contract
  constructor
  · rintro ⟨frames, complete⟩
    cases answer : (responder.inner config scope body).2 with
    | none =>
        rw [written.1 answer] at complete
        exact (not_terminated_nil frames complete).elim
    | some response =>
        refine ⟨response, rfl, ?_⟩
        by_contra unfit
        rcases written.2 response answer with ⟨status, headers, same⟩
        have silent := @Responder.respond_of_not_plain responder
          { response with status := status, headers := headers }
          (whole response answer) unfit
        rw [same, silent] at complete
        exact not_terminated_nil frames complete
  · rintro ⟨response, answer, plain⟩
    rcases written.2 response answer with ⟨status, headers, same⟩
    rw [same]
    exact ⟨[], @Responder.terminated_respond responder
      { response with status := status, headers := headers }
      plain _ _⟩

/-- The events of an opened stream, by whether its request can be sent. -/
theorem Responder.respond_opened_stream
    (responder : Responder) (dispatch : Dispatch) (status : Int)
    (headers extra : List (String × String)) :
    ∃ startHeaders,
      responder.respond { streams := [dispatch] }
          { status := status, headers := headers, stream := some 0 } extra =
        .start status startHeaders ::
          match (responder.surroundings 0).attempt
              responder.gateway dispatch with
          | .ok message => responder.writeStream (responder.yields message)
          | .error _ => [] :=
  ⟨_, rfl⟩

/-- The events of an exchange that lets a request through to a stream. -/
theorem Responder.Reaches.serve_of_stream
    {responder : Responder} (contract : responder.MiddlewarePasses)
    {config : GatewayConfig} {scope : HttpScope}
    {body : Dict} {request : GatewayRequest} {dispatch : Dispatch}
    (reaches : responder.Reaches config scope body)
    (arrived : responder.passageOf config scope body = .arrived request)
    (built : config.dispatchOf scope request = some dispatch)
    (streams : dispatch.mode = .stream) :
    ∃ status headers,
      responder.serve config scope true =
        .start status headers ::
          match (responder.surroundings 0).attempt
              responder.gateway dispatch with
          | .ok message => responder.writeStream (responder.yields message)
          | .error _ => [] := by
  have ended : responder.inner config scope body =
      ({ streams := [dispatch] }, some { stream := some 0 }) := by
    rw [Responder.inner, arrived]
    exact @Responder.atEnd_of_stream responder _ _ _ _ built streams
  rcases (reaches.serve contract).2 { stream := some 0 }
    (congrArg Prod.snd ended) with ⟨status, headers, written⟩
  rcases responder.respond_opened_stream dispatch status headers
    (traceHeaders scope.headers) with ⟨startHeaders, events⟩
  rw [written, ended]
  exact ⟨status, startHeaders, events⟩

/-- What a request that reaches the dispatcher is dispatched to. -/
theorem Responder.Reaches.dispatches_iff
    {responder : Responder} {config : GatewayConfig} {raw : RawScope}
    {headers : List (String × String)} {body : Dict}
    (decoded : responder.decodeHeaders raw = some headers)
    (reaches : responder.Reaches config (raw.decoded headers) body)
    (dispatch : Dispatch) :
    responder.Dispatches config raw dispatch ↔
      ∃ request,
        responder.passageOf config (raw.decoded headers) body =
            .arrived request ∧
          config.dispatchOf (raw.decoded headers) request =
            some dispatch := by
  constructor
  · rintro ⟨others, read, _, other, request, parsed, arrived, built⟩
    rw [decoded] at read
    cases read
    rw [reaches.parsed] at parsed
    cases parsed
    exact ⟨request, arrived, built⟩
  · rintro ⟨request, arrived, built⟩
    exact ⟨headers, decoded, reaches.undocumented, body, request,
      reaches.parsed, arrived, built⟩

/-- An exchange that dispatches nothing through a stream has no frames. -/
theorem Responder.wellFormed_iff_terminated
    {responder : Responder} {config : GatewayConfig} {raw : RawScope}
    (streamless : ∀ dispatch, responder.Dispatches config raw dispatch →
      dispatch.mode ≠ .stream) :
    responder.WellFormed config raw ↔
      ∃ frames, Terminated (responder.exchange config raw) frames := by
  constructor
  · rintro ⟨status, headers, frames, last, events, _⟩
    exact ⟨frames, status, headers, last, events⟩
  · rintro ⟨frames, status, headers, last, events⟩
    refine ⟨status, headers, frames, last, events, ?_⟩
    intro dispatch message dispatched streams
    exact absurd streams (streamless dispatch dispatched)

/-- An exchange without events is not well formed. -/
theorem Responder.not_wellFormed_of_silent
    {responder : Responder} {config : GatewayConfig} {raw : RawScope}
    (silent : responder.exchange config raw = []) :
    ¬ responder.WellFormed config raw := by
  rintro ⟨_, _, _, _, events, _⟩
  rw [silent] at events
  cases events

section Reached

variable {responder : Responder} {config : GatewayConfig} {raw : RawScope}
  {headers : List (String × String)} {body : Dict}

/-- A request that does not get to the dispatcher, or is not dispatched. -/
theorem Responder.Reaches.wellFormed_iff_plain
    (contract : responder.MiddlewarePasses)
    (decoded : responder.decodeHeaders raw = some headers)
    (reaches : responder.Reaches config (raw.decoded headers) body)
    (certified : raw.clientCert.isSome = true)
    (whole : ∀ response,
      (responder.inner config (raw.decoded headers) body).2 = some response →
        response.stream = none)
    (streamless : ∀ dispatch, responder.Dispatches config raw dispatch →
      dispatch.mode ≠ .stream) :
    responder.WellFormed config raw ↔
      ∃ response,
        (responder.inner config (raw.decoded headers) body).2 =
            some response ∧
          responder.Plain response := by
  rw [Responder.wellFormed_iff_terminated streamless,
    ← reaches.terminated_iff contract whole]
  simp only [Responder.exchange, decoded, certified]

/-- A request that is dispatched to a stream. -/
theorem Responder.Reaches.wellFormed_iff_of_stream
    (contract : responder.MiddlewarePasses)
    (decoded : responder.decodeHeaders raw = some headers)
    (reaches : responder.Reaches config (raw.decoded headers) body)
    (certified : raw.clientCert.isSome = true)
    {request : GatewayRequest} {dispatch : Dispatch}
    (arrived : responder.passageOf config (raw.decoded headers) body =
      .arrived request)
    (built : config.dispatchOf (raw.decoded headers) request = some dispatch)
    (streams : dispatch.mode = .stream) :
    responder.WellFormed config raw ↔ responder.Writable dispatch := by
  have only : ∀ other, responder.Dispatches config raw other →
      other = dispatch := by
    intro other dispatched
    rcases (reaches.dispatches_iff decoded other).mp dispatched with
      ⟨own, same, made⟩
    rw [arrived] at same
    cases same
    rw [built] at made
    exact (Option.some.inj made).symm
  rcases reaches.serve_of_stream contract arrived built streams with
    ⟨status, startHeaders, events⟩
  have exchanged : responder.exchange config raw =
      responder.serve config (raw.decoded headers) true := by
    simp only [Responder.exchange, decoded, certified]
  rw [← exchanged] at events
  cases sent : (responder.surroundings 0).attempt
      responder.gateway dispatch with
  | error raised =>
      refine iff_of_false ?_ ?_
      · rintro ⟨otherStatus, otherHeaders, frames, last, same, _⟩
        rw [sent] at events
        rw [events] at same
        exact not_terminated_start status startHeaders frames
          ⟨otherStatus, otherHeaders, last, same⟩
      · unfold Responder.Writable
        simp [streams, sent]
  | ok message =>
      refine iff_of_true ?_ ?_
      · rw [sent] at events
        refine
          ⟨status, startHeaders,
            responder.numberedFrames (responder.yields message).chunks ++
              ((responder.yields message).closed.map
                responder.errorFrame).toList,
            "", ?_, ?_⟩
        · rw [events]
          exact congrArg _ (responder.writeStream_eq _)
        · intro other delivered dispatched _ put
          rw [only other dispatched, sent] at put
          cases put
          rfl
      · unfold Responder.Writable
        simp [streams, sent]

/-- A request that reaches the middleware is exchanged well if it can end. -/
theorem Responder.Reaches.wellFormed_iff
    (contract : responder.MiddlewarePasses)
    (decoded : responder.decodeHeaders raw = some headers)
    (reaches : responder.Reaches config (raw.decoded headers) body)
    (certified : raw.clientCert.isSome = true) :
    responder.WellFormed config raw ↔
      responder.Endable config (raw.decoded headers) body := by
  have dispatches := reaches.dispatches_iff decoded
  cases passage : responder.passageOf config (raw.decoded headers) body with
  | answered response =>
      have behind : (responder.inner config (raw.decoded headers) body).2 =
          some response := by
        rw [Responder.inner, passage]
        rfl
      rw [reaches.wellFormed_iff_plain contract decoded certified
        (fun own answered => by
          rw [behind] at answered
          cases answered
          exact Edge.stream_of_answered contract passage)
        (fun dispatch dispatched => by
          rcases (dispatches dispatch).mp dispatched with ⟨_, arrived, _⟩
          rw [passage] at arrived
          cases arrived), behind]
      simp [Responder.Endable, passage]
  | raised =>
      have behind : (responder.inner config (raw.decoded headers) body).2 =
          none := by
        rw [Responder.inner, passage]
        rfl
      refine iff_of_false (Responder.not_wellFormed_of_silent ?_) ?_
      · simp only [Responder.exchange, decoded, certified]
        exact (reaches.serve contract).1 behind
      · simp [Responder.Endable, passage]
  | arrived request =>
      have behind : responder.inner config (raw.decoded headers) body =
          responder.atEnd config (raw.decoded headers) request := by
        rw [Responder.inner, passage]
        rfl
      have ending : responder.Endable config (raw.decoded headers) body ↔
          ∀ dispatch,
            config.dispatchOf (raw.decoded headers) request = some dispatch →
              responder.Writable dispatch := by
        simp only [Responder.Endable, passage]
      have made (dispatch : Dispatch)
          (dispatched : responder.Dispatches config raw dispatch) :
          config.dispatchOf (raw.decoded headers) request =
            some dispatch := by
        rcases (dispatches dispatch).mp dispatched with ⟨own, same, built⟩
        rw [passage] at same
        cases same
        exact built
      rw [ending]
      cases built : config.dispatchOf (raw.decoded headers) request with
      | none =>
          have ended : (responder.inner config (raw.decoded headers)
              body).2 =
                some (errorResponse 404
                  ("no route for " ++ request.method ++ " " ++
                    request.path)) := by
            have unmade :
                terminalDispatch config.routeTable
                    ((config.routeTable.match (raw.decoded headers).method
                      (raw.decoded headers).path).map (·.1))
                    (config.chainOf
                      ((config.routeTable.match (raw.decoded headers).method
                        (raw.decoded headers).path).map (·.1)))
                    request = none := built
            rw [behind]
            unfold Responder.atEnd Edge.dispatchHandler
            simp only [unmade]
          rw [reaches.wellFormed_iff_plain contract decoded certified
            (fun own answered => by
              rw [ended] at answered
              cases answered
              rfl)
            (fun dispatch dispatched => by
              cases built.symm.trans (made dispatch dispatched)), ended]
          refine iff_of_true
            ⟨_, rfl, responder.plain_errorResponse 404 _⟩ ?_
          rintro dispatch ⟨⟩
      | some dispatch =>
          have same : (∀ other, some dispatch = some other →
              responder.Writable other) ↔ responder.Writable dispatch := by
            simp
          rw [same]
          by_cases streams : dispatch.mode = .stream
          · exact reaches.wellFormed_iff_of_stream contract decoded certified
              passage built streams
          · rw [reaches.wellFormed_iff_plain contract decoded certified
              (fun own answered => by
                rw [behind] at answered
                exact Responder.stream_of_atEnd built streams answered)
              (fun other dispatched => by
                have own := built.symm.trans (made other dispatched)
                cases own
                exact streams), behind]
            exact Responder.plain_atEnd_iff built streams

end Reached

/-- An open gateway whose agents answer and stream as given. -/
def openResponder (loads : Bytes → Option Value)
    (yields : BusMessage → StreamOutcome) : Responder where
  toEdge := openEdge loads
  lower := String.toLower
  nestsTooDeep := fun _ => false
  dumps := fun _ => ""
  yields := yields
  docs := fun _ => ("", "text/html; charset=utf-8")
  portQuic := none
  answer_jsonable := by
    intro moment message reply answered
    cases answered
    rfl

/-- A configuration with a streaming route. -/
def streamingConfig : GatewayConfig where
  routes :=
    [{ method := "GET", path := "/ticks", agent := "clock",
       mode := "stream" }]

theorem openResponder_passes
    (loads : Bytes → Option Value)
    (yields : BusMessage → StreamOutcome) :
    (openResponder loads yields).MiddlewarePasses := by
  intro name request
  refine ⟨rfl, ?_⟩
  intro response
  exact ⟨response.status, response.headers, rfl⟩

/-- A gateway whose streams close after one chunk. -/
def tickingResponder : Responder :=
  openResponder (fun _ => none) fun _ =>
    { chunks := [[]], closed := some "slow_consumer" }

/-- The agents of a gateway are all gone. -/
def desertedResponder : Responder :=
  { openResponder (fun _ => none) fun _ => {} with
    surroundings := fun _ =>
      { registered := fun _ => false
        hasReplyAddress := fun _ => false
        transmits := fun _ => true
        answer := fun _ => .ok [] }
    answer_jsonable := by
      intro moment message reply answered
      cases answered
      rfl }

end Civitas.Gateway
