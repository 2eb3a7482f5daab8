import Civitas.Gateway.Surfaces

/-!
# Reading the body of a request

The loop of `_handle_http` joins the bodies of the events it receives until
one of them does not announce more.  It reads two optional keys of an event
and never its type, so a disconnect ends the loop like a last chunk.

The HTTP/3 adapter of `gateway/h3.py` feeds the loop with the data events of a
stream and its reset.  Headers that end the stream are not passed on, so a
request without a body leaves the loop waiting.

`Exchange` is what arrives for one request, over either transport; `whole` is
the body of a request that was received completely and `read` is the body
that the loop comes up with.
-/

namespace Civitas.Gateway

open Civitas.PyText
open Civitas.PyValue

/-! ## Events of one request -/

/-- The keys of a receive event. -/
structure AsgiEvent where
  type : String
  body : Option Bytes := none
  moreBody : Option Bool := none

/-- What a server such as uvicorn reports about the body of a request. -/
inductive ReceiveEvent where
  | request (body : Bytes) (moreBody : Bool)
  | disconnect

/-- The dictionary of a reported event. -/
def ReceiveEvent.asgi : ReceiveEvent → AsgiEvent
  | .request body moreBody =>
      { type := "http.request"
        body := some body
        moreBody := some moreBody }
  | .disconnect => { type := "http.disconnect" }

/-- The events of a QUIC stream after the headers of a request. -/
inductive StreamEvent where
  | dataReceived (data : Bytes) (streamEnded : Bool)
  | streamReset

/-- `_H3RequestHandler.h3_event_received`. -/
def StreamEvent.forwarded : StreamEvent → ReceiveEvent
  | .dataReceived data streamEnded => .request data !streamEnded
  | .streamReset => .disconnect

/--
The events of one request after its method, path and headers.  A stream whose
headers end it carries no data; it can still be reset.
-/
inductive Exchange where
  | asgi (events : List ReceiveEvent)
  | http3 (events : List StreamEvent)
  | http3Bodyless (reset : Bool)

/-- The events the application receives. -/
def Exchange.received : Exchange → List ReceiveEvent
  | .asgi events => events
  | .http3 events => events.map StreamEvent.forwarded
  | .http3Bodyless reset =>
      if reset then [StreamEvent.streamReset.forwarded] else []

/-! ## The body loop -/

/-- The loop of `_handle_http`; `none` while it waits for an event. -/
def readBody : List AsgiEvent → Bytes → Option Bytes
  | [], _ => none
  | chunk :: rest, bodyBytes =>
      let bodyBytes := bodyBytes ++ chunk.body.getD []
      if chunk.moreBody.getD false
      then readBody rest bodyBytes
      else some bodyBytes

/-- The body with which the loop ends. -/
def Exchange.read (exchange : Exchange) : Option Bytes :=
  readBody (exchange.received.map ReceiveEvent.asgi) []

/-- `_handle_http` with the events of its request. -/
def Edge.serveExchange
    (edge : Edge) (config : GatewayConfig) (scope : HttpScope)
    (exchange : Exchange) : Session :=
  if servesDocs config scope then {}
  else
    match exchange.read with
    | none => {}
    | some body => edge.handleHttp config { scope with body := body }

/-! ## The law and its condition -/

/-- The chunks of a body up to the one that ends it. -/
def wholeBody : List ReceiveEvent → Option Bytes
  | [] => none
  | .disconnect :: _ => none
  | .request body true :: rest => (wholeBody rest).map (body ++ ·)
  | .request body false :: _ => some body

/-- The body of a request that was received completely. -/
def Exchange.whole : Exchange → Option Bytes
  | .asgi events => wholeBody events
  | .http3 events => wholeBody (events.map StreamEvent.forwarded)
  | .http3Bodyless _ => some []

/-- The chunks before a disconnect that comes before the end of the body. -/
def cutShort : List ReceiveEvent → Option Bytes
  | [] => none
  | .disconnect :: _ => some []
  | .request body true :: rest => (cutShort rest).map (body ++ ·)
  | .request _ false :: _ => none

/-- No disconnect before the end, and an end that the loop gets to see. -/
def Exchange.EndSeen : Exchange → Prop
  | .asgi events => cutShort events = none
  | .http3 events => cutShort (events.map StreamEvent.forwarded) = none
  | .http3Bodyless reset => reset = true

/-- A middleware that does not call the next handler. -/
def MiddlewareTree.Answers : MiddlewareTree → Prop
  | .respond _ => True
  | .raise => True
  | .callNext _ _ => False

/-- A middleware that calls the next handler at most once. -/
def MiddlewareTree.CallsOnce : MiddlewareTree → Prop
  | .respond _ => True
  | .raise => True
  | .callNext _ resume => ∀ outcome, (resume outcome).Answers

/-- Middleware continues the chain at most once, as it is documented to. -/
def Edge.CallsNextOnce (edge : Edge) : Prop :=
  ∀ name request, (edge.middleware name request).CallsOnce

/-- One dispatch at most, with the whole body of a complete request. -/
structure DispatchedWhole
    (edge : Edge) (config : GatewayConfig) (scope : HttpScope)
    (exchange : Exchange) : Prop where
  once :
    (edge.serveExchange config scope exchange).dispatches.length ≤ 1
  whole :
    (edge.serveExchange config scope exchange).dispatches =
      match exchange.whole with
      | some body =>
          (edge.handleHttp config { scope with body := body }).dispatches
      | none => []

/-! ## What the loop reads -/

/-- The loop reads the whole body, or what came before a disconnect. -/
theorem readBody_eq (events : List ReceiveEvent) (before : Bytes) :
    readBody (events.map ReceiveEvent.asgi) before =
      ((wholeBody events).or (cutShort events)).map (before ++ ·) := by
  induction events generalizing before with
  | nil => rfl
  | cons event rest ih =>
      cases event with
      | disconnect => simp [readBody, ReceiveEvent.asgi, wholeBody, cutShort]
      | request body moreBody =>
          cases moreBody with
          | false =>
              simp [readBody, ReceiveEvent.asgi, wholeBody]
          | true =>
              simp only [List.map_cons, readBody, ReceiveEvent.asgi,
                Option.getD_some, if_true, ih, wholeBody, cutShort]
              cases wholeBody rest with
              | some found => simp
              | none => cases cutShort rest <;> simp

/-- A complete body has not been cut short. -/
theorem cutShort_of_wholeBody
    {events : List ReceiveEvent} {body : Bytes}
    (complete : wholeBody events = some body) :
    cutShort events = none := by
  induction events generalizing body with
  | nil => cases complete
  | cons event rest ih =>
      cases event with
      | disconnect => cases complete
      | request chunk moreBody =>
          cases moreBody with
          | false => rfl
          | true =>
              rcases Option.map_eq_some_iff.mp complete with
                ⟨tail, found, _⟩
              simp [cutShort, ih found]

/-- The loop reads the whole body of every request whose end it sees. -/
theorem Exchange.read_of_endSeen
    {exchange : Exchange} (seen : exchange.EndSeen) :
    exchange.read = exchange.whole := by
  cases exchange with
  | asgi events =>
      have same : cutShort events = none := seen
      simp [read, received, readBody_eq, same, whole]
  | http3 events =>
      have same : cutShort (events.map StreamEvent.forwarded) = none := seen
      simp only [read, received, readBody_eq, same, whole, Option.or_none,
        List.nil_append, Option.map_id']
  | http3Bodyless reset =>
      have same : reset = true := seen
      rw [same]
      rfl

/-- A request whose end the loop misses is read although it is incomplete,
or not read although it is complete. -/
theorem Exchange.read_of_not_endSeen
    {exchange : Exchange} (unseen : ¬ exchange.EndSeen) :
    (exchange.read.isSome ∧ exchange.whole = none) ∨
      (exchange.read = none ∧ exchange.whole = some []) := by
  have truncated : ∀ events, cutShort events ≠ none →
      (readBody (events.map ReceiveEvent.asgi) []).isSome ∧
        wholeBody events = none := by
    intro events short
    have incomplete : wholeBody events = none := by
      cases complete : wholeBody events with
      | none => rfl
      | some body => exact absurd (cutShort_of_wholeBody complete) short
    rw [readBody_eq, incomplete]
    exact
      ⟨by simpa using Option.isSome_iff_ne_none.mpr short, rfl⟩
  cases exchange with
  | asgi events => exact Or.inl (truncated events unseen)
  | http3 events => exact Or.inl (truncated _ unseen)
  | http3Bodyless reset =>
      have same : reset = false := by
        simpa [EndSeen] using unseen
      rw [same]
      exact Or.inr ⟨rfl, rfl⟩

/-! ## One dispatch at most -/

/-- The dispatches of a session, sent or waiting in a stream. -/
def Session.made (session : Session) : Nat :=
  session.dispatches.length + session.streams.length

theorem Edge.made_dispatchHandler
    (edge : Edge) (table : RouteTable) (matched : Option RouteEntry)
    (passed : List String) (request : GatewayRequest)
    (session : Session) :
    (edge.dispatchHandler table matched passed request session).1.made ≤
      session.made + 1 := by
  unfold dispatchHandler
  split
  · exact Nat.le_succ _
  · split
    · simp only [Session.made, Session.openStream, List.length_append,
        List.length_singleton]
      omega
    · simp only [Session.made, World.dispatch, List.length_append,
        List.length_singleton]
      omega

/-- A middleware that does not call the next handler dispatches nothing. -/
theorem MiddlewareTree.Answers.run
    {tree : MiddlewareTree} (answers : tree.Answers)
    (next : Handler) (session : Session) :
    (tree.run next session).1 = session := by
  cases tree with
  | respond response => rfl
  | raise => rfl
  | callNext request resume => exact answers.elim

/-- A middleware that calls next once dispatches no more than next does. -/
theorem MiddlewareTree.CallsOnce.made_run
    {next : Handler}
    (bound : ∀ request session,
      (next request session).1.made ≤ session.made + 1)
    {tree : MiddlewareTree} (calls : tree.CallsOnce)
    (session : Session) :
    (tree.run next session).1.made ≤ session.made + 1 := by
  cases tree with
  | respond response => exact Nat.le_succ _
  | raise => exact Nat.le_succ _
  | callNext request resume =>
      rw [MiddlewareTree.run, MiddlewareTree.Answers.run (calls _)]
      exact bound request session

theorem Edge.made_buildChain
    {edge : Edge} (calls : edge.CallsNextOnce)
    {handler : List String → Handler}
    (bound : ∀ passed request session,
      (handler passed request session).1.made ≤ session.made + 1)
    (passed rest : List String)
    (request : GatewayRequest) (session : Session) :
    (edge.buildChain handler passed rest request session).1.made ≤
      session.made + 1 := by
  induction rest generalizing passed request session with
  | nil => exact bound passed request session
  | cons name rest ih =>
      exact MiddlewareTree.CallsOnce.made_run
        (fun inner current => ih (passed ++ [name]) inner current)
        (calls name request) session

/-- Writing the response out sends at most a stream that is waiting. -/
theorem Edge.dispatches_respond
    (edge : Edge) (session : Session) (response : Option GatewayResponse) :
    (edge.respond session response).dispatches.length ≤
      max session.dispatches.length session.made := by
  cases response with
  | none => exact Nat.le_max_left _ _
  | some response =>
      cases stream : response.stream with
      | none =>
          simp only [respond, stream]
          exact Nat.le_max_left _ _
      | some handle =>
          simp only [respond, stream, World.iterate]
          split
          · rename_i dispatch waiting
            have present : handle < session.streams.length :=
              (List.getElem?_eq_some_iff.mp waiting).1
            simp only [World.sendStreamRequest, List.length_append,
              List.length_singleton, Session.made]
            omega
          · exact Nat.le_max_left _ _

/-- An HTTP request is dispatched at most once. -/
theorem Edge.dispatches_handleHttp
    {edge : Edge} (calls : edge.CallsNextOnce)
    (config : GatewayConfig) (scope : HttpScope) :
    (edge.handleHttp config scope).dispatches.length ≤ 1 := by
  unfold handleHttp
  split
  · exact Nat.zero_le _
  · split
    · exact Nat.zero_le _
    · rename_i body _
      have chain : (edge.runChain config scope body).1.made ≤ 0 + 1 :=
        Edge.made_buildChain calls
          (fun passed request session =>
            edge.made_dispatchHandler _ _ passed request session)
          _ _ _ {}
      have written :=
        edge.dispatches_respond (edge.runChain config scope body).1
          (edge.runChain config scope body).2
      have few :
          max (edge.runChain config scope body).1.dispatches.length
              (edge.runChain config scope body).1.made ≤ 1 := by
        simp only [Session.made] at chain ⊢
        omega
      exact written.trans few

/-! ## The result -/

/-- A body that is read as it was sent is dispatched whole. -/
theorem Edge.dispatchedWhole_of_read_eq
    {edge : Edge} (calls : edge.CallsNextOnce)
    (config : GatewayConfig) (scope : HttpScope) {exchange : Exchange}
    (same : exchange.read = exchange.whole) :
    DispatchedWhole edge config scope exchange := by
  constructor
  · unfold Edge.serveExchange
    split
    · exact Nat.zero_le _
    · split
      · exact Nat.zero_le _
      · exact Edge.dispatches_handleHttp calls config _
  · unfold Edge.serveExchange
    rw [same]
    cases docs : servesDocs config scope with
    | false => cases exchange.whole <;> rfl
    | true =>
        cases exchange.whole with
        | none => rfl
        | some body =>
            have served :
                servesDocs config { scope with body := body } = true := docs
            simp [Edge.handleHttp, served]

/-- Only the parser looks at the bytes of a body. -/
theorem Edge.handleHttp_of_parsed
    {edge : Edge} {config : GatewayConfig} {scope : HttpScope}
    {body : Bytes} {parsed : Dict}
    (undocumented : servesDocs config scope = false)
    (accepted : edge.parseBody { scope with body := body } = .ok parsed) :
    edge.handleHttp config { scope with body := body } =
      edge.respond (edge.runChain config scope parsed).1
        (edge.runChain config scope parsed).2 := by
  have served :
      servesDocs config { scope with body := body } = false := undocumented
  simp only [Edge.handleHttp, served, accepted, Bool.false_eq_true,
    if_false]
  rfl

/-- A tolerant multipart parser accepts every upload, and an empty body. -/
theorem Edge.parseBody_of_upload
    {edge : Edge} {scope : HttpScope}
    (multipart :
      startsWith ((lastOf scope.headers "content-type").getD "")
        "multipart/form-data" = true)
    (tolerant : ∀ data type, edge.parseMultipart data type = some [])
    (body : Bytes) :
    edge.parseBody { scope with body := body } = .ok [] := by
  cases body with
  | nil => simp [Edge.parseBody]
  | cons byte rest => simp [Edge.parseBody, multipart, tolerant]

/-- Where every body is dispatched, an end that is missed shows. -/
theorem Edge.not_dispatchedWhole
    {edge : Edge} {config : GatewayConfig} {scope : HttpScope}
    (undocumented : servesDocs config scope = false)
    (dispatches : ∀ body,
      (edge.handleHttp config { scope with body := body }).dispatches ≠ [])
    {exchange : Exchange} (unseen : ¬ exchange.EndSeen) :
    ¬ DispatchedWhole edge config scope exchange := by
  intro served
  have whole := served.whole
  unfold Edge.serveExchange at whole
  rw [undocumented] at whole
  rcases Exchange.read_of_not_endSeen unseen with
    ⟨cut, incomplete⟩ | ⟨unread, complete⟩
  · rcases Option.isSome_iff_exists.mp cut with ⟨body, found⟩
    rw [found, incomplete] at whole
    exact dispatches body whole
  · rw [unread, complete] at whole
    exact dispatches [] whole.symm

/-- A gateway whose multipart parser accepts every body. -/
def uploadEdge : Edge :=
  { openEdge fun _ => none with
    parseMultipart := fun _ _ => some [] }

/-- An upload to an agent. -/
def uploadScope : HttpScope where
  method := "POST"
  path := "/agents/archive"
  headers := [("content-type", "multipart/form-data; boundary=x")]

theorem uploadEdge_callsNextOnce : uploadEdge.CallsNextOnce := by
  intro name request outcome
  cases outcome <;> trivial

theorem uploadScope_undocumented : servesDocs {} uploadScope = false := by
  decide +kernel

/-- Every body of the upload is dispatched. -/
theorem upload_dispatched (body : Bytes) :
    (uploadEdge.handleHttp {} { uploadScope with body := body }).dispatches
      ≠ [] := by
  have multipart :
      startsWith ((lastOf uploadScope.headers "content-type").getD "")
        "multipart/form-data" = true := by
    decide +kernel
  have dispatched :
      (uploadEdge.respond (uploadEdge.runChain {} uploadScope []).1
        (uploadEdge.runChain {} uploadScope []).2).dispatches.length = 1 := by
    decide +kernel
  rw [Edge.handleHttp_of_parsed uploadScope_undocumented
    (Edge.parseBody_of_upload multipart (fun _ _ => rfl) body)]
  intro nothing
  rw [nothing] at dispatched
  cases dispatched

/--
Whatever the gateway is configured to do with requests, a request is
dispatched once with its whole body or not at all, exactly when no disconnect
comes before the end of the body and the end is one that the loop sees.
-/
theorem dispatched_whole_iff (exchange : Exchange) :
    (∀ (edge : Edge) (config : GatewayConfig) (scope : HttpScope),
        edge.CallsNextOnce →
          DispatchedWhole edge config scope exchange) ↔
      exchange.EndSeen := by
  constructor
  · intro always
    by_contra unseen
    exact
      Edge.not_dispatchedWhole uploadScope_undocumented upload_dispatched
        unseen (always uploadEdge {} uploadScope uploadEdge_callsNextOnce)
  · intro seen edge config scope calls
    exact Edge.dispatchedWhole_of_read_eq calls config scope
      (Exchange.read_of_endSeen seen)

/-- A client that disconnects after one chunk has that chunk dispatched. -/
theorem disconnected_upload_is_dispatched :
    uploadEdge.CallsNextOnce ∧
      ¬ DispatchedWhole uploadEdge {} uploadScope
        (.asgi [.request [45, 45] true, .disconnect]) := by
  refine ⟨uploadEdge_callsNextOnce, ?_⟩
  apply Edge.not_dispatchedWhole uploadScope_undocumented upload_dispatched
  intro seen
  cases seen

end Civitas.Gateway
