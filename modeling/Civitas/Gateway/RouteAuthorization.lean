import Civitas.Gateway.Arrivals

/-!
# The dispatched route and the authorized route

`_handle_http` matches the request once to choose the middleware of the chain,
and `_dispatch_handler` at the end of the chain matches whatever request
arrives there once more to choose the target.  A middleware may hand on a
request with another method or path, so the two matches can differ.

`Edge.arriving` lists the requests that the middleware of a chain hand on to
its end.  A session is authorized exactly when each of them matches, if any, a
route whose own middleware the chain was built with.
-/

namespace Civitas.Gateway

open Civitas.PyText
open Civitas.PyValue

/-! ## The law and its condition -/

/-- The global middleware and the middleware of the route called next. -/
def Dispatch.Authorized
    (config : GatewayConfig) (dispatch : Dispatch) : Prop :=
  ∀ entry, dispatch.route = some entry →
    (config.middleware ++ entry.middleware).Sublist dispatch.passed

/-- The middleware chosen for a scope covers that of the route of a request. -/
def GatewayConfig.Covers
    (config : GatewayConfig) (scope : HttpScope)
    (request : GatewayRequest) : Prop :=
  ∀ entry params,
    config.routeTable.match request.method request.path =
        some (entry, params) →
      entry.middleware.Sublist
        (((config.routeTable.match scope.method scope.path).map
          (·.1.middleware)).getD [])

/-- Every request handed on for a scope is covered by its chain. -/
def Edge.HandsOnCovered
    (edge : Edge) (config : GatewayConfig) (scope : HttpScope) : Prop :=
  servesDocs config scope = false →
    ∀ body, edge.parseBody scope = .ok body →
      ∀ request ∈ edge.arrivals config scope body,
        config.Covers scope request

/-! ## The result -/

/-- The dispatch of a request that arrived is authorized when it is covered. -/
theorem terminal_authorized_iff
    (config : GatewayConfig) (scope : HttpScope)
    (request : GatewayRequest) :
    (∀ dispatch, config.terminal scope request = some dispatch →
      dispatch.Authorized config) ↔
      config.Covers scope request := by
  unfold GatewayConfig.terminal terminalDispatch GatewayConfig.Covers
  cases config.routeTable.match request.method request.path with
  | none =>
      simp only [Option.map_eq_some_iff, reduceCtorEq, false_implies,
        implies_true, iff_true]
      rintro dispatch ⟨target, _, rfl⟩ entry routed
      cases routed
  | some found =>
      rcases found with ⟨entry, params⟩
      simp only [Option.some.injEq, forall_eq', Dispatch.Authorized,
        GatewayConfig.chainOf, Option.map_map, Prod.mk.injEq, and_imp,
        List.append_sublist_append_left]
      constructor
      · rintro covered _ _ rfl _
        exact covered
      · intro covered
        exact covered entry params rfl rfl

/--
Every dispatch to a route has passed the global middleware and the middleware
of that route exactly when every request handed on to the end of the chain
matches a route whose middleware the chain was built with.
-/
theorem http_dispatches_authorized_iff
    (edge : Edge) (config : GatewayConfig) (scope : HttpScope) :
    (edge.handleHttp config scope).All (·.Authorized config) ↔
      edge.HandsOnCovered config scope := by
  simp only [edge.handleHttp_all_iff, terminal_authorized_iff,
    Edge.HandsOnCovered]

/-- A configuration with a protected route and one global middleware. -/
def protectedConfig : GatewayConfig where
  routes :=
    [{ method := "GET", path := "/public", agent := "site" },
      { method := "GET", path := "/admin", agent := "control",
        middleware := ["require_api_key"] }]
  middleware := ["rewrite"]

/-- A middleware rewrites every path, and no caller has an API key. -/
def rewritingEdge : Edge where
  toWorld := (openEdge fun _ => none).toWorld
  jsonLoads := fun _ => none
  jsonLoadsText := fun _ => none
  decode := fun _ => ""
  parseMultipart := fun _ _ => none
  int := fun _ => none
  middleware := fun name request =>
    if name = "rewrite"
    then
      .callNext { request with path := "/admin" } fun outcome =>
        match outcome with
        | some response => .respond response
        | none => .raise
    else .respond (errorResponse 401 "unauthorized")
  jwtVerifier := none
  mtlsAuthorizes := fun _ => false

/-- A rewritten request reaches a route without the middleware of the route. -/
theorem rewritten_request_is_not_authorized :
    ¬ (rewritingEdge.handleHttp protectedConfig
        { method := "GET", path := "/public" }).All
          (·.Authorized protectedConfig) := by
  have dispatched :
      (rewritingEdge.handleHttp protectedConfig
          { method := "GET", path := "/public" }).dispatches.map
          (fun dispatch =>
            (dispatch.route.map (·.middleware), dispatch.passed)) =
        [(some ["require_api_key"], ["rewrite"])] := by
    decide +kernel
  intro authorized
  rcases List.map_eq_singleton_iff.mp dispatched with
    ⟨dispatch, only, seen⟩
  have member : dispatch ∈ (rewritingEdge.handleHttp protectedConfig
      { method := "GET", path := "/public" }).dispatches := by
    rw [only]
    exact List.mem_singleton_self dispatch
  rcases Option.map_eq_some_iff.mp (Prod.mk.inj seen).1 with
    ⟨entry, routed, own⟩
  have passed := authorized.sent dispatch member entry routed
  rw [own, (Prod.mk.inj seen).2] at passed
  revert passed
  decide

/-! ## Middleware that keeps method and path -/

/-- Transparent middleware hands on covered requests only. -/
theorem Edge.Transparent.handsOnCovered
    {edge : Edge} (transparent : edge.Transparent)
    (config : GatewayConfig) (scope : HttpScope) :
    edge.HandsOnCovered config scope := by
  intro _ body _ request member entry params matched
  have keeps : ∀ name (current : GatewayRequest),
      current.method = scope.method ∧ current.path = scope.path →
        (edge.middleware name current).HandsOn fun handed =>
          handed.method = scope.method ∧ handed.path = scope.path := by
    intro name current same
    apply (transparent name current).mono
    intro handed kept
    exact ⟨kept.1.trans same.1, kept.2.trans same.2⟩
  have same :=
    Edge.arriving_of_handsOn keeps _ _ _ _ _ ⟨rfl, rfl⟩ request member
  have again :
      config.routeTable.match scope.method scope.path =
        some (entry, params) := by
    rw [← matched, same.1, same.2]
  rw [again]
  exact List.Sublist.refl _

end Civitas.Gateway
