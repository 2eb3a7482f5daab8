import Civitas.PyText
import Civitas.PyValue

/-!
# Routes of the gateway

`RouteEntry`, `RouteTable.match` and the routes a gateway registers for a
topology agent (`gateway/router.py` and `_build_topology_routes` of
`gateway/core.py`).

Only the auto-registered write routes carry `injectPrincipal`; the routes
read from a configuration can set neither that flag nor `payloadExtra`.
-/

namespace Civitas.Gateway

open Civitas.PyText
open Civitas.PyValue

/-! ## Entries and matching -/

/-- `RouteEntry`; the method is stored in upper case. -/
structure RouteEntry where
  method : String
  pathPattern : String
  agent : String
  mode : String := "call"
  middleware : List String := []
  rawResponse : Bool := false
  payloadExtra : Dict := []
  injectPrincipal : Bool := false

/-- `_parse_pattern`: pairs `(is_param, name)`, one for each segment. -/
def parsePattern (pattern : String) : List (Bool × String) :=
  (split (strip pattern '/') '/').map fun part =>
    if startsWith part "\x7b" && endsWith part "\x7d"
    then (true, inner part)
    else (false, part)

/-- `RouteEntry.segments`. -/
def RouteEntry.segments (entry : RouteEntry) : List (Bool × String) :=
  parsePattern entry.pathPattern

/--
`_match_segments`: the parameters of a path that fits the pattern.  A
parameter name used twice keeps its last segment, so later bindings are in
front.
-/
def matchSegments :
    List (Bool × String) → List String →
      List (String × String) → Option (List (String × String))
  | [], [], params => some params
  | (true, name) :: entrySegments, segment :: segments, params =>
      matchSegments entrySegments segments ((name, segment) :: params)
  | (false, name) :: entrySegments, segment :: segments, params =>
      if name = segment
      then matchSegments entrySegments segments params
      else none
  | _, _, _ => none

/-- The segments of a request path; the bare root has none. -/
def pathSegments (path : String) : List String :=
  if strip path '/' = "" then [] else split (strip path '/') '/'

/-- `RouteTable`: the first matching entry wins. -/
abbrev RouteTable := List RouteEntry

/-- `RouteTable.match`. -/
def RouteTable.match
    (table : RouteTable) (method path : String) :
    Option (RouteEntry × List (String × String)) :=
  table.findSome? fun entry =>
    if entry.method = upper method
    then
      (matchSegments entry.segments (pathSegments path) []).map
        fun params => (entry, params)
    else none

theorem RouteTable.mem_of_match
    {table : RouteTable} {method path : String}
    {entry : RouteEntry} {params : List (String × String)}
    (matched : table.match method path = some (entry, params)) :
    entry ∈ table := by
  rcases List.exists_of_findSome?_eq_some matched with
    ⟨candidate, member, found⟩
  split at found
  · rcases Option.map_eq_some_iff.mp found with ⟨_, _, same⟩
    rw [← (Prod.mk.inj same).1]
    exact member
  · cases found

/-! ## Configured and auto-registered routes -/

/-- One item of the `routes:` list of a gateway configuration. -/
structure RouteConfig where
  method : String
  path : String
  agent : String
  mode : String := "call"
  middleware : List String := []

/-- `RouteTable.from_config`. -/
def fromConfig (routes : List RouteConfig) : RouteTable :=
  routes.map fun route =>
    { method := upper route.method
      pathPattern := route.path
      agent := route.agent
      mode := route.mode
      middleware := route.middleware }

/-- `_TOPOLOGY_ROUTE_SPECS`: path, operation, and whether it is `/health`. -/
def topologyRouteSpecs : List (String × String × Bool) :=
  [("/health", "health", true),
    ("/topology", "topology", false),
    ("/agents", "agents", false),
    ("/agents/{name}", "agent_detail", false),
    ("/agents/{name}/mailbox", "mailbox_peek", false),
    ("/snapshot", "snapshot", false),
    ("/metrics", "metrics", false),
    ("/processes", "processes", false)]

/-- `_TOPOLOGY_WRITE_ROUTE_SPECS`. -/
def topologyWriteRouteSpecs : List (String × String) :=
  [("/agents/{name}/suspend", "suspend"),
    ("/agents/{name}/resume", "resume"),
    ("/agents/{name}/restart", "restart"),
    ("/agents/{name}/mailbox", "mailbox_inject")]

/-- A read route of a topology agent. -/
def topologyReadRoute
    (agent pathPrefix : String) (middleware : List String)
    (spec : String × String × Bool) : RouteEntry where
  method := "GET"
  pathPattern := pathPrefix ++ spec.1
  agent := agent
  mode := "call"
  middleware := if spec.2.2 then [] else middleware
  rawResponse := true
  payloadExtra := dictOf [("__op__", .str spec.2.1)]

/-- A write route of a topology agent. -/
def topologyWriteRoute
    (agent pathPrefix : String) (middleware : List String)
    (spec : String × String) : RouteEntry where
  method := "POST"
  pathPattern := pathPrefix ++ spec.1
  agent := agent
  mode := "call"
  middleware := middleware
  payloadExtra := dictOf [("__op__", .str spec.2)]
  injectPrincipal := true

/-- `_build_topology_routes`. -/
def buildTopologyRoutes
    (agent pathPrefix : String) (middleware : List String) :
    RouteTable :=
  topologyRouteSpecs.map
      (topologyReadRoute agent (rstrip pathPrefix '/') middleware) ++
    topologyWriteRouteSpecs.map
      (topologyWriteRoute agent (rstrip pathPrefix '/') middleware)

/-- The fields of `GatewayConfig` that decide where a request goes. -/
structure GatewayConfig where
  routes : List RouteConfig := []
  middleware : List String := []
  docsEnabled : Bool := true
  docsPath : String := "/docs"
  wsRoutes : List (String × String) := []
  grpcEnabled : Bool := false
  clientCertRequired : Bool := false
  topologyAgent : Option String := none
  topologyPrefix : String := ""
  topologyMiddleware : List String := []

/-- The route table `HTTPGateway.__init__` builds. -/
def GatewayConfig.routeTable (config : GatewayConfig) : RouteTable :=
  fromConfig config.routes ++
    match config.topologyAgent with
    | some agent =>
        if agent = "" then []
        else
          buildTopologyRoutes agent
            config.topologyPrefix config.topologyMiddleware
    | none => []

/-! ## What an entry of the table can be -/

/-- A table entry comes from the configuration or is auto-registered. -/
theorem GatewayConfig.mem_routeTable
    {config : GatewayConfig} {entry : RouteEntry}
    (member : entry ∈ config.routeTable) :
    (∃ route ∈ config.routes,
        entry.middleware = route.middleware ∧
          entry.injectPrincipal = false ∧ entry.payloadExtra = []) ∨
      (∃ op,
        entry.injectPrincipal = false ∧
          op ∈ topologyRouteSpecs.map (·.2.1) ∧
          entry.payloadExtra = dictOf [("__op__", .str op)]) ∨
      (∃ op,
        entry.injectPrincipal = true ∧
          entry.middleware = config.topologyMiddleware ∧
          entry.payloadExtra = dictOf [("__op__", .str op)]) := by
  rcases List.mem_append.mp member with configured | registered
  · rcases List.mem_map.mp configured with ⟨route, routeMember, rfl⟩
    exact Or.inl ⟨route, routeMember, rfl, rfl, rfl⟩
  · cases agent : config.topologyAgent with
    | none => simp [agent] at registered
    | some name =>
        rw [agent] at registered
        by_cases empty : name = ""
        · simp [empty] at registered
        · simp only [empty, if_false] at registered
          rcases List.mem_append.mp registered with read | write
          · rcases List.mem_map.mp read with ⟨spec, specMember, rfl⟩
            exact
              Or.inr (Or.inl
                ⟨spec.2.1, rfl,
                  List.mem_map_of_mem specMember, rfl⟩)
          · rcases List.mem_map.mp write with ⟨spec, _, rfl⟩
            exact Or.inr (Or.inr ⟨spec.2, rfl, rfl, rfl⟩)

end Civitas.Gateway
