import Civitas.Topology.Flattening

/-!
# The sections beside the tree

What `Runtime.from_config_dict` reads of a topology file beside its tree: the
plugins, the `mcp` servers with their sandboxes, the `security` and `audit`
sections, and what three walks over the tree find under its agents.  Then
`GatewayConfig` and `HTTPGateway`, on the arguments of a gateway.

Only whether a value is read without an error is told here.  What depends on
the environment is a parameter: packages that are imported, files and sockets
that are opened, and keys in environment variables.  The walks look for an
`agent` key first; a node that has one beside its `supervisor` key is left out,
as in the rest of the tree.
-/

namespace Civitas.Topology

/-- What the readers use of the environment, and whether it is accepted. -/
structure Readers (Class : Type) where
  /-- `load_plugin`, on the kind, the name and the `config` of a plugin. -/
  plugin : String → Yaml → Yaml → Bool
  /-- `int()`; `none` when it raises. -/
  int : Yaml → Option Int
  /-- `load_state_key`, on the name of its variable. -/
  stateKey : Yaml → Bool
  /-- `_load_chacha`. -/
  cipher : Bool
  /-- The file of a `JsonlFileSink` is opened. -/
  journal : String → Bool
  /-- `SyslogSink`, on its address. -/
  syslog : Yaml → Bool
  /-- `OtlpSink`, on its endpoint and its service name. -/
  otlp : Yaml → Yaml → Bool
  /-- `ipaddress.ip_network`. -/
  network : Yaml → Bool
  /-- The constructor of another class, on a `handle_timeout`. -/
  watchdog : Class → Yaml → Bool

/-- `Path(value)`. -/
def pathRead : Yaml → Bool
  | .str _ => true
  | _ => false

/-- The name under which the entry of an agent is kept. -/
def nameRead (entries : Dict) : Bool :=
  (Dict.get entries "name").any Yaml.hashable

section Sections

variable (python : Python) {Class : Type} (readers : Readers Class)

/-! ## Plugins -/

/-- One entry of `models` or `exporters`. -/
def pluginRead (kind : String) : Yaml → Bool
  | .dict entries =>
      given entries "type" &&
        readers.plugin kind (Dict.getOr entries "type" .null)
          (Dict.getOr entries "config" (.dict []))
  | _ => false

/-- `{int(k): str(v) for k, v in raw_keys.items()}`, the last entry of an id. -/
def keyRing : Dict → Option (List (Int × String))
  | [] => some []
  | entry :: rest => do
      let id ← readers.int (.str entry.1)
      let ring ← keyRing rest
      if ring.any fun later => later.1 = id then
        return ring
      else
        return (id, python.str entry.2) :: ring

/-- `StateEncryptionConfig.from_dict`, and the keys it names. -/
def stateEncryptionRead (entries : Dict) : Bool :=
  match Dict.getOr entries "keys" (.dict []) with
  | .dict keys =>
      (readers.int (Dict.getOr entries "current_key_id" (.int 0))).isSome &&
        readers.stateKey
          (Dict.getOr entries "key_env" (.str "CIVITAS_STATE_KEY")) &&
        (keyRing python readers keys).any fun ring =>
          ring.all fun key => readers.stateKey (.str key.2)
  | _ => false

/-- `_build_encrypted_store`; the current key is always in the ring. -/
def encryptedStoreRead : Yaml → Bool
  | .dict entries =>
      match Dict.getOr entries "store" .null with
      | .dict inner =>
          ((Dict.get inner "type").any fun name =>
            readers.plugin "state" name
              (Dict.getOr inner "config" (.dict []))) &&
            stateEncryptionRead python readers entries && readers.cipher
      | _ => false
  | _ => false

/-- The `state` entry. -/
def stateRead : Yaml → Bool
  | .null => true
  | .dict entries =>
      let name := Dict.getOr entries "type" (.str "in_memory")
      let config := Dict.getOr entries "config" (.dict [])
      if name.isOneOf ["encrypted"] then
        encryptedStoreRead python readers config
      else
        readers.plugin "state" name config
  | _ => false

/-- `load_plugins_from_config`. -/
def pluginsRead : Yaml → Bool
  | .dict entries =>
      (Dict.getOr entries "models" (.list [])).every
          (pluginRead readers "model") &&
        (Dict.getOr entries "exporters" (.list [])).every
          (pluginRead readers "exporter") &&
        stateRead python readers (Dict.getOr entries "state" .null)
  | _ => false

/-! ## Servers -/

/-- `FilesystemMount`, from its text or its mapping. -/
def mountRead : Yaml → Bool
  | .str text =>
      let mode := (text.toList.dropWhile fun letter => letter ≠ ':').drop 1
      mode = [] || String.ofList mode ∈ ["ro", "rw"]
  | .dict entries =>
      hasKey entries "path" &&
        (Dict.getOr entries "mode" (.str "ro")).isOneOf ["ro", "rw"]
  | _ => false

/-- `SandboxConfig.from_dict`. -/
def sandboxRead : Yaml → Bool
  | .dict entries =>
      (Dict.getOr entries "filesystem" (.list [])).every mountRead &&
        python.str (Dict.getOr entries "network" (.str "deny")) ∈
          ["deny", "allow"]
  | _ => false

/-- `MCPServerConfig`, with its sandbox. -/
def mcpServerRead : Yaml → Bool
  | .dict entries =>
      (!given entries "sandbox" ||
          sandboxRead python (Dict.getOr entries "sandbox" .null)) &&
        hasKey entries "name" &&
        match Dict.get entries "transport" with
        | some (.str "stdio") => given entries "command"
        | some (.str "sse") => given entries "url"
        | some (.str "streamable_http") => given entries "url"
        | _ => false
  | _ => false

/-- The servers of the `mcp` section. -/
def mcpReads (sections : Dict) : Bool :=
  match asDict (Dict.getOr sections "mcp" (.dict [])) with
  | none => false
  | some entries =>
      !given entries "servers" ||
        (Dict.getOr entries "servers" .null).every (mcpServerRead python)

/-! ## Walks over the tree -/

/-- `dict(metadata) if metadata else {}`. -/
def metadataRead (value : Yaml) : Bool :=
  !value.truthy ||
    match value with
    | .dict _ => true
    | .list items =>
        items.all fun item =>
          match item.iterate with
          | some [key, _] => key.hashable
          | _ => false
    | _ => false

/-- `_scan` of `_extract_agent_credentials`, on a leaf. -/
def credentialsRead (leaf : Leaf) : Bool :=
  match leaf.agent with
  | some config =>
      match Dict.getOr config "credentials" .null with
      | .dict (_ :: _) => nameRead config
      | _ => true
  | none =>
      match Dict.get leaf.entries "credentials" with
      | some (.dict _) =>
          !hasKey leaf.entries "name" || nameRead leaf.entries
      | _ => true

/-- `_scan` of `_extract_agent_capabilities`, on a leaf. -/
def capabilitiesRead (leaf : Leaf) : Bool :=
  match leaf.agent with
  | some config =>
      match Dict.getOr config "capabilities" .null with
      | .list (_ :: _) =>
          nameRead config &&
            metadataRead (Dict.getOr config "capability_metadata" (.dict []))
      | _ => true
  | none =>
      match Dict.get leaf.entries "capabilities" with
      | some (.list _) =>
          !hasKey leaf.entries "name" ||
            nameRead leaf.entries &&
              metadataRead
                (Dict.getOr leaf.entries "capability_metadata" (.dict []))
      | _ => true

/-- `_scan` of `_extract_public_keys`, on a leaf. -/
def publicKeyRead (leaf : Leaf) : Bool :=
  match leaf.agent with
  | some config => !hasKey config "public_key" || nameRead config
  | none =>
      !(hasKey leaf.entries "public_key" && hasKey leaf.entries "name") ||
        nameRead leaf.entries

/-- A walk over the leaves of the tree. -/
def walked (config : Config) (scan : Leaf → Bool) : Bool :=
  (Node.leavesOf (config.runtimeRoot.getD .null).children).all scan

/-! ## Security -/

/-- `Path(raw) if raw else None`. -/
def optionalPathRead (entries : Dict) (key : String) : Bool :=
  !given entries key || pathRead (Dict.getOr entries key .null)

/-- `NatsTlsConfig.from_dict`. -/
def natsTlsRead (block : Yaml) : Bool :=
  match asDict block with
  | none => false
  | some entries =>
      (asDict (Dict.getOr entries "tls" (.dict []))).any fun tls =>
        ["cert", "key", "ca"].all (optionalPathRead tls)

/-- `TransportSecurityConfig.from_dict`. -/
def transportSecurityRead (block : Yaml) : Bool :=
  match asDict block with
  | none => false
  | some entries =>
      ((asDict (Dict.getOr entries "zmq" (.dict []))).any fun zmq =>
        (asDict (Dict.getOr zmq "curve" (.dict zmq))).isSome) &&
        natsTlsRead (Dict.getOr entries "nats" (.dict []))

/-- `SecurityConfig.from_dict`. -/
def securityRead (entries : Dict) : Bool :=
  ((asDict (Dict.getOr entries "identity" (.dict []))).any fun identity =>
    pathRead (Dict.getOr identity "key_dir" (.str "./civitas-keys"))) &&
    (asDict (Dict.getOr entries "signing" (.dict []))).isSome &&
    transportSecurityRead (Dict.getOr entries "transport" (.dict []))

/-- The `security` section and its `transport`. -/
def securityReads (file : Parsed) : Bool :=
  if given file.sections "security" then
    match Dict.getOr file.sections "security" .null with
    | .dict entries =>
        securityRead entries && walked file.config publicKeyRead &&
          (!given entries "transport" ||
            transportSecurityRead (Dict.getOr entries "transport" .null))
    | _ => false
  else
    true

/-! ## Audit -/

/-- `sink_from_config`. -/
def sinkRead : Yaml → Bool
  | .dict entries =>
      match Dict.getOr entries "sink" (.str "null") with
      | .str "jsonl" =>
          match Dict.getOr entries "path" (.str "civitas_audit.jsonl") with
          | .str path => readers.journal path
          | _ => false
      | .str "syslog" => readers.syslog (Dict.getOr entries "address" .null)
      | .str "otlp" =>
          readers.otlp
            (Dict.getOr entries "endpoint" (.str "http://localhost:4317"))
            (Dict.getOr entries "service_name" (.str "civitas"))
      | _ => true
  | _ => false

/-- Everything beside the tree is read without an error. -/
def sectionsRead (file : Parsed) : Bool :=
  (asDict (Dict.getOr file.sections "transport" (.dict []))).isSome &&
    ((Dict.get file.sections "plugins").all (pluginsRead python readers)) &&
    mcpReads python file.sections && walked file.config credentialsRead &&
    walked file.config capabilitiesRead && securityReads file &&
    (!given file.sections "audit" ||
      sinkRead readers (Dict.getOr file.sections "audit" .null))

/-! ## Gateways -/

/-- `_AUTH_MIDDLEWARE_PATHS`. -/
def authMiddlewarePaths : List String :=
  ["civitas.gateway.auth.require_api_key",
    "civitas.gateway.jwt_auth.require_jwt",
    "civitas.gateway.mtls.require_client_cert"]

/-- `any(mw in _AUTH_MIDDLEWARE_PATHS for mw in middleware)` does not raise. -/
def authProbed : List Yaml → Bool
  | [] => true
  | middleware :: rest =>
      middleware.hashable &&
        (middleware.isOneOf authMiddlewarePaths || authProbed rest)

/-- `GatewayConfig.__post_init__`. -/
def gatewayConfigAccepted (arguments : Dict) : Bool :=
  let certified := given arguments "tls_cert" && given arguments "tls_key"
  let http3 := given arguments "enable_http3"
  let mode := Dict.getOr arguments "client_cert_mode" (.str "none")
  let direct := mode.isOneOf ["none"]
  let source := Dict.getOr arguments "mtls_source" (.str "direct")
  (!http3 || certified &&
      match Dict.getOr arguments "port_quic" .null with
      | .null => false
      | _ => true) &&
    mode.isOneOf ["none", "optional", "required"] &&
    (direct || given arguments "tls_ca_cert" && certified && !http3) &&
    source.isOneOf ["direct", "proxy_header"] &&
    (!source.isOneOf ["proxy_header"] ||
      given arguments "trusted_proxy_cidrs" &&
        (Dict.getOr arguments "trusted_proxy_cidrs" (.list [])).every
          readers.network &&
        direct) &&
    match Dict.getOr arguments "docs_enabled" .null with
    | .null =>
        !direct ||
          (Dict.getOr arguments "middleware" (.list [])).iterate.any authProbed
    | _ => true

/-- `RouteEntry`, from an entry of `routes`. -/
def routeRead : Yaml → Bool
  | .dict entries =>
      ((Dict.get entries "method").any pathRead) &&
        ((Dict.get entries "path").any pathRead) && hasKey entries "agent"
  | _ => false

/-- `GatewayConfig` and `HTTPGateway`, on the arguments of a gateway. -/
def gatewayAccepted (arguments : Dict) : Bool :=
  gatewayConfigAccepted readers arguments &&
    (Dict.getOr arguments "routes" (.list [])).every routeRead &&
    (!given arguments "topology_agent" ||
      pathRead (Dict.getOr arguments "topology_prefix" (.str "")) &&
        (Dict.getOr arguments "topology_middleware"
          (.list [])).iterate.isSome)

end Sections

end Civitas.Topology
