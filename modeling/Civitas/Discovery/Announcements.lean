import Civitas.Discovery.LocalRegistry
import Civitas.PyText
import Civitas.Security.Signing

/-!
# Announcements from other processes

`Runtime._on_remote_register` and `Runtime._on_remote_deregister` with signing
on.  The bytes of an announcement are opened by the signing serializer; the
sender of the message becomes the owner of the entry, and an announced public
key is put in the key registry that the serializer itself consults.

A handler that raises has changed nothing but the nonce cache, exactly as one
that returns early; the two are not told apart.
-/

namespace Civitas.Discovery

open Civitas.PyText
open Civitas.PyValue
open Civitas.Security
open Function (update)

/-- The libraries of a runtime, its interpreter and its signing options. -/
structure Environment where
  libraries : Libraries
  python : Conversions
  config : SigningConfig
  /-- `nacl.signing.VerifyKey(key_bytes)`; `none` when it raises. -/
  verifyKey : Bytes → Option libraries.VerifyKey

/-- The key `KeyRegistry.register_b64` stores; `none` when it raises. -/
def Environment.decodeKey
    (env : Environment) (pubkey : String) :
    Option env.libraries.VerifyKey :=
  (b64decode pubkey).bind env.verifyKey

/-- What the handlers of a runtime read and change. -/
structure Receiver (env : Environment) where
  registry : LocalRegistry Value
  /-- `KeyRegistry._keys`. -/
  keys : Key → Option env.libraries.VerifyKey
  nonces : NonceCache

/-- The signer of the runtime's serializer. -/
def Receiver.signer
    {env : Environment} (receiver : Receiver env) : MessageSigner where
  libraries := env.libraries
  registry := fun name => receiver.keys (.str name)
  config := env.config

/-! ## Opening an announcement -/

/-- An announcement past the checks that both handlers make. -/
structure Opened where
  name : Key
  sender : Value
  payload : Dict
  epoch : Int

/-- `payload.get(name, default) or default`. -/
def fieldOr (payload : Dict) (name : String) (default : Value) : Value :=
  if (field payload name default).truthy
  then field payload name default
  else default

/-- The name and the epoch; `none` when the handler returns or raises. -/
def readPayload
    (python : Conversions) (sender : Value) (payload : Dict) :
    Option Opened :=
  if (field payload "name" (.str "")).truthy then
    match (field payload "name" (.str "")).key?,
        python.int (fieldOr payload "epoch" (.int 0)) with
    | some name, .ok epoch => some ⟨name, sender, payload, epoch⟩
    | _, _ => none
  else none

/-- Read an opened message; `none` when its payload is not a dictionary. -/
def readMessage
    (python : Conversions) (message : MessageFields) : Option Opened :=
  match message.payload with
  | .dict payload => readPayload python message.sender payload
  | _ => none

/-- Open the bytes of an announcement. -/
def Receiver.opens
    {env : Environment} (receiver : Receiver env) (data : Bytes) :
    Option Opened :=
  match (receiver.signer.deserialize receiver.nonces data).1 with
  | .ok message => readMessage env.python message
  | .error _ => none

/-- The nonce cache after an announcement has been opened. -/
def Receiver.afterOpening
    {env : Environment} (receiver : Receiver env) (data : Bytes) :
    Receiver env :=
  { receiver with
    nonces := (receiver.signer.deserialize receiver.nonces data).2 }

/-- The arguments `_on_remote_register` passes to `register_remote`. -/
def Opened.announcement
    (env : Environment) (opened : Opened) : Announcement Value where
  name := opened.name
  capabilities := field opened.payload "capabilities" .none
  capabilityMetadata := field opened.payload "capability_metadata" .none
  owner := opened.sender
  pubkey :=
    env.libraries.str.render (fieldOr opened.payload "pubkey" (.str ""))
  epoch := opened.epoch
  healthChannel :=
    env.libraries.str.render
      (fieldOr opened.payload "health_channel" (.str ""))

/-! ## The handlers -/

/-- The keys after an announced one, unless it is empty or malformed. -/
def Environment.storeKey
    (env : Environment) (keys : Key → Option env.libraries.VerifyKey)
    (name : Key) (pubkey : String) : Key → Option env.libraries.VerifyKey :=
  if pubkey = "" then keys
  else
    match env.decodeKey pubkey with
    | some key => update keys name (some key)
    | none => keys

/-- `_on_remote_register` on an opened announcement. -/
def Receiver.applyRegister
    {env : Environment} (receiver : Receiver env) (opened : Opened) :
    Receiver env :=
  match receiver.registry.registerRemote env.python
      (opened.announcement env) with
  | .error _ => receiver
  | .ok registry =>
      { receiver with
        registry := registry
        keys :=
          env.storeKey receiver.keys opened.name
            (opened.announcement env).pubkey }

/-- `_on_remote_deregister` on an opened announcement. -/
def Receiver.applyDeregister
    {env : Environment} (receiver : Receiver env) (opened : Opened) :
    Receiver env :=
  { receiver with
    registry :=
      receiver.registry.deregisterRemote opened.name opened.epoch }

/-- The topic an announcement arrives on. -/
inductive Topic where
  | register
  | deregister
deriving DecidableEq

/-- Bytes received on one of the two topics. -/
structure Delivery where
  topic : Topic
  data : Bytes

/-- Handle one delivery. -/
def Receiver.handle
    {env : Environment} (receiver : Receiver env) (delivery : Delivery) :
    Receiver env :=
  match receiver.opens delivery.data with
  | none => receiver.afterOpening delivery.data
  | some opened =>
      match delivery.topic with
      | .register =>
          (receiver.afterOpening delivery.data).applyRegister opened
      | .deregister =>
          (receiver.afterOpening delivery.data).applyDeregister opened

/-- Handle deliveries in order. -/
def Receiver.handleAll
    {env : Environment} (receiver : Receiver env)
    (deliveries : List Delivery) : Receiver env :=
  deliveries.foldl Receiver.handle receiver

theorem handleAll_snoc
    {env : Environment} (receiver : Receiver env)
    (deliveries : List Delivery) (delivery : Delivery) :
    receiver.handleAll (deliveries ++ [delivery]) =
      (receiver.handleAll deliveries).handle delivery := by
  simp [Receiver.handleAll, List.foldl_append]

end Civitas.Discovery
