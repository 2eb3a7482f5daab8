import Civitas.Discovery.Announcements
import Civitas.Dynamic.Broadcasts

/-!
# Announcers

The processes that announce names to a runtime: `Worker.start` and
`Worker.stop`, and the supervisors of dynamic children.  A worker announces its
agents, the channel of its restart commands and its health channel, all without
a sender and without an epoch, and withdraws its agents.  A supervisor signs
its announcements with its name and stamps them with its own epochs, which
begin again when a fresh instance takes its place.

The history of the announcements is the list of everything that was published.
A worker that has been stopped does not start again: its second `start` raises
at the registration of names that its own registry still holds, before it
announces anything.  Its agents come back with another worker.
-/

namespace Civitas.Discovery

open Civitas.Dynamic
open Civitas.PyValue
open Function (update)

/-! ## Messages -/

/-- The value a name stands for in a payload. -/
def nameValue : Key → Value
  | .none => .none
  | .number value => .float (.finite value)
  | .infinite negative => .float (.infinite negative)
  | .str text => .str text
  | .bytes data => .bytes data
  | .ext code data => .ext code data

/-- What an announcement says about the capabilities of an agent. -/
structure Advert where
  capabilities : List String := []
  capabilityMetadata : Dict := []
  pubkey : String := ""

/-- An agent of a worker. -/
structure HostedAgent where
  name : String
  capabilities : List String := []
  capabilityMetadata : Dict := []

/-- The messages on `_agency.register` and on `_agency.deregister`. -/
inductive Notice where
  /-- A worker announces one of its agents. -/
  | hosted (agent : HostedAgent) (healthChannel : String)
  /-- A worker announces one of its own channels. -/
  | channel (name : String)
  /-- A worker withdraws one of its agents. -/
  | departed (name : String)
  /-- A supervisor announces one of its children. -/
  | child (supervisor : String) (name : Key) (epoch : Nat) (advert : Advert)
  /-- A supervisor withdraws one of its children. -/
  | withdrawn (supervisor : String) (name : Key) (epoch : Nat)

namespace Notice

/-- The topic that a notice is published to. -/
def topic : Notice → Topic
  | .hosted _ _ | .channel _ | .child _ _ _ _ => .register
  | .departed _ | .withdrawn _ _ _ => .deregister

/-- `Message.sender`. -/
def sender : Notice → String
  | .hosted _ _ | .channel _ | .departed _ => ""
  | .child supervisor _ _ _ | .withdrawn supervisor _ _ => supervisor

/-- The name that a notice is about. -/
def name : Notice → Key
  | .hosted agent _ => .str agent.name
  | .channel name | .departed name => .str name
  | .child _ name _ _ | .withdrawn _ name _ => name

/-- The epoch in the payload; a worker sends none. -/
def epoch : Notice → Int
  | .hosted _ _ | .channel _ | .departed _ => 0
  | .child _ _ epoch _ | .withdrawn _ _ epoch => epoch

/-- `Message.payload`. -/
def payload : Notice → Dict
  | .hosted agent healthChannel =>
      dictOf
        [("name", .str agent.name),
          ("capabilities", .list (agent.capabilities.map .str)),
          ("capability_metadata", .dict agent.capabilityMetadata),
          ("health_channel", .str healthChannel)]
  | .channel name | .departed name => dictOf [("name", .str name)]
  | .child _ name epoch advert =>
      dictOf
        [("name", nameValue name),
          ("capabilities", .list (advert.capabilities.map .str)),
          ("capability_metadata", .dict advert.capabilityMetadata),
          ("pubkey", .str advert.pubkey), ("epoch", .int epoch)]
  | .withdrawn _ name epoch =>
      dictOf [("name", nameValue name), ("epoch", .int epoch)]

end Notice

/-! ## Workers -/

/-- A `Worker` with the agents of `_agents`. -/
structure Worker where
  id : String
  agents : List HostedAgent
  distinct : (agents.map HostedAgent.name).Nodup

namespace Worker

/-- `_health_channel`. -/
def healthChannel (worker : Worker) : String :=
  "_agency.worker." ++ worker.id ++ ".health"

/-- What `start` publishes. -/
def announcements (worker : Worker) : List Notice :=
  worker.agents.map (.hosted · worker.healthChannel) ++
    [.channel "_agency.worker.restart", .channel worker.healthChannel]

/-- What `stop` publishes. -/
def withdrawals (worker : Worker) : List Notice :=
  worker.agents.map fun agent => .departed agent.name

end Worker

/-- Where a worker stands, with what it has still to publish. -/
inductive WorkerStage where
  | idle
  | announcing (worker : Worker) (rest : List Notice)
  | started (worker : Worker)
  | withdrawing (rest : List Notice)
  | stopped

/-! ## The announcers of a deployment -/

/-- The workers, the supervisors with their incarnations, and the history. -/
structure Fleet where
  worker : String → WorkerStage := fun _ => .idle
  incarnations : String → Nat := fun _ => 0
  supervisor : String → Nat → Wire := fun _ _ => wireInit
  history : List Notice := []

/-- The deployment before anything has been announced. -/
def fleetInit : Fleet := {}

/--
The fresh instance of a supervisor: its tables are empty, and what its
predecessor left in the registry of the process belongs to others.
-/
def restarted (old : Wire) : Wire where
  base :=
    { init with
      registry := fun name => (old.base.registry name).map fun _ => .foreign }

/-- The message of a broadcast. -/
def noticeOf (supervisor : String) (advert : Advert) : Broadcast → Notice
  | .register name epoch => .child supervisor name epoch advert
  | .deregister name epoch => .withdrawn supervisor name epoch

/-- What a step of a supervisor has published. -/
def news (before after : Wire) : Option Broadcast :=
  if after.published = before.published then none
  else after.published.head?

/-- A step of an announcer. -/
inductive FleetLabel where
  | start (worker : Worker)
  | publish (id : String)
  | settle (id : String)
  | stop (id : String)
  | halt (id : String)
  | supervise
      (name : String) (incarnation : Nat) (label : WireLabel)
      (advert : Advert)
  | restart (name : String)

/-- The announcers after a step, with what it published. -/
def Fleet.move
    (cfg : String → Config) (fleet : Fleet) :
    FleetLabel → Option (Fleet × Option Notice)
  | .start worker =>
      match fleet.worker worker.id with
      | .idle =>
          some
            ({ fleet with
                worker :=
                  update fleet.worker worker.id
                    (.announcing worker worker.announcements) },
              none)
      | _ => none
  | .publish id =>
      match fleet.worker id with
      | .announcing worker (notice :: rest) =>
          some
            ({ fleet with
                worker := update fleet.worker id (.announcing worker rest) },
              some notice)
      | .withdrawing (notice :: rest) =>
          some
            ({ fleet with
                worker := update fleet.worker id (.withdrawing rest) },
              some notice)
      | _ => none
  | .settle id =>
      match fleet.worker id with
      | .announcing worker [] =>
          some
            ({ fleet with worker := update fleet.worker id (.started worker) },
              none)
      | _ => none
  | .stop id =>
      match fleet.worker id with
      | .started worker =>
          some
            ({ fleet with
                worker :=
                  update fleet.worker id (.withdrawing worker.withdrawals) },
              none)
      | _ => none
  | .halt id =>
      match fleet.worker id with
      | .withdrawing [] =>
          some
            ({ fleet with worker := update fleet.worker id .stopped }, none)
      | _ => none
  | .supervise name incarnation label advert =>
      if incarnation ≤ fleet.incarnations name then
        (wireStep (cfg name) (fleet.supervisor name incarnation) label).map
          fun after =>
            ({ fleet with
                supervisor :=
                  update fleet.supervisor name
                    (update (fleet.supervisor name) incarnation after) },
              (news (fleet.supervisor name incarnation) after).map
                (noticeOf name advert))
      else none
  | .restart name =>
      match (fleet.supervisor name (fleet.incarnations name)).base.loop with
      | .ended =>
          some
            ({ fleet with
                incarnations :=
                  update fleet.incarnations name
                    (fleet.incarnations name + 1)
                supervisor :=
                  update fleet.supervisor name
                    (update (fleet.supervisor name)
                      (fleet.incarnations name + 1)
                      (restarted
                        (fleet.supervisor name
                          (fleet.incarnations name)))) },
              none)
      | _ => none

/-- A step of an announcer, recorded in the history. -/
def fleetStep
    (cfg : String → Config) (fleet : Fleet) (label : FleetLabel) :
    Option Fleet :=
  (fleet.move cfg label).map fun (after, said) =>
    { after with history := fleet.history ++ said.toList }

/-! ## The runtime -/

/--
A runtime handles an announcement that its serializer has opened, as
`_on_remote_register` and `_on_remote_deregister` do.
-/
def Receiver.hear
    {env : Environment} (receiver : Receiver env) (notice : Notice) :
    Receiver env :=
  match readPayload env.python (.str notice.sender) notice.payload with
  | none => receiver
  | some opened =>
      match notice.topic with
      | .register => receiver.applyRegister opened
      | .deregister => receiver.applyDeregister opened

/-- Handle announcements in order. -/
def Receiver.hearAll
    {env : Environment} (receiver : Receiver env) (history : List Notice) :
    Receiver env :=
  history.foldl Receiver.hear receiver

/-- The topic of the last announcement of a name. -/
def lastTopic (history : List Notice) (name : Key) : Option Topic :=
  ((history.filter fun notice => notice.name = name).getLast?).map
    Notice.topic

/-- The remote entries are those of the names announced last as present. -/
def LocalRegistry.Agrees
    (registry : LocalRegistry Value) (history : List Notice) : Prop :=
  ∀ name,
    (registry.remote name).isSome = true ↔
      lastTopic history name = some .register

end Civitas.Discovery
