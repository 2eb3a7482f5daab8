import Civitas.Discovery.Announcements
import Civitas.Security.ShortWire

/-!
# Who can take a route down

`register_remote` compares the sender of an announcement with the owner of
the entry it finds; `deregister_remote` does not receive the sender at all.
A peer whose announcements verify can therefore withdraw an entry of somebody
else, and the epoch it announces becomes the floor of the name, exactly when
that epoch is not below the floor.
-/

namespace Civitas.Discovery

open Civitas.PyValue
open Civitas.Security
open Function (update)

variable {env : Environment}

/--
A verified announcement about a present remote entry, by a sender that does
not own it.
-/
structure Foreign
    (receiver : Receiver env) (delivery : Delivery)
    (opened : Opened) (entry : RoutingEntry Value) : Prop where
  opens : receiver.opens delivery.data = some opened
  present : receiver.registry.remote opened.name = some entry
  sender : (entry.owner == opened.sender) = false

/-- A foreign announcement changes neither the entry nor its floor. -/
def LeavesRoutes
    (receiver : Receiver env) (delivery : Delivery) : Prop :=
  ∀ opened entry, Foreign receiver delivery opened entry →
    (receiver.handle delivery).registry.remote opened.name = some entry ∧
      (receiver.handle delivery).registry.remoteEpochs opened.name =
        receiver.registry.remoteEpochs opened.name

/-- A foreign withdrawal whose epoch is not below the floor. -/
def TakesDown
    (receiver : Receiver env) (delivery : Delivery) : Prop :=
  ∃ opened entry, Foreign receiver delivery opened entry ∧
    delivery.topic = .deregister ∧
      receiver.registry.stale opened.name opened.epoch = false

theorem entries_of_remote
    {registry : LocalRegistry Value} {name : Key}
    {entry : RoutingEntry Value}
    (present : registry.remote name = some entry) :
    registry.entries name = some entry ∧ entry.isLocal = false := by
  simpa [LocalRegistry.remote, Option.filter_eq_some_iff] using present

/-- A foreign register announcement is not accepted. -/
theorem refuses_of_foreign
    {receiver : Receiver env} {delivery : Delivery}
    {opened : Opened} {entry : RoutingEntry Value}
    (foreign : Foreign receiver delivery opened entry) :
    receiver.registry.accepts (opened.announcement env) = false := by
  have found := (entries_of_remote foreign.present).1
  have sender := foreign.sender
  simp [LocalRegistry.accepts, Opened.announcement, found, sender]

/-- An announcement that is not accepted leaves the registry alone. -/
theorem applyRegister_registry
    {receiver : Receiver env} {opened : Opened}
    (refused :
      receiver.registry.accepts (opened.announcement env) = false) :
    (receiver.applyRegister opened).registry = receiver.registry := by
  unfold Receiver.applyRegister
  rcases registerRemote_of_refuses env.python refused with
    same | ⟨error, raised⟩
  · rw [same]
  · rw [raised]

/-- A withdrawal that is not stale removes the entry. -/
theorem remote_of_deregisterRemote
    {registry : LocalRegistry Value} {name : Key} {epoch : Int}
    (fresh : registry.stale name epoch = false) :
    (registry.deregisterRemote name epoch).remote name = none := by
  cases present : (registry.remote name).isSome with
  | true =>
      have gone :
          (registry.deregisterRemote name epoch).entries name = none := by
        simp [LocalRegistry.deregisterRemote, fresh, present]
      simp [LocalRegistry.remote, gone]
  | false =>
      have same :
          (registry.deregisterRemote name epoch).entries =
            registry.entries := by
        simp [LocalRegistry.deregisterRemote, fresh, present]
      have absent : registry.remote name = none := by simpa using present
      rw [LocalRegistry.remote, same]
      exact absent

/-- One delivery respects the owner unless it is a foreign withdrawal. -/
theorem leavesRoutes_iff
    (receiver : Receiver env) (delivery : Delivery) :
    LeavesRoutes receiver delivery ↔ ¬ TakesDown receiver delivery := by
  constructor
  · rintro leaves ⟨opened, entry, foreign, withdraws, fresh⟩
    have kept := (leaves opened entry foreign).1
    simp only [Receiver.handle, foreign.opens, withdraws,
      Receiver.applyDeregister] at kept
    have gone :
        (receiver.registry.deregisterRemote
          opened.name opened.epoch).remote opened.name = none :=
      remote_of_deregisterRemote fresh
    rw [Receiver.afterOpening, gone] at kept
    cases kept
  · intro spared opened entry foreign
    cases topic : delivery.topic with
    | register =>
        have same :
            (receiver.handle delivery).registry = receiver.registry := by
          have refused := refuses_of_foreign foreign
          simp only [Receiver.handle, foreign.opens, topic]
          exact applyRegister_registry refused
        rw [same]
        exact ⟨foreign.present, rfl⟩
    | deregister =>
        have stale :
            receiver.registry.stale opened.name opened.epoch = true := by
          by_contra fresh
          exact
            spared ⟨opened, entry, foreign, topic, by simpa using fresh⟩
        have same :
            (receiver.handle delivery).registry = receiver.registry := by
          simp [Receiver.handle, foreign.opens, topic,
            Receiver.applyDeregister, Receiver.afterOpening,
            LocalRegistry.deregisterRemote, stale]
        rw [same]
        exact ⟨foreign.present, rfl⟩

/--
Over any sequence of deliveries, foreign announcements leave every remote
entry and its floor alone exactly when none of them is a withdrawal at or
above the floor.
-/
theorem routes_left_to_owners_iff
    (receiver : Receiver env) (deliveries : List Delivery) :
    (∀ first delivery, first ++ [delivery] <+: deliveries →
      LeavesRoutes (receiver.handleAll first) delivery) ↔
      ∀ first delivery, first ++ [delivery] <+: deliveries →
        ¬ TakesDown (receiver.handleAll first) delivery := by
  constructor
  · intro leaves first delivery within
    exact (leavesRoutes_iff _ _).mp (leaves first delivery within)
  · intro spared first delivery within
    exact (leavesRoutes_iff _ _).mpr (spared first delivery within)

/-! ## A validly signed peer -/

/-- The payload of an announcement of `w1`. -/
def announcedBy (sender : String) (epoch : Int) : Dict :=
  dictOf
    [("sender", .str sender),
      ("payload", .dict (dictOf
        [("name", .str "w1"), ("epoch", .int epoch)]))]

/-- `workers` announces `w1`, signed. -/
def ownRegister : Dict :=
  sealedEnvelope "workers" "workers" (List.replicate 16 1)
    (announcedBy "workers" 1)

/-- `rogue` withdraws `w1` at a later epoch, signed with its own key. -/
def rogueDeregister : Dict :=
  sealedEnvelope "rogue" "rogue" (List.replicate 16 2)
    (announcedBy "rogue" 99)

/-- A runtime with strict signing over the short wire format. -/
def shortEnvironment (wire : List Dict) : Environment where
  libraries := shortLibraries wire
  python := plainConversions
  config := { requireVerification := true, allowUnsigned := false }
  verifyKey data :=
    if data.length = 32
    then some (String.ofList (data.map fun byte => Char.ofNat byte.toNat))
    else none

/-- A receiver that trusts the keys of the given peers. -/
def trusting
    (wire : List Dict) (names : List String) :
    Receiver (shortEnvironment wire) where
  registry := .empty
  keys name :=
    match name with
    | .str text => if text ∈ names then some text else none
    | _ => none
  nonces := BoundedCache.Cache.empty

/-- The bytes of an envelope on a topic. -/
def deliver (topic : Topic) (envelope : Dict) : Delivery where
  topic := topic
  data := (shortPackb (.dict envelope)).getD []

/-- The receiver after `workers` has announced `w1`. -/
def announcedReceiver :
    Receiver (shortEnvironment [ownRegister, rogueDeregister]) :=
  (trusting [ownRegister, rogueDeregister] ["workers", "rogue"]).handle
    (deliver .register ownRegister)

/-- The route of `workers` is gone, and the floor is what `rogue` chose. -/
theorem rogue_takes_route_down :
    ¬ LeavesRoutes announcedReceiver
      (deliver .deregister rogueDeregister) := by
  intro leaves
  have kept :=
    (leaves ⟨.str "w1", .str "rogue", _, 99⟩ _ ⟨rfl, rfl, rfl⟩).2
  revert kept
  decide +kernel

end Civitas.Discovery
