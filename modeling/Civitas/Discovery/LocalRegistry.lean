import Civitas.PyValue
import Mathlib.Algebra.Order.Ring.Int
import Mathlib.Logic.Function.Basic

/-!
# The routing table

`LocalRegistry` of `registry.py`: local registrations, and the remote ones
that other processes announce.  A remote registration carries its owner, its
public key and the epoch of the incarnation it stands for.  The epochs seen
for a name outlive its entry in `_remote_epochs`, the floor below which an
announcement is stale.

A name is the dictionary key of the announced value.  The owner is the sender
of the announcement; the registry only compares owners, so that their type is
left open.  Listeners are told about changes and change nothing themselves;
they are left out, and so are the lookups by pattern and by capability.
-/

namespace Civitas.Discovery

open Civitas.PyValue
open Function (update)

/-! ## Entries -/

/-- `RoutingEntry`. -/
structure RoutingEntry (Owner : Type) [Inhabited Owner] where
  name : Key
  address : Key
  isLocal : Bool
  capabilities : List Value := []
  capabilityMetadata : Value := .dict []
  owner : Owner := default
  pubkey : String := ""
  epoch : Int := 0
  healthChannel : String := ""

/-- The arguments of `register`. -/
structure Registration where
  name : Key
  address : Option Key := none
  isLocal : Bool := true
  capabilities : List Value := []
  capabilityMetadata : Dict := []

/-- The arguments of `register_remote`. -/
structure Announcement (Owner : Type) [Inhabited Owner] where
  name : Key
  capabilities : Value := .none
  capabilityMetadata : Value := .none
  owner : Owner := default
  pubkey : String := ""
  epoch : Int := 0
  healthChannel : String := ""

/-- Why `register_remote` raises. -/
inductive RemoteError where
  /-- `Cannot register {name!r} as remote: already registered as local` -/
  | alreadyLocal
  /-- `Cannot register {name!r} as remote: already owned by ...` -/
  | alreadyOwned
  /-- `Cannot register {name!r} as remote: public key conflict` -/
  | publicKeyConflict
  /-- The capabilities or their metadata do not convert. -/
  | conversion (error : PyError)
deriving DecidableEq

/-- The error is a `ValueError`. -/
def RemoteError.isValueError : RemoteError → Bool
  | .conversion error => error = .valueError
  | _ => true

/-! ## The table -/

/-- `LocalRegistry`. -/
structure LocalRegistry (Owner : Type) [Inhabited Owner] where
  entries : Key → Option (RoutingEntry Owner) := fun _ => none
  remoteEpochs : Key → Option Int := fun _ => none
  suspended : Key → Bool := fun _ => false

variable {Owner : Type} [Inhabited Owner]

/-- `LocalRegistry()`. -/
def LocalRegistry.empty : LocalRegistry Owner := {}

/-- The entry `register` builds. -/
def Registration.entry (registration : Registration) : RoutingEntry Owner where
  name := registration.name
  address := registration.address.getD registration.name
  isLocal := registration.isLocal
  capabilities := registration.capabilities
  capabilityMetadata := .dict registration.capabilityMetadata

/-- `register`; `none` when the name is already registered. -/
def LocalRegistry.register
    (registry : LocalRegistry Owner) (registration : Registration) :
    Option (LocalRegistry Owner) :=
  if (registry.entries registration.name).isSome then none
  else
    some
      { registry with
        entries :=
          update registry.entries registration.name
            (some registration.entry) }

/-- `deregister`. -/
def LocalRegistry.deregister
    (registry : LocalRegistry Owner) (name : Key) : LocalRegistry Owner :=
  { registry with
    entries := update registry.entries name none
    suspended := update registry.suspended name false }

/-- `set_suspended`. -/
def LocalRegistry.setSuspended
    (registry : LocalRegistry Owner) (name : Key) (suspended : Bool) :
    LocalRegistry Owner :=
  { registry with suspended := update registry.suspended name suspended }

/-! ## Remote entries -/

/-- The remote entry of a name. -/
def LocalRegistry.remote
    (registry : LocalRegistry Owner) (name : Key) :
    Option (RoutingEntry Owner) :=
  (registry.entries name).filter fun entry => !entry.isLocal

/-- `epoch if last_epoch is None else max(epoch, last_epoch)`. -/
def raiseFloor (lastEpoch : Option Int) (epoch : Int) : Int :=
  match lastEpoch with
  | none => epoch
  | some last => max epoch last

/-- `tuple(capabilities) if capabilities else ()`. -/
def Announcement.capabilityTuple
    (python : Conversions) (announcement : Announcement Owner) :
    Except PyError (List Value) :=
  if announcement.capabilities.truthy
  then python.tuple announcement.capabilities
  else .ok []

/-- `dict(capability_metadata) if capability_metadata else {}`. -/
def Announcement.metadataDict
    (python : Conversions) (announcement : Announcement Owner) :
    Except PyError Value :=
  if announcement.capabilityMetadata.truthy
  then python.dict announcement.capabilityMetadata
  else .ok (.dict [])

/-- The entry `register_remote` builds, when its arguments convert. -/
def Announcement.entry
    (python : Conversions) (announcement : Announcement Owner) :
    Except PyError (RoutingEntry Owner) :=
  match announcement.capabilityTuple python with
  | .error error => .error error
  | .ok capabilities =>
      match announcement.metadataDict python with
      | .error error => .error error
      | .ok capabilityMetadata =>
          .ok
            { name := announcement.name
              address := announcement.name
              isLocal := false
              capabilities := capabilities
              capabilityMetadata := capabilityMetadata
              owner := announcement.owner
              pubkey := announcement.pubkey
              epoch := announcement.epoch
              healthChannel := announcement.healthChannel }

/-- Store an announced entry and raise the floor of its name. -/
def LocalRegistry.store
    (registry : LocalRegistry Owner) (entry : RoutingEntry Owner) :
    LocalRegistry Owner :=
  { registry with
    entries := update registry.entries entry.name (some entry)
    remoteEpochs :=
      update registry.remoteEpochs entry.name
        (some
          (raiseFloor (registry.remoteEpochs entry.name) entry.epoch)) }

/-- The end of `register_remote`, reached by an announcement it accepts. -/
def LocalRegistry.place
    (python : Conversions) (registry : LocalRegistry Owner)
    (announcement : Announcement Owner) :
    Except RemoteError (LocalRegistry Owner) :=
  match announcement.entry python with
  | .error error => .error (.conversion error)
  | .ok entry => .ok (registry.store entry)

/-- The epoch lies below the floor of the name. -/
def LocalRegistry.stale
    (registry : LocalRegistry Owner) (name : Key) (epoch : Int) : Bool :=
  (registry.remoteEpochs name).any fun floor => epoch < floor

/-- The epoch does not lie above the floor of the name. -/
def LocalRegistry.spent
    (registry : LocalRegistry Owner) (name : Key) (epoch : Int) : Bool :=
  (registry.remoteEpochs name).any fun floor => epoch ≤ floor

/--
`register_remote`.  A stale, superseded or resurrecting announcement returns
without a change.
-/
def LocalRegistry.registerRemote
    [BEq Owner] (python : Conversions) (registry : LocalRegistry Owner)
    (announcement : Announcement Owner) :
    Except RemoteError (LocalRegistry Owner) :=
  if registry.stale announcement.name announcement.epoch then .ok registry
  else
    match registry.entries announcement.name with
    | some existing =>
        if existing.isLocal then .error .alreadyLocal
        else if existing.owner != announcement.owner then .error .alreadyOwned
        else if existing.pubkey ≠ "" ∧ announcement.pubkey ≠ "" ∧
            existing.pubkey ≠ announcement.pubkey ∧
            announcement.epoch ≤ existing.epoch then
          .error .publicKeyConflict
        else if announcement.epoch ≤ existing.epoch then .ok registry
        else registry.place python announcement
    | none =>
        if registry.spent announcement.name announcement.epoch
        then .ok registry
        else registry.place python announcement

/-- `deregister_remote`. -/
def LocalRegistry.deregisterRemote
    (registry : LocalRegistry Owner) (name : Key) (epoch : Int) :
    LocalRegistry Owner :=
  if registry.stale name epoch then registry
  else
    { registry with
      remoteEpochs :=
        update registry.remoteEpochs name
          (some (raiseFloor (registry.remoteEpochs name) epoch))
      entries :=
        if (registry.remote name).isSome
        then update registry.entries name none
        else registry.entries }

/-! ## What an announcement does -/

/-- `register_remote` goes on to store the announcement. -/
def LocalRegistry.accepts
    [BEq Owner] (registry : LocalRegistry Owner)
    (announcement : Announcement Owner) : Bool :=
  match registry.entries announcement.name with
  | some existing =>
      !registry.stale announcement.name announcement.epoch &&
        !existing.isLocal && existing.owner == announcement.owner &&
        decide (existing.epoch < announcement.epoch)
  | none => !registry.spent announcement.name announcement.epoch

/-- The public keys of an entry and a newer announcement of it disagree. -/
def RoutingEntry.conflicts
    (existing : RoutingEntry Owner) (announcement : Announcement Owner) :
    Bool :=
  decide
    (existing.pubkey ≠ "" ∧ announcement.pubkey ≠ "" ∧
      existing.pubkey ≠ announcement.pubkey)

/-- `register_remote` returns without a change. -/
def LocalRegistry.ignores
    [BEq Owner] (registry : LocalRegistry Owner)
    (announcement : Announcement Owner) : Bool :=
  registry.stale announcement.name announcement.epoch ||
    match registry.entries announcement.name with
    | some existing =>
        !existing.isLocal && existing.owner == announcement.owner &&
          decide (announcement.epoch ≤ existing.epoch) &&
          !existing.conflicts announcement
    | none => registry.spent announcement.name announcement.epoch

theorem spent_of_stale
    {registry : LocalRegistry Owner} {name : Key} {epoch : Int}
    (stale : registry.stale name epoch = true) :
    registry.spent name epoch = true := by
  unfold LocalRegistry.stale at stale
  unfold LocalRegistry.spent
  cases seen : registry.remoteEpochs name with
  | none => simp [seen] at stale
  | some floor =>
      simp only [seen, Option.any_some, decide_eq_true_eq] at stale ⊢
      omega

section

variable [BEq Owner] (python : Conversions)
  {registry : LocalRegistry Owner} {announcement : Announcement Owner}

theorem registerRemote_of_accepts
    (accepted : registry.accepts announcement = true) :
    registry.registerRemote python announcement =
      registry.place python announcement := by
  unfold LocalRegistry.accepts at accepted
  unfold LocalRegistry.registerRemote
  cases found : registry.entries announcement.name with
  | none =>
      have unspent :
          registry.spent announcement.name announcement.epoch = false := by
        simpa [found] using accepted
      have fresh :
          registry.stale announcement.name announcement.epoch = false := by
        by_contra stale
        rw [spent_of_stale (by simpa using stale)] at unspent
        cases unspent
      simp [fresh, unspent]
  | some existing =>
      have conditions :
          ((registry.stale announcement.name announcement.epoch = false ∧
            existing.isLocal = false) ∧
            (existing.owner == announcement.owner) = true) ∧
            existing.epoch < announcement.epoch := by
        simpa [found] using accepted
      rcases conditions with ⟨⟨⟨fresh, remote⟩, owned⟩, newer⟩
      have above : ¬ announcement.epoch ≤ existing.epoch := by omega
      simp [fresh, remote, owned, above, bne]

theorem registerRemote_of_ignores
    (ignored : registry.ignores announcement = true) :
    registry.registerRemote python announcement = .ok registry := by
  unfold LocalRegistry.ignores at ignored
  unfold LocalRegistry.registerRemote
  cases stale : registry.stale announcement.name announcement.epoch with
  | true => simp
  | false =>
      cases found : registry.entries announcement.name with
      | none =>
          have spent :
              registry.spent announcement.name announcement.epoch = true := by
            simpa [stale, found] using ignored
          simp [spent]
      | some existing =>
          have conditions :
              ((existing.isLocal = false ∧
                (existing.owner == announcement.owner) = true) ∧
                announcement.epoch ≤ existing.epoch) ∧
                existing.conflicts announcement = false := by
            simpa [stale, found] using ignored
          rcases conditions with ⟨⟨⟨remote, owned⟩, older⟩, agrees⟩
          have agree :
              ¬ (existing.pubkey ≠ "" ∧ announcement.pubkey ≠ "" ∧
                existing.pubkey ≠ announcement.pubkey ∧
                announcement.epoch ≤ existing.epoch) := by
            rintro ⟨first, second, third, -⟩
            exact of_decide_eq_false agrees ⟨first, second, third⟩
          have same : ¬ (existing.owner != announcement.owner) = true := by
            simp [bne, owned]
          simp only [Bool.false_eq_true, if_false, remote]
          rw [if_neg same, if_neg agree, if_pos older]

/-- An announcement neither accepted nor ignored raises a `ValueError`. -/
theorem registerRemote_of_rejects
    (refused : registry.accepts announcement = false)
    (noticed : registry.ignores announcement = false) :
    ∃ error,
      registry.registerRemote python announcement = .error error ∧
        error.isValueError = true := by
  unfold LocalRegistry.accepts at refused
  unfold LocalRegistry.ignores at noticed
  unfold LocalRegistry.registerRemote
  have fresh :
      registry.stale announcement.name announcement.epoch = false :=
    (Bool.or_eq_false_iff.mp noticed).1
  cases found : registry.entries announcement.name with
  | none =>
      simp only [found, Bool.not_eq_false'] at refused
      simp [fresh, found, refused] at noticed
  | some existing =>
      simp only [fresh, Bool.false_eq_true, if_false]
      split_ifs with isLocal foreign conflict superseded
      · exact ⟨_, rfl, rfl⟩
      · exact ⟨_, rfl, rfl⟩
      · exact ⟨_, rfl, rfl⟩
      · have owned : (existing.owner == announcement.owner) = true := by
          simpa [bne] using foreign
        have agrees : existing.conflicts announcement = false := by
          refine decide_eq_false ?_
          rintro ⟨first, second, third⟩
          exact conflict ⟨first, second, third, superseded⟩
        have remote : existing.isLocal = false := by simpa using isLocal
        simp [fresh, found, remote, owned, superseded, agrees] at noticed
      · have owned : (existing.owner == announcement.owner) = true := by
          simpa [bne] using foreign
        have newer : existing.epoch < announcement.epoch := by omega
        have remote : existing.isLocal = false := by simpa using isLocal
        simp [found, fresh, remote, owned, newer] at refused

/-- An announcement that is not accepted leaves the registry alone. -/
theorem registerRemote_of_refuses
    (refused : registry.accepts announcement = false) :
    registry.registerRemote python announcement = .ok registry ∨
      ∃ error,
        registry.registerRemote python announcement = .error error := by
  cases ignored : registry.ignores announcement with
  | true => exact .inl (registerRemote_of_ignores python ignored)
  | false =>
      rcases registerRemote_of_rejects python refused ignored with
        ⟨error, raised, -⟩
      exact .inr ⟨error, raised⟩

end

/-- What a stored entry takes from its announcement. -/
structure Announces
    (announcement : Announcement Owner) (entry : RoutingEntry Owner) :
    Prop where
  name : entry.name = announcement.name
  remote : entry.isLocal = false
  owner : entry.owner = announcement.owner
  pubkey : entry.pubkey = announcement.pubkey
  epoch : entry.epoch = announcement.epoch

theorem announces_of_entry
    {python : Conversions} {announcement : Announcement Owner}
    {entry : RoutingEntry Owner}
    (built : announcement.entry python = .ok entry) :
    Announces announcement entry := by
  unfold Announcement.entry at built
  split at built
  · cases built
  · split at built
    · cases built
    · cases built
      exact ⟨rfl, rfl, rfl, rfl, rfl⟩

end Civitas.Discovery
