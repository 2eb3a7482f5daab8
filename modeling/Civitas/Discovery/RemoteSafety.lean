import Civitas.Discovery.LocalRegistry
import Mathlib.Data.List.Infix

/-!
# The registry over whole histories

A history is any list of calls of the four operations, with any arguments and
in any order.  A call that raises leaves the registry as it was.

`register` takes `is_local` as an argument.  With `is_local=False` it stores
an entry that nobody announced: its epoch is zero and no floor is recorded
for it.  Every other remote entry stays at or below the floor of its name.
-/

namespace Civitas.Discovery

open Civitas.PyValue
open Function (update)

/-! ## Calls -/

/-- A call of one of the operations that change entries. -/
inductive Call where
  | register (registration : Registration)
  | deregister (name : Key)
  | registerRemote (announcement : Announcement String)
  | deregisterRemote (name : Key) (epoch : Int)

/-- A call of `register_remote` or `deregister_remote`. -/
def Call.remote : Call → Bool
  | .registerRemote _ | .deregisterRemote _ _ => true
  | _ => false

/-- The registry after a call, whether or not the call raised. -/
def LocalRegistry.call
    (python : Conversions) (registry : LocalRegistry String) :
    Call → LocalRegistry String
  | .register registration => (registry.register registration).getD registry
  | .deregister name => registry.deregister name
  | .registerRemote announcement =>
      match registry.registerRemote python announcement with
      | .ok after => after
      | .error _ => registry
  | .deregisterRemote name epoch => registry.deregisterRemote name epoch

/-- The registry after a history. -/
def history (python : Conversions) (calls : List Call) :
    LocalRegistry String :=
  calls.foldl (LocalRegistry.call python) .empty

theorem history_append
    (python : Conversions) (first second : List Call) :
    history python (first ++ second) =
      second.foldl (LocalRegistry.call python) (history python first) :=
  List.foldl_append

theorem history_snoc
    (python : Conversions) (calls : List Call) (call : Call) :
    history python (calls ++ [call]) =
      (history python calls).call python call := by
  simp [history_append]

/-! ## One call -/

/-- What a call can do to the entry and the floor of a name. -/
inductive Change
    (registry : LocalRegistry String) (name : Key) :
    Call → Option (RoutingEntry String) → Option Int → Prop where
  | same (call : Call) :
      Change registry name call
        (registry.entries name) (registry.remoteEpochs name)
  | registered (registration : Registration) :
      registration.name = name →
      registry.entries name = none →
        Change registry name (.register registration)
          (some registration.entry) (registry.remoteEpochs name)
  | removed :
      Change registry name (.deregister name)
        none (registry.remoteEpochs name)
  | announced
      (announcement : Announcement String) (entry : RoutingEntry String) :
      announcement.name = name →
      registry.accepts announcement = true →
      Announces announcement entry →
        Change registry name (.registerRemote announcement) (some entry)
          (some (raiseFloor (registry.remoteEpochs name) entry.epoch))
  | withdrawn (epoch : Int) :
      registry.stale name epoch = false →
        Change registry name (.deregisterRemote name epoch)
          ((registry.entries name).filter RoutingEntry.isLocal)
          (some (raiseFloor (registry.remoteEpochs name) epoch))

section

variable (python : Conversions) (registry : LocalRegistry String)

theorem call_register
    (registration : Registration) (name : Key) :
    Change registry name (.register registration)
      ((registry.call python (.register registration)).entries name)
      ((registry.call python (.register registration)).remoteEpochs name) := by
  simp only [LocalRegistry.call, LocalRegistry.register]
  split_ifs with taken
  · exact .same _
  · by_cases named : registration.name = name
    · subst named
      have free : registry.entries registration.name = none := by
        simpa using taken
      simpa using Change.registered registration rfl free
    · have same :
          Change registry name (.register registration) _ _ := .same _
      simpa [Ne.symm named] using same

theorem call_deregister
    (other name : Key) :
    Change registry name (.deregister other)
      ((registry.call python (.deregister other)).entries name)
      ((registry.call python (.deregister other)).remoteEpochs name) := by
  simp only [LocalRegistry.call, LocalRegistry.deregister]
  by_cases named : other = name
  · subst named
    simpa using Change.removed
  · have same : Change registry name (.deregister other) _ _ := .same _
    simpa [Ne.symm named] using same

theorem call_registerRemote
    (announcement : Announcement String) (name : Key) :
    Change registry name (.registerRemote announcement)
      ((registry.call python (.registerRemote announcement)).entries name)
      ((registry.call python
        (.registerRemote announcement)).remoteEpochs name) := by
  simp only [LocalRegistry.call]
  cases accepted : registry.accepts announcement with
  | false =>
      rcases registerRemote_of_refuses python accepted with
        same | ⟨error, raised⟩
      · rw [same]
        exact .same _
      · rw [raised]
        exact .same _
  | true =>
      rw [registerRemote_of_accepts python accepted, LocalRegistry.place]
      cases built : announcement.entry python with
      | error _ => exact .same _
      | ok entry =>
          have announces := announces_of_entry built
          by_cases named : announcement.name = name
          · have here : entry.name = name := announces.name.trans named
            simpa [LocalRegistry.store, here] using
              Change.announced announcement entry named accepted announces
          · have elsewhere : name ≠ entry.name := by
              rw [announces.name]
              exact Ne.symm named
            have same :
                Change registry name (.registerRemote announcement) _ _ :=
              .same _
            simpa [LocalRegistry.store, elsewhere] using same

theorem call_deregisterRemote
    (other : Key) (epoch : Int) (name : Key) :
    Change registry name (.deregisterRemote other epoch)
      ((registry.call python (.deregisterRemote other epoch)).entries name)
      ((registry.call python
        (.deregisterRemote other epoch)).remoteEpochs name) := by
  simp only [LocalRegistry.call, LocalRegistry.deregisterRemote]
  cases stale : registry.stale other epoch with
  | true => exact .same _
  | false =>
      by_cases named : other = name
      · subst named
        have change := Change.withdrawn epoch stale
        cases found : registry.entries other with
        | none => simpa [LocalRegistry.remote, found] using change
        | some existing =>
            cases remote : existing.isLocal with
            | true =>
                simpa [LocalRegistry.remote, Option.filter_some, found,
                  remote] using change
            | false =>
                simpa [LocalRegistry.remote, Option.filter_some, found,
                  remote] using change
      · have elsewhere : name ≠ other := Ne.symm named
        have same :
            Change registry name (.deregisterRemote other epoch) _ _ :=
          .same _
        cases present : (registry.remote other).isSome with
        | true => simpa [elsewhere] using same
        | false => simpa [elsewhere] using same

/-- Every call makes one of the changes. -/
theorem change_of_call (call : Call) (name : Key) :
    Change registry name call
      ((registry.call python call).entries name)
      ((registry.call python call).remoteEpochs name) := by
  cases call with
  | register registration => exact call_register python registry _ name
  | deregister other => exact call_deregister python registry other name
  | registerRemote announcement =>
      exact call_registerRemote python registry announcement name
  | deregisterRemote other epoch =>
      exact call_deregisterRemote python registry other epoch name

/-! ### What a call keeps -/

variable {registry} {name : Key}

theorem remote_eq_some_iff {entry : RoutingEntry String} :
    registry.remote name = some entry ↔
      registry.entries name = some entry ∧ entry.isLocal = false := by
  simp [LocalRegistry.remote, Option.filter_eq_some_iff]

theorem le_raiseFloor {floor epoch : Int} {lastEpoch : Option Int}
    (seen : lastEpoch = some floor) :
    floor ≤ raiseFloor lastEpoch epoch := by
  subst seen
  exact le_max_right _ _

theorem epoch_le_raiseFloor (lastEpoch : Option Int) (epoch : Int) :
    epoch ≤ raiseFloor lastEpoch epoch := by
  cases lastEpoch with
  | none => exact le_rfl
  | some floor => exact le_max_left _ _

/-- An accepted announcement finds no local entry. -/
theorem not_local_of_accepts
    {announcement : Announcement String} {entry : RoutingEntry String}
    (accepted : registry.accepts announcement = true)
    (found : registry.entries announcement.name = some entry) :
    entry.isLocal = false ∧ entry.owner = announcement.owner ∧
      entry.epoch < announcement.epoch := by
  unfold LocalRegistry.accepts at accepted
  simp only [found, Bool.and_eq_true, Bool.not_eq_true', beq_iff_eq,
    decide_eq_true_eq] at accepted
  exact ⟨accepted.1.1.2, accepted.1.2, accepted.2⟩

theorem local_of_call
    {call : Call} {entry : RoutingEntry String}
    (remote : call.remote = true)
    (found : registry.entries name = some entry)
    (isLocal : entry.isLocal = true) :
    (registry.call python call).entries name = some entry := by
  have change := change_of_call python registry call name
  generalize (registry.call python call).entries name = after at change ⊢
  generalize (registry.call python call).remoteEpochs name = floor at change
  cases change with
  | same => exact found
  | registered => cases remote
  | removed => cases remote
  | announced announcement _ named accepted _ =>
      subst named
      have refuted := (not_local_of_accepts accepted found).1
      rw [isLocal] at refuted
      cases refuted
  | withdrawn => simp [found, Option.filter_some, isLocal]

theorem owner_of_call
    {call : Call} {old new : RoutingEntry String}
    (before : registry.remote name = some old)
    (after : (registry.call python call).remote name = some new) :
    new.owner = old.owner ∧ old.epoch ≤ new.epoch := by
  rw [remote_eq_some_iff] at before after
  have change := change_of_call python registry call name
  rw [after.1] at change
  generalize (registry.call python call).remoteEpochs name = floor at change
  generalize held : some new = entry at change
  cases change with
  | same =>
      rw [before.1] at held
      cases held
      exact ⟨rfl, le_rfl⟩
  | registered _ _ free =>
      rw [before.1] at free
      cases free
  | removed => cases held
  | announced announcement entry named accepted announces =>
      cases held
      subst named
      have found := not_local_of_accepts accepted before.1
      refine ⟨announces.owner.trans found.2.1.symm, ?_⟩
      rw [announces.epoch]
      exact found.2.2.le
  | withdrawn =>
      simp [before.1, Option.filter_some, before.2] at held

theorem floor_of_call
    (call : Call) {floor : Int}
    (seen : registry.remoteEpochs name = some floor) :
    ∃ later,
      (registry.call python call).remoteEpochs name = some later ∧
        floor ≤ later := by
  have change := change_of_call python registry call name
  generalize (registry.call python call).entries name = entry at change
  generalize (registry.call python call).remoteEpochs name = after at change ⊢
  cases change with
  | same => exact ⟨floor, seen, le_rfl⟩
  | registered => exact ⟨floor, seen, le_rfl⟩
  | removed => exact ⟨floor, seen, le_rfl⟩
  | announced => exact ⟨_, rfl, le_raiseFloor seen⟩
  | withdrawn => exact ⟨_, rfl, le_raiseFloor seen⟩

/-- No remote entry appears at an epoch that the floor has reached. -/
theorem absent_of_call
    {announcement : Announcement String} {floor : Int}
    (seen : registry.remoteEpochs announcement.name = some floor)
    (old : announcement.epoch ≤ floor)
    (absent : registry.remote announcement.name = none) :
    (registry.call python (.registerRemote announcement)).remote
      announcement.name = none := by
  cases accepted : registry.accepts announcement with
  | false =>
      simp only [LocalRegistry.call]
      rcases registerRemote_of_refuses python accepted with
        same | ⟨error, raised⟩
      · rw [same]
        exact absent
      · rw [raised]
        exact absent
  | true =>
      cases found : registry.entries announcement.name with
      | none =>
          simp [LocalRegistry.accepts, LocalRegistry.spent, found, seen,
            not_lt.mpr old] at accepted
      | some entry =>
          have remote := (not_local_of_accepts accepted found).1
          rw [remote_eq_some_iff.mpr ⟨found, remote⟩] at absent
          cases absent

end

/-! ## Histories -/

/-- The entry was put there by `register(..., is_local=False)` and stayed. -/
def RegisteredDirectly
    (python : Conversions) (calls : List Call) (name : Key)
    (entry : RoutingEntry String) : Prop :=
  ∃ first registration rest,
    calls = first ++ .register registration :: rest ∧
      registration.isLocal = false ∧ registration.entry = entry ∧
      ∀ part, part <+: rest →
        (history python
          (first ++ .register registration :: part)).entries name =
            some entry

/-- What every history of calls keeps about remote entries. -/
structure RemoteSafe (python : Conversions) : Prop where
  localKept :
    ∀ calls call name entry,
      call.remote = true →
      (history python calls).entries name = some entry →
      entry.isLocal = true →
        (history python (calls ++ [call])).entries name = some entry
  ownerKept :
    ∀ calls more name,
      (∀ part, part <+: more →
        ((history python (calls ++ part)).remote name).isSome = true) →
        ∃ old new,
          (history python calls).remote name = some old ∧
            (history python (calls ++ more)).remote name = some new ∧
            new.owner = old.owner ∧ old.epoch ≤ new.epoch
  floorKept :
    ∀ calls more name floor,
      (history python calls).remoteEpochs name = some floor →
        ∃ later,
          (history python (calls ++ more)).remoteEpochs name = some later ∧
            floor ≤ later
  neverAgain :
    ∀ calls more epoch announcement,
      (history python calls).stale announcement.name epoch = false →
      announcement.epoch ≤ epoch →
      (history python
        (calls ++ .deregisterRemote announcement.name epoch :: more)).remote
          announcement.name = none →
        (history python
          (calls ++ .deregisterRemote announcement.name epoch :: more ++
            [.registerRemote announcement])).remote announcement.name = none
  bounded :
    ∀ calls name entry,
      (history python calls).remote name = some entry →
        (∃ floor,
          (history python calls).remoteEpochs name = some floor ∧
            entry.epoch ≤ floor) ∨
          RegisteredDirectly python calls name entry

section

variable (python : Conversions)

theorem owner_of_history
    (calls more : List Call) (name : Key)
    (present : ∀ part, part <+: more →
      ((history python (calls ++ part)).remote name).isSome = true) :
    ∃ old new,
      (history python calls).remote name = some old ∧
        (history python (calls ++ more)).remote name = some new ∧
        new.owner = old.owner ∧ old.epoch ≤ new.epoch := by
  induction more using List.reverseRecOn with
  | nil =>
      rcases Option.isSome_iff_exists.mp (present [] List.prefix_rfl) with
        ⟨entry, held⟩
      rw [List.append_nil] at held ⊢
      exact ⟨entry, entry, held, held, rfl, le_rfl⟩
  | append_singleton more call ih =>
      rcases ih fun part within =>
          present part (within.trans (List.prefix_append _ _)) with
        ⟨old, middle, first, second, owner, epoch⟩
      rcases Option.isSome_iff_exists.mp
          (present (more ++ [call]) List.prefix_rfl) with
        ⟨new, last⟩
      rw [← List.append_assoc, history_snoc] at last
      have kept := owner_of_call python second last
      refine ⟨old, new, first, ?_, kept.1.trans owner, epoch.trans kept.2⟩
      rw [← List.append_assoc, history_snoc]
      exact last

theorem floor_of_history
    (calls more : List Call) (name : Key) (floor : Int)
    (seen : (history python calls).remoteEpochs name = some floor) :
    ∃ later,
      (history python (calls ++ more)).remoteEpochs name = some later ∧
        floor ≤ later := by
  induction more using List.reverseRecOn with
  | nil => exact ⟨floor, by simpa using seen, le_rfl⟩
  | append_singleton more call ih =>
      rcases ih with ⟨middle, reached, above⟩
      rcases floor_of_call python call reached with
        ⟨later, final, higher⟩
      refine ⟨later, ?_, above.trans higher⟩
      rw [← List.append_assoc, history_snoc]
      exact final

/-- A withdrawal that is not stale leaves a floor at its epoch or above. -/
theorem floor_of_withdrawal
    {registry : LocalRegistry String} {name : Key} {epoch : Int}
    (fresh : registry.stale name epoch = false) :
    ∃ floor,
      (registry.call python (.deregisterRemote name epoch)).remoteEpochs
          name = some floor ∧
        epoch ≤ floor := by
  refine ⟨raiseFloor (registry.remoteEpochs name) epoch, ?_,
    epoch_le_raiseFloor _ _⟩
  simp [LocalRegistry.call, LocalRegistry.deregisterRemote, fresh]

theorem never_again
    (calls more : List Call) (epoch : Int)
    (announcement : Announcement String)
    (fresh : (history python calls).stale announcement.name epoch = false)
    (old : announcement.epoch ≤ epoch)
    (absent : (history python
      (calls ++ .deregisterRemote announcement.name epoch :: more)).remote
        announcement.name = none) :
    (history python
      (calls ++ .deregisterRemote announcement.name epoch :: more ++
        [.registerRemote announcement])).remote announcement.name = none := by
  rcases floor_of_withdrawal python fresh with ⟨floor, reached, above⟩
  rw [← history_snoc] at reached
  rcases floor_of_history python _ more _ floor reached with
    ⟨later, final, higher⟩
  rw [List.append_assoc, List.singleton_append] at final
  rw [history_snoc]
  exact absent_of_call python final (old.trans (above.trans higher)) absent

/-- An entry registered directly stays so while a call leaves it alone. -/
theorem RegisteredDirectly.snoc
    {calls : List Call} {name : Key} {entry : RoutingEntry String}
    (direct : RegisteredDirectly python calls name entry) (call : Call)
    (held : (history python (calls ++ [call])).entries name = some entry) :
    RegisteredDirectly python (calls ++ [call]) name entry := by
  rcases direct with ⟨first, registration, rest, rfl, remote, built, stays⟩
  refine ⟨first, registration, rest ++ [call], by simp, remote, built, ?_⟩
  intro part within
  rcases List.prefix_concat_iff.mp within with whole | earlier
  · rw [whole]
    simpa using held
  · exact stays part earlier

theorem registeredDirectly_of_call
    {calls : List Call} {registration : Registration}
    (remote : registration.isLocal = false)
    (free : (history python calls).entries registration.name = none) :
    RegisteredDirectly python (calls ++ [.register registration])
      registration.name registration.entry := by
  refine ⟨calls, registration, [], rfl, remote, rfl, ?_⟩
  intro part within
  rw [List.prefix_nil.mp within, history_snoc]
  simp [LocalRegistry.call, LocalRegistry.register, free]

theorem bounded_of_history
    (calls : List Call) (name : Key) (entry : RoutingEntry String)
    (present : (history python calls).remote name = some entry) :
    (∃ floor,
      (history python calls).remoteEpochs name = some floor ∧
        entry.epoch ≤ floor) ∨
      RegisteredDirectly python calls name entry := by
  induction calls using List.reverseRecOn with
  | nil =>
      simp [history, LocalRegistry.empty, LocalRegistry.remote] at present
  | append_singleton calls call ih =>
      have held := (remote_eq_some_iff.mp present).1
      have remote := (remote_eq_some_iff.mp present).2
      have change :=
        change_of_call python (history python calls) call name
      rw [history_snoc] at held
      rw [held] at change
      generalize reached :
        ((history python calls).call python call).remoteEpochs name = floor
        at change
      generalize same : some entry = after at change
      cases change with
      | same =>
          rcases ih (remote_eq_some_iff.mpr ⟨same.symm, remote⟩) with
            ⟨floor, seen, below⟩ | direct
          · refine .inl ⟨floor, ?_, below⟩
            rw [history_snoc, reached]
            exact seen
          · refine .inr (direct.snoc python call ?_)
            rw [history_snoc]
            exact held
      | registered registration named free =>
          cases same
          subst named
          exact .inr (registeredDirectly_of_call python remote free)
      | removed => cases same
      | announced announcement entry named accepted announces =>
          cases same
          rw [history_snoc]
          exact .inl ⟨_, reached, epoch_le_raiseFloor _ _⟩
      | withdrawn epoch fresh =>
          have isLocal :=
            (Option.filter_eq_some_iff.mp same.symm).2
          rw [remote] at isLocal
          cases isLocal

theorem remote_entries_safe : RemoteSafe python where
  localKept calls call name entry remote found isLocal := by
    rw [history_snoc]
    exact local_of_call python remote found isLocal
  ownerKept := owner_of_history python
  floorKept := floor_of_history python
  neverAgain := never_again python
  bounded := bounded_of_history python

end

/-- A remote entry without a floor: `register("a", is_local=False)`. -/
theorem direct_registration_has_no_floor :
    ¬ ∀ (python : Conversions) (calls : List Call) (name : Key)
        (entry : RoutingEntry String),
      (history python calls).remote name = some entry →
        ∃ floor,
          (history python calls).remoteEpochs name = some floor ∧
            entry.epoch ≤ floor := by
  intro bounded
  rcases bounded plainConversions
      [.register ⟨.str "a", none, false, [], []⟩] (.str "a") _ rfl with
    ⟨floor, seen, -⟩
  cases seen

end Civitas.Discovery
