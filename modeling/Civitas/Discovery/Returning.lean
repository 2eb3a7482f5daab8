import Civitas.Discovery.Announcers
import Civitas.Discovery.Ownership
import Civitas.Dynamic.Publication
import Civitas.Transition
import Mathlib.Data.List.Induction

/-!
# Returning peers

When does a runtime that hears every announcement, in order, hold a remote
entry for exactly the names whose last announcement was a registration?

A tenancy follows one name through the history: who holds it, and the highest
epoch that counts.  A name is taken by the registration that finds it free, and
given back by a withdrawal.  The floors that a registry keeps for ever are
these ceilings, so that a registration of a free name is heard only above the
ceiling, and a withdrawal of a held name only at or above it.  Announcements
that respect this are timely.
-/

namespace Civitas.Discovery

open Civitas.Dynamic
open Civitas.PyValue
open Civitas.Transition
open Function (update)

/-! ## Tenancies -/

/-- Who holds a name, and the highest epoch announced for it. -/
structure Tenancy where
  tenant : Option String := none
  ceiling : Option Int := none

namespace Tenancy

/-- The ceiling counts the epoch. -/
def raise (tenancy : Tenancy) (epoch : Int) : Option Int :=
  some (raiseFloor tenancy.ceiling epoch)

/--
A registration takes a free name; one of another sender does not count while
the name is held.
-/
def hear (tenancy : Tenancy) (notice : Notice) : Tenancy :=
  match notice.topic with
  | .deregister => ⟨none, tenancy.raise notice.epoch⟩
  | .register =>
      match tenancy.tenant with
      | none => ⟨some notice.sender, tenancy.raise notice.epoch⟩
      | some tenant =>
          if tenant = notice.sender
          then ⟨some tenant, tenancy.raise notice.epoch⟩
          else tenancy

end Tenancy

/-- The tenancy of a name after a history. -/
def tenancy (history : List Notice) (name : Key) : Tenancy :=
  (history.filter fun notice => notice.name = name).foldl Tenancy.hear {}

/--
A registration of a free name carries an epoch above its ceiling, and the name
is neither falsy nor taken locally; a withdrawal of a held name carries an
epoch that is not below its ceiling.
-/
def timely
    (registry : LocalRegistry Value) (history : List Notice)
    (notice : Notice) : Bool :=
  match notice.topic, (tenancy history notice.name).tenant with
  | .register, none =>
      (nameValue notice.name).truthy &&
        (registry.entries notice.name).isNone &&
        (tenancy history notice.name).ceiling.all (· < notice.epoch)
  | .deregister, some _ =>
      (tenancy history notice.name).ceiling.all (· ≤ notice.epoch)
  | _, _ => true

/-- The step publishes nothing or something timely. -/
def announcesTimely
    (cfg : String → Config) (registry : LocalRegistry Value)
    (fleet : Fleet) (label : FleetLabel) : Bool :=
  (fleet.move cfg label).all fun move =>
    move.2.all (timely registry fleet.history)

/-- The registry of a runtime that has heard nothing yet. -/
structure LocalRegistry.Opening (registry : LocalRegistry Value) : Prop where
  isLocal : ∀ name entry,
    registry.entries name = some entry → entry.isLocal = true
  unheard : ∀ name, registry.remoteEpochs name = none

section Snoc

variable (history : List Notice) (notice : Notice)

theorem tenancy_snoc_same :
    tenancy (history ++ [notice]) notice.name =
      (tenancy history notice.name).hear notice := by
  simp [tenancy, List.filter_append, List.foldl_append]

theorem tenancy_snoc_other {name : Key} (other : notice.name ≠ name) :
    tenancy (history ++ [notice]) name = tenancy history name := by
  simp [tenancy, List.filter_append, other]

theorem lastTopic_snoc_same :
    lastTopic (history ++ [notice]) notice.name = some notice.topic := by
  simp [lastTopic, List.filter_append]

theorem lastTopic_snoc_other {name : Key} (other : notice.name ≠ name) :
    lastTopic (history ++ [notice]) name = lastTopic history name := by
  simp [lastTopic, List.filter_append, other]

end Snoc

theorem tenant_hear (tenancy : Tenancy) (notice : Notice) :
    (tenancy.hear notice).tenant.isSome = true ↔
      notice.topic = .register := by
  unfold Tenancy.hear
  cases topic : notice.topic with
  | deregister => simp
  | register =>
      cases held : tenancy.tenant with
      | none => simp
      | some tenant =>
          by_cases own : tenant = notice.sender
          · simp [own]
          · simp [own, held]

/-- A name is held exactly when its last announcement was a registration. -/
theorem held_iff_lastTopic (history : List Notice) (name : Key) :
    (tenancy history name).tenant.isSome = true ↔
      lastTopic history name = some .register := by
  induction history using List.reverseRecOn with
  | nil => simp [tenancy, lastTopic]
  | append_singleton history notice ih =>
      by_cases same : notice.name = name
      · subst same
        rw [tenancy_snoc_same, lastTopic_snoc_same, tenant_hear]
        simp
      · rw [tenancy_snoc_other _ _ same, lastTopic_snoc_other _ _ same]
        exact ih

/-! ## What the runtime reads -/

@[simp]
theorem key?_nameValue (name : Key) : (nameValue name).key? = some name := by
  cases name <;> rfl

/-- The announcement a handler reads from a message. -/
def Notice.opened (notice : Notice) : Opened where
  name := notice.name
  sender := .str notice.sender
  payload := notice.payload
  epoch := notice.epoch

theorem name_of_payload (notice : Notice) :
    field notice.payload "name" (.str "") = nameValue notice.name := by
  cases notice <;> rfl

theorem fieldOr_int
    {payload : Dict} {epoch : Int}
    (found : field payload "epoch" (.int 0) = .int epoch) :
    fieldOr payload "epoch" (.int 0) = .int epoch := by
  unfold fieldOr
  rw [found]
  by_cases zero : epoch = 0
  · simp [zero, Value.truthy]
  · simp [zero, Value.truthy]

theorem epoch_of_payload (notice : Notice) :
    fieldOr notice.payload "epoch" (.int 0) = .int notice.epoch := by
  apply fieldOr_int
  cases notice <;> rfl

theorem readPayload_of_truthy
    (python : Conversions) {notice : Notice}
    (truthy : (nameValue notice.name).truthy = true) :
    readPayload python (.str notice.sender) notice.payload =
      some notice.opened := by
  unfold readPayload
  rw [name_of_payload, epoch_of_payload, python.int_int, if_pos truthy,
    key?_nameValue]
  rfl

theorem readPayload_of_falsy
    (python : Conversions) {notice : Notice}
    (falsy : (nameValue notice.name).truthy = false) :
    readPayload python (.str notice.sender) notice.payload = none := by
  unfold readPayload
  rw [name_of_payload, if_neg (by simp [falsy])]

theorem capabilityTuple_of_notice
    (env : Environment) (notice : Notice) :
    ∃ capabilities,
      (notice.opened.announcement env).capabilityTuple env.python =
        .ok capabilities := by
  unfold Announcement.capabilityTuple
  split
  · cases notice with
    | hosted agent healthChannel => exact ⟨_, env.python.tuple_list _⟩
    | child supervisor name epoch advert =>
        exact ⟨_, env.python.tuple_list _⟩
    | channel name => contradiction
    | departed name => contradiction
    | withdrawn supervisor name epoch => contradiction
  · exact ⟨_, rfl⟩

theorem metadataDict_of_notice
    (env : Environment) (notice : Notice) :
    ∃ metadata,
      (notice.opened.announcement env).metadataDict env.python =
        .ok metadata := by
  unfold Announcement.metadataDict
  split
  · cases notice with
    | hosted agent healthChannel => exact ⟨_, env.python.dict_dict _⟩
    | child supervisor name epoch advert =>
        exact ⟨_, env.python.dict_dict _⟩
    | channel name => contradiction
    | departed name => contradiction
    | withdrawn supervisor name epoch => contradiction
  · exact ⟨_, rfl⟩

/-- What the announcers send converts. -/
theorem entry_of_notice (env : Environment) (notice : Notice) :
    ∃ entry,
      (notice.opened.announcement env).entry env.python = .ok entry := by
  rcases capabilityTuple_of_notice env notice with ⟨capabilities, tuple⟩
  rcases metadataDict_of_notice env notice with ⟨metadata, dict⟩
  unfold Announcement.entry
  rw [tuple, dict]
  exact ⟨_, rfl⟩

section Hear

variable {env : Environment} (receiver : Receiver env) {notice : Notice}

theorem hear_of_falsy
    (falsy : (nameValue notice.name).truthy = false) :
    receiver.hear notice = receiver := by
  unfold Receiver.hear
  rw [readPayload_of_falsy env.python falsy]

theorem hear_of_deregister
    (truthy : (nameValue notice.name).truthy = true)
    (topic : notice.topic = .deregister) :
    (receiver.hear notice).registry =
      receiver.registry.deregisterRemote notice.name notice.epoch := by
  unfold Receiver.hear
  rw [readPayload_of_truthy env.python truthy, topic]
  rfl

theorem hear_of_register
    (truthy : (nameValue notice.name).truthy = true)
    (topic : notice.topic = .register) :
    receiver.hear notice = receiver.applyRegister notice.opened := by
  unfold Receiver.hear
  rw [readPayload_of_truthy env.python truthy, topic]

/-- An accepted registration is stored. -/
theorem hear_of_accepts
    (truthy : (nameValue notice.name).truthy = true)
    (topic : notice.topic = .register)
    (accepted :
      receiver.registry.accepts (notice.opened.announcement env) = true) :
    ∃ entry, Announces (notice.opened.announcement env) entry ∧
      (receiver.hear notice).registry = receiver.registry.store entry := by
  rcases entry_of_notice env notice with ⟨entry, built⟩
  refine ⟨entry, announces_of_entry built, ?_⟩
  rw [hear_of_register receiver truthy topic]
  unfold Receiver.applyRegister
  rw [registerRemote_of_accepts env.python accepted]
  unfold LocalRegistry.place
  rw [built]

/-- A registration that is not accepted changes nothing. -/
theorem hear_of_refuses
    (truthy : (nameValue notice.name).truthy = true)
    (topic : notice.topic = .register)
    (refused :
      receiver.registry.accepts (notice.opened.announcement env) = false) :
    (receiver.hear notice).registry = receiver.registry := by
  rw [hear_of_register receiver truthy topic]
  unfold Receiver.applyRegister
  rcases registerRemote_of_refuses env.python refused with
    same | ⟨error, raised⟩
  · rw [same]
  · rw [raised]

end Hear

/-! ## The registry follows the tenancies -/

/-- What a registry holds for a name, by the tenancy of the name. -/
structure Follows
    (opening registry : LocalRegistry Value) (tenancy : Tenancy)
    (name : Key) : Prop where
  free :
    tenancy.tenant = none → registry.entries name = opening.entries name
  held : ∀ tenant, tenancy.tenant = some tenant →
    ∃ entry floor, registry.entries name = some entry ∧
      entry.isLocal = false ∧ entry.owner = .str tenant ∧
      tenancy.ceiling = some floor ∧ entry.epoch ≤ floor
  vacant :
    tenancy.tenant.isSome = true → opening.entries name = none
  named :
    tenancy.tenant.isSome = true → (nameValue name).truthy = true
  floor :
    (nameValue name).truthy = true →
      registry.remoteEpochs name = tenancy.ceiling

@[simp]
theorem beq_str (left right : String) :
    (Value.str left == Value.str right) = decide (left = right) := by
  change Value.pyEq (.str left) (.str right) = decide (left = right)
  simp [Value.pyEq]

theorem raiseFloor_of_le
    {floor epoch : Int} (below : epoch ≤ floor) :
    raiseFloor (some floor) epoch = floor := by
  simp [raiseFloor, below]

section Accepts

variable {registry : LocalRegistry Value} {env : Environment}
  {notice : Notice}

theorem accepts_of_vacant
    (vacant : registry.entries notice.name = none) :
    registry.accepts (notice.opened.announcement env) =
      !registry.spent notice.name notice.epoch := by
  have empty :
      registry.entries (notice.opened.announcement env).name = none :=
    vacant
  unfold LocalRegistry.accepts
  rw [empty]
  rfl

theorem accepts_iff_of_found
    {entry : RoutingEntry Value}
    (found : registry.entries notice.name = some entry) :
    registry.accepts (notice.opened.announcement env) = true ↔
      registry.stale notice.name notice.epoch = false ∧
        entry.isLocal = false ∧
        (entry.owner == Value.str notice.sender) = true ∧
        entry.epoch < notice.epoch := by
  have present :
      registry.entries (notice.opened.announcement env).name = some entry :=
    found
  unfold LocalRegistry.accepts
  rw [present]
  simp only [Bool.and_eq_true, Bool.not_eq_true', decide_eq_true_eq,
    and_assoc]
  exact Iff.rfl

end Accepts

section Registry

variable {opening registry : LocalRegistry Value} {tenancy : Tenancy}

theorem Follows.remote
    {name : Key} (follows : Follows opening registry tenancy name)
    (open_ : opening.Opening) :
    (registry.remote name).isSome = tenancy.tenant.isSome := by
  cases held : tenancy.tenant with
  | none =>
      unfold LocalRegistry.remote
      rw [follows.free held]
      cases found : opening.entries name with
      | none => rfl
      | some entry => simp [open_.isLocal name entry found]
  | some tenant =>
      rcases follows.held tenant held with ⟨entry, _, found, remote, _⟩
      simp [LocalRegistry.remote, found, remote]

/-- A stored registration of the holder, or of a new one. -/
theorem Follows.store
    {notice : Notice} {env : Environment} {entry : RoutingEntry Value}
    (announces : Announces (notice.opened.announcement env) entry)
    (truthy : (nameValue notice.name).truthy = true)
    (vacant : opening.entries notice.name = none)
    (floor : registry.remoteEpochs notice.name = tenancy.ceiling) :
    Follows opening (registry.store entry)
      ⟨some notice.sender, tenancy.raise notice.epoch⟩ notice.name := by
  have name : entry.name = notice.name := announces.name
  have epoch : entry.epoch = notice.epoch := announces.epoch
  constructor
  · intro free
    cases free
  · intro tenant held
    cases held
    refine ⟨entry, raiseFloor tenancy.ceiling notice.epoch, ?_,
      announces.remote, announces.owner, rfl, ?_⟩
    · simp [LocalRegistry.store, name]
    · rw [epoch]
      unfold raiseFloor
      split
      · exact le_rfl
      · exact le_max_left _ _
  · intro _
    exact vacant
  · intro _
    exact truthy
  · intro _
    simp [LocalRegistry.store, name, epoch, floor, Tenancy.raise]

variable {env : Environment} {receiver : Receiver env} {notice : Notice}

theorem Follows.hear_free_register
    (follows : Follows opening receiver.registry tenancy notice.name)
    (topic : notice.topic = .register)
    (free : tenancy.tenant = none)
    (truthy : (nameValue notice.name).truthy = true)
    (vacant : opening.entries notice.name = none)
    (above : tenancy.ceiling.all (· < notice.epoch) = true) :
    Follows opening (receiver.hear notice).registry (tenancy.hear notice)
      notice.name := by
  have floor := follows.floor truthy
  have accepted :
      receiver.registry.accepts (notice.opened.announcement env) = true := by
    have empty : receiver.registry.entries notice.name = none := by
      rw [follows.free free, vacant]
    rw [accepts_of_vacant empty]
    unfold LocalRegistry.spent
    rw [floor]
    cases seen : tenancy.ceiling with
    | none => rfl
    | some ceiling =>
        have lower : ceiling < notice.epoch := by
          simpa [seen] using above
        simp [lower]
  rcases hear_of_accepts receiver truthy topic accepted with
    ⟨entry, announces, stored⟩
  rw [stored]
  have heard :
      tenancy.hear notice =
        ⟨some notice.sender, tenancy.raise notice.epoch⟩ := by
    simp [Tenancy.hear, topic, free]
  rw [heard]
  exact Follows.store announces truthy vacant floor

theorem Follows.hear_held_register
    (follows : Follows opening receiver.registry tenancy notice.name)
    (topic : notice.topic = .register)
    {tenant : String} (held : tenancy.tenant = some tenant) :
    Follows opening (receiver.hear notice).registry (tenancy.hear notice)
      notice.name := by
  have taken : tenancy.tenant.isSome = true := by simp [held]
  have truthy := follows.named taken
  have floor := follows.floor truthy
  rcases follows.held tenant held with
    ⟨entry, ceiling, found, remote, owner, seen, below⟩
  cases accepted :
      receiver.registry.accepts (notice.opened.announcement env) with
  | true =>
      have own : tenant = notice.sender := by
        have same := ((accepts_iff_of_found found).mp accepted).2.2.1
        rw [owner, beq_str] at same
        exact of_decide_eq_true same
      rcases hear_of_accepts receiver truthy topic accepted with
        ⟨placed, announces, stored⟩
      rw [stored]
      have heard :
          tenancy.hear notice =
            ⟨some notice.sender, tenancy.raise notice.epoch⟩ := by
        simp [Tenancy.hear, topic, held, own]
      rw [heard]
      exact Follows.store announces truthy (follows.vacant taken) floor
  | false =>
      rw [hear_of_refuses receiver truthy topic accepted]
      by_cases own : tenant = notice.sender
      · have covered : notice.epoch ≤ ceiling := by
          by_contra higher
          have fresh :
              receiver.registry.stale notice.name notice.epoch = false := by
            unfold LocalRegistry.stale
            rw [floor, seen]
            simp
            omega
          have newer : entry.epoch < notice.epoch := by omega
          have owned : (entry.owner == Value.str notice.sender) = true := by
            rw [owner, own, beq_str]
            exact decide_eq_true rfl
          rw [(accepts_iff_of_found found).mpr
            ⟨fresh, remote, owned, newer⟩] at accepted
          cases accepted
        have heard : tenancy.hear notice = tenancy := by
          have same : tenancy.raise notice.epoch = tenancy.ceiling := by
            unfold Tenancy.raise
            rw [seen, raiseFloor_of_le covered]
          unfold Tenancy.hear
          rw [topic, held]
          simp only [own, if_true]
          rw [same, ← own, ← held]
        rw [heard]
        exact follows
      · have heard : tenancy.hear notice = tenancy := by
          simp [Tenancy.hear, topic, held, own]
        rw [heard]
        exact follows

theorem hear_deregister_eq (topic : notice.topic = .deregister) :
    tenancy.hear notice = ⟨none, tenancy.raise notice.epoch⟩ := by
  simp [Tenancy.hear, topic]

theorem Follows.hear_held_deregister
    (follows : Follows opening receiver.registry tenancy notice.name)
    (topic : notice.topic = .deregister)
    (taken : tenancy.tenant.isSome = true)
    (above : tenancy.ceiling.all (· ≤ notice.epoch) = true) :
    Follows opening (receiver.hear notice).registry (tenancy.hear notice)
      notice.name := by
  have truthy := follows.named taken
  have floor := follows.floor truthy
  rcases Option.isSome_iff_exists.mp taken with ⟨tenant, held⟩
  rcases follows.held tenant held with
    ⟨entry, ceiling, found, remote, _, seen, _⟩
  have fresh :
      receiver.registry.stale notice.name notice.epoch = false := by
    have lower : ceiling ≤ notice.epoch := by simpa [seen] using above
    unfold LocalRegistry.stale
    rw [floor, seen]
    simpa using lower
  have present : (receiver.registry.remote notice.name).isSome = true := by
    simp [LocalRegistry.remote, found, remote]
  rw [hear_of_deregister receiver truthy topic, hear_deregister_eq topic]
  unfold LocalRegistry.deregisterRemote
  simp only [fresh, present, Bool.false_eq_true, if_false, if_true]
  constructor
  · intro _
    simp [follows.vacant taken]
  · intro _ held
    cases held
  · intro taken
    cases taken
  · intro taken
    cases taken
  · intro _
    simp [floor, Tenancy.raise]

theorem Follows.hear_free_deregister
    (follows : Follows opening receiver.registry tenancy notice.name)
    (open_ : opening.Opening)
    (topic : notice.topic = .deregister)
    (free : tenancy.tenant = none) :
    Follows opening (receiver.hear notice).registry (tenancy.hear notice)
      notice.name := by
  rw [hear_deregister_eq topic]
  have absent : (receiver.registry.remote notice.name).isSome = false := by
    rw [follows.remote open_, free]
    rfl
  have kept :
      (receiver.hear notice).registry.entries notice.name =
        opening.entries notice.name := by
    rw [← follows.free free]
    cases truthy : (nameValue notice.name).truthy with
    | false => rw [hear_of_falsy receiver truthy]
    | true =>
        rw [hear_of_deregister receiver truthy topic]
        unfold LocalRegistry.deregisterRemote
        split
        · rfl
        · simp [absent]
  constructor
  · intro _
    exact kept
  · intro _ held
    cases held
  · intro taken
    cases taken
  · intro taken
    cases taken
  · intro truthy
    have floor := follows.floor truthy
    rw [hear_of_deregister receiver truthy topic]
    unfold LocalRegistry.deregisterRemote
    split
    · rename_i stale
      unfold LocalRegistry.stale at stale
      rw [floor] at stale ⊢
      cases seen : tenancy.ceiling with
      | none => simp [seen] at stale
      | some ceiling =>
          have below : notice.epoch ≤ ceiling := by
            have lower : notice.epoch < ceiling := by
              simpa [seen] using stale
            omega
          simp only [Tenancy.raise, seen]
          rw [raiseFloor_of_le below]
    · simp [floor, Tenancy.raise]

end Registry

section Untouched

variable {env : Environment} (receiver : Receiver env) {notice : Notice}
  {name : Key}

/-- An announcement of another name leaves a name alone. -/
theorem hear_of_other (other : notice.name ≠ name) :
    (receiver.hear notice).registry.entries name =
        receiver.registry.entries name ∧
      (receiver.hear notice).registry.remoteEpochs name =
        receiver.registry.remoteEpochs name := by
  cases truthy : (nameValue notice.name).truthy with
  | false =>
      rw [hear_of_falsy receiver truthy]
      exact ⟨rfl, rfl⟩
  | true =>
      cases topic : notice.topic with
      | deregister =>
          rw [hear_of_deregister receiver truthy topic]
          unfold LocalRegistry.deregisterRemote
          split
          · exact ⟨rfl, rfl⟩
          · constructor
            · dsimp only
              split
              · simp [other.symm]
              · rfl
            · simp [other.symm]
      | register =>
          cases accepted : receiver.registry.accepts
              (notice.opened.announcement env) with
          | false =>
              rw [hear_of_refuses receiver truthy topic accepted]
              exact ⟨rfl, rfl⟩
          | true =>
              rcases hear_of_accepts receiver truthy topic accepted with
                ⟨entry, announces, stored⟩
              have different : name ≠ entry.name := by
                have same : entry.name = notice.name := announces.name
                rw [same]
                exact other.symm
              rw [stored]
              simp [LocalRegistry.store, different]

end Untouched

/-! ## Histories -/

/-- The registry follows the tenancy of every name. -/
def FollowsAll
    (opening registry : LocalRegistry Value) (history : List Notice) : Prop :=
  ∀ name, Follows opening registry (tenancy history name) name

section Histories

variable {opening : LocalRegistry Value} {env : Environment}
  {receiver : Receiver env} {history : List Notice} {notice : Notice}

theorem FollowsAll.start (open_ : opening.Opening) :
    FollowsAll opening opening [] := by
  intro name
  constructor
  · intro _
    rfl
  · intro _ held
    cases held
  · intro taken
    cases taken
  · intro taken
    cases taken
  · intro _
    exact open_.unheard name

theorem FollowsAll.agrees
    (follows : FollowsAll opening receiver.registry history)
    (open_ : opening.Opening) :
    receiver.registry.Agrees history := by
  intro name
  rw [(follows name).remote open_]
  exact held_iff_lastTopic history name

/-- A timely announcement is followed. -/
theorem FollowsAll.hear
    (follows : FollowsAll opening receiver.registry history)
    (open_ : opening.Opening)
    (onTime : timely opening history notice = true) :
    FollowsAll opening (receiver.hear notice).registry
      (history ++ [notice]) := by
  intro name
  by_cases same : notice.name = name
  · subst same
    rw [tenancy_snoc_same]
    have current := follows notice.name
    unfold timely at onTime
    cases topic : notice.topic with
    | register =>
        cases held : (tenancy history notice.name).tenant with
        | none =>
            simp only [topic, held, Bool.and_eq_true,
              Option.isNone_iff_eq_none] at onTime
            rcases onTime with ⟨⟨truthy, vacant⟩, above⟩
            exact current.hear_free_register topic held truthy vacant above
        | some tenant => exact current.hear_held_register topic held
    | deregister =>
        cases held : (tenancy history notice.name).tenant with
        | none => exact current.hear_free_deregister open_ topic held
        | some tenant =>
            simp only [topic, held] at onTime
            exact current.hear_held_deregister topic (by simp [held]) onTime
  · rw [tenancy_snoc_other _ _ same]
    rcases hear_of_other receiver same with ⟨entries, floor⟩
    have current := follows name
    constructor
    · intro free
      rw [entries]
      exact current.free free
    · intro tenant held
      rw [entries]
      exact current.held tenant held
    · exact current.vacant
    · exact current.named
    · intro truthy
      rw [floor]
      exact current.floor truthy

/-- An announcement that is not timely is not heard. -/
theorem FollowsAll.hear_untimely
    (follows : FollowsAll opening receiver.registry history)
    (open_ : opening.Opening)
    (late : timely opening history notice = false) :
    (receiver.hear notice).registry = receiver.registry := by
  have current := follows notice.name
  cases truthy : (nameValue notice.name).truthy with
  | false => rw [hear_of_falsy receiver truthy]
  | true =>
      have floor := current.floor truthy
      unfold timely at late
      cases topic : notice.topic with
      | register =>
          apply hear_of_refuses receiver truthy topic
          cases held : (tenancy history notice.name).tenant with
          | some tenant => simp [topic, held] at late
          | none =>
              have entries := current.free held
              cases found : opening.entries notice.name with
              | some entry =>
                  have present :
                      receiver.registry.entries notice.name = some entry := by
                    rw [entries, found]
                  rw [Bool.eq_false_iff]
                  intro accepted
                  have remote :=
                    ((accepts_iff_of_found present).mp accepted).2.1
                  rw [open_.isLocal notice.name entry found] at remote
                  cases remote
              | none =>
                  rw [accepts_of_vacant (by rw [entries, found])]
                  unfold LocalRegistry.spent
                  rw [floor]
                  cases seen : (tenancy history notice.name).ceiling with
                  | none => simp [topic, held, truthy, found, seen] at late
                  | some ceiling =>
                      have below : notice.epoch ≤ ceiling := by
                        simpa [topic, held, truthy, found, seen] using late
                      simp [below]
      | deregister =>
          rw [hear_of_deregister receiver truthy topic]
          cases held : (tenancy history notice.name).tenant with
          | none => simp [topic, held] at late
          | some tenant =>
              rcases current.held tenant held with
                ⟨_, ceiling, _, _, _, seen, _⟩
              have below : notice.epoch < ceiling := by
                simpa [topic, held, seen] using late
              have stale :
                  receiver.registry.stale notice.name notice.epoch =
                    true := by
                unfold LocalRegistry.stale
                rw [floor, seen]
                simpa using below
              unfold LocalRegistry.deregisterRemote
              rw [if_pos stale]

/-- The first announcement that is not timely breaks the agreement. -/
theorem FollowsAll.disagrees
    (follows : FollowsAll opening receiver.registry history)
    (open_ : opening.Opening)
    (late : timely opening history notice = false) :
    ¬ (receiver.hear notice).registry.Agrees (history ++ [notice]) := by
  intro agrees
  have spoken := agrees notice.name
  rw [follows.hear_untimely open_ late, (follows notice.name).remote open_,
    lastTopic_snoc_same] at spoken
  unfold timely at late
  cases topic : notice.topic with
  | register =>
      cases held : (tenancy history notice.name).tenant with
      | some tenant => simp [topic, held] at late
      | none => simp [topic, held] at spoken
  | deregister =>
      cases held : (tenancy history notice.name).tenant with
      | none => simp [topic, held] at late
      | some tenant => simp [topic, held] at spoken

theorem hearAll_snoc :
    receiver.hearAll (history ++ [notice]) =
      (receiver.hearAll history).hear notice := by
  simp [Receiver.hearAll, List.foldl_append]

end Histories

/-! ## Runs of the announcers -/

theorem history_of_fleetStep
    {cfg : String → Config} {fleet after : Fleet} {label : FleetLabel}
    (stepped : fleetStep cfg fleet label = some after) :
    ∃ moved said, fleet.move cfg label = some (moved, said) ∧
      after.history = fleet.history ++ said.toList := by
  unfold fleetStep at stepped
  rcases Option.map_eq_some_iff.mp stepped with ⟨⟨moved, said⟩, move, rfl⟩
  exact ⟨moved, said, move, rfl⟩

theorem announcesTimely_of_move
    {cfg : String → Config} {registry : LocalRegistry Value}
    {fleet moved : Fleet} {label : FleetLabel} {said : Option Notice}
    (move : fleet.move cfg label = some (moved, said)) :
    announcesTimely cfg registry fleet label =
      said.all (timely registry fleet.history) := by
  simp [announcesTimely, move]

theorem followsAll_of_step
    {cfg : String → Config} {env : Environment} {receiver : Receiver env}
    (opening : receiver.registry.Opening)
    {fleet after : Fleet} {label : FleetLabel}
    (follows :
      FollowsAll receiver.registry (receiver.hearAll fleet.history).registry
        fleet.history)
    (onTime : announcesTimely cfg receiver.registry fleet label = true)
    (stepped : fleetStep cfg fleet label = some after) :
    FollowsAll receiver.registry (receiver.hearAll after.history).registry
      after.history := by
  rcases history_of_fleetStep stepped with ⟨moved, said, move, history⟩
  rw [announcesTimely_of_move move] at onTime
  rw [history]
  cases said with
  | none => simpa using follows
  | some notice =>
      rw [Option.toList_some, hearAll_snoc]
      exact follows.hear opening (by simpa using onTime)

/--
In every run whose announcements are timely, the runtime holds a remote entry
for exactly the names registered last, and the first announcement that is not
timely ends this.
-/
theorem returning_peers_routable_in_every_run
    (cfg : String → Config) {env : Environment} (receiver : Receiver env)
    (opening : receiver.registry.Opening) {fleet : Fleet}
    (reached :
      Reaches (fleetStep cfg) (announcesTimely cfg receiver.registry · ·)
        fleetInit fleet) :
    (receiver.hearAll fleet.history).registry.Agrees fleet.history ∧
      ∀ label after, fleetStep cfg fleet label = some after →
        announcesTimely cfg receiver.registry fleet label = false →
          ¬ (receiver.hearAll after.history).registry.Agrees
            after.history := by
  have follows :
      FollowsAll receiver.registry (receiver.hearAll fleet.history).registry
        fleet.history := by
    apply reached.invariant
    · exact FollowsAll.start opening
    · intro before label after held onTime stepped
      exact followsAll_of_step opening held onTime stepped
  refine ⟨follows.agrees opening, ?_⟩
  intro label after stepped late
  rcases history_of_fleetStep stepped with ⟨moved, said, move, history⟩
  rw [announcesTimely_of_move move] at late
  rw [history]
  cases said with
  | none => simp at late
  | some notice =>
      rw [Option.toList_some, hearAll_snoc]
      exact follows.disagrees opening (by simpa using late)

/-- A worker that hosts one agent. -/
def soloWorker (id : String) : Worker where
  id := id
  agents := [{ name := "a1" }]
  distinct := by simp

/-- A worker starts. -/
def startSolo (id : String) : List FleetLabel :=
  [.start (soloWorker id), .publish id, .publish id, .publish id, .settle id]

/-- A worker starts, and a child of `pool` comes and goes. -/
def startThenDespawn : List FleetLabel :=
  startSolo "1" ++ announceAndDespawn.map (.supervise "pool" 0 · {})

/-- A runtime without agents of its own. -/
def bareReceiver : Receiver (shortEnvironment []) :=
  trusting [] []

theorem bareReceiver_opening : bareReceiver.registry.Opening := by
  constructor
  · intro name entry found
    cases found
  · intro name
    rfl

theorem first_announcements_routable :
    ∃ fleet : Fleet,
      lastTopic fleet.history (.str "a1") = some .register ∧
        lastTopic fleet.history (.str "w1") = some .deregister ∧
        (bareReceiver.hearAll fleet.history).registry.Agrees
          fleet.history := by
  have ran :
      ((runWhere (fleetStep fun _ => openConfig)
          (announcesTimely (fun _ => openConfig) bareReceiver.registry · ·)
          fleetInit startThenDespawn).map fun fleet =>
        decide (lastTopic fleet.history (.str "a1") = some .register ∧
          lastTopic fleet.history (.str "w1") = some .deregister)) =
      some true := by
    decide +kernel
  rcases exists_reaches_of_run ran with ⟨fleet, run, facts⟩
  rcases of_decide_eq_true facts with ⟨present, gone⟩
  exact
    ⟨fleet, present, gone,
      (returning_peers_routable_in_every_run _ bareReceiver
        bareReceiver_opening run).1⟩

/-- A worker is stopped, and another one brings its agent back. -/
def leaveAndReturn : List FleetLabel :=
  startSolo "1" ++ [FleetLabel.stop "1", .publish "1", .halt "1"] ++
    startSolo "2"

/-- The agent that came back is not routable. -/
theorem returning_agent_stays_unroutable :
    ∃ fleet : Fleet,
      Reaches (fleetStep fun _ => openConfig) (fun _ _ => True) fleetInit
          fleet ∧
        ¬ (bareReceiver.hearAll fleet.history).registry.Agrees
          fleet.history := by
  have ran :
      ((runWhere (fleetStep fun _ => openConfig) (fun _ _ => True) fleetInit
          leaveAndReturn).map fun fleet =>
        decide
          (((bareReceiver.hearAll fleet.history).registry.remote
              (.str "a1")).isSome = false ∧
            lastTopic fleet.history (.str "a1") = some .register)) =
      some true := by
    decide +kernel
  rcases exists_reaches_of_run ran with ⟨fleet, run, facts⟩
  rcases of_decide_eq_true facts with ⟨absent, present⟩
  refine ⟨fleet, run, ?_⟩
  intro agrees
  rw [(agrees (.str "a1")).mpr present] at absent
  cases absent

end Civitas.Discovery
