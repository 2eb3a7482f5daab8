import Civitas.Dynamic.Changes

/-!
# Announcements of dynamic children

What a `DynamicSupervisor` on a distributed transport publishes about its
children: `_announce_child`, `_announce_after_start`, `_announce_deregister`
and `_maybe_announce_deregister`.

The announcements are a layer over the supervisor of `Step`.  A step of the
supervisor is followed by what it does to the epochs, to the `announced` flags
and to the announcements under way; the tasks of `_announce_after_start` and
the moment at which a continuation publishes are steps of their own.  The flag
of a record is set when the publication has returned, and a removal reads it
when it has taken the child out of the table.
-/

namespace Civitas.Dynamic

open Civitas.PyValue
open Function (update)

/-! ## State -/

/-- A message on `_agency.register` or on `_agency.deregister`. -/
inductive Broadcast where
  | register (name : Name) (epoch : Nat)
  | deregister (name : Name) (epoch : Nat)
deriving DecidableEq

/-- The epoch of a broadcast. -/
def Broadcast.epoch : Broadcast → Nat
  | .register _ epoch | .deregister _ epoch => epoch

/--
Where the `_announce_after_start` task of a spawn stands, with the record it
found for the name of its child.
-/
inductive AnnounceStage where
  | absent
  | waiting
  | settling (record : Nat)
  | publishing (record : Nat)
  | finished
deriving DecidableEq

/-- The tasks that remove children. -/
inductive Remover where
  | loop
  | exit (agent : Nat)
  | continuation (record : Nat)
deriving DecidableEq

/-- A supervisor with its announcements. -/
structure Wire where
  base : State := init
  spawnEpoch : Nat := 0
  /-- `rec.epoch`; zero before the spawn is admitted. -/
  epochOf : Nat → Nat := fun _ => 0
  /-- `rec.announced`. -/
  announced : Nat → Bool := fun _ => false
  announceTask : Nat → AnnounceStage := fun _ => .absent
  /-- The continuation of the record has published its announcement. -/
  sent : Nat → Bool := fun _ => false
  /-- The record that a removal has looked up. -/
  captured : Remover → Option Nat := fun _ => none
  /-- The record whose withdrawal a removal publishes. -/
  due : Remover → Option Nat := fun _ => none
  published : List Broadcast := []

/-! ## Steps of the supervisor -/

/-- The name whose withdrawal the remover may be publishing. -/
def State.withdraws? (s : State) : Remover → Option Name
  | .loop =>
      match s.loop with
      | .removing _ name => some name
      | _ => none
  | .exit agent =>
      match s.exit agent with
      | .announcing _ | .leaving _ => some (s.agentName agent)
      | _ => none
  | .continuation record =>
      match s.continuation record with
      | .leaving => some (s.agentName record)
      | _ => none

/-- The step looks a record up for a removal. -/
def State.captures (s : State) : Label → Option (Remover × Name)
  | .take message => (s.removalOf message).map fun name => (.loop, name)
  | .exit agent _ _ _ =>
      match s.exit agent with
      | .scheduled _ | .rewireClearing =>
          some (.exit agent, s.agentName agent)
      | _ => none
  | .continuation record _ =>
      match s.continuation record with
      | .waiting => some (.continuation record, s.agentName record)
      | _ => none
  | _ => none

/-- The records looked up by the removals, after the step. -/
def Wire.capturedAfter (w : Wire) (label : Label) : Remover → Option Nat :=
  match w.base.captures label with
  | some (remover, name) =>
      update w.captured remover (w.base.dynamicChildren.lookup name)
  | none => w.captured

/-- The removals that publish a withdrawal, after the step. -/
def Wire.dueAfter
    (w : Wire) (label : Label) (after : State) (remover : Remover) :
    Option Nat :=
  match w.base.withdraws? remover, after.withdraws? remover with
  | _, none => none
  | some _, some _ => w.due remover
  | none, some _ =>
      (w.capturedAfter label remover).filter fun record =>
        w.announced record

/-- The remover whose await returns in the step. -/
def Label.returns? : Label → Option Remover
  | .loop .returned => some .loop
  | .exit agent .returned _ _ => some (.exit agent)
  | .continuation record .returned => some (.continuation record)
  | _ => none

/-- What has been published after the step. -/
def Wire.publishedAfter (w : Wire) (label : Label) : List Broadcast :=
  match label.returns? with
  | some remover =>
      match w.base.withdraws? remover, w.due remover with
      | some name, some record =>
          .deregister name (w.epochOf record) :: w.published
      | _, _ => w.published
  | none => w.published

/-- The child that the step admits, and whether its spawn waits for it. -/
def State.admits (s : State) : Label → Option (Nat × Bool)
  | .loop .returned =>
      match s.loop with
      | .auditing spawn agent =>
          if spawn.spawner.key?.isSome then some (agent, spawn.wait) else none
      | _ => none
  | _ => none

/-- `on_stop` has cancelled the pending tasks. -/
def AnnounceStage.cancel : AnnounceStage → AnnounceStage
  | .absent => .absent
  | _ => .finished

/-- The step enters the end of `on_stop`. -/
def State.halts (s after : State) : Bool :=
  match s.loop, after.loop with
  | .gathering, _ => false
  | _, .gathering => true
  | _, _ => false

/-- The flag after the step: a continuation's announcement has returned. -/
def Wire.announcedAfter (w : Wire) (label : Label) (record : Nat) : Bool :=
  match label with
  | .continuation other .returned =>
      match w.base.continuation other with
      | .announcing => update w.announced other true record
      | _ => w.announced record
  | _ => w.announced record

/-- The announcing task of a record after a step of the base. -/
def Wire.announceTaskAfter
    (w : Wire) (label : Label) (after : State) (record : Nat) :
    AnnounceStage :=
  match w.base.admits label with
  | some (agent, false) => update w.announceTask agent .waiting record
  | _ =>
      if w.base.halts after then (w.announceTask record).cancel
      else w.announceTask record

/-- A step of the supervisor, followed by what it does to announcements. -/
def Wire.follow (w : Wire) (label : Label) (after : State) : Wire where
  base := after
  spawnEpoch :=
    if (w.base.admits label).isSome then w.spawnEpoch + 1 else w.spawnEpoch
  epochOf :=
    match w.base.admits label with
    | some (agent, _) => update w.epochOf agent (w.spawnEpoch + 1)
    | none => w.epochOf
  announced := w.announcedAfter label
  announceTask := w.announceTaskAfter label after
  sent := w.sent
  captured := w.capturedAfter label
  due := w.dueAfter label after
  published := w.publishedAfter label

/-- A continuation leaves its announcement only when it has published it. -/
def Wire.mayReturn (w : Wire) : Label → Bool
  | .continuation record .returned =>
      match w.base.continuation record with
      | .announcing => w.sent record
      | _ => true
  | _ => true

/-! ## Steps of the announcements -/

/-- The continuation of a record publishes its announcement. -/
def Wire.publish (w : Wire) (record : Nat) : Option Wire :=
  match w.base.continuation record, w.sent record with
  | .announcing, false =>
      some
        { w with
          sent := update w.sent record true
          published :=
            .register (w.base.agentName record) (w.epochOf record) ::
              w.published }
  | _, _ => none

/-- The wait of `_announce_after_start` is over. -/
def Wire.startAwaited (w : Wire) (record : Nat) : Bool :=
  w.base.startSettled record ||
    decide (w.base.childTasks (w.base.agentName record) ≠ some record)

/-- `_announce_after_start` after its wait. -/
def Wire.findRecord (w : Wire) (record : Nat) : AnnounceStage :=
  if (w.base.status record).ready then
    match w.base.dynamicChildren.lookup (w.base.agentName record) with
    | some found => .settling found
    | none => .finished
  else .finished

/-- The task of `_announce_after_start` resumes. -/
def Wire.announce
    (w : Wire) (record : Nat) (resumption : Resumption) : Option Wire :=
  match w.announceTask record, resumption with
  | .waiting, .returned =>
      if w.startAwaited record then
        some
          { w with
            announceTask :=
              update w.announceTask record (w.findRecord record) }
      else none
  | .settling found, .returned =>
      some
        { w with
          announceTask := update w.announceTask record (.publishing found)
          published :=
            .register (w.base.agentName record) (w.epochOf record) ::
              w.published }
  | .publishing found, .returned =>
      some
        { w with
          announced := update w.announced found true
          announceTask := update w.announceTask record .finished }
  | .settling _, .raised | .publishing _, .raised =>
      some { w with announceTask := update w.announceTask record .finished }
  | _, _ => none

/-- A step of the supervisor or of one of its announcements. -/
inductive WireLabel where
  | base (label : Label)
  | publish (record : Nat)
  | announce (record : Nat) (resumption : Resumption)

/-- One step of the supervisor, or of what it announces. -/
def wireStep (cfg : Config) (w : Wire) : WireLabel → Option Wire
  | .base label =>
      if w.mayReturn label
      then (step cfg w.base label).map (w.follow label)
      else none
  | .publish record => w.publish record
  | .announce record resumption => w.announce record resumption

/-- A supervisor that has just started and published nothing. -/
def wireInit : Wire := {}

end Civitas.Dynamic
