import Civitas.Dynamic.Quotas
import Civitas.Dynamic.SpawnReplies

/-!
# A failed spawn leaves nothing behind

A spawn that is refused has touched no table.  A spawn whose child fails to
start has claimed a name, subscribed the child and entered it; its
continuation and the handler of the child's exit take all of this out again,
in any order, and only the lifetime counts stay.

What a spawn leaves is compared with what it found, at its own name and in the
counters.  The comparison is for runs in which the other tasks leave these
alone; what the tasks of the spawn do at other names is nothing at all.
-/

namespace Civitas.Dynamic

open Civitas.CountTable
open Civitas.PyValue
open Civitas.Transition
open Function (update)

/-! ## What a spawn can change -/

/-- The entries of a name. -/
structure Slot where
  child : Option Nat
  owner : Option Owner
  handler : Option Nat

/-- The entries of a name, and the counters. -/
structure Footing extends Slot where
  total : Nat
  counts : Table Key Nat

/-- What is entered under a name. -/
def State.slot (s : State) (name : Name) : Slot where
  child := s.dynamicChildren.lookup name
  owner := s.registry name
  handler := s.handlers name

/-- What is entered under a name, and the counts of spawns. -/
def State.footing (s : State) (name : Name) : Footing where
  toSlot := s.slot name
  total := s.totalSpawns
  counts := s.spawnerTotalCounts

/-- The lifetime counts of one more spawn. -/
def Footing.admitted (start : Footing) (spawner : Key) : Footing :=
  { start with
    total := start.total + 1
    counts := bump start.counts spawner }

/-- The name is not in use. -/
structure Slot.Vacant (slot : Slot) : Prop where
  child : slot.child = none
  owner : slot.owner = none
  handler : slot.handler = none

/-- Entries may have been taken out. -/
structure Footing.Undone (start rest : Footing) : Prop where
  child : rest.child = start.child ∨ rest.child = none
  owner : rest.owner = start.owner ∨ rest.owner = none
  handler : rest.handler = start.handler ∨ rest.handler = none
  total : rest.total = start.total
  counts : rest.counts = start.counts

theorem Footing.Undone.refl (start : Footing) : start.Undone start :=
  ⟨.inl rfl, .inl rfl, .inl rfl, rfl, rfl⟩

theorem slot_deregister_of_ne
    (s : State) {name other : Name} (apart : other ≠ name) :
    (s.deregister name).slot other = s.slot other := by
  simp [State.slot, State.deregister, Function.update_of_ne apart]

theorem slot_removeChild_of_ne
    (s : State) {name other : Name} (apart : other ≠ name) :
    (s.removeChild name).slot other = s.slot other := by
  simp [State.slot, State.removeChild, AList.lookup_erase_ne apart]

theorem undone_deregister (s : State) (name : Name) :
    (s.footing name).Undone ((s.deregister name).footing name) :=
  ⟨.inl rfl, .inr (Function.update_self ..), .inl rfl, rfl, rfl⟩

theorem undone_removeChild (s : State) (name : Name) :
    (s.footing name).Undone ((s.removeChild name).footing name) :=
  ⟨.inr (AList.lookup_erase _ _), .inl rfl, .inl rfl, rfl, rfl⟩

section Steps

variable {cfg : Config} {s after : State}

theorem slot_beginExit
    (agent : Nat) (crashed : Bool) (now : Nat) (constructs : Bool) :
    (∀ other, other ≠ s.agentName agent →
      (s.beginExit cfg agent crashed now constructs).slot other =
        s.slot other) ∧
      (s.footing (s.agentName agent)).Undone
        ((s.beginExit cfg agent crashed now constructs).footing
          (s.agentName agent)) := by
  unfold State.beginExit
  simp only
  split
  · exact ⟨fun _ _ => rfl, .refl _⟩
  · split_ifs
    · exact
        ⟨fun _ apart => slot_deregister_of_ne s apart,
          undone_deregister s _⟩
    all_goals exact ⟨fun _ _ => rfl, .refl _⟩

/-- The handler of an exit works at its own name, and takes out. -/
theorem slot_resumeExit
    {agent now : Nat} {resumption : Resumption} {constructs : Bool}
    (resumed :
      s.resumeExit cfg agent resumption now constructs = some after) :
    (∀ other, other ≠ s.agentName agent → after.slot other = s.slot other) ∧
      ((s.exit agent).building = none →
        (s.footing (s.agentName agent)).Undone
          (after.footing (s.agentName agent))) := by
  unfold State.resumeExit at resumed
  simp only at resumed
  split at resumed
  case h_2 =>
    cases resumed
    rcases slot_beginExit agent _ now constructs with ⟨others, own⟩
    exact ⟨others, fun _ => own⟩
  all_goals rename_i stage
  all_goals repeat' split at resumed
  all_goals cases resumed
  all_goals first
    | exact ⟨fun _ _ => rfl, fun _ => .refl _⟩
    | exact
        ⟨fun _ apart => slot_removeChild_of_ne s apart,
          fun _ => undone_removeChild s _⟩
    | exact
        ⟨fun _ apart => slot_deregister_of_ne s apart,
          fun _ => undone_deregister s _⟩
    | skip
  · refine ⟨fun _ apart => ?_, fun _ => ?_⟩
    · simp [State.slot, State.setExit, Function.update_of_ne apart]
    · exact ⟨.inl rfl, .inl rfl, .inr (Function.update_self ..), rfl, rfl⟩
  · refine ⟨fun _ apart => ?_, fun unbuilt => ?_⟩
    · simp [State.slot, State.setExit, Function.update_of_ne apart]
    · rw [stage] at unbuilt
      cases unbuilt

/-- A continuation works at its own name, and takes out. -/
theorem slot_resumeContinuation
    {record : Nat} {resumption : Resumption}
    (resumed : s.resumeContinuation record resumption = some after) :
    (∀ other, other ≠ s.agentName record → after.slot other = s.slot other) ∧
      (s.footing (s.agentName record)).Undone
        (after.footing (s.agentName record)) := by
  unfold State.resumeContinuation at resumed
  simp only at resumed
  repeat' split at resumed
  all_goals cases resumed
  all_goals first
    | exact ⟨fun _ _ => rfl, .refl _⟩
    | exact
        ⟨fun _ apart => slot_removeChild_of_ne s apart,
          undone_removeChild s _⟩
    | exact
        ⟨fun _ apart => slot_deregister_of_ne s apart,
          undone_deregister s _⟩
    | skip
  refine ⟨fun _ apart => ?_, ?_⟩
  · simp [State.slot, State.setContinuation, Function.update_of_ne apart]
  · exact ⟨.inl rfl, .inl rfl, .inr (Function.update_self ..), rfl, rfl⟩

end Steps

/-! ## The tasks of a spawn -/

/-- The child was made for the request. -/
def State.MadeFor (s : State) (id record : Nat) : Prop :=
  s.spawnRequest record = ⟨id, true⟩

/-- The step is one of the loop, the continuation or the child's exit. -/
def Label.WorksFor (s : State) (id : Nat) : Label → Prop
  | .take _ | .consulted _ _ | .loop _ =>
      s.loop.spawns? = some ⟨id, true⟩
  | .exit record _ _ _ | .continuation record _ => s.MadeFor id record
  | _ => False

/-- The tasks of a spawn know its name, and make at most one child. -/
structure Traced
    (name : Name) (spawner : Value) (id : Nat) (s : State) : Prop where
  asked : ∀ spawn, s.loop.spawn? = some spawn →
    spawn.request = ⟨id, true⟩ →
      spawn.name = name ∧ spawn.spawner = spawner ∧
        ∀ record, ¬s.MadeFor id record
  refused : ∀ reason, s.loop = .replying ⟨id, true⟩ (.error reason) →
    ∀ record, ¬s.MadeFor id record
  answered : ∀ reason, Event.answered id (.error reason) ∈ s.log →
    ∀ record, ¬s.MadeFor id record
  made : ∀ record, s.MadeFor id record →
    record < s.next ∧ s.agentName record = name
  sole : ∀ record other, s.MadeFor id record → s.MadeFor id other →
    record = other

section Traced

variable {cfg : Config} {s after : State} {label : Label} {id : Nat}
  {name : Name} {spawner : Value}

theorem spawns_of_spawn
    {stage : LoopStage} {spawn : SpawnRequest}
    (found : stage.spawn? = some spawn) :
    stage.spawns? = some spawn.request := by
  cases stage <;> cases found <;> rfl

/-- An admission is the only step that makes a child for a request. -/
theorem madeFor_of_step
    {record : Nat} (stepped : step cfg s label = some after)
    (made : after.MadeFor id record) :
    s.MadeFor id record ∨
      ∃ spawn, s.loop = .auditing spawn record ∧
        spawn.request = ⟨id, true⟩ := by
  unfold State.MadeFor at made ⊢
  cases own : label.ofLoop with
  | false =>
      rw [(loopRests_of_step stepped own).spawnRequest] at made
      exact .inl made
  | true =>
      rcases frame_of_step stepped own with
        frame | ⟨spawn, agent, spawner, loop, _, key, rfl⟩
      · rw [frame.spawnRequest] at made
        exact .inl made
      · simp only [State.enroll, key] at made
        by_cases same : record = agent
        · subst same
          rw [Function.update_self] at made
          exact .inr ⟨spawn, loop, made⟩
        · rw [Function.update_of_ne same] at made
          exact .inl made

/-- A child that has ended stays the one made for its request. -/
theorem madeFor_of_done
    {record : Nat} {outcome : TaskOutcome} (kept : s.roster.Kept)
    (done : s.task record = .done outcome)
    (stepped : step cfg s label = some after)
    (made : s.MadeFor id record) : after.MadeFor id record := by
  unfold State.MadeFor at made ⊢
  cases own : label.ofLoop with
  | false =>
      rw [(loopRests_of_step stepped own).spawnRequest]
      exact made
  | true =>
      rcases frame_of_step stepped own with
        frame | ⟨spawn, agent, spawner, loop, _, key, rfl⟩
      · rw [frame.spawnRequest]
        exact made
      · have claimed : s.roster.errand = .claimed spawn.name agent := by
          simp only [State.roster, loop, LoopStage.errand]
        have idle : s.task agent = .notStarted :=
          (kept.claimed _ _ claimed).2.2.2.2.1
        have apart : record ≠ agent := by
          rintro rfl
          rw [idle] at done
          cases done
        simp only [State.enroll, key, Function.update_of_ne apart]
        exact made

/-- An error reply comes from the loop. -/
theorem error_of_step
    {reason : Refusal} (stepped : step cfg s label = some after)
    (answered : Event.answered id (.error reason) ∈ after.log) :
    Event.answered id (.error reason) ∈ s.log ∨
      label = .loop .returned ∧
        s.loop = .replying ⟨id, true⟩ (.error reason) := by
  rcases step_logs stepped with ⟨new, grown, _, emitted⟩
  rw [grown] at answered
  rcases List.mem_append.mp answered with added | old
  · generalize event : Event.answered id (.error reason) = found at added
    cases emitted _ added with
    | replied request answer replying correlated =>
        rcases request with ⟨number, reply⟩
        cases event
        cases correlated
        exact .inr ⟨rfl, replying⟩
    | settled record ok _ =>
        cases ok <;> cases event
    | raised => cases event
    | tookRemoval => cases event
    | spawned => cases event
    | notified => cases event
  · exact .inl old

/-- The loop works on the request after a step only if it did before. -/
theorem handles_of_spawns
    (keyed : Keyed s) (older : id < s.requests)
    (permitted : sound cfg s label = true)
    (stepped : step cfg s label = some after) (own : label.ofLoop = true)
    (spawns : after.loop.spawns? = some ⟨id, true⟩) :
    Handles s ⟨id, true⟩ label after := by
  rcases spawns_of_step stepped spawns with before | ⟨message, _, _, same⟩
  · exact
      handles_of_step keyed (spawnsInFull_of_sound permitted) stepped own
        before
  · simp only [Request.mk.injEq] at same
    omega

/-- The loop answers a spawn with an error only while it has the spawn. -/
theorem Account.spawns_of_replying
    {answer : Answer} (account : Account id s)
    (loop : s.loop = .replying ⟨id, true⟩ answer) :
    s.loop.spawns? = some ⟨id, true⟩ := by
  have works :
      s.loop.spawns? = some ⟨id, true⟩ ∨
        s.loop.serves? = some ⟨id, true⟩ := by
    rw [loop]
    cases kind : answer.ofRemoval with
    | true => exact .inr (by simp [LoopStage.serves?, kind])
    | false => exact .inl (by simp [LoopStage.spawns?, kind])
  cases account with
  | loop spawns _ _ => exact spawns
  | task _ elsewhere => exact absurd rfl (elsewhere _ works)
  | settled elsewhere => exact absurd rfl (elsewhere _ works)

/-- The loop has a spawn that has not been answered. -/
theorem Account.unanswered_of_spawns
    {answer : Answer} (account : Account id s)
    (spawns : s.loop.spawns? = some ⟨id, true⟩) :
    Event.answered id answer ∉ s.log := by
  intro within
  cases account with
  | loop _ _ unanswered =>
      have kept : Event.answered id answer ∈ s.log.filter (Event.answers id) :=
        List.mem_filter.mpr ⟨within, by simp [Event.answers]⟩
      rw [unanswered] at kept
      cases kept
  | task _ elsewhere => exact elsewhere _ (.inl spawns) rfl
  | settled elsewhere => exact elsewhere _ (.inl spawns) rfl

theorem traced_asked
    (keyed : Keyed s) (older : id < s.requests)
    (traced : Traced name spawner id s) (permitted : sound cfg s label = true)
    (stepped : step cfg s label = some after) {spawn : SpawnRequest}
    (found : after.loop.spawn? = some spawn)
    (same : spawn.request = ⟨id, true⟩) :
    spawn.name = name ∧ spawn.spawner = spawner ∧
      ∀ record, ¬after.MadeFor id record := by
  cases own : label.ofLoop with
  | false =>
      have rests := loopRests_of_step stepped own
      unfold State.MadeFor
      rw [rests.loop] at found
      rw [rests.spawnRequest]
      exact traced.asked spawn found same
  | true =>
      have spawns : after.loop.spawns? = some ⟨id, true⟩ := by
        rw [spawns_of_spawn found, same]
      cases handles_of_spawns keyed older permitted stepped own spawns with
      | denies => cases found
      | claims other loop _ _ _ =>
          cases found
          exact traced.asked spawn (by rw [loop]; rfl) same
      | subscribes other agent loop _ =>
          cases found
          exact traced.asked spawn (by rw [loop]; rfl) same
      | admits other agent spawner _ _ key =>
          cases waits : other.wait <;>
            simp [State.enroll, key, waits, LoopStage.spawn?] at found
      | replies => cases found

theorem traced_refused
    (keyed : Keyed s) (older : id < s.requests)
    (reached : Account id after)
    (traced : Traced name spawner id s) (permitted : sound cfg s label = true)
    (stepped : step cfg s label = some after) {reason : Refusal}
    (refusing : after.loop = .replying ⟨id, true⟩ (.error reason))
    (record : Nat) : ¬after.MadeFor id record := by
  cases own : label.ofLoop with
  | false =>
      have rests := loopRests_of_step stepped own
      unfold State.MadeFor
      rw [rests.spawnRequest]
      rw [rests.loop] at refusing
      exact traced.refused reason refusing record
  | true =>
      have spawns := reached.spawns_of_replying refusing
      cases handles_of_spawns keyed older permitted stepped own spawns with
      | denies spawn _ _ _ loop same =>
          exact (traced.asked spawn (by rw [loop]; rfl) same).2.2 record
      | claims => cases refusing
      | subscribes => cases refusing
      | admits other agent spawner _ _ key =>
          cases waits : other.wait <;>
            simp [State.enroll, key, waits] at refusing
      | replies => cases refusing

theorem step_traced
    (kept : s.roster.Kept) (keyed : Keyed s) (older : id < s.requests)
    (account : Account id s) (traced : Traced name spawner id s)
    (permitted : sound cfg s label = true)
    (stepped : step cfg s label = some after) :
    Traced name spawner id after := by
  have reached := account_of_step kept keyed older account permitted stepped
  have fresh {record : Nat} (made : after.MadeFor id record) :
      s.MadeFor id record ∨
        (∀ other, ¬s.MadeFor id other) ∧
          ∃ spawn, s.loop = .auditing spawn record ∧
            spawn.request = ⟨id, true⟩ ∧ spawn.name = name := by
    rcases madeFor_of_step stepped made with before | ⟨spawn, loop, same⟩
    · exact .inl before
    · rcases traced.asked spawn (by rw [loop]; rfl) same with
      ⟨named, _, none⟩
      exact .inr ⟨none, spawn, loop, same, named⟩
  constructor
  · intro spawn found same
    exact traced_asked keyed older traced permitted stepped found same
  · intro reason refusing record
    exact
      traced_refused keyed older reached traced permitted stepped refusing
        record
  · intro reason answered record made
    rcases error_of_step stepped answered with old | ⟨_, replying⟩
    · rcases fresh made with before | ⟨_, spawn, loop, same, _⟩
      · exact traced.answered reason old record before
      · refine account.unanswered_of_spawns ?_ old
        rw [loop, ← same]
        rfl
    · rcases fresh made with before | ⟨_, spawn, loop, _⟩
      · exact traced.refused reason replying record before
      · rw [replying] at loop
        cases loop
  · intro record made
    have grows := (step_motion stepped).grows
    have born : record < s.next ∧ s.agentName record = name := by
      rcases fresh made with before | ⟨_, spawn, loop, _, named⟩
      · exact traced.made record before
      · have claimed : s.roster.errand = .claimed spawn.name record := by
          simp only [State.roster, loop, LoopStage.errand]
        have known := kept.claimed _ _ claimed
        exact ⟨known.1, known.2.1.trans named⟩
    refine ⟨Nat.lt_of_lt_of_le born.1 grows.next, ?_⟩
    rw [(named_of_step stepped born.1).1]
    exact born.2
  · intro record other made also
    rcases fresh made with before | ⟨none, spawn, loop, _⟩
    · rcases fresh also with before' | ⟨none, _⟩
      · exact traced.sole record other before before'
      · exact absurd before (none record)
    · rcases fresh also with before' | ⟨_, spawn', loop', _⟩
      · exact absurd before' (none other)
      · rw [loop] at loop'
        cases loop'
        rfl

/-- The tasks of a spawn leave the entries of other names alone. -/
theorem slot_of_worksFor
    (keyed : Keyed s) (traced : Traced name spawner id s)
    (permitted : sound cfg s label = true)
    (stepped : step cfg s label = some after)
    (works : label.WorksFor s id) {other : Name} (apart : other ≠ name) :
    after.slot other = s.slot other := by
  have byLoop (own : label.ofLoop = true)
      (spawns : s.loop.spawns? = some ⟨id, true⟩) :
      after.slot other = s.slot other := by
    cases handles_of_step keyed (spawnsInFull_of_sound permitted) stepped
      own spawns with
    | denies => rfl
    | claims spawn loop same =>
        have named := (traced.asked spawn (by rw [loop]; rfl) same).1
        rw [← named] at apart
        simp [State.slot, State.claim, Function.update_of_ne apart]
    | subscribes spawn agent loop same =>
        have named := (traced.asked spawn (by rw [loop]; rfl) same).1
        rw [← named] at apart
        simp [State.slot, Function.update_of_ne apart]
    | admits spawn agent spawner loop same key =>
        have named := (traced.asked spawn (by rw [loop]; rfl) same).1
        rw [← named] at apart
        simp [State.slot, State.enroll, key, AList.lookup_insert_ne apart]
    | replies => rfl
  cases label with
  | take message => exact byLoop rfl works
  | consulted approved constructs => exact byLoop rfl works
  | loop resumption => exact byLoop rfl works
  | exit record resumption now constructs =>
      rw [← (traced.made record works).2] at apart
      exact (slot_resumeExit stepped).1 other apart
  | continuation record resumption =>
      rw [← (traced.made record works).2] at apart
      exact (slot_resumeContinuation stepped).1 other apart
  | child agent event => cases works
  | foreign name joins => cases works

end Traced

/-! ## Taking a child out -/

/-- How much of its child a continuation has taken out. -/
def SpawnStage.cleared : SpawnStage → Nat
  | .unsubscribing => 1
  | .draining => 2
  | .leaving | .replying false => 3
  | _ => 0

/-- The first entries have been taken out. -/
structure Slot.Cleared (slot : Slot) (steps : Nat) : Prop where
  owner : 1 ≤ steps → slot.owner = none
  handler : 2 ≤ steps → slot.handler = none
  child : 3 ≤ steps → slot.child = none

/-- What is left of a child that never reached its loop. -/
structure Undoing
    (start : Footing) (spawner : Value) (record : Nat) (rest : Footing) :
    Prop where
  vacant : start.toSlot.Vacant
  child : rest.child = some record ∨ rest.child = none
  owner : rest.owner = some .mine ∨ rest.owner = none
  handler : rest.handler = some record ∨ rest.handler = none
  counted : ∃ key, spawner.key? = some key ∧
    rest.total = start.total + 1 ∧ rest.counts = bump start.counts key

/-- The child has ended and never reached its loop. -/
structure State.Stillborn (s : State) (record : Nat) : Prop where
  done : ∃ outcome, s.task record = .done outcome
  unreached : s.reachedLoop record = false

theorem Undoing.undone
    {start rest later : Footing} {spawner : Value} {record : Nat}
    (undoing : Undoing start spawner record rest)
    (undone : rest.Undone later) : Undoing start spawner record later where
  vacant := undoing.vacant
  child := by
    rcases undone.child with same | none
    · rw [same]
      exact undoing.child
    · exact .inr none
  owner := by
    rcases undone.owner with same | none
    · rw [same]
      exact undoing.owner
    · exact .inr none
  handler := by
    rcases undone.handler with same | none
    · rw [same]
      exact undoing.handler
    · exact .inr none
  counted := by
    rw [undone.total, undone.counts]
    exact undoing.counted

theorem Slot.Cleared.undone
    {rest later : Footing} {steps : Nat}
    (cleared : rest.toSlot.Cleared steps) (undone : rest.Undone later) :
    later.toSlot.Cleared steps where
  owner := by
    intro enough
    rcases undone.owner with same | none
    · rw [same]
      exact cleared.owner enough
    · exact none
  handler := by
    intro enough
    rcases undone.handler with same | none
    · rw [same]
      exact cleared.handler enough
    · exact none
  child := by
    intro enough
    rcases undone.child with same | none
    · rw [same]
      exact cleared.child enough
    · exact none

/-- When all is taken out, only the lifetime counts stay. -/
theorem Undoing.restored
    {start rest : Footing} {spawner : Value} {record : Nat}
    (undoing : Undoing start spawner record rest)
    (cleared : rest.toSlot.Cleared 3) :
    ∃ key, spawner.key? = some key ∧ rest = start.admitted key := by
  rcases undoing.counted with ⟨key, counted, total, counts⟩
  refine ⟨key, counted, ?_⟩
  rcases start with ⟨⟨child, owner, handler⟩, startTotal, startCounts⟩
  rcases rest with ⟨⟨child', owner', handler'⟩, restTotal, restCounts⟩
  cases undoing.vacant.child
  cases undoing.vacant.owner
  cases undoing.vacant.handler
  cases cleared.owner (by decide)
  cases cleared.handler (by decide)
  cases cleared.child (by decide)
  cases total
  cases counts
  rfl

section Clearing

variable {cfg : Config} {s after : State} {label : Label} {record : Nat}

theorem reachedLoop_of_step
    (stepped : step cfg s label = some after) :
    after.reachedLoop record = s.reachedLoop record ∨
      s.task record = .live ∧ after.reachedLoop record = true := by
  have motion := step_motion stepped
  change after.roster.reachedLoop record = s.roster.reachedLoop record ∨
    s.roster.task record = .live ∧ after.roster.reachedLoop record = true
  generalize after.roster = b at motion
  cases motion with
  | quiet quiet => exact quiet.reachedLoop record
  | claim => exact .inl rfl
  | enroll => exact .inl rfl
  | build => exact .inl rfl
  | start => exact .inl rfl
  | publish => exact .inl rfl

theorem unreached_of_step
    (stepped : step cfg s label = some after)
    (unreached : after.reachedLoop record = false) :
    s.reachedLoop record = false := by
  rcases reachedLoop_of_step stepped with same | ⟨_, reached⟩
  · rw [← same]
    exact unreached
  · rw [unreached] at reached
    cases reached

theorem State.Stillborn.of_step
    (kept : s.roster.Kept) (stillborn : s.Stillborn record)
    (stepped : step cfg s label = some after) : after.Stillborn record := by
  rcases stillborn.done with ⟨outcome, done⟩
  refine ⟨⟨outcome, done_of_step kept stepped done⟩, ?_⟩
  rcases reachedLoop_of_step stepped with same | ⟨live, _⟩
  · rw [same]
    exact stillborn.unreached
  · rw [done] at live
    cases live

/-- A child that never reached its loop is not replaced. -/
theorem unbuilt_of_unreached
    (kept : s.roster.Kept) (unreached : s.reachedLoop record = false) :
    (s.exit record).building = none := by
  cases built : (s.exit record).building with
  | none => rfl
  | some pair =>
      have reached := (kept.staged.building record pair.1 pair.2 built).1
      have idle : s.roster.reachedLoop record = false := unreached
      rw [idle] at reached
      cases reached

/-- A continuation that tears its child down takes its entries out. -/
theorem cleared_of_continuation
    {name : Name} (named : s.agentName record = name)
    (unreached : tearsUnreached s (.continuation record .returned) = true)
    (torn : 0 < (s.continuation record).cleared →
      s.Stillborn record ∧
        (s.slot name).Cleared (s.continuation record).cleared)
    (stepped :
      step cfg s (.continuation record .returned) = some after)
    (tearing : 0 < (after.continuation record).cleared) :
    s.Stillborn record ∧
      (after.slot name).Cleared (after.continuation record).cleared := by
  subst named
  cases stage : s.continuation record with
  | waiting =>
      simp only [step, State.resumeContinuation, stage] at stepped
      split_ifs at stepped with unsettled ready
      · cases stepped
        simp [State.setContinuation, SpawnStage.cleared] at tearing
      · have idle : s.reachedLoop record = false := by
          simpa [tearsUnreached, stage, ready] using unreached
        split at stepped
        · rename_i outcome done
          cases stepped
          refine ⟨⟨⟨outcome, done⟩, idle⟩, ?_⟩
          simp only [State.setContinuation, State.deregister,
            Function.update_self, SpawnStage.cleared]
          refine ⟨fun _ => ?_, fun more => ?_, fun more => ?_⟩
          · exact Function.update_self ..
          · exact absurd more (by decide)
          · exact absurd more (by decide)
        · cases stepped
          simp [State.setContinuation, SpawnStage.cleared] at tearing
  | unsubscribing =>
      rw [stage] at torn
      rcases torn (by decide) with ⟨stillborn, cleared⟩
      simp only [step, State.resumeContinuation, stage,
        Option.some.injEq] at stepped
      subst stepped
      refine ⟨stillborn, ?_⟩
      simp only [State.setContinuation, Function.update_self,
        SpawnStage.cleared]
      refine ⟨fun _ => ?_, fun _ => ?_, fun more => ?_⟩
      · exact cleared.owner (by decide)
      · exact Function.update_self ..
      · exact absurd more (by decide)
  | draining =>
      rw [stage] at torn
      rcases torn (by decide) with ⟨stillborn, cleared⟩
      simp only [step, State.resumeContinuation, stage,
        Option.some.injEq] at stepped
      subst stepped
      refine ⟨stillborn, ?_⟩
      simp only [State.setContinuation, State.removeChild,
        Function.update_self, SpawnStage.cleared]
      refine ⟨fun _ => ?_, fun _ => ?_, fun _ => ?_⟩
      · exact cleared.owner (by decide)
      · exact cleared.handler (by decide)
      · exact AList.lookup_erase _ _
  | leaving =>
      rw [stage] at torn
      rcases torn (by decide) with ⟨stillborn, cleared⟩
      simp only [step, State.resumeContinuation, stage,
        Option.some.injEq] at stepped
      subst stepped
      refine ⟨stillborn, ?_⟩
      simp only [State.setContinuation, Function.update_self]
      exact cleared
  | announcing =>
      simp only [step, State.resumeContinuation, stage,
        Option.some.injEq] at stepped
      subst stepped
      simp [State.setContinuation, SpawnStage.cleared] at tearing
  | replying ok =>
      simp only [step, State.resumeContinuation, stage,
        Option.some.injEq] at stepped
      subst stepped
      simp [State.setContinuation, SpawnStage.cleared] at tearing
  | absent => simp [step, State.resumeContinuation, stage] at stepped
  | finished => simp [step, State.resumeContinuation, stage] at stepped

end Clearing

/-! ## What a spawn has changed so far -/

/-- What a spawn has changed, stage by stage. -/
structure Restoring
    (start : Footing) (name : Name) (spawner : Value) (id : Nat)
    (s : State) : Prop where
  consulting : ∀ spawn, s.loop = .consulting spawn →
    spawn.request = ⟨id, true⟩ →
      s.footing name = start ∧ start.child = none
  subscribing : ∀ spawn agent, s.loop = .subscribing spawn agent →
    spawn.request = ⟨id, true⟩ →
      start.toSlot.Vacant ∧
        s.footing name = { start with owner := some .mine }
  auditing : ∀ spawn agent, s.loop = .auditing spawn agent →
    spawn.request = ⟨id, true⟩ →
      start.toSlot.Vacant ∧
        s.footing name =
          { start with owner := some .mine, handler := some agent }
  refusing : ∀ reason, s.loop = .replying ⟨id, true⟩ (.error reason) →
    s.footing name = start
  honest : s.loop ≠ .replying ⟨id, true⟩ .startFailed
  refused : ∀ reason, Event.answered id (.error reason) ∈ s.log →
    s.footing name = start
  undoing : ∀ record, s.MadeFor id record →
    s.reachedLoop record = false → Undoing start spawner record (s.footing name)
  torn : ∀ record, s.MadeFor id record →
    0 < (s.continuation record).cleared →
      s.Stillborn record ∧
        (s.slot name).Cleared (s.continuation record).cleared
  failed : Event.answered id .startFailed ∈ s.log →
    ∃ record, s.MadeFor id record ∧ s.Stillborn record ∧
      (s.slot name).Cleared 3

/-- The loop has nothing more to change for the request. -/
structure Detached (id : Nat) (stage : LoopStage) : Prop where
  spawn : ∀ spawn, stage.spawn? = some spawn → spawn.request ≠ ⟨id, true⟩
  reply : ∀ answer, stage = .replying ⟨id, true⟩ answer → answer = .ok

theorem Restoring.detached
    {start : Footing} {name : Name} {spawner : Value} {id : Nat}
    {s : State}
    (detached : Detached id s.loop)
    (refused : ∀ reason, Event.answered id (.error reason) ∈ s.log →
      s.footing name = start)
    (undoing : ∀ record, s.MadeFor id record →
      s.reachedLoop record = false →
        Undoing start spawner record (s.footing name))
    (torn : ∀ record, s.MadeFor id record →
      0 < (s.continuation record).cleared →
        s.Stillborn record ∧
          (s.slot name).Cleared (s.continuation record).cleared)
    (failed : Event.answered id .startFailed ∈ s.log →
      ∃ record, s.MadeFor id record ∧ s.Stillborn record ∧
        (s.slot name).Cleared 3) :
    Restoring start name spawner id s where
  consulting := by
    intro spawn loop same
    exact absurd same (detached.spawn spawn (by rw [loop]; rfl))
  subscribing := by
    intro spawn agent loop same
    exact absurd same (detached.spawn spawn (by rw [loop]; rfl))
  auditing := by
    intro spawn agent loop same
    exact absurd same (detached.spawn spawn (by rw [loop]; rfl))
  refusing := by
    intro reason loop
    cases detached.reply _ loop
  honest := by
    intro loop
    cases detached.reply _ loop
  refused := refused
  undoing := undoing
  torn := torn
  failed := failed

theorem detached_of_elsewhere
    {id : Nat} {s : State} (elsewhere : Elsewhere id s) :
    Detached id s.loop where
  spawn := by
    intro spawn found same
    exact
      elsewhere spawn.request (.inl (spawns_of_spawn found)) (by rw [same])
  reply := by
    intro answer loop
    refine absurd rfl (elsewhere ⟨id, true⟩ ?_)
    rw [loop]
    cases kind : answer.ofRemoval with
    | true => exact .inr (by simp [LoopStage.serves?, kind])
    | false => exact .inl (by simp [LoopStage.spawns?, kind])

/-- The step leaves the name and the counters alone, or is the spawn's own. -/
def LeavesAlone
    (cfg : Config) (name : Name) (id : Nat) (s : State) (label : Label) :
    Prop :=
  label.WorksFor s id ∨
    ∀ after, step cfg s label = some after →
      after.footing name = s.footing name

section Restoring

variable {cfg : Config} {s after : State} {label : Label} {id : Nat}
  {name : Name} {spawner : Value} {start : Footing}

/-- The reply of a failed start comes from the continuation. -/
theorem failed_of_step
    (account : Account id s) (restoring : Restoring start name spawner id s)
    (stepped : step cfg s label = some after)
    (answered : Event.answered id .startFailed ∈ after.log) :
    Event.answered id .startFailed ∈ s.log ∨
      ∃ record, label = .continuation record .returned ∧
        s.MadeFor id record ∧ s.continuation record = .replying false := by
  rcases step_logs stepped with ⟨new, grown, _, emitted⟩
  rw [grown] at answered
  rcases List.mem_append.mp answered with added | old
  · generalize event : Event.answered id .startFailed = found at added
    cases emitted _ added with
    | replied request answer replying correlated =>
        rcases request with ⟨number, reply⟩
        cases event
        cases correlated
        exact absurd replying restoring.honest
    | settled record ok replying =>
        have failed : ok = false ∧ (s.spawnRequest record).id = id := by
          cases ok with
          | true => cases event
          | false =>
              cases event
              exact ⟨rfl, rfl⟩
        rcases failed with ⟨rfl, number⟩
        have pending : (s.continuation record).pending = true := by
          rw [replying]
          rfl
        refine .inr ⟨record, rfl, ?_, replying⟩
        cases account with
        | loop _ unclaimed => exact absurd number (unclaimed record pending)
        | settled _ unclaimed =>
            exact absurd number (unclaimed record pending)
        | task own _ _ made sole =>
            rw [sole record pending number]
            exact made
    | raised => cases event
    | tookRemoval => cases event
    | spawned => cases event
    | notified => cases event
  · exact .inl old

theorem footing_mk (s : State) (name : Name) :
    s.footing name =
      { child := s.dynamicChildren.lookup name
        owner := s.registry name
        handler := s.handlers name
        total := s.totalSpawns
        counts := s.spawnerTotalCounts } := rfl

theorem restoring_of_claim
    {spawn : SpawnRequest} (account : Account id s)
    (traced : Traced name spawner id s)
    (restoring : Restoring start name spawner id s)
    (loop : s.loop = .consulting spawn)
    (same : spawn.request = ⟨id, true⟩)
    (fresh : s.registry spawn.name = none)
    (admissible : s.admissible spawn = true) :
    Restoring start name spawner id
      (State.claim { s with currentSpawner := none } spawn) := by
  rcases traced.asked spawn (by rw [loop]; rfl) same with
      ⟨named, _, none⟩
  have spawns : s.loop.spawns? = some ⟨id, true⟩ := by
    rw [loop, ← same]
    rfl
  rcases restoring.consulting spawn loop same with ⟨found, absent⟩
  have vacant : start.toSlot.Vacant := by
    refine ⟨absent, ?_, ?_⟩
    · rw [← found, ← named]
      exact fresh
    · rw [← found, ← named]
      simp only [State.admissible, Bool.and_eq_true,
        Option.isNone_iff_eq_none] at admissible
      exact admissible.2
  refine
    { consulting := fun _ other => by cases other
      subscribing := ?_
      auditing := fun _ _ other => by cases other
      refusing := fun _ other => by cases other
      honest := fun other => by cases other
      refused := fun _ within =>
        absurd within (account.unanswered_of_spawns spawns)
      undoing := fun record made => absurd made (none record)
      torn := fun record made => absurd made (none record)
      failed := fun within =>
        absurd within (account.unanswered_of_spawns spawns) }
  intro other agent _ _
  refine ⟨vacant, ?_⟩
  subst found
  simp [footing_mk, State.claim, named]

theorem restoring_of_subscription
    {spawn : SpawnRequest} {agent : Nat} (account : Account id s)
    (traced : Traced name spawner id s)
    (restoring : Restoring start name spawner id s)
    (loop : s.loop = .subscribing spawn agent)
    (same : spawn.request = ⟨id, true⟩) :
    Restoring start name spawner id
      { s with
        handlers := update s.handlers spawn.name (some agent)
        loop := .auditing spawn agent } := by
  rcases traced.asked spawn (by rw [loop]; rfl) same with
      ⟨named, _, none⟩
  have spawns : s.loop.spawns? = some ⟨id, true⟩ := by
    rw [loop, ← same]
    rfl
  rcases restoring.subscribing spawn agent loop same with ⟨vacant, found⟩
  refine
    { consulting := by simp
      subscribing := by simp
      auditing := ?_
      refusing := by simp
      honest := by simp
      refused := fun _ within =>
        absurd within (account.unanswered_of_spawns spawns)
      undoing := fun record made => absurd made (none record)
      torn := fun record made => absurd made (none record)
      failed := fun within =>
        absurd within (account.unanswered_of_spawns spawns) }
  intro other child entered _
  cases entered
  refine ⟨vacant, ?_⟩
  rw [footing_mk] at found ⊢
  simp only [Footing.mk.injEq, Slot.mk.injEq] at found
  simp [named, found]

theorem restoring_of_admission
    {spawn : SpawnRequest} {agent : Nat} {counted : Key}
    (kept : s.roster.Kept) (account : Account id s)
    (traced : Traced name spawner id s)
    (restoring : Restoring start name spawner id s)
    (loop : s.loop = .auditing spawn agent)
    (same : spawn.request = ⟨id, true⟩)
    (key : spawn.spawner.key? = some counted) :
    Restoring start name spawner id (s.enroll spawn agent) := by
  rcases traced.asked spawn (by rw [loop]; rfl) same with
      ⟨named, charged, none⟩
  have spawns : s.loop.spawns? = some ⟨id, true⟩ := by
    rw [loop, ← same]
    rfl
  rcases restoring.auditing spawn agent loop same with ⟨vacant, found⟩
  have quiet {answer : Answer} :
      Event.answered id answer ∉ (s.enroll spawn agent).log := by
    simp only [State.enroll, key, List.mem_cons, reduceCtorEq, false_or]
    exact account.unanswered_of_spawns spawns
  have sole {record : Nat}
      (made : (s.enroll spawn agent).MadeFor id record) :
      record = agent := by
    by_contra apart
    simp only [State.MadeFor, State.enroll, key,
      Function.update_of_ne apart] at made
    exact none record made
  have detached : Detached id (s.enroll spawn agent).loop := by
    cases waits : spawn.wait with
    | true =>
        simp only [State.enroll, key, waits, if_true]
        constructor
        · intro spawn consulting
          cases consulting
        · intro answer replying
          cases replying
    | false =>
        simp only [State.enroll, key, waits, Bool.false_eq_true, if_false]
        constructor
        · intro spawn consulting
          cases consulting
        intro answer replying
        simp only [LoopStage.replying.injEq] at replying
        exact replying.2.symm
  refine
    .detached detached (fun _ within => absurd within quiet) ?_ ?_
      (fun within => absurd within quiet)
  · intro record made _
    rw [sole made]
    rw [footing_mk] at found
    simp only [Footing.mk.injEq, Slot.mk.injEq] at found
    refine ⟨vacant, ?_, ?_, ?_, counted, ?_, ?_, ?_⟩
    · left
      simp [State.footing, State.slot, State.enroll, key, named]
    · left
      simpa [State.footing, State.slot, State.enroll, key] using found.1.2.1
    · left
      simpa [State.footing, State.slot, State.enroll, key] using found.1.2.2
    · rw [← charged]
      exact key
    · simpa [State.footing, State.enroll, key] using found.2.1
    · simp [State.footing, State.enroll, key, found.2.2]
  · intro record made tearing
    rw [sole made] at tearing
    have blank := absent_of_auditing kept loop
    cases waits : spawn.wait with
    | true =>
        simp [State.enroll, key, waits, SpawnStage.cleared] at tearing
    | false =>
        simp [State.enroll, key, waits, blank, SpawnStage.cleared]
          at tearing

/-- What the loop does for the spawn, stage by stage. -/
theorem restoring_of_handles
    (kept : s.roster.Kept) (account : Account id s)
    (traced : Traced name spawner id s)
    (restoring : Restoring start name spawner id s)
    (handled : Handles s ⟨id, true⟩ label after) :
    Restoring start name spawner id after := by
  cases handled with
  | denies spawn approved constructs reason loop same =>
      have none := (traced.asked spawn (by rw [loop]; rfl) same).2.2
      have spawns : s.loop.spawns? = some ⟨id, true⟩ := by
        rw [loop, ← same]
        rfl
      exact
        { consulting := by rintro _ ⟨⟩
          subscribing := by rintro _ _ ⟨⟩
          auditing := by rintro _ _ ⟨⟩
          refusing := fun _ _ => (restoring.consulting spawn loop same).1
          honest := by rintro ⟨⟩
          refused := fun _ within =>
            absurd within (account.unanswered_of_spawns spawns)
          undoing := fun record made => absurd made (none record)
          torn := fun record made => absurd made (none record)
          failed := fun within =>
            absurd within (account.unanswered_of_spawns spawns) }
  | claims spawn loop same fresh admissible =>
      exact
        restoring_of_claim account traced restoring loop same fresh
          admissible
  | subscribes spawn agent loop same =>
      exact restoring_of_subscription account traced restoring loop same
  | admits spawn agent counted loop same key =>
      exact
        restoring_of_admission kept account traced restoring loop same key
  | replies answer loop other =>
      have spawns := account.spawns_of_replying loop
      refine
        .detached ⟨by rintro _ ⟨⟩, by rintro _ ⟨⟩⟩ ?_ restoring.undoing ?_ ?_
      · intro reason within
        simp only [State.answer, if_true, List.mem_cons,
          Event.answered.injEq, true_and] at within
        rcases within with same | old
        · exact restoring.refusing reason (by rw [loop, same])
        · exact restoring.refused reason old
      · intro record made tearing
        rcases restoring.torn record made tearing with ⟨stillborn, cleared⟩
        exact ⟨⟨stillborn.done, stillborn.unreached⟩, cleared⟩
      · intro within
        simp only [State.answer, if_true, List.mem_cons,
          Event.answered.injEq, true_and] at within
        rcases within with same | old
        · exact absurd (by rw [loop, same]) restoring.honest
        · rcases restoring.failed old with ⟨record, made, stillborn, cleared⟩
          exact
            ⟨record, made, ⟨stillborn.done, stillborn.unreached⟩, cleared⟩

/-- The loop is past a spawn that has made its child. -/
theorem detached_of_made
    {record : Nat} (account : Account id s) (traced : Traced name spawner id s)
    (restoring : Restoring start name spawner id s)
    (made : s.MadeFor id record) :
    Detached id s.loop where
  spawn := by
    intro spawn found same
    exact (traced.asked spawn found same).2.2 record made
  reply := by
    intro answer loop
    have spawns := account.spawns_of_replying loop
    cases answer with
    | ok => rfl
    | startFailed => exact absurd loop restoring.honest
    | error reason => exact absurd made (traced.refused reason loop record)
    | removed gone =>
        rw [loop] at spawns
        cases spawns

/-- What the handler of the child's exit does is taken out. -/
theorem restoring_of_exit
    {record now : Nat} {resumption : Resumption} {constructs : Bool}
    (kept : s.roster.Kept) (account : Account id s)
    (traced : Traced name spawner id s)
    (restoring : Restoring start name spawner id s)
    (made : s.MadeFor id record)
    (stepped :
      step cfg s (.exit record resumption now constructs) = some after) :
    Restoring start name spawner id after := by
  have rests := loopRests_of_step stepped rfl
  have requests {other : Nat} (also : after.MadeFor id other) :
      other = record := by
    unfold State.MadeFor at also
    rw [rests.spawnRequest] at also
    exact traced.sole other record also made
  have undone (unreached : s.reachedLoop record = false) :
      (s.footing name).Undone (after.footing name) := by
    rw [← (traced.made record made).2]
    exact (slot_resumeExit stepped).2 (unbuilt_of_unreached kept unreached)
  have same : after.continuation record = s.continuation record :=
    continuation_of_aside stepped rfl (by simp)
  refine .detached ?_ ?_ ?_ ?_ ?_
  · rw [rests.loop]
    exact detached_of_made account traced restoring made
  · intro reason within
    rcases error_of_step stepped within with old | ⟨taken, _⟩
    · exact absurd made (traced.answered reason old record)
    · cases taken
  · intro other also unreached
    cases requests also
    have idle := unreached_of_step stepped unreached
    exact (restoring.undoing record made idle).undone (undone idle)
  · intro other also tearing
    cases requests also
    rw [same] at tearing ⊢
    rcases restoring.torn record made tearing with ⟨stillborn, cleared⟩
    exact
      ⟨stillborn.of_step kept stepped,
        Slot.Cleared.undone cleared (undone stillborn.unreached)⟩
  · intro within
    rcases failed_of_step account restoring stepped within with
      old | ⟨_, taken, _⟩
    · rcases restoring.failed old with ⟨other, also, stillborn, cleared⟩
      cases traced.sole other record also made
      refine ⟨record, ?_, stillborn.of_step kept stepped, ?_⟩
      · unfold State.MadeFor
        rw [rests.spawnRequest]
        exact made
      · exact Slot.Cleared.undone cleared (undone stillborn.unreached)
    · cases taken

/-- What the continuation of the child does is taken out. -/
theorem restoring_of_continuation
    {record : Nat} (kept : s.roster.Kept) (account : Account id s)
    (traced : Traced name spawner id s)
    (restoring : Restoring start name spawner id s)
    (made : s.MadeFor id record)
    (unreached : tearsUnreached s (.continuation record .returned) = true)
    (stepped :
      step cfg s (.continuation record .returned) = some after) :
    Restoring start name spawner id after := by
  have rests := loopRests_of_step stepped rfl
  have named := (traced.made record made).2
  have still : after.MadeFor id record := by
    unfold State.MadeFor
    rw [rests.spawnRequest]
    exact made
  have requests {other : Nat} (also : after.MadeFor id other) :
      other = record := by
    unfold State.MadeFor at also
    rw [rests.spawnRequest] at also
    exact traced.sole other record also made
  have undone : (s.footing name).Undone (after.footing name) := by
    rw [← named]
    exact (slot_resumeContinuation stepped).2
  refine .detached ?_ ?_ ?_ ?_ ?_
  · rw [rests.loop]
    exact detached_of_made account traced restoring made
  · intro reason within
    rcases error_of_step stepped within with old | ⟨taken, _⟩
    · exact absurd made (traced.answered reason old record)
    · cases taken
  · intro other also idle
    cases requests also
    exact
      (restoring.undoing record made
        (unreached_of_step stepped idle)).undone undone
  · intro other also tearing
    cases requests also
    rcases cleared_of_continuation named unreached
        (restoring.torn record made) stepped tearing with
      ⟨stillborn, cleared⟩
    exact ⟨stillborn.of_step kept stepped, cleared⟩
  · intro within
    have before :
        s.Stillborn record ∧ (s.slot name).Cleared 3 := by
      rcases failed_of_step account restoring stepped within with
        old | ⟨other, taken, _, replying⟩
      · rcases restoring.failed old with ⟨other, also, stillborn, cleared⟩
        cases traced.sole other record also made
        exact ⟨stillborn, cleared⟩
      · cases taken
        have torn := restoring.torn record made
        rw [replying] at torn
        exact torn (by decide)
    exact
      ⟨record, still, before.1.of_step kept stepped,
        Slot.Cleared.undone before.2 undone⟩

/-- A step of the loop that is not the spawn's own finds it elsewhere. -/
theorem elsewhere_of_foreign
    (account : Account id s) (foreign : ¬label.WorksFor s id)
    (own : label.ofLoop = true) : Elsewhere id s := by
  cases account with
  | loop spawns =>
      refine absurd ?_ foreign
      cases label with
      | take message => exact spawns
      | consulted approved constructs => exact spawns
      | loop resumption => exact spawns
      | exit => cases own
      | continuation => cases own
      | child => cases own
      | foreign => cases own
  | task _ elsewhere => exact elsewhere
  | settled elsewhere => exact elsewhere

/-- Other tasks do not tear the child of the spawn down. -/
theorem cleared_of_foreign
    {record : Nat} (foreign : ¬label.WorksFor s id)
    (made : s.MadeFor id record)
    (stepped : step cfg s label = some after)
    (tearing : 0 < (after.continuation record).cleared) :
    after.continuation record = s.continuation record := by
  cases own : label.ofLoop with
  | false =>
      refine continuation_of_aside stepped own ?_
      rintro resumption rfl
      exact foreign made
  | true =>
      rcases continues_of_loop stepped own with
        continues | ⟨spawn, agent, spawner, loop, _, key, rfl⟩
      · rcases continues with same | ⟨_, _, cancelled⟩
        · exact congrFun same record
        · rw [cancelled] at tearing
          dsimp only at tearing
          cases stage : s.continuation record <;> rw [stage] at tearing <;>
            cases tearing
      · by_cases same : record = agent
        · subst same
          cases waits : spawn.wait with
          | true =>
              simp [State.enroll, key, waits, SpawnStage.cleared] at tearing
          | false => simp [State.enroll, key, waits]
        · cases waits : spawn.wait with
          | true =>
              simp [State.enroll, key, waits, Function.update_of_ne same]
          | false => simp [State.enroll, key, waits]

/-- What other tasks do leaves the spawn as it is. -/
theorem restoring_of_others
    (kept : s.roster.Kept) (older : id < s.requests)
    (account : Account id s) (restoring : Restoring start name spawner id s)
    (stepped : step cfg s label = some after)
    (foreign : ¬label.WorksFor s id)
    (footing : after.footing name = s.footing name) :
    Restoring start name spawner id after := by
  have slot : after.slot name = s.slot name := congrArg Footing.toSlot footing
  have before {record : Nat} (made : after.MadeFor id record) :
      s.MadeFor id record := by
    rcases madeFor_of_step stepped made with same | ⟨spawn, loop, same⟩
    · exact same
    · cases own : label.ofLoop with
      | true =>
          refine
            absurd (congrArg Request.id same)
              (elsewhere_of_foreign account foreign own spawn.request ?_)
          exact .inl (by rw [loop]; rfl)
      | false =>
          unfold State.MadeFor at made ⊢
          rwa [(loopRests_of_step stepped own).spawnRequest] at made
  have refused (reason : Refusal)
      (within : Event.answered id (.error reason) ∈ after.log) :
      after.footing name = start := by
    rw [footing]
    rcases error_of_step stepped within with old | ⟨rfl, replying⟩
    · exact restoring.refused reason old
    · exact restoring.refusing reason replying
  have undoing (record : Nat) (made : after.MadeFor id record)
      (idle : after.reachedLoop record = false) :
      Undoing start spawner record (after.footing name) := by
    rw [footing]
    exact
      restoring.undoing record (before made) (unreached_of_step stepped idle)
  have torn (record : Nat) (made : after.MadeFor id record)
      (tearing : 0 < (after.continuation record).cleared) :
      after.Stillborn record ∧
        (after.slot name).Cleared (after.continuation record).cleared := by
    have same := cleared_of_foreign foreign (before made) stepped tearing
    rw [same] at tearing ⊢
    rw [slot]
    rcases restoring.torn record (before made) tearing with
      ⟨stillborn, cleared⟩
    exact ⟨stillborn.of_step kept stepped, cleared⟩
  have failed (within : Event.answered id .startFailed ∈ after.log) :
      ∃ record, after.MadeFor id record ∧ after.Stillborn record ∧
        (after.slot name).Cleared 3 := by
    rcases failed_of_step account restoring stepped within with
      old | ⟨record, rfl, made, _⟩
    · rcases restoring.failed old with ⟨record, made, stillborn, cleared⟩
      refine ⟨record, ?_, stillborn.of_step kept stepped, ?_⟩
      · rcases stillborn.done with ⟨outcome, done⟩
        exact madeFor_of_done kept done stepped made
      · rw [slot]
        exact cleared
    · exact absurd made foreign
  cases own : label.ofLoop with
  | true =>
      have away :=
        elsewhere_of_step older (elsewhere_of_foreign account foreign own)
          stepped
      exact
        .detached (detached_of_elsewhere away) refused undoing torn failed
  | false =>
      have rests := loopRests_of_step stepped own
      refine
        { consulting := ?_
          subscribing := ?_
          auditing := ?_
          refusing := ?_
          honest := ?_
          refused := refused
          undoing := undoing
          torn := torn
          failed := failed }
      · rw [rests.loop, footing]
        exact restoring.consulting
      · rw [rests.loop, footing]
        exact restoring.subscribing
      · rw [rests.loop, footing]
        exact restoring.auditing
      · rw [rests.loop, footing]
        exact restoring.refusing
      · rw [rests.loop]
        exact restoring.honest

theorem step_restoring
    (kept : s.roster.Kept) (keyed : Keyed s) (older : id < s.requests)
    (account : Account id s) (traced : Traced name spawner id s)
    (restoring : Restoring start name spawner id s)
    (permitted : sound cfg s label = true)
    (alone : LeavesAlone cfg name id s label)
    (stepped : step cfg s label = some after) :
    Restoring start name spawner id after := by
  by_cases works : label.WorksFor s id
  · have byLoop (own : label.ofLoop = true)
        (spawns : s.loop.spawns? = some ⟨id, true⟩) :
        Restoring start name spawner id after :=
      restoring_of_handles kept account traced restoring
        (handles_of_step keyed (spawnsInFull_of_sound permitted) stepped own
          spawns)
    cases label with
    | take message => exact byLoop rfl works
    | consulted approved constructs => exact byLoop rfl works
    | loop resumption => exact byLoop rfl works
    | exit record resumption now constructs =>
        exact restoring_of_exit kept account traced restoring works stepped
    | continuation record resumption =>
        have returned : resumption = .returned := by
          simpa [spawnsInFull] using spawnsInFull_of_sound permitted
        subst returned
        have unreached := (Bool.and_eq_true_iff.mp
          (orderly_of_sound permitted)).2
        exact
          restoring_of_continuation kept account traced restoring works
            unreached stepped
    | child agent event => cases works
    | foreign other joins => cases works
  · rcases alone with own | same
    · exact absurd own works
    · exact
        restoring_of_others kept older account restoring stepped works
          (same after stepped)

end Restoring

/-! ## A spawn is taken -/

/-- A spawn that reaches the hook asks for the name of its payload. -/
theorem spawnDecision_name
    {cfg : Config} {s : State} {payload : Dict} {spawner : Value}
    {name : Name}
    (decided : s.spawnDecision cfg payload spawner = .consult name) :
    (field payload "name" (.str "")).key? = some name := by
  unfold State.spawnDecision at decided
  split at decided
  · cases decided
  · rename_i key found
    split at decided
    · simp only at decided
      split_ifs at decided
    · repeat' split at decided
      all_goals cases decided
      exact found

/-- A check answers with ok or with an error. -/
theorem spawnDecision_ne_startFailed
    {cfg : Config} {s : State} {payload : Dict} {spawner : Value} :
    s.spawnDecision cfg payload spawner ≠ .reply .startFailed := by
  intro decided
  unfold State.spawnDecision at decided
  split at decided
  · cases decided
  · split at decided
    · simp only at decided
      split_ifs at decided
      all_goals cases decided
    · repeat' split at decided
      all_goals cases decided

/-- Every child is made for a request that has been taken. -/
def Assigned (s : State) : Prop :=
  ∀ id record, s.MadeFor id record → id < s.requests

section Taken

variable {cfg : Config} {s after : State} {label : Label} {name : Name}
  {message : Message}

theorem step_assigned
    (filed : Filed s) (assigned : Assigned s)
    (stepped : step cfg s label = some after) : Assigned after := by
  intro id record made
  have grows := requests_le stepped
  rcases madeFor_of_step stepped made with before | ⟨spawn, loop, same⟩
  · have below := assigned id record before
    omega
  · have below := filed.spawning spawn.request (by rw [loop]; rfl)
    rw [same] at below
    dsimp only at below
    omega

/-- What taking a spawn does: it asks the hook or answers. -/
inductive Opens (s : State) (message : Message) : State → Prop where
  | consults (name : Name) :
      (field message.payload "name" (.str "")).key? = some name →
      s.dynamicChildren.lookup name = none →
        Opens s message
          ((s.receive message).consult ⟨s.requests, message.correlated⟩
            message name)
  | answers (answer : Answer) :
      answer ≠ .startFailed →
        Opens s message
          ((s.receive message).respond ⟨s.requests, message.correlated⟩
            answer)

/-- The name of a spawn that can be read. -/
theorem name_of_take
    (permitted : sound cfg s (.take message) = true)
    (kind : message.kind = .spawn) :
    ∃ name, (field message.payload "name" (.str "")).key? = some name := by
  have full := spawnsInFull_of_sound permitted
  cases named : (field message.payload "name" (.str "")).key? with
  | some name => exact ⟨name, rfl⟩
  | none =>
      simp [spawnsInFull, State.endedBy, kind, State.spawnDecision, named]
        at full

theorem opens_of_take
    (permitted : sound cfg s (.take message) = true)
    (kind : message.kind = .spawn)
    (stepped : step cfg s (.take message) = some after) :
    Opens s message after := by
  have reads :
      s.spawnDecision cfg message.payload (spawnerOf message.payload) ≠
        .raise := by
    have full := spawnsInFull_of_sound permitted
    simpa [spawnsInFull, State.endedBy, kind] using full
  cases loop : s.loop with
  | idle =>
      simp only [step, loop, Option.some.injEq, State.takeMessage, kind]
        at stepped
      unfold State.takeSpawn at stepped
      split at stepped
      · rename_i answer decided
        subst stepped
        refine .answers answer ?_
        rintro rfl
        exact spawnDecision_ne_startFailed decided
      · exact absurd ‹_› reads
      · rename_i name decided
        subst stepped
        exact
          .consults name (spawnDecision_name decided)
            (spawnDecision_fresh decided)
  | _ => simp [step, loop] at stepped

/-- No child is made for a request that is to come. -/
theorem Assigned.fresh (assigned : Assigned s) (record : Nat) :
    ¬s.MadeFor s.requests record := by
  intro made
  exact Nat.lt_irrefl _ (assigned s.requests record made)

/-- A request that is to come has no answer. -/
theorem Filed.fresh (filed : Filed s) (message : Message) (answer : Answer) :
    Event.answered s.requests answer ∉ (s.receive message).log := by
  intro within
  have old : Event.answered s.requests answer ∈ s.log := by
    simp only [State.receive] at within
    split_ifs at within
    · simpa using within
    · exact within
  exact Nat.lt_irrefl _ (filed.known _ old s.requests rfl)

theorem traced_of_opens
    (filed : Filed s) (assigned : Assigned s)
    (named : (field message.payload "name" (.str "")).key? = some name)
    (opens : Opens s message after) :
    Traced name (spawnerOf message.payload) s.requests after := by
  have none := assigned.fresh
  have unanswered := filed.fresh message
  cases opens with
  | consults other asked _ =>
      rw [named] at asked
      cases asked
      refine ⟨?_, by rintro _ ⟨⟩, ?_, ?_, ?_⟩
      · intro spawn found _
        cases found
        exact ⟨rfl, rfl, none⟩
      · exact fun reason within => absurd within (unanswered _)
      · exact fun record made => absurd made (none record)
      · exact fun record _ made => absurd made (none record)
  | answers answer _ =>
      refine ⟨by rintro _ ⟨⟩, fun _ _ => none, ?_, ?_, ?_⟩
      · exact fun reason within => absurd within (unanswered _)
      · exact fun record made => absurd made (none record)
      · exact fun record _ made => absurd made (none record)

theorem restoring_of_opens
    (filed : Filed s) (assigned : Assigned s)
    (named : (field message.payload "name" (.str "")).key? = some name)
    (opens : Opens s message after) :
    Restoring (s.footing name) name (spawnerOf message.payload)
      s.requests after := by
  have none := assigned.fresh
  have unanswered := filed.fresh message
  cases opens with
  | consults other asked absent =>
      rw [named] at asked
      cases asked
      exact
        { consulting := fun _ _ _ => ⟨rfl, absent⟩
          subscribing := by rintro _ _ ⟨⟩
          auditing := by rintro _ _ ⟨⟩
          refusing := by rintro _ ⟨⟩
          honest := by rintro ⟨⟩
          refused := fun _ within => absurd within (unanswered _)
          undoing := fun record made => absurd made (none record)
          torn := fun record made => absurd made (none record)
          failed := fun within => absurd within (unanswered _) }
  | answers answer honest =>
      exact
        { consulting := by rintro _ ⟨⟩
          subscribing := by rintro _ _ ⟨⟩
          auditing := by rintro _ _ ⟨⟩
          refusing := fun _ _ => rfl
          honest := by
            intro replying
            simp only [State.respond, LoopStage.replying.injEq] at replying
            exact honest replying.2
          refused := fun _ within => absurd within (unanswered _)
          undoing := fun record made => absurd made (none record)
          torn := fun record made => absurd made (none record)
          failed := fun within => absurd within (unanswered _) }

end Taken

/-! ## Every run -/

/-- A spawn is answered once, and leaves nothing behind when it fails. -/
structure SpawnContained
    (cfg : Config) (permits : State → Label → Prop) (before : State)
    (message : Message) (first s : State) : Prop where
  opened :
    first.loop.halted = false ∧
      first.log.filter (· = .raised) = before.log.filter (· = .raised)
  served : SpawnServed cfg permits before.requests s
  /-- At other names the tasks of the spawn change nothing. -/
  framed : ∀ name,
    (field message.payload "name" (.str "")).key? = some name →
      ∀ label after, permits s label → step cfg s label = some after →
        label.WorksFor s before.requests →
          ∀ other, other ≠ name → after.slot other = s.slot other
  /-- At its own name, and in the counters, all is as before. -/
  restored : ∀ name,
    (field message.payload "name" (.str "")).key? = some name →
      Reaches (step cfg)
          (fun s label =>
            permits s label ∧ LeavesAlone cfg name before.requests s label)
          first s →
        (∀ reason, Event.answered before.requests (.error reason) ∈ s.log →
          s.footing name = before.footing name) ∧
        (Event.answered before.requests .startFailed ∈ s.log →
          ∃ spawner, (spawnerOf message.payload).key? = some spawner ∧
            s.footing name = (before.footing name).admitted spawner)

/-- What holds of every state of a sound run. -/
structure Sound (s : State) : Prop where
  ordered : s.roster.Orderly
  keyed : Keyed s
  filed : Filed s
  assigned : Assigned s

theorem sound_init : Sound init where
  ordered := ⟨kept_init, by rintro _ ⟨⟩⟩
  keyed := by
    rintro spawn agent (loop | loop)
    · cases loop
    · cases loop
  filed := counted_init.filed
  assigned := by
    intro id record made
    cases made

section Runs

variable {cfg : Config} {before first s after : State} {label : Label}
  {message : Message}

theorem step_sound
    (held : Sound s) (permitted : sound cfg s label = true)
    (stepped : step cfg s label = some after) : Sound after where
  ordered := step_orderly held.ordered (orderly_of_sound permitted) stepped
  keyed := step_keyed held.keyed (spawnsInFull_of_sound permitted) stepped
  filed := step_filed held.ordered.kept held.filed stepped
  assigned := step_assigned held.filed held.assigned stepped

/-- What holds of every state after a spawn has been taken. -/
structure Followed (name : Name) (spawner : Value) (id : Nat) (s : State) :
    Prop where
  sound : Sound s
  older : id < s.requests
  account : Account id s
  traced : Traced name spawner id s

theorem step_followed
    {name : Name} {spawner : Value} {id : Nat}
    (held : Followed name spawner id s)
    (permitted : sound cfg s label = true)
    (stepped : step cfg s label = some after) :
    Followed name spawner id after := by
  have kept := held.sound.ordered.kept
  have keyed := held.sound.keyed
  constructor
  · exact step_sound held.sound permitted stepped
  · exact Nat.lt_of_lt_of_le held.older (requests_le stepped)
  · exact
      account_of_step kept keyed held.older held.account permitted stepped
  · exact
      step_traced kept keyed held.older held.account held.traced permitted
        stepped

theorem followed_of_take
    {name : Name} (held : Sound before) (kind : message.kind = .spawn)
    (correlated : message.correlated = true)
    (named : (field message.payload "name" (.str "")).key? = some name)
    (readable : sound cfg before (.take message) = true)
    (taken : step cfg before (.take message) = some first) :
    Followed name (spawnerOf message.payload) before.requests first where
  sound := step_sound held readable taken
  older := by
    rcases requests_of_step taken with ⟨_, _, more⟩ | ⟨never, _⟩
    · omega
    · exact absurd rfl (never message)
  account := account_of_take held.filed readable kind correlated taken
  traced :=
    traced_of_opens held.filed held.assigned named
      (opens_of_take readable kind taken)

/-- In runs that leave the name alone, the changes are as the stages say. -/
theorem restoring_of_run
    {name : Name} (held : Sound before) (kind : message.kind = .spawn)
    (correlated : message.correlated = true)
    (named : (field message.payload "name" (.str "")).key? = some name)
    (readable : sound cfg before (.take message) = true)
    (taken : step cfg before (.take message) = some first)
    (alone : Reaches (step cfg)
      (fun s label =>
        sound cfg s label = true ∧
          LeavesAlone cfg name before.requests s label)
      first s) :
    Restoring (before.footing name) name (spawnerOf message.payload)
      before.requests s := by
  have both :
      Followed name (spawnerOf message.payload) before.requests s ∧
        Restoring (before.footing name) name (spawnerOf message.payload)
          before.requests s := by
    apply alone.invariant
    · exact
        ⟨followed_of_take held kind correlated named readable taken,
          restoring_of_opens held.filed held.assigned named
            (opens_of_take readable kind taken)⟩
    · rintro earlier label later ⟨followed, restoring⟩ ⟨permitted, quiet⟩
        stepped
      exact
        ⟨step_followed followed permitted stepped,
          step_restoring followed.sound.ordered.kept followed.sound.keyed
            followed.older followed.account followed.traced restoring
            permitted quiet stepped⟩
  exact both.2

end Runs

/-- A spawn that waits for its child. -/
def waitingSpawn : Message :=
  spawnInto "planner" "app.Worker" "w1" true "1"

/-- The child raises in `on_start`; its continuation tears it down. -/
def failedStart : List Label :=
  [.consulted true true, .loop .returned, .loop .returned,
    .child 0 (.finish .raised .crashed), .continuation 0 .returned,
    .continuation 0 .returned, .continuation 0 .returned,
    .continuation 0 .returned, .continuation 0 .returned]

end Civitas.Dynamic
