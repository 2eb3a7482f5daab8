import Civitas.Dynamic.Broadcasts

/-!
# What is published about a child

Each spawn that is admitted gets an epoch of its own.  What is published for
it is nothing, a registration, or a registration and then a withdrawal, as
long as a removal takes the child out of the table neither while its
registration is under way nor when another removal has done so already.
-/

namespace Civitas.Dynamic

open Civitas.PyValue
open Civitas.Transition
open Function (update)

/-! ## Numbers that are given out -/

namespace Roster

/-- Only incarnations that have been built are at work. -/
structure Born (a : Roster) : Prop where
  blank : ∀ agent, a.next ≤ agent →
    a.exit agent = .unwatched ∧ a.continuation agent = .absent
  building : ∀ agent record fresh,
    (a.exit agent).building = some (record, fresh) → fresh < a.next
  starting : ∀ agent record fresh,
    a.exit agent = .starting record fresh → fresh < a.next
  asked : ∀ name, a.errand = .asking name → a.entry name = none
  claimed : ∀ name agent, a.errand = .claimed name agent →
    agent < a.next ∧ a.agentName agent = name ∧ a.entry name = none

theorem Quiet.born {tears : Nat → Prop} {a b : Roster}
    (quiet : Quiet tears a b) (born : a.Born) : b.Born where
  blank := by
    intro agent above
    rw [quiet.next] at above
    exact
      ⟨(quiet.exit agent).unwatched (born.blank agent above).1,
        (quiet.continuation agent).absent (born.blank agent above).2⟩
  building := by
    intro agent record fresh building
    rw [quiet.next]
    exact
      born.building agent record fresh ((quiet.exit agent).building building)
  starting := by
    intro agent record fresh starting
    rw [quiet.next]
    exact
      born.starting agent record fresh ((quiet.exit agent).starting starting)
  asked := by
    intro name asking
    apply quiet.entry_none
    have moves := quiet.errand
    rw [asking] at moves
    generalize errand : Errand.asking name = after at moves
    cases moves with
    | stay => exact born.asked name errand.symm
    | drop => cases errand
    | ask absent =>
        cases errand
        exact absent
  claimed := by
    intro name agent claimed
    have moves := quiet.errand
    rw [claimed] at moves
    rw [quiet.next, quiet.agentName]
    generalize errand : Errand.claimed name agent = after at moves
    cases moves with
    | stay =>
        have old := born.claimed name agent errand.symm
        exact ⟨old.1, old.2.1, quiet.entry_none old.2.2⟩
    | drop => cases errand
    | ask => cases errand

theorem born_number {a : Roster} {name : Name} {record : Nat}
    (born : a.Born) : (a.number name record).Born where
  blank := fun agent above => born.blank agent (Nat.le_of_succ_le above)
  building := fun agent record fresh building =>
    Nat.lt_succ_of_lt (born.building agent record fresh building)
  starting := fun agent record fresh starting =>
    Nat.lt_succ_of_lt (born.starting agent record fresh starting)
  asked := born.asked
  claimed := by
    intro other agent claimed
    have old := born.claimed other agent claimed
    refine ⟨Nat.lt_succ_of_lt old.1, ?_, old.2.2⟩
    simp only [number]
    rw [Function.update_of_ne (Nat.ne_of_lt old.1)]
    exact old.2.1

theorem Motion.born
    {claims : Name → Prop} {tears : Nat → Prop} {a b : Roster}
    (motion : Motion claims tears a b) (born : a.Born) : b.Born := by
  cases motion with
  | quiet quiet => exact quiet.born born
  | claim name _ asking =>
      have numbered : (a.number name a.next).Born := born_number born
      refine
        ⟨numbered.blank, numbered.building, numbered.starting,
          by rintro _ ⟨⟩, ?_⟩
      intro other agent claimed
      cases claimed
      exact
        ⟨Nat.lt_succ_self _, Function.update_self .., born.asked name asking⟩
  | enroll origin waits claimed =>
      have old := (born.claimed _ _ claimed).1
      have other : ∀ agent, a.next ≤ agent → agent ≠ origin.record :=
        fun agent above => Nat.ne_of_gt (Nat.lt_of_lt_of_le old above)
      refine ⟨?_, ?_, ?_, by rintro _ ⟨⟩, by rintro _ _ ⟨⟩⟩
      · intro agent above
        simp only [Roster.enroll]
        rw [Function.update_of_ne (other agent above)]
        refine ⟨(born.blank agent above).1, ?_⟩
        split_ifs
        · rw [Function.update_of_ne (other agent above)]
          exact (born.blank agent above).2
        · exact (born.blank agent above).2
      · intro agent record fresh building
        simp only [Roster.enroll, Function.update_apply] at building
        split_ifs at building
        · cases building
        · exact born.building agent record fresh building
      · intro agent record fresh starting
        simp only [Roster.enroll, Function.update_apply] at starting
        split_ifs at starting
        exact born.starting agent record fresh starting
  | build agent record crashed scheduled =>
      have numbered : (a.number (a.agentName agent) record).Born :=
        born_number born
      have below : agent < a.next := by
        by_contra above
        rw [(born.blank agent (Nat.le_of_not_lt above)).1] at scheduled
        cases scheduled
      refine ⟨?_, ?_, ?_, numbered.asked, numbered.claimed⟩
      · intro other above
        have different : other ≠ agent :=
          Nat.ne_of_gt (Nat.lt_of_lt_of_le below (Nat.le_of_succ_le above))
        simp only [Roster.build]
        rw [Function.update_of_ne different]
        exact numbered.blank other above
      · intro other record fresh building
        simp only [Roster.build, Function.update_apply] at building
        split_ifs at building
        · cases building
          exact Nat.lt_succ_self _
        · exact numbered.building other record fresh building
      · intro other record fresh starting
        simp only [Roster.build, Function.update_apply] at starting
        split_ifs at starting
        exact numbered.starting other record fresh starting
  | start agent record fresh transferring =>
      have below : fresh < a.next :=
        born.building agent record fresh (by rw [transferring]; rfl)
      have acting : agent < a.next := by
        by_contra above
        rw [(born.blank agent (Nat.le_of_not_lt above)).1] at transferring
        cases transferring
      refine ⟨?_, ?_, ?_, born.asked, born.claimed⟩
      · intro other above
        simp only [Roster.start]
        rw [Function.update_of_ne
          (Nat.ne_of_gt (Nat.lt_of_lt_of_le acting above))]
        exact born.blank other above
      · intro other record fresh building
        simp only [Roster.start, Function.update_apply] at building
        split_ifs at building
        · cases building
        · exact born.building other record fresh building
      · intro other record fresh starting
        simp only [Roster.start, Function.update_apply] at starting
        split_ifs at starting
        · cases starting
          exact below
        · exact born.starting other record fresh starting
  | publish agent record fresh starting =>
      have below : fresh < a.next := born.starting agent record fresh starting
      have acting : agent < a.next := by
        by_contra above
        rw [(born.blank agent (Nat.le_of_not_lt above)).1] at starting
        cases starting
      refine ⟨?_, ?_, ?_, born.asked, born.claimed⟩
      · intro other above
        simp only [Roster.publish]
        rw [
          Function.update_of_ne (Nat.ne_of_gt (Nat.lt_of_lt_of_le below above)),
          Function.update_of_ne
            (Nat.ne_of_gt (Nat.lt_of_lt_of_le acting above))]
        exact born.blank other above
      · intro other record fresh building
        simp only [Roster.publish, Function.update_apply] at building
        split_ifs at building
        · cases building
        · cases building
        · exact born.building other record fresh building
      · intro other record fresh starting
        simp only [Roster.publish, Function.update_apply] at starting
        split_ifs at starting
        exact born.starting other record fresh starting

end Roster

theorem born_init : init.roster.Born where
  blank := fun _ _ => ⟨rfl, rfl⟩
  building := by rintro _ _ _ ⟨⟩
  starting := by rintro _ _ _ ⟨⟩
  asked := by rintro _ ⟨⟩
  claimed := by rintro _ _ ⟨⟩

/-! ## How continuations move -/

/-- Continuations go on, or `on_stop` has cancelled them. -/
def Winds (s after : State) : Prop :=
  after.continuation = s.continuation ∨
    after.loop = .gathering ∧
      after.continuation = fun record => (s.continuation record).cancel

/-- What a step does to the continuation of a record. -/
inductive SpawnChange
    (s : State) (label : Label) (after : State) (record : Nat) : Prop where
  | same :
      after.continuation record = s.continuation record →
        SpawnChange s label after record
  | own (resumption : Resumption) :
      label = .continuation record resumption →
        SpawnChange s label after record
  | admitted :
      s.admits label = some (record, true) →
      after.continuation record = .waiting →
        SpawnChange s label after record
  | cancelled :
      after.loop = .gathering →
      label.ofLoop = true →
      after.continuation record = (s.continuation record).cancel →
        SpawnChange s label after record

theorem Continues.winds
    {cfg : Config} {s after : State} {label : Label}
    (continues : Continues cfg s label after) : Winds s after := by
  rcases continues with same | ⟨_, halted, cancelled⟩
  · exact .inl same
  · exact .inr ⟨halted, cancelled⟩

theorem Winds.change
    {s after : State} {label : Label} (winds : Winds s after)
    (own : label.ofLoop = true) (record : Nat) :
    SpawnChange s label after record := by
  rcases winds with same | ⟨halted, cancelled⟩
  · exact .same (congrFun same record)
  · exact .cancelled halted own (congrFun cancelled record)

theorem admits_of_auditing
    {s : State} {spawn : SpawnRequest} {agent : Nat} {spawner : Key}
    (loop : s.loop = .auditing spawn agent)
    (key : spawn.spawner.key? = some spawner) :
    s.admits (.loop .returned) = some (agent, spawn.wait) := by
  simp [State.admits, loop, key]

theorem continuation_of_step
    {cfg : Config} {s after : State} {label : Label}
    (stepped : step cfg s label = some after) (record : Nat) :
    SpawnChange s label after record := by
  cases own : label.ofLoop with
  | true =>
      rcases continues_of_loop stepped own with
        continues | ⟨spawn, agent, spawner, loop, rfl, key, rfl⟩
      · exact continues.winds.change own record
      · have admitted := admits_of_auditing loop key
        by_cases same : record = agent
        · subst same
          cases waits : spawn.wait with
          | false =>
              refine .same ?_
              simp [State.enroll, key, waits]
          | true =>
              rw [waits] at admitted
              refine .admitted admitted ?_
              simp [State.enroll, key, waits]
        · refine .same ?_
          cases waits : spawn.wait with
          | false => simp [State.enroll, key, waits]
          | true => simp [State.enroll, key, waits, same]
  | false =>
      by_cases mine : ∃ resumption, label = .continuation record resumption
      · rcases mine with ⟨resumption, taken⟩
        exact .own resumption taken
      · exact .same (continuation_of_aside stepped own (not_exists.mp mine))

/-! ## Where removals announce -/

/-- The remover that a label belongs to. -/
def Label.remover? : Label → Option Remover
  | .take _ | .loop _ => some .loop
  | .exit agent _ _ _ => some (.exit agent)
  | .continuation record _ => some (.continuation record)
  | _ => none

section Withdraws

variable {cfg : Config} {s after : State} {label : Label} {name : Name}

theorem lookup_finishRemoval
    (s : State) (request : Request) (name : Name) :
    (s.finishRemoval request name).dynamicChildren.lookup name = none :=
  AList.lookup_erase _ _

theorem not_removing_stopChildren
    (s : State) (names : List Name) (request : Request) (name : Name) :
    (s.stopChildren names).loop ≠ .removing request name := by
  simp only [State.stopChildren]
  split
  · simp
  · simp

theorem lookup_afterStop
    {asked : State} {stop : StopRequest} {request : Request}
    (loop : (asked.afterStop stop).loop = .removing request name) :
    (asked.afterStop stop).dynamicChildren.lookup name = none := by
  rcases afterStop_cases asked stop with finished | ⟨task, _, _, waiting⟩
  · rw [finished] at loop ⊢
    cases loop
    exact lookup_finishRemoval asked _ _
  · rw [waiting] at loop
    cases loop

/-- A child whose removal is announced by the loop has left the table. -/
theorem lookup_takeMessage
    {message : Message} {request : Request} (idle : s.loop = .idle) :
    (s.takeMessage cfg message).loop = .removing request name →
      (s.takeMessage cfg message).dynamicChildren.lookup name = none := by
  unfold State.takeMessage
  simp only
  split
  · exact fun loop => absurd loop (not_removing_stopChildren _ _ _ _)
  · unfold State.takeSpawn
    split
    · rintro ⟨⟩
    · exact fun loop => absurd loop (not_removing_stopChildren _ _ _ _)
    · rintro ⟨⟩
  · unfold State.takeDespawn
    split
    · exact fun loop => absurd loop (not_removing_stopChildren _ _ _ _)
    · split
      · rintro ⟨⟩
      · simp only
        split
        · split_ifs
          · simp
          · rintro ⟨⟩
        · rintro ⟨⟩
  · unfold State.takeStop
    split_ifs
    · exact fun loop => absurd loop (not_removing_stopChildren _ _ _ _)
    · split
      · exact fun loop => absurd loop (not_removing_stopChildren _ _ _ _)
      · split
        · rintro ⟨⟩
        · simp only
          split_ifs
          · simp
          · exact fun loop => lookup_afterStop loop
  · intro loop
    rw [State.receive, idle] at loop
    cases loop

theorem lookup_resumeLoop
    {resumption : Resumption} {request : Request}
    (resumed : s.resumeLoop resumption = some after)
    (loop : after.loop = .removing request name) :
    after.dynamicChildren.lookup name = none := by
  unfold State.resumeLoop at resumed
  repeat' split at resumed
  all_goals cases resumed
  all_goals
    first
    | exact lookup_afterStop loop
    | exact absurd loop (not_removing_stopChildren _ _ _ _)
    | (cases loop; done)
    | (cases loop; exact lookup_finishRemoval s _ _)
    | skip
  rename_i spawn agent _ _
  unfold State.enroll at loop
  split at loop
  · exact absurd loop (not_removing_stopChildren _ _ _ _)
  · simp only at loop
    split_ifs at loop

/-- The handler may be announcing a removal. -/
def ExitStage.withdrawing : ExitStage → Bool
  | .announcing _ | .leaving _ => true
  | _ => false

theorem withdrawing_of_withdraws
    {agent : Nat} (withdraws : s.withdraws? (.exit agent) = some name) :
    (s.exit agent).withdrawing = true ∧ s.agentName agent = name := by
  unfold State.withdraws? at withdraws
  cases stage : s.exit agent <;> simp_all [ExitStage.withdrawing]

theorem withdrawing_beginExit
    (s : State) (agent : Nat) (crashed : Bool) (now : Nat)
    (constructs : Bool) :
    ((s.beginExit cfg agent crashed now constructs).exit
      agent).withdrawing = false := by
  unfold State.beginExit
  simp only
  repeat' split
  all_goals
    simp [State.setExit, State.clearThen, State.clearMarker,
      State.deregister, State.buildFresh, ExitStage.withdrawing]

/-- An exit handler announces a removal when it has just removed its child. -/
theorem lookup_resumeExit
    {agent now : Nat} {resumption : Resumption} {constructs : Bool}
    (resumed :
      s.resumeExit cfg agent resumption now constructs = some after)
    (before : s.withdraws? (.exit agent) = none)
    (begun : after.withdraws? (.exit agent) = some name) :
    resumption = .returned ∧ (s.exit agent).removing = true ∧
      s.agentName agent = name ∧
      after.dynamicChildren.lookup name = none := by
  have named := (withdrawing_of_withdraws begun).2
  have stage := (withdrawing_of_withdraws begun).1
  unfold State.resumeExit at resumed
  simp only at resumed
  repeat' split at resumed
  all_goals cases resumed
  all_goals
    first
    | exact
        ⟨rfl, by rw [‹s.exit agent = _›]; rfl, named,
          by rw [← named]; exact AList.lookup_erase _ _⟩
    | skip
  all_goals exfalso
  all_goals
    first
    | simp [State.withdraws?, ‹s.exit agent = _›] at before; done
    | skip
  all_goals
    first
    | rw [withdrawing_beginExit] at stage; cases stage
    | simp [State.setExit, State.clearThen, State.clearMarker,
        State.deregister, State.startFresh, ExitStage.withdrawing] at stage
      done
    | skip
  all_goals
    simp only [State.publishFresh, Function.update_apply] at stage
    split_ifs at stage
  all_goals cases stage

theorem lookup_resumeContinuation
    {record : Nat} {resumption : Resumption}
    (resumed : s.resumeContinuation record resumption = some after)
    (leaving : after.continuation record = .leaving) :
    s.continuation record = .draining ∧ resumption = .returned ∧
      after.agentName = s.agentName ∧
      after.dynamicChildren.lookup (s.agentName record) = none := by
  unfold State.resumeContinuation at resumed
  simp only at resumed
  repeat' split at resumed
  all_goals cases resumed
  all_goals
    first
    | exact ⟨‹_›, rfl, rfl, AList.lookup_erase _ _⟩
    | simp [State.setContinuation, State.deregister] at leaving

theorem leaving_of_withdraws
    {record : Nat}
    (withdraws : s.withdraws? (.continuation record) = some name) :
    s.continuation record = .leaving ∧ s.agentName record = name := by
  unfold State.withdraws? at withdraws
  cases stage : s.continuation record <;> simp_all

/-- A removal is announced by the step that has taken the child out. -/
theorem removed_of_withdraws
    {remover : Remover} (stepped : step cfg s label = some after)
    (before : s.withdraws? remover = none)
    (begun : after.withdraws? remover = some name) :
    label.remover? = some remover ∧
      after.dynamicChildren.lookup name = none := by
  cases remover with
  | loop =>
      have stage : ∃ request, after.loop = .removing request name := by
        unfold State.withdraws? at begun
        cases loop : after.loop <;> simp_all
      rcases stage with ⟨request, removing⟩
      cases own : label.ofLoop with
      | false =>
          rw [(loopRests_of_step stepped own).loop] at removing
          simp [State.withdraws?, removing] at before
      | true =>
          cases label with
          | take message =>
              cases loop : s.loop with
              | idle =>
                  simp only [step, loop, Option.some.injEq] at stepped
                  subst stepped
                  exact ⟨rfl, lookup_takeMessage loop removing⟩
              | _ => simp [step, loop] at stepped
          | consulted approved constructs =>
              cases loop : s.loop with
              | consulting spawn =>
                  simp only [step, loop, Option.some.injEq] at stepped
                  subst stepped
                  unfold State.resumeConsulting at removing
                  split_ifs at removing
                  · cases removing
                  · exact
                      absurd removing (not_removing_stopChildren _ _ _ _)
                  · cases removing
                  · cases removing
              | _ => simp [step, loop] at stepped
          | loop resumption =>
              exact ⟨rfl, lookup_resumeLoop stepped removing⟩
          | exit => cases own
          | continuation => cases own
          | child => cases own
          | foreign => cases own
  | exit agent =>
      have stage := (withdrawing_of_withdraws begun).1
      cases exit_of_step stepped agent with
      | same same =>
          rw [same] at stage
          exfalso
          cases found : s.exit agent <;>
            simp_all [State.withdraws?]
      | own resumption now constructs labelled =>
          subst labelled
          exact ⟨rfl, (lookup_resumeExit stepped before begun).2.2.2⟩
      | admitted _ _ _ watched =>
          rw [watched] at stage
          cases stage
      | published _ _ _ _ _ _ watched =>
          rw [watched] at stage
          cases stage
      | cancelled _ cancelled =>
          rw [cancelled] at stage
          cases found : s.exit agent <;>
            simp_all [ExitStage.cancel, ExitStage.withdrawing]
  | continuation record =>
      have stage := (leaving_of_withdraws begun).1
      have named := (leaving_of_withdraws begun).2
      cases continuation_of_step stepped record with
      | same same =>
          rw [same] at stage
          simp [State.withdraws?, stage] at before
      | own resumption labelled =>
          subst labelled
          have removed := lookup_resumeContinuation stepped stage
          rw [removed.2.2.1] at named
          rw [← named]
          exact ⟨rfl, removed.2.2.2⟩
      | admitted _ waiting =>
          rw [waiting] at stage
          cases stage
      | cancelled _ _ cancelled =>
          rw [cancelled] at stage
          cases found : s.continuation record <;>
            simp_all [SpawnStage.cancel]

/-- The step that takes a child out of the table announces its removal. -/
theorem withdraws_of_removes
    (stepped : step cfg s label = some after)
    (removes : Removes s label after name) :
    ∃ remover, label.remover? = some remover ∧
      s.withdraws? remover = none ∧
      after.withdraws? remover = some name := by
  cases removes with
  | take message request _ removal loop =>
      refine ⟨.loop, rfl, ?_, by simp [State.withdraws?, loop]⟩
      cases before : s.loop with
      | idle => simp [State.withdraws?, before]
      | _ => simp [step, before] at stepped
  | loop resumption request _ serving loop =>
      refine ⟨.loop, rfl, ?_, by simp [State.withdraws?, loop]⟩
      cases before : s.loop <;>
        simp_all [State.withdraws?, LoopStage.removes?]
  | exit agent now constructs removing =>
      refine ⟨.exit agent, rfl, ?_⟩
      cases stage : s.exit agent with
      | clearing reason =>
          simp only [step, State.resumeExit, stage,
            Option.some.injEq] at stepped
          subst stepped
          simp [State.withdraws?, State.setExit, State.removeChild, stage]
      | draining cause =>
          simp only [step, State.resumeExit, stage,
            Option.some.injEq] at stepped
          subst stepped
          simp [State.withdraws?, State.setExit, State.removeChild, stage]
      | _ => simp [stage, ExitStage.removing] at removing
  | continuation record draining =>
      refine ⟨.continuation record, rfl, ?_⟩
      simp only [step, State.resumeContinuation, draining,
        Option.some.injEq] at stepped
      subst stepped
      simp [State.withdraws?, State.setContinuation, State.removeChild,
        draining]

end Withdraws

/-! ## The condition -/

/-- The registration of a record. -/
def Wire.registration (w : Wire) (record : Nat) : Broadcast :=
  .register (w.base.agentName record) (w.epochOf record)

/-- The withdrawal of a record. -/
def Wire.withdrawal (w : Wire) (record : Nat) : Broadcast :=
  .deregister (w.base.agentName record) (w.epochOf record)

/-- What has been published for a record, the latest first. -/
def Wire.said (w : Wire) (record : Nat) : List Broadcast :=
  w.published.filter fun broadcast =>
    decide (broadcast.epoch = w.epochOf record)

/-- The table holds the record under the name of its child. -/
def Wire.recorded (w : Wire) (record : Nat) : Bool :=
  decide
    (w.base.dynamicChildren.lookup (w.base.agentName record) = some record)

/--
The registration of the record is under way, or published while the flag of
the record is not set.
-/
def Wire.unsettled (w : Wire) (record : Nat) : Bool :=
  decide (w.base.continuation record = .announcing) ||
    (match w.announceTask record with
      | .settling _ | .publishing _ => true
      | _ => false) ||
    (w.published.contains (w.registration record) && !w.announced record)

/-- A registration begins only for a child that is still in the table. -/
def Wire.beginsRecorded (w : Wire) : WireLabel → Bool
  | .base (.continuation record .returned) =>
      decide (w.base.continuation record ≠ .waiting) ||
        !(w.base.status record).ready || w.recorded record
  | .announce record .returned =>
      decide (w.announceTask record ≠ .waiting) ||
        decide (w.findRecord record = .finished) ||
        decide (w.findRecord record = .settling record)
  | _ => true

/--
A removal takes out the record it has looked up, and not while the
registration of that record is under way; when another removal has been
faster, the record was never announced.
-/
def Wire.removesSettled (w : Wire) (label : Label) (after : State) : Bool :=
  match label.remover? with
  | none => true
  | some remover =>
      match w.base.withdraws? remover, after.withdraws? remover with
      | none, some name =>
          match w.base.dynamicChildren.lookup name with
          | some record =>
              decide (w.capturedAfter label remover = some record) &&
                !w.unsettled record
          | none =>
              (w.capturedAfter label remover).all fun record =>
                !w.announced record
      | _, _ => true

/-- The tasks that may be removing a child. -/
def State.removers (s : State) : List Remover :=
  .loop ::
    (List.range s.next).flatMap fun number =>
      [.exit number, .continuation number]

/-- A withdrawal under way is neither cancelled nor does it raise. -/
def Wire.completes (w : Wire) (label : Label) (after : State) : Bool :=
  w.base.removers.all fun remover =>
    (w.due remover).isNone || (after.withdraws? remover).isSome ||
      decide (label.returns? = some remover)

/-- The steps that keep announcements in order. -/
def announcesInOrder (cfg : Config) (w : Wire) (label : WireLabel) : Bool :=
  w.beginsRecorded label &&
    match label with
    | .base label =>
        match step cfg w.base label with
        | some after => w.removesSettled label after && w.completes label after
        | none => true
    | _ => true

/-! ## The invariant -/

/-- The registration of the record has begun and is not yet published. -/
inductive Wire.Beginning (w : Wire) (record : Nat) : Prop where
  | continuation :
      w.base.continuation record = .announcing → w.sent record = false →
        Wire.Beginning w record
  | task (found : Nat) :
      w.announceTask record = .settling found → Wire.Beginning w record

/-- The registration of the record is published and has not returned. -/
inductive Wire.Ending (w : Wire) (record : Nat) : Prop where
  | continuation :
      w.base.continuation record = .announcing → w.sent record = true →
        Wire.Ending w record
  | task (found : Nat) :
      w.announceTask record = .publishing found → Wire.Ending w record

/-- What keeps the announcements of a supervisor in order. -/
structure Wire.Sound (w : Wire) : Prop where
  born : w.base.roster.Born
  fresh : ∀ record, w.base.next ≤ record → w.epochOf record = 0
  claimed : ∀ name agent, w.base.roster.errand = .claimed name agent →
    w.epochOf agent = 0
  bounded : ∀ record, w.epochOf record ≤ w.spawnEpoch
  distinct : ∀ record other, w.epochOf record ≠ 0 →
    w.epochOf record = w.epochOf other → record = other
  entered : ∀ name record,
    w.base.dynamicChildren.lookup name = some record →
      w.epochOf record ≠ 0 ∧ w.base.agentName record = name
  idle : ∀ record, w.epochOf record = 0 →
    w.base.continuation record = .absent ∧
      w.announceTask record = .absent ∧ w.sent record = false ∧
      w.announced record = false
  alone : ∀ record, w.base.continuation record ≠ .absent →
    w.announceTask record = .absent
  heard : ∀ broadcast ∈ w.published, ∃ record, w.epochOf record ≠ 0 ∧
    (broadcast = w.registration record ∨ broadcast = w.withdrawal record)
  early : ∀ record,
    w.base.continuation record = .waiting ∨
      w.announceTask record = .waiting →
        w.said record = [] ∧ w.sent record = false
  beginning : ∀ record, w.Beginning record →
    w.said record = [] ∧
      w.base.dynamicChildren.lookup (w.base.agentName record) = some record
  ending : ∀ record, w.Ending record →
    w.said record = [w.registration record]
  found : ∀ record other,
    w.announceTask record = .settling other ∨
      w.announceTask record = .publishing other → other = record
  flagged : ∀ record, w.announced record = true →
    w.said record = [w.registration record] ∨
      w.said record = [w.withdrawal record, w.registration record]
  shape : ∀ record, w.epochOf record ≠ 0 →
    w.said record = [] ∨ w.said record = [w.registration record] ∨
      w.said record = [w.withdrawal record, w.registration record]
  withdrawn : ∀ record,
    w.said record = [w.withdrawal record, w.registration record] →
      w.base.dynamicChildren.lookup (w.base.agentName record) ≠ some record
  due : ∀ remover record, w.due remover = some record →
    w.base.withdraws? remover = some (w.base.agentName record) ∧
      w.epochOf record ≠ 0 ∧ w.announced record = true ∧
      w.said record = [w.registration record] ∧
      w.base.dynamicChildren.lookup (w.base.agentName record) ≠ some record
  returned : ∀ remover record, w.due remover = some record →
    ¬ w.Ending record
  single : ∀ remover other record,
    w.due remover = some record → w.due other = some record →
      remover = other
  gone : ∀ record, w.epochOf record ≠ 0 →
    w.base.dynamicChildren.lookup (w.base.agentName record) ≠ some record →
    w.said record = [w.registration record] →
      ∃ remover, w.due remover = some record

theorem wire_sound_init : wireInit.Sound where
  born := born_init
  fresh := fun _ _ => rfl
  claimed := by rintro _ _ ⟨⟩
  bounded := fun _ => Nat.le_refl _
  distinct := fun _ _ admitted => absurd rfl admitted
  entered := by rintro _ _ ⟨⟩
  idle := fun _ _ => ⟨rfl, rfl, rfl, rfl⟩
  alone := fun _ present => absurd rfl present
  heard := by rintro _ ⟨⟩
  early := by
    rintro record (waiting | waiting)
    · cases waiting
    · cases waiting
  beginning := by
    rintro record (⟨announcing, _⟩ | ⟨_, settling⟩)
    · cases announcing
    · cases settling
  ending := by
    rintro record (⟨announcing, _⟩ | ⟨_, publishing⟩)
    · cases announcing
    · cases publishing
  found := by
    rintro record other (settling | publishing)
    · cases settling
    · cases publishing
  flagged := by rintro _ ⟨⟩
  shape := fun _ admitted => absurd rfl admitted
  withdrawn := by rintro _ ⟨⟩
  due := by rintro _ _ ⟨⟩
  returned := by rintro _ _ ⟨⟩
  single := by rintro _ _ _ ⟨⟩
  gone := fun _ admitted => absurd rfl admitted

/-! ## Steps of the announcements -/

section Announcements

variable {w after : Wire} {record : Nat}

theorem Wire.Sound.admitted_of_continuation
    (sound : w.Sound) (present : w.base.continuation record ≠ .absent) :
    w.epochOf record ≠ 0 :=
  fun fresh => present (sound.idle record fresh).1

theorem Wire.Sound.admitted_of_task
    (sound : w.Sound) (present : w.announceTask record ≠ .absent) :
    w.epochOf record ≠ 0 :=
  fun fresh => present (sound.idle record fresh).2.1

/-- A broadcast is heard for the record it is about. -/
theorem said_self
    {broadcast : Broadcast} (epochs : after.epochOf = w.epochOf)
    (published : after.published = broadcast :: w.published)
    (about : broadcast.epoch = w.epochOf record) :
    after.said record = broadcast :: w.said record := by
  simp [Wire.said, published, epochs, about]

/-- A broadcast is not heard for any other record. -/
theorem said_of_ne
    {broadcast : Broadcast} {other : Nat} (sound : w.Sound)
    (epochs : after.epochOf = w.epochOf)
    (published : after.published = broadcast :: w.published)
    (about : broadcast.epoch = w.epochOf record)
    (admitted : w.epochOf record ≠ 0) (different : other ≠ record) :
    after.said other = w.said other := by
  have apart : w.epochOf record ≠ w.epochOf other :=
    fun same => different (sound.distinct record other admitted same).symm
  simp [Wire.said, published, epochs, about, apart]

/-- The registration that a wire publishes next. -/
structure Registers (w : Wire) (record : Nat) (after : Wire) : Prop where
  base : after.base = w.base
  spawnEpoch : after.spawnEpoch = w.spawnEpoch
  epochOf : after.epochOf = w.epochOf
  announced : after.announced = w.announced
  due : after.due = w.due
  published : after.published = w.registration record :: w.published
  begun : w.Beginning record
  sent : ∀ other, other ≠ record → after.sent other = w.sent other
  task : ∀ other, other ≠ record →
    after.announceTask other = w.announceTask other
  own :
    after.sent record = true ∧ after.announceTask record = .absent ∧
        w.base.continuation record = .announcing ∨
      ∃ found, w.announceTask record = .settling found ∧
        after.sent record = w.sent record ∧
        after.announceTask record = .publishing found

theorem registers_of_publish
    (sound : w.Sound) (stepped : w.publish record = some after) :
    Registers w record after := by
  unfold Wire.publish at stepped
  split at stepped
  · rename_i announcing unsent
    cases stepped
    have alone : w.announceTask record = .absent :=
      sound.alone record (by rw [announcing]; simp)
    refine
      ⟨rfl, rfl, rfl, rfl, rfl, rfl, .continuation announcing unsent,
        fun other different => Function.update_of_ne different ..,
        fun _ _ => rfl, .inl ⟨Function.update_self .., alone, announcing⟩⟩
  · cases stepped

theorem registers_of_announce
    {found : Nat} (settling : w.announceTask record = .settling found)
    (stepped : w.announce record .returned = some after) :
    Registers w record after := by
  simp only [Wire.announce, settling, Option.some.injEq] at stepped
  subst stepped
  exact
    ⟨rfl, rfl, rfl, rfl, rfl, rfl, .task found settling, fun _ _ => rfl,
      fun other different => Function.update_of_ne different ..,
      .inr ⟨found, settling, rfl, Function.update_self ..⟩⟩

theorem Registers.admitted
    (registers : Registers w record after) (sound : w.Sound) :
    w.epochOf record ≠ 0 := by
  cases registers.begun with
  | continuation announcing _ =>
      exact sound.admitted_of_continuation (by rw [announcing]; simp)
  | task found settling =>
      exact sound.admitted_of_task (by rw [settling]; simp)

theorem Registers.said
    (registers : Registers w record after) (sound : w.Sound) (other : Nat) :
    other = record ∧ after.said other = [w.registration record] ∨
      other ≠ record ∧ after.said other = w.said other := by
  by_cases same : other = record
  · subst same
    left
    rw [said_self registers.epochOf registers.published rfl,
      (sound.beginning other registers.begun).1]
    exact ⟨rfl, rfl⟩
  · exact
      .inr ⟨same,
        said_of_ne sound registers.epochOf registers.published rfl
          (registers.admitted sound) same⟩

theorem Registers.registration
    (registers : Registers w record after) (other : Nat) :
    after.registration other = w.registration other := by
  simp only [Wire.registration, registers.base, registers.epochOf]

theorem Registers.withdrawal
    (registers : Registers w record after) (other : Nat) :
    after.withdrawal other = w.withdrawal other := by
  simp only [Wire.withdrawal, registers.base, registers.epochOf]

section Registered

variable (registers : Registers w record after) (sound : w.Sound)

include registers sound

theorem Registers.idle_after :
    ∀ other, after.epochOf other = 0 →
      after.base.continuation other = .absent ∧
        after.announceTask other = .absent ∧ after.sent other = false ∧
        after.announced other = false := by
  intro other fresh
  rw [registers.epochOf] at fresh
  have different : other ≠ record := by
    rintro rfl
    exact registers.admitted sound fresh
  rw [registers.base, registers.task other different,
    registers.sent other different, registers.announced]
  exact sound.idle other fresh

theorem Registers.alone_after :
    ∀ other, after.base.continuation other ≠ .absent →
      after.announceTask other = .absent := by
  intro other present
  rw [registers.base] at present
  by_cases same : other = record
  · subst same
    rcases registers.own with ⟨_, absent, _⟩ | ⟨found, settling, _⟩
    · exact absent
    · rw [sound.alone other present] at settling
      cases settling
  · rw [registers.task other same]
    exact sound.alone other present

theorem Registers.heard_after :
    ∀ broadcast ∈ after.published, ∃ about, after.epochOf about ≠ 0 ∧
      (broadcast = after.registration about ∨
        broadcast = after.withdrawal about) := by
  intro broadcast member
  rw [registers.published] at member
  rcases List.mem_cons.mp member with new | old
  · refine ⟨record, ?_, .inl ?_⟩
    · rw [registers.epochOf]
      exact registers.admitted sound
    · rw [registers.registration]
      exact new
  · rcases sound.heard broadcast old with ⟨about, entered, same⟩
    refine ⟨about, ?_, ?_⟩
    · rw [registers.epochOf]
      exact entered
    · rw [registers.registration, registers.withdrawal]
      exact same

theorem Registers.early_after :
    ∀ other,
      after.base.continuation other = .waiting ∨
        after.announceTask other = .waiting →
          after.said other = [] ∧ after.sent other = false := by
  intro other waiting
  have different : other ≠ record := by
    rintro rfl
    rw [registers.base] at waiting
    rcases registers.own with
      ⟨_, absent, announcing⟩ | ⟨found, settling, _, publishing⟩
    · rcases waiting with continuing | task
      · rw [announcing] at continuing
        cases continuing
      · rw [absent] at task
        cases task
    · rcases waiting with continuing | task
      · have absent : w.announceTask other = .absent :=
          sound.alone other (by rw [continuing]; simp)
        rw [settling] at absent
        cases absent
      · rw [publishing] at task
        cases task
  rw [registers.base, registers.task other different] at waiting
  rcases registers.said sound other with ⟨same, _⟩ | ⟨_, same⟩
  · exact absurd same different
  · rw [same, registers.sent other different]
    exact sound.early other waiting

theorem Registers.beginning_after :
    ∀ other, after.Beginning other →
      after.said other = [] ∧
        after.base.dynamicChildren.lookup (after.base.agentName other) =
          some other := by
  intro other begins
  have different : other ≠ record := by
    rintro rfl
    rcases registers.own with
      ⟨sent, absent, _⟩ | ⟨found, settling, _, publishing⟩
    · cases begins with
      | continuation _ unsent =>
          rw [sent] at unsent
          cases unsent
      | task _ settled =>
          rw [absent] at settled
          cases settled
    · cases begins with
      | continuation announcing _ =>
          rw [registers.base] at announcing
          have absent : w.announceTask other = .absent :=
            sound.alone other (by rw [announcing]; simp)
          rw [settling] at absent
          cases absent
      | task _ settled =>
          rw [publishing] at settled
          cases settled
  have before : w.Beginning other := by
    cases begins with
    | continuation announcing unsent =>
        rw [registers.base] at announcing
        rw [registers.sent other different] at unsent
        exact .continuation announcing unsent
    | task found settling =>
        rw [registers.task other different] at settling
        exact .task found settling
  rcases registers.said sound other with ⟨same, _⟩ | ⟨_, same⟩
  · exact absurd same different
  · rw [same, registers.base]
    exact sound.beginning other before

theorem Registers.ending_after :
    ∀ other, after.Ending other →
      after.said other = [after.registration other] := by
  intro other ends
  rw [registers.registration]
  rcases registers.said sound other with ⟨rfl, single⟩ | ⟨different, same⟩
  · exact single
  · rw [same]
    apply sound.ending other
    cases ends with
    | continuation announcing sent =>
        rw [registers.base] at announcing
        rw [registers.sent other different] at sent
        exact .continuation announcing sent
    | task found publishing =>
        rw [registers.task other different] at publishing
        exact .task found publishing

theorem Registers.found_after :
    ∀ other found,
      after.announceTask other = .settling found ∨
        after.announceTask other = .publishing found → found = other := by
  intro other found stage
  by_cases same : other = record
  · subst same
    rcases registers.own with
      ⟨_, absent, _⟩ | ⟨earlier, settling, _, publishing⟩
    · rw [absent] at stage
      rcases stage with settled | published
      · cases settled
      · cases published
    · rw [publishing] at stage
      rcases stage with settled | published
      · cases settled
      · cases published
        exact sound.found other found (.inl settling)
  · rw [registers.task other same] at stage
    exact sound.found other found stage

theorem Registers.flagged_after :
    ∀ other, after.announced other = true →
      after.said other = [after.registration other] ∨
        after.said other =
          [after.withdrawal other, after.registration other] := by
  intro other flag
  rw [registers.announced] at flag
  rw [registers.registration, registers.withdrawal]
  rcases registers.said sound other with ⟨rfl, single⟩ | ⟨_, same⟩
  · exact .inl single
  · rw [same]
    exact sound.flagged other flag

theorem Registers.shape_after :
    ∀ other, after.epochOf other ≠ 0 →
      after.said other = [] ∨ after.said other = [after.registration other] ∨
        after.said other =
          [after.withdrawal other, after.registration other] := by
  intro other entered
  rw [registers.epochOf] at entered
  rw [registers.registration, registers.withdrawal]
  rcases registers.said sound other with ⟨rfl, single⟩ | ⟨_, same⟩
  · exact .inr (.inl single)
  · rw [same]
    exact sound.shape other entered

theorem Registers.withdrawn_after :
    ∀ other,
      after.said other =
          [after.withdrawal other, after.registration other] →
        after.base.dynamicChildren.lookup (after.base.agentName other) ≠
          some other := by
  intro other both
  rw [registers.registration, registers.withdrawal] at both
  rw [registers.base]
  rcases registers.said sound other with ⟨rfl, single⟩ | ⟨_, same⟩
  · rw [single] at both
    cases both
  · rw [same] at both
    exact sound.withdrawn other both

theorem Registers.due_after :
    ∀ remover other, after.due remover = some other →
      after.base.withdraws? remover = some (after.base.agentName other) ∧
        after.epochOf other ≠ 0 ∧ after.announced other = true ∧
        after.said other = [after.registration other] ∧
        after.base.dynamicChildren.lookup (after.base.agentName other) ≠
          some other := by
  intro remover other due
  rw [registers.due] at due
  have held := sound.due remover other due
  rw [registers.base, registers.epochOf, registers.announced,
    registers.registration]
  rcases registers.said sound other with ⟨rfl, _⟩ | ⟨_, same⟩
  · exact absurd (sound.beginning _ registers.begun).2 held.2.2.2.2
  · rw [same]
    exact held

theorem Registers.returned_after :
    ∀ remover other, after.due remover = some other →
      ¬after.Ending other := by
  intro remover other due ends
  rw [registers.due] at due
  have held := sound.due remover other due
  have different : other ≠ record := by
    rintro rfl
    exact held.2.2.2.2 (sound.beginning _ registers.begun).2
  apply sound.returned remover other due
  cases ends with
  | continuation announcing sent =>
      rw [registers.base] at announcing
      rw [registers.sent other different] at sent
      exact .continuation announcing sent
  | task found publishing =>
      rw [registers.task other different] at publishing
      exact .task found publishing

theorem Registers.gone_after :
    ∀ other, after.epochOf other ≠ 0 →
      after.base.dynamicChildren.lookup (after.base.agentName other) ≠
          some other →
        after.said other = [after.registration other] →
          ∃ remover, after.due remover = some other := by
  intro other entered absent single
  rw [registers.epochOf] at entered
  rw [registers.base] at absent
  rw [registers.registration] at single
  rw [registers.due]
  rcases registers.said sound other with ⟨rfl, _⟩ | ⟨_, same⟩
  · exact absurd (sound.beginning _ registers.begun).2 absent
  · rw [same] at single
    exact sound.gone other entered absent single

end Registered

/-- A registration is published and nothing else changes. -/
theorem Registers.sound
    (registers : Registers w record after) (sound : w.Sound) :
    after.Sound where
  born := by
    rw [registers.base]
    exact sound.born
  fresh := by
    rw [registers.base, registers.epochOf]
    exact sound.fresh
  claimed := by
    rw [registers.base, registers.epochOf]
    exact sound.claimed
  bounded := by
    rw [registers.epochOf, registers.spawnEpoch]
    exact sound.bounded
  distinct := by
    rw [registers.epochOf]
    exact sound.distinct
  entered := by
    rw [registers.base, registers.epochOf]
    exact sound.entered
  idle := registers.idle_after sound
  alone := registers.alone_after sound
  heard := registers.heard_after sound
  early := registers.early_after sound
  beginning := registers.beginning_after sound
  ending := registers.ending_after sound
  found := registers.found_after sound
  flagged := registers.flagged_after sound
  shape := registers.shape_after sound
  withdrawn := registers.withdrawn_after sound
  due := registers.due_after sound
  returned := registers.returned_after sound
  single := by
    rw [registers.due]
    exact sound.single
  gone := registers.gone_after sound

/-- A task that is not finished has not moved, or it settles. -/
theorem task_of_move
    {stage later : AnnounceStage} {other : Nat} {facts : Prop}
    (moves : stage = .finished ∨ stage = .settling record ∧ facts)
    (moved : update w.announceTask record stage other = later)
    (unfinished : later ≠ .finished) :
    w.announceTask other = later ∨
      other = record ∧ later = .settling record ∧ facts := by
  by_cases same : other = record
  · subst same
    rw [Function.update_self] at moved
    subst moved
    rcases moves with finished | ⟨settling, known⟩
    · exact absurd finished unfinished
    · exact .inr ⟨rfl, settling, known⟩
  · rw [Function.update_of_ne same] at moved
    exact .inl moved

/-- The task of a record moves without publishing anything. -/
theorem Wire.Sound.moveTask
    {stage : AnnounceStage} {announced : Nat → Bool} (sound : w.Sound)
    (present : w.announceTask record ≠ .absent)
    (moves :
      stage = .finished ∨
        stage = .settling record ∧ w.said record = [] ∧
          w.base.dynamicChildren.lookup (w.base.agentName record) =
            some record)
    (keeps : ∀ other, w.announced other = true → announced other = true)
    (flags : ∀ other, announced other = true →
      w.announced other = true ∨
        other = record ∧ w.said record = [w.registration record]) :
    Wire.Sound
      { w with
        announced := announced
        announceTask := update w.announceTask record stage } := by
  have admitted := sound.admitted_of_task present
  have unawaited : w.base.continuation record = .absent := by
    by_contra continuing
    exact present (sound.alone record continuing)
  have task : ∀ other, other ≠ record →
      update w.announceTask record stage other = w.announceTask other :=
    fun other different => Function.update_of_ne different ..
  refine
    { born := sound.born
      fresh := sound.fresh
      claimed := sound.claimed
      bounded := sound.bounded
      distinct := sound.distinct
      entered := sound.entered
      idle := ?_
      alone := ?_
      heard := sound.heard
      early := ?_
      beginning := ?_
      ending := ?_
      found := ?_
      flagged := ?_
      shape := sound.shape
      withdrawn := sound.withdrawn
      due := ?_
      returned := ?_
      single := sound.single
      gone := sound.gone }
  · intro other fresh
    have different : other ≠ record := by
      rintro rfl
      exact admitted fresh
    have idle := sound.idle other fresh
    refine ⟨idle.1, (task other different).trans idle.2.1, idle.2.2.1, ?_⟩
    by_contra flag
    rcases flags other (by simpa using flag) with old | ⟨same, _⟩
    · rw [idle.2.2.2] at old
      cases old
    · exact different same
  · intro other continuing
    have different : other ≠ record := by
      rintro rfl
      exact continuing unawaited
    exact (task other different).trans (sound.alone other continuing)
  · intro other waiting
    apply sound.early other
    rcases waiting with continuing | tasked
    · exact .inl continuing
    · rcases task_of_move moves tasked (by simp) with old | ⟨_, ⟨⟩, _⟩
      exact .inr old
  · intro other begins
    cases begins with
    | continuation announcing unsent =>
        exact sound.beginning other (.continuation announcing unsent)
    | task found settling =>
        rcases task_of_move moves settling (by simp) with
          old | ⟨rfl, _, silent⟩
        · exact sound.beginning other (.task found old)
        · exact silent
  · intro other ends
    cases ends with
    | continuation announcing sent =>
        exact sound.ending other (.continuation announcing sent)
    | task found publishing =>
        rcases task_of_move moves publishing (by simp) with
          old | ⟨_, ⟨⟩, _⟩
        exact sound.ending other (.task found old)
  · intro other found stays
    rcases stays with settled | published
    · rcases task_of_move moves settled (by simp) with old | ⟨rfl, same, _⟩
      · exact sound.found other found (.inl old)
      · cases same
        rfl
    · rcases task_of_move moves published (by simp) with old | ⟨_, ⟨⟩, _⟩
      exact sound.found other found (.inr old)
  · intro other flag
    rcases flags other flag with old | ⟨rfl, single⟩
    · exact sound.flagged other old
    · exact .inl single
  · intro remover other due
    have held := sound.due remover other due
    exact
      ⟨held.1, held.2.1, keeps other held.2.2.1, held.2.2.2.1,
        held.2.2.2.2⟩
  · intro remover other due ends
    apply sound.returned remover other due
    cases ends with
    | continuation announcing sent => exact .continuation announcing sent
    | task found publishing =>
        rcases task_of_move moves publishing (by simp) with
          old | ⟨_, ⟨⟩, _⟩
        exact .task found old

theorem sound_of_announce
    {resumption : Resumption} (sound : w.Sound)
    (ordered : w.beginsRecorded (.announce record resumption) = true)
    (stepped : w.announce record resumption = some after) :
    after.Sound := by
  cases stage : w.announceTask record with
  | absent => simp [Wire.announce, stage] at stepped
  | finished => simp [Wire.announce, stage] at stepped
  | waiting =>
      cases resumption with
      | returned =>
          simp only [Wire.announce, stage] at stepped
          split_ifs at stepped
          cases stepped
          apply sound.moveTask
          · rw [stage]
            simp
          · have chosen :
                w.findRecord record = .finished ∨
                  w.findRecord record = .settling record := by
              simpa [Wire.beginsRecorded, stage] using ordered
            rcases chosen with finished | settling
            · exact .inl finished
            · refine
                .inr ⟨settling, (sound.early record (.inr stage)).1, ?_⟩
              unfold Wire.findRecord at settling
              split_ifs at settling
              split at settling
              · rename_i found entered
                cases settling
                exact entered
              · cases settling
          · exact fun _ flag => flag
          · exact fun _ flag => .inl flag
      | raised => simp [Wire.announce, stage] at stepped
      | timedOut => simp [Wire.announce, stage] at stepped
      | cancelled => simp [Wire.announce, stage] at stepped
  | settling found =>
      cases resumption with
      | returned => exact (registers_of_announce stage stepped).sound sound
      | raised =>
          simp only [Wire.announce, stage, Option.some.injEq] at stepped
          subst stepped
          exact
            sound.moveTask (by rw [stage]; simp) (.inl rfl)
              (fun _ flag => flag) (fun _ flag => .inl flag)
      | timedOut => simp [Wire.announce, stage] at stepped
      | cancelled => simp [Wire.announce, stage] at stepped
  | publishing found =>
      cases resumption with
      | returned =>
          simp only [Wire.announce, stage, Option.some.injEq] at stepped
          subst stepped
          have same : found = record := sound.found record found (.inr stage)
          subst same
          apply sound.moveTask
          · rw [stage]
            simp
          · exact .inl rfl
          · intro other flag
            by_cases same : other = found
            · rw [same]
              exact Function.update_self ..
            · rw [Function.update_of_ne same]
              exact flag
          · intro other flag
            by_cases same : other = found
            · exact .inr ⟨same, sound.ending found (.task found stage)⟩
            · rw [Function.update_of_ne same] at flag
              exact .inl flag
      | raised =>
          simp only [Wire.announce, stage, Option.some.injEq] at stepped
          subst stepped
          exact
            sound.moveTask (by rw [stage]; simp) (.inl rfl)
              (fun _ flag => flag) (fun _ flag => .inl flag)
      | timedOut => simp [Wire.announce, stage] at stepped
      | cancelled => simp [Wire.announce, stage] at stepped

end Announcements

/-! ## Steps of the supervisor -/

section Follow

variable {cfg : Config} {w : Wire} {label : Label} {after : State}

theorem admits_cases
    {s : State} {agent : Nat} {waits : Bool}
    (admits : s.admits label = some (agent, waits)) :
    ∃ spawn spawner, label = .loop .returned ∧
      s.loop = .auditing spawn agent ∧
      spawn.spawner.key? = some spawner ∧ spawn.wait = waits := by
  unfold State.admits at admits
  split at admits
  · split at admits
    · rename_i spawn other loop
      split_ifs at admits with hashable
      cases admits
      rcases Option.isSome_iff_exists.mp hashable with ⟨spawner, key⟩
      exact ⟨spawn, spawner, rfl, loop, key, rfl⟩
    · cases admits
  · cases admits

/-- The agent that is admitted has no epoch yet. -/
theorem Wire.Sound.unadmitted
    (sound : w.Sound) {agent : Nat} {waits : Bool}
    (admits : w.base.admits label = some (agent, waits)) :
    w.epochOf agent = 0 := by
  rcases admits_cases admits with ⟨spawn, _, _, loop, _, _⟩
  apply sound.claimed spawn.name agent
  simp only [State.roster, loop, LoopStage.errand]

theorem Wire.Sound.below
    (sound : w.Sound) {record : Nat} (admitted : w.epochOf record ≠ 0) :
    record < w.base.next := by
  by_contra above
  exact admitted (sound.fresh record (Nat.le_of_not_lt above))

theorem follow_epochOf
    (sound : w.Sound) {record : Nat} (admitted : w.epochOf record ≠ 0) :
    (w.follow label after).epochOf record = w.epochOf record := by
  simp only [Wire.follow]
  cases admits : w.base.admits label with
  | none => rfl
  | some pair =>
      rcases pair with ⟨agent, waits⟩
      apply Function.update_of_ne
      rintro rfl
      exact admitted (sound.unadmitted admits)

/-- An epoch is old, or given to the child that the step admits. -/
theorem follow_admitted
    {record : Nat}
    (admitted : (w.follow label after).epochOf record ≠ 0) :
    w.epochOf record ≠ 0 ∨
      ∃ waits, w.base.admits label = some (record, waits) ∧
        (w.follow label after).epochOf record = w.spawnEpoch + 1 := by
  simp only [Wire.follow] at admitted ⊢
  cases admits : w.base.admits label with
  | none =>
      rw [admits] at admitted
      exact .inl admitted
  | some pair =>
      rcases pair with ⟨agent, waits⟩
      rw [admits] at admitted
      by_cases same : record = agent
      · subst same
        exact .inr ⟨waits, rfl, Function.update_self ..⟩
      · simp only at admitted
        rw [Function.update_of_ne same] at admitted
        exact .inl admitted

theorem follow_agentName
    (sound : w.Sound) (stepped : step cfg w.base label = some after)
    {record : Nat} (admitted : w.epochOf record ≠ 0) :
    after.agentName record = w.base.agentName record :=
  (step_motion stepped).grows.agentName record (sound.below admitted)

/-- A record that is in the table after the step was there before. -/
theorem lookup_before
    (sound : w.Sound) (stepped : step cfg w.base label = some after)
    {name : Name} {record : Nat} (admitted : w.epochOf record ≠ 0)
    (entered : after.dynamicChildren.lookup name = some record) :
    w.base.dynamicChildren.lookup name = some record := by
  rcases (step_tableMoves stepped).entry name with
    same | ⟨gone, _⟩ | ⟨spawn, agent, loop, _, _, admits⟩
  · rw [← same]
    exact entered
  · rw [gone] at entered
    cases entered
  · rw [admits] at entered
    cases entered
    exfalso
    apply admitted
    apply sound.claimed spawn.name record
    simp only [State.roster, loop, LoopStage.errand]

/-- A record leaves the table only by a removal. -/
theorem removes_of_lookup
    (sound : w.Sound) (stepped : step cfg w.base label = some after)
    {name : Name} {record : Nat}
    (entered : w.base.dynamicChildren.lookup name = some record)
    (absent : after.dynamicChildren.lookup name ≠ some record) :
    Removes w.base label after name := by
  rcases (step_tableMoves stepped).entry name with
    same | ⟨_, removes⟩ | ⟨spawn, agent, loop, _, named, _⟩
  · rw [same] at absent
    exact absurd entered absent
  · exact removes
  · have vacant :=
      (sound.born.claimed spawn.name agent (by
        simp only [State.roster, loop, LoopStage.errand])).2.2
    rw [named] at vacant
    have found : w.base.roster.entry name = some record := entered
    rw [vacant] at found
    cases found

/-- The child that is admitted is in the table. -/
theorem lookup_admitted
    (stepped : step cfg w.base label = some after) {agent : Nat}
    {waits : Bool} (sound : w.Sound)
    (admits : w.base.admits label = some (agent, waits)) :
    after.dynamicChildren.lookup (after.agentName agent) = some agent ∧
      after.continuation agent = (if waits then .waiting else .absent) := by
  have fresh := sound.unadmitted admits
  rcases admits_cases admits with ⟨spawn, spawner, rfl, loop, key, rfl⟩
  have named :=
    (sound.born.claimed spawn.name agent (by
      simp only [State.roster, loop, LoopStage.errand])).2.1
  simp only [step, State.resumeLoop, loop, Option.some.injEq] at stepped
  subst stepped
  have names :
      (w.base.enroll spawn agent).agentName = w.base.agentName := by
    simp [State.enroll, key]
  have table :
      (w.base.enroll spawn agent).dynamicChildren =
        w.base.dynamicChildren.insert spawn.name agent := by
    simp [State.enroll, key]
  constructor
  · have same : w.base.agentName agent = spawn.name := named
    rw [names, table, same]
    exact AList.lookup_insert _
  · simp only [State.enroll, key]
    split_ifs
    · exact Function.update_self ..
    · exact (sound.idle agent fresh).1

/-- What the step publishes is the withdrawal of a record that is due. -/
theorem publishedAfter_cases
    (label : Label) (sound : w.Sound) :
    w.publishedAfter label = w.published ∨
      ∃ remover record, label.returns? = some remover ∧
        w.due remover = some record ∧
        w.publishedAfter label = w.withdrawal record :: w.published := by
  unfold Wire.publishedAfter
  split
  · rename_i remover returns
    split
    · rename_i name record withdraws due
      have named := (sound.due remover record due).1
      rw [withdraws] at named
      cases named
      exact .inr ⟨remover, record, returns, due, rfl⟩
    · exact .inl rfl
  · exact .inl rfl

/-- An admission publishes nothing. -/
theorem publishedAfter_of_admits
    {agent : Nat} {waits : Bool}
    (admits : w.base.admits label = some (agent, waits)) :
    w.publishedAfter label = w.published := by
  rcases admits_cases admits with ⟨spawn, spawner, rfl, loop, _, _⟩
  simp [Wire.publishedAfter, Label.returns?, State.withdraws?, loop]

theorem follow_registration
    (sound : w.Sound) (stepped : step cfg w.base label = some after)
    {record : Nat} (admitted : w.epochOf record ≠ 0) :
    (w.follow label after).registration record = w.registration record := by
  simp only [Wire.registration]
  rw [follow_epochOf sound admitted]
  exact
    congrArg (Broadcast.register · _) (follow_agentName sound stepped admitted)

theorem follow_withdrawal
    (sound : w.Sound) (stepped : step cfg w.base label = some after)
    {record : Nat} (admitted : w.epochOf record ≠ 0) :
    (w.follow label after).withdrawal record = w.withdrawal record := by
  simp only [Wire.withdrawal]
  rw [follow_epochOf sound admitted]
  exact
    congrArg (Broadcast.deregister · _)
      (follow_agentName sound stepped admitted)

/-- What is said about a record changes by the withdrawal that is due. -/
theorem follow_said
    (sound : w.Sound) {record : Nat} (admitted : w.epochOf record ≠ 0) :
    (w.follow label after).said record = w.said record ∨
      ∃ remover, label.returns? = some remover ∧
        w.due remover = some record ∧
        (w.follow label after).said record =
          w.withdrawal record :: w.said record := by
  simp only [Wire.said]
  rw [follow_epochOf sound admitted]
  simp only [Wire.follow]
  rcases publishedAfter_cases label sound with
    same | ⟨remover, other, returns, due, published⟩
  · rw [same]
    exact .inl rfl
  · rw [published]
    by_cases about : other = record
    · subst about
      refine .inr ⟨remover, returns, due, ?_⟩
      simp [Wire.withdrawal, Broadcast.epoch]
    · have entered := (sound.due remover other due).2.1
      have apart : w.epochOf other ≠ w.epochOf record :=
        fun same => about (sound.distinct other record entered same)
      left
      simp [Wire.withdrawal, Broadcast.epoch, apart]

/-- Nothing has been said about a child that is just admitted. -/
theorem said_admitted
    (sound : w.Sound) {record : Nat} {waits : Bool}
    (admits : w.base.admits label = some (record, waits))
    (epoch :
      (w.follow label after).epochOf record = w.spawnEpoch + 1) :
    (w.follow label after).said record = [] := by
  simp only [Wire.said, epoch, List.filter_eq_nil_iff, decide_eq_true_eq]
  intro broadcast member
  have old : broadcast ∈ w.published := by
    simpa only [Wire.follow, publishedAfter_of_admits admits] using member
  rcases sound.heard broadcast old with ⟨about, _, same⟩
  have bounded := sound.bounded about
  rcases same with rfl | rfl
  · simp only [Wire.registration, Broadcast.epoch]
    omega
  · simp only [Wire.withdrawal, Broadcast.epoch]
    omega

/-- A removal that has announced itself goes on. -/
theorem withdraws_of_returns
    {s : State} {remover : Remover} {name : Name}
    (stepped : step cfg s label = some after)
    (returns : label.returns? = some remover)
    (withdraws : s.withdraws? remover = some name) :
    after.withdraws? remover = none := by
  unfold Label.returns? at returns
  split at returns
  · cases returns
    have stage : ∃ request, s.loop = .removing request name := by
      unfold State.withdraws? at withdraws
      cases loop : s.loop <;> simp_all
    rcases stage with ⟨request, removing⟩
    simp only [step, State.resumeLoop, removing,
      Option.some.injEq] at stepped
    subst stepped
    rfl
  · rename_i agent now constructs
    cases returns
    have stage := (withdrawing_of_withdraws withdraws).1
    cases found : s.exit agent with
    | announcing reason =>
        simp only [step, State.resumeExit, found,
          Option.some.injEq] at stepped
        subst stepped
        rcases noticeStage_cases s agent with
          finished | ⟨spawner, notifying⟩
        · simp [State.withdraws?, State.setExit, finished]
        · simp [State.withdraws?, State.setExit, notifying]
    | leaving cause =>
        simp only [step, State.resumeExit, found,
          Option.some.injEq] at stepped
        subst stepped
        rcases afterCleanup_cases s agent cause with
          finished | ⟨spawner, notifying⟩
        · simp [State.withdraws?, State.setExit, finished]
        · simp [State.withdraws?, State.setExit, notifying]
    | _ => simp [found, ExitStage.withdrawing] at stage
  · rename_i record
    cases returns
    have stage := (leaving_of_withdraws withdraws).1
    simp only [step, State.resumeContinuation, stage,
      Option.some.injEq] at stepped
    subst stepped
    simp [State.withdraws?, State.setContinuation]
  · cases returns

/-- A withdrawal is due from before, or a removal has just begun it. -/
theorem dueAfter_cases
    (stepped : step cfg w.base label = some after)
    (settled : w.removesSettled label after = true)
    {remover : Remover} {record : Nat}
    (due : w.dueAfter label after remover = some record) :
    (w.due remover = some record ∧
        (∃ name, after.withdraws? remover = some name) ∧
        label.returns? ≠ some remover) ∨
      label.remover? = some remover ∧
        ∃ name, w.base.dynamicChildren.lookup name = some record ∧
          after.withdraws? remover = some name ∧
          after.dynamicChildren.lookup name = none ∧
          w.announced record = true ∧ w.unsettled record = false := by
  unfold Wire.dueAfter at due
  cases before : w.base.withdraws? remover with
  | some name =>
      cases now : after.withdraws? remover with
      | none => simp [before, now] at due
      | some later =>
          simp only [before, now] at due
          refine .inl ⟨due, ⟨later, rfl⟩, ?_⟩
          intro returns
          rw [withdraws_of_returns stepped returns before] at now
          cases now
  | none =>
      cases now : after.withdraws? remover with
      | none => simp [before, now] at due
      | some name =>
          simp only [before, now, Option.filter_eq_some_iff] at due
          have removed := removed_of_withdraws stepped before now
          unfold Wire.removesSettled at settled
          simp only [removed.1, before, now] at settled
          cases entered : w.base.dynamicChildren.lookup name with
          | none =>
              simp [entered, due.1, due.2] at settled
          | some found =>
              simp only [entered, due.1, Bool.and_eq_true,
                decide_eq_true_eq, Option.some.injEq,
                Bool.not_eq_true'] at settled
              rw [← settled.1] at entered
              rw [← settled.1] at settled
              exact
                .inr ⟨removed.1, name, entered, rfl, removed.2, due.2,
                  settled.2⟩

/-- How the continuation of a record can resume. -/
theorem resumeContinuation_cases
    {s : State} {record : Nat} {resumption : Resumption}
    (resumed : s.resumeContinuation record resumption = some after) :
    after.continuation record ≠ .waiting ∧
      after.continuation record ≠ .absent ∧
      s.continuation record ≠ .absent ∧
      (after.continuation record = .announcing →
        s.continuation record = .waiting ∧ resumption = .returned ∧
          (s.status record).ready = true) := by
  unfold State.resumeContinuation at resumed
  simp only at resumed
  repeat' split at resumed
  all_goals cases resumed
  all_goals
    first
    | refine ⟨?_, ?_, by rw [‹s.continuation record = _›]; simp, ?_⟩
      · simp [State.setContinuation, State.removeChild, State.deregister]
      · simp [State.setContinuation, State.removeChild, State.deregister]
      · simp [State.setContinuation, State.removeChild, State.deregister]
    | skip
  refine ⟨?_, ?_, by rw [‹s.continuation record = _›]; simp, ?_⟩
  · simp [State.setContinuation]
  · simp [State.setContinuation]
  · exact fun _ => ⟨‹_›, rfl, ‹_›⟩

theorem announceTaskAfter_cases (record : Nat) :
    w.base.admits label = some (record, false) ∧
        w.announceTaskAfter label after record = .waiting ∨
      w.announceTaskAfter label after record = w.announceTask record ∨
      w.announceTaskAfter label after record =
        (w.announceTask record).cancel := by
  unfold Wire.announceTaskAfter
  split
  · rename_i agent admits
    by_cases same : record = agent
    · rw [same]
      exact .inl ⟨admits, Function.update_self ..⟩
    · exact .inr (.inl (Function.update_of_ne same ..))
  · split_ifs
    · exact .inr (.inr rfl)
    · exact .inr (.inl rfl)

/-- A flag is old, or set by the continuation of the record. -/
theorem announcedAfter_cases
    (may : w.mayReturn label = true) (record : Nat) :
    w.announcedAfter label record = w.announced record ∨
      w.announcedAfter label record = true ∧
        w.base.continuation record = .announcing ∧
        w.sent record = true := by
  unfold Wire.announcedAfter
  split
  · rename_i other
    split
    · rename_i announcing
      by_cases same : record = other
      · subst same
        refine .inr ⟨Function.update_self .., announcing, ?_⟩
        simpa [Wire.mayReturn, announcing] using may
      · exact .inl (Function.update_of_ne same ..)
    · exact .inl rfl
  · exact .inl rfl

theorem announcedAfter_of_announced
    {record : Nat} (flag : w.announced record = true) :
    w.announcedAfter label record = true := by
  unfold Wire.announcedAfter
  split
  · rename_i other
    split
    · by_cases same : record = other
      · rw [same]
        exact Function.update_self ..
      · rw [Function.update_of_ne same]
        exact flag
    · exact flag
  · exact flag

/-! ### Epochs -/

theorem follow_idle
    (sound : w.Sound) (stepped : step cfg w.base label = some after)
    (may : w.mayReturn label = true) (record : Nat)
    (fresh : (w.follow label after).epochOf record = 0) :
    after.continuation record = .absent ∧
      w.announceTaskAfter label after record = .absent ∧
      w.sent record = false ∧ w.announcedAfter label record = false := by
  have old : w.epochOf record = 0 := by
    by_contra admitted
    rw [follow_epochOf sound admitted] at fresh
    exact admitted fresh
  have unadmitted : ∀ waits,
      w.base.admits label ≠ some (record, waits) := by
    intro waits admits
    simp only [Wire.follow, admits, Function.update_self] at fresh
    exact Nat.succ_ne_zero _ fresh
  have idle := sound.idle record old
  refine ⟨?_, ?_, idle.2.2.1, ?_⟩
  · cases continuation_of_step stepped record with
    | same same => exact same.trans idle.1
    | own resumption labelled =>
        subst labelled
        exact absurd idle.1 (resumeContinuation_cases stepped).2.2.1
    | admitted admits => exact absurd admits (unadmitted true)
    | cancelled _ _ cancelled =>
        rw [cancelled, idle.1]
        rfl
  · rcases announceTaskAfter_cases (w := w) record with
      ⟨admits, _⟩ | same | cancelled
    · exact absurd admits (unadmitted false)
    · exact same.trans idle.2.1
    · rw [cancelled, idle.2.1]
      rfl
  · rcases announcedAfter_cases may record with same | ⟨_, announcing, _⟩
    · exact same.trans idle.2.2.2
    · rw [idle.1] at announcing
      cases announcing

theorem follow_entered
    (sound : w.Sound) (stepped : step cfg w.base label = some after)
    {name : Name} {record : Nat}
    (entered : after.dynamicChildren.lookup name = some record) :
    (w.follow label after).epochOf record ≠ 0 ∧
      after.agentName record = name := by
  have old : w.base.dynamicChildren.lookup name = some record →
      (w.follow label after).epochOf record ≠ 0 ∧
        after.agentName record = name := by
    intro before
    have held := sound.entered name record before
    rw [follow_epochOf sound held.1, follow_agentName sound stepped held.1]
    exact held
  rcases (step_tableMoves stepped).entry name with
    same | ⟨gone, _⟩ | ⟨spawn, agent, loop, labelled, named, admitted⟩
  · exact old (same.symm.trans entered)
  · rw [gone] at entered
    cases entered
  · rw [admitted] at entered
    cases entered
    subst labelled
    cases key : spawn.spawner.key? with
    | none =>
        apply old
        simp only [step, State.resumeLoop, loop, Option.some.injEq] at stepped
        subst stepped
        simpa [State.enroll, key, State.fail, State.onStop,
          State.stopChildren] using admitted
    | some spawner =>
        have admits := admits_of_auditing loop key
        constructor
        · simp only [Wire.follow, admits, Function.update_self]
          exact Nat.succ_ne_zero _
        · have claimed :=
            (sound.born.claimed spawn.name record (by
              simp only [State.roster, loop, LoopStage.errand]))
          have same := (step_motion stepped).grows.agentName record claimed.1
          exact (same.trans claimed.2.1).trans named

theorem follow_bounded (sound : w.Sound) (record : Nat) :
    (w.follow label after).epochOf record ≤
      (w.follow label after).spawnEpoch := by
  have bounded := sound.bounded record
  simp only [Wire.follow]
  cases admits : w.base.admits label with
  | none => exact bounded
  | some pair =>
      rcases pair with ⟨agent, waits⟩
      by_cases same : record = agent
      · subst same
        exact Nat.le_of_eq (Function.update_self ..)
      · simp only [Option.isSome_some, if_true]
        rw [Function.update_of_ne same]
        omega

theorem follow_distinct
    (sound : w.Sound) (record other : Nat)
    (admitted : (w.follow label after).epochOf record ≠ 0)
    (same : (w.follow label after).epochOf record =
      (w.follow label after).epochOf other) :
    record = other := by
  have entered : (w.follow label after).epochOf other ≠ 0 := by
    rw [← same]
    exact admitted
  rcases follow_admitted admitted with old | ⟨_, admits, new⟩
  · rw [follow_epochOf sound old] at same
    rcases follow_admitted entered with before | ⟨_, _, new⟩
    · rw [follow_epochOf sound before] at same
      exact sound.distinct record other old same
    · have bounded := sound.bounded record
      omega
  · rcases follow_admitted entered with before | ⟨_, other, _⟩
    · rw [follow_epochOf sound before] at same
      have bounded := sound.bounded other
      omega
    · rw [admits] at other
      cases other
      rfl

/-! ### Registrations under way -/

theorem follow_alone
    (sound : w.Sound) (stepped : step cfg w.base label = some after)
    (record : Nat) (present : after.continuation record ≠ .absent) :
    w.announceTaskAfter label after record = .absent := by
  have alone : w.base.continuation record ≠ .absent →
      w.announceTaskAfter label after record = .absent := by
    intro continuing
    have admitted := sound.admitted_of_continuation continuing
    rcases announceTaskAfter_cases record with
      ⟨admits, _⟩ | same | cancelled
    · exact absurd (sound.unadmitted admits) admitted
    · exact same.trans (sound.alone record continuing)
    · rw [cancelled, sound.alone record continuing]
      rfl
  cases continuation_of_step stepped record with
  | same same =>
      rw [same] at present
      exact alone present
  | own resumption labelled =>
      subst labelled
      exact alone (resumeContinuation_cases stepped).2.2.1
  | admitted admits =>
      have idle := (sound.idle record (sound.unadmitted admits)).2.1
      rcases announceTaskAfter_cases record with
        ⟨other, _⟩ | same | cancelled
      · rw [admits] at other
        cases other
      · exact same.trans idle
      · rw [cancelled, idle]
        rfl
  | cancelled _ _ cancelled =>
      apply alone
      intro absent
      rw [cancelled, absent] at present
      exact present rfl

theorem follow_early
    (sound : w.Sound) (stepped : step cfg w.base label = some after)
    (record : Nat)
    (waiting : after.continuation record = .waiting ∨
      w.announceTaskAfter label after record = .waiting) :
    (w.follow label after).said record = [] ∧ w.sent record = false := by
  have new : ∀ waits, w.base.admits label = some (record, waits) →
      (w.follow label after).said record = [] ∧ w.sent record = false := by
    intro waits admits
    constructor
    · apply said_admitted sound admits
      simp only [Wire.follow, admits, Function.update_self]
    · exact (sound.idle record (sound.unadmitted admits)).2.2.1
  have old : w.base.continuation record = .waiting ∨
      w.announceTask record = .waiting →
      (w.follow label after).said record = [] ∧ w.sent record = false := by
    intro before
    have early := sound.early record before
    have admitted : w.epochOf record ≠ 0 := by
      rcases before with continuing | tasked
      · exact sound.admitted_of_continuation (by rw [continuing]; simp)
      · exact sound.admitted_of_task (by rw [tasked]; simp)
    rcases follow_said sound admitted with same | ⟨remover, _, due, _⟩
    · rw [same]
      exact early
    · have said := (sound.due remover record due).2.2.2.1
      rw [early.1] at said
      cases said
  rcases waiting with continuing | tasked
  · cases continuation_of_step stepped record with
    | same same => exact old (.inl (same.symm.trans continuing))
    | own resumption labelled =>
        subst labelled
        exact absurd continuing (resumeContinuation_cases stepped).1
    | admitted admits => exact new true admits
    | cancelled _ _ cancelled =>
        rw [cancelled] at continuing
        cases stage : w.base.continuation record <;>
          simp [stage, SpawnStage.cancel] at continuing
  · rcases announceTaskAfter_cases record with
      ⟨admits, _⟩ | same | cancelled
    · exact new false admits
    · exact old (.inr (same.symm.trans tasked))
    · rw [cancelled] at tasked
      cases stage : w.announceTask record <;>
        simp [stage, AnnounceStage.cancel] at tasked

/-- A registration under way has been so, or its continuation begins it. -/
theorem announcing_before
    (stepped : step cfg w.base label = some after)
    (begins : w.beginsRecorded (.base label) = true) {record : Nat}
    (announcing : after.continuation record = .announcing) :
    w.base.continuation record = .announcing ∨
      w.base.continuation record = .waiting ∧
        w.base.dynamicChildren.lookup (w.base.agentName record) =
          some record ∧
        label.remover? = some (.continuation record) := by
  cases continuation_of_step stepped record with
  | same same => exact .inl (same.symm.trans announcing)
  | own resumption labelled =>
      subst labelled
      rcases (resumeContinuation_cases stepped).2.2.2 announcing with
        ⟨waiting, rfl, ready⟩
      refine .inr ⟨waiting, ?_, rfl⟩
      simpa [Wire.beginsRecorded, waiting, ready, Wire.recorded] using begins
  | admitted _ waiting =>
      rw [waiting] at announcing
      cases announcing
  | cancelled _ _ cancelled =>
      rw [cancelled] at announcing
      cases stage : w.base.continuation record <;>
        simp [stage, SpawnStage.cancel] at announcing

/-- No removal takes a record out while its registration is under way. -/
theorem lookup_of_unsettled
    (sound : w.Sound) (stepped : step cfg w.base label = some after)
    (settled : w.removesSettled label after = true)
    {name : Name} {record : Nat}
    (entered : w.base.dynamicChildren.lookup name = some record)
    (unsettled : w.unsettled record = true) :
    after.dynamicChildren.lookup name = some record := by
  by_contra absent
  have removes := removes_of_lookup sound stepped entered absent
  rcases withdraws_of_removes stepped removes with
    ⟨remover, own, before, now⟩
  simp [Wire.removesSettled, own, before, now, entered,
    unsettled] at settled

theorem unsettled_of_beginning
    {record : Nat} (begins : w.Beginning record) :
    w.unsettled record = true := by
  unfold Wire.unsettled
  cases begins with
  | continuation announcing => simp [announcing]
  | task found settling => simp [settling]

/-- A continuation that begins its registration removes nothing. -/
theorem lookup_of_announcing
    (sound : w.Sound) (stepped : step cfg w.base label = some after)
    {name : Name} {record : Nat}
    (announcing : after.continuation record = .announcing)
    (own : label.remover? = some (.continuation record))
    {held : Nat} (entered : w.base.dynamicChildren.lookup name = some held) :
    after.dynamicChildren.lookup name = some held := by
  by_contra absent
  have removes := removes_of_lookup sound stepped entered absent
  rcases withdraws_of_removes stepped removes with
    ⟨remover, labelled, _, now⟩
  rw [own] at labelled
  cases labelled
  simp [State.withdraws?, announcing] at now

theorem follow_beginning
    (sound : w.Sound) (stepped : step cfg w.base label = some after)
    (begins : w.beginsRecorded (.base label) = true)
    (settled : w.removesSettled label after = true)
    (record : Nat) (beginning : (w.follow label after).Beginning record) :
    (w.follow label after).said record = [] ∧
      after.dynamicChildren.lookup (after.agentName record) =
        some record := by
  have old : w.Beginning record →
      (w.follow label after).said record = [] ∧
        after.dynamicChildren.lookup (after.agentName record) =
          some record := by
    intro before
    have held := sound.beginning record before
    have admitted := (sound.entered _ record held.2).1
    rw [follow_agentName sound stepped admitted]
    refine ⟨?_, ?_⟩
    · rcases follow_said sound admitted with same | ⟨remover, _, due, _⟩
      · exact same.trans held.1
      · exact absurd held.2 (sound.due remover record due).2.2.2.2
    · exact
        lookup_of_unsettled sound stepped settled held.2
          (unsettled_of_beginning before)
  cases beginning with
  | continuation announcing unsent =>
      rcases announcing_before stepped begins announcing with
        before | ⟨waiting, entered, own⟩
      · exact old (.continuation before unsent)
      · have admitted := (sound.entered _ record entered).1
        have early := (sound.early record (.inl waiting)).1
        rw [follow_agentName sound stepped admitted]
        constructor
        · rcases follow_said sound admitted with same | ⟨remover, _, due, _⟩
          · exact same.trans early
          · exact absurd entered (sound.due remover record due).2.2.2.2
        · exact lookup_of_announcing sound stepped announcing own entered
  | task found settling =>
      have stage :
          w.announceTaskAfter label after record = .settling found :=
        settling
      rcases announceTaskAfter_cases record with
        ⟨_, waiting⟩ | same | cancelled
      · rw [waiting] at stage
        cases stage
      · exact old (.task found (same.symm.trans stage))
      · rw [cancelled] at stage
        cases before : w.announceTask record <;>
          simp [before, AnnounceStage.cancel] at stage

/-- A registration that has not returned was under way before. -/
theorem ending_before
    (sound : w.Sound) (stepped : step cfg w.base label = some after)
    (begins : w.beginsRecorded (.base label) = true)
    {record : Nat} (ending : (w.follow label after).Ending record) :
    w.Ending record := by
  cases ending with
  | continuation announcing sent =>
      rcases announcing_before stepped begins announcing with
        before | ⟨waiting, _, _⟩
      · exact .continuation before sent
      · have unsent := (sound.early record (.inl waiting)).2
        have kept : w.sent record = true := sent
        rw [unsent] at kept
        cases kept
  | task found publishing =>
      have stage :
          w.announceTaskAfter label after record = .publishing found :=
        publishing
      rcases announceTaskAfter_cases record with
        ⟨_, waiting⟩ | same | cancelled
      · rw [waiting] at stage
        cases stage
      · exact .task found (same.symm.trans stage)
      · rw [cancelled] at stage
        cases before : w.announceTask record <;>
          simp [before, AnnounceStage.cancel] at stage

theorem Wire.Sound.admitted_of_ending
    (sound : w.Sound) {record : Nat} (ending : w.Ending record) :
    w.epochOf record ≠ 0 := by
  cases ending with
  | continuation announcing =>
      exact sound.admitted_of_continuation (by rw [announcing]; simp)
  | task found publishing =>
      exact sound.admitted_of_task (by rw [publishing]; simp)

theorem follow_ending
    (sound : w.Sound) (stepped : step cfg w.base label = some after)
    (begins : w.beginsRecorded (.base label) = true)
    (record : Nat) (ending : (w.follow label after).Ending record) :
    (w.follow label after).said record =
      [(w.follow label after).registration record] := by
  have before := ending_before sound stepped begins ending
  have admitted := sound.admitted_of_ending before
  rw [follow_registration sound stepped admitted]
  rcases follow_said sound admitted with same | ⟨remover, _, due, _⟩
  · exact same.trans (sound.ending record before)
  · exact absurd before (sound.returned remover record due)

theorem follow_found
    (sound : w.Sound) (record other : Nat)
    (stage : w.announceTaskAfter label after record = .settling other ∨
      w.announceTaskAfter label after record = .publishing other) :
    other = record := by
  apply sound.found record other
  rcases announceTaskAfter_cases record with ⟨_, waiting⟩ | same | cancelled
  · rw [waiting] at stage
    rcases stage with settling | publishing
    · cases settling
    · cases publishing
  · rw [same] at stage
    exact stage
  · rw [cancelled] at stage
    cases before : w.announceTask record <;>
      simp [before, AnnounceStage.cancel] at stage

/-! ### Withdrawals -/

theorem follow_heard
    (sound : w.Sound) (stepped : step cfg w.base label = some after)
    (broadcast : Broadcast)
    (member : broadcast ∈ w.publishedAfter label) :
    ∃ record, (w.follow label after).epochOf record ≠ 0 ∧
      (broadcast = (w.follow label after).registration record ∨
        broadcast = (w.follow label after).withdrawal record) := by
  have known : ∀ record, w.epochOf record ≠ 0 →
      broadcast = w.registration record ∨
        broadcast = w.withdrawal record →
      ∃ record, (w.follow label after).epochOf record ≠ 0 ∧
        (broadcast = (w.follow label after).registration record ∨
          broadcast = (w.follow label after).withdrawal record) := by
    intro record admitted same
    refine ⟨record, ?_, ?_⟩
    · rw [follow_epochOf sound admitted]
      exact admitted
    · rw [follow_registration sound stepped admitted,
        follow_withdrawal sound stepped admitted]
      exact same
  rcases publishedAfter_cases label sound with
    same | ⟨remover, record, _, due, published⟩
  · rw [same] at member
    rcases sound.heard broadcast member with ⟨record, admitted, about⟩
    exact known record admitted about
  · rw [published] at member
    rcases List.mem_cons.mp member with new | old
    · exact known record (sound.due remover record due).2.1 (.inr new)
    · rcases sound.heard broadcast old with ⟨other, admitted, about⟩
      exact known other admitted about

theorem follow_flagged
    (sound : w.Sound) (stepped : step cfg w.base label = some after)
    (may : w.mayReturn label = true) (record : Nat)
    (flag : w.announcedAfter label record = true) :
    (w.follow label after).said record =
        [(w.follow label after).registration record] ∨
      (w.follow label after).said record =
        [(w.follow label after).withdrawal record,
          (w.follow label after).registration record] := by
  have before :
      w.epochOf record ≠ 0 ∧
        (w.said record = [w.registration record] ∨
          w.said record = [w.withdrawal record, w.registration record]) := by
    rcases announcedAfter_cases may record with
      same | ⟨_, announcing, sent⟩
    · rw [same] at flag
      refine ⟨?_, sound.flagged record flag⟩
      intro fresh
      rw [(sound.idle record fresh).2.2.2] at flag
      cases flag
    · have ending : w.Ending record := .continuation announcing sent
      exact
        ⟨sound.admitted_of_ending ending,
          .inl (sound.ending record ending)⟩
  rw [follow_registration sound stepped before.1,
    follow_withdrawal sound stepped before.1]
  rcases follow_said sound before.1 with same | ⟨remover, _, due, more⟩
  · rw [same]
    exact before.2
  · rw [more, (sound.due remover record due).2.2.2.1]
    exact .inr rfl

theorem follow_shape
    (sound : w.Sound) (stepped : step cfg w.base label = some after)
    (record : Nat)
    (admitted : (w.follow label after).epochOf record ≠ 0) :
    (w.follow label after).said record = [] ∨
      (w.follow label after).said record =
        [(w.follow label after).registration record] ∨
      (w.follow label after).said record =
        [(w.follow label after).withdrawal record,
          (w.follow label after).registration record] := by
  rcases follow_admitted admitted with old | ⟨waits, admits, epoch⟩
  · rw [follow_registration sound stepped old,
      follow_withdrawal sound stepped old]
    rcases follow_said sound old with same | ⟨remover, _, due, more⟩
    · rw [same]
      exact sound.shape record old
    · rw [more, (sound.due remover record due).2.2.2.1]
      exact .inr (.inr rfl)
  · exact .inl (said_admitted sound admits epoch)

theorem follow_withdrawn
    (sound : w.Sound) (stepped : step cfg w.base label = some after)
    (record : Nat)
    (both : (w.follow label after).said record =
      [(w.follow label after).withdrawal record,
        (w.follow label after).registration record]) :
    after.dynamicChildren.lookup (after.agentName record) ≠ some record := by
  intro entered
  rcases follow_admitted (follow_entered sound stepped entered).1 with
    old | ⟨waits, admits, epoch⟩
  · rw [follow_registration sound stepped old,
      follow_withdrawal sound stepped old] at both
    rw [follow_agentName sound stepped old] at entered
    have before := lookup_before sound stepped old entered
    rcases follow_said sound old with same | ⟨remover, _, due, _⟩
    · rw [same] at both
      exact sound.withdrawn record both before
    · exact (sound.due remover record due).2.2.2.2 before
  · rw [said_admitted sound admits epoch] at both
    cases both

/-- The names of removals that are under way do not change. -/
theorem withdraws_agentName
    {s : State} {remover : Remover} {name later : Name}
    (born : s.roster.Born) (stepped : step cfg s label = some after)
    (before : s.withdraws? remover = some name)
    (now : after.withdraws? remover = some later) :
    later = name := by
  have grows := (step_motion stepped).grows
  cases remover with
  | loop =>
      cases own : label.ofLoop with
      | false =>
          have same := (loopRests_of_step stepped own).loop
          simp only [State.withdraws?, same] at now
          simp only [State.withdraws?] at before
          rw [before] at now
          cases now
          rfl
      | true =>
          have stage : ∃ request, s.loop = .removing request name := by
            unfold State.withdraws? at before
            cases loop : s.loop <;> simp_all
          rcases stage with ⟨request, removing⟩
          exfalso
          cases label with
          | loop resumption =>
              simp only [step, State.resumeLoop, removing] at stepped
              split at stepped
              · cases stepped
                cases now
              · cases stepped
                simp only [State.withdraws?] at now
                split at now
                · rename_i other _ loop
                  exact absurd loop (not_removing_stopChildren _ _ _ _)
                · cases now
              · cases stepped
                simp only [State.withdraws?] at now
                split at now
                · rename_i other _ loop
                  exact absurd loop (not_removing_stopChildren _ _ _ _)
                · cases now
              · cases stepped
          | take message => simp [step, removing] at stepped
          | consulted approved constructs =>
              simp [step, removing] at stepped
          | exit => cases own
          | continuation => cases own
          | child => cases own
          | foreign => cases own
  | exit agent =>
      have stage := (withdrawing_of_withdraws before).1
      have below : agent < s.roster.next := by
        by_contra above
        have blank := (born.blank agent (Nat.le_of_not_lt above)).1
        rw [show s.exit agent = .unwatched from blank] at stage
        cases stage
      rw [← (withdrawing_of_withdraws before).2,
        ← (withdrawing_of_withdraws now).2]
      exact grows.agentName agent below
  | continuation record =>
      have stage := (leaving_of_withdraws before).1
      have below : record < s.roster.next := by
        by_contra above
        have blank := (born.blank record (Nat.le_of_not_lt above)).2
        rw [show s.continuation record = .absent from blank] at stage
        cases stage
      rw [← (leaving_of_withdraws before).2,
        ← (leaving_of_withdraws now).2]
      exact grows.agentName record below

theorem follow_due
    (sound : w.Sound) (stepped : step cfg w.base label = some after)
    (settled : w.removesSettled label after = true)
    (remover : Remover) (record : Nat)
    (due : w.dueAfter label after remover = some record) :
    after.withdraws? remover = some (after.agentName record) ∧
      (w.follow label after).epochOf record ≠ 0 ∧
      w.announcedAfter label record = true ∧
      (w.follow label after).said record =
        [(w.follow label after).registration record] ∧
      after.dynamicChildren.lookup (after.agentName record) ≠
        some record := by
  rcases dueAfter_cases stepped settled due with
    ⟨kept, ⟨later, now⟩, other⟩ |
      ⟨_, name, entered, now, gone, flag, _⟩
  · rcases sound.due remover record kept with
      ⟨withdraws, admitted, flag, said, absent⟩
    rw [follow_agentName sound stepped admitted,
      follow_epochOf sound admitted,
      follow_registration sound stepped admitted]
    refine
      ⟨?_, admitted, announcedAfter_of_announced flag, ?_,
        fun entered => absent (lookup_before sound stepped admitted entered)⟩
    · rw [now, withdraws_agentName sound.born stepped withdraws now]
    · rcases follow_said sound admitted with
        same | ⟨another, returns, also, _⟩
      · exact same.trans said
      · rw [sound.single another remover record also kept] at returns
        exact absurd returns other
  · rcases sound.entered name record entered with ⟨admitted, rfl⟩
    rw [follow_agentName sound stepped admitted,
      follow_epochOf sound admitted,
      follow_registration sound stepped admitted]
    refine ⟨now, admitted, announcedAfter_of_announced flag, ?_, ?_⟩
    · rcases follow_said sound admitted with same | ⟨another, _, also, _⟩
      · rcases sound.flagged record flag with single | both
        · exact same.trans single
        · exact absurd entered (sound.withdrawn record both)
      · exact absurd entered (sound.due another record also).2.2.2.2
    · rw [gone]
      simp

theorem unsettled_of_ending
    {record : Nat} (ending : w.Ending record) :
    w.unsettled record = true := by
  unfold Wire.unsettled
  cases ending with
  | continuation announcing => simp [announcing]
  | task found publishing => simp [publishing]

theorem follow_returned
    (sound : w.Sound) (stepped : step cfg w.base label = some after)
    (begins : w.beginsRecorded (.base label) = true)
    (settled : w.removesSettled label after = true)
    (remover : Remover) (record : Nat)
    (due : w.dueAfter label after remover = some record) :
    ¬ (w.follow label after).Ending record := by
  intro ending
  have before := ending_before sound stepped begins ending
  rcases dueAfter_cases stepped settled due with
    ⟨kept, _, _⟩ | ⟨_, _, _, _, _, _, quiet⟩
  · exact sound.returned remover record kept before
  · rw [unsettled_of_ending before] at quiet
    cases quiet

theorem follow_single
    (sound : w.Sound) (stepped : step cfg w.base label = some after)
    (settled : w.removesSettled label after = true)
    (remover other : Remover) (record : Nat)
    (first : w.dueAfter label after remover = some record)
    (second : w.dueAfter label after other = some record) :
    remover = other := by
  have apart : ∀ old name,
      w.due old = some record →
      w.base.dynamicChildren.lookup name = some record → False := by
    intro old name due entered
    rcases sound.entered name record entered with ⟨_, rfl⟩
    exact (sound.due old record due).2.2.2.2 entered
  rcases dueAfter_cases stepped settled first with
    ⟨kept, _, _⟩ | ⟨own, name, entered, _⟩
  · rcases dueAfter_cases stepped settled second with
      ⟨also, _, _⟩ | ⟨_, name, entered, _⟩
    · exact sound.single remover other record kept also
    · exact (apart remover name kept entered).elim
  · rcases dueAfter_cases stepped settled second with
      ⟨also, _, _⟩ | ⟨same, _⟩
    · exact (apart other name also entered).elim
    · rw [own] at same
      cases same
      rfl

/-- A withdrawal that is due goes on or is published. -/
theorem due_goes_on
    (sound : w.Sound) (completes : w.completes label after = true)
    {remover : Remover} {record : Nat}
    (due : w.due remover = some record) :
    (after.withdraws? remover).isSome = true ∨
      label.returns? = some remover := by
  have withdraws := (sound.due remover record due).1
  have member : remover ∈ w.base.removers := by
    unfold State.removers
    cases remover with
    | loop => exact List.mem_cons_self
    | exit agent =>
        have stage := (withdrawing_of_withdraws withdraws).1
        have below : agent < w.base.next := by
          by_contra above
          have blank := (sound.born.blank agent (Nat.le_of_not_lt above)).1
          rw [show w.base.exit agent = .unwatched from blank] at stage
          cases stage
        exact
          List.mem_cons_of_mem _
            (List.mem_flatMap.mpr
              ⟨agent, List.mem_range.mpr below, List.mem_cons_self⟩)
    | continuation number =>
        have stage := (leaving_of_withdraws withdraws).1
        have below : number < w.base.next := by
          by_contra above
          have blank := (sound.born.blank number (Nat.le_of_not_lt above)).2
          rw [show w.base.continuation number = .absent from blank] at stage
          cases stage
        exact
          List.mem_cons_of_mem _
            (List.mem_flatMap.mpr
              ⟨number, List.mem_range.mpr below,
                List.mem_cons_of_mem _ List.mem_cons_self⟩)
  have goesOn := List.all_eq_true.mp completes remover member
  simpa [due] using goesOn

theorem follow_gone
    (sound : w.Sound) (stepped : step cfg w.base label = some after)
    (settled : w.removesSettled label after = true)
    (completes : w.completes label after = true) (record : Nat)
    (admitted : (w.follow label after).epochOf record ≠ 0)
    (absent :
      after.dynamicChildren.lookup (after.agentName record) ≠ some record)
    (single : (w.follow label after).said record =
      [(w.follow label after).registration record]) :
    ∃ remover, w.dueAfter label after remover = some record := by
  rcases follow_admitted admitted with old | ⟨waits, admits, _⟩
  · rw [follow_agentName sound stepped old] at absent
    rw [follow_registration sound stepped old] at single
    have said : w.said record = [w.registration record] := by
      rcases follow_said sound old with same | ⟨remover, _, due, more⟩
      · exact same.symm.trans single
      · rw [more] at single
        cases single
    by_cases entered :
        w.base.dynamicChildren.lookup (w.base.agentName record) =
          some record
    · have removes := removes_of_lookup sound stepped entered absent
      rcases withdraws_of_removes stepped removes with
        ⟨remover, own, before, now⟩
      have conditions :
          w.capturedAfter label remover = some record ∧
            w.unsettled record = false := by
        simpa [Wire.removesSettled, own, before, now, entered] using settled
      have heard : w.registration record ∈ w.published := by
        have member : w.registration record ∈ w.said record := by
          rw [said]
          exact List.mem_cons_self
        exact (List.mem_filter.mp member).1
      have flag : w.announced record = true := by
        have quiet := conditions.2
        simp only [Wire.unsettled, Bool.or_eq_false_iff,
          Bool.and_eq_false_iff, Bool.not_eq_false'] at quiet
        rcases quiet.2 with unheard | flag
        · have contained :
              w.published.contains (w.registration record) = true := by
            simpa using heard
          rw [contained] at unheard
          cases unheard
        · exact flag
      refine ⟨remover, ?_⟩
      simp [Wire.dueAfter, before, now, conditions.1, Option.filter_some,
        flag]
    · rcases sound.gone record old entered said with ⟨remover, due⟩
      have withdraws := (sound.due remover record due).1
      rcases due_goes_on sound completes due with goesOn | returns
      · rcases Option.isSome_iff_exists.mp goesOn with ⟨name, now⟩
        refine ⟨remover, ?_⟩
        simp [Wire.dueAfter, withdraws, now, due]
      · exfalso
        have published :
            w.publishedAfter label =
              w.withdrawal record :: w.published := by
          simp [Wire.publishedAfter, returns, withdraws, due,
            Wire.withdrawal]
        have more :
            (w.follow label after).said record =
              w.withdrawal record :: w.said record := by
          simp only [Wire.said]
          rw [follow_epochOf sound old]
          simp [Wire.follow, published, Wire.withdrawal, Broadcast.epoch]
        rw [more, said] at single
        cases single
  · exact absurd (lookup_admitted stepped sound admits).1 absent

/-- An agent that is claimed after the step has no epoch before it. -/
theorem unadmitted_of_claimed
    (sound : w.Sound) (stepped : step cfg w.base label = some after)
    {name : Name} {agent : Nat}
    (claimed : after.roster.errand = .claimed name agent) :
    w.epochOf agent = 0 := by
  have motion := step_motion stepped
  generalize after.roster = roster at motion claimed
  cases motion with
  | quiet quiet =>
      have moves := quiet.errand
      rw [claimed] at moves
      generalize errand : Errand.claimed name agent = later at moves
      cases moves with
      | stay => exact sound.claimed name agent errand.symm
      | drop => cases errand
      | ask => cases errand
  | claim other =>
      cases claimed
      exact sound.fresh _ (Nat.le_refl _)
  | enroll => cases claimed
  | build => exact sound.claimed name agent claimed
  | start => exact sound.claimed name agent claimed
  | publish => exact sound.claimed name agent claimed

/-- The loop claims nothing when it has just admitted a child. -/
theorem unclaimed_of_admits
    (stepped : step cfg w.base label = some after)
    {agent other : Nat} {waits : Bool} {name : Name}
    (admits : w.base.admits label = some (agent, waits)) :
    after.roster.errand ≠ .claimed name other := by
  rcases admits_cases admits with ⟨spawn, spawner, rfl, loop, key, rfl⟩
  simp only [step, State.resumeLoop, loop, Option.some.injEq] at stepped
  subst stepped
  simp only [State.roster, State.enroll, key]
  split_ifs
  · exact Errand.noConfusion
  · exact Errand.noConfusion

/-- A step of the supervisor keeps the announcements in order. -/
theorem sound_of_follow
    (sound : w.Sound) (stepped : step cfg w.base label = some after)
    (may : w.mayReturn label = true)
    (begins : w.beginsRecorded (.base label) = true)
    (settled : w.removesSettled label after = true)
    (completes : w.completes label after = true) :
    (w.follow label after).Sound where
  born := (step_motion stepped).born sound.born
  fresh := by
    intro record above
    by_contra admitted
    rcases follow_admitted admitted with old | ⟨waits, admits, _⟩
    · have below := sound.below old
      have grows : w.base.next ≤ after.next :=
        (step_motion stepped).grows.next
      have above' : after.next ≤ record := above
      omega
    · rcases admits_cases admits with ⟨spawn, _, _, loop, _, _⟩
      have below : record < w.base.next :=
        (sound.born.claimed spawn.name record (by
          simp only [State.roster, loop, LoopStage.errand])).1
      have grows : w.base.next ≤ after.next :=
        (step_motion stepped).grows.next
      have above' : after.next ≤ record := above
      omega
  claimed := by
    intro name agent claimed
    by_contra admitted
    rcases follow_admitted admitted with old | ⟨waits, admits, _⟩
    · exact old (unadmitted_of_claimed sound stepped claimed)
    · exact unclaimed_of_admits stepped admits claimed
  bounded := follow_bounded sound
  distinct := follow_distinct sound
  entered := fun _ _ => follow_entered sound stepped
  idle := follow_idle sound stepped may
  alone := follow_alone sound stepped
  heard := follow_heard sound stepped
  early := follow_early sound stepped
  beginning := follow_beginning sound stepped begins settled
  ending := follow_ending sound stepped begins
  found := follow_found sound
  flagged := follow_flagged sound stepped may
  shape := follow_shape sound stepped
  withdrawn := follow_withdrawn sound stepped
  due := follow_due sound stepped settled
  returned := follow_returned sound stepped begins settled
  single := follow_single sound stepped settled
  gone := follow_gone sound stepped settled completes

end Follow

/-! ## Runs -/

theorem wire_step_sound
    {cfg : Config} {w after : Wire} {label : WireLabel} (sound : w.Sound)
    (ordered : announcesInOrder cfg w label = true)
    (stepped : wireStep cfg w label = some after) :
    after.Sound := by
  rcases Bool.and_eq_true_iff.mp ordered with ⟨begins, rest⟩
  cases label with
  | base label =>
      simp only [wireStep] at stepped
      split_ifs at stepped with may
      rcases Option.map_eq_some_iff.mp stepped with ⟨next, moved, rfl⟩
      simp only [moved, Bool.and_eq_true] at rest
      exact sound_of_follow sound moved may begins rest.1 rest.2
  | publish record =>
      exact (registers_of_publish sound stepped).sound sound
  | announce record resumption =>
      exact sound_of_announce sound begins stepped

/-- What has been published for an epoch, in order. -/
def Wire.sequence (w : Wire) (epoch : Nat) : List Broadcast :=
  (w.published.filter fun broadcast =>
    decide (broadcast.epoch = epoch)).reverse

/-- The announcements of a supervisor, epoch by epoch. -/
structure Wire.InOrder
    (cfg : Config) (permits : Wire → WireLabel → Prop) (w : Wire) :
    Prop where
  sequences : ∀ epoch,
    w.sequence epoch = [] ∨
      ∃ name,
        w.sequence epoch = [.register name epoch] ∨
          w.sequence epoch =
            [.register name epoch, .deregister name epoch]
  timely : ∀ label after name epoch,
    permits w label →
    wireStep cfg w label = some after →
    after.published = .register name epoch :: w.published →
      ∃ record, w.epochOf record = epoch ∧
        w.base.dynamicChildren.lookup name = some record
  withdrawn : ∀ record, w.epochOf record ≠ 0 →
    w.base.dynamicChildren.lookup (w.base.agentName record) ≠ some record →
    w.registration record ∈ w.published →
      w.withdrawal record ∈ w.published ∨
        ∃ label after, wireStep cfg w label = some after ∧
          after.published = w.withdrawal record :: w.published

section Order

variable {cfg : Config} {w : Wire}

theorem Wire.Sound.sequences (sound : w.Sound) (epoch : Nat) :
    w.sequence epoch = [] ∨
      ∃ name,
        w.sequence epoch = [.register name epoch] ∨
          w.sequence epoch =
            [.register name epoch, .deregister name epoch] := by
  by_cases heard : ∃ broadcast ∈ w.published, broadcast.epoch = epoch
  · rcases heard with ⟨broadcast, member, about⟩
    rcases sound.heard broadcast member with ⟨record, admitted, same⟩
    have epochs : w.epochOf record = epoch := by
      rw [← about]
      rcases same with rfl | rfl
      · rfl
      · rfl
    have said : w.sequence epoch = (w.said record).reverse := by
      rw [Wire.sequence, Wire.said, epochs]
    rw [said]
    rcases sound.shape record admitted with silent | single | both
    · rw [silent]
      exact .inl rfl
    · rw [single, ← epochs]
      exact .inr ⟨w.base.agentName record, .inl rfl⟩
    · rw [both, ← epochs]
      exact .inr ⟨w.base.agentName record, .inr rfl⟩
  · left
    have none :
        (w.published.filter fun broadcast =>
          decide (broadcast.epoch = epoch)) = [] := by
      rw [List.filter_eq_nil_iff]
      intro broadcast member about
      exact heard ⟨broadcast, member, of_decide_eq_true about⟩
    rw [Wire.sequence, none]
    rfl

/-- A step that registers a child finds it in the table. -/
theorem Wire.Sound.timely
    (sound : w.Sound) {label : WireLabel} {after : Wire} {name : Name}
    {epoch : Nat} (stepped : wireStep cfg w label = some after)
    (published : after.published = .register name epoch :: w.published) :
    ∃ record, w.epochOf record = epoch ∧
      w.base.dynamicChildren.lookup name = some record := by
  have registered : ∀ record, Registers w record after →
      ∃ record, w.epochOf record = epoch ∧
        w.base.dynamicChildren.lookup name = some record := by
    intro record registers
    rw [registers.published] at published
    injection published with same
    injection same with named numbered
    refine ⟨record, numbered, ?_⟩
    rw [← named]
    exact (sound.beginning _ registers.begun).2
  have longer : after.published ≠ w.published := by
    rw [published]
    exact List.cons_ne_self _ _
  cases label with
  | base label =>
      simp only [wireStep] at stepped
      split_ifs at stepped
      rcases Option.map_eq_some_iff.mp stepped with ⟨next, moved, rfl⟩
      have said :
          w.publishedAfter label = .register name epoch :: w.published :=
        published
      rcases publishedAfter_cases label sound with
        same | ⟨remover, record, _, _, more⟩
      · rw [same] at said
        exact absurd said.symm (List.cons_ne_self _ _)
      · rw [more] at said
        injection said with same
        cases same
  | publish record =>
      exact registered record (registers_of_publish sound stepped)
  | announce record resumption =>
      have resumed : w.announce record resumption = some after := stepped
      cases stage : w.announceTask record with
      | settling found =>
          cases resumption with
          | returned =>
              exact registered record (registers_of_announce stage stepped)
          | raised =>
              simp only [Wire.announce, stage, Option.some.injEq] at resumed
              subst resumed
              exact absurd rfl longer
          | timedOut => simp [Wire.announce, stage] at resumed
          | cancelled => simp [Wire.announce, stage] at resumed
      | publishing found =>
          cases resumption with
          | returned =>
              simp only [Wire.announce, stage, Option.some.injEq] at resumed
              subst resumed
              exact absurd rfl longer
          | raised =>
              simp only [Wire.announce, stage, Option.some.injEq] at resumed
              subst resumed
              exact absurd rfl longer
          | timedOut => simp [Wire.announce, stage] at resumed
          | cancelled => simp [Wire.announce, stage] at resumed
      | waiting =>
          cases resumption with
          | returned =>
              simp only [Wire.announce, stage] at resumed
              split_ifs at resumed
              cases resumed
              exact absurd rfl longer
          | raised => simp [Wire.announce, stage] at resumed
          | timedOut => simp [Wire.announce, stage] at resumed
          | cancelled => simp [Wire.announce, stage] at resumed
      | absent => simp [Wire.announce, stage] at resumed
      | finished => simp [Wire.announce, stage] at resumed

/-- The await of a withdrawal can return. -/
theorem returns_enabled
    (cfg : Config) {remover : Remover} {name : Name}
    (withdraws : w.base.withdraws? remover = some name) :
    ∃ label after, label.returns? = some remover ∧
      w.mayReturn label = true ∧ step cfg w.base label = some after := by
  cases remover with
  | loop =>
      have stage : ∃ request, w.base.loop = .removing request name := by
        unfold State.withdraws? at withdraws
        cases loop : w.base.loop <;> simp_all
      rcases stage with ⟨request, removing⟩
      have enabled :
          ∃ after, step cfg w.base (.loop .returned) = some after := by
        simp [step, State.resumeLoop, removing]
      rcases enabled with ⟨after, stepped⟩
      exact ⟨_, after, rfl, rfl, stepped⟩
  | exit agent =>
      have stage := (withdrawing_of_withdraws withdraws).1
      cases found : w.base.exit agent with
      | announcing reason =>
          have enabled :
              ∃ after, step cfg w.base (.exit agent .returned 0 false) =
                some after := by
            simp [step, State.resumeExit, found]
          rcases enabled with ⟨after, stepped⟩
          exact ⟨_, after, rfl, rfl, stepped⟩
      | leaving cause =>
          have enabled :
              ∃ after, step cfg w.base (.exit agent .returned 0 false) =
                some after := by
            simp [step, State.resumeExit, found]
          rcases enabled with ⟨after, stepped⟩
          exact ⟨_, after, rfl, rfl, stepped⟩
      | _ => simp [found, ExitStage.withdrawing] at stage
  | continuation record =>
      have stage := (leaving_of_withdraws withdraws).1
      have enabled :
          ∃ after, step cfg w.base (.continuation record .returned) =
            some after := by
        simp [step, State.resumeContinuation, stage]
      rcases enabled with ⟨after, stepped⟩
      refine ⟨_, after, rfl, ?_, stepped⟩
      simp [Wire.mayReturn, stage]

theorem Wire.Sound.withdraws
    (sound : w.Sound) {record : Nat} (admitted : w.epochOf record ≠ 0)
    (absent :
      w.base.dynamicChildren.lookup (w.base.agentName record) ≠ some record)
    (registered : w.registration record ∈ w.published) :
    w.withdrawal record ∈ w.published ∨
      ∃ label after, wireStep cfg w label = some after ∧
        after.published = w.withdrawal record :: w.published := by
  rcases sound.shape record admitted with silent | single | both
  · have member : w.registration record ∈ w.said record :=
      List.mem_filter.mpr ⟨registered, decide_eq_true rfl⟩
    rw [silent] at member
    cases member
  · rcases sound.gone record admitted absent single with ⟨remover, due⟩
    have withdraws := (sound.due remover record due).1
    rcases returns_enabled cfg withdraws with
      ⟨label, after, returns, may, stepped⟩
    refine .inr ⟨.base label, w.follow label after, ?_, ?_⟩
    · simp [wireStep, may, stepped]
    · simp [Wire.follow, Wire.publishedAfter, returns, withdraws, due,
        Wire.withdrawal]
  · left
    have member : w.withdrawal record ∈ w.said record := by
      rw [both]
      exact List.mem_cons_self
    exact (List.mem_filter.mp member).1

/--
In every run whose steps keep announcements in order, each epoch is registered
at most once, while its child is in the table, and withdrawn once when its
child has left it.
-/
theorem announcements_in_order_in_every_run
    (cfg : Config) {w : Wire}
    (reached :
      Reaches (wireStep cfg) (announcesInOrder cfg · ·) wireInit w) :
    w.InOrder cfg (announcesInOrder cfg · ·) := by
  have sound : w.Sound := by
    apply reached.invariant
    · exact wire_sound_init
    · intro before label after held ordered stepped
      exact wire_step_sound held ordered stepped
  constructor
  · exact sound.sequences
  · intro label after name epoch _ stepped published
    exact sound.timely stepped published
  · intro record admitted absent registered
    exact sound.withdraws admitted absent registered

end Order

/-- Spawn a child without waiting for it, up to its loop. -/
def startQuickly : List Label :=
  spawnQuickly (spawnInto "planner" "app.Worker" "w1" false "1") ++
    [Label.child 0 (.reach false)]

/-- Despawn the child, whose task ends at the cancellation. -/
def despawnAtOnce : List Label :=
  [.take (despawn "planner" "w1"), .child 0 (.finish .cancelled .stopped),
    .loop .returned, .loop .returned, .loop .returned]

/-- A child starts, is announced, and is despawned. -/
def announceAndDespawn : List WireLabel :=
  startQuickly.map WireLabel.base ++
    [WireLabel.announce 0 .returned, .announce 0 .returned,
      .announce 0 .returned] ++
    despawnAtOnce.map WireLabel.base

theorem announced_child_withdrawn_in_order :
    ∃ w : Wire,
      w.published =
          [.deregister (.str "w1") 1, .register (.str "w1") 1] ∧
        w.InOrder openConfig (announcesInOrder openConfig · ·) := by
  have ran :
      ((runWhere (wireStep openConfig) (announcesInOrder openConfig · ·)
        wireInit announceAndDespawn).map Wire.published) =
          some [.deregister (.str "w1") 1, .register (.str "w1") 1] := by
    decide +kernel
  rcases exists_reaches_of_run ran with ⟨w, run, published⟩
  exact
    ⟨w, published,
      announcements_in_order_in_every_run openConfig
        run⟩

/-- A despawn that is served while the announcement of its child settles. -/
def despawnWhileSettling : List WireLabel :=
  startQuickly.map WireLabel.base ++ [WireLabel.announce 0 .returned] ++
    despawnAtOnce.map WireLabel.base

/-- The child is registered when it has been removed. -/
theorem removed_child_is_registered :
    ∃ w : Wire,
      Reaches (wireStep openConfig) (fun _ _ => True) wireInit w ∧
        ¬ w.InOrder openConfig (fun _ _ => True) := by
  have ran :
      ((runWhere (wireStep openConfig) (fun _ _ => True) wireInit
          despawnWhileSettling).bind fun w =>
        (wireStep openConfig w (.announce 0 .returned)).map fun after =>
          decide (after.published = .register (.str "w1") 1 :: w.published ∧
            w.base.dynamicChildren.lookup (.str "w1") = none)) =
      some true := by
    decide +kernel
  rcases Option.bind_eq_some_iff.mp ran with ⟨w, run, last⟩
  rcases Option.map_eq_some_iff.mp last with ⟨after, stepped, facts⟩
  rcases of_decide_eq_true facts with ⟨published, removed⟩
  refine ⟨w, reaches_of_runWhere .start run, ?_⟩
  intro ordered
  rcases ordered.timely (.announce 0 .returned) after _ _ trivial stepped
    published with ⟨record, _, entered⟩
  rw [removed] at entered
  cases entered

end Civitas.Dynamic
