import Civitas.Dynamic.FailedSpawns

/-!
# Starts that fail after their acknowledgement

A spawn that does not wait is acknowledged before its child has started.  The
handler of the exit is then the only task that can take a failed start back:
it removes the child and, because of the acknowledgement, tells the spawner.

The handler of such a child goes through one course of stages.  In the runs
where it is not broken off, it finds its child in the table, and it does not
finish without a notice.
-/

namespace Civitas.Dynamic

open Civitas.PyValue
open Civitas.Transition
open Function (update)

/-! ## Acknowledged and not started -/

/-- The first incarnation of a record, not in its loop nor asked to end. -/
def State.unstarted (s : State) (record : Nat) : Bool :=
  s.home record = record && !s.reachedLoop record && !s.requested record

/-- The record is acknowledged and its child has not started. -/
def State.pledged (s : State) (record : Nat) : Bool :=
  s.acknowledged record && s.unstarted record

/-- A spawn that reaches its admission names its spawner. -/
def namesSpawner (s : State) (label : Label) : Bool :=
  match s.loop, label with
  | .auditing spawn _, .loop .returned => spawn.spawner.key?.any spawnerTruthy
  | _, _ => true

/-- A failed start is seen, and the awaits of its handler return. -/
def seesFailures (s : State) (label : Label) : Bool :=
  match label with
  | .child agent (.finish .cancelled _) => !s.pledged agent
  | .exit agent .raised _ _ => !s.pledged agent
  | _ => true

/-- The steps after which an acknowledged start is accounted for. -/
def accountable (s : State) (label : Label) : Bool :=
  orderly s label && namesSpawner s label && seesFailures s label

/-- The cleanup follows a start that failed. -/
def CleanupCause.failedStart : CleanupCause → Bool
  | .startFailed _ => true
  | .rewireFailed => false

/-- The stages of the handler of a failed start. -/
def ExitStage.ofFailedStart : ExitStage → Bool
  | .watched | .notifying _ | .finished => true
  | .scheduled crashed => crashed
  | .unsubscribing cause | .draining cause | .leaving cause =>
      cause.failedStart
  | _ => false

/-- The handler has nothing more to do under its name. -/
def ExitStage.passed : ExitStage → Bool
  | .notifying _ | .finished => true
  | _ => false

section Unstarted

variable {cfg : Config} {s after : State} {label : Label} {record : Nat}

theorem unstarted_iff :
    s.unstarted record = true ↔
      s.home record = record ∧ s.reachedLoop record = false ∧
        s.requested record = false := by
  simp only [State.unstarted, Bool.and_eq_true, decide_eq_true_eq,
    Bool.not_eq_true', and_assoc]

theorem pledged_iff :
    s.pledged record = true ↔
      s.acknowledged record = true ∧ s.unstarted record = true := by
  simp only [State.pledged, Bool.and_eq_true]

/-- A number that is a record was one before. -/
theorem root_of_step
    (numbered : s.roster.Numbered)
    (stepped : step cfg s label = some after)
    (root : after.home record = record) : s.home record = record := by
  by_cases born : record < s.next
  · rw [← (named_of_step stepped born).2]
    exact root
  · exact (numbered.blank record (Nat.le_of_not_lt born)).2.2.2.2.1

theorem unstarted_of_step
    (numbered : s.roster.Numbered)
    (stepped : step cfg s label = some after)
    (unstarted : after.unstarted record = true) :
    s.unstarted record = true := by
  rw [unstarted_iff] at unstarted ⊢
  rcases unstarted with ⟨root, unreached, unasked⟩
  refine
    ⟨root_of_step numbered stepped root, unreached_of_step stepped unreached,
      ?_⟩
  rw [Bool.eq_false_iff]
  intro asked
  rw [(step_tableMoves stepped).requested record asked] at unasked
  cases unasked

/-- A child that has ended was acknowledged before. -/
theorem pledged_of_done
    {outcome : TaskOutcome} (kept : s.roster.Kept) (attested : Attested s)
    (stepped : step cfg s label = some after)
    (done : s.task record = .done outcome)
    (pledged : after.pledged record = true) : s.pledged record = true := by
  rw [pledged_iff] at pledged ⊢
  exact
    ⟨acknowledged_of_done kept attested stepped done pledged.1,
      unstarted_of_step kept.numbered stepped pledged.2⟩

/-- The first incarnation of a record is the one its record holds. -/
theorem current_of_unstarted
    (numbered : s.roster.Numbered) (unstarted : s.unstarted record = true) :
    s.recAgent record = record := by
  rw [unstarted_iff] at unstarted
  exact numbered.unreached record unstarted.1 unstarted.2.1

/-- What starts in a step is watched, if it is a record. -/
theorem started_of_step
    (kept : s.roster.Kept) (stepped : step cfg s label = some after)
    (root : s.home record = record)
    (started : after.task record ≠ .notStarted) :
    s.task record ≠ .notStarted ∨ after.exit record = .watched := by
  have motion := step_motion stepped
  change s.roster.task record ≠ .notStarted ∨
    after.roster.exit record = .watched
  change after.roster.task record ≠ .notStarted at started
  generalize after.roster = b at motion started
  cases motion with
  | quiet quiet =>
      left
      intro idle
      exact started ((quiet.task record).notStarted_iff.mpr idle)
  | claim => exact .inl started
  | enroll origin waits claimed =>
      by_cases same : record = origin.record
      · right
        rw [same]
        exact Function.update_self ..
      · left
        simpa only [Roster.enroll, Function.update_of_ne same] using started
  | build => exact .inl started
  | start handler other fresh transferring =>
      rcases kept.staged.building handler other fresh
          (by rw [transferring]; rfl) with
        ⟨_, _, _, home, apart, _⟩
      have other : record ≠ fresh := by
        rintro rfl
        exact apart (root.symm.trans home)
      left
      simpa only [Roster.start, Function.update_of_ne other] using started
  | publish => exact .inl started

/-- The child of a handler that has passed its work has ended. -/
theorem ended_of_passed
    {agent : Nat} (kept : s.roster.Kept)
    (held : ∀ agent, (s.exit agent).passed = true →
      ∃ outcome, s.task agent = .done outcome)
    (stepped : step cfg s label = some after)
    (passed : (after.exit agent).passed = true) :
    ∃ outcome, after.task agent = .done outcome := by
  have before : ∃ outcome, s.task agent = .done outcome := by
    have motion := step_motion stepped
    change (after.roster.exit agent).passed = true at passed
    generalize after.roster = b at motion passed
    cases motion with
    | quiet quiet =>
        have moves := quiet.exit agent
        generalize b.exit agent = stage at moves passed
        cases moves with
        | stay => exact held agent passed
        | schedule => cases passed
        | handle begun => exact kept.staged.begun agent begun
        | wire => cases passed
        | notify begun => exact kept.staged.begun agent begun
        | finish present watched =>
            have found : s.roster.exit agent = s.exit agent := rfl
            cases stage : s.exit agent with
            | unwatched => exact absurd (found.trans stage) present
            | watched => exact watched (found.trans stage)
            | starting record fresh =>
                exact (kept.staged.starting agent record fresh
                  (found.trans stage)).2.2.2.2.2.2.2.2.1
            | notifying spawner => exact held agent (by rw [stage]; rfl)
            | finished => exact held agent (by rw [stage]; rfl)
            | _ =>
                apply kept.staged.begun agent
                rw [found, stage]
                rfl
    | claim => exact held agent passed
    | enroll origin waits claimed =>
        by_cases same : agent = origin.record
        · simp only [Roster.enroll, same, Function.update_self] at passed
          cases passed
        · simp only [Roster.enroll, Function.update_of_ne same] at passed
          exact held agent passed
    | build other record =>
        by_cases same : agent = other
        · simp only [Roster.build, same, Function.update_self] at passed
          cases passed
        · simp only [Roster.build, Roster.number,
            Function.update_of_ne same] at passed
          exact held agent passed
    | start other record fresh transferring =>
        by_cases same : agent = other
        · simp only [Roster.start, same, Function.update_self] at passed
          cases passed
        · simp only [Roster.start, Function.update_of_ne same] at passed
          exact held agent passed
    | publish other record fresh starting =>
        by_cases same : agent = fresh
        · simp only [Roster.publish, same, Function.update_self] at passed
          cases passed
        · by_cases own : agent = other
          · rw [own]
            exact (kept.staged.starting other record fresh
              starting).2.2.2.2.2.2.2.2.1
          · simp only [Roster.publish, Function.update_of_ne same,
              Function.update_of_ne own] at passed
            exact held agent passed
  rcases before with ⟨outcome, done⟩
  exact ⟨outcome, done_of_step kept stepped done⟩

end Unstarted

/-! ## The end of the loop -/

section Halting

variable {cfg : Config} {s after : State} {label : Label}

theorem halted_of_endedBy
    {message : Message} (ended : s.endedBy cfg message = true) :
    (s.takeMessage cfg message).loop.halted = true := by
  unfold State.endedBy at ended
  unfold State.takeMessage
  cases kind : message.kind with
  | shutdown => exact halted_stopChildren _ _
  | spawn =>
      simp only [kind, decide_eq_true_eq] at ended
      have decided :
          (s.receive message).spawnDecision cfg message.payload
              (spawnerOf message.payload) = .raise := ended
      simp only [State.takeSpawn, decided]
      exact halted_stopChildren _ _
  | despawn =>
      simp only [kind, Option.isNone_iff_eq_none] at ended
      simp only [State.takeDespawn, ended]
      exact halted_stopChildren _ _
  | stop =>
      simp only [kind, Bool.or_eq_true, Option.isNone_iff_eq_none] at ended
      simp only [State.takeStop]
      rcases ended with unread | ended
      · rw [if_pos unread]
        exact halted_stopChildren _ _
      · split_ifs
        · exact halted_stopChildren _ _
        · simp only [ended]
          exact halted_stopChildren _ _
  | other =>
      simp only [kind] at ended
      cases ended

theorem halted_of_escapes
    {resumption : Resumption} (escapes : s.escapes resumption = true)
    (resumed : s.resumeLoop resumption = some after) :
    after.loop.halted = true := by
  unfold State.resumeLoop at resumed
  split at resumed
  case h_2 =>
    rename_i spawn agent loop
    cases resumption with
    | returned =>
        simp only [State.escapes, loop, Option.isNone_iff_eq_none] at escapes
        cases resumed
        simp only [State.enroll, escapes]
        exact halted_stopChildren _ _
    | raised =>
        cases resumed
        exact halted_stopChildren _ _
    | cancelled =>
        cases resumed
        exact halted_stopChildren _ _
    | timedOut => cases resumed
  all_goals rename_i loop
  all_goals repeat' split at resumed
  all_goals cases resumed
  all_goals first
    | exact halted_stopChildren _ _
    | skip
  all_goals simp_all [State.escapes]

/-- A step that ends the loop asks everything to end. -/
theorem requested_of_ends
    (halted : Halted s) (stepped : step cfg s label = some after)
    (ends : s.ends cfg label = true) (agent : Nat) :
    after.requested agent = true := by
  apply step_halted halted stepped
  cases label with
  | take message =>
      cases loop : s.loop with
      | idle =>
          simp only [step, loop, Option.some.injEq] at stepped
          subst stepped
          exact halted_of_endedBy ends
      | _ => simp [step, loop] at stepped
  | consulted approved constructs =>
      cases loop : s.loop with
      | consulting spawn =>
          simp only [step, loop, Option.some.injEq] at stepped
          subst stepped
          simp only [State.ends, Bool.and_eq_true, Bool.not_eq_true'] at ends
          simp only [State.resumeConsulting, ends.1, ends.2, Bool.not_true,
            Bool.not_false, Bool.false_eq_true, if_false, if_true]
          exact halted_stopChildren _ _
      | _ => simp [step, loop] at stepped
  | loop resumption => exact halted_of_escapes ends stepped
  | exit handler resumption now constructs => cases ends
  | continuation record resumption => cases ends
  | child other event => cases ends
  | foreign name joins => cases ends

/-- What cancels the pending handlers asks everything to end. -/
theorem requested_of_gathers
    (halted : Halted s) (stepped : step cfg s label = some after)
    (gathers : s.gathers cfg label = true) (agent : Nat) :
    after.requested agent = true := by
  unfold State.gathers at gathers
  split at gathers
  · rename_i remaining last loop
    apply (step_tableMoves stepped).requested agent
    apply halted
    rw [loop]
    rfl
  · simp only [Bool.and_eq_true] at gathers
    exact requested_of_ends halted stepped gathers.1 agent

end Halting

/-! ## The course of a handler -/

section Course

variable {cfg : Config} {s after : State} {label : Label} {record : Nat}

/-- The end of a child that never reached its loop is a crash. -/
theorem crashed_of_unreached
    {outcome : TaskOutcome} (staged : s.roster.Staged)
    (unreached : s.reachedLoop record = false)
    (done : s.task record = .done outcome)
    (uncancelled : outcome ≠ .cancelled) : outcome.crashed = true := by
  cases outcome with
  | returned =>
      have reached := staged.returned record done
      rw [show s.roster.reachedLoop record = _ from unreached] at reached
      cases reached
  | cancelled => exact absurd rfl uncancelled
  | raised => rfl
  | raisedTimeout => rfl

/-- What the handler of a crash does first when its child never ran. -/
theorem beginExit_of_unreached
    (cfg : Config) (now : Nat) (constructs : Bool)
    (entered : s.dynamicChildren.lookup (s.agentName record) = some record)
    (current : s.recAgent record = record)
    (unreached : s.reachedLoop record = false) :
    s.beginExit cfg record true now constructs =
      (s.deregister (s.agentName record)).setExit record
        (.unsubscribing (.startFailed record)) := by
  simp only [State.beginExit, entered, current, unreached, Bool.not_false,
    Bool.and_self, if_true]

theorem course_of_resumeExit
    {resumption : Resumption} {now : Nat} {constructs : Bool}
    (kept : s.roster.Kept) (root : s.home record = record)
    (unreached : s.reachedLoop record = false)
    (course : (s.exit record).ofFailedStart = true)
    (resumed :
      s.resumeExit cfg record resumption now constructs = some after) :
    (after.exit record).ofFailedStart = true := by
  have moved {other : State} {stage : ExitStage}
      (failed : stage.ofFailedStart = true) :
      ((other.setExit record stage).exit record).ofFailedStart = true := by
    simp only [State.setExit, Function.update_self]
    exact failed
  have passes {stage : ExitStage}
      (passed : stage = .finished ∨ ∃ spawner, stage = .notifying spawner) :
      stage.ofFailedStart = true := by
    rcases passed with rfl | ⟨spawner, rfl⟩
    · rfl
    · rfl
  unfold State.resumeExit at resumed
  simp only at resumed
  split at resumed
  case h_1 stage =>
    split at resumed
    · cases resumed
      exact moved rfl
    · rename_i outcome uncancelled done
      cases resumed
      have crashed :=
        crashed_of_unreached kept.staged unreached done uncancelled
      exact moved (by rw [crashed]; rfl)
    · cases resumed
  case h_2 stage =>
    rename_i crashed
    cases resumed
    cases crashed with
    | false =>
        rw [stage] at course
        cases course
    | true =>
        have acting : s.roster.Acting record := by
          right
          simp only [State.roster, stage]
          rfl
        cases entered : s.dynamicChildren.lookup (s.agentName record) with
        | none =>
            simp only [State.beginExit, entered]
            exact moved rfl
        | some found =>
            have same : found = record :=
              (kept.entry_home acting entered).trans root
            subst same
            rw [beginExit_of_unreached cfg now constructs entered
              (kept.numbered.unreached found root unreached) unreached]
            exact moved rfl
  all_goals try contradiction
  all_goals rename_i stage
  all_goals rw [stage] at course
  all_goals repeat' split at resumed
  all_goals cases resumed
  all_goals first
    | exact moved course
    | exact moved rfl
    | exact moved (passes (afterCleanup_cases s record _))
    | cases course

theorem course_of_step
    (kept : s.roster.Kept)
    (held : ∀ record, s.home record = record →
      s.reachedLoop record = false → s.task record ≠ .notStarted →
        (s.exit record).ofFailedStart = true)
    (stepped : step cfg s label = some after)
    (root : after.home record = record)
    (unreached : after.reachedLoop record = false)
    (started : after.task record ≠ .notStarted) :
    (after.exit record).ofFailedStart = true := by
  have root' := root_of_step kept.numbered stepped root
  have unreached' := unreached_of_step stepped unreached
  rcases started_of_step kept stepped root' started with before | watched
  · have course := held record root' unreached' before
    cases exit_of_step stepped record with
    | same unmoved =>
        rw [unmoved]
        exact course
    | own resumption now constructs handled =>
        subst handled
        exact course_of_resumeExit kept root' unreached' course stepped
    | admitted _ _ _ watched =>
        rw [watched]
        rfl
    | published _ _ _ _ _ _ watched =>
        rw [watched]
        rfl
    | cancelled _ stopped =>
        rw [stopped]
        generalize s.exit record = stage at course
        cases stage <;> first | rfl | cases course
  · rw [watched]
    rfl

end Course

/-! ## The table -/

/-- What is kept of children that have not started. -/
structure Attended (s : State) : Prop where
  ordered : s.roster.Orderly
  descended : s.roster.Descended
  attested : Attested s
  named : ∀ origin ∈ s.roster.origins, spawnerTruthy origin.spawner = true
  asked : ∀ name record, s.loop.removes? = some name →
    s.dynamicChildren.lookup name = some record →
      s.reachedLoop record = false → s.requested record = true
  course : ∀ record, s.home record = record →
    s.reachedLoop record = false → s.task record ≠ .notStarted →
      (s.exit record).ofFailedStart = true
  ended : ∀ agent, (s.exit agent).passed = true →
    ∃ outcome, s.task agent = .done outcome
  running : ∀ record, s.unstarted record = true → s.task record = .live →
    s.dynamicChildren.lookup (s.agentName record) = some record
  pending : ∀ record, s.pledged record = true →
    (s.exit record).placed = true →
      s.dynamicChildren.lookup (s.agentName record) = some record
  gone : ∀ agent, (s.exit agent).gone = true →
    s.dynamicChildren.lookup (s.agentName agent) ≠ some (s.home agent)
  uncancelled : ∀ record, s.pledged record = true →
    s.task record ≠ .done .cancelled
  told : ∀ record, s.pledged record = true → s.exit record = .finished →
    Told s record

theorem attended_init : Attended init where
  ordered := ⟨kept_init, by rintro _ ⟨⟩⟩
  descended := fun _ later => absurd rfl later
  attested := attested_init
  named := by rintro _ ⟨⟩
  asked := by rintro _ _ ⟨⟩
  course := fun _ _ _ started => absurd rfl started
  ended := by rintro _ ⟨⟩
  running := by rintro _ _ ⟨⟩
  pending := by rintro _ ⟨⟩
  gone := by rintro _ ⟨⟩
  uncancelled := by rintro _ ⟨⟩
  told := by rintro _ ⟨⟩

section Table

variable {cfg : Config} {s after : State} {label : Label} {record : Nat}

/-- A record in the table is a root and has the name it is entered under. -/
theorem entered_root
    {name : Name} (kept : s.roster.Kept)
    (entered : s.dynamicChildren.lookup name = some record) :
    record < s.next ∧ s.agentName record = name ∧
      s.home record = record := by
  rcases kept.entry name record entered with ⟨origin, taken, rfl⟩
  rcases kept.incumbent name origin taken with ⟨born, named, root, _⟩
  exact ⟨born, named, root⟩

theorem unstarted_asked_of_step
    {name : Name} (held : Attended s)
    (stepped : step cfg s label = some after)
    (removes : after.loop.removes? = some name)
    (entered : after.dynamicChildren.lookup name = some record)
    (unreached : after.reachedLoop record = false) :
    after.requested record = true := by
  have kept := held.ordered.kept
  have moves := step_tableMoves stepped
  have before : s.dynamicChildren.lookup name = some record := by
    rcases moves.entry name with
      same | ⟨none, _⟩ | ⟨spawn, agent, loop, rfl, _, _⟩
    · rw [← same]
      exact entered
    · rw [none] at entered
      cases entered
    · rcases moves.removes name removes with earlier | ⟨message, taken, _⟩
      · rw [loop] at earlier
        cases earlier
      · cases taken
  have unreached' := unreached_of_step stepped unreached
  rcases moves.removes name removes with earlier | taken
  · exact
      moves.requested record (held.asked name record earlier before unreached')
  · have asked := requested_of_takes stepped taken before
    have current : s.recAgent record = record :=
      kept.numbered.unreached record (entered_root kept before).2.2
        unreached'
    rw [current] at asked
    exact asked

/-- A child that has not started is not removed unless it was asked to end. -/
theorem not_removes_of_unstarted
    (held : Attended s) (stepped : step cfg s label = some after)
    (acting : s.roster.Acting record)
    (unstarted : after.unstarted record = true)
    (found : s.dynamicChildren.lookup (s.agentName record) = some record)
    (pending : after.task record = .live ∨
      after.acknowledged record = true ∧
        (after.exit record).placed = true) :
    ¬ Removes s label after (s.agentName record) := by
  have kept := held.ordered.kept
  have before := unstarted_of_step kept.numbered stepped unstarted
  have current := current_of_unstarted kept.numbered before
  have unasked := (unstarted_iff.mp unstarted).2.2
  rcases unstarted_iff.mp before with ⟨root, unreached, _⟩
  have serves := kept.acting record acting
  intro removes
  generalize named : s.agentName record = name at removes
  cases removes with
  | take message request _ removal =>
      have asked :=
        requested_of_takes stepped ⟨message, rfl, removal⟩
          (by rw [← named]; exact found)
      rw [current, unasked] at asked
      cases asked
  | loop resumption request _ removing =>
      have asked :=
        held.asked name record removing (by rw [← named]; exact found)
          unreached
      rw [(step_tableMoves stepped).requested record asked] at unasked
      cases unasked
  | exit other now constructs removing =>
      have begun : (s.exit other).begun = true := by
        generalize s.exit other = stage at removing
        cases stage <;> first | rfl | cases removing
      have holds := ExitStage.holds_of_begun begun
      have rival : s.roster.Serves other :=
        kept.acting other (.inr (ExitStage.acting_of_holds holds))
      have home : s.home record = s.home other := serves.home_eq rival named
      have holder : s.recAgent (s.home other) = other :=
        kept.holder other (.inr holds)
      have same : record = other := by
        rw [← home, root, current] at holder
        exact holder
      subst same
      rcases kept.staged.begun record begun with ⟨outcome, done⟩
      rcases pending with live | ⟨_, placed⟩
      · rw [done_of_step kept stepped done] at live
        cases live
      · cases stage : s.exit record with
        | clearing reason =>
            simp only [step, State.resumeExit, stage] at stepped
            cases stepped
            simp only [State.setExit, Function.update_self] at placed
            cases placed
        | draining cause =>
            simp only [step, State.resumeExit, stage] at stepped
            cases stepped
            simp only [State.setExit, Function.update_self] at placed
            cases placed
        | _ =>
            rw [stage] at removing
            cases removing
  | continuation other draining =>
      have tearing : (s.continuation other).tearing = true := by
        rw [draining]
        rfl
      have waits := SpawnStage.acting_of_tearing tearing
      rcases kept.continuing other waits with ⟨rival, rooted⟩
      have same : record = other := by
        rw [← root]
        exact (serves.home_eq rival named).trans rooted
      subst same
      rcases pending with live | ⟨acknowledged, _⟩
      · rcases (held.ordered.torn record tearing).1 with ⟨outcome, done⟩
        rw [done_of_step kept stepped done] at live
        cases live
      · have unacknowledged := held.attested.unacknowledged record waits
        simp only [step, State.resumeContinuation, draining] at stepped
        cases stepped
        have clash : true = false := acknowledged.symm.trans unacknowledged
        cases clash

theorem entered_of_unstarted
    (held : Attended s) (stepped : step cfg s label = some after)
    (acting : s.roster.Acting record)
    (unstarted : after.unstarted record = true)
    (found : s.dynamicChildren.lookup (s.agentName record) = some record)
    (pending : after.task record = .live ∨
      after.acknowledged record = true ∧
        (after.exit record).placed = true) :
    after.dynamicChildren.lookup (after.agentName record) = some record := by
  have kept := held.ordered.kept
  rw [(named_of_step stepped (born_of_acting kept.numbered acting)).1]
  rcases (step_tableMoves stepped).entry (s.agentName record) with
    same | ⟨_, removes⟩ | ⟨spawn, child, loop, _, spawned, _⟩
  · rw [same]
    exact found
  · exact absurd removes
      (not_removes_of_unstarted held stepped acting unstarted found pending)
  · exact absurd spawned (not_auditing_of_acting kept acting loop)

/-- What works for a record that has not started did so, or is admitted. -/
theorem acting_of_unstarted
    (held : Attended s) (stepped : step cfg s label = some after)
    (acting : after.roster.Acting record)
    (unstarted : after.unstarted record = true) :
    s.roster.Acting record ∨
      after.dynamicChildren.lookup (after.agentName record) =
        some record := by
  have kept := held.ordered.kept
  rcases unstarted_iff.mp
      (unstarted_of_step kept.numbered stepped unstarted) with
    ⟨root, unreached, _⟩
  rcases acting_of_step kept stepped acting with
    before | ⟨handler, restarting, _, home, _⟩ | ⟨_, _, found⟩
  · exact .inl before
  · have reached := (current_of_restarting kept restarting).2
    rw [home, root, unreached] at reached
    cases reached
  · right
    have rooted : after.roster.home record = record :=
      (unstarted_iff.mp unstarted).1
    rw [rooted] at found
    exact found

theorem unstarted_running_of_step
    (held : Attended s) (stepped : step cfg s label = some after)
    (unstarted : after.unstarted record = true)
    (live : after.task record = .live) :
    after.dynamicChildren.lookup (after.agentName record) = some record := by
  have kept := held.ordered.kept
  rcases acting_of_unstarted held stepped (.inl live) unstarted with
    acting | found
  · have lively : s.task record = .live := by
      by_contra idle
      rcases (ended_of_acting kept acting idle).1 with ⟨outcome, done⟩
      rw [done_of_step kept stepped done] at live
      cases live
    have found :=
      held.running record
        (unstarted_of_step kept.numbered stepped unstarted) lively
    exact entered_of_unstarted held stepped acting unstarted found
      (.inl live)
  · exact found

theorem pledged_pending_of_step
    (held : Attended s) (stepped : step cfg s label = some after)
    (pledged : after.pledged record = true)
    (placed : (after.exit record).placed = true) :
    after.dynamicChildren.lookup (after.agentName record) = some record := by
  have kept := held.ordered.kept
  rcases pledged_iff.mp pledged with ⟨acknowledged, unstarted⟩
  rcases acting_of_unstarted held stepped
      (.inr (ExitStage.acting_of_placed placed)) unstarted with
    acting | found
  · have found :
        s.dynamicChildren.lookup (s.agentName record) = some record := by
      by_cases live : s.task record = .live
      · exact
          held.running record
            (unstarted_of_step kept.numbered stepped unstarted) live
      · rcases ended_of_acting kept acting live with ⟨⟨outcome, done⟩, acts⟩
        exact
          held.pending record
            (pledged_of_done kept held.attested stepped done pledged)
            (placed_of_step stepped placed acts kept done)
    exact entered_of_unstarted held stepped acting unstarted found
      (.inr ⟨acknowledged, placed⟩)
  · exact found

end Table

/-! ## Notices -/

section Notices

variable {cfg : Config} {s after : State} {label : Label} {record : Nat}

theorem named_spawners_of_step
    (held : Attended s) (names : namesSpawner s label = true)
    (stepped : step cfg s label = some after) {origin : Origin}
    (member : origin ∈ after.roster.origins) :
    spawnerTruthy origin.spawner = true := by
  rcases step_logs stepped with ⟨new, grown, _, emitted⟩
  simp only [State.roster, grown, List.filterMap_append, List.mem_append]
    at member
  rcases member with added | old
  · rcases List.mem_filterMap.mp added with ⟨event, within, found⟩
    cases emitted event within with
    | spawned spawn agent spawner loop keyed =>
        cases found
        simpa [namesSpawner, loop, keyed] using names
    | raised => cases found
    | tookRemoval => cases found
    | replied => cases found
    | settled record ok _ => cases found
    | notified => cases found
  · exact held.named origin old

theorem pledged_uncancelled_of_step
    (held : Attended s) (sees : seesFailures s label = true)
    (stepped : step cfg s label = some after)
    (pledged : after.pledged record = true) :
    after.task record ≠ .done .cancelled := by
  intro done
  rcases ended_of_step stepped done with before | ⟨status, rfl⟩
  · exact
      held.uncancelled record
        (pledged_of_done held.ordered.kept held.attested stepped before
          pledged)
        before
  · simp only [seesFailures, Bool.not_eq_true'] at sees
    have same : after.pledged record = s.pledged record := by
      simp only [step, State.childStep] at stepped
      repeat' split at stepped
      all_goals cases stepped
      all_goals rfl
    rw [same, sees] at pledged
    cases pledged

/-- The spawner of a record whose handler works has a name to be told by. -/
theorem routable_of_acting
    (held : Attended s) (acting : s.roster.Acting record) :
    s.routable (s.agentName record) = true := by
  have kept := held.ordered.kept
  rcases kept.acting record acting with ⟨origin, taken, _⟩
  have names : s.spawnerNames (s.agentName record) = some origin.spawner :=
    (kept.incumbent _ origin taken).2.2.2
  simp only [State.routable, names]
  exact held.named origin (Roster.incumbent_mem taken).1

/-- A spawner that was told stays told, and is told once. -/
theorem Told.of_step
    (kept : s.roster.Kept) (descended : s.roster.Descended)
    (told : Told s record) (finished : s.exit record = .finished)
    (stepped : step cfg s label = some after) : Told after record := by
  have handled : s.exit record ≠ .unwatched := by
    rw [finished]
    simp
  have born : record < s.next := kept.numbered.born handled
  rcases named_of_step stepped born with ⟨named, home⟩
  rcases told.notice with ⟨origin, member, recorded, once⟩
  refine
    ⟨removed_of_step kept descended stepped handled told.removed, origin, ?_,
      ?_, ?_⟩
  · exact (step_motion stepped).grows.origins origin member
  · rw [home]
    exact recorded
  · rcases step_logs stepped with ⟨new, grown, _, emitted⟩
    have none :
        (new.filter fun event => event.about? = some record) = [] := by
      rw [List.filter_eq_nil_iff]
      intro event within about
      cases emitted event within with
      | notified agent now constructs spawner stage =>
          simp only [Event.about?, Option.some.injEq, decide_eq_true_eq]
            at about
          rw [about, finished] at stage
          cases stage
      | settled record ok _ => simp [Event.about?] at about
      | raised => simp [Event.about?] at about
      | tookRemoval => simp [Event.about?] at about
      | spawned => simp [Event.about?] at about
      | replied => simp [Event.about?] at about
    rw [grown, List.filter_append, none, List.nil_append, named]
    exact once

/-- The task of a handler that goes on has ended. -/
theorem done_of_own
    {resumption : Resumption} {now : Nat} {constructs : Bool}
    (held : Attended s) (failed : (s.exit record).ofFailedStart = true)
    (stepped :
      step cfg s (.exit record resumption now constructs) = some after) :
    ∃ outcome, s.task record = .done outcome := by
  cases stage : s.exit record with
  | watched =>
      cases task : s.task record with
      | done outcome => exact ⟨outcome, rfl⟩
      | notStarted =>
          cases resumption <;>
            simp [step, State.resumeExit, stage, task] at stepped
      | live =>
          cases resumption <;>
            simp [step, State.resumeExit, stage, task] at stepped
  | notifying spawner => exact held.ended record (by rw [stage]; rfl)
  | finished => exact held.ended record (by rw [stage]; rfl)
  | scheduled crashed =>
      exact held.ordered.kept.staged.begun record
        (by simp only [State.roster, stage]; rfl)
  | unsubscribing cause =>
      exact held.ordered.kept.staged.begun record
        (by simp only [State.roster, stage]; rfl)
  | draining cause =>
      exact held.ordered.kept.staged.begun record
        (by simp only [State.roster, stage]; rfl)
  | leaving cause =>
      exact held.ordered.kept.staged.begun record
        (by simp only [State.roster, stage]; rfl)
  | _ =>
      rw [stage] at failed
      cases failed

/-- The handler of a pledged child does not finish without a notice. -/
theorem told_of_own
    {resumption : Resumption} {now : Nat} {constructs : Bool}
    (held : Attended s) (pledged : s.pledged record = true)
    (sees :
      seesFailures s (.exit record resumption now constructs) = true)
    (failed : (s.exit record).ofFailedStart = true)
    (stepped :
      step cfg s (.exit record resumption now constructs) = some after)
    (finished : after.exit record = .finished) : Told after record := by
  have kept := held.ordered.kept
  rcases pledged_iff.mp pledged with ⟨acknowledged, unstarted⟩
  have root := (unstarted_iff.mp unstarted).1
  cases finishes_of_resumeExit stepped finished with
  | ignored cancelled =>
      exact absurd cancelled (held.uncancelled record pledged)
  | absent crashed scheduled removed =>
      have entered :=
        held.pending record pledged (by rw [scheduled]; rfl)
      rw [removed] at entered
      cases entered
  | unnoticed reason announcing _ =>
      rw [announcing] at failed
      cases failed
  | cleaned cause leaving ended =>
      have notices : s.noticeStage record ≠ .finished := by
        apply noticeStage_of_routable
        apply routable_of_acting held
        right
        simp only [State.roster, leaving]
        rfl
      cases cause with
      | rewireFailed =>
          rw [leaving] at failed
          cases failed
      | startFailed other =>
          have own : other = record :=
            (held.attested.cause record other (by rw [leaving]; rfl)).trans
              root
          simp only [State.afterCleanup, own, acknowledged, if_true] at ended
          exact absurd ended notices
  | notified spawner stage =>
      have gone := held.gone record (by rw [stage]; rfl)
      exact told_of_notifying kept held.attested gone stage stepped
  | started other fresh starting =>
      rw [starting] at failed
      cases failed
  | raised _ =>
      simp only [seesFailures, pledged, Bool.not_true] at sees
      cases sees

theorem pledged_told_of_step
    (held : Attended s) (sees : seesFailures s label = true)
    (stepped : step cfg s label = some after)
    (pledged : after.pledged record = true)
    (finished : after.exit record = .finished) : Told after record := by
  have kept := held.ordered.kept
  by_cases before : s.exit record = .finished
  · rcases held.ended record (by rw [before]; rfl) with ⟨outcome, done⟩
    have pledged' :=
      pledged_of_done kept held.attested stepped done pledged
    exact
      (held.told record pledged' before).of_step kept held.descended before
        stepped
  · cases exit_of_step stepped record with
    | same unmoved =>
        rw [unmoved] at finished
        exact absurd finished before
    | own resumption now constructs handled =>
        subst handled
        have unstarted :=
          unstarted_iff.mp
            (unstarted_of_step kept.numbered stepped
              (pledged_iff.mp pledged).2)
        have started : s.task record ≠ .notStarted := by
          intro idle
          have ended := ended_of_passed kept held.ended stepped
            (show (after.exit record).passed = true by rw [finished]; rfl)
          rcases started_of_step kept stepped unstarted.1
              (by rcases ended with ⟨_, done⟩; rw [done]; simp) with
            running | watched
          · exact running idle
          · rw [finished] at watched
            cases watched
        have failed :=
          held.course record unstarted.1 unstarted.2.1 started
        rcases done_of_own held failed stepped with ⟨outcome, done⟩
        exact
          told_of_own held
            (pledged_of_done kept held.attested stepped done pledged) sees
            failed stepped finished
    | admitted _ _ _ watched =>
        rw [finished] at watched
        cases watched
    | published _ _ _ _ _ _ watched =>
        rw [finished] at watched
        cases watched
    | cancelled gathers _ =>
        have unasked :=
          (unstarted_iff.mp (pledged_iff.mp pledged).2).2.2
        rw [requested_of_gathers held.attested.halted stepped gathers]
          at unasked
        cases unasked

theorem step_attended
    (held : Attended s) (permitted : accountable s label = true)
    (stepped : step cfg s label = some after) : Attended after := by
  simp only [accountable, Bool.and_eq_true] at permitted
  rcases permitted with ⟨⟨orders, names⟩, sees⟩
  have kept := held.ordered.kept
  exact
    { ordered := step_orderly held.ordered orders stepped
      descended := (step_motion stepped).descended kept held.descended
      attested := step_attested kept held.attested stepped
      named := fun _ => named_spawners_of_step held names stepped
      asked := fun _ _ => unstarted_asked_of_step held stepped
      course := fun _ => course_of_step kept held.course stepped
      ended := fun _ => ended_of_passed kept held.ended stepped
      running := fun _ => unstarted_running_of_step held stepped
      pending := fun _ => pledged_pending_of_step held stepped
      gone := fun _ => gone_of_step kept held.descended held.gone stepped
      uncancelled := fun _ => pledged_uncancelled_of_step held sees stepped
      told := fun _ => pledged_told_of_step held sees stepped }

end Notices

/-! ## The way to a notice -/

/-- The steps that the handler of a failed start has before it. -/
def ExitStage.untilNotice : ExitStage → Nat
  | .watched => 6
  | .scheduled _ => 5
  | .unsubscribing _ => 4
  | .draining _ => 3
  | .leaving _ => 2
  | .notifying _ => 1
  | _ => 0

section Progress

variable {cfg : Config} {s : State} {record : Nat} {outcome : TaskOutcome}

/-- The handler of a failed start can go on until it has finished. -/
theorem handler_proceeds
    (held : Attended s) (pledged : s.pledged record = true)
    (done : s.task record = .done outcome)
    (unfinished : s.exit record ≠ .finished)
    (now : Nat) (constructs : Bool) :
    ∃ after,
      step cfg s (.exit record .returned now constructs) = some after ∧
        after.pledged record = true ∧
        (after.exit record).untilNotice < (s.exit record).untilNotice := by
  have kept := held.ordered.kept
  have unstarted := (pledged_iff.mp pledged).2
  rcases unstarted_iff.mp unstarted with ⟨root, unreached, _⟩
  have course : (s.exit record).ofFailedStart = true := by
    apply held.course record root unreached
    rw [done]
    simp
  cases stage : s.exit record with
  | watched =>
      have uncancelled : outcome ≠ .cancelled := by
        rintro rfl
        exact held.uncancelled record pledged done
      refine ⟨s.setExit record (.scheduled outcome.crashed), ?_, pledged, ?_⟩
      · cases outcome with
        | cancelled => exact absurd rfl uncancelled
        | _ => simp only [step, State.resumeExit, stage, done]
      · simp only [State.setExit, Function.update_self]
        exact Nat.lt_succ_self 5
  | scheduled crashed =>
      rw [stage] at course
      cases course
      have entered := held.pending record pledged (by rw [stage]; rfl)
      have begins :=
        beginExit_of_unreached cfg now constructs entered
          (current_of_unstarted kept.numbered unstarted) unreached
      refine
        ⟨s.beginExit cfg record true now constructs,
          by simp only [step, State.resumeExit, stage], ?_, ?_⟩
      · rw [begins]
        exact pledged
      · rw [begins]
        simp only [State.setExit, Function.update_self]
        exact Nat.lt_succ_self 4
  | unsubscribing cause =>
      refine ⟨_, by simp only [step, State.resumeExit, stage]; rfl, ?_, ?_⟩
      · exact pledged
      · simp only [State.setExit, Function.update_self]
        exact Nat.lt_succ_self 3
  | draining cause =>
      refine ⟨_, by simp only [step, State.resumeExit, stage]; rfl, ?_, ?_⟩
      · exact pledged
      · simp only [State.setExit, Function.update_self]
        exact Nat.lt_succ_self 2
  | leaving cause =>
      refine ⟨_, by simp only [step, State.resumeExit, stage]; rfl, ?_, ?_⟩
      · exact pledged
      · simp only [State.setExit, Function.update_self]
        rcases afterCleanup_cases s record cause with ended | ⟨_, notifies⟩
        · rw [ended]
          exact Nat.succ_pos 1
        · rw [notifies]
          exact Nat.lt_succ_self 1
  | notifying spawner =>
      refine ⟨_, by simp only [step, State.resumeExit, stage]; rfl, ?_, ?_⟩
      · exact pledged
      · simp only [State.setExit, Function.update_self]
        exact Nat.succ_pos 0
  | finished => exact absurd stage unfinished
  | _ =>
      rw [stage] at course
      cases course

/-- From a failed start, the handler's own steps lead to the notice. -/
theorem notice_reachable
    {permits : State → Label → Prop}
    (allows : ∀ s label, permits s label → accountable s label = true)
    (goesOn : ∀ s, permits s (.exit record .returned 0 true))
    (held : Attended s) (pledged : s.pledged record = true)
    (done : s.task record = .done outcome) :
    ∃ after, Reaches (step cfg) permits s after ∧ Told after record := by
  generalize ahead : (s.exit record).untilNotice = left
  induction left using Nat.strong_induction_on generalizing s with
  | _ left ih =>
      by_cases finished : s.exit record = .finished
      · exact ⟨s, .start, held.told record pledged finished⟩
      · rcases handler_proceeds held pledged done finished 0 true with
          ⟨next, stepped, pledged', fewer⟩
        have attended :=
          step_attended held (allows _ _ (goesOn s)) stepped
        have done' := done_of_step held.ordered.kept stepped done
        rcases ih _ (ahead ▸ fewer) attended pledged' done' rfl with
          ⟨after, reached, told⟩
        exact
          ⟨after, (Reaches.start.step (goesOn s) stepped).trans reached, told⟩

end Progress

end Civitas.Dynamic
