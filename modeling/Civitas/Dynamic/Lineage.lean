import Civitas.Dynamic.Roster

/-!
# The roster of a supervisor

Every step of a dynamic supervisor is a motion of its roster.  In runs that
claim a name only when nothing works under it, the tasks that work under a
name therefore all work for the record that took it last.

Exit handlers and continuations know a child only by its name, so these runs
are the ones in which they can be trusted.  A continuation is trusted less: it
tears its child down whenever it finds it not running, so that a child which
ran and crashed at once is torn down while its exit is handled as well.
-/

namespace Civitas.Dynamic

open Civitas.PyValue
open Civitas.Transition
open Function (update)

/-! ## The view -/

/-- What the loop is about to do for a spawn. -/
def LoopStage.errand : LoopStage → Errand
  | .consulting spawn => .asking spawn.name
  | .subscribing spawn agent => .claimed spawn.name agent
  | .auditing spawn agent => .claimed spawn.name agent
  | _ => .none

/-- The roster of a state. -/
def State.roster (s : State) : Roster where
  next := s.next
  agentName := s.agentName
  home := s.home
  recAgent := s.recAgent
  task := s.task
  reachedLoop := s.reachedLoop
  exit := s.exit
  continuation := s.continuation
  entry := s.dynamicChildren.lookup
  spawnerNames := s.spawnerNames
  origins := s.log.filterMap Event.origin?
  errand := s.loop.errand

/-! ## Quiet steps -/

section Quiet

open Roster

variable
  {claims : Name → Prop} {tears : Nat → Prop} {before after : State}

/-- The steps of the loop that start nothing. -/
theorem quiet_loop
    (same : after.roster =
      { before.roster with
        entry := after.roster.entry
        errand := after.roster.errand })
    (entry : ∀ name,
      after.roster.entry name = before.roster.entry name ∨
        after.roster.entry name = none)
    (errand : ErrandMoves before.roster after.roster.errand) :
    Quiet tears before.roster after.roster := by
  rw [same]
  exact
    { next := rfl
      agentName := rfl
      home := rfl
      recAgent := rfl
      spawnerNames := rfl
      origins := rfl
      task := fun _ => .stay
      reachedLoop := fun _ => .inl rfl
      exit := fun _ => .stay
      continuation := fun _ => .stay
      entry := entry
      errand := errand }

/-- The steps of one exit handler that start nothing. -/
theorem quiet_exit {agent : Nat} {stage : ExitStage}
    (same : after.roster =
      { before.roster with
        entry := after.roster.entry
        exit := update before.roster.exit agent stage })
    (entry : ∀ name,
      after.roster.entry name = before.roster.entry name ∨
        after.roster.entry name = none)
    (moves : ExitMoves before.roster agent stage) :
    Quiet tears before.roster after.roster := by
  rw [same]
  refine
    { next := rfl
      agentName := rfl
      home := rfl
      recAgent := rfl
      spawnerNames := rfl
      origins := rfl
      task := fun _ => .stay
      reachedLoop := fun _ => .inl rfl
      exit := ?_
      continuation := fun _ => .stay
      entry := entry
      errand := .stay }
  intro other
  by_cases same : other = agent
  · rw [same]
    simp only [Function.update_self]
    exact moves
  · simp only [Function.update_of_ne same]
    exact .stay

/-- The steps of one continuation. -/
theorem quiet_continuation {record : Nat} {stage : SpawnStage}
    (same : after.roster =
      { before.roster with
        entry := after.roster.entry
        continuation := update before.roster.continuation record stage })
    (entry : ∀ name,
      after.roster.entry name = before.roster.entry name ∨
        after.roster.entry name = none)
    (moves : SpawnMoves tears before.roster record stage) :
    Quiet tears before.roster after.roster := by
  rw [same]
  refine
    { next := rfl
      agentName := rfl
      home := rfl
      recAgent := rfl
      spawnerNames := rfl
      origins := rfl
      task := fun _ => .stay
      reachedLoop := fun _ => .inl rfl
      exit := fun _ => .stay
      continuation := ?_
      entry := entry
      errand := .stay }
  intro other
  by_cases same : other = record
  · rw [same]
    simp only [Function.update_self]
    exact moves
  · simp only [Function.update_of_ne same]
    exact .stay

theorem entry_removed (s : State) (removed name : Name) :
    (s.removeChild removed).roster.entry name = s.roster.entry name ∨
      (s.removeChild removed).roster.entry name = none := by
  by_cases same : name = removed
  · rw [same]
    exact .inr (AList.lookup_erase removed s.dynamicChildren)
  · exact .inl (AList.lookup_erase_ne same)

theorem quiet_respond (s : State) (request : Request) (answer : Answer) :
    Quiet tears s.roster (s.respond request answer).roster :=
  quiet_loop rfl (fun _ => .inl rfl) .drop

theorem quiet_finishRemoval
    (s : State) (request : Request) (name : Name) :
    Quiet tears s.roster (s.finishRemoval request name).roster :=
  quiet_loop rfl (entry_removed s name) .drop

theorem exitMoves_cancel (a : Roster) (agent : Nat) :
    ExitMoves a agent (a.exit agent).cancel := by
  generalize found : a.exit agent = stage
  cases stage with
  | unwatched =>
      have unmoved : ExitMoves a agent (a.exit agent) := .stay
      rw [found] at unmoved
      exact unmoved
  | watched =>
      have unmoved : ExitMoves a agent (a.exit agent) := .stay
      rw [found] at unmoved
      exact unmoved
  | _ =>
      apply ExitMoves.finish
      · rw [found]
        simp
      · rw [found]
        simp

theorem spawnMoves_cancel (a : Roster) (record : Nat) :
    SpawnMoves tears a record (a.continuation record).cancel := by
  generalize found : a.continuation record = stage
  cases stage with
  | absent =>
      have unmoved : SpawnMoves tears a record (a.continuation record) := .stay
      rw [found] at unmoved
      exact unmoved
  | _ =>
      refine .settle ?_ rfl
      rw [found]
      simp

theorem quiet_stopChildren (s : State) (names : List Name) :
    Quiet tears s.roster (s.stopChildren names).roster where
  next := rfl
  agentName := rfl
  home := rfl
  recAgent := rfl
  spawnerNames := rfl
  origins := rfl
  task := fun _ => .stay
  reachedLoop := fun _ => .inl rfl
  exit := by
    intro agent
    change ExitMoves s.roster agent
      ((if (s.firstLive names).isSome then s.exit
        else fun agent => (s.exit agent).cancel) agent)
    split_ifs
    · exact .stay
    · exact exitMoves_cancel s.roster agent
  continuation := by
    intro record
    change SpawnMoves tears s.roster record
      ((if (s.firstLive names).isSome then s.continuation
        else fun record => (s.continuation record).cancel) record)
    split_ifs
    · exact .stay
    · exact spawnMoves_cancel s.roster record
  entry := fun _ => .inl rfl
  errand := by
    have gone : (s.stopChildren names).roster.errand = .none := by
      simp only [State.roster, State.stopChildren]
      split
      · rfl
      · rfl
    rw [gone]
    exact .drop

theorem quiet_onStop (s : State) : Quiet tears s.roster s.onStop.roster :=
  quiet_stopChildren { s with requested := fun _ => true } _

theorem quiet_fail (s : State) : Quiet tears s.roster s.fail.roster :=
  quiet_stopChildren
    { s with log := .raised :: s.log, requested := fun _ => true } _

theorem roster_receive (s : State) (message : Message) :
    (s.receive message).roster = s.roster := by
  have origins :
      (s.receive message).log.filterMap Event.origin? =
        s.log.filterMap Event.origin? := by
    simp only [State.receive]
    split_ifs
    · rfl
    · rfl
  simp only [State.roster, origins]
  rfl

theorem quiet_takeSpawn
    (cfg : Config) (s : State) (request : Request) (message : Message) :
    Quiet tears s.roster (s.takeSpawn cfg request message).roster := by
  unfold State.takeSpawn
  split
  · exact quiet_respond s request _
  · exact quiet_fail s
  · rename_i name consulted
    apply quiet_loop
    · rfl
    · exact fun _ => .inl rfl
    · exact .ask (spawnDecision_fresh consulted)

theorem quiet_despawnClear
    (s : State) (request : Request) (name : Name) :
    Quiet tears s.roster (s.despawnClear request name).roster :=
  quiet_loop rfl (fun _ => .inl rfl) .drop

theorem quiet_takeDespawn
    (s : State) (request : Request) (payload : Dict) :
    Quiet tears s.roster (s.takeDespawn request payload).roster := by
  unfold State.takeDespawn
  split
  · exact quiet_fail s
  · split
    · exact quiet_respond s request _
    · simp only
      split
      · split_ifs
        · exact quiet_loop rfl (fun _ => .inl rfl) .drop
        · exact quiet_despawnClear _ request _
      · exact quiet_despawnClear _ request _

theorem quiet_afterStop (s : State) (stop : StopRequest) :
    Quiet tears s.roster (s.afterStop stop).roster := by
  unfold State.afterStop
  split
  · split_ifs
    · exact quiet_loop rfl (fun _ => .inl rfl) .drop
    · exact quiet_finishRemoval s _ _
  · exact quiet_finishRemoval s _ _

theorem quiet_takeStop
    (cfg : Config) (s : State) (request : Request) (payload : Dict) :
    Quiet tears s.roster (s.takeStop cfg request payload).roster := by
  unfold State.takeStop
  split_ifs
  · exact quiet_fail s
  · split
    · exact quiet_fail s
    · split
      · exact quiet_respond s request _
      · simp only
        split_ifs
        · exact quiet_loop rfl (fun _ => .inl rfl) .drop
        · exact quiet_afterStop
            { s with requested := update s.requested _ true } _

theorem quiet_takeMessage
    (cfg : Config) (s : State) (message : Message) :
    Quiet tears s.roster (s.takeMessage cfg message).roster := by
  rw [← roster_receive s message]
  unfold State.takeMessage
  simp only
  cases message.kind with
  | shutdown => exact quiet_onStop _
  | spawn => exact quiet_takeSpawn cfg _ _ message
  | despawn => exact quiet_takeDespawn _ _ _
  | stop => exact quiet_takeStop cfg _ _ _
  | other => exact quiet_loop rfl (fun _ => .inl rfl) .stay

theorem quiet_answer (s : State) (request : Request) (answer : Answer) :
    Quiet tears s.roster (s.answer request answer).roster := by
  apply quiet_loop
  · have origins :
        (s.answer request answer).log.filterMap Event.origin? =
          s.log.filterMap Event.origin? := by
      simp only [State.answer]
      split_ifs
      · rfl
      · rfl
    simp only [State.roster, origins]
    rfl
  · exact fun _ => .inl rfl
  · exact .drop

/-! ## Every step is a motion -/

theorem motion_resumeConsulting
    {s : State} {spawn : SpawnRequest}
    (consulting : s.loop = .consulting spawn)
    (approved constructs : Bool)
    (claiming : approved = true → constructs = true →
      s.registry spawn.name = none → claims spawn.name) :
    Motion claims tears s.roster
      (s.resumeConsulting spawn approved constructs).roster := by
  unfold State.resumeConsulting
  split_ifs with denied fails taken
  · exact .quiet (quiet_respond { s with currentSpawner := none } _ _)
  · exact .quiet (quiet_fail { s with currentSpawner := none })
  · exact .quiet (quiet_respond { s with currentSpawner := none } _ _)
  · apply Motion.claim spawn.name
    · apply claiming
      · simpa using denied
      · simpa using fails
      · simpa using taken
    · simp only [State.roster, consulting, LoopStage.errand]

theorem motion_enroll
    {s : State} {spawn : SpawnRequest} {agent : Nat}
    (auditing : s.loop = .auditing spawn agent) :
    Motion claims tears s.roster (s.enroll spawn agent).roster := by
  unfold State.enroll
  split
  · exact .quiet (quiet_fail { s with totalSpawns := s.totalSpawns + 1 })
  · rename_i spawner _
    have moved :
        Motion claims tears s.roster
          (s.roster.enroll
            ⟨agent, spawn.name, spawn.sender, spawner⟩ spawn.wait) := by
      apply Motion.enroll
      simp only [State.roster, auditing, LoopStage.errand]
    have entry :
        (fun name => (s.dynamicChildren.insert spawn.name agent).lookup name) =
          update s.roster.entry spawn.name (some agent) := by
      funext name
      by_cases same : name = spawn.name
      · rw [same, Function.update_self]
        exact AList.lookup_insert s.dynamicChildren
      · rw [Function.update_of_ne same]
        exact AList.lookup_insert_ne same
    convert moved using 1
    simp only [State.roster, Roster.enroll] at entry ⊢
    rw [entry]
    cases spawn.wait <;> rfl

theorem motion_resumeLoop
    {s after : State} {resumption : Resumption}
    (resumed : s.resumeLoop resumption = some after) :
    Motion claims tears s.roster after.roster := by
  unfold State.resumeLoop at resumed
  repeat' split at resumed
  all_goals cases resumed
  all_goals
    first
    | exact .quiet (quiet_fail s)
    | exact .quiet (quiet_onStop s)
    | exact .quiet (quiet_fail { s with currentSpawner := none })
    | exact .quiet (quiet_onStop { s with currentSpawner := none })
    | exact .quiet (quiet_afterStop s _)
    | exact .quiet (quiet_finishRemoval s _ _)
    | exact .quiet (quiet_answer s _ _)
    | exact .quiet (quiet_stopChildren s _)
    | exact .quiet (quiet_loop rfl (fun _ => .inl rfl) .drop)
    | skip
  · rename_i spawn agent stage _
    apply Motion.quiet
    refine quiet_loop rfl (fun _ => .inl rfl) ?_
    have unmoved : ErrandMoves s.roster s.roster.errand := .stay
    simp only [State.roster, stage] at unmoved ⊢
    exact unmoved
  · rename_i spawn agent stage _
    exact motion_enroll stage

theorem exitMoves_handle {a : Roster} {agent : Nat} {from_ stage : ExitStage}
    (found : a.exit agent = from_) (began : from_.begun = true)
    (begun : stage.begun = true) (building : stage.building = none)
    (other : ∀ crashed, stage ≠ .scheduled crashed) :
    ExitMoves a agent stage := by
  refine .handle ?_ begun building other
  rw [found]
  exact began

theorem exitMoves_finish {a : Roster} {agent : Nat} {from_ : ExitStage}
    (found : a.exit agent = from_)
    (watched : from_ ≠ .watched) (unwatched : from_ ≠ .unwatched) :
    ExitMoves a agent .finished := by
  apply ExitMoves.finish
  · rw [found]
    exact unwatched
  · rw [found]
    intro same
    exact absurd same watched

theorem exitMoves_notice {s : State} {agent : Nat} {from_ : ExitStage}
    (found : s.exit agent = from_) (began : from_.begun = true)
    (watched : from_ ≠ .watched) (unwatched : from_ ≠ .unwatched) :
    ExitMoves s.roster agent (s.noticeStage agent) := by
  unfold State.noticeStage
  split
  · rename_i spawner named
    split_ifs
    · refine .notify ?_ named
      simp only [State.roster, found]
      exact began
    · exact exitMoves_finish found watched unwatched
  · exact exitMoves_finish found watched unwatched

theorem motion_beginExit
    {cfg : Config} {s : State} {agent : Nat} {crashed : Bool}
    (scheduled : s.exit agent = .scheduled crashed)
    (now : Nat) (constructs : Bool) :
    Motion claims tears s.roster
      (s.beginExit cfg agent crashed now constructs).roster := by
  have handles {stage : ExitStage}
      (begun : stage.begun = true) (building : stage.building = none)
      (other : ∀ crashed, stage ≠ .scheduled crashed) :
      ExitMoves s.roster agent stage :=
    exitMoves_handle scheduled rfl begun building other
  unfold State.beginExit
  split
  · exact .quiet
      (quiet_exit rfl (fun _ => .inl rfl)
        (exitMoves_finish scheduled (by simp) (by simp)))
  · rename_i record entered
    simp only
    split_ifs with unreached
    · exact .quiet
        (quiet_exit rfl (fun _ => .inl rfl) (handles rfl rfl (by simp)))
    · exact .quiet
        (quiet_exit rfl (fun _ => .inl rfl) (handles rfl rfl (by simp)))
    · exact .quiet
        (quiet_exit rfl (fun _ => .inl rfl) (handles rfl rfl (by simp)))
    · exact .quiet
        (quiet_exit rfl (fun _ => .inl rfl) (handles rfl rfl (by simp)))
    · exact .quiet
        (quiet_exit rfl (fun _ => .inl rfl) (handles rfl rfl (by simp)))
    · apply Motion.build agent record crashed scheduled entered
      intro crash
      have reached : s.reachedLoop (s.recAgent record) = true := by
        simpa [crash] using unreached
      exact reached
    · exact .quiet
        (quiet_exit rfl (fun _ => .inl rfl) (handles rfl rfl (by simp)))

theorem motion_resumeExit
    {cfg : Config} {s after : State} {agent now : Nat}
    {resumption : Resumption} {constructs : Bool}
    (resumed :
      s.resumeExit cfg agent resumption now constructs = some after) :
    Motion claims tears s.roster after.roster := by
  unfold State.resumeExit at resumed
  simp only at resumed
  split at resumed
  · rename_i watched
    split at resumed
    · rename_i done
      cases resumed
      apply Motion.quiet
      refine quiet_exit rfl (fun _ => .inl rfl) ?_
      apply ExitMoves.finish
      · simp only [State.roster, watched]
        simp
      · exact fun _ => ⟨_, done⟩
    · rename_i outcome uncancelled done
      cases resumed
      apply Motion.quiet
      refine quiet_exit rfl (fun _ => .inl rfl) (.schedule watched done ?_)
      intro same
      exact uncancelled (same ▸ rfl)
    · cases resumed
  · rename_i crashed scheduled
    cases resumed
    exact motion_beginExit scheduled now constructs
  · rename_i stage
    cases resumed
    exact .quiet
      (quiet_exit rfl (entry_removed s _)
        (exitMoves_handle stage rfl rfl rfl (by simp)))
  · rename_i stage
    cases resumed
    exact .quiet
      (quiet_exit rfl (fun _ => .inl rfl)
        (exitMoves_notice stage rfl (by simp) (by simp)))
  · rename_i stage
    cases resumed
    exact .quiet
      (quiet_exit rfl (fun _ => .inl rfl)
        (exitMoves_finish stage (by simp) (by simp)))
  · rename_i stage
    cases resumed
    exact .quiet
      (quiet_exit rfl (fun _ => .inl rfl)
        (exitMoves_finish stage (by simp) (by simp)))
  · rename_i stage
    cases resumed
    exact .quiet
      (quiet_exit rfl (fun _ => .inl rfl)
        (exitMoves_finish stage (by simp) (by simp)))
  · rename_i stage
    cases resumed
    exact .quiet
      (quiet_exit rfl (fun _ => .inl rfl)
        (exitMoves_handle stage rfl rfl rfl (by simp)))
  · rename_i stage
    cases resumed
    exact .quiet
      (quiet_exit rfl (fun _ => .inl rfl)
        (exitMoves_finish stage (by simp) (by simp)))
  · rename_i stage
    cases resumed
    exact .quiet
      (quiet_exit rfl (entry_removed s _)
        (exitMoves_handle stage rfl rfl rfl (by simp)))
  · rename_i stage
    cases resumed
    exact .quiet
      (quiet_exit rfl (fun _ => .inl rfl)
        (exitMoves_finish stage (by simp) (by simp)))
  · rename_i cause stage
    cases resumed
    refine .quiet (quiet_exit rfl (fun _ => .inl rfl) ?_)
    unfold State.afterCleanup
    split
    · split_ifs
      · exact exitMoves_notice stage rfl (by simp) (by simp)
      · exact exitMoves_finish stage (by simp) (by simp)
    · exact exitMoves_notice stage rfl (by simp) (by simp)
  · rename_i stage
    cases resumed
    exact .quiet
      (quiet_exit rfl (fun _ => .inl rfl)
        (exitMoves_finish stage (by simp) (by simp)))
  · rename_i stage
    cases resumed
    exact .quiet
      (quiet_exit rfl (fun _ => .inl rfl)
        (.wire stage))
  · rename_i stage
    cases resumed
    exact .quiet
      (quiet_exit rfl (fun _ => .inl rfl)
        (exitMoves_handle stage rfl rfl rfl (by simp)))
  · rename_i record fresh stage
    cases resumed
    exact .start agent record fresh stage
  · rename_i stage
    cases resumed
    exact .quiet
      (quiet_exit rfl (fun _ => .inl rfl)
        (exitMoves_handle stage rfl rfl rfl (by simp)))
  · rename_i stage
    cases resumed
    exact .quiet
      (quiet_exit rfl (fun _ => .inl rfl)
        (exitMoves_handle stage rfl rfl rfl (by simp)))
  · rename_i record fresh stage
    split at resumed
    · cases resumed
      exact .publish agent record fresh stage
    · split_ifs at resumed
      · cases resumed
        exact .quiet
          (quiet_exit rfl (fun _ => .inl rfl)
            (exitMoves_finish stage (by simp) (by simp)))
      · cases resumed
        exact .publish agent record fresh stage
    · cases resumed
  · cases resumed

theorem quiet_resumeContinuation
    {s after : State} {record : Nat} {resumption : Resumption}
    (tearing : resumption = .returned → s.continuation record = .waiting →
      (s.status record).ready = false → tears record)
    (resumed : s.resumeContinuation record resumption = some after) :
    Quiet tears s.roster after.roster := by
  have settles {from_ stage : SpawnStage}
      (found : s.continuation record = from_)
      (present : from_ ≠ .absent) (settled : stage.acting = false) :
      SpawnMoves tears s.roster record stage := by
    refine .settle ?_ settled
    simp only [State.roster, found]
    exact present
  unfold State.resumeContinuation at resumed
  simp only at resumed
  split at resumed
  · rename_i stage
    split_ifs at resumed with unsettled ready
    · cases resumed
      exact quiet_continuation rfl (fun _ => .inl rfl)
        (settles stage (by simp) rfl)
    · split at resumed
      · rename_i outcome done
        cases resumed
        exact quiet_continuation rfl (fun _ => .inl rfl)
          (.tear (tearing rfl stage (Bool.eq_false_iff.mpr ready)) stage done)
      · cases resumed
        exact quiet_continuation rfl (fun _ => .inl rfl)
          (settles stage (by simp) rfl)
  · rename_i stage
    cases resumed
    exact quiet_continuation rfl (fun _ => .inl rfl)
      (settles stage (by simp) rfl)
  · rename_i stage
    cases resumed
    exact quiet_continuation rfl (fun _ => .inl rfl)
      (settles stage (by simp) rfl)
  · rename_i stage
    cases resumed
    exact quiet_continuation rfl (fun _ => .inl rfl)
      (.drain stage)
  · rename_i stage
    cases resumed
    exact quiet_continuation rfl (fun _ => .inl rfl)
      (settles stage (by simp) rfl)
  · rename_i stage
    cases resumed
    exact quiet_continuation rfl (entry_removed s _)
      (settles stage (by simp) rfl)
  · rename_i stage
    cases resumed
    exact quiet_continuation rfl (fun _ => .inl rfl)
      (settles stage (by simp) rfl)
  · rename_i stage
    cases resumed
    exact quiet_continuation rfl (fun _ => .inl rfl)
      (settles stage (by simp) rfl)
  · rename_i stage
    cases resumed
    exact quiet_continuation rfl (fun _ => .inl rfl)
      (settles stage (by simp) rfl)
  · rename_i stage
    cases resumed
    exact quiet_continuation rfl (fun _ => .inl rfl)
      (settles stage (by simp) rfl)
  · rename_i stage
    cases resumed
    exact quiet_continuation rfl (fun _ => .inl rfl)
      (settles stage (by simp) rfl)
  · cases resumed

theorem quiet_childStep
    {s after : State} {agent : Nat} {event : ChildEvent}
    (acted : s.childStep agent event = some after) :
    Quiet tears s.roster after.roster := by
  have unmoved : Quiet tears s.roster s.roster :=
    quiet_loop rfl (fun _ => .inl rfl) .stay
  have live : s.task agent = .live := by
    by_contra idle
    rw [State.childStep.eq_def, if_pos idle] at acted
    cases acted
  rw [State.childStep.eq_def, if_neg (not_not_intro live)] at acted
  cases event with
  | reach suspended =>
      simp only at acted
      split at acted
      · cases acted
      cases acted
      exact
        { unmoved with
          reachedLoop := by
            intro other
            by_cases same : other = agent
            · right
              rw [same]
              exact ⟨live, Function.update_self ..⟩
            · exact .inl (Function.update_of_ne same ..) }
  | change status marker =>
      simp only at acted
      split at acted
      · cases acted
        exact unmoved
      · cases acted
  | finish outcome status =>
      simp only at acted
      split_ifs at acted with refused
      cases acted
      exact
        { unmoved with
          task := by
            intro other
            by_cases same : other = agent
            · rw [same]
              simp only [State.roster, Function.update_self]
              refine .finish live ?_
              intro returned
              simp only [returned, decide_true, Bool.true_and] at refused
              grind
            · simp only [State.roster, Function.update_of_ne same]
              exact .stay }

theorem quiet_foreignStep
    {s after : State} {name : Name} {joins : Bool}
    (acted : s.foreignStep name joins = some after) :
    Quiet tears s.roster after.roster := by
  unfold State.foreignStep at acted
  split at acted
  · cases acted
    exact quiet_loop rfl (fun _ => .inl rfl) .stay
  · cases acted
    exact quiet_loop rfl (fun _ => .inl rfl) .stay
  · cases acted

/-- The name is claimed in this step. -/
def Claims (s : State) (label : Label) (name : Name) : Prop :=
  label = .consulted true true ∧ s.registry name = none ∧
    ∃ spawn, s.loop = .consulting spawn ∧ spawn.name = name

/-- The continuation of the record tears its child down in this step. -/
def Tears (s : State) (label : Label) (record : Nat) : Prop :=
  label = .continuation record .returned ∧
    s.continuation record = .waiting ∧ (s.status record).ready = false

theorem step_motion
    {cfg : Config} {s after : State} {label : Label}
    (stepped : step cfg s label = some after) :
    Motion (Claims s label) (Tears s label) s.roster after.roster := by
  cases label with
  | take message =>
      cases loop : s.loop with
      | idle =>
          simp only [step, loop, Option.some.injEq] at stepped
          subst stepped
          exact .quiet (quiet_takeMessage cfg s message)
      | _ => simp [step, loop] at stepped
  | consulted approved constructs =>
      cases loop : s.loop with
      | consulting spawn =>
          simp only [step, loop, Option.some.injEq] at stepped
          subst stepped
          apply motion_resumeConsulting loop
          intro approves builds fresh
          rw [approves, builds]
          exact ⟨rfl, fresh, spawn, loop, rfl⟩
      | _ => simp [step, loop] at stepped
  | loop resumption => exact motion_resumeLoop stepped
  | exit agent resumption now constructs => exact motion_resumeExit stepped
  | continuation record resumption =>
      refine .quiet (quiet_resumeContinuation ?_ stepped)
      intro returned waiting unready
      exact ⟨by rw [returned], waiting, unready⟩
  | child agent event => exact .quiet (quiet_childStep stepped)
  | foreign name joins => exact .quiet (quiet_foreignStep stepped)

end Quiet

/-! ## Orderly runs -/

/-- Something may still be done under the name of an incarnation. -/
def State.busy (s : State) (agent : Nat) : Bool :=
  s.task agent = .live || (s.exit agent).acting ||
    (s.continuation agent).acting

/-- Nothing works under the name. -/
def State.freeName (s : State) (name : Name) : Bool :=
  (List.range s.next).all fun agent =>
    s.agentName agent ≠ name || !s.busy agent

/-- A name is claimed only when nothing works under it. -/
def claimsFreeName (s : State) (label : Label) : Bool :=
  match label, s.loop with
  | .consulted true true, .consulting spawn =>
      (s.registry spawn.name).isSome || s.freeName spawn.name
  | _, _ => true

/-- A continuation tears down only what never reached its loop. -/
def tearsUnreached (s : State) (label : Label) : Bool :=
  match label with
  | .continuation record .returned =>
      s.continuation record ≠ .waiting || (s.status record).ready ||
        !s.reachedLoop record
  | _ => true

/-- The steps after which exit handlers can be trusted with a name. -/
def orderly (s : State) (label : Label) : Bool :=
  claimsFreeName s label && tearsUnreached s label

theorem roster_free {s : State} {name : Name}
    (numbered : s.roster.Numbered) (free : s.freeName name = true) :
    s.roster.Free name := by
  intro agent named
  by_cases born : agent < s.next
  · have quiet := List.all_eq_true.mp free agent (List.mem_range.mpr born)
    have same : s.agentName agent = name := named
    simp only [same, State.busy, ne_eq, not_true_eq_false, decide_false,
      Bool.false_or, Bool.not_eq_true', Bool.or_eq_false_iff,
      decide_eq_false_iff_not] at quiet
    refine ⟨?_, quiet.2⟩
    rintro (live | acting)
    · exact quiet.1.1 live
    · have idle := quiet.1.2
      rw [show s.exit agent = s.roster.exit agent from rfl, acting] at idle
      cases idle
  · rcases numbered.blank agent (Nat.le_of_not_lt born) with
      ⟨task, exit, spawn, _⟩
    constructor
    · rintro (live | acting)
      · rw [task] at live
        cases live
      · rw [exit] at acting
        cases acting
    · rw [spawn]
      rfl

theorem free_of_claims
    {s : State} {label : Label} {name : Name}
    (numbered : s.roster.Numbered)
    (permitted : claimsFreeName s label = true)
    (claims : Claims s label name) :
    s.roster.Free name := by
  rcases claims with ⟨rfl, fresh, spawn, loop, rfl⟩
  apply roster_free numbered
  simpa only [claimsFreeName, loop, fresh, Option.isSome_none,
    Bool.false_or] using permitted

theorem unreached_of_tears
    {s : State} {label : Label} {record : Nat}
    (permitted : tearsUnreached s label = true)
    (tears : Tears s label record) :
    s.reachedLoop record = false := by
  rcases tears with ⟨rfl, waiting, unready⟩
  simpa [tearsUnreached, waiting, unready] using permitted

theorem kept_init : init.roster.Kept where
  numbered :=
    ⟨fun _ _ => ⟨rfl, rfl, rfl, rfl, rfl, rfl⟩,
      fun _ => ⟨rfl, rfl, fun born => born⟩,
      fun _ _ => ⟨rfl, fun born => born⟩, fun _ _ _ => rfl⟩
  staged :=
    ⟨by rintro _ ⟨⟩, by rintro _ ⟨⟩, by rintro _ _ ⟨⟩, by rintro _ ⟨⟩,
      by rintro _ _ _ ⟨⟩, by rintro _ _ _ ⟨⟩,
      by rintro _ _ _ _ _ ⟨⟩⟩
  incumbent := by rintro _ _ ⟨⟩
  entry := by rintro _ _ ⟨⟩
  acting := by
    rintro agent (live | acting)
    · cases live
    · cases acting
  continuing := by rintro _ ⟨⟩
  holder := by
    rintro agent (live | holds)
    · cases live
    · cases holds
  asked := by rintro _ ⟨⟩
  claimed := by rintro _ _ ⟨⟩
  notifying := by rintro _ _ ⟨⟩

theorem step_kept
    {cfg : Config} {s after : State} {label : Label}
    (kept : s.roster.Kept)
    (permitted : claimsFreeName s label = true)
    (stepped : step cfg s label = some after) :
    after.roster.Kept := by
  apply (step_motion stepped).kept kept
  intro name claims
  exact free_of_claims kept.numbered permitted claims

/-- A roster in which names and teardowns are in order. -/
structure Roster.Orderly (a : Roster) : Prop where
  kept : a.Kept
  torn : a.Torn

theorem step_orderly
    {cfg : Config} {s after : State} {label : Label}
    (held : s.roster.Orderly)
    (permitted : orderly s label = true)
    (stepped : step cfg s label = some after) :
    after.roster.Orderly := by
  rcases Bool.and_eq_true_iff.mp permitted with ⟨free, unreached⟩
  constructor
  · exact step_kept held.kept free stepped
  · apply (step_motion stepped).torn held.kept held.torn
    intro record tears
    exact unreached_of_tears unreached tears

theorem orderly_of_reaches
    {cfg : Config} {permits : State → Label → Prop} {s : State}
    (ordered : ∀ before label,
      permits before label → orderly before label = true)
    (reached : Reaches (step cfg) permits init s) :
    s.roster.Orderly := by
  apply reached.invariant
  · exact ⟨kept_init, by rintro _ ⟨⟩⟩
  · intro before label after held permitted stepped
    exact step_orderly held (ordered before label permitted) stepped

end Civitas.Dynamic
