import Civitas.Dynamic.Lineage
import Civitas.Dynamic.Observations

/-!
# Exits and the incarnations they concern

The handling of an exit consists of the steps of `_handle_child_exit` for the
incarnation that exited, and of the steps of the continuation that waits for
its start.  Both look their child up by name.  Another incarnation that holds
the name is left alone in orderly runs.

Without the conditions it is not: a stop and a spawn of one name, handled one
right after the other, enroll a new child before the exit of the stopped one is
handled.  `_process_crash_event` of the static supervisor compares the tasks
at this point; `_handle_child_exit` does not.
-/

namespace Civitas.Dynamic

open Civitas.PyValue
open Civitas.Transition
open Function (update)

/-! ## Holding a name -/

/-- The incarnation is the agent of the record found under its name. -/
def State.Tracked (s : State) (agent : Nat) : Prop :=
  s.dynamicChildren.lookup (s.agentName agent) = some (s.home agent) ∧
    s.recAgent (s.home agent) = agent

/-- The name is claimed for the incarnation, which is not admitted yet. -/
def State.Claimed (s : State) (agent : Nat) : Prop :=
  s.loop.errand = .claimed (s.agentName agent) agent

/-- The incarnation currently holds its name. -/
def State.Holds (s : State) (agent : Nat) : Prop :=
  s.Tracked agent ∨ s.Claimed agent

/-- What the supervisor, the registry and the bus have for a name. -/
structure Hold where
  entry : Option Nat
  registration : Option Owner
  subscription : Option Nat
deriving DecidableEq

/-- What is held for a name. -/
def State.hold (s : State) (name : Name) : Hold where
  entry := s.dynamicChildren.lookup name
  registration := s.registry name
  subscription := s.handlers name

/--
A step does not remove, deregister, restart or replace the incarnation.  It
may record the incarnation's own task under its name.
-/
structure Untouched (before after : State) (agent : Nat) : Prop where
  hold :
    after.hold (before.agentName agent) = before.hold (before.agentName agent)
  current :
    after.recAgent (before.home agent) = before.recAgent (before.home agent)
  built : after.next = before.next
  running : after.task = before.task
  recorded :
    after.childTasks (before.agentName agent) =
        before.childTasks (before.agentName agent) ∨
      after.childTasks (before.agentName agent) = some agent

/-- The step belongs to the handling of the exit of an incarnation. -/
def Label.handles (agent : Nat) : Label → Prop
  | .exit exited _ _ _ => exited = agent
  | .continuation record _ => record = agent
  | _ => False

/-- The exits handled in a state concern only the incarnation that exited. -/
structure ExitsIsolated
    (cfg : Config) (permits : State → Label → Prop) (s : State) :
    Prop where
  holders : ∀ label after agent holder,
    permits s label → step cfg s label = some after →
      label.handles agent → holder ≠ agent →
      s.agentName holder = s.agentName agent → s.Holds holder →
        Untouched s after holder
  notices : ∀ label after agent about child spawner,
    permits s label → step cfg s label = some after →
      label.handles agent →
      Event.notified about child spawner ∈ after.log →
        Event.notified about child spawner ∈ s.log ∨
          about = agent ∧ ∃ origin ∈ s.roster.origins,
            origin.record = s.home agent ∧ origin.name = child ∧
              origin.spawner = spawner

/-! ## Exit handlers -/

theorem Untouched.refl (s : State) (agent : Nat) : Untouched s s agent :=
  ⟨rfl, rfl, rfl, rfl, .inl rfl⟩

/-- A task that still acts under the name of a holder has its record. -/
theorem home_of_holder
    {s : State} {agent holder : Nat} (kept : s.roster.Kept)
    (named : s.agentName holder = s.agentName agent)
    (holds : s.Holds holder)
    (serves : s.roster.Serves agent)
    (busy : s.roster.Acting agent ∨
      (s.continuation agent).acting = true) :
    s.home agent = s.home holder ∧
      s.recAgent (s.home agent) = holder := by
  rcases holds with ⟨entered, current⟩ | claimed
  · rcases serves with ⟨origin, taken, served⟩
    rcases kept.entry _ _ entered with ⟨other, taken', held⟩
    have same : s.home agent = s.home holder := by
      rw [named] at taken'
      have equal : some origin = some other := taken.symm.trans taken'
      rw [← held, ← Option.some.inj equal, served]
      rfl
    refine ⟨same, ?_⟩
    rw [same]
    exact current
  · have free := (kept.claimed _ _ claimed).2.2.2.2.2.2.2.2
    rcases free agent named.symm with ⟨idle, settled⟩
    rcases busy with acting | acting
    · exact absurd acting idle
    · rw [show s.roster.continuation agent = s.continuation agent from rfl,
        acting] at settled
      cases settled

/-- The handler of an incarnation that holds its record has no rival. -/
theorem not_holds_of_holder
    {s : State} {agent holder : Nat} (kept : s.roster.Kept)
    (apart : holder ≠ agent)
    (named : s.agentName holder = s.agentName agent)
    (holds : s.Holds holder) :
    (s.exit agent).holds = false := by
  rw [Bool.eq_false_iff]
  intro held
  have acting : s.roster.Acting agent :=
    .inr (ExitStage.acting_of_holds held)
  rcases home_of_holder kept named holds (kept.acting agent acting)
      (.inl acting) with ⟨_, current⟩
  have own : s.recAgent (s.home agent) = agent :=
    kept.holder agent (.inr held)
  exact apart (current.symm.trans own)

theorem untouched_resumeExit
    {cfg : Config} {s after : State} {agent holder now : Nat}
    {resumption : Resumption} {constructs : Bool}
    (kept : s.roster.Kept)
    (apart : holder ≠ agent)
    (named : s.agentName holder = s.agentName agent)
    (holds : s.Holds holder)
    (resumed :
      s.resumeExit cfg agent resumption now constructs = some after) :
    Untouched s after holder := by
  have rival := not_holds_of_holder kept apart named holds
  unfold State.resumeExit at resumed
  simp only at resumed
  cases stage : s.exit agent with
  | notifying spawner =>
      rw [stage] at resumed
      cases resumption with
      | returned =>
          cases resumed
          exact ⟨rfl, rfl, rfl, rfl, .inl rfl⟩
      | raised =>
          cases resumed
          exact ⟨rfl, rfl, rfl, rfl, .inl rfl⟩
      | timedOut => cases resumed
      | cancelled => cases resumed
  | starting record fresh =>
      have acting : s.roster.Acting agent := by
        right
        simp only [State.roster, stage]
        rfl
      have current :=
        (home_of_holder kept named holds (kept.acting agent acting)
          (.inl acting)).2
      rcases kept.staged.starting agent record fresh stage with
        ⟨home, installed, _⟩
      have same : fresh = holder := by
        rw [← installed, home]
        exact current
      have published :
          Untouched s (s.publishFresh agent record fresh) holder := by
        refine ⟨rfl, rfl, rfl, rfl, .inr ?_⟩
        rw [named, ← same]
        exact Function.update_self ..
      rw [stage] at resumed
      cases resumption with
      | returned =>
          simp only at resumed
          split at resumed
          · cases resumed
            exact published
          · split_ifs at resumed
            · cases resumed
              exact ⟨rfl, rfl, rfl, rfl, .inl rfl⟩
            · cases resumed
              exact published
          · cases resumed
      | raised => cases resumed
      | timedOut => cases resumed
      | cancelled => cases resumed
  | unwatched =>
      rw [stage] at resumed
      cases resumption <;> cases resumed
  | finished =>
      rw [stage] at resumed
      cases resumption <;> cases resumed
  | _ =>
      rw [stage] at rival
      cases rival

/-! ## Continuations -/

/-- A continuation that tears down has no rival under the name. -/
theorem not_tearing_of_holder
    {s : State} {record holder : Nat} (held : s.roster.Orderly)
    (apart : holder ≠ record)
    (named : s.agentName holder = s.agentName record)
    (holds : s.Holds holder)
    (acting : (s.continuation record).acting = true) :
    s.reachedLoop record = true := by
  rcases held.kept.continuing record acting with ⟨serves, root⟩
  rcases home_of_holder held.kept named holds serves (.inr acting) with
    ⟨_, current⟩
  have home : s.home record = record := root
  by_contra loop
  have unreached : s.reachedLoop record = false :=
    Bool.eq_false_iff.mpr loop
  have own := held.kept.numbered.unreached record root unreached
  rw [home] at current
  exact apart (current.symm.trans own)

theorem untouched_resumeContinuation
    {s after : State} {record holder : Nat} {resumption : Resumption}
    (held : s.roster.Orderly)
    (permitted :
      tearsUnreached s (.continuation record resumption) = true)
    (apart : holder ≠ record)
    (named : s.agentName holder = s.agentName record)
    (holds : s.Holds holder)
    (resumed : s.resumeContinuation record resumption = some after) :
    Untouched s after holder := by
  have rival := not_tearing_of_holder held apart named holds
  have torn := held.torn record
  have view : s.roster.continuation record = s.continuation record := rfl
  have loop : s.roster.reachedLoop record = s.reachedLoop record := rfl
  rw [view, loop] at torn
  unfold State.resumeContinuation at resumed
  simp only at resumed
  cases stage : s.continuation record with
  | unsubscribing =>
      rw [stage] at rival torn
      rw [(torn rfl).2] at rival
      cases rival rfl
  | draining =>
      rw [stage] at rival torn
      rw [(torn rfl).2] at rival
      cases rival rfl
  | waiting =>
      rw [stage] at resumed rival
      cases resumption with
      | returned =>
          simp only [tearsUnreached, stage, rival rfl, ne_eq,
            not_true_eq_false, decide_false, Bool.not_true, Bool.or_false,
            Bool.false_or] at permitted
          simp only [permitted, if_true] at resumed
          split_ifs at resumed
          cases resumed
          exact ⟨rfl, rfl, rfl, rfl, .inl rfl⟩
      | raised => cases resumed
      | timedOut => cases resumed
      | cancelled => cases resumed
  | _ =>
      rw [stage] at resumed
      cases resumption
      all_goals cases resumed
      all_goals exact ⟨rfl, rfl, rfl, rfl, .inl rfl⟩

/-! ## Every orderly run -/

/--
In every run that claims a name only when nothing works under it, and whose
continuations tear down only children that never reached their loops, the
handling of an exit leaves every other holder of the name alone.
-/
theorem exits_isolated_in_every_run
    (cfg : Config) {s : State}
    (reached : Reaches (step cfg) (orderly · ·) init s) :
    ExitsIsolated cfg (orderly · ·) s := by
  have held : s.roster.Orderly :=
    orderly_of_reaches (fun _ _ permitted => permitted) reached
  constructor
  · intro label after agent holder permitted stepped handles apart named
      holds
    cases label with
    | exit exited resumption now constructs =>
        cases handles
        exact untouched_resumeExit held.kept apart named holds stepped
    | continuation record resumption =>
        cases handles
        have unreached := (Bool.and_eq_true_iff.mp permitted).2
        exact untouched_resumeContinuation held unreached apart named holds
          stepped
    | _ => cases handles
  · intro label after agent about child spawner permitted stepped handles
      sent
    rcases notified_of_step stepped sent with
      old | ⟨now, constructs, rfl, rfl, stage⟩
    · exact .inl old
    · cases handles
      exact .inr ⟨rfl, held.kept.notifying _ spawner stage⟩

/-- A child runs, crashes, and is started again. -/
def restartOnce : List Label :=
  spawnQuickly (spawnInto "planner" "app.Worker" "w1" false "1") ++
    [Label.child 0 (.reach false), .child 0 (.finish .raised .crashed),
      .exit 0 .returned 0 true, .exit 0 .returned 0 true,
      .exit 0 .returned 0 true, .exit 0 .returned 0 true,
      .child 1 (.reach false)]

theorem exits_isolated_after_restart :
    ∃ s : State, s.exit 0 = .starting 0 1 ∧ s.recAgent 0 = 1 ∧
      ExitsIsolated openConfig (orderly · ·) s := by
  have ran :
      ((runWhere (step openConfig) (orderly · ·) init restartOnce).map
        fun s => (s.exit 0, s.recAgent 0)) =
          some (.starting 0 1, 1) := by
    decide +kernel
  rcases exists_reaches_of_run ran with ⟨s, run, found⟩
  rcases Prod.mk.inj found with ⟨stage, current⟩
  exact
    ⟨s, stage, current,
      exits_isolated_in_every_run openConfig
        run⟩

/--
A stop, and a spawn of the same name taken before the exit of the stopped
child is handled.
-/
def stopAndRespawn : List Label :=
  spawnQuickly (spawnInto "planner" "app.Worker" "w1" false "1") ++
    [Label.child 0 (.reach false), .take (stop "planner" "w1" "current" 30),
      .loop .returned, .child 0 (.finish .returned .stopped),
      .exit 0 .returned 0 true, .loop .returned, .loop .returned,
      .loop .returned] ++
    spawnQuickly (spawnInto "planner" "app.Worker" "w1" false "2") ++
    [Label.exit 0 .returned 0 true]

/-- The exit of the first child removes the second from the table. -/
theorem stale_exit_removes_respawned_child :
    ∃ s : State,
      Reaches (step openConfig) (fun _ _ => True) init s ∧
        ¬ ExitsIsolated openConfig (fun _ _ => True) s := by
  have ran :
      ((runWhere (step openConfig) (fun _ _ => True) init
          stopAndRespawn).bind fun s =>
        (step openConfig s (.exit 0 .returned 0 true)).map fun after =>
          (s.dynamicChildren.lookup (.str "w1"), s.home 1, s.recAgent 1,
            s.agentName 0, s.agentName 1,
            after.dynamicChildren.lookup (.str "w1"))) =
      some (some 1, 1, 1, .str "w1", .str "w1", none) := by
    decide +kernel
  rcases Option.bind_eq_some_iff.mp ran with ⟨s, run, stepped⟩
  rcases Option.map_eq_some_iff.mp stepped with ⟨after, next, found⟩
  simp only [Prod.mk.injEq] at found
  rcases found with ⟨entered, home, current, old, new, gone⟩
  refine ⟨s, reaches_of_runWhere .start run, ?_⟩
  intro isolated
  have holds : s.Holds 1 := by
    left
    constructor
    · rw [new, home]
      exact entered
    · rw [home]
      exact current
  have untouched :=
    isolated.holders (.exit 0 .returned 0 true) after 0 1 trivial next rfl
      (by decide) (by rw [old, new]) holds
  have same :
      after.dynamicChildren.lookup (s.agentName 1) =
        s.dynamicChildren.lookup (s.agentName 1) :=
    congrArg Hold.entry untouched.hold
  rw [new, gone, entered] at same
  cases same

end Civitas.Dynamic
