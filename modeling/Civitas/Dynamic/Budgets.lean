import Civitas.Dynamic.Changes
import Civitas.Supervision.RestartEngine

/-!
# The restart budget of a name

`_child_engines` and `_child_restart_counts` are kept under the name of a
child and outlive its record: `_remove_child` leaves both.  The budget is a
layer over the supervisor of `Step`, which has the windows of the engines; it
adds the counts and, as history, what was charged to the child of a record.

A child has a budget of its own in the runs in which a name is taken again
only if none of its earlier children has been ruled on, and only when nothing
works under it.
-/

namespace Civitas.Dynamic

open Civitas.PyValue
open Civitas.Transition
open Function (update)

/-! ## Charges -/

/-- The record that an exit is charged to, when the engine has to rule. -/
def State.charged
    (cfg : Config) (s : State) (agent : Nat) (crashed : Bool) :
    Option Nat :=
  match s.dynamicChildren.lookup (s.agentName agent) with
  | none => none
  | some record =>
      if crashed && !s.reachedLoop (s.recAgent record) then none
      else if cfg.restart = .never then none
      else if cfg.restart = .transient && !crashed then none
      else some record

/-- A supervisor with its restart counts. -/
structure Accounts where
  base : State := init
  /-- `_child_restart_counts`. -/
  restartCounts : Name → Nat := fun _ => 0
  /-- When incarnations of the record have crashed, exempt crashes apart. -/
  ownCrashes : Nat → List Nat := fun _ => []
  /-- How many exits of incarnations of the record were ruled on. -/
  ownRestarts : Nat → Nat := fun _ => 0

/-- A supervisor that has just started. -/
def accountsInit : Accounts := {}

namespace Accounts

/-- The engine rules on an exit. -/
def charge (a : Accounts) (agent record now : Nat) (after : State) :
    Accounts :=
  { base := after
    restartCounts :=
      update a.restartCounts (a.base.agentName agent)
        (a.restartCounts (a.base.agentName agent) + 1)
    ownCrashes :=
      if a.base.home agent = record ∧
          a.base.marker (a.base.recAgent record) = false
      then update a.ownCrashes record (a.ownCrashes record ++ [now])
      else a.ownCrashes
    ownRestarts :=
      if a.base.home agent = record
      then update a.ownRestarts record (a.ownRestarts record + 1)
      else a.ownRestarts }

/-- What a step of the supervisor does to the counts. -/
def follow
    (cfg : Config) (a : Accounts) (label : Label) (after : State) :
    Accounts :=
  match label with
  | .exit agent .returned now _ =>
      match a.base.exit agent with
      | .scheduled crashed =>
          match a.base.charged cfg agent crashed with
          | some record => a.charge agent record now after
          | none => { a with base := after }
      | _ => { a with base := after }
  | _ => { a with base := after }

end Accounts

/-- The successor of a state; `none` when the step is not enabled. -/
def accountsStep
    (cfg : Config) (a : Accounts) (label : Label) : Option Accounts :=
  (step cfg a.base label).map (a.follow cfg label)

/-! ## What is expected -/

/-- The window of an engine that has seen these crashes and no others. -/
def engineWindow (cfg : Config) (crashes : List Nat) : List Nat :=
  crashes.foldl (fun window now => recordCrash window cfg.restartWindow now)
    []

/-- The verdict of such an engine. -/
def engineVerdict
    (cfg : Config) (crashes : List Nat) (exempt : Bool) (now : Nat) :
    List Nat × Bool :=
  if exempt then (engineWindow cfg crashes, false)
  else
    (engineWindow cfg (crashes ++ [now]),
      cfg.maxRestarts < ((engineWindow cfg (crashes ++ [now])).length : Int))

/-- Verdicts and counts are those of an engine made for the spawn. -/
structure FreshBudget (cfg : Config) (a : Accounts) : Prop where
  verdict : ∀ name record now,
    a.base.dynamicChildren.lookup name = some record →
      a.base.verdict cfg name (a.base.recAgent record) now =
        engineVerdict cfg (a.ownCrashes record)
          (a.base.marker (a.base.recAgent record)) now
  count : ∀ name record,
    a.base.dynamicChildren.lookup name = some record →
      a.restartCounts name = a.ownRestarts record

/-- A child is admitted only under a name that was never ruled on. -/
def admitsUnused (a : Accounts) (label : Label) : Bool :=
  match label, a.base.loop with
  | .loop .returned, .auditing spawn _ => a.restartCounts spawn.name = 0
  | _, _ => true

/-- The steps of runs in which budgets are not inherited. -/
def budgeted (a : Accounts) (label : Label) : Bool :=
  claimsFreeName a.base label && admitsUnused a label

/-! ## The engine of a name -/

/-- The window of `Step` is that of a `RestartEngine`. -/
theorem recordCrash_eq_pruned
    (config : Supervision.RestartEngine.Config) (window : List Nat)
    {restartWindow : Nat} (now : Nat)
    (same : config.restartWindow = restartWindow) :
    (recordCrash window restartWindow now).map (Nat.cast : Nat → ℚ) =
      Supervision.RestartEngine.pruned config (window.map Nat.cast) now := by
  have drops (times : List Nat) :
      (times.dropWhile fun crash =>
          decide (crash + restartWindow ≤ now)).map (Nat.cast : Nat → ℚ) =
        (times.map (Nat.cast : Nat → ℚ)).dropWhile fun crash =>
          decide (crash ≤ (now : ℚ) - config.restartWindow) := by
    have old (crash : Nat) :
        crash + restartWindow ≤ now ↔
          (crash : ℚ) ≤ (now : ℚ) - config.restartWindow := by
      rw [same, le_sub_iff_add_le]
      exact_mod_cast Iff.rfl
    induction times with
    | nil => rfl
    | cons crash rest ih =>
        by_cases gone : crash + restartWindow ≤ now
        · rw [List.dropWhile_cons_of_pos (by simpa using gone), ih,
            List.map_cons, List.dropWhile_cons_of_pos
              (by simpa using (old crash).mp gone)]
        · rw [List.dropWhile_cons_of_neg (by simpa using gone),
            List.map_cons, List.dropWhile_cons_of_neg
              (by simpa using mt (old crash).mpr gone)]
  unfold recordCrash Supervision.RestartEngine.pruned
  rw [drops, List.map_append]
  rfl

section Windows

variable {cfg : Config} {s after : State}

/-- What the engine of the exiting child's name has seen after its exit. -/
theorem windows_beginExit
    (agent : Nat) (crashed : Bool) (now : Nat) (constructs : Bool) :
    (s.beginExit cfg agent crashed now constructs).windows =
      match s.charged cfg agent crashed with
      | some record =>
          update s.windows (s.agentName agent)
            (s.verdict cfg (s.agentName agent) (s.recAgent record) now).1
      | none => s.windows := by
  unfold State.beginExit State.charged
  cases found : s.dynamicChildren.lookup (s.agentName agent) with
  | none => rfl
  | some record =>
      simp only
      split_ifs <;> rfl

theorem windows_afterStop (s : State) (stop : StopRequest) :
    (s.afterStop stop).windows = s.windows := by
  rcases afterStop_cases s stop with finished | ⟨task, _, _, waiting⟩
  · rw [finished]
    rfl
  · rw [waiting]

theorem windows_takeMessage (message : Message) :
    (s.takeMessage cfg message).windows = s.windows := by
  unfold State.takeMessage
  simp only
  split
  · rfl
  · unfold State.takeSpawn
    split <;> rfl
  · unfold State.takeDespawn
    split
    · rfl
    · split
      · rfl
      · simp only
        split
        · split_ifs <;> rfl
        · rfl
  · unfold State.takeStop
    split_ifs
    · rfl
    · split
      · rfl
      · split
        · rfl
        · simp only
          split_ifs
          · rfl
          · exact windows_afterStop _ _
  · rfl

theorem windows_resumeLoop
    {resumption : Resumption}
    (resumed : s.resumeLoop resumption = some after) :
    after.windows = s.windows := by
  unfold State.resumeLoop at resumed
  repeat' split at resumed
  all_goals cases resumed
  all_goals first
    | rfl
    | exact windows_afterStop _ _
    | skip
  unfold State.enroll
  split <;> rfl

/-- Only the beginning of an exit's handling moves a window. -/
theorem windows_of_step
    {label : Label} (stepped : step cfg s label = some after)
    (other : ∀ agent now constructs crashed,
      label = .exit agent .returned now constructs →
        s.exit agent ≠ .scheduled crashed) :
    after.windows = s.windows := by
  cases label with
  | take message =>
      cases loop : s.loop with
      | idle =>
          simp only [step, loop, Option.some.injEq] at stepped
          subst stepped
          exact windows_takeMessage message
      | _ => simp [step, loop] at stepped
  | consulted approved constructs =>
      cases loop : s.loop with
      | consulting spawn =>
          simp only [step, loop, Option.some.injEq] at stepped
          subst stepped
          unfold State.resumeConsulting
          split_ifs <;> rfl
      | _ => simp [step, loop] at stepped
  | loop resumption => exact windows_resumeLoop stepped
  | exit agent resumption now constructs =>
      simp only [step, State.resumeExit] at stepped
      split at stepped
      case h_2 scheduled => exact absurd scheduled (other _ _ _ _ rfl)
      all_goals repeat' split at stepped
      all_goals cases stepped
      all_goals rfl
  | continuation record resumption =>
      simp only [step, State.resumeContinuation] at stepped
      repeat' split at stepped
      all_goals cases stepped
      all_goals rfl
  | child agent event =>
      simp only [step, State.childStep] at stepped
      repeat' split at stepped
      all_goals cases stepped
      all_goals rfl
  | foreign name joins =>
      simp only [step, State.foreignStep] at stepped
      split at stepped
      all_goals cases stepped
      all_goals rfl

/-- A task that has been started stays so. -/
theorem notStarted_of_step
    {label : Label} {agent : Nat} (stepped : step cfg s label = some after)
    (idle : after.task agent = .notStarted) :
    s.task agent = .notStarted := by
  have motion := step_motion stepped
  have idle' : after.roster.task agent = .notStarted := idle
  generalize after.roster = b at motion idle'
  cases motion with
  | quiet quiet => exact (quiet.task agent).notStarted_iff.mp idle'
  | claim name _ _ => exact idle'
  | enroll origin waits _ =>
      by_cases same : agent = origin.record
      · subst same
        simp [Roster.enroll] at idle'
      · simp only [Roster.enroll, Function.update_of_ne same] at idle'
        exact idle'
  | build handler record crashed _ _ _ => exact idle'
  | start handler record fresh _ =>
      by_cases same : agent = fresh
      · subst same
        simp [Roster.start] at idle'
      · simp only [Roster.start, Function.update_of_ne same] at idle'
        exact idle'
  | publish handler record fresh _ => exact idle'

end Windows

/-! ## The invariant -/

/-- The engine of a name has seen the crashes of its child. -/
structure Accounts.Paired (cfg : Config) (a : Accounts) : Prop where
  kept : a.base.roster.Kept
  started : ∀ name record,
    a.base.dynamicChildren.lookup name = some record →
      a.base.task record ≠ .notStarted
  unborn : ∀ record, a.base.task record = .notStarted →
    a.ownCrashes record = [] ∧ a.ownRestarts record = 0
  unused : ∀ name, a.restartCounts name = 0 → a.base.windows name = []
  window : ∀ name record,
    a.base.dynamicChildren.lookup name = some record →
      a.base.windows name = engineWindow cfg (a.ownCrashes record)
  count : ∀ name record,
    a.base.dynamicChildren.lookup name = some record →
      a.restartCounts name = a.ownRestarts record

theorem paired_init (cfg : Config) : accountsInit.Paired cfg where
  kept := kept_init
  started := by rintro _ _ ⟨⟩
  unborn := fun _ _ => ⟨rfl, rfl⟩
  unused := fun _ _ => rfl
  window := by rintro _ _ ⟨⟩
  count := by rintro _ _ ⟨⟩

theorem engineWindow_append (cfg : Config) (crashes : List Nat) (now : Nat) :
    engineWindow cfg (crashes ++ [now]) =
      recordCrash (engineWindow cfg crashes) cfg.restartWindow now := by
  simp [engineWindow]

section Paired

variable {cfg : Config} {a : Accounts} {after : State} {label : Label}

/-- The table entries after a step are old, or the child just admitted. -/
theorem entry_of_step
    {name : Name} {record : Nat} {s : State}
    (stepped : step cfg s label = some after)
    (entered : after.dynamicChildren.lookup name = some record) :
    s.dynamicChildren.lookup name = some record ∨
      ∃ spawn, s.loop = .auditing spawn record ∧
        label = .loop .returned ∧ spawn.name = name := by
  rcases (step_tableMoves stepped).entry name with
    same | ⟨gone, _⟩ | ⟨spawn, agent, loop, taken, named, admitted⟩
  · exact .inl (same ▸ entered)
  · rw [gone] at entered
    cases entered
  · rw [admitted] at entered
    cases entered
    exact .inr ⟨spawn, loop, taken, named⟩

/-- An admitted child has not run before. -/
theorem notStarted_of_auditing
    {s : State} {spawn : SpawnRequest} {agent : Nat} (kept : s.roster.Kept)
    (loop : s.loop = .auditing spawn agent) :
    s.task agent = .notStarted := by
  have claimed : s.roster.errand = .claimed spawn.name agent := by
    simp only [State.roster, loop, LoopStage.errand]
  exact (kept.claimed _ _ claimed).2.2.2.2.1

/-- Every child on record has been started. -/
theorem Accounts.Paired.started_of_step
    (paired : a.Paired cfg) (stepped : step cfg a.base label = some after)
    (name : Name) (record : Nat)
    (entered : after.dynamicChildren.lookup name = some record) :
    after.task record ≠ .notStarted := by
  intro idle
  have before := notStarted_of_step stepped idle
  rcases entry_of_step stepped entered with
    old | ⟨spawn, loop, rfl, rfl⟩
  · exact paired.started name record old before
  · cases key : spawn.spawner.key? with
    | some spawner =>
        simp only [step, State.resumeLoop, loop, Option.some.injEq] at stepped
        subst stepped
        simp [State.enroll, key] at idle
    | none =>
        simp only [step, State.resumeLoop, loop, Option.some.injEq] at stepped
        subst stepped
        have absent : a.base.dynamicChildren.lookup spawn.name = none := by
          have claimed : a.base.roster.errand =
              .claimed spawn.name record := by
            simp only [State.roster, loop, LoopStage.errand]
          exact (paired.kept.claimed _ _ claimed).2.2.2.1
        have same :
            (a.base.enroll spawn record).dynamicChildren =
              a.base.dynamicChildren := by
          simp only [State.enroll, key]
          rfl
        rw [same, absent] at entered
        cases entered

/-- A step on which no engine rules. -/
theorem Accounts.Paired.rest
    (paired : a.Paired cfg) (permitted : budgeted a label = true)
    (stepped : step cfg a.base label = some after)
    (windows : after.windows = a.base.windows) :
    Accounts.Paired cfg { a with base := after } := by
  rcases Bool.and_eq_true_iff.mp permitted with ⟨free, unused⟩
  have fresh {spawn : SpawnRequest} {record : Nat}
      (loop : a.base.loop = .auditing spawn record)
      (taken : label = .loop .returned) :
      a.restartCounts spawn.name = 0 := by
    subst taken
    simpa [admitsUnused, loop] using unused
  constructor
  · exact step_kept paired.kept free stepped
  · exact paired.started_of_step stepped
  · intro record idle
    exact paired.unborn record (notStarted_of_step stepped idle)
  · intro name zero
    show after.windows name = []
    rw [windows]
    exact paired.unused name zero
  · intro name record entered
    show after.windows name = _
    rw [windows]
    rcases entry_of_step stepped entered with
      old | ⟨spawn, loop, taken, rfl⟩
    · exact paired.window name record old
    · have idle := notStarted_of_auditing paired.kept loop
      rw [(paired.unborn record idle).1]
      exact paired.unused spawn.name (fresh loop taken)
  · intro name record entered
    rcases entry_of_step stepped entered with
      old | ⟨spawn, loop, taken, rfl⟩
    · exact paired.count name record old
    · have idle := notStarted_of_auditing paired.kept loop
      exact (fresh loop taken).trans (paired.unborn record idle).2.symm

theorem lookup_of_charged
    {s : State} {agent record : Nat} {crashed : Bool}
    (charged : s.charged cfg agent crashed = some record) :
    s.dynamicChildren.lookup (s.agentName agent) = some record := by
  unfold State.charged at charged
  split at charged
  · cases charged
  · rename_i found entered
    split_ifs at charged
    cases charged
    exact entered

theorem table_beginExit
    (s : State) (agent : Nat) (crashed : Bool) (now : Nat)
    (constructs : Bool) :
    (s.beginExit cfg agent crashed now constructs).dynamicChildren =
      s.dynamicChildren := by
  unfold State.beginExit
  split
  · rfl
  · simp only
    split_ifs <;> rfl

/-- The engine rules on an exit of the child that has the name. -/
theorem Accounts.Paired.charge
    {agent record now : Nat} {crashed constructs : Bool}
    (paired : a.Paired cfg)
    (free : claimsFreeName a.base (.exit agent .returned now constructs) =
      true)
    (stepped :
      step cfg a.base (.exit agent .returned now constructs) = some after)
    (scheduled : a.base.exit agent = .scheduled crashed)
    (charged : a.base.charged cfg agent crashed = some record) :
    (a.charge agent record now after).Paired cfg := by
  have begun :
      after = a.base.beginExit cfg agent crashed now constructs := by
    simp only [step, State.resumeExit, scheduled, Option.some.injEq]
      at stepped
    exact stepped.symm
  have entered := lookup_of_charged charged
  have acting : a.base.roster.Acting agent := by
    right
    rw [show a.base.roster.exit agent = a.base.exit agent from rfl,
      scheduled]
    rfl
  have home : a.base.home agent = record :=
    (paired.kept.entry_home acting entered).symm
  have table : after.dynamicChildren = a.base.dynamicChildren := by
    rw [begun]
    exact table_beginExit _ _ _ _ _
  have windows :
      after.windows =
        update a.base.windows (a.base.agentName agent)
          (a.base.verdict cfg (a.base.agentName agent)
            (a.base.recAgent record) now).1 := by
    rw [begun, windows_beginExit, charged]
  have apart {name : Name} {other : Nat}
      (found : a.base.dynamicChildren.lookup name = some other)
      (distinct : name ≠ a.base.agentName agent) : other ≠ record := by
    rintro rfl
    have named (name : Name)
        (found : a.base.dynamicChildren.lookup name = some other) :
        a.base.agentName other = name := by
      rcases paired.kept.entry name other found with ⟨origin, taken, rfl⟩
      exact (paired.kept.incumbent name origin taken).2.1
    exact distinct ((named name found).symm.trans (named _ entered))
  constructor
  · exact step_kept paired.kept free stepped
  · exact paired.started_of_step stepped
  · intro other idle
    have before := notStarted_of_step stepped idle
    have distinct : other ≠ record := by
      rintro rfl
      exact paired.started _ _ entered before
    rcases paired.unborn other before with ⟨crashes, restarts⟩
    constructor
    · simp only [Accounts.charge]
      split_ifs
      · rw [Function.update_of_ne distinct]
        exact crashes
      · exact crashes
    · simp only [Accounts.charge, home, if_true,
        Function.update_of_ne distinct]
      exact restarts
  · intro name zero
    have distinct : name ≠ a.base.agentName agent := by
      rintro rfl
      simp [Accounts.charge] at zero
    show after.windows name = []
    rw [windows, Function.update_of_ne distinct]
    simp only [Accounts.charge, Function.update_of_ne distinct] at zero
    exact paired.unused name zero
  · intro name other found
    have before : a.base.dynamicChildren.lookup name = some other := by
      rw [← table]
      exact found
    show after.windows name = _
    rw [windows]
    by_cases same : name = a.base.agentName agent
    · subst same
      rw [entered] at before
      cases before
      have own := paired.window _ _ entered
      simp only [Function.update_self, Accounts.charge, home, true_and,
        State.verdict]
      cases exempt : a.base.marker (a.base.recAgent record) with
      | true => simpa using own
      | false => simp [engineWindow_append, own]
    · have distinct := apart before same
      rw [Function.update_of_ne same]
      simp only [Accounts.charge, home, true_and]
      split_ifs
      · rw [Function.update_of_ne distinct]
        exact paired.window name other before
      · exact paired.window name other before
  · intro name other found
    have before : a.base.dynamicChildren.lookup name = some other := by
      rw [← table]
      exact found
    by_cases same : name = a.base.agentName agent
    · subst same
      rw [entered] at before
      cases before
      simp only [Accounts.charge, home, if_true, Function.update_self]
      rw [paired.count _ _ entered]
    · have distinct := apart before same
      simp only [Accounts.charge, home, if_true, Function.update_of_ne same,
        Function.update_of_ne distinct]
      exact paired.count name other before

theorem step_paired
    {next : Accounts} (paired : a.Paired cfg)
    (permitted : budgeted a label = true)
    (stepped : accountsStep cfg a label = some next) : next.Paired cfg := by
  rcases Option.map_eq_some_iff.mp stepped with ⟨after, moved, rfl⟩
  rcases Bool.and_eq_true_iff.mp permitted with ⟨free, _⟩
  unfold Accounts.follow
  split
  · rename_i agent now constructs
    split
    · rename_i crashed scheduled
      split
      · rename_i record charged
        exact paired.charge free moved scheduled charged
      · rename_i uncharged
        refine paired.rest permitted moved ?_
        simp only [step, State.resumeExit, scheduled, Option.some.injEq]
          at moved
        rw [← moved, windows_beginExit, uncharged]
    · rename_i unscheduled
      refine paired.rest permitted moved ?_
      apply windows_of_step moved
      rintro other now' constructs' crashed ⟨⟩ scheduled
      exact unscheduled crashed scheduled
  · rename_i other
    refine paired.rest permitted moved ?_
    apply windows_of_step moved
    rintro agent now constructs crashed rfl
    exact absurd rfl (other agent now constructs)

end Paired

/-! ## Budgets in every run -/

theorem Accounts.Paired.fresh
    {cfg : Config} {a : Accounts} (paired : a.Paired cfg) :
    FreshBudget cfg a where
  verdict := by
    intro name record now entered
    have own := paired.window name record entered
    unfold State.verdict engineVerdict
    cases a.base.marker (a.base.recAgent record) with
    | true => simp [own]
    | false => simp [own, engineWindow_append]
  count := paired.count

theorem fresh_budgets_in_every_run
    (cfg : Config) {a : Accounts}
    (reached :
      Reaches (accountsStep cfg) (budgeted · ·) accountsInit a) :
    FreshBudget cfg a := by
  apply Accounts.Paired.fresh
  apply reached.invariant (paired_init cfg)
  intro before label after paired permitted stepped
  exact step_paired paired permitted stepped

/-- One restart within the window. -/
def onceConfig : Config :=
  { openConfig with maxRestarts := 1 }

/-- A child crashes, is restarted and despawned. -/
def restartAndDespawn : List Label :=
  spawnQuickly (spawnInto "planner" "app.Worker" "w1" false "1") ++
    [Label.child 0 (.reach false), .child 0 (.finish .raised .crashed),
      .exit 0 .returned 1 true, .exit 0 .returned 1 true,
      .exit 0 .returned 1 true, .exit 0 .returned 1 true,
      .child 1 (.reach false), .exit 0 .returned 1 true,
      .take (despawn "planner" "w1"), .child 1 (.finish .cancelled .stopped),
      .loop .returned, .loop .returned, .loop .returned, .loop .returned,
      .exit 1 .returned 1 true]

/-- A restarted child has been charged for one crash, its own. -/
theorem restarted_child_has_fresh_budget :
    ∃ a : Accounts,
      a.base.dynamicChildren.lookup (.str "w1") = some 0 ∧
        a.restartCounts (.str "w1") = 1 ∧ FreshBudget onceConfig a := by
  have run :
      ((runWhere (accountsStep onceConfig) (budgeted · ·) accountsInit
        (restartAndDespawn.take 13)).map fun a =>
          decide (a.base.dynamicChildren.lookup (.str "w1") = some 0 ∧
            a.restartCounts (.str "w1") = 1)) = some true := by
    decide +kernel
  rcases Option.map_eq_some_iff.mp run with ⟨a, ran, found⟩
  rcases of_decide_eq_true found with ⟨entered, counted⟩
  exact
    ⟨a, entered, counted,
      fresh_budgets_in_every_run onceConfig (reaches_of_runWhere .start ran)⟩

/--
The name is spawned again: the new child's first crash is the second one of
the name within the window.
-/
theorem respawned_child_inherits_budget :
    ∃ a : Accounts,
      Reaches (accountsStep onceConfig) (fun _ _ => True) accountsInit a ∧
        ¬FreshBudget onceConfig a := by
  have run :
      ((runWhere (accountsStep onceConfig) (fun _ _ => True) accountsInit
        (restartAndDespawn ++
          spawnQuickly (spawnInto "planner" "app.Worker" "w1" false "2"))).map
        fun a =>
          decide (a.base.dynamicChildren.lookup (.str "w1") = some 2 ∧
            (a.base.verdict onceConfig (.str "w1") (a.base.recAgent 2) 2).2 =
              true ∧
            (engineVerdict onceConfig (a.ownCrashes 2)
              (a.base.marker (a.base.recAgent 2)) 2).2 = false)) =
        some true := by
    decide +kernel
  rcases Option.map_eq_some_iff.mp run with ⟨a, ran, found⟩
  rcases of_decide_eq_true found with ⟨entered, spent, left⟩
  refine ⟨a, reaches_of_runWhere .start ran, ?_⟩
  intro fresh
  rw [fresh.verdict _ _ 2 entered, left] at spent
  cases spent

end Civitas.Dynamic
