import Civitas.Dynamic.Observations
import Civitas.Dynamic.Removal
import Civitas.Dynamic.Routes

/-!
# What becomes of an exit

The exit of a child that its supervisor has acknowledged, and that was not
asked to end, is to be resolved: by a new incarnation that runs, or by the
removal of the child and one message to its spawner.

The handler of an exit has ways out that do neither.  A task that ended
cancelled is ignored; a new incarnation whose start fails is left in the
table; an await that raises ends the handler; a removal or the end of the
supervisor can overtake it.  In the runs that avoid these, every exit is
resolved.
-/

namespace Civitas.Dynamic

open Civitas.PyValue
open Civitas.Transition
open Function (update)

/-! ## What is expected -/

/-- The child was acknowledged and nobody asked this incarnation to end. -/
def State.answerable (s : State) (agent : Nat) : Bool :=
  s.acknowledged (s.home agent) && !s.requested agent

/-- A new incarnation of the child runs and is in the table. -/
structure Renewed (s : State) (agent : Nat) : Prop where
  entered :
    s.dynamicChildren.lookup (s.agentName agent) = some (s.home agent)
  fresh : s.recAgent (s.home agent) ≠ agent
  runs : s.task (s.recAgent (s.home agent)) = .live
  recorded :
    s.childTasks (s.agentName agent) = some (s.recAgent (s.home agent))

/-- The incarnation that an event notifies of. -/
def Event.about? : Event → Option Nat
  | .notified about _ _ => some about
  | _ => none

/-- The child has left the table and its spawner was told once. -/
structure Told (s : State) (agent : Nat) : Prop where
  removed :
    s.dynamicChildren.lookup (s.agentName agent) ≠ some (s.home agent)
  notice : ∃ origin ∈ s.roster.origins, origin.record = s.home agent ∧
    (s.log.filter fun event => event.about? = some agent) =
      [.notified agent (s.agentName agent) origin.spawner]

/-! ## Runs that resolve exits -/

/-- The incarnation has ended and its exit is not handled yet. -/
def State.exiting (s : State) (agent : Nat) : Bool :=
  match s.exit agent with
  | .unwatched | .finished => false
  | .watched => s.task agent ≠ .live
  | _ => true

/-- An exit that is to be resolved is under way. -/
def State.unresolved (s : State) (agent : Nat) : Bool :=
  s.answerable agent && s.exiting agent

/-- An incarnation of the name is going and has not been settled. -/
def State.unresolvedName (s : State) (name : Name) : Bool :=
  (List.range s.next).any fun agent =>
    s.agentName agent = name && s.unresolved agent &&
      (s.exit agent).acting

/-- `_notify_spawner` has somebody to tell. -/
def State.routable (s : State) (name : Name) : Bool :=
  match s.spawnerNames name with
  | some spawner => spawnerTruthy spawner
  | none => false

/-- The handler goes on in a way that resolves the exit. -/
def State.resolves
    (s : State) (agent : Nat) (resumption : Resumption) : Bool :=
  match s.exit agent, resumption with
  | .starting _ fresh, .returned => s.task fresh = .live
  | .announcing _, .returned | .leaving _, .returned =>
      s.routable (s.agentName agent)
  | .announcing _, .raised | .notifying _, .raised
  | .unsubscribing _, .raised | .draining _, .raised
  | .leaving _, .raised => false
  | _, _ => true

/-- Neither a removal nor the end of the loop overtakes an exit. -/
def overtakesNone (cfg : Config) (s : State) (label : Label) : Bool :=
  (match label with
    | .take message =>
        match s.removalOf message with
        | some name => !s.unresolvedName name
        | none => true
    | _ => true) &&
    (!s.ends cfg label || (List.range s.next).all fun agent =>
      !s.unresolved agent)

/-- An exit that is to be resolved is reported and handled to its end. -/
def handlesInFull (s : State) (label : Label) : Bool :=
  match label with
  | .child agent (.finish .cancelled _) => !s.answerable agent
  | .exit agent resumption _ _ =>
      !s.answerable agent || s.resolves agent resumption
  | _ => true

/-- Steps under which each exit comes to its resolution. -/
def resolving (cfg : Config) (s : State) (label : Label) : Bool :=
  steady cfg s label && overtakesNone cfg s label && handlesInFull s label

/-! ## Acknowledgements and ends -/

section Attested

variable {cfg : Config} {s after : State} {label : Label}

/-- A child is acknowledged while it runs, or when it is admitted. -/
theorem acknowledged_of_step
    (stepped : step cfg s label = some after) (record : Nat) :
    after.acknowledged record = s.acknowledged record ∧
        ((after.continuation record).acting = true →
          (s.continuation record).acting = true) ∨
      ((s.status record).ready = true ∧
        (after.continuation record).acting = false) ∨
      ∃ name, s.loop.errand = .claimed name record ∧
        ((after.continuation record).acting = true →
          s.continuation record = .absent →
            after.acknowledged record = false) := by
  have framed (own : label.ofLoop = true) :
      after.acknowledged record = s.acknowledged record ∧
          ((after.continuation record).acting = true →
            (s.continuation record).acting = true) ∨
        ∃ name, s.loop.errand = .claimed name record ∧
          ((after.continuation record).acting = true →
            s.continuation record = .absent →
              after.acknowledged record = false) := by
    rcases frame_of_step stepped own with
      frame | ⟨spawn, agent, spawner, loop, _, keyed, rfl⟩
    · left
      exact ⟨congrFun frame.acknowledged record, frame.continuation record⟩
    · simp only [State.enroll, keyed]
      by_cases same : record = agent
      · right
        rw [same, loop]
        refine ⟨spawn.name, rfl, ?_⟩
        intro acting absent
        cases waits : spawn.wait with
        | true => simp only [Function.update_self, Bool.not_true]
        | false =>
            simp only [waits, Bool.false_eq_true, if_false, absent] at acting
            cases acting
      · left
        refine ⟨Function.update_of_ne same .., ?_⟩
        cases waits : spawn.wait with
        | true =>
            simp only [if_true, Function.update_of_ne same]
            exact fun acts => acts
        | false =>
            simp only [Bool.false_eq_true, if_false]
            exact fun acts => acts
  have waits {after : State} {other : Nat} {stage : SpawnStage}
      (moved : after.continuation = update s.continuation other stage)
      (acts : stage.acting = false ∨ (s.continuation other).acting = true)
      (acting : (after.continuation record).acting = true) :
      (s.continuation record).acting = true := by
    rw [moved] at acting
    by_cases same : record = other
    · rw [same, Function.update_self] at acting
      rw [same]
      rcases acts with quiet | acts
      · rw [quiet] at acting
        cases acting
      · exact acts
    · rw [Function.update_of_ne same] at acting
      exact acting
  cases label with
  | take message => exact (framed rfl).imp_right .inr
  | consulted approved constructs => exact (framed rfl).imp_right .inr
  | loop resumption => exact (framed rfl).imp_right .inr
  | exit agent resumption now constructs =>
      left
      simp only [step, State.resumeExit] at stepped
      repeat' split at stepped
      all_goals cases stepped
      all_goals first
        | exact ⟨rfl, fun acts => acts⟩
        | skip
      unfold State.beginExit
      simp only
      repeat' split
      all_goals exact ⟨rfl, fun acts => acts⟩
  | continuation other resumption =>
      simp only [step, State.resumeContinuation] at stepped
      split at stepped
      · rename_i waiting
        split_ifs at stepped with settled ready
        · cases stepped
          by_cases same : record = other
          · rw [same]
            refine .inr (.inl ⟨ready, ?_⟩)
            simp only [State.setContinuation, Function.update_self]
            rfl
          · left
            exact ⟨Function.update_of_ne same .., waits rfl (.inl rfl)⟩
        · have acts : (s.continuation other).acting = true := by
            rw [waiting]
            rfl
          split at stepped
          · cases stepped
            exact .inl ⟨rfl, waits rfl (.inr acts)⟩
          · cases stepped
            exact .inl ⟨rfl, waits rfl (.inl rfl)⟩
      all_goals cases stepped
      all_goals rename_i stage
      all_goals first
        | exact .inl ⟨rfl, waits rfl (.inl rfl)⟩
        | exact .inl ⟨rfl, waits rfl (.inr (stage ▸ rfl))⟩
  | child agent event =>
      left
      simp only [step, State.childStep] at stepped
      repeat' split at stepped
      all_goals cases stepped
      all_goals exact ⟨rfl, fun acts => acts⟩
  | foreign name joins =>
      left
      simp only [step, State.foreignStep] at stepped
      split at stepped
      all_goals cases stepped
      all_goals exact ⟨rfl, fun acts => acts⟩

/-- A task that has ended leaves a status of an ended child. -/
def Unready (s : State) : Prop :=
  ∀ agent outcome, s.task agent = .done outcome →
    (s.status agent).ready = false

theorem unready_childStep
    {agent : Nat} {event : ChildEvent} (unready : Unready s)
    (acted : s.childStep agent event = some after) :
    Unready after := by
  have live : s.task agent = .live := by
    by_contra idle
    rw [State.childStep.eq_def, if_pos idle] at acted
    cases acted
  have elsewhere {other : Nat} {outcome : TaskOutcome}
      (done : s.task other = .done outcome) : other ≠ agent := by
    rintro rfl
    rw [live] at done
    cases done
  rw [State.childStep.eq_def, if_neg (not_not_intro live)] at acted
  intro other outcome done
  cases event with
  | reach suspended =>
      simp only at acted
      split at acted
      · cases acted
      · cases acted
        simp only [Function.update_of_ne (elsewhere done)]
        exact unready other outcome done
  | change status marker =>
      simp only at acted
      split at acted
      · cases acted
        simp only [Function.update_of_ne (elsewhere done)]
        exact unready other outcome done
      · cases acted
  | finish ending status =>
      simp only at acted
      split_ifs at acted with refused
      cases acted
      by_cases same : other = agent
      · simp only [Bool.or_eq_true, not_or, Bool.not_eq_true] at refused
        simp only [same, Function.update_self]
        exact refused.1
      · simp only [Function.update_of_ne same] at done ⊢
        exact unready other outcome done

theorem step_unready
    (unready : Unready s) (stepped : step cfg s label = some after) :
    Unready after := by
  have started {agent : Nat} {stage : TaskState}
      (task : after.task = update s.task agent stage)
      (live : stage = .live) (status : after.status = s.status) :
      Unready after := by
    intro other outcome done
    rw [status]
    rw [task, live] at done
    by_cases same : other = agent
    · rw [same, Function.update_self] at done
      cases done
    · rw [Function.update_of_ne same] at done
      exact unready other outcome done
  have unmoved
      (task : after.task = s.task) (status : after.status = s.status) :
      Unready after := by
    intro other outcome done
    rw [status]
    rw [task] at done
    exact unready other outcome done
  have framed (own : label.ofLoop = true) : Unready after := by
    rcases frame_of_step stepped own with
      frame | ⟨spawn, agent, spawner, loop, _, keyed, rfl⟩
    · exact unmoved frame.task frame.status
    · have task : (s.enroll spawn agent).task = update s.task agent .live := by
        simp only [State.enroll, keyed]
      apply started task rfl
      simp only [State.enroll, keyed]
  cases label with
  | take message => exact framed rfl
  | consulted approved constructs => exact framed rfl
  | loop resumption => exact framed rfl
  | exit agent resumption now constructs =>
      simp only [step, State.resumeExit] at stepped
      repeat' split at stepped
      all_goals cases stepped
      all_goals first
        | exact unmoved rfl rfl
        | exact started rfl rfl rfl
        | skip
      unfold State.beginExit at unmoved ⊢
      simp only at unmoved ⊢
      repeat' split
      all_goals exact unready
  | continuation record resumption =>
      simp only [step, State.resumeContinuation] at stepped
      repeat' split at stepped
      all_goals cases stepped
      all_goals exact unready
  | child agent event => exact unready_childStep unready stepped
  | foreign name joins =>
      simp only [step, State.foreignStep] at stepped
      split at stepped
      all_goals cases stepped
      all_goals exact unready

theorem halted_afterStop {s : State} (stop : StopRequest) :
    (s.afterStop stop).loop.halted = false := by
  rcases afterStop_cases s stop with finished | ⟨task, _, _, waiting⟩
  · rw [finished]
    rfl
  · rw [waiting]
    rfl

/-- Once the loop has ended, everything has been asked to end. -/
def Halted (s : State) : Prop :=
  s.loop.halted = true → ∀ agent, s.requested agent = true

theorem halted_takeMessage
    (cfg : Config) (message : Message) (idle : s.loop = .idle) :
    Halted (s.takeMessage cfg message) := by
  have goesOn {other : State} (running : other.loop.halted = false) :
      Halted other := by
    intro halted
    rw [running] at halted
    cases halted
  unfold State.takeMessage
  simp only
  split
  · exact fun _ _ => rfl
  · unfold State.takeSpawn
    split
    · exact goesOn rfl
    · exact fun _ _ => rfl
    · exact goesOn rfl
  · unfold State.takeDespawn
    split
    · exact fun _ _ => rfl
    · split
      · exact goesOn rfl
      · simp only
        split
        · split_ifs
          · exact goesOn rfl
          · exact goesOn rfl
        · exact goesOn rfl
  · unfold State.takeStop
    split_ifs
    · exact fun _ _ => rfl
    · split
      · exact fun _ _ => rfl
      · split
        · exact goesOn rfl
        · simp only
          split_ifs
          · exact goesOn rfl
          · exact goesOn (halted_afterStop _)
  · apply goesOn
    change s.loop.halted = false
    rw [idle]
    rfl

theorem halted_resumeLoop
    {resumption : Resumption} (halted : Halted s)
    (resumed : s.resumeLoop resumption = some after) :
    Halted after := by
  have goesOn {other : State} (running : other.loop.halted = false) :
      Halted other := by
    intro halted
    rw [running] at halted
    cases halted
  have stays {other : State} {stage : LoopStage}
      (loop : s.loop = stage) (stopped : stage.halted = true)
      (requested : other.requested = s.requested) : Halted other := by
    intro _ agent
    rw [requested]
    apply halted
    rw [loop]
    exact stopped
  unfold State.resumeLoop at resumed
  split at resumed
  all_goals rename_i loop
  all_goals repeat' split at resumed
  all_goals cases resumed
  all_goals first
    | exact goesOn rfl
    | exact goesOn (halted_afterStop _)
    | exact stays loop rfl rfl
    | exact fun _ _ => rfl
    | skip
  unfold State.enroll
  split
  · exact fun _ _ => rfl
  · apply goesOn
    simp only
    split_ifs
    · rfl
    · rfl

theorem step_halted
    (halted : Halted s) (stepped : step cfg s label = some after) :
    Halted after := by
  have rests (other : label.ofLoop = false) : Halted after := by
    have same := loopRests_of_step stepped other
    intro stopped
    rw [same.loop] at stopped
    rw [same.requested]
    exact halted stopped
  cases label with
  | take message =>
      cases loop : s.loop with
      | idle =>
          simp only [step, loop, Option.some.injEq] at stepped
          subst stepped
          exact halted_takeMessage cfg message loop
      | _ => simp [step, loop] at stepped
  | consulted approved constructs =>
      cases loop : s.loop with
      | consulting spawn =>
          simp only [step, loop, Option.some.injEq] at stepped
          subst stepped
          unfold State.resumeConsulting
          split_ifs
          · intro stopped
            cases stopped
          · exact fun _ _ => rfl
          · intro stopped
            cases stopped
          · intro stopped
            cases stopped
      | _ => simp [step, loop] at stepped
  | loop resumption => exact halted_resumeLoop halted stepped
  | exit agent resumption now constructs => exact rests rfl
  | continuation record resumption => exact rests rfl
  | child agent event => exact rests rfl
  | foreign name joins => exact rests rfl

/-! ## Stages of a handler -/

/-- The child is still in the table while the handler is at this stage. -/
def ExitStage.placed : ExitStage → Bool
  | .announcing _ | .leaving _ => false
  | stage => stage.acting

/-- The handler has removed the child and not finished. -/
def ExitStage.gone : ExitStage → Bool
  | .announcing _ | .leaving _ | .notifying _ => true
  | _ => false

/-- Why an exit is in its cleanup. -/
def ExitStage.cause? : ExitStage → Option CleanupCause
  | .unsubscribing cause | .draining cause | .leaving cause => some cause
  | _ => none

theorem placed_of_resumeExit
    {agent now : Nat} {resumption : Resumption} {constructs : Bool}
    (resumed :
      s.resumeExit cfg agent resumption now constructs = some after)
    (placed : (after.exit agent).placed = true) :
    (s.exit agent).placed = true := by
  have left {other : State} {stage : ExitStage}
      (quiet : stage.placed = false)
      (moved : ((other.setExit agent stage).exit agent).placed = true) :
      False := by
    simp only [State.setExit, Function.update_self, quiet] at moved
    cases moved
  have passed {stage : ExitStage}
      (quiet : stage = .finished ∨ ∃ spawner, stage = .notifying spawner) :
      stage.placed = false := by
    rcases quiet with rfl | ⟨spawner, rfl⟩
    · rfl
    · rfl
  unfold State.resumeExit at resumed
  simp only at resumed
  split at resumed
  all_goals rename_i stage
  all_goals try rw [stage]
  all_goals repeat' split at resumed
  all_goals cases resumed
  all_goals first
    | rfl
    | exact (left rfl placed).elim
    | exact (left (passed (noticeStage_cases s agent)) placed).elim
    | exact (left (passed (afterCleanup_cases s agent _)) placed).elim

/-- A handler that is past the removal of its child finds it removed. -/
theorem gone_of_resumeExit
    {agent now : Nat} {resumption : Resumption} {constructs : Bool}
    (resumed :
      s.resumeExit cfg agent resumption now constructs = some after)
    (gone : (after.exit agent).gone = true) :
    (s.exit agent).gone = true ∨
      after.dynamicChildren.lookup (s.agentName agent) = none := by
  have stays {other : State} {stage : ExitStage}
      (quiet : stage.gone = false)
      (moved : ((other.setExit agent stage).exit agent).gone = true) :
      False := by
    simp only [State.setExit, Function.update_self, quiet] at moved
    cases moved
  unfold State.resumeExit at resumed
  simp only at resumed
  split at resumed
  all_goals rename_i stage
  all_goals try rw [stage]
  all_goals repeat' split at resumed
  all_goals cases resumed
  all_goals first
    | exact .inl rfl
    | exact .inr (AList.lookup_erase _ _)
    | exact (stays rfl gone).elim
    | skip
  · rename_i crashed
    have begins := begins_beginExit cfg s agent crashed now constructs
    generalize (s.beginExit cfg agent crashed now constructs).exit agent =
      stage at begins gone
    cases begins <;> cases gone
  all_goals
    simp only [State.publishFresh, Function.update_apply] at gone
    split_ifs at gone
  · cases gone
  · cases gone
  · cases gone
  · cases gone

theorem cause_of_resumeExit
    {agent now record : Nat} {resumption : Resumption} {constructs : Bool}
    (resumed :
      s.resumeExit cfg agent resumption now constructs = some after)
    (failed : (after.exit agent).cause? = some (.startFailed record)) :
    (s.exit agent).cause? = some (.startFailed record) ∨
      (∃ crashed, s.exit agent = .scheduled crashed) ∧
        s.dynamicChildren.lookup (s.agentName agent) = some record := by
  have other {next : State} {stage : ExitStage}
      (moved : ((next.setExit agent stage).exit agent).cause? =
        some (.startFailed record))
      (quiet : stage.cause? = none ∨ stage.cause? = some .rewireFailed) :
      False := by
    simp only [State.setExit, Function.update_self] at moved
    rcases quiet with quiet | quiet
    · rw [quiet] at moved
      cases moved
    · rw [quiet] at moved
      cases moved
  have kept {next : State} {from_ stage : ExitStage}
      (found : s.exit agent = from_)
      (moved : ((next.setExit agent stage).exit agent).cause? =
        some (.startFailed record))
      (same : stage.cause? = from_.cause?) :
      (s.exit agent).cause? = some (.startFailed record) := by
    simp only [State.setExit, Function.update_self] at moved
    rw [found, ← same]
    exact moved
  have passed {stage : ExitStage}
      (quiet : stage = .finished ∨ ∃ spawner, stage = .notifying spawner) :
      stage.cause? = none := by
    rcases quiet with rfl | ⟨spawner, rfl⟩
    · rfl
    · rfl
  unfold State.resumeExit at resumed
  simp only at resumed
  split at resumed
  all_goals rename_i stage
  all_goals repeat' split at resumed
  all_goals cases resumed
  all_goals first
    | exact (other failed (.inl rfl)).elim
    | exact (other failed (.inr rfl)).elim
    | exact .inl (kept stage failed rfl)
    | exact (other failed (.inl (passed (noticeStage_cases s agent)))).elim
    | exact (other failed (.inl (passed (afterCleanup_cases s agent _)))).elim
    | skip
  · rename_i crashed
    have begins := begins_beginExit cfg s agent crashed now constructs
    generalize (s.beginExit cfg agent crashed now constructs).exit agent =
      moved at begins failed
    cases begins with
    | startFailed found entered =>
        cases failed
        exact .inr ⟨⟨crashed, stage⟩, entered⟩
    | _ => cases failed
  all_goals
    simp only [State.publishFresh, Function.update_apply] at failed
    split_ifs at failed
  · cases failed
  · cases failed
  · cases failed
  · cases failed

/-! ## Facts of every run -/

/-- A handler that has finished stays so. -/
theorem finished_of_step
    {agent : Nat} (kept : s.roster.Kept)
    (stepped : step cfg s label = some after)
    (finished : s.exit agent = .finished) :
    after.exit agent = .finished := by
  have watchable (unwatched : s.exit agent = .unwatched) : False := by
    rw [finished] at unwatched
    cases unwatched
  cases exit_of_step stepped agent with
  | same unmoved => rw [unmoved, finished]
  | own resumption now constructs handled =>
      subst handled
      simp [step, State.resumeExit, finished] at stepped
  | admitted spawn _ loop _ =>
      have claimed : s.roster.errand = .claimed spawn.name agent := by
        simp only [State.roster, loop]
        rfl
      rcases kept.claimed _ _ claimed with ⟨_, _, _, _, _, unwatched, _⟩
      exact (watchable unwatched).elim
  | published other record now constructs _ starting _ =>
      rcases kept.staged.starting other record agent starting with
        ⟨_, _, _, _, _, _, _, unwatched, _⟩
      exact (watchable unwatched).elim
  | cancelled _ stopped =>
      rw [stopped, finished]
      rfl

/-- What holds of acknowledgements, ends and notices in every run. -/
structure Attested (s : State) : Prop where
  unready : Unready s
  halted : Halted s
  unacknowledged : ∀ record, (s.continuation record).acting = true →
    s.acknowledged record = false
  cause : ∀ agent record,
    (s.exit agent).cause? = some (.startFailed record) →
      record = s.home agent
  untold : ∀ agent child spawner, s.exit agent ≠ .finished →
    .notified agent child spawner ∉ s.log

theorem attested_init : Attested init :=
  ⟨by rintro _ _ ⟨⟩, by rintro ⟨⟩, by rintro _ ⟨⟩, by rintro _ _ ⟨⟩,
    fun _ _ _ _ => (by rintro ⟨⟩)⟩

theorem unacknowledged_of_step
    {record : Nat} (kept : s.roster.Kept)
    (held : ∀ record, (s.continuation record).acting = true →
      s.acknowledged record = false)
    (stepped : step cfg s label = some after)
    (acting : (after.continuation record).acting = true) :
    after.acknowledged record = false := by
  rcases acknowledged_of_step stepped record with
    ⟨same, before⟩ | ⟨_, settled⟩ | ⟨name, claimed, admitted⟩
  · rw [same]
    exact held record (before acting)
  · rw [settled] at acting
    cases acting
  · rcases kept.claimed _ _ claimed with ⟨_, _, _, _, _, _, absent, _⟩
    exact admitted acting absent

theorem cause_of_step
    {agent record : Nat} (kept : s.roster.Kept)
    (held : ∀ agent record,
      (s.exit agent).cause? = some (.startFailed record) →
        record = s.home agent)
    (stepped : step cfg s label = some after)
    (failed : (after.exit agent).cause? = some (.startFailed record)) :
    record = after.home agent := by
  have before : agent < s.next ∧ record = s.home agent := by
    have born (present : s.exit agent ≠ .unwatched) : agent < s.next :=
      kept.numbered.born present
    have caused (found : (s.exit agent).cause? = some (.startFailed record)) :
        agent < s.next ∧ record = s.home agent := by
      refine ⟨born ?_, held agent record found⟩
      intro unwatched
      rw [unwatched] at found
      cases found
    cases exit_of_step stepped agent with
    | same unmoved =>
        rw [unmoved] at failed
        exact caused failed
    | own resumption now constructs handled =>
        subst handled
        rcases cause_of_resumeExit stepped failed with
          found | ⟨⟨crashed, scheduled⟩, entered⟩
        · exact caused found
        · have acting : s.roster.Acting agent := by
            right
            simp only [State.roster, scheduled]
            rfl
          refine ⟨born_of_acting kept.numbered acting, ?_⟩
          exact kept.entry_home acting entered
    | admitted _ _ _ watched =>
        rw [watched] at failed
        cases failed
    | published _ _ _ _ _ _ watched =>
        rw [watched] at failed
        cases failed
    | cancelled _ stopped =>
        rw [stopped] at failed
        generalize s.exit agent = stage at failed
        cases stage <;> cases failed
  rw [(named_of_step stepped before.1).2]
  exact before.2

theorem untold_of_step
    {agent : Nat} {child : Name} {spawner : Key} (kept : s.roster.Kept)
    (held : ∀ agent child spawner, s.exit agent ≠ .finished →
      .notified agent child spawner ∉ s.log)
    (stepped : step cfg s label = some after)
    (unfinished : after.exit agent ≠ .finished) :
    .notified agent child spawner ∉ after.log := by
  intro sent
  rcases notified_of_step stepped sent with
    old | ⟨now, constructs, rfl, _, stage⟩
  · refine held agent child spawner ?_ old
    intro finished
    exact unfinished (finished_of_step kept stepped finished)
  · simp only [step, State.resumeExit, stage] at stepped
    cases stepped
    exact unfinished (Function.update_self ..)

theorem step_attested
    (kept : s.roster.Kept) (held : Attested s)
    (stepped : step cfg s label = some after) :
    Attested after where
  unready := step_unready held.unready stepped
  halted := step_halted held.halted stepped
  unacknowledged := fun _ acting =>
    unacknowledged_of_step kept held.unacknowledged stepped acting
  cause := fun _ _ failed => cause_of_step kept held.cause stepped failed
  untold := fun _ _ _ unfinished =>
    untold_of_step kept held.untold stepped unfinished

/-- What ends in a step is a child that ends by itself. -/
theorem ended_of_step
    {agent : Nat} {outcome : TaskOutcome}
    (stepped : step cfg s label = some after)
    (done : after.task agent = .done outcome) :
    s.task agent = .done outcome ∨
      ∃ status, label = .child agent (.finish outcome status) := by
  have started {other : Nat}
      (task : after.task = update s.task other .live) :
      s.task agent = .done outcome := by
    rw [task] at done
    by_cases same : agent = other
    · rw [same, Function.update_self] at done
      cases done
    · rw [Function.update_of_ne same] at done
      exact done
  have framed (own : label.ofLoop = true) : s.task agent = .done outcome := by
    rcases frame_of_step stepped own with
      frame | ⟨spawn, child, spawner, loop, _, keyed, rfl⟩
    · rw [← frame.task]
      exact done
    · have task : (s.enroll spawn child).task = update s.task child .live := by
        simp only [State.enroll, keyed]
      exact started task
  cases label with
  | take message => exact .inl (framed rfl)
  | consulted approved constructs => exact .inl (framed rfl)
  | loop resumption => exact .inl (framed rfl)
  | exit handler resumption now constructs =>
      left
      simp only [step, State.resumeExit] at stepped
      repeat' split at stepped
      all_goals cases stepped
      all_goals first
        | exact done
        | exact started rfl
        | skip
      unfold State.beginExit at done
      simp only at done
      repeat' split at done
      all_goals exact done
  | continuation record resumption =>
      left
      simp only [step, State.resumeContinuation] at stepped
      repeat' split at stepped
      all_goals cases stepped
      all_goals exact done
  | child other event =>
      simp only [step, State.childStep] at stepped
      split at stepped
      · cases stepped
      cases event with
      | reach suspended =>
          simp only at stepped
          split at stepped
          · cases stepped
          · cases stepped
            exact .inl done
      | change status marker =>
          simp only at stepped
          split at stepped
          · cases stepped
            exact .inl done
          · cases stepped
      | finish ending status =>
          simp only at stepped
          split at stepped
          · cases stepped
          · cases stepped
            by_cases same : agent = other
            · simp only [same, Function.update_self,
                TaskState.done.injEq] at done
              rw [same, done]
              exact .inr ⟨status, rfl⟩
            · simp only [Function.update_of_ne same] at done
              exact .inl done
  | foreign name joins =>
      left
      simp only [step, State.foreignStep] at stepped
      split at stepped
      all_goals cases stepped
      all_goals exact done

/-- A task that has ended does not run again. -/
theorem done_of_step
    {agent : Nat} {outcome : TaskOutcome} (kept : s.roster.Kept)
    (stepped : step cfg s label = some after)
    (done : s.task agent = .done outcome) :
    after.task agent = .done outcome := by
  have motion := step_motion stepped
  change after.roster.task agent = .done outcome
  have view : s.roster.task agent = .done outcome := done
  generalize after.roster = b at motion
  cases motion with
  | quiet quiet => exact (quiet.task agent).done view
  | claim => exact view
  | enroll origin waits claimed =>
      rcases kept.claimed _ _ claimed with ⟨_, _, _, _, idle, _⟩
      have apart : agent ≠ origin.record := by
        rintro rfl
        rw [idle] at view
        cases view
      simp only [Roster.enroll, Function.update_of_ne apart]
      exact view
  | build => exact view
  | start handler record fresh transferring =>
      have idle := (kept.staged.building handler record fresh
        (by rw [transferring]; rfl)).2.2.2.2.2.2.1
      have apart : agent ≠ fresh := by
        rintro rfl
        rw [idle] at view
        cases view
      simp only [Roster.start, Function.update_of_ne apart]
      exact view
  | publish => exact view

/-- A record that has ended is not acknowledged any more. -/
theorem acknowledged_of_done
    {record : Nat} {outcome : TaskOutcome}
    (kept : s.roster.Kept) (held : Attested s)
    (stepped : step cfg s label = some after)
    (done : s.task record = .done outcome)
    (acknowledged : after.acknowledged record = true) :
    s.acknowledged record = true := by
  rcases acknowledged_of_step stepped record with
    ⟨same, _⟩ | ⟨ready, _⟩ | ⟨name, claimed, _⟩
  · rw [← same]
    exact acknowledged
  · rw [held.unready record outcome done] at ready
    cases ready
  · rcases kept.claimed _ _ claimed with ⟨_, _, _, _, idle, _⟩
    rw [show s.task record = _ from idle] at done
    cases done

/-- The exit of an incarnation that has ended is to be resolved or not. -/
theorem answerable_of_done
    {agent : Nat} {outcome : TaskOutcome}
    (kept : s.roster.Kept) (descended : s.roster.Descended)
    (held : Attested s)
    (stepped : step cfg s label = some after)
    (done : s.task agent = .done outcome)
    (answerable : after.answerable agent = true) :
    s.answerable agent = true := by
  have born : agent < s.next := by
    by_contra unborn
    have idle := (kept.numbered.blank agent (Nat.le_of_not_lt unborn)).1
    rw [show s.task agent = _ from idle] at done
    cases done
  have ended : ∃ outcome, s.task (s.home agent) = .done outcome := by
    by_cases root : s.home agent = agent
    · rw [root]
      exact ⟨outcome, done⟩
    · exact descended agent root
  rcases ended with ⟨last, ended⟩
  simp only [State.answerable, Bool.and_eq_true, Bool.not_eq_true',
    (named_of_step stepped born).2] at answerable ⊢
  refine
    ⟨acknowledged_of_done kept held stepped ended answerable.1, ?_⟩
  rw [Bool.eq_false_iff]
  intro asked
  rw [(step_tableMoves stepped).requested agent asked] at answerable
  cases answerable.2

end Attested

/-! ## Children in the table -/

/-- Children that run or whose exit is to be handled are in the table. -/
structure Placed (s : State) : Prop where
  running : ∀ agent, s.requested agent = false → s.task agent = .live →
    s.dynamicChildren.lookup (s.agentName agent) = some (s.home agent)
  pending : ∀ agent, s.answerable agent = true →
    (s.exit agent).placed = true →
      s.dynamicChildren.lookup (s.agentName agent) = some (s.home agent)
  gone : ∀ agent, (s.exit agent).gone = true →
    s.dynamicChildren.lookup (s.agentName agent) ≠ some (s.home agent)
  uncancelled : ∀ agent, s.task agent = .done .cancelled →
    s.answerable agent = false

theorem placed_init : Placed init :=
  ⟨by rintro _ _ ⟨⟩, by rintro _ ⟨⟩, by rintro _ ⟨⟩, by rintro _ ⟨⟩⟩

section Placed

variable {cfg : Config} {s after : State} {label : Label} {agent : Nat}

theorem ExitStage.acting_of_placed {stage : ExitStage}
    (placed : stage.placed = true) : stage.acting = true := by
  cases stage <;> first | rfl | cases placed

/-- A child that works and was not asked to end is not removed. -/
theorem not_removes_of_pending
    (held : s.roster.Orderly) (calm : Calm s) (attested : Attested s)
    (permitted : separate cfg s label = true)
    (stepped : step cfg s label = some after)
    (acting : s.roster.Acting agent)
    (unasked : after.requested agent = false)
    (pending : after.task agent = .live ∨
      after.acknowledged (s.home agent) = true ∧
        (after.exit agent).placed = true) :
    ¬ Removes s label after (s.agentName agent) := by
  have kept := held.kept
  by_cases restarting : (s.exit agent).restarting = true
  · exact not_removes_of_restarting held calm permitted restarting
  have settled : (s.exit agent).restarting = false :=
    Bool.eq_false_iff.mpr restarting
  have current := current_of_acting kept settled acting
  have serves := kept.acting agent acting
  intro removes
  generalize named : s.agentName agent = name at removes
  cases removes with
  | take message request _ removal =>
      have taken : Takes s (.take message) (s.agentName agent) :=
        ⟨message, rfl, by rw [named]; exact removal⟩
      rw [asked_of_takes kept calm permitted stepped taken acting] at unasked
      cases unasked
  | loop resumption request _ removing =>
      have asked := calm.asked name agent removing named acting
      rw [(step_tableMoves stepped).requested agent asked] at unasked
      cases unasked
  | exit other now constructs removing =>
      have begun : (s.exit other).begun = true := by
        generalize s.exit other = stage at removing
        cases stage <;> first | rfl | cases removing
      have holds := ExitStage.holds_of_begun begun
      have rival : s.roster.Serves other :=
        kept.acting other (.inr (ExitStage.acting_of_holds holds))
      have home : s.home agent = s.home other := serves.home_eq rival named
      have same : agent = other := by
        rw [← current, home]
        exact kept.holder other (.inr holds)
      subst same
      rcases kept.staged.begun agent begun with ⟨outcome, done⟩
      cases stage : s.exit agent with
      | clearing reason =>
          simp only [step, State.resumeExit, stage] at stepped
          cases stepped
          rcases pending with live | ⟨_, placed⟩
          · have clash : TaskState.done outcome = .live :=
              done.symm.trans live
            cases clash
          · simp only [State.setExit, Function.update_self] at placed
            cases placed
      | draining cause =>
          simp only [step, State.resumeExit, stage] at stepped
          cases stepped
          rcases pending with live | ⟨_, placed⟩
          · have clash : TaskState.done outcome = .live :=
              done.symm.trans live
            cases clash
          · simp only [State.setExit, Function.update_self] at placed
            cases placed
      | _ =>
          rw [stage] at removing
          cases removing
  | continuation record draining =>
      have tearing : (s.continuation record).tearing = true := by
        rw [draining]
        rfl
      have waits := SpawnStage.acting_of_tearing tearing
      rcases kept.continuing record waits with ⟨rival, root⟩
      have same : s.home agent = record :=
        (serves.home_eq rival named).trans root
      rcases pending with live | ⟨acknowledged, _⟩
      · rcases held.torn record tearing with ⟨⟨outcome, done⟩, unreached⟩
        have unmoved : s.recAgent record = record :=
          kept.numbered.unreached record root unreached
        have own : agent = record := by
          rw [← current, same, unmoved]
        simp only [step, State.resumeContinuation, draining] at stepped
        cases stepped
        rw [own] at live
        have clash : TaskState.done outcome = .live := done.symm.trans live
        cases clash
      · have unacknowledged := attested.unacknowledged record waits
        simp only [step, State.resumeContinuation, draining] at stepped
        cases stepped
        rw [same] at acknowledged
        have clash : true = false := acknowledged.symm.trans unacknowledged
        cases clash

/-- Something works before the step, and its child is in the table. -/
theorem lookup_of_acting
    (held : s.roster.Orderly) (calm : Calm s) (attested : Attested s)
    (permitted : separate cfg s label = true)
    (stepped : step cfg s label = some after)
    (acting : s.roster.Acting agent)
    (unasked : after.requested agent = false)
    (pending : after.task agent = .live ∨
      after.acknowledged (s.home agent) = true ∧
        (after.exit agent).placed = true)
    (found :
      s.dynamicChildren.lookup (s.agentName agent) = some (s.home agent)) :
    after.dynamicChildren.lookup (after.agentName agent) =
      some (after.home agent) := by
  have kept := held.kept
  rcases named_of_step stepped (born_of_acting kept.numbered acting) with
    ⟨named, home⟩
  rw [named, home]
  rcases (step_tableMoves stepped).entry (s.agentName agent) with
    same | ⟨_, removes⟩ | ⟨spawn, child, loop, _, spawned, _⟩
  · rw [same]
    exact found
  · exact absurd removes
      (not_removes_of_pending held calm attested permitted stepped acting
        unasked pending)
  · exact absurd spawned (not_auditing_of_acting kept acting loop)

/-- The successor of a restart is in the table as its predecessor was. -/
theorem lookup_of_restarting
    {handler : Nat}
    (held : s.roster.Orderly) (calm : Calm s)
    (permitted : separate cfg s label = true)
    (stepped : step cfg s label = some after)
    (restarting : (s.exit handler).restarting = true)
    (named : s.agentName handler = s.agentName agent)
    (home : s.home handler = s.home agent) (born : agent < s.next) :
    after.dynamicChildren.lookup (after.agentName agent) =
      some (after.home agent) := by
  have kept := held.kept
  have acting : s.roster.Acting handler :=
    .inr (ExitStage.acting_of_restarting restarting)
  rcases named_of_step stepped born with ⟨named', home'⟩
  rw [named', home', ← named, ← home]
  rcases (step_tableMoves stepped).entry (s.agentName handler) with
    same | ⟨_, removes⟩ | ⟨spawn, child, loop, _, spawned, _⟩
  · rw [same]
    exact calm.housed handler restarting
  · exact absurd removes
      (not_removes_of_restarting held calm permitted restarting)
  · exact absurd spawned (not_auditing_of_acting kept acting loop)

/-- What works without running has ended. -/
theorem ended_of_acting
    (kept : s.roster.Kept) (acting : s.roster.Acting agent)
    (idle : s.task agent ≠ .live) :
    (∃ outcome, s.task agent = .done outcome) ∧
      (s.exit agent).acting = true := by
  rcases acting with live | acts
  · exact absurd live idle
  · refine ⟨?_, acts⟩
    have view : (s.exit agent).acting = true := acts
    cases stage : s.exit agent with
    | watched =>
        have started := kept.staged.watched agent stage
        cases task : s.task agent with
        | notStarted => exact absurd task started
        | live => exact absurd task idle
        | done outcome => exact ⟨outcome, rfl⟩
    | starting record fresh =>
        exact (kept.staged.starting agent record fresh
          stage).2.2.2.2.2.2.2.2.1
    | _ =>
        apply kept.staged.begun agent
        simp only [State.roster, stage] at view ⊢
        exact view

theorem running_of_step
    (held : s.roster.Orderly) (calm : Calm s) (attested : Attested s)
    (placed : Placed s)
    (permitted : separate cfg s label = true)
    (stepped : step cfg s label = some after)
    (unasked : after.requested agent = false)
    (live : after.task agent = .live) :
    after.dynamicChildren.lookup (after.agentName agent) =
      some (after.home agent) := by
  rcases acting_of_step held.kept stepped (.inl live) with
    acting | ⟨handler, restarting, named, home, born⟩ | ⟨_, _, found⟩
  · have lively : s.task agent = .live := by
      by_contra idle
      rcases (ended_of_acting held.kept acting idle).1 with ⟨outcome, done⟩
      rw [done_of_step held.kept stepped done] at live
      cases live
    have quiet : s.requested agent = false := by
      rw [Bool.eq_false_iff]
      intro asked
      rw [(step_tableMoves stepped).requested agent asked] at unasked
      cases unasked
    exact lookup_of_acting held calm attested permitted stepped acting
      unasked (.inl live) (placed.running agent quiet lively)
  · exact lookup_of_restarting held calm permitted stepped restarting named
      home born
  · exact found

theorem placed_of_step
    (stepped : step cfg s label = some after)
    (placed : (after.exit agent).placed = true)
    (acts : (s.exit agent).acting = true) (kept : s.roster.Kept)
    {outcome : TaskOutcome} (done : s.task agent = .done outcome) :
    (s.exit agent).placed = true := by
  cases exit_of_step stepped agent with
  | same unmoved =>
      rw [← unmoved]
      exact placed
  | own resumption now constructs handled =>
      subst handled
      exact placed_of_resumeExit stepped placed
  | admitted spawn _ loop _ =>
      have claimed : s.roster.errand = .claimed spawn.name agent := by
        simp only [State.roster, loop]
        rfl
      rcases kept.claimed _ _ claimed with ⟨_, _, _, _, idle, _⟩
      rw [show s.task agent = _ from idle] at done
      cases done
  | published other record now constructs _ starting _ =>
      rcases kept.staged.starting other record agent starting with
        ⟨_, _, _, _, _, _, _, unwatched, _⟩
      rw [show s.exit agent = _ from unwatched] at acts
      cases acts
  | cancelled _ stopped =>
      rw [stopped] at placed
      generalize s.exit agent = stage at placed acts
      cases stage <;> first | rfl | cases placed

theorem pending_of_step
    (held : s.roster.Orderly) (descended : s.roster.Descended)
    (calm : Calm s) (attested : Attested s) (placed : Placed s)
    (permitted : separate cfg s label = true)
    (stepped : step cfg s label = some after)
    (answerable : after.answerable agent = true)
    (waits : (after.exit agent).placed = true) :
    after.dynamicChildren.lookup (after.agentName agent) =
      some (after.home agent) := by
  have kept := held.kept
  have unasked : after.requested agent = false := by
    simp only [State.answerable, Bool.and_eq_true, Bool.not_eq_true']
      at answerable
    exact answerable.2
  rcases acting_of_step kept stepped
      (.inr (ExitStage.acting_of_placed waits)) with
    acting | ⟨handler, restarting, named, home, born⟩ | ⟨_, _, found⟩
  · have acknowledged : after.acknowledged (s.home agent) = true := by
      simp only [State.answerable, Bool.and_eq_true] at answerable
      rw [← (named_of_step stepped (born_of_acting kept.numbered acting)).2]
      exact answerable.1
    have found :
        s.dynamicChildren.lookup (s.agentName agent) =
          some (s.home agent) := by
      by_cases live : s.task agent = .live
      · apply placed.running agent ?_ live
        rw [Bool.eq_false_iff]
        intro asked
        rw [(step_tableMoves stepped).requested agent asked] at unasked
        cases unasked
      · rcases ended_of_acting kept acting live with ⟨⟨outcome, done⟩, acts⟩
        apply placed.pending agent
        · exact answerable_of_done kept descended attested stepped done
            answerable
        · exact placed_of_step stepped waits acts kept done
    exact lookup_of_acting held calm attested permitted stepped acting
      unasked (.inr ⟨acknowledged, waits⟩) found
  · exact lookup_of_restarting held calm permitted stepped restarting named
      home born
  · exact found

/-- A record that has left the table is not entered again. -/
theorem removed_of_step
    (kept : s.roster.Kept) (descended : s.roster.Descended)
    (stepped : step cfg s label = some after)
    (handled : s.exit agent ≠ .unwatched)
    (removed :
      s.dynamicChildren.lookup (s.agentName agent) ≠ some (s.home agent)) :
    after.dynamicChildren.lookup (after.agentName agent) ≠
      some (after.home agent) := by
  rcases named_of_step stepped (kept.numbered.born handled) with
    ⟨named, home⟩
  rw [named, home]
  rcases (step_tableMoves stepped).entry (s.agentName agent) with
    same | ⟨none, _⟩ | ⟨spawn, child, loop, _, _, entered⟩
  · rw [same]
    exact removed
  · rw [none]
    simp
  · rw [entered]
    intro same
    have claimed : s.roster.errand = .claimed spawn.name child := by
      simp only [State.roster, loop]
      rfl
    rcases kept.claimed _ _ claimed with
      ⟨_, _, _, _, idle, unwatched, _⟩
    have own : child = s.home agent := Option.some.inj same
    have later : s.home agent ≠ agent := by
      intro root
      rw [own, root] at unwatched
      exact handled unwatched
    rcases descended agent later with ⟨outcome, done⟩
    rw [own] at idle
    have clash : TaskState.done outcome = .notStarted :=
      done.symm.trans idle
    cases clash

theorem gone_of_step
    (kept : s.roster.Kept) (descended : s.roster.Descended)
    (held : ∀ agent, (s.exit agent).gone = true →
      s.dynamicChildren.lookup (s.agentName agent) ≠ some (s.home agent))
    (stepped : step cfg s label = some after)
    (gone : (after.exit agent).gone = true) :
    after.dynamicChildren.lookup (after.agentName agent) ≠
      some (after.home agent) := by
  have earlier (before : (s.exit agent).gone = true) :
      after.dynamicChildren.lookup (after.agentName agent) ≠
        some (after.home agent) := by
    apply removed_of_step kept descended stepped ?_ (held agent before)
    intro unwatched
    rw [unwatched] at before
    cases before
  cases exit_of_step stepped agent with
  | same unmoved =>
      rw [unmoved] at gone
      exact earlier gone
  | own resumption now constructs handled =>
      subst handled
      rcases gone_of_resumeExit stepped gone with before | removed
      · exact earlier before
      · have handled : s.exit agent ≠ .unwatched := by
          intro unwatched
          simp [step, State.resumeExit, unwatched] at stepped
        rw [(named_of_step stepped (kept.numbered.born handled)).1, removed]
        simp
  | admitted _ _ _ watched =>
      rw [watched] at gone
      cases gone
  | published _ _ _ _ _ _ watched =>
      rw [watched] at gone
      cases gone
  | cancelled _ stopped =>
      rw [stopped] at gone
      generalize s.exit agent = stage at gone
      cases stage <;> cases gone

theorem uncancelled_of_step
    (kept : s.roster.Kept) (descended : s.roster.Descended)
    (attested : Attested s) (placed : Placed s)
    (permitted : handlesInFull s label = true)
    (stepped : step cfg s label = some after)
    (done : after.task agent = .done .cancelled) :
    after.answerable agent = false := by
  rw [Bool.eq_false_iff]
  intro answerable
  rcases ended_of_step stepped done with before | ⟨status, rfl⟩
  · have asked :=
      answerable_of_done kept descended attested stepped before answerable
    rw [placed.uncancelled agent before] at asked
    cases asked
  · simp only [handlesInFull, Bool.not_eq_true'] at permitted
    have same : after.answerable agent = s.answerable agent := by
      simp only [step, State.childStep] at stepped
      repeat' split at stepped
      all_goals cases stepped
      all_goals rfl
    rw [same, permitted] at answerable
    cases answerable

theorem step_placed
    (held : s.roster.Orderly) (descended : s.roster.Descended)
    (calm : Calm s) (attested : Attested s) (placed : Placed s)
    (apart : separate cfg s label = true)
    (handles : handlesInFull s label = true)
    (stepped : step cfg s label = some after) :
    Placed after where
  running := fun _ unasked live =>
    running_of_step held calm attested placed apart stepped unasked live
  pending := fun _ answerable waits =>
    pending_of_step held descended calm attested placed apart stepped
      answerable waits
  gone := fun _ gone =>
    gone_of_step held.kept descended placed.gone stepped gone
  uncancelled := fun _ done =>
    uncancelled_of_step held.kept descended attested placed handles stepped
      done

end Placed

/-! ## Ends of handlers -/

/-- All that is kept along the runs that resolve exits. -/
structure Settled (s : State) : Prop where
  ordered : s.roster.Orderly
  descended : s.roster.Descended
  calm : Calm s
  attested : Attested s
  placed : Placed s

theorem settled_init : Settled init where
  ordered := ⟨kept_init, by rintro _ ⟨⟩⟩
  descended := fun _ later => absurd rfl later
  calm := calm_init
  attested := attested_init
  placed := placed_init

section Settled

variable {cfg : Config} {s after : State} {label : Label} {agent : Nat}

theorem step_settled
    (held : Settled s) (permitted : resolving cfg s label = true)
    (stepped : step cfg s label = some after) :
    Settled after := by
  simp only [resolving, steady, Bool.and_eq_true] at permitted
  rcases permitted with ⟨⟨⟨orders, apart⟩, _⟩, handles⟩
  have kept := held.ordered.kept
  constructor
  · exact step_orderly held.ordered orders stepped
  · exact (step_motion stepped).descended kept held.descended
  · exact step_calm held.ordered held.calm apart stepped
  · exact step_attested kept held.attested stepped
  · exact step_placed held.ordered held.descended held.calm held.attested
      held.placed apart handles stepped

theorem notices_of_untold
    (untold : ∀ child spawner, .notified agent child spawner ∉ s.log) :
    (s.log.filter fun event => event.about? = some agent) = [] := by
  apply List.filter_eq_nil_iff.mpr
  intro event member about
  cases event with
  | notified other child spawner =>
      simp only [Event.about?, Option.some.injEq, decide_eq_true_eq] at about
      rw [about] at member
      exact untold child spawner member
  | _ => simp [Event.about?] at about

theorem told_of_notifying
    {spawner : Key} {now : Nat} {constructs : Bool}
    (kept : s.roster.Kept) (attested : Attested s)
    (removed :
      s.dynamicChildren.lookup (s.agentName agent) ≠ some (s.home agent))
    (stage : s.exit agent = .notifying spawner)
    (stepped :
      step cfg s (.exit agent .returned now constructs) = some after) :
    Told after agent := by
  rcases kept.notifying agent spawner stage with
    ⟨origin, member, record, _, charged⟩
  have untold (child : Name) (other : Key) :
      .notified agent child other ∉ s.log := by
    apply attested.untold
    rw [stage]
    simp
  simp only [step, State.resumeExit, stage] at stepped
  cases stepped
  refine ⟨removed, origin, ?_, record, ?_⟩
  · exact member
  · change
      (Event.notified agent (s.agentName agent) spawner :: s.log).filter
          (fun event => event.about? = some agent) =
        [.notified agent (s.agentName agent) origin.spawner]
    rw [List.filter_cons_of_pos, notices_of_untold untold, charged]
    exact decide_eq_true rfl

theorem renewed_of_starting
    {record fresh now : Nat} {constructs : Bool}
    (held : Settled s) (answerable : s.answerable agent = true)
    (stage : s.exit agent = .starting record fresh)
    (live : s.task fresh = .live)
    (stepped :
      step cfg s (.exit agent .returned now constructs) = some after) :
    Renewed after agent := by
  have entered := held.placed.pending agent answerable (by rw [stage]; rfl)
  rcases held.ordered.kept.staged.starting agent record fresh stage with
    ⟨home, installed, _, _, apart, _⟩
  have current : s.recAgent (s.home agent) = fresh := by
    rw [← show record = s.home agent from home]
    exact installed
  have published : after = s.publishFresh agent record fresh := by
    simp only [step, State.resumeExit, stage, live] at stepped
    split at stepped
    · exact (Option.some.inj stepped).symm
    · cases ‹TaskState.live = .done _›
    · cases stepped
  rw [published]
  constructor
  · exact entered
  · intro same
    exact apart (current.symm.trans same)
  · change s.task (s.recAgent (s.home agent)) = .live
    rw [current]
    exact live
  · change update s.childTasks (s.agentName agent) (some fresh)
      (s.agentName agent) = some (s.recAgent (s.home agent))
    rw [current]
    exact Function.update_self ..

theorem noticeStage_of_routable
    (routable : s.routable (s.agentName agent) = true) :
    s.noticeStage agent ≠ .finished := by
  unfold State.routable at routable
  unfold State.noticeStage
  cases named : s.spawnerNames (s.agentName agent) with
  | none =>
      simp only [named] at routable
      cases routable
  | some spawner =>
      simp only [named] at routable ⊢
      rw [if_pos routable]
      simp

/-- The ways in which a handler comes to its end. -/
inductive Finishes (s : State) (agent : Nat) : Resumption → Prop where
  | ignored :
      s.task agent = .done .cancelled → Finishes s agent .returned
  | absent (crashed : Bool) :
      s.exit agent = .scheduled crashed →
      s.dynamicChildren.lookup (s.agentName agent) = none →
        Finishes s agent .returned
  | unnoticed (reason : Reason) :
      s.exit agent = .announcing reason →
      s.noticeStage agent = .finished →
        Finishes s agent .returned
  | cleaned (cause : CleanupCause) :
      s.exit agent = .leaving cause →
      s.afterCleanup agent cause = .finished →
        Finishes s agent .returned
  | notified (spawner : Key) :
      s.exit agent = .notifying spawner → Finishes s agent .returned
  | started (record fresh : Nat) :
      s.exit agent = .starting record fresh → Finishes s agent .returned
  | raised : s.resolves agent .raised = false → Finishes s agent .raised

theorem finishes_of_resumeExit
    {resumption : Resumption} {now : Nat} {constructs : Bool}
    (resumed :
      s.resumeExit cfg agent resumption now constructs = some after)
    (finished : after.exit agent = .finished) :
    Finishes s agent resumption := by
  have reaches {other : State} {stage : ExitStage}
      (ended : (other.setExit agent stage).exit agent = .finished) :
      stage = .finished := by
    simpa only [State.setExit, Function.update_self] using ended
  have goesOn {other : State} {stage : ExitStage}
      (ended : (other.setExit agent stage).exit agent = .finished)
      (stays : stage ≠ .finished) : Finishes s agent resumption :=
    absurd (reaches ended) stays
  unfold State.resumeExit at resumed
  simp only at resumed
  split at resumed
  all_goals rename_i stage
  all_goals repeat' split at resumed
  all_goals cases resumed
  all_goals first
    | exact .notified _ stage
    | exact .started _ _ stage
    | exact .unnoticed _ stage (reaches finished)
    | exact .cleaned _ stage (reaches finished)
    | exact .ignored ‹_›
    | exact goesOn finished ExitStage.noConfusion
    | skip
  · rename_i crashed
    have begins := begins_beginExit cfg s agent crashed now constructs
    rw [finished] at begins
    cases begins with
    | absent removed => exact .absent crashed stage removed
  all_goals
    apply Finishes.raised
    simp only [State.resolves, stage]

/-- A handler that comes to its end resolves its exit. -/
theorem resolved_of_resumeExit
    {resumption : Resumption} {now : Nat} {constructs : Bool}
    (held : Settled s) (answerable : s.answerable agent = true)
    (resolves : s.resolves agent resumption = true)
    (stepped :
      step cfg s (.exit agent resumption now constructs) = some after)
    (finished : after.exit agent = .finished) :
    Renewed after agent ∨ Told after agent := by
  cases finishes_of_resumeExit stepped finished with
  | ignored cancelled =>
      rw [held.placed.uncancelled agent cancelled] at answerable
      cases answerable
  | absent crashed scheduled removed =>
      have entered :=
        held.placed.pending agent answerable (by rw [scheduled]; rfl)
      rw [removed] at entered
      cases entered
  | unnoticed reason announcing ended =>
      simp only [State.resolves, announcing] at resolves
      exact absurd ended (noticeStage_of_routable resolves)
  | cleaned cause leaving ended =>
      simp only [State.resolves, leaving] at resolves
      have notices := noticeStage_of_routable resolves
      unfold State.afterCleanup at ended
      split at ended
      · rename_i record
        have own : record = s.home agent :=
          held.attested.cause agent record (by rw [leaving]; rfl)
        simp only [State.answerable, Bool.and_eq_true] at answerable
        rw [own, answerable.1, if_pos rfl] at ended
        exact absurd ended notices
      · exact absurd ended notices
  | notified spawner stage =>
      have gone := held.placed.gone agent (by rw [stage]; rfl)
      exact
        .inr
          (told_of_notifying held.ordered.kept held.attested gone stage
            stepped)
  | started record fresh stage =>
      simp only [State.resolves, stage, decide_eq_true_eq] at resolves
      exact .inl (renewed_of_starting held answerable stage resolves stepped)
  | raised fails =>
      rw [fails] at resolves
      cases resolves

/-- What the end of the loop cancels was not to be resolved. -/
theorem unanswerable_of_gathers
    (held : Settled s) (permitted : overtakesNone cfg s label = true)
    (gathers : s.gathers cfg label = true)
    (cancelled : (s.exit agent).cancel = .finished)
    (unfinished : s.exit agent ≠ .finished) :
    s.answerable agent = false := by
  have exiting : s.exiting agent = true := by
    unfold State.exiting
    generalize s.exit agent = stage at cancelled unfinished
    cases stage <;> first | rfl | exact absurd rfl unfinished | cases cancelled
  have born : agent < s.next := by
    apply held.ordered.kept.numbered.born
    intro unwatched
    have found : s.exit agent = .unwatched := unwatched
    rw [found] at cancelled
    cases cancelled
  unfold State.gathers at gathers
  split at gathers
  · rename_i remaining last loop
    have asked := held.attested.halted (by rw [loop]; rfl) agent
    simp only [State.answerable, asked, Bool.not_true, Bool.and_false]
  · simp only [Bool.and_eq_true] at gathers
    simp only [overtakesNone, gathers.1, Bool.not_true, Bool.false_or,
      Bool.and_eq_true] at permitted
    have idle :=
      List.all_eq_true.mp permitted.2 agent (List.mem_range.mpr born)
    simpa only [State.unresolved, exiting, Bool.and_true,
      Bool.not_eq_true'] using idle

end Settled

/-! ## Every run -/

/--
In every run in which an exit that is to be resolved is handled to its end
without an await that raises, is not overtaken by a removal or by the end of
the supervisor, and leads, when it leads to a restart, to an incarnation that
runs: the end of the handling finds either a new incarnation that runs and is
in the table, or the child removed and its spawner told once.
-/
theorem exits_resolved_in_every_run
    (cfg : Config) {s after : State} {label : Label} {agent : Nat}
    (reached : Reaches (step cfg) (resolving cfg · ·) init s)
    (permitted : resolving cfg s label = true)
    (stepped : step cfg s label = some after)
    (answerable : s.answerable agent = true)
    (unfinished : s.exit agent ≠ .finished)
    (finished : after.exit agent = .finished) :
    Xor (Renewed after agent) (Told after agent) := by
  have held : Settled s := by
    apply reached.invariant
    · exact settled_init
    · intro before label after held permitted stepped
      exact step_settled held permitted stepped
  have resolved : Renewed after agent ∨ Told after agent := by
    simp only [resolving, Bool.and_eq_true] at permitted
    rcases permitted with ⟨⟨_, overtakes⟩, handles⟩
    cases exit_of_step stepped agent with
    | same unmoved =>
        rw [unmoved] at finished
        exact absurd finished unfinished
    | own resumption now constructs handled =>
        subst handled
        simp only [handlesInFull, answerable, Bool.not_true, Bool.false_or]
          at handles
        exact resolved_of_resumeExit held answerable handles stepped finished
    | admitted _ _ _ watched =>
        rw [watched] at finished
        cases finished
    | published _ _ _ _ _ _ watched =>
        rw [watched] at finished
        cases finished
    | cancelled gathers stopped =>
        rw [finished] at stopped
        rw [unanswerable_of_gathers held overtakes gathers stopped.symm
          unfinished] at answerable
        cases answerable
  rcases resolved with renewed | told
  · exact .inl ⟨renewed, fun told => told.removed renewed.entered⟩
  · exact .inr ⟨told, fun renewed => told.removed renewed.entered⟩

/-- A child crashes, and its next incarnation is started. -/
def crashAndRestart : List Label :=
  spawnQuickly (spawnInto "planner" "app.Worker" "w1" false "1") ++
    [Label.child 0 (.reach false), .child 0 (.finish .raised .crashed),
      .exit 0 .returned 0 true, .exit 0 .returned 0 true,
      .exit 0 .returned 0 true, .exit 0 .returned 0 true]

theorem exit_resolved_by_restart :
    ∃ s after : State,
      step openConfig s (.exit 0 .returned 0 true) = some after ∧
        after.exit 0 = .finished ∧ Xor (Renewed after 0) (Told after 0) := by
  have ran :
      ((runWhere (step openConfig) (resolving openConfig · ·) init
        (crashAndRestart ++ [Label.child 1 (.reach false)])).bind fun s =>
          (step openConfig s (.exit 0 .returned 0 true)).map fun after =>
            decide (resolving openConfig s (.exit 0 .returned 0 true) ∧
              s.answerable 0 = true ∧ s.exit 0 ≠ .finished ∧
              after.exit 0 = .finished)) = some true := by
    decide +kernel
  rcases Option.bind_eq_some_iff.mp ran with ⟨s, run, last⟩
  rcases Option.map_eq_some_iff.mp last with ⟨after, stepped, facts⟩
  rcases of_decide_eq_true facts with
    ⟨permitted, answerable, unfinished, finished⟩
  exact
    ⟨s, after, stepped, finished,
      exits_resolved_in_every_run openConfig (reaches_of_runWhere .start run)
        permitted stepped answerable unfinished finished⟩

/--
When the next incarnation fails in its start, the handling ends with a dead
child in the table and nobody told.
-/
theorem failed_start_is_not_resolved :
    ∃ s after : State,
      Reaches (step openConfig) (fun _ _ => True) init s ∧
        step openConfig s (.exit 0 .returned 0 true) = some after ∧
        s.answerable 0 = true ∧ s.exit 0 ≠ .finished ∧
        after.exit 0 = .finished ∧
        ¬ Xor (Renewed after 0) (Told after 0) := by
  have ran :
      ((runWhere (step openConfig) (fun _ _ => True) init
        (crashAndRestart ++ [Label.child 1 (.finish .raised .crashed)])).bind
          fun s =>
            (step openConfig s (.exit 0 .returned 0 true)).map fun after =>
              decide (s.answerable 0 = true ∧ s.exit 0 ≠ .finished ∧
                after.exit 0 = .finished ∧
                after.task (after.recAgent (after.home 0)) ≠ .live ∧
                after.dynamicChildren.lookup (after.agentName 0) =
                  some (after.home 0))) = some true := by
    decide +kernel
  rcases Option.bind_eq_some_iff.mp ran with ⟨s, run, last⟩
  rcases Option.map_eq_some_iff.mp last with ⟨after, stepped, facts⟩
  rcases of_decide_eq_true facts with
    ⟨answerable, unfinished, finished, dead, entered⟩
  refine
    ⟨s, after, reaches_of_runWhere .start run, stepped, answerable,
      unfinished, finished, ?_⟩
  rintro (⟨renewed, _⟩ | ⟨told, _⟩)
  · exact dead renewed.runs
  · exact told.removed entered

end Civitas.Dynamic
