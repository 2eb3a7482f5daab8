import Civitas.Dynamic.Removal
import Civitas.Dynamic.Resolution

/-!
# Children on record

A child runs on record when the table and `_child_tasks` name its task.  A
restart puts its new task on record only after the start, and a despawn or a
stop waits for the task it finds on record.

In the runs considered here removals and restarts do not overlap, a removal
is served to its end, and the supervisor does not give up a restart whose new
incarnation runs.  Then what runs off record is being started by the handler
of an exit, and a removal waits for all that runs under its name.
-/

namespace Civitas.Dynamic

open Civitas.PyValue
open Civitas.Transition
open Function (update)

/-! ## Runs that serve removals -/

/-- The answers to a despawn or a stop. -/
def Answer.ofRemoval : Answer → Bool
  | .removed _ | .error .noDynamicAgent => true
  | _ => false

/-- The despawn or stop that the loop serves. -/
def LoopStage.serves? : LoopStage → Option Request
  | .despawnWaiting request _ _ | .despawnClearing request _
  | .removing request _ => some request
  | .stopPosting stop | .stopAgentWaiting stop | .stopAgentCancelled stop
  | .stopWaiting stop _ | .stopCancelled stop _ => some stop.request
  | .replying request answer =>
      if answer.ofRemoval then some request else none
  | _ => none

/-- The await of the loop resumes in a way that breaks a removal off. -/
def State.breaksOff (s : State) (resumption : Resumption) : Bool :=
  match s.loop, resumption with
  | .stopAgentWaiting _, .cancelled | .stopAgentCancelled _, .cancelled =>
      false
  | stage, .raised | stage, .cancelled => stage.serves?.isSome
  | _, _ => false

/-- The loop waits for the child and would not survive its outcome. -/
def LoopStage.upsetBy
    (agent : Nat) (outcome : TaskOutcome) : LoopStage → Bool
  | .stopAgentWaiting stop | .stopAgentCancelled stop =>
      stop.agent = agent && outcome = .raised
  | .stopWaiting _ task =>
      task = agent && (outcome = .raised || outcome = .cancelled)
  | .stopCancelled _ task => task = agent && outcome = .raised
  | _ => false

/-- The end of the task disturbs what the loop is doing. -/
def State.upsets
    (s : State) (agent : Nat) (outcome : TaskOutcome) : Bool :=
  s.loop.upsetBy agent outcome

/-- A new incarnation runs that its handler has not put on record. -/
def State.offRecord (s : State) : Bool :=
  (List.range s.next).any fun agent =>
    match s.exit agent with
    | .starting _ fresh => s.task fresh = .live
    | _ => false

/-- Removals are taken and served to their ends. -/
def servesInFull (cfg : Config) (s : State) (label : Label) : Bool :=
  match label with
  | .take message =>
      !(message.kind = .despawn || message.kind = .stop) ||
        !s.endedBy cfg message
  | .loop resumption => !s.breaksOff resumption
  | .child agent (.finish outcome _) => !s.upsets agent outcome
  | _ => true

/-- Steps after which no task of a removed child is left. -/
def final (cfg : Config) (s : State) (label : Label) : Bool :=
  steady cfg s label && servesInFull cfg s label &&
    (!s.gathers cfg label || !s.offRecord)

/-! ## What runs on record -/

/-- The name that a removal works on, and the task it waits for. -/
def LoopStage.expects? : LoopStage → Option (Name × Option Nat)
  | .despawnWaiting _ name task => some (name, some task)
  | .despawnClearing _ name => some (name, none)
  | .stopPosting stop | .stopAgentWaiting stop | .stopAgentCancelled stop =>
      some (stop.name, stop.task)
  | .stopWaiting stop task | .stopCancelled stop task =>
      some (stop.name, some task)
  | _ => none

theorem LoopStage.removes_of_expects {stage : LoopStage} {name : Name}
    {task : Option Nat} (expects : stage.expects? = some (name, task)) :
    stage.removes? = some name := by
  cases stage <;> cases expects <;> rfl

/-- Each live task is on record. -/
structure OnRecord (s : State) : Prop where
  entered : ∀ agent, s.task agent = .live →
    s.dynamicChildren.lookup (s.agentName agent) = some (s.home agent)
  recorded : ∀ agent, s.task agent = .live →
    (s.childTasks (s.agentName agent) = some agent ∧
        s.recTask (s.home agent) = agent) ∨
      ∃ handler record, s.exit handler = .starting record agent
  watched : ∀ name agent, s.childTasks name = some agent →
    s.exit agent ≠ .unwatched
  expects : ∀ name task agent, s.loop.expects? = some (name, task) →
    s.agentName agent = name → s.task agent = .live → task = some agent

theorem onRecord_init : OnRecord init :=
  ⟨by rintro _ ⟨⟩, by rintro _ ⟨⟩, by rintro _ _ ⟨⟩, by rintro _ _ _ ⟨⟩⟩

/-! ## What a removal waits for -/

section Expects

variable {cfg : Config} {s after : State}

/-- The task, if any, does not run. -/
def State.rests (s : State) (task : Option Nat) : Prop :=
  ∀ agent, task = some agent → s.task agent ≠ .live

/-- How a step of the loop passes on what its removal waits for. -/
structure Passes
    (s after : State) (expected : Name → Option Nat → Prop) : Prop where
  expects : ∀ name task, after.loop.expects? = some (name, task) →
    ∃ earlier, expected name earlier ∧ (task = earlier ∨ s.rests earlier)
  removes : ∀ request name, after.loop = .removing request name →
    ∃ earlier, expected name earlier ∧ s.rests earlier
  absent : ∀ request name, after.loop = .removing request name →
    after.dynamicChildren.lookup name = none

variable {expected : Name → Option Nat → Prop}

theorem Passes.idle
    (expects : after.loop.expects? = none)
    (removes : ∀ request name, after.loop ≠ .removing request name) :
    Passes s after expected where
  expects := by
    intro name task found
    rw [expects] at found
    cases found
  removes := fun request name found => absurd found (removes request name)
  absent := fun request name found => absurd found (removes request name)

theorem Passes.keep {name : Name} {task : Option Nat}
    (known : expected name task)
    (expects : after.loop.expects? = some (name, task))
    (removes : ∀ request name, after.loop ≠ .removing request name) :
    Passes s after expected where
  expects := by
    intro other next found
    rw [expects] at found
    cases found
    exact ⟨task, known, .inl rfl⟩
  removes := fun request name found => absurd found (removes request name)
  absent := fun request name found => absurd found (removes request name)

theorem passes_stopChildren (halting : State) (names : List Name) :
    Passes s (halting.stopChildren names) expected := by
  apply Passes.idle
  · simp only [State.stopChildren]
    split
    · rfl
    · rfl
  · intro request name
    simp only [State.stopChildren]
    split
    · exact LoopStage.noConfusion
    · exact LoopStage.noConfusion

theorem passes_finishRemoval
    {request : Request} {name : Name} {task : Option Nat} {before : State}
    (known : expected name task) (rests : s.rests task) :
    Passes s (before.finishRemoval request name) expected where
  expects := by rintro _ _ ⟨⟩
  removes := by
    intro other found removing
    cases removing
    exact ⟨task, known, rests⟩
  absent := by
    intro other found removing
    cases removing
    exact AList.lookup_erase _ _

theorem passes_despawnClear
    {request : Request} {name : Name} {task : Option Nat} {before : State}
    (known : expected name task) (rests : s.rests task) :
    Passes s (before.despawnClear request name) expected where
  expects := by
    intro other next found
    cases found
    exact ⟨task, known, .inr rests⟩
  removes := by rintro _ _ ⟨⟩
  absent := by rintro _ _ ⟨⟩

theorem passes_afterStop
    {stop : StopRequest} {before : State}
    (task : before.task = s.task)
    (known : expected stop.name stop.task) :
    Passes s (before.afterStop stop) expected := by
  unfold State.afterStop
  split
  · rename_i awaited recorded
    split_ifs with live
    · refine .keep known ?_ (by simp)
      simp only [LoopStage.expects?, recorded]
    · apply passes_finishRemoval known
      intro agent found
      rw [recorded] at found
      cases found
      rw [← task]
      exact live
  · rename_i unrecorded
    apply passes_finishRemoval known
    intro agent found
    rw [unrecorded] at found
    cases found

theorem passes_resumeLoop
    {resumption : Resumption}
    (unbroken : s.breaksOff resumption = false)
    (resumed : s.resumeLoop resumption = some after) :
    Passes s after fun name task => s.loop.expects? = some (name, task) := by
  have known {stage : LoopStage} {name : Name} {task : Option Nat}
      (loop : s.loop = stage) (expects : stage.expects? = some (name, task)) :
      s.loop.expects? = some (name, task) := by
    rw [loop]
    exact expects
  have ended {agent : Nat} {outcome : TaskOutcome}
      (done : s.task agent = .done outcome) : s.rests (some agent) := by
    intro other found
    cases found
    rw [done]
    simp
  have unawaited : s.rests none := by rintro _ ⟨⟩
  unfold State.resumeLoop at resumed
  split at resumed
  all_goals rename_i loop
  all_goals repeat' split at resumed
  all_goals cases resumed
  all_goals first
    | exact passes_stopChildren _ _
    | exact passes_despawnClear (known loop rfl) (ended ‹_›)
    | exact passes_finishRemoval (known loop rfl) (ended ‹_›)
    | exact passes_finishRemoval (known loop rfl) unawaited
    | exact passes_afterStop rfl (known loop rfl)
    | exact .keep (known loop rfl) rfl fun _ _ => LoopStage.noConfusion
    | exact .idle rfl fun _ _ => LoopStage.noConfusion
    | skip
  · unfold State.enroll
    split
    · exact passes_stopChildren _ _
    · apply Passes.idle
      · simp only
        split_ifs
        · rfl
        · rfl
      · intro request name
        simp only
        split_ifs
        · simp
        · simp
  · simp only [State.breaksOff, loop] at unbroken
    cases unbroken

/-- The name that a message removes, and the task recorded for it. -/
def State.Finds
    (s : State) (message : Message) (name : Name) (task : Option Nat) :
    Prop :=
  s.removalOf message = some name ∧ task = s.childTasks name

theorem passes_takeDespawn
    {message : Message} (request : Request)
    (despawns : message.kind = .despawn) :
    Passes s ((s.receive message).takeDespawn request message.payload)
      (s.Finds message) := by
  unfold State.takeDespawn
  split
  · exact passes_stopChildren _ _
  · rename_i name named
    split
    · exact .idle rfl fun _ _ => LoopStage.noConfusion
    · rename_i record entered
      have found : s.dynamicChildren.lookup name = some record := entered
      have removal : s.removalOf message = some name := by
        simp only [State.removalOf, despawns, true_or, if_true, named, found,
          Option.isSome_some]
      have known : s.Finds message name (s.childTasks name) := ⟨removal, rfl⟩
      simp only
      split
      · rename_i task recorded
        have same : s.childTasks name = some task := recorded
        rw [same] at known
        split_ifs with live
        · exact .keep known rfl fun _ _ => LoopStage.noConfusion
        · apply passes_despawnClear known
          intro agent own
          cases own
          exact live
      · rename_i unrecorded
        have same : s.childTasks name = none := unrecorded
        rw [same] at known
        apply passes_despawnClear known
        intro agent own
        cases own

theorem passes_takeStop
    {message : Message} (request : Request)
    (stops : message.kind = .stop) :
    Passes s ((s.receive message).takeStop cfg request message.payload)
      (s.Finds message) := by
  unfold State.takeStop
  split_ifs
  · exact passes_stopChildren _ _
  · split
    · exact passes_stopChildren _ _
    · rename_i name named
      split
      · exact .idle rfl fun _ _ => LoopStage.noConfusion
      · rename_i record entered
        have found : s.dynamicChildren.lookup name = some record := entered
        have removal : s.removalOf message = some name := by
          simp only [State.removalOf, stops, or_true, if_true, named, found,
            Option.isSome_some]
        have known : s.Finds message name (s.childTasks name) :=
          ⟨removal, rfl⟩
        simp only
        split_ifs
        · exact .keep known rfl fun _ _ => LoopStage.noConfusion
        · apply passes_afterStop
          · rfl
          · exact known

theorem passes_takeMessage (message : Message) (idle : s.loop = .idle) :
    Passes s (s.takeMessage cfg message) (s.Finds message) := by
  unfold State.takeMessage
  simp only
  split
  · exact passes_stopChildren _ _
  · unfold State.takeSpawn
    split
    · exact .idle rfl fun _ _ => LoopStage.noConfusion
    · exact passes_stopChildren _ _
    · exact .idle rfl fun _ _ => LoopStage.noConfusion
  · exact passes_takeDespawn _ ‹_›
  · exact passes_takeStop _ ‹_›
  · apply Passes.idle
    · change s.loop.expects? = none
      rw [idle]
      rfl
    · intro request name
      change s.loop ≠ _
      rw [idle]
      simp

end Expects

section OnRecord

variable {cfg : Config} {s after : State} {label : Label} {agent : Nat}

/-- Under a name that is not restarted, what runs is the recorded task. -/
theorem recorded_of_settled
    (kept : s.roster.Kept) (held : OnRecord s)
    (settled : ∀ handler, s.agentName handler = s.agentName agent →
      (s.exit handler).restarting = false)
    (live : s.task agent = .live) :
    s.childTasks (s.agentName agent) = some agent := by
  rcases held.recorded agent live with
    ⟨recorded, _⟩ | ⟨handler, record, starting⟩
  · exact recorded
  · rcases kept.staged.starting handler record agent starting with
      ⟨_, _, _, _, _, named, _⟩
    have quiet := settled handler named.symm
    rw [starting] at quiet
    cases quiet

/-- A removal takes a name off the table only when nothing runs under it. -/
theorem idle_of_removes
    (ordered : s.roster.Orderly) (calm : Calm s) (held : OnRecord s)
    (apart : separate cfg s label = true)
    (serves : servesInFull cfg s label = true)
    (stepped : step cfg s label = some after)
    (removes : Removes s label after (s.agentName agent)) :
    s.task agent ≠ .live := by
  have kept := ordered.kept
  intro live
  have serving := kept.acting agent (.inl live)
  have current : s.recAgent (s.home agent) = agent :=
    kept.holder agent (.inl live)
  generalize named : s.agentName agent = name at removes
  cases removes with
  | take message request _ removal removing =>
      have settled (handler : Nat)
          (same : s.agentName handler = s.agentName agent) :
          (s.exit handler).restarting = false :=
        settled_of_removing kept calm apart
          (.inr ⟨message, rfl, by rw [named]; exact removal⟩) same
      have recorded := recorded_of_settled kept held settled live
      cases loop : s.loop with
      | idle =>
          simp only [step, loop, Option.some.injEq] at stepped
          subst stepped
          rcases (passes_takeMessage message loop).removes request name
              removing with ⟨task, ⟨_, found⟩, rests⟩
          rw [named] at recorded
          rw [recorded] at found
          exact rests agent found live
      | _ => simp [step, loop] at stepped
  | loop resumption request _ expected removing =>
      simp only [servesInFull, Bool.not_eq_true'] at serves
      rcases (passes_resumeLoop serves stepped).removes request name removing
        with ⟨task, waits, rests⟩
      exact rests agent (held.expects name task agent waits named live) live
  | exit other now constructs removing =>
      have begun : (s.exit other).begun = true := by
        generalize s.exit other = stage at removing
        cases stage <;> first | rfl | cases removing
      have holds := ExitStage.holds_of_begun begun
      have rival : s.roster.Serves other :=
        kept.acting other (.inr (ExitStage.acting_of_holds holds))
      have home : s.home agent = s.home other := serving.home_eq rival named
      have same : agent = other := by
        rw [← current, home]
        exact kept.holder other (.inr holds)
      rcases kept.staged.begun other begun with ⟨outcome, done⟩
      rw [same] at live
      have clash : TaskState.done outcome = .live := done.symm.trans live
      cases clash
  | continuation record draining =>
      have tearing : (s.continuation record).tearing = true := by
        rw [draining]
        rfl
      rcases kept.continuing record (SpawnStage.acting_of_tearing tearing)
        with ⟨rival, root⟩
      rcases ordered.torn record tearing with ⟨⟨outcome, done⟩, unreached⟩
      have home : s.home agent = record :=
        (serving.home_eq rival named).trans root
      have same : agent = record := by
        rw [← current, home]
        exact kept.numbered.unreached record root unreached
      rw [same] at live
      have clash : TaskState.done outcome = .live := done.symm.trans live
      cases clash

/-- What runs after a step ran before, or is started or spawned in it. -/
theorem live_of_step
    (stepped : step cfg s label = some after)
    (live : after.task agent = .live) :
    s.task agent = .live ∨
      (∃ handler record, s.exit handler = .transferring record agent ∧
        after.exit handler = .starting record agent) ∨
      ∃ spawn spawner, s.loop = .auditing spawn agent ∧
        label = .loop .returned ∧ spawn.spawner.key? = some spawner ∧
        after = s.enroll spawn agent := by
  have framed (own : label.ofLoop = true) :
      s.task agent = .live ∨
        ∃ spawn spawner, s.loop = .auditing spawn agent ∧
          label = .loop .returned ∧ spawn.spawner.key? = some spawner ∧
          after = s.enroll spawn agent := by
    rcases frame_of_step stepped own with
      frame | ⟨spawn, child, spawner, loop, returned, keyed, admitted⟩
    · rw [← frame.task]
      exact .inl live
    · by_cases same : agent = child
      · rw [same]
        exact .inr ⟨spawn, spawner, loop, returned, keyed, admitted⟩
      · left
        have task : (s.enroll spawn child).task =
            update s.task child .live := by
          simp only [State.enroll, keyed]
        rw [admitted, task, Function.update_of_ne same] at live
        exact live
  cases label with
  | take message => exact (framed rfl).imp_right .inr
  | consulted approved constructs => exact (framed rfl).imp_right .inr
  | loop resumption => exact (framed rfl).imp_right .inr
  | exit handler resumption now constructs =>
      have started {record fresh : Nat}
          (stage : s.exit handler = .transferring record fresh)
          (live : update s.task fresh .live agent = .live) :
          s.task agent = .live ∨
            ∃ other found, s.exit other = .transferring found agent ∧
              (s.startFresh handler record fresh).exit other =
                .starting found agent := by
        by_cases same : agent = fresh
        · rw [same]
          exact .inr ⟨handler, record, stage, Function.update_self ..⟩
        · rw [Function.update_of_ne same] at live
          exact .inl live
      simp only [step, State.resumeExit] at stepped
      repeat' split at stepped
      all_goals cases stepped
      all_goals first
        | exact .inl live
        | exact (started ‹_› live).imp_right .inl
        | skip
      left
      unfold State.beginExit at live
      simp only at live
      repeat' split at live
      all_goals exact live
  | continuation record resumption =>
      left
      simp only [step, State.resumeContinuation] at stepped
      repeat' split at stepped
      all_goals cases stepped
      all_goals exact live
  | child other event =>
      left
      simp only [step, State.childStep] at stepped
      split at stepped
      · cases stepped
      cases event with
      | reach suspended =>
          simp only at stepped
          split at stepped
          · cases stepped
          · cases stepped
            exact live
      | change status marker =>
          simp only at stepped
          split at stepped
          · cases stepped
            exact live
          · cases stepped
      | finish outcome status =>
          simp only at stepped
          split at stepped
          · cases stepped
          · cases stepped
            by_cases same : agent = other
            · simp only [same, Function.update_self] at live
              cases live
            · simpa only [Function.update_of_ne same] using live
  | foreign name joins =>
      left
      simp only [step, State.foreignStep] at stepped
      split at stepped
      all_goals cases stepped
      all_goals exact live

theorem entered_of_step
    (ordered : s.roster.Orderly) (calm : Calm s) (held : OnRecord s)
    (apart : separate cfg s label = true)
    (serves : servesInFull cfg s label = true)
    (stepped : step cfg s label = some after)
    (live : after.task agent = .live) :
    after.dynamicChildren.lookup (after.agentName agent) =
      some (after.home agent) := by
  have kept := ordered.kept
  rcases acting_of_step kept stepped (.inl live) with
    acting | ⟨handler, restarting, named, home, born⟩ | ⟨_, _, found⟩
  · have lively : s.task agent = .live := by
      by_contra idle
      rcases (ended_of_acting kept acting idle).1 with ⟨outcome, done⟩
      rw [done_of_step kept stepped done] at live
      cases live
    rcases named_of_step stepped (born_of_acting kept.numbered acting) with
      ⟨named, home⟩
    rw [named, home]
    rcases (step_tableMoves stepped).entry (s.agentName agent) with
      same | ⟨_, removes⟩ | ⟨spawn, child, loop, _, spawned, _⟩
    · rw [same]
      exact held.entered agent lively
    · exact absurd lively
        (idle_of_removes ordered calm held apart serves stepped removes)
    · exact absurd spawned (not_auditing_of_acting kept acting loop)
  · exact lookup_of_restarting ordered calm apart stepped restarting named
      home born
  · exact found

/-- Two incarnations of one name that hold it are one. -/
theorem agent_of_starting
    {handler record fresh : Nat} (kept : s.roster.Kept)
    (live : s.task agent = .live)
    (starting : s.exit handler = .starting record fresh)
    (named : s.agentName handler = s.agentName agent) :
    agent = fresh ∧ record = s.home agent := by
  rcases kept.staged.starting handler record fresh starting with
    ⟨own, installed, _⟩
  have acting : s.roster.Acting handler := by
    right
    simp only [State.roster, starting]
    rfl
  have home : s.home handler = s.home agent :=
    (kept.acting handler acting).home_eq (kept.acting agent (.inl live))
      named
  have same : record = s.home agent := by
    rw [← home]
    exact own
  constructor
  · have current : s.recAgent (s.home agent) = agent :=
      kept.holder agent (.inl live)
    rw [← current, ← same]
    exact installed
  · exact same

theorem recTask_of_step
    (stepped : step cfg s label = some after) (record : Nat) :
    after.recTask record = s.recTask record ∨
      (∃ spawn, s.loop = .auditing spawn record) ∨
      ∃ handler fresh, s.exit handler = .starting record fresh ∧
        after.recTask record = fresh := by
  have framed (own : label.ofLoop = true) :
      after.recTask record = s.recTask record ∨
        ∃ spawn, s.loop = .auditing spawn record := by
    rcases frame_of_step stepped own with
      frame | ⟨spawn, child, spawner, loop, _, keyed, rfl⟩
    · exact .inl (congrFun frame.recTask record)
    · by_cases same : record = child
      · rw [same]
        exact .inr ⟨spawn, loop⟩
      · left
        simp only [State.enroll, keyed]
        exact Function.update_of_ne same ..
  cases label with
  | take message => exact (framed rfl).imp_right .inl
  | consulted approved constructs => exact (framed rfl).imp_right .inl
  | loop resumption => exact (framed rfl).imp_right .inl
  | exit handler resumption now constructs =>
      have published {found fresh : Nat}
          (stage : s.exit handler = .starting found fresh) :
          (s.publishFresh handler found fresh).recTask record =
              s.recTask record ∨
            (∃ spawn, s.loop = .auditing spawn record) ∨
            ∃ other next, s.exit other = .starting record next ∧
              (s.publishFresh handler found fresh).recTask record =
                next := by
        by_cases same : record = found
        · rw [same]
          exact .inr
            (.inr ⟨handler, fresh, stage, Function.update_self ..⟩)
        · exact .inl (Function.update_of_ne same ..)
      simp only [step, State.resumeExit] at stepped
      repeat' split at stepped
      all_goals cases stepped
      all_goals first
        | exact .inl rfl
        | exact published ‹_›
        | skip
      left
      unfold State.beginExit
      simp only
      repeat' split
      all_goals rfl
  | continuation other resumption =>
      left
      simp only [step, State.resumeContinuation] at stepped
      repeat' split at stepped
      all_goals cases stepped
      all_goals rfl
  | child other event =>
      left
      simp only [step, State.childStep] at stepped
      repeat' split at stepped
      all_goals cases stepped
      all_goals rfl
  | foreign name joins =>
      left
      simp only [step, State.foreignStep] at stepped
      split at stepped
      all_goals cases stepped
      all_goals rfl

/-- A running incarnation is not waiting for its admission. -/
theorem not_auditing_of_home
    {spawn : SpawnRequest} {record : Nat}
    (kept : s.roster.Kept) (descended : s.roster.Descended)
    (live : s.task agent = .live)
    (loop : s.loop = .auditing spawn record) :
    s.home agent ≠ record := by
  have claimed : s.roster.errand = .claimed spawn.name record := by
    simp only [State.roster, loop]
    rfl
  rcases kept.claimed _ _ claimed with ⟨_, _, _, _, idle, _⟩
  have unstarted : s.task record = .notStarted := idle
  intro home
  by_cases root : s.home agent = agent
  · rw [← home, root, live] at unstarted
    cases unstarted
  · rcases descended agent root with ⟨outcome, done⟩
    have ended : s.task (s.home agent) = .done outcome := done
    rw [home, unstarted] at ended
    cases ended

/-- A task on record stays on record while it runs. -/
theorem recorded_of_recorded
    (ordered : s.roster.Orderly) (descended : s.roster.Descended)
    (calm : Calm s) (held : OnRecord s)
    (apart : separate cfg s label = true)
    (serves : servesInFull cfg s label = true)
    (stepped : step cfg s label = some after)
    (live : s.task agent = .live)
    (recorded : s.childTasks (s.agentName agent) = some agent)
    (tracked : s.recTask (s.home agent) = agent) :
    after.childTasks (after.agentName agent) = some agent ∧
      after.recTask (after.home agent) = agent := by
  have kept := ordered.kept
  rcases named_of_step stepped (born_of_acting kept.numbered (.inl live))
    with ⟨named, home⟩
  rw [named, home]
  constructor
  · rcases (step_tableMoves stepped).tasks (s.agentName agent) with
      same | ⟨_, removes⟩ | ⟨spawn, child, loop, _, spawned, _⟩ |
        ⟨handler, record, fresh, starting, own, published, _⟩
    · rw [same]
      exact recorded
    · exact absurd live
        (idle_of_removes ordered calm held apart serves stepped removes)
    · exact absurd spawned (not_auditing_of_acting kept (.inl live) loop)
    · rw [published, ← (agent_of_starting kept live starting own).1]
  · rcases recTask_of_step stepped (s.home agent) with
      same | ⟨spawn, loop⟩ | ⟨handler, fresh, starting, published⟩
    · rw [same]
      exact tracked
    · exact absurd rfl (not_auditing_of_home kept descended live loop)
    · have installed : s.recAgent (s.home agent) = fresh :=
        (kept.staged.starting handler _ fresh starting).2.1
      have current : s.recAgent (s.home agent) = agent :=
        kept.holder agent (.inl live)
      rw [published, ← installed]
      exact current

theorem offRecord_of_starting
    {handler record : Nat} (kept : s.roster.Kept)
    (starting : s.exit handler = .starting record agent)
    (live : s.task agent = .live) :
    s.offRecord = true := by
  have born : handler < s.next := by
    apply kept.numbered.born
    intro unwatched
    rw [show s.exit handler = _ from unwatched] at starting
    cases starting
  apply List.any_eq_true.mpr
  refine ⟨handler, List.mem_range.mpr born, ?_⟩
  simp only [starting, live, decide_true]

/-- A start that goes on keeps its handler, or puts its task on record. -/
theorem recorded_of_starting
    {handler record : Nat}
    (kept : s.roster.Kept)
    (gathers : s.gathers cfg label = true → s.offRecord = false)
    (stepped : step cfg s label = some after)
    (live : s.task agent = .live)
    (starting : s.exit handler = .starting record agent) :
    (after.childTasks (after.agentName agent) = some agent ∧
        after.recTask (after.home agent) = agent) ∨
      ∃ other found, after.exit other = .starting found agent := by
  rcases kept.staged.starting handler record agent starting with
    ⟨own, _, born, home, apart, named, _⟩
  rcases named_of_step stepped born with ⟨named', home'⟩
  cases exit_of_step stepped handler with
  | same unmoved =>
      rw [← unmoved] at starting
      exact .inr ⟨handler, record, starting⟩
  | own resumption now constructs handled =>
      subst handled
      have published : after = s.publishFresh handler record agent := by
        simp only [step, State.resumeExit, starting] at stepped
        cases resumption with
        | returned =>
            simp only [live] at stepped
            split at stepped
            · exact (Option.some.inj stepped).symm
            · cases ‹TaskState.live = .done _›
            · cases stepped
        | raised => cases stepped
        | timedOut => cases stepped
        | cancelled => cases stepped
      left
      rw [named', home', published]
      constructor
      · have same : s.agentName agent = s.agentName handler := named
        rw [same]
        exact Function.update_self ..
      · have same : s.home agent = record := home.trans own.symm
        rw [same]
        exact Function.update_self ..
  | admitted spawn _ loop _ =>
      have claimed : s.roster.errand = .claimed spawn.name handler := by
        simp only [State.roster, loop]
        rfl
      rcases kept.claimed _ _ claimed with ⟨_, _, _, _, _, unwatched, _⟩
      rw [show s.exit handler = _ from unwatched] at starting
      cases starting
  | published other found now constructs _ started _ =>
      rcases kept.staged.starting other found handler started with
        ⟨_, _, _, _, _, _, _, unwatched, _⟩
      rw [show s.exit handler = _ from unwatched] at starting
      cases starting
  | cancelled stops _ =>
      have quiet := gathers stops
      rw [offRecord_of_starting kept starting live] at quiet
      cases quiet

theorem recorded_of_step
    (ordered : s.roster.Orderly) (descended : s.roster.Descended)
    (calm : Calm s) (held : OnRecord s)
    (apart : separate cfg s label = true)
    (serves : servesInFull cfg s label = true)
    (gathers : s.gathers cfg label = true → s.offRecord = false)
    (stepped : step cfg s label = some after)
    (live : after.task agent = .live) :
    (after.childTasks (after.agentName agent) = some agent ∧
        after.recTask (after.home agent) = agent) ∨
      ∃ handler record, after.exit handler = .starting record agent := by
  have kept := ordered.kept
  rcases live_of_step stepped live with
    before | ⟨handler, record, _, started⟩ |
      ⟨spawn, spawner, loop, _, keyed, rfl⟩
  · rcases held.recorded agent before with
      ⟨recorded, tracked⟩ | ⟨handler, record, starting⟩
    · exact .inl
        (recorded_of_recorded ordered descended calm held apart serves
          stepped before recorded tracked)
    · exact recorded_of_starting kept gathers stepped before starting
  · exact .inr ⟨handler, record, started⟩
  · left
    have claimed : s.roster.errand = .claimed spawn.name agent := by
      simp only [State.roster, loop]
      rfl
    rcases kept.claimed _ _ claimed with ⟨_, named, home, _⟩
    simp only [State.enroll, keyed]
    have own : s.agentName agent = spawn.name := named
    have root : s.home agent = agent := home
    rw [own, root]
    exact ⟨Function.update_self .., Function.update_self ..⟩

/-- An exit that was ever watched is not forgotten. -/
theorem watched_of_exit
    (stepped : step cfg s label = some after)
    (handled : s.exit agent ≠ .unwatched) :
    after.exit agent ≠ .unwatched := by
  intro unwatched
  apply handled
  have motion := step_motion stepped
  change s.roster.exit agent = .unwatched
  have view : after.roster.exit agent = .unwatched := unwatched
  generalize after.roster = b at motion view
  cases motion with
  | quiet quiet =>
      have moves := quiet.exit agent
      rw [view] at moves
      generalize found : ExitStage.unwatched = stage at moves
      cases moves with
      | stay => rfl
      | handle _ begun => rw [← found] at begun; cases begun
      | schedule => cases found
      | wire => cases found
      | notify => cases found
      | finish => cases found
  | claim => exact view
  | enroll origin =>
      by_cases same : agent = origin.record
      · rw [same] at view
        simp only [Roster.enroll, Function.update_self] at view
        cases view
      · simpa only [Roster.enroll, Function.update_of_ne same] using view
  | build handler record =>
      by_cases same : agent = handler
      · rw [same] at view
        simp only [Roster.build, Function.update_self] at view
        cases view
      · simpa only [Roster.build, Function.update_of_ne same] using view
  | start handler record fresh =>
      by_cases same : agent = handler
      · rw [same] at view
        simp only [Roster.start, Function.update_self] at view
        cases view
      · simpa only [Roster.start, Function.update_of_ne same] using view
  | publish handler record fresh =>
      simp only [Roster.publish, Function.update_apply] at view
      split_ifs at view
      exact view

theorem watched_of_step
    {name : Name} (held : OnRecord s)
    (stepped : step cfg s label = some after)
    (recorded : after.childTasks name = some agent) :
    after.exit agent ≠ .unwatched := by
  rcases (step_tableMoves stepped).tasks name with
    same | ⟨removed, _⟩ | ⟨spawn, child, _, _, _, admitted, watched⟩ |
      ⟨handler, record, fresh, _, _, published, watched⟩
  · rw [same] at recorded
    exact watched_of_exit stepped (held.watched name agent recorded)
  · rw [removed] at recorded
    cases recorded
  · rw [admitted] at recorded
    cases recorded
    rw [watched]
    simp
  · rw [published] at recorded
    cases recorded
    rw [watched]
    simp

/-- Nothing starts under a name that is being removed. -/
theorem live_of_removing
    {name : Name} (kept : s.roster.Kept) (calm : Calm s)
    (apart : separate cfg s label = true)
    (stepped : step cfg s label = some after)
    (removing : s.loop.removes? = some name ∨ Takes s label name)
    (named : after.agentName agent = name)
    (live : after.task agent = .live) :
    s.task agent = .live ∧ s.agentName agent = name := by
  rcases live_of_step stepped live with
    before | ⟨handler, record, transferring, _⟩ |
      ⟨spawn, spawner, loop, rfl, _⟩
  · refine ⟨before, ?_⟩
    rw [← (named_of_step stepped
      (born_of_acting kept.numbered (.inl before))).1]
    exact named
  · rcases kept.staged.building handler record agent
        (by simp only [State.roster, transferring]; rfl) with
      ⟨_, _, born, _, _, same, _⟩
    have own : s.agentName handler = name := by
      rw [← named, (named_of_step stepped born).1]
      exact same.symm
    have settled := settled_of_removing kept calm apart removing own
    rw [transferring] at settled
    cases settled
  · rcases removing with before | ⟨message, other, _⟩
    · rw [loop] at before
      cases before
    · cases other

theorem expects_of_step
    {name : Name} {task : Option Nat}
    (ordered : s.roster.Orderly) (calm : Calm s) (held : OnRecord s)
    (apart : separate cfg s label = true)
    (serves : servesInFull cfg s label = true)
    (stepped : step cfg s label = some after)
    (expects : after.loop.expects? = some (name, task))
    (named : after.agentName agent = name)
    (live : after.task agent = .live) :
    task = some agent := by
  have kept := ordered.kept
  have removing := (step_tableMoves stepped).removes name
    (LoopStage.removes_of_expects expects)
  rcases live_of_removing kept calm apart stepped removing named live with
    ⟨before, named'⟩
  have rests (other : label.ofLoop = false) : task = some agent := by
    rw [(loopRests_of_step stepped other).loop] at expects
    exact held.expects name task agent expects named' before
  cases label with
  | take message =>
      have taken : Takes s (.take message) name := by
        rcases removing with earlier | taken
        · cases loop : s.loop with
          | idle =>
              rw [loop] at earlier
              cases earlier
          | _ => simp [step, loop] at stepped
        · exact taken
      have recorded : s.childTasks name = some agent := by
        rw [← named']
        apply recorded_of_settled kept held _ before
        intro handler same
        exact settled_of_removing kept calm apart (.inr taken)
          (same.trans named')
      cases loop : s.loop with
      | idle =>
          simp only [step, loop, Option.some.injEq] at stepped
          subst stepped
          rcases (passes_takeMessage message loop).expects name task expects
            with ⟨earlier, ⟨_, found⟩, same | idle⟩
          · rw [same, found, recorded]
          · rw [recorded] at found
            exact absurd before (idle agent found)
      | _ => simp [step, loop] at stepped
  | consulted approved constructs =>
      rcases removing with earlier | ⟨message, other, _⟩
      · cases loop : s.loop with
        | consulting spawn =>
            rw [loop] at earlier
            cases earlier
        | _ => simp [step, loop] at stepped
      · cases other
  | loop resumption =>
      simp only [servesInFull, Bool.not_eq_true'] at serves
      rcases (passes_resumeLoop serves stepped).expects name task expects
        with ⟨earlier, waits, same | idle⟩
      · rw [same]
        exact held.expects name earlier agent waits named' before
      · exact absurd before
          (idle agent (held.expects name earlier agent waits named' before))
  | exit handler resumption now constructs => exact rests rfl
  | continuation record resumption => exact rests rfl
  | child other event => exact rests rfl
  | foreign other joins => exact rests rfl

theorem step_onRecord
    (ordered : s.roster.Orderly) (descended : s.roster.Descended)
    (calm : Calm s) (held : OnRecord s)
    (apart : separate cfg s label = true)
    (serves : servesInFull cfg s label = true)
    (gathers : s.gathers cfg label = true → s.offRecord = false)
    (stepped : step cfg s label = some after) :
    OnRecord after where
  entered := fun _ live =>
    entered_of_step ordered calm held apart serves stepped live
  recorded := fun _ live =>
    recorded_of_step ordered descended calm held apart serves gathers
      stepped live
  watched := fun _ _ recorded => watched_of_step held stepped recorded
  expects := fun _ _ _ expects named live =>
    expects_of_step ordered calm held apart serves stepped expects named live

end OnRecord

end Civitas.Dynamic
