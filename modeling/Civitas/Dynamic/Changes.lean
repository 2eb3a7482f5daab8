import Civitas.Dynamic.Lineage

/-!
# What a step changes

The table of children and the exit handlers, step by step: a name leaves the
table by a despawn or a stop, by the handler of an exit, or by the
continuation of a start; and a handler moves by itself, gets its task, or is
cancelled when the loop has ended.
-/

namespace Civitas.Dynamic

open Civitas.PyValue
open Function (update)

/-! ## What removes a child from the table -/

/-- The name that the loop is about to remove. -/
def LoopStage.removes? : LoopStage → Option Name
  | .despawnWaiting _ name _ | .despawnClearing _ name => some name
  | .stopPosting stop | .stopAgentWaiting stop | .stopAgentCancelled stop
  | .stopWaiting stop _ | .stopCancelled stop _ => some stop.name
  | _ => none

/-- The name of the child that a message asks to remove. -/
def State.removalOf (s : State) (message : Message) : Option Name :=
  if message.kind = .despawn ∨ message.kind = .stop then
    match (field message.payload "name" (.str "")).key? with
    | some name =>
        if (s.dynamicChildren.lookup name).isSome then some name else none
    | none => none
  else none

theorem entered_of_removalOf
    {s : State} {message : Message} {name : Name}
    (removal : s.removalOf message = some name) :
    ∃ record, s.dynamicChildren.lookup name = some record := by
  unfold State.removalOf at removal
  split_ifs at removal
  split at removal
  · split_ifs at removal with entered
    cases removal
    exact Option.isSome_iff_exists.mp entered
  · cases removal

/-- The next step of the handler removes its child from the table. -/
def ExitStage.removing : ExitStage → Bool
  | .clearing _ | .draining _ => true
  | _ => false

/-- The step removes the name from the table. -/
inductive Removes (s : State) : Label → State → Name → Prop where
  | take {after : State} (message : Message) (request : Request)
      (name : Name) :
      s.removalOf message = some name →
      after.loop = .removing request name →
        Removes s (.take message) after name
  | loop {after : State} (resumption : Resumption) (request : Request)
      (name : Name) :
      s.loop.removes? = some name →
      after.loop = .removing request name →
        Removes s (.loop resumption) after name
  | exit {after : State} (agent now : Nat) (constructs : Bool) :
      (s.exit agent).removing = true →
        Removes s (.exit agent .returned now constructs) after
          (s.agentName agent)
  | continuation {after : State} (record : Nat) :
      s.continuation record = .draining →
        Removes s (.continuation record .returned) after (s.agentName record)

/-- The step takes a despawn or a stop of the child that has the name. -/
def Takes (s : State) (label : Label) (name : Name) : Prop :=
  ∃ message, label = .take message ∧ s.removalOf message = some name

/-- How a step changes the table: not at all, by a removal, or by a spawn. -/
structure TableMoves (s : State) (label : Label) (after : State) : Prop where
  entry : ∀ name,
    after.dynamicChildren.lookup name = s.dynamicChildren.lookup name ∨
      (after.dynamicChildren.lookup name = none ∧ Removes s label after name) ∨
      ∃ spawn agent, s.loop = .auditing spawn agent ∧
        label = .loop .returned ∧ spawn.name = name ∧
        after.dynamicChildren.lookup name = some agent
  tasks : ∀ name,
    after.childTasks name = s.childTasks name ∨
      (after.childTasks name = none ∧ Removes s label after name) ∨
      (∃ spawn agent, s.loop = .auditing spawn agent ∧
        label = .loop .returned ∧ spawn.name = name ∧
        after.childTasks name = some agent ∧ after.exit agent = .watched) ∨
      ∃ handler record fresh, s.exit handler = .starting record fresh ∧
        s.agentName handler = name ∧ after.childTasks name = some fresh ∧
        after.exit fresh = .watched
  removes : ∀ name, after.loop.removes? = some name →
    s.loop.removes? = some name ∨ Takes s label name
  requested : ∀ agent,
    s.requested agent = true → after.requested agent = true

/-- The table and the recorded tasks stay, or lose a name together. -/
def Drops
    (s : State) (label : Label) (after : State) (removed : Name) : Prop :=
  after.dynamicChildren = s.dynamicChildren ∧
      after.childTasks = s.childTasks ∨
    after.dynamicChildren = s.dynamicChildren.erase removed ∧
      after.childTasks = update s.childTasks removed none ∧
      Removes s label after removed

section TableMoves

variable {s after : State} {label : Label} {removed : Name}

theorem Drops.lookup (drops : Drops s label after removed) (name : Name) :
    after.dynamicChildren.lookup name = s.dynamicChildren.lookup name ∨
      after.dynamicChildren.lookup name = none ∧
        Removes s label after name := by
  rcases drops with ⟨same, _⟩ | ⟨erased, _, removal⟩
  · rw [same]
    exact .inl rfl
  · rw [erased]
    by_cases same : name = removed
    · rw [same]
      exact .inr ⟨AList.lookup_erase _ _, removal⟩
    · exact .inl (AList.lookup_erase_ne same)

theorem Drops.task (drops : Drops s label after removed) (name : Name) :
    after.childTasks name = s.childTasks name ∨
      after.childTasks name = none ∧ Removes s label after name := by
  rcases drops with ⟨_, same⟩ | ⟨_, erased, removal⟩
  · rw [same]
    exact .inl rfl
  · rw [erased]
    by_cases same : name = removed
    · rw [same]
      exact .inr ⟨Function.update_self .., removal⟩
    · exact .inl (Function.update_of_ne same ..)

theorem TableMoves.change
    (drops : Drops s label after removed)
    (loop : after.loop.removes? = none ∨
      after.loop.removes? = s.loop.removes?)
    (requested : after.requested = s.requested) :
    TableMoves s label after where
  entry := by
    intro name
    rcases drops.lookup name with same | gone
    · exact .inl same
    · exact .inr (.inl gone)
  tasks := by
    intro name
    rcases drops.task name with same | gone
    · exact .inl same
    · exact .inr (.inl gone)
  removes := by
    intro name removes
    rcases loop with idle | same
    · rw [idle] at removes
      cases removes
    · rw [same] at removes
      exact .inl removes
  requested := by
    rw [requested]
    exact fun _ asked => asked

theorem TableMoves.aside
    (table : after.dynamicChildren = s.dynamicChildren)
    (tasks : after.childTasks = s.childTasks)
    (loop : after.loop.removes? = none ∨
      after.loop.removes? = s.loop.removes?)
    (requested : after.requested = s.requested) :
    TableMoves s label after := by
  have unchanged : Drops s label after Key.none := .inl ⟨table, tasks⟩
  exact .change unchanged loop requested

/-- A despawn or a stop finds its child. -/
theorem TableMoves.ask {message : Message} {record : Nat}
    (removal : s.removalOf message = some removed)
    (drops : Drops s (.take message) after removed)
    (loop : after.loop.removes? = none ∨
      after.loop.removes? = some removed)
    (requested :
      after.requested = update s.requested (s.recAgent record) true) :
    TableMoves s (.take message) after where
  entry := by
    intro name
    rcases drops.lookup name with same | gone
    · exact .inl same
    · exact .inr (.inl gone)
  tasks := by
    intro name
    rcases drops.task name with same | gone
    · exact .inl same
    · exact .inr (.inl gone)
  removes := by
    intro name removes
    rcases loop with idle | same
    · rw [idle] at removes
      cases removes
    · rw [same] at removes
      cases removes
      exact .inr ⟨message, rfl, removal⟩
  requested := by
    intro agent asked
    rw [requested]
    by_cases same : agent = s.recAgent record
    · rw [same]
      exact Function.update_self ..
    · rw [Function.update_of_ne same]
      exact asked

/-- The loop ends: nothing leaves the table and everything is asked to end. -/
theorem TableMoves.stopChildren {names : List Name} {halting : State}
    (table : halting.dynamicChildren = s.dynamicChildren)
    (tasks : halting.childTasks = s.childTasks)
    (requested : ∀ agent,
      s.requested agent = true → halting.requested agent = true) :
    TableMoves s label (halting.stopChildren names) where
  entry := by
    intro name
    exact .inl (congrArg (AList.lookup name) table)
  tasks := fun name => .inl (congrFun tasks name)
  removes := by
    intro name removes
    simp only [State.stopChildren] at removes
    split at removes
    · cases removes
    · cases removes
  requested := requested

theorem TableMoves.onStop {halting : State}
    (table : halting.dynamicChildren = s.dynamicChildren)
    (tasks : halting.childTasks = s.childTasks) :
    TableMoves s label halting.onStop := by
  unfold State.onStop
  apply TableMoves.stopChildren
  · exact table
  · exact tasks
  · exact fun _ _ => rfl

end TableMoves

/-! ## The loop -/

section Loop

variable {s : State}

theorem tableMoves_takeSpawn
    (cfg : Config) (s : State) (request : Request) (message : Message) :
    TableMoves s (.take message)
      ((s.receive message).takeSpawn cfg request message) := by
  unfold State.takeSpawn
  split
  · exact .aside rfl rfl (.inl rfl) rfl
  · exact .onStop rfl rfl
  · exact .aside rfl rfl (.inl rfl) rfl

theorem tableMoves_takeDespawn
    {message : Message} (request : Request)
    (despawns : message.kind = .despawn) :
    TableMoves s (.take message)
      ((s.receive message).takeDespawn request message.payload) := by
  unfold State.takeDespawn
  split
  · exact .onStop rfl rfl
  · rename_i name named
    split
    · exact .aside rfl rfl (.inl rfl) rfl
    · rename_i record entered
      have found : s.dynamicChildren.lookup name = some record := entered
      have removal : s.removalOf message = some name := by
        simp only [State.removalOf, despawns, true_or, if_true, named, found,
          Option.isSome_some]
      simp only
      split
      · split_ifs
        · exact .ask removal (.inl ⟨rfl, rfl⟩) (.inr rfl) rfl
        · exact .ask removal (.inl ⟨rfl, rfl⟩) (.inr rfl) rfl
      · exact .ask removal (.inl ⟨rfl, rfl⟩) (.inr rfl) rfl

/-- The end of a stop, or the wait for the recorded task. -/
theorem afterStop_cases (s : State) (stop : StopRequest) :
    s.afterStop stop = s.finishRemoval stop.request stop.name ∨
      ∃ task, stop.task = some task ∧ s.task task = .live ∧
        s.afterStop stop = { s with loop := .stopWaiting stop task } := by
  unfold State.afterStop
  split
  · rename_i task recorded
    split_ifs with live
    · exact .inr ⟨task, recorded, live, rfl⟩
    · exact .inl rfl
  · exact .inl rfl

theorem tableMoves_takeStop
    {message : Message} (cfg : Config) (request : Request)
    (stops : message.kind = .stop) :
    TableMoves s (.take message)
      ((s.receive message).takeStop cfg request message.payload) := by
  unfold State.takeStop
  split_ifs
  · exact .onStop rfl rfl
  · split
    · exact .onStop rfl rfl
    · rename_i name named
      split
      · exact .aside rfl rfl (.inl rfl) rfl
      · rename_i record entered
        have found : s.dynamicChildren.lookup name = some record := entered
        have removal : s.removalOf message = some name := by
          simp only [State.removalOf, stops, or_true, if_true, named, found,
            Option.isSome_some]
        simp only
        split_ifs
        · exact .ask removal (.inl ⟨rfl, rfl⟩) (.inr rfl) rfl
        · rcases afterStop_cases _ _ with finished | ⟨task, _, _, waiting⟩
          · rw [finished]
            exact
              .ask removal (.inr ⟨rfl, rfl, .take _ _ _ removal rfl⟩) (.inl rfl)
                rfl
          · rw [waiting]
            exact .ask removal (.inl ⟨rfl, rfl⟩) (.inr rfl) rfl

theorem tableMoves_takeMessage
    (cfg : Config) (s : State) (message : Message) :
    TableMoves s (.take message) (s.takeMessage cfg message) := by
  unfold State.takeMessage
  simp only
  split
  · exact .onStop rfl rfl
  · exact tableMoves_takeSpawn cfg s _ message
  · exact tableMoves_takeDespawn _ ‹_›
  · exact tableMoves_takeStop cfg _ ‹_›
  · exact .aside rfl rfl (.inr rfl) rfl

/-- The agent of a child that is to be removed has been asked to end. -/
theorem requested_of_takeMessage
    {cfg : Config} {message : Message} {name : Name} {record : Nat}
    (removal : s.removalOf message = some name)
    (entered : s.dynamicChildren.lookup name = some record) :
    (s.takeMessage cfg message).requested (s.recAgent record) = true := by
  have named : (field message.payload "name" (.str "")).key? = some name := by
    unfold State.removalOf at removal
    split_ifs at removal
    split at removal
    · rename_i found hashed
      split_ifs at removal
      cases removal
      exact hashed
    · cases removal
  have asked (other : Nat → Bool) :
      update other (s.recAgent record) true (s.recAgent record) = true :=
    Function.update_self ..
  have found : (s.receive message).dynamicChildren.lookup name = some record :=
    entered
  unfold State.takeMessage
  simp only
  cases kind : message.kind with
  | despawn =>
      simp only [State.takeDespawn, named, found]
      split
      · split_ifs
        · exact asked _
        · exact asked _
      · exact asked _
  | stop =>
      simp only [State.takeStop, named, found]
      split_ifs
      · rfl
      · exact asked _
      · rcases afterStop_cases _ _ with finished | ⟨task, _, _, waiting⟩
        · rw [finished]
          exact asked _
        · rw [waiting]
          exact asked _
  | _ => simp [State.removalOf, kind] at removal

theorem tableMoves_finishRemoval
    {request : Request} {name : Name} {resumption : Resumption}
    (removing : s.loop.removes? = some name) :
    TableMoves s (.loop resumption) (s.finishRemoval request name) :=
  .change
    (.inr ⟨rfl, rfl, .loop resumption request name removing rfl⟩)
    (.inl rfl) rfl

theorem tableMoves_afterStop
    {stop : StopRequest} {resumption : Resumption}
    (removing : s.loop.removes? = some stop.name) :
    TableMoves s (.loop resumption) (s.afterStop stop) := by
  rcases afterStop_cases s stop with finished | ⟨task, _, _, waiting⟩
  · rw [finished]
    exact tableMoves_finishRemoval removing
  · rw [waiting]
    exact .aside rfl rfl (.inr removing.symm) rfl

theorem tableMoves_enroll
    {spawn : SpawnRequest} {agent : Nat}
    (stage : s.loop = .auditing spawn agent) :
    TableMoves s (.loop .returned) (s.enroll spawn agent) := by
  unfold State.enroll
  split
  · exact .onStop rfl rfl
  · constructor
    · intro name
      by_cases same : name = spawn.name
      · refine .inr (.inr ⟨spawn, agent, stage, rfl, same.symm, ?_⟩)
        rw [same]
        exact AList.lookup_insert _
      · exact .inl (AList.lookup_insert_ne same)
    · intro name
      by_cases same : name = spawn.name
      · refine
          .inr (.inr (.inl ⟨spawn, agent, stage, rfl, same.symm, ?_, ?_⟩))
        · rw [same]
          exact Function.update_self ..
        · exact Function.update_self ..
      · exact .inl (Function.update_of_ne same ..)
    · intro name removes
      simp only at removes
      split at removes
      · cases removes
      · cases removes
    · exact fun _ asked => asked

theorem tableMoves_resumeLoop
    {after : State} {resumption : Resumption}
    (resumed : s.resumeLoop resumption = some after) :
    TableMoves s (.loop resumption) after := by
  have removing {stage : LoopStage} {name : Name}
      (loop : s.loop = stage) (removes : stage.removes? = some name) :
      s.loop.removes? = some name := by
    rw [loop]
    exact removes
  unfold State.resumeLoop at resumed
  split at resumed
  all_goals rename_i loop
  all_goals repeat' split at resumed
  all_goals cases resumed
  all_goals first
    | exact .onStop rfl rfl
    | exact .stopChildren rfl rfl (fun _ asked => asked)
    | exact tableMoves_enroll loop
    | exact tableMoves_finishRemoval (removing loop rfl)
    | exact tableMoves_afterStop (removing loop rfl)
    | exact .aside rfl rfl (.inl rfl) rfl
    | exact .aside rfl rfl (.inr (removing loop rfl).symm) rfl

end Loop

/-! ## Steps -/

theorem tableMoves_publishFresh
    {s : State} {label : Label} {agent record fresh : Nat}
    (stage : s.exit agent = .starting record fresh) :
    TableMoves s label (s.publishFresh agent record fresh) where
  entry := fun _ => .inl rfl
  tasks := by
    intro name
    by_cases same : name = s.agentName agent
    · refine
        .inr (.inr (.inr ⟨agent, record, fresh, stage, same.symm, ?_, ?_⟩))
      · rw [same]
        exact Function.update_self ..
      · exact Function.update_self ..
    · exact .inl (Function.update_of_ne same ..)
  removes := fun _ removes => .inl removes
  requested := fun _ asked => asked

theorem tableMoves_resumeExit
    {cfg : Config} {s after : State} {agent now : Nat}
    {resumption : Resumption} {constructs : Bool}
    (resumed :
      s.resumeExit cfg agent resumption now constructs = some after) :
    TableMoves s (.exit agent resumption now constructs) after := by
  have removes {after : State} {now : Nat} {constructs : Bool}
      {stage : ExitStage}
      (found : s.exit agent = stage) (removing : stage.removing = true) :
      Removes s (.exit agent .returned now constructs) after
        (s.agentName agent) := by
    apply Removes.exit
    rw [found]
    exact removing
  unfold State.resumeExit at resumed
  simp only at resumed
  split at resumed
  all_goals repeat' split at resumed
  all_goals cases resumed
  all_goals first
    | exact .aside rfl rfl (.inr rfl) rfl
    | exact .change (.inr ⟨rfl, rfl, removes ‹_› rfl⟩) (.inr rfl) rfl
    | exact tableMoves_publishFresh ‹_›
    | skip
  unfold State.beginExit
  simp only
  split
  · exact .aside rfl rfl (.inr rfl) rfl
  · split_ifs
    all_goals exact .aside rfl rfl (.inr rfl) rfl

theorem tableMoves_resumeContinuation
    {s after : State} {record : Nat} {resumption : Resumption}
    (resumed : s.resumeContinuation record resumption = some after) :
    TableMoves s (.continuation record resumption) after := by
  unfold State.resumeContinuation at resumed
  simp only at resumed
  split at resumed
  all_goals repeat' split at resumed
  all_goals cases resumed
  all_goals first
    | exact .aside rfl rfl (.inr rfl) rfl
    | exact .change (.inr ⟨rfl, rfl, .continuation record ‹_›⟩) (.inr rfl)
        rfl

theorem step_tableMoves
    {cfg : Config} {s after : State} {label : Label}
    (stepped : step cfg s label = some after) :
    TableMoves s label after := by
  cases label with
  | take message =>
      cases loop : s.loop with
      | idle =>
          simp only [step, loop, Option.some.injEq] at stepped
          subst stepped
          exact tableMoves_takeMessage cfg s message
      | _ => simp [step, loop] at stepped
  | consulted approved constructs =>
      cases loop : s.loop with
      | consulting spawn =>
          simp only [step, loop, Option.some.injEq] at stepped
          subst stepped
          unfold State.resumeConsulting
          split_ifs
          · exact .aside rfl rfl (.inl rfl) rfl
          · exact .onStop rfl rfl
          · exact .aside rfl rfl (.inl rfl) rfl
          · exact .aside rfl rfl (.inl rfl) rfl
      | _ => simp [step, loop] at stepped
  | loop resumption => exact tableMoves_resumeLoop stepped
  | exit agent resumption now constructs =>
      exact tableMoves_resumeExit stepped
  | continuation record resumption =>
      exact tableMoves_resumeContinuation stepped
  | child agent event =>
      simp only [step, State.childStep] at stepped
      repeat' split at stepped
      all_goals cases stepped
      all_goals exact .aside rfl rfl (.inr rfl) rfl
  | foreign name joins =>
      simp only [step, State.foreignStep] at stepped
      split at stepped
      all_goals cases stepped
      all_goals exact .aside rfl rfl (.inr rfl) rfl

theorem requested_of_takes
    {cfg : Config} {s after : State} {label : Label} {name : Name}
    {record : Nat}
    (stepped : step cfg s label = some after)
    (taken : Takes s label name)
    (entered : s.dynamicChildren.lookup name = some record) :
    after.requested (s.recAgent record) = true := by
  rcases taken with ⟨message, rfl, removal⟩
  cases loop : s.loop with
  | idle =>
      simp only [step, loop, Option.some.injEq] at stepped
      subst stepped
      exact requested_of_takeMessage removal entered
  | _ => simp [step, loop] at stepped

/-! ## How exit handlers move -/

/-- The message ends the loop. -/
def State.endedBy
    (cfg : Config) (s : State) (message : Message) : Bool :=
  let unhashable :=
    (field message.payload "name" (.str "")).key?.isNone
  match message.kind with
  | .shutdown => true
  | .spawn =>
      s.spawnDecision cfg message.payload (spawnerOf message.payload) = .raise
  | .despawn => unhashable
  | .stop =>
      !cfg.floats (field message.payload "timeout" (.int 30)) || unhashable
  | .other => false

/-- The await of the loop resumes in a way that ends it. -/
def State.escapes (s : State) (resumption : Resumption) : Bool :=
  match s.loop, resumption with
  | .auditing spawn _, .returned => spawn.spawner.key?.isNone
  | .stopAgentWaiting stop, .returned
  | .stopAgentCancelled stop, .returned =>
      s.task stop.agent = .done .raised
  | .stopCancelled _ task, .returned => s.task task = .done .raised
  | .stopWaiting _ task, .returned =>
      s.task task = .done .raised || s.task task = .done .cancelled
  | .stopCancelled _ _, .cancelled => true
  | .despawnWaiting _ _ _, _ | .stopAgentWaiting _, _
  | .stopAgentCancelled _, _ | .stopCancelled _ _, _
  | .stopping _ _, _ => false
  | _, .raised => true
  | _, .cancelled => true
  | _, _ => false

/-- The step ends the loop, after which `on_stop` runs. -/
def State.ends (cfg : Config) (s : State) : Label → Bool
  | .take message => s.endedBy cfg message
  | .consulted approved constructs => approved && !constructs
  | .loop resumption => s.escapes resumption
  | _ => false

/-- `on_stop` finds no more child to wait for, and cancels what is pending. -/
def State.gathers (cfg : Config) (s : State) (label : Label) : Bool :=
  match label, s.loop with
  | .loop _, .stopping remaining _ => (s.firstLive remaining).isNone
  | _, _ =>
      s.ends cfg label && (s.firstLive s.dynamicChildren.keys).isNone

/-- What a step does to the handling of an incarnation's exit. -/
inductive ExitChange
    (cfg : Config) (s : State) (label : Label) (after : State)
    (agent : Nat) : Prop where
  | same : after.exit agent = s.exit agent → ExitChange cfg s label after agent
  | own (resumption : Resumption) (now : Nat) (constructs : Bool) :
      label = .exit agent resumption now constructs →
        ExitChange cfg s label after agent
  | admitted (spawn : SpawnRequest) :
      label = .loop .returned →
      s.loop = .auditing spawn agent →
      after.exit agent = .watched →
        ExitChange cfg s label after agent
  | published (other record now : Nat) (constructs : Bool) :
      label = .exit other .returned now constructs →
      s.exit other = .starting record agent →
      after.exit agent = .watched →
        ExitChange cfg s label after agent
  | cancelled :
      s.gathers cfg label = true →
      after.exit agent = (s.exit agent).cancel →
        ExitChange cfg s label after agent

theorem exit_stopChildren (s : State) (names : List Name) (agent : Nat) :
    (s.stopChildren names).exit agent = s.exit agent ∨
      (s.firstLive names).isNone = true ∧
        (s.stopChildren names).exit agent = (s.exit agent).cancel := by
  simp only [State.stopChildren]
  cases found : s.firstLive names with
  | none => exact .inr ⟨rfl, rfl⟩
  | some first => exact .inl rfl

theorem firstLive_congr {s other : State}
    (tasks : other.childTasks = s.childTasks) (task : other.task = s.task)
    (names : List Name) : other.firstLive names = s.firstLive names := by
  induction names with
  | nil => rfl
  | cons name rest ih => simp only [State.firstLive, tasks, task, ih]

section ExitChange

variable {cfg : Config} {s after : State} {agent : Nat}

theorem exitChange_onStop
    {label : Label} {halting : State}
    (exit : halting.exit = s.exit)
    (table : halting.dynamicChildren = s.dynamicChildren)
    (tasks : halting.childTasks = s.childTasks)
    (task : halting.task = s.task)
    (running : ∀ remaining last, s.loop ≠ .stopping remaining last)
    (ends : s.ends cfg label = true) :
    ExitChange cfg s label halting.onStop agent := by
  rcases exit_stopChildren { halting with requested := fun _ => true }
      halting.dynamicChildren.keys agent with same | ⟨quiet, cancelled⟩
  · apply ExitChange.same
    rw [← exit]
    exact same
  · apply ExitChange.cancelled
    · have live :
          (State.firstLive { halting with requested := fun _ => true }
            halting.dynamicChildren.keys) =
          s.firstLive s.dynamicChildren.keys := by
        rw [table]
        apply firstLive_congr
        · exact tasks
        · exact task
      rw [live] at quiet
      unfold State.gathers
      split
      · exact absurd ‹_› (running _ _)
      · rw [ends, quiet]
        rfl
    · rw [← exit]
      exact cancelled

theorem exit_takeSpawn
    (cfg : Config) (s : State) (request : Request) (message : Message) :
    (s.takeSpawn cfg request message).exit = s.exit ∨
      s.takeSpawn cfg request message = s.fail ∧
        s.spawnDecision cfg message.payload (spawnerOf message.payload) =
          .raise := by
  unfold State.takeSpawn
  split
  · exact .inl rfl
  · exact .inr ⟨rfl, ‹_›⟩
  · exact .inl rfl

theorem exit_takeDespawn
    (s : State) (request : Request) (payload : Dict) :
    (s.takeDespawn request payload).exit = s.exit ∨
      s.takeDespawn request payload = s.fail ∧
        (field payload "name" (.str "")).key?.isNone = true := by
  unfold State.takeDespawn
  split
  · rename_i unhashable
    exact .inr ⟨rfl, by rw [unhashable]; rfl⟩
  · split
    · exact .inl rfl
    · simp only
      split
      · split_ifs
        · exact .inl rfl
        · exact .inl rfl
      · exact .inl rfl

theorem exit_afterStop (s : State) (stop : StopRequest) :
    (s.afterStop stop).exit = s.exit := by
  rcases afterStop_cases s stop with finished | ⟨task, _, _, waiting⟩
  · rw [finished]
    rfl
  · rw [waiting]

theorem exit_takeStop
    (cfg : Config) (s : State) (request : Request) (payload : Dict) :
    (s.takeStop cfg request payload).exit = s.exit ∨
      s.takeStop cfg request payload = s.fail ∧
        (!cfg.floats (field payload "timeout" (.int 30)) ||
          (field payload "name" (.str "")).key?.isNone) = true := by
  unfold State.takeStop
  split_ifs with malformed
  · exact .inr ⟨rfl, by rw [malformed]; rfl⟩
  · split
    · rename_i unhashable
      exact .inr ⟨rfl, by rw [unhashable]; exact Bool.or_true _⟩
    · split
      · exact .inl rfl
      · simp only
        split_ifs
        · exact .inl rfl
        · left
          exact exit_afterStop _ _

theorem exitChange_takeMessage
    (message : Message) (idle : s.loop = .idle) :
    ExitChange cfg s (.take message) (s.takeMessage cfg message) agent := by
  have running (remaining : List Name) (last : Nat) :
      s.loop ≠ .stopping remaining last := by
    rw [idle]
    simp
  have stops (ends : s.endedBy cfg message = true) (log : List Event) :
      ExitChange cfg s (.take message)
        (State.onStop { s.receive message with log := log }) agent :=
    exitChange_onStop rfl rfl rfl rfl running ends
  unfold State.takeMessage
  simp only
  split
  · rename_i shutdown
    apply stops
    simp only [State.endedBy, shutdown]
  · rename_i spawns
    rcases exit_takeSpawn cfg (s.receive message)
        ⟨s.requests, message.correlated⟩ message with same | ⟨failed, raises⟩
    · exact .same (congrFun same agent)
    · rw [failed]
      apply stops
      simp only [State.endedBy, spawns]
      exact decide_eq_true raises
  · rename_i despawns
    rcases exit_takeDespawn (s.receive message)
        ⟨s.requests, message.correlated⟩ message.payload with
      same | ⟨failed, raises⟩
    · exact .same (congrFun same agent)
    · rw [failed]
      apply stops
      simp only [State.endedBy, despawns]
      exact raises
  · rename_i stopping
    rcases exit_takeStop cfg (s.receive message)
        ⟨s.requests, message.correlated⟩ message.payload with
      same | ⟨failed, raises⟩
    · exact .same (congrFun same agent)
    · rw [failed]
      apply stops
      simp only [State.endedBy, stopping]
      exact raises
  · exact .same rfl

theorem exitChange_resumeConsulting
    {spawn : SpawnRequest} {approved constructs : Bool}
    (loop : s.loop = .consulting spawn) :
    ExitChange cfg s (.consulted approved constructs)
      (s.resumeConsulting spawn approved constructs) agent := by
  unfold State.resumeConsulting
  split_ifs with denied broken
  · exact .same rfl
  · apply exitChange_onStop
    · rfl
    · rfl
    · rfl
    · rfl
    · rw [loop]
      simp
    · simp only [State.ends, broken, Bool.and_true]
      simpa using denied
  · exact .same rfl
  · exact .same rfl

theorem exitChange_enroll
    {spawn : SpawnRequest} {child : Nat}
    (loop : s.loop = .auditing spawn child) :
    ExitChange cfg s (.loop .returned) (s.enroll spawn child) agent := by
  unfold State.enroll
  split
  · rename_i unhashable
    apply exitChange_onStop
    · rfl
    · rfl
    · rfl
    · rfl
    · rw [loop]
      simp
    · simp only [State.ends, State.escapes, loop, unhashable]
      rfl
  · by_cases same : agent = child
    · rw [same]
      refine .admitted spawn rfl loop ?_
      exact Function.update_self ..
    · apply ExitChange.same
      exact Function.update_of_ne same ..

theorem exitChange_resumeLoop
    {resumption : Resumption}
    (resumed : s.resumeLoop resumption = some after) :
    ExitChange cfg s (.loop resumption) after agent := by
  have stops {stage : LoopStage} {halting : State}
      (loop : s.loop = stage)
      (running : ∀ remaining last, stage ≠ .stopping remaining last)
      (ends : s.escapes resumption = true)
      (exit : halting.exit = s.exit)
      (table : halting.dynamicChildren = s.dynamicChildren)
      (tasks : halting.childTasks = s.childTasks)
      (task : halting.task = s.task) :
      ExitChange cfg s (.loop resumption) halting.onStop agent := by
    apply exitChange_onStop exit table tasks task
    · rw [loop]
      exact running
    · exact ends
  have gathers {remaining : List Name} {last : Nat}
      (loop : s.loop = .stopping remaining last) :
      ExitChange cfg s (.loop resumption) (s.stopChildren remaining) agent := by
    rcases exit_stopChildren s remaining agent with same | ⟨quiet, cancelled⟩
    · exact .same same
    · refine .cancelled ?_ cancelled
      simp only [State.gathers, loop]
      exact quiet
  unfold State.resumeLoop at resumed
  split at resumed
  all_goals rename_i loop
  all_goals repeat' split at resumed
  all_goals cases resumed
  all_goals first
    | exact .same rfl
    | exact gathers loop
    | exact exitChange_enroll loop
    | exact .same (congrFun (exit_afterStop s _) agent)
    | exact stops loop (by simp) (by simp [State.escapes, *]) rfl rfl rfl rfl

theorem exitChange_resumeExit
    {handler now : Nat} {resumption : Resumption} {constructs : Bool}
    (resumed :
      s.resumeExit cfg handler resumption now constructs = some after) :
    ExitChange cfg s (.exit handler resumption now constructs) after
      agent := by
  by_cases own : agent = handler
  · rw [own]
    exact .own resumption now constructs rfl
  · have elsewhere {stage : ExitStage} :
        update s.exit handler stage agent = s.exit agent :=
      Function.update_of_ne own ..
    have published {record fresh : Nat}
        (stage : s.exit handler = .starting record fresh) :
        ExitChange cfg s (.exit handler .returned now constructs)
          (s.publishFresh handler record fresh) agent := by
      by_cases same : agent = fresh
      · rw [same]
        refine .published handler record now constructs rfl stage ?_
        exact Function.update_self ..
      · apply ExitChange.same
        exact (Function.update_of_ne same ..).trans elsewhere
    unfold State.resumeExit at resumed
    simp only at resumed
    split at resumed
    all_goals repeat' split at resumed
    all_goals cases resumed
    all_goals first
      | exact .same elsewhere
      | exact published ‹_›
      | skip
    apply ExitChange.same
    unfold State.beginExit
    simp only
    split
    · exact elsewhere
    · split_ifs
      all_goals exact elsewhere

theorem exit_of_step
    {label : Label} (stepped : step cfg s label = some after) (agent : Nat) :
    ExitChange cfg s label after agent := by
  cases label with
  | take message =>
      cases loop : s.loop with
      | idle =>
          simp only [step, loop, Option.some.injEq] at stepped
          subst stepped
          exact exitChange_takeMessage message loop
      | _ => simp [step, loop] at stepped
  | consulted approved constructs =>
      cases loop : s.loop with
      | consulting spawn =>
          simp only [step, loop, Option.some.injEq] at stepped
          subst stepped
          exact exitChange_resumeConsulting loop
      | _ => simp [step, loop] at stepped
  | loop resumption => exact exitChange_resumeLoop stepped
  | exit handler resumption now constructs =>
      exact exitChange_resumeExit stepped
  | continuation record resumption =>
      simp only [step, State.resumeContinuation] at stepped
      repeat' split at stepped
      all_goals cases stepped
      all_goals exact .same rfl
  | child other event =>
      simp only [step, State.childStep] at stepped
      repeat' split at stepped
      all_goals cases stepped
      all_goals exact .same rfl
  | foreign name joins =>
      simp only [step, State.foreignStep] at stepped
      split at stepped
      all_goals cases stepped
      all_goals exact .same rfl

end ExitChange

theorem noticeStage_cases (s : State) (agent : Nat) :
    s.noticeStage agent = .finished ∨
      ∃ spawner, s.noticeStage agent = .notifying spawner := by
  unfold State.noticeStage
  split
  · rename_i spawner named
    split_ifs
    · exact .inr ⟨spawner, rfl⟩
    · exact .inl rfl
  · exact .inl rfl

theorem afterCleanup_cases
    (s : State) (agent : Nat) (cause : CleanupCause) :
    s.afterCleanup agent cause = .finished ∨
      ∃ spawner, s.afterCleanup agent cause = .notifying spawner := by
  unfold State.afterCleanup
  split
  · split_ifs
    · exact noticeStage_cases s agent
    · exact .inl rfl
  · exact noticeStage_cases s agent

/-! ## What the loop leaves alone -/

/-- The attributes of children that the loop does not touch. -/
structure Frame (s after : State) : Prop where
  task : after.task = s.task
  status : after.status = s.status
  acknowledged : after.acknowledged = s.acknowledged
  recTask : after.recTask = s.recTask
  spawnRequest : after.spawnRequest = s.spawnRequest
  continuation : ∀ record, (after.continuation record).acting = true →
    (s.continuation record).acting = true

/-- The step is one of the loop. -/
def Label.ofLoop : Label → Bool
  | .take _ | .consulted _ _ | .loop _ => true
  | _ => false

section Frame

variable {cfg : Config} {s after : State}

theorem Frame.stopChildren {halting : State} (frame : Frame s halting)
    (names : List Name) : Frame s (halting.stopChildren names) := by
  refine
    ⟨frame.task, frame.status, frame.acknowledged, frame.recTask,
      frame.spawnRequest, ?_⟩
  intro record acts
  simp only [State.stopChildren] at acts
  split_ifs at acts
  · exact frame.continuation record acts
  · have stopped : (halting.continuation record).cancel.acting = true := acts
    generalize halting.continuation record = stage at stopped
    cases stage <;> cases stopped

theorem Frame.onStop {halting : State} (frame : Frame s halting) :
    Frame s halting.onStop := by
  unfold State.onStop
  apply Frame.stopChildren
  exact
    ⟨frame.task, frame.status, frame.acknowledged, frame.recTask,
      frame.spawnRequest, frame.continuation⟩

theorem Frame.afterStop {halting : State} (frame : Frame s halting)
    (stop : StopRequest) : Frame s (halting.afterStop stop) := by
  rcases afterStop_cases halting stop with finished | ⟨task, _, _, waiting⟩
  · rw [finished]
    exact
      ⟨frame.task, frame.status, frame.acknowledged, frame.recTask,
        frame.spawnRequest, frame.continuation⟩
  · rw [waiting]
    exact
      ⟨frame.task, frame.status, frame.acknowledged, frame.recTask,
        frame.spawnRequest, frame.continuation⟩

theorem frame_takeMessage (cfg : Config) (s : State) (message : Message) :
    Frame s (s.takeMessage cfg message) := by
  have received : Frame s (s.receive message) :=
    ⟨rfl, rfl, rfl, rfl, rfl, fun _ acts => acts⟩
  unfold State.takeMessage
  simp only
  split
  · exact received.onStop
  · unfold State.takeSpawn
    split
    · exact ⟨rfl, rfl, rfl, rfl, rfl, fun _ acts => acts⟩
    · exact Frame.onStop ⟨rfl, rfl, rfl, rfl, rfl, fun _ acts => acts⟩
    · exact ⟨rfl, rfl, rfl, rfl, rfl, fun _ acts => acts⟩
  · unfold State.takeDespawn
    split
    · exact Frame.onStop ⟨rfl, rfl, rfl, rfl, rfl, fun _ acts => acts⟩
    · split
      · exact ⟨rfl, rfl, rfl, rfl, rfl, fun _ acts => acts⟩
      · simp only
        split
        · split_ifs
          · exact ⟨rfl, rfl, rfl, rfl, rfl, fun _ acts => acts⟩
          · exact ⟨rfl, rfl, rfl, rfl, rfl, fun _ acts => acts⟩
        · exact ⟨rfl, rfl, rfl, rfl, rfl, fun _ acts => acts⟩
  · unfold State.takeStop
    split_ifs
    · exact Frame.onStop ⟨rfl, rfl, rfl, rfl, rfl, fun _ acts => acts⟩
    · split
      · exact Frame.onStop ⟨rfl, rfl, rfl, rfl, rfl, fun _ acts => acts⟩
      · split
        · exact ⟨rfl, rfl, rfl, rfl, rfl, fun _ acts => acts⟩
        · simp only
          split_ifs
          · exact ⟨rfl, rfl, rfl, rfl, rfl, fun _ acts => acts⟩
          · apply Frame.afterStop
            exact ⟨rfl, rfl, rfl, rfl, rfl, fun _ acts => acts⟩
  · exact received

theorem frame_enroll
    {spawn : SpawnRequest} {agent : Nat}
    (loop : s.loop = .auditing spawn agent) :
    Frame s (s.enroll spawn agent) ∨
      ∃ spawn' agent' spawner, s.loop = .auditing spawn' agent' ∧
        Resumption.returned = .returned ∧
        spawn'.spawner.key? = some spawner ∧
        s.enroll spawn agent = s.enroll spawn' agent' := by
  cases keyed : spawn.spawner.key? with
  | none =>
      left
      simp only [State.enroll, keyed]
      exact Frame.onStop ⟨rfl, rfl, rfl, rfl, rfl, fun _ acts => acts⟩
  | some spawner =>
      exact .inr ⟨spawn, agent, spawner, loop, rfl, keyed, rfl⟩

theorem frame_resumeLoop
    {resumption : Resumption}
    (resumed : s.resumeLoop resumption = some after) :
    Frame s after ∨
      ∃ spawn agent spawner, s.loop = .auditing spawn agent ∧
        resumption = .returned ∧ spawn.spawner.key? = some spawner ∧
        after = s.enroll spawn agent := by
  unfold State.resumeLoop at resumed
  split at resumed
  all_goals rename_i loop
  all_goals repeat' split at resumed
  all_goals cases resumed
  all_goals first
    | exact frame_enroll loop
    | exact .inl (Frame.onStop ⟨rfl, rfl, rfl, rfl, rfl, fun _ acts => acts⟩)
    | exact .inl
        (Frame.afterStop ⟨rfl, rfl, rfl, rfl, rfl, fun _ acts => acts⟩ _)
    | exact .inl
        (Frame.stopChildren ⟨rfl, rfl, rfl, rfl, rfl, fun _ acts => acts⟩ _)
    | exact .inl ⟨rfl, rfl, rfl, rfl, rfl, fun _ acts => acts⟩

/-- A step of the loop admits a child or leaves the children alone. -/
theorem frame_of_step
    {label : Label} (stepped : step cfg s label = some after)
    (own : label.ofLoop = true) :
    Frame s after ∨
      ∃ spawn agent spawner, s.loop = .auditing spawn agent ∧
        label = .loop .returned ∧ spawn.spawner.key? = some spawner ∧
        after = s.enroll spawn agent := by
  cases label with
  | take message =>
      cases loop : s.loop with
      | idle =>
          simp only [step, loop, Option.some.injEq] at stepped
          subst stepped
          exact .inl (frame_takeMessage cfg s message)
      | _ => simp [step, loop] at stepped
  | consulted approved constructs =>
      cases loop : s.loop with
      | consulting spawn =>
          simp only [step, loop, Option.some.injEq] at stepped
          subst stepped
          left
          unfold State.resumeConsulting
          split_ifs
          · exact ⟨rfl, rfl, rfl, rfl, rfl, fun _ acts => acts⟩
          · exact Frame.onStop ⟨rfl, rfl, rfl, rfl, rfl, fun _ acts => acts⟩
          · exact ⟨rfl, rfl, rfl, rfl, rfl, fun _ acts => acts⟩
          · exact ⟨rfl, rfl, rfl, rfl, rfl, fun _ acts => acts⟩
      | _ => simp [step, loop] at stepped
  | loop resumption =>
      rcases frame_resumeLoop stepped with
        frame | ⟨spawn, agent, spawner, loop, rfl, admitted⟩
      · exact .inl frame
      · exact .inr ⟨spawn, agent, spawner, loop, rfl, admitted⟩
  | _ => cases own

end Frame

/-- What only the loop writes. -/
structure LoopRests (s after : State) : Prop where
  loop : after.loop = s.loop
  requested : after.requested = s.requested
  requests : after.requests = s.requests
  spawnRequest : after.spawnRequest = s.spawnRequest

theorem loopRests_of_step
    {cfg : Config} {s after : State} {label : Label}
    (stepped : step cfg s label = some after)
    (other : label.ofLoop = false) :
    LoopRests s after := by
  cases label with
  | take message => cases other
  | consulted approved constructs => cases other
  | loop resumption => cases other
  | exit agent resumption now constructs =>
      simp only [step, State.resumeExit] at stepped
      repeat' split at stepped
      all_goals cases stepped
      all_goals first
        | exact ⟨rfl, rfl, rfl, rfl⟩
        | skip
      unfold State.beginExit
      simp only
      repeat' split
      all_goals exact ⟨rfl, rfl, rfl, rfl⟩
  | continuation record resumption =>
      simp only [step, State.resumeContinuation] at stepped
      repeat' split at stepped
      all_goals cases stepped
      all_goals exact ⟨rfl, rfl, rfl, rfl⟩
  | child agent event =>
      simp only [step, State.childStep] at stepped
      repeat' split at stepped
      all_goals cases stepped
      all_goals exact ⟨rfl, rfl, rfl, rfl⟩
  | foreign name joins =>
      simp only [step, State.foreignStep] at stepped
      split at stepped
      all_goals cases stepped
      all_goals exact ⟨rfl, rfl, rfl, rfl⟩

/-! ## How continuations move -/

section Continuations

variable {cfg : Config} {s after : State} {label : Label}

/-- The step keeps continuations, or cancels them because the loop ends. -/
def Continues (cfg : Config) (s : State) (label : Label) (after : State) :
    Prop :=
  after.continuation = s.continuation ∨
    s.gathers cfg label = true ∧ after.loop = .gathering ∧
      after.continuation = fun record => (s.continuation record).cancel

/-- The step admits a child. -/
def Admits (s : State) (label : Label) (after : State) : Prop :=
  ∃ spawn agent spawner, s.loop = .auditing spawn agent ∧
    label = .loop .returned ∧ spawn.spawner.key? = some spawner ∧
    after = s.enroll spawn agent

theorem continues_stopChildren (s : State) (names : List Name) :
    (s.stopChildren names).continuation = s.continuation ∨
      (s.firstLive names).isNone = true ∧
        (s.stopChildren names).loop = .gathering ∧
        (s.stopChildren names).continuation =
          fun record => (s.continuation record).cancel := by
  simp only [State.stopChildren]
  cases found : s.firstLive names with
  | none => exact .inr ⟨rfl, rfl, rfl⟩
  | some first => exact .inl rfl

theorem continues_onStop
    {halting : State}
    (continuation : halting.continuation = s.continuation)
    (table : halting.dynamicChildren = s.dynamicChildren)
    (tasks : halting.childTasks = s.childTasks)
    (task : halting.task = s.task)
    (running : ∀ remaining last, s.loop ≠ .stopping remaining last)
    (ends : s.ends cfg label = true) :
    Continues cfg s label halting.onStop := by
  rcases continues_stopChildren { halting with requested := fun _ => true }
      halting.dynamicChildren.keys with same | ⟨quiet, halted, cancelled⟩
  · left
    rw [← continuation]
    exact same
  · right
    refine ⟨?_, halted, ?_⟩
    · have live :
          State.firstLive { halting with requested := fun _ => true }
              halting.dynamicChildren.keys =
            s.firstLive s.dynamicChildren.keys := by
        rw [table]
        apply firstLive_congr
        · exact tasks
        · exact task
      rw [live] at quiet
      unfold State.gathers
      split
      · exact absurd ‹_› (running _ _)
      · rw [ends, quiet]
        rfl
    · rw [← continuation]
      exact cancelled

theorem continuation_afterStop (s : State) (stop : StopRequest) :
    (s.afterStop stop).continuation = s.continuation := by
  rcases afterStop_cases s stop with finished | ⟨task, _, _, waiting⟩
  · rw [finished]
    rfl
  · rw [waiting]

theorem continues_takeMessage
    (message : Message) (idle : s.loop = .idle) :
    Continues cfg s (.take message) (s.takeMessage cfg message) := by
  have running (remaining : List Name) (last : Nat) :
      s.loop ≠ .stopping remaining last := by
    rw [idle]
    simp
  have stops (ends : s.endedBy cfg message = true) (log : List Event) :
      Continues cfg s (.take message)
        (State.onStop { s.receive message with log := log }) :=
    continues_onStop rfl rfl rfl rfl running ends
  unfold State.takeMessage
  simp only
  split
  · rename_i shutdown
    apply stops
    simp only [State.endedBy, shutdown]
  · rename_i spawns
    unfold State.takeSpawn
    split
    · exact .inl rfl
    · rename_i raises
      apply stops
      simp only [State.endedBy, spawns]
      exact decide_eq_true raises
    · exact .inl rfl
  · rename_i despawns
    unfold State.takeDespawn
    split
    · rename_i unhashable
      apply stops
      simp only [State.endedBy, despawns, unhashable]
      rfl
    · split
      · exact .inl rfl
      · simp only
        repeat' split
        all_goals exact .inl rfl
  · rename_i stopping
    unfold State.takeStop
    split_ifs with malformed
    · apply stops
      simp only [State.endedBy, stopping, malformed, Bool.true_or]
    · split
      · rename_i unhashable
        apply stops
        simp only [State.endedBy, stopping, unhashable]
        exact Bool.or_true _
      · split
        · exact .inl rfl
        · simp only
          split_ifs
          · exact .inl rfl
          · exact .inl (continuation_afterStop _ _)
  · exact .inl rfl

theorem continues_enroll
    {spawn : SpawnRequest} {agent : Nat}
    (loop : s.loop = .auditing spawn agent) :
    Continues cfg s (.loop .returned) (s.enroll spawn agent) ∨
      Admits s (.loop .returned) (s.enroll spawn agent) := by
  cases key : spawn.spawner.key? with
  | some spawner => exact .inr ⟨spawn, agent, spawner, loop, rfl, key, rfl⟩
  | none =>
      left
      simp only [State.enroll, key]
      apply continues_onStop
      · rfl
      · rfl
      · rfl
      · rfl
      · rw [loop]
        simp
      · simp [State.ends, State.escapes, loop, key]

theorem continues_resumeLoop
    {resumption : Resumption}
    (resumed : s.resumeLoop resumption = some after) :
    Continues cfg s (.loop resumption) after ∨
      Admits s (.loop resumption) after := by
  have stops {stage : LoopStage} {halting : State}
      (loop : s.loop = stage)
      (running : ∀ remaining last, stage ≠ .stopping remaining last)
      (ends : s.escapes resumption = true)
      (continuation : halting.continuation = s.continuation)
      (table : halting.dynamicChildren = s.dynamicChildren)
      (tasks : halting.childTasks = s.childTasks)
      (task : halting.task = s.task) :
      Continues cfg s (.loop resumption) halting.onStop := by
    apply continues_onStop continuation table tasks task
    · rw [loop]
      exact running
    · exact ends
  have gathers {remaining : List Name} {last : Nat}
      (loop : s.loop = .stopping remaining last) :
      Continues cfg s (.loop resumption) (s.stopChildren remaining) := by
    rcases continues_stopChildren s remaining with
      same | ⟨quiet, halted, cancelled⟩
    · exact .inl same
    · refine .inr ⟨?_, halted, cancelled⟩
      simp only [State.gathers, loop]
      exact quiet
  unfold State.resumeLoop at resumed
  split at resumed
  all_goals rename_i loop
  all_goals repeat' split at resumed
  all_goals cases resumed
  all_goals first
    | exact .inl (.inl rfl)
    | exact .inl (gathers loop)
    | exact continues_enroll loop
    | exact .inl (.inl (continuation_afterStop s _))
    | exact
        .inl
          (stops loop (by simp) (by simp [State.escapes, *]) rfl rfl rfl rfl)

/-- What a step of the loop does to continuations. -/
theorem continues_of_loop
    (stepped : step cfg s label = some after) (own : label.ofLoop = true) :
    Continues cfg s label after ∨ Admits s label after := by
  cases label with
  | take message =>
      cases loop : s.loop with
      | idle =>
          simp only [step, loop, Option.some.injEq] at stepped
          subst stepped
          exact .inl (continues_takeMessage message loop)
      | _ => simp [step, loop] at stepped
  | consulted approved constructs =>
      cases loop : s.loop with
      | consulting spawn =>
          simp only [step, loop, Option.some.injEq] at stepped
          subst stepped
          left
          unfold State.resumeConsulting
          split_ifs with denied broken
          · exact .inl rfl
          · apply continues_onStop
            · rfl
            · rfl
            · rfl
            · rfl
            · rw [loop]
              simp
            · simp only [State.ends, broken, Bool.and_true]
              simpa using denied
          · exact .inl rfl
          · exact .inl rfl
      | _ => simp [step, loop] at stepped
  | loop resumption => exact continues_resumeLoop stepped
  | _ => cases own

/-- Another task moves no continuation but its own. -/
theorem continuation_of_aside
    {record : Nat} (stepped : step cfg s label = some after)
    (other : label.ofLoop = false)
    (foreign : ∀ resumption, label ≠ .continuation record resumption) :
    after.continuation record = s.continuation record := by
  cases label with
  | continuation own resumption =>
      have apart : record ≠ own := by
        intro same
        exact foreign resumption (by rw [same])
      simp only [step, State.resumeContinuation] at stepped
      repeat' split at stepped
      all_goals cases stepped
      all_goals exact Function.update_of_ne apart ..
  | exit agent resumption now constructs =>
      simp only [step, State.resumeExit] at stepped
      repeat' split at stepped
      all_goals cases stepped
      all_goals first
        | rfl
        | skip
      unfold State.beginExit
      simp only
      repeat' split
      all_goals rfl
  | child agent event =>
      simp only [step, State.childStep] at stepped
      repeat' split at stepped
      all_goals cases stepped
      all_goals rfl
  | foreign name joins =>
      simp only [step, State.foreignStep] at stepped
      split at stepped
      all_goals cases stepped
      all_goals rfl
  | _ => cases other

end Continuations

end Civitas.Dynamic
