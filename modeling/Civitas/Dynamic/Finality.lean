import Civitas.Dynamic.Observations
import Civitas.Dynamic.Tracking

/-!
# Removals are final

A despawn or a stop is answered with ok when its child is gone.  In the runs
of the module on children on record, nothing runs under the name from then on
until it is spawned again, every removal is answered once, and what runs off
record is only an incarnation whose handler waits for its start.
-/

namespace Civitas.Dynamic

open Civitas.PyValue
open Civitas.Transition
open Function (update)

/-! ## What is expected -/

/-- The last event about the name, newest first, is an answered removal. -/
def closed (name : Name) : List Event → Bool
  | [] => false
  | .answered _ (.removed removed) :: older =>
      removed = name || closed name older
  | .spawned _ spawned _ _ :: older =>
      spawned ≠ name && closed name older
  | _ :: older => closed name older

/-- Once a removal is answered, nothing runs until the next spawn. -/
def RemovalsFinal (s : State) : Prop :=
  ∀ name, closed name s.log = true →
    ∀ agent, s.agentName agent = name → s.task agent ≠ .live

/-- Every running child is the task on record for its name. -/
def TasksRecorded (s : State) : Prop :=
  ∀ agent, s.task agent = .live →
    s.dynamicChildren.lookup (s.agentName agent) = some (s.home agent) ∧
      s.recTask (s.home agent) = agent ∧
      s.childTasks (s.agentName agent) = some agent

/-- The event is the answer to a request. -/
def Event.answers (id : Nat) : Event → Bool
  | .answered other _ => other = id
  | _ => false

/-- The task whose end the loop waits for. -/
def LoopStage.awaits? : LoopStage → Option Nat
  | .despawnWaiting _ _ task | .stopWaiting _ task
  | .stopCancelled _ task => some task
  | .stopAgentWaiting stop | .stopAgentCancelled stop => some stop.agent
  | _ => none

/-- The steps that a removal has ahead of it. -/
def LoopStage.ahead : LoopStage → Nat
  | .stopPosting _ => 7
  | .stopAgentWaiting _ => 6
  | .stopAgentCancelled _ => 5
  | .despawnWaiting _ _ _ | .stopWaiting _ _ => 4
  | .despawnClearing _ _ | .stopCancelled _ _ => 3
  | .removing _ _ => 2
  | .replying _ _ => 1
  | _ => 0

/-- The step takes a despawn or a stop. -/
def Label.takesRemoval : Label → Bool
  | .take message => message.kind = .despawn || message.kind = .stop
  | _ => false

/-- Removals are answered once and do not end the loop. -/
structure RemovalsServed
    (cfg : Config) (permits : State → Label → Prop) (s : State) : Prop where
  unanswered : ∀ id, s.loop.serves? = some ⟨id, true⟩ →
    s.log.filter (Event.answers id) = []
  answered : ∀ id, Event.tookRemoval id ∈ s.log →
    s.loop.serves? ≠ some ⟨id, true⟩ →
      (s.log.filter (Event.answers id)).length = 1
  survives : ∀ label after, permits s label →
    step cfg s label = some after →
    label.takesRemoval = true ∨ s.loop.serves?.isSome = true →
      after.loop.halted = false
  proceeds : s.loop.serves?.isSome = true →
    (∀ task, s.loop.awaits? = some task →
      ∃ outcome, s.task task = .done outcome) →
        permits s (.loop .returned) ∧
          (step cfg s (.loop .returned)).isSome = true
  advances : ∀ request label after, permits s label →
    step cfg s label = some after → label.ofLoop = true →
    s.loop.serves? = some request →
      after.loop.ahead < s.loop.ahead ∧
        (after.loop.serves? = some request ∨
          ∃ answer, after = s.answer request answer)

/-! ## Stages of the loop -/

/-- The request of the spawn that the loop works on. -/
def LoopStage.spawns? : LoopStage → Option Request
  | .consulting spawn | .subscribing spawn _ | .auditing spawn _ =>
      some spawn.request
  | .replying request answer =>
      if answer.ofRemoval then none else some request
  | _ => none

/-- The name whose removal the loop is about to answer. -/
def LoopStage.confirms? : LoopStage → Option Name
  | .replying _ (.removed name) => some name
  | _ => none

/-- What would upset the loop in a stage has not happened before it. -/
def Undisturbed (s : State) (stage : LoopStage) : Prop :=
  ∀ agent outcome, stage.upsetBy agent outcome = true →
    s.task agent = .live ∨ s.upsets agent outcome = true

theorem undisturbed_of_never
    {s : State} {stage : LoopStage}
    (never : ∀ agent outcome, stage.upsetBy agent outcome = false) :
    Undisturbed s stage := by
  intro agent outcome upset
  rw [never agent outcome] at upset
  cases upset

/-- How the loop moves from stage to stage. -/
inductive StageMoves (cfg : Config) (s : State) :
    Label → LoopStage → Prop where
  | halts {label : Label} {stage : LoopStage} :
      s.ends cfg label = true ∨ s.loop.halted = true →
      stage.halted = true →
        StageMoves cfg s label stage
  | ignores (message : Message) :
      message.kind = .other → StageMoves cfg s (.take message) .idle
  | consults (message : Message) (spawn : SpawnRequest) :
      message.kind = .spawn →
      spawn.request = ⟨s.requests, message.correlated⟩ →
        StageMoves cfg s (.take message) (.consulting spawn)
  | refuses (message : Message) (answer : Answer) :
      message.kind = .spawn →
      answer.ofRemoval = false →
        StageMoves cfg s (.take message)
          (.replying ⟨s.requests, message.correlated⟩ answer)
  | denies {approved constructs : Bool} (spawn : SpawnRequest)
      (answer : Answer) :
      s.loop = .consulting spawn →
      answer.ofRemoval = false →
        StageMoves cfg s (.consulted approved constructs)
          (.replying spawn.request answer)
  | claims {approved constructs : Bool} (spawn : SpawnRequest)
      (agent : Nat) :
      s.loop = .consulting spawn →
        StageMoves cfg s (.consulted approved constructs)
          (.subscribing spawn agent)
  | subscribes (spawn : SpawnRequest) (agent : Nat) :
      s.loop = .subscribing spawn agent →
        StageMoves cfg s (.loop .returned) (.auditing spawn agent)
  | admits (spawn : SpawnRequest) (agent : Nat) :
      s.loop = .auditing spawn agent →
        StageMoves cfg s (.loop .returned) .idle
  | acknowledges (spawn : SpawnRequest) (agent : Nat) :
      s.loop = .auditing spawn agent →
        StageMoves cfg s (.loop .returned) (.replying spawn.request .ok)
  | begins (message : Message) (stage : LoopStage) :
      message.kind = .despawn ∨ message.kind = .stop →
      stage.serves? = some ⟨s.requests, message.correlated⟩ →
      Undisturbed s stage →
      stage.confirms? = none →
        StageMoves cfg s (.take message) stage
  | goesOn (resumption : Resumption) (request : Request)
      (stage : LoopStage) :
      s.loop.serves? = some request →
      stage.serves? = some request →
      stage.ahead < s.loop.ahead →
      Undisturbed s stage →
      (∀ name, stage.confirms? = some name →
        s.loop = .removing request name) →
        StageMoves cfg s (.loop resumption) stage
  | replies (request : Request) (answer : Answer) :
      s.loop = .replying request answer →
        StageMoves cfg s (.loop .returned) .idle

section StageMoves

variable {cfg : Config} {s after : State} {label : Label}

theorem halted_stopChildren (s : State) (names : List Name) :
    (s.stopChildren names).loop.halted = true := by
  simp only [State.stopChildren]
  split
  · rfl
  · rfl

theorem spawnerLimit_refusal
    {spawner : Value} {reason : Refusal}
    (refused : s.spawnerLimit cfg spawner = some (some reason)) :
    reason ≠ .noDynamicAgent := by
  unfold State.spawnerLimit at refused
  simp only at refused
  split_ifs at refused
  · cases refused
    simp
  · cases refused
  · rcases Option.map_eq_some_iff.mp refused with ⟨key, _, found⟩
    split_ifs at found
    cases found
    simp

theorem classAllowed_refusal
    {classPath spawner : Value} {reason : Refusal}
    (refused : classAllowed cfg classPath spawner = some (some reason)) :
    reason ≠ .noDynamicAgent := by
  unfold classAllowed at refused
  split at refused
  · split_ifs at refused
    · cases refused
      simp
    · cases refused
      simp
    · split at refused
      · cases refused
      · rcases Option.map_eq_some_iff.mp refused with ⟨key, _, found⟩
        split_ifs at found
        cases found
        simp
  · cases refused

/-- No answer to a spawn looks like an answer to a removal. -/
theorem spawnDecision_answer
    {payload : Dict} {spawner : Value} {answer : Answer}
    (decided : s.spawnDecision cfg payload spawner = .reply answer) :
    answer.ofRemoval = false := by
  have refuses {reason : Refusal} (other : reason ≠ .noDynamicAgent) :
      (Answer.error reason).ofRemoval = false := by
    cases reason <;> first | rfl | exact absurd rfl other
  unfold State.spawnDecision at decided
  split at decided
  · cases decided
  · split at decided
    · simp only at decided
      split_ifs at decided
      · cases decided
        rfl
      · cases decided
        rfl
    · split_ifs at decided
      · cases decided
        rfl
      · cases decided
        rfl
      · cases decided
        rfl
      · split at decided
        · cases decided
        · rename_i reason limited
          cases decided
          exact refuses (spawnerLimit_refusal limited)
        · split at decided
          · cases decided
          · rename_i reason refused
            cases decided
            exact refuses (classAllowed_refusal refused)
          · cases decided

theorem stage_afterStop
    (stop : StopRequest) {before : State} (task : before.task = s.task) :
    (before.afterStop stop).loop.serves? = some stop.request ∧
      (before.afterStop stop).loop.ahead ≤ 4 ∧
      Undisturbed s (before.afterStop stop).loop ∧
      (before.afterStop stop).loop.confirms? = none := by
  rcases afterStop_cases before stop with
    finished | ⟨awaited, _, live, waiting⟩
  · rw [finished]
    exact ⟨rfl, Nat.le_of_ble_eq_true rfl,
      undisturbed_of_never fun _ _ => rfl, rfl⟩
  · rw [waiting]
    refine ⟨rfl, Nat.le_refl _, ?_, rfl⟩
    intro other outcome upset
    have same : awaited = other := by
      simp only [LoopStage.upsetBy, Bool.and_eq_true,
        decide_eq_true_eq] at upset
      exact upset.1
    left
    rw [← task, ← same]
    exact live

theorem begins_afterStop
    {message : Message} {stop : StopRequest} {before : State}
    (stops : message.kind = .stop)
    (request : stop.request = ⟨s.requests, message.correlated⟩)
    (task : before.task = s.task) :
    StageMoves cfg s (.take message) (before.afterStop stop).loop := by
  rcases stage_afterStop stop task with ⟨serves, _, undisturbed, confirms⟩
  rw [request] at serves
  exact .begins message _ (.inr stops) serves undisturbed confirms

theorem stage_takeMessage (message : Message) (idle : s.loop = .idle) :
    StageMoves cfg s (.take message) (s.takeMessage cfg message).loop := by
  have halts (halting : State) (names : List Name)
      (ends : s.endedBy cfg message = true) :
      StageMoves cfg s (.take message) (halting.stopChildren names).loop :=
    .halts (.inl ends) (halted_stopChildren halting names)
  unfold State.takeMessage
  simp only
  split
  · rename_i shutdown
    apply halts
    simp only [State.endedBy, shutdown]
  · rename_i spawns
    unfold State.takeSpawn
    split
    · rename_i answer decided
      exact .refuses message answer spawns (spawnDecision_answer decided)
    · rename_i raises
      apply halts
      simp only [State.endedBy, spawns]
      exact decide_eq_true raises
    · exact .consults message _ spawns rfl
  · rename_i despawns
    have begins {stage : LoopStage}
        (serves : stage.serves? = some ⟨s.requests, message.correlated⟩)
        (never : ∀ agent outcome, stage.upsetBy agent outcome = false)
        (confirms : stage.confirms? = none) :
        StageMoves cfg s (.take message) stage :=
      .begins message stage (.inl despawns) serves
        (undisturbed_of_never never) confirms
    unfold State.takeDespawn
    split
    · rename_i unhashable
      apply halts
      simp only [State.endedBy, despawns, unhashable, Option.isNone_none]
    · split
      · exact begins rfl (fun _ _ => rfl) rfl
      · simp only
        split
        · split_ifs
          · exact begins rfl (fun _ _ => rfl) rfl
          · exact begins rfl (fun _ _ => rfl) rfl
        · exact begins rfl (fun _ _ => rfl) rfl
  · rename_i stops
    unfold State.takeStop
    split_ifs with malformed
    · apply halts
      simp only [State.endedBy, stops, malformed, Bool.true_or]
    · split
      · rename_i unhashable
        apply halts
        simp only [State.endedBy, stops, unhashable, Option.isNone_none,
          Bool.or_true]
      · split
        · exact .begins message _ (.inr stops) rfl
            (undisturbed_of_never fun _ _ => rfl) rfl
        · simp only
          split_ifs
          · exact .begins message _ (.inr stops) rfl
              (undisturbed_of_never fun _ _ => rfl) rfl
          · apply begins_afterStop stops
            · rfl
            · rfl
  · rename_i other
    have same : (s.receive message).loop = .idle := idle
    rw [same]
    exact .ignores message other

theorem stage_resumeLoop
    {resumption : Resumption}
    (resumed : s.resumeLoop resumption = some after) :
    StageMoves cfg s (.loop resumption) after.loop := by
  have ends {halting : State} {names : List Name}
      (escapes : s.escapes resumption = true) :
      StageMoves cfg s (.loop resumption) (halting.stopChildren names).loop :=
    .halts (.inl escapes) (halted_stopChildren halting names)
  have serving {stage : LoopStage} {request : Request}
      (loop : s.loop = stage) (serves : stage.serves? = some request) :
      s.loop.serves? = some request := by
    rw [loop]
    exact serves
  have goesOn {from_ stage : LoopStage} {request : Request}
      (loop : s.loop = from_) (serves : from_.serves? = some request)
      (stays : stage.serves? = some request)
      (nearer : stage.ahead < from_.ahead)
      (milder : ∀ agent outcome, stage.upsetBy agent outcome = true →
        from_.upsetBy agent outcome = true)
      (confirms : stage.confirms? = none) :
      StageMoves cfg s (.loop resumption) stage := by
    refine .goesOn resumption request stage (serving loop serves) stays ?_ ?_
      ?_
    · rw [loop]
      exact nearer
    · intro agent outcome upset
      right
      unfold State.upsets
      rw [loop]
      exact milder agent outcome upset
    · intro name found
      rw [confirms] at found
      cases found
  have stops {from_ : LoopStage} {stop : StopRequest}
      (loop : s.loop = from_) (serves : from_.serves? = some stop.request)
      (far : 4 < from_.ahead) :
      StageMoves cfg s (.loop resumption) (s.afterStop stop).loop := by
    rcases stage_afterStop (s := s) stop rfl with
      ⟨stays, near, undisturbed, confirms⟩
    refine .goesOn resumption stop.request _ (serving loop serves) stays ?_
      undisturbed ?_
    · rw [loop]
      exact Nat.lt_of_le_of_lt near far
    · intro name found
      rw [confirms] at found
      cases found
  unfold State.resumeLoop at resumed
  split at resumed
  all_goals rename_i loop
  all_goals repeat' split at resumed
  all_goals cases resumed
  all_goals first
    | exact .subscribes _ _ loop
    | exact .replies _ _ loop
    | exact stops loop rfl (of_decide_eq_true rfl)
    | exact goesOn loop rfl rfl (of_decide_eq_true rfl)
        (fun _ _ upset => absurd upset Bool.false_ne_true) rfl
    | exact goesOn loop rfl rfl (of_decide_eq_true rfl)
        (fun _ _ upset => upset) rfl
    | exact .halts (.inr (loop ▸ rfl)) (halted_stopChildren _ _)
    | exact .halts (.inr (loop ▸ rfl)) rfl
    | exact ends (by simp [State.escapes, *])
    | skip
  · rename_i spawn agent _
    cases keyed : spawn.spawner.key? with
    | none =>
        simp only [State.enroll, keyed]
        apply ends
        simp only [State.escapes, loop, keyed, Option.isNone_none]
    | some spawner =>
        simp only [State.enroll, keyed]
        split_ifs
        · exact .admits _ _ loop
        · exact .acknowledges _ _ loop
  · rename_i stop _ live
    refine .goesOn .returned stop.request _ (serving loop rfl) rfl ?_ ?_
      fun _ confirms => by cases confirms
    · rw [loop]
      exact of_decide_eq_true rfl
    · intro agent outcome upset
      simp only [LoopStage.upsetBy, Bool.and_eq_true,
        decide_eq_true_eq] at upset live
      left
      rw [← upset.1]
      exact live.2
  · rename_i stop task _ _
    refine goesOn loop rfl rfl (of_decide_eq_true rfl) ?_ rfl
    intro agent outcome upset
    simp only [LoopStage.upsetBy, Bool.and_eq_true, Bool.or_eq_true,
      decide_eq_true_eq] at upset ⊢
    exact ⟨upset.1, .inl upset.2⟩
  · rename_i request name _
    refine .goesOn .returned request _ (serving loop rfl) rfl ?_
      (undisturbed_of_never fun _ _ => rfl) ?_
    · rw [loop]
      exact of_decide_eq_true rfl
    · intro found confirms
      cases confirms
      exact loop

theorem stage_of_step
    (stepped : step cfg s label = some after) (own : label.ofLoop = true) :
    StageMoves cfg s label after.loop := by
  cases label with
  | take message =>
      cases loop : s.loop with
      | idle =>
          simp only [step, loop, Option.some.injEq] at stepped
          subst stepped
          exact stage_takeMessage message loop
      | _ => simp [step, loop] at stepped
  | consulted approved constructs =>
      cases loop : s.loop with
      | consulting spawn =>
          simp only [step, loop, Option.some.injEq] at stepped
          subst stepped
          unfold State.resumeConsulting
          split_ifs with denied broken
          · exact .denies spawn _ loop rfl
          · refine .halts (.inl ?_) (halted_stopChildren _ _)
            simp only [State.ends, broken, Bool.and_true]
            simpa using denied
          · exact .denies spawn _ loop rfl
          · exact .claims spawn s.next loop
      | _ => simp [step, loop] at stepped
  | loop resumption => exact stage_resumeLoop stepped
  | exit handler resumption now constructs => cases own
  | continuation record resumption => cases own
  | child other event => cases own
  | foreign other joins => cases own

end StageMoves

/-! ## Names that are vacant -/

/-- Nothing runs under the name or is about to. -/
structure Vacant (s : State) (name : Name) : Prop where
  absent : s.dynamicChildren.lookup name = none
  idle : ∀ agent, s.agentName agent = name → s.task agent ≠ .live
  settled : ∀ agent, s.agentName agent = name →
    (s.exit agent).restarting = false

section Vacant

variable {cfg : Config} {s after : State} {label : Label} {name : Name}

/-- A name stays vacant until it is spawned. -/
theorem Vacant.of_step
    (kept : s.roster.Kept) (vacant : Vacant s name)
    (stepped : step cfg s label = some after)
    (unspawned : ∀ spawn agent spawner,
      s.loop = .auditing spawn agent → label = .loop .returned →
      spawn.spawner.key? = some spawner → after = s.enroll spawn agent →
        spawn.name ≠ name) :
    Vacant after name := by
  have named {agent : Nat} (acting : s.roster.Acting agent)
      (own : after.agentName agent = name) : s.agentName agent = name := by
    rw [← (named_of_step stepped (born_of_acting kept.numbered acting)).1]
    exact own
  have restarts {agent : Nat} (own : s.agentName agent = name)
      (restarting : (s.exit agent).restarting = true) : False := by
    rw [vacant.settled agent own] at restarting
    cases restarting
  constructor
  · rcases (step_tableMoves stepped).entry name with
      same | ⟨removed, _⟩ | ⟨spawn, child, loop, rfl, spawned, entered⟩
    · rw [same]
      exact vacant.absent
    · exact removed
    · simp only [step, State.resumeLoop, loop, Option.some.injEq] at stepped
      cases keyed : spawn.spawner.key? with
      | none =>
          have unchanged : after.dynamicChildren = s.dynamicChildren := by
            rw [← stepped]
            simp only [State.enroll, keyed]
            rfl
          rw [unchanged]
          exact vacant.absent
      | some spawner =>
          exact absurd spawned
            (unspawned spawn child spawner loop rfl keyed stepped.symm)
  · intro agent own live
    rcases live_of_step stepped live with
      before | ⟨handler, record, transferring, _⟩ |
        ⟨spawn, spawner, loop, returned, keyed, admitted⟩
    · exact vacant.idle agent (named (.inl before) own) before
    · rcases kept.staged.building handler record agent
          (by simp only [State.roster, transferring]; rfl) with
        ⟨_, _, born, _, _, same, _⟩
      have shared : s.agentName handler = name := by
        rw [← own, (named_of_step stepped born).1]
        exact same.symm
      apply restarts shared
      rw [transferring]
      rfl
    · apply unspawned spawn agent spawner loop returned keyed admitted
      have claimed : s.roster.errand = .claimed spawn.name agent := by
        simp only [State.roster, loop]
        rfl
      rcases kept.claimed _ _ claimed with ⟨born, same, _⟩
      rw [← own, (named_of_step stepped born).1]
      exact same.symm
  · intro agent own
    rw [Bool.eq_false_iff]
    intro restarting
    rcases restarting_of_step stepped restarting with
      before | ⟨now, constructs, crashed, rfl, scheduled, rebuilds⟩
    · have acting : s.roster.Acting agent :=
        .inr (ExitStage.acting_of_restarting before)
      exact restarts (named acting own) before
    · have acting : s.roster.Acting agent := by
        right
        simp only [State.roster, scheduled]
        rfl
      rcases entered_of_rebuilds rebuilds with ⟨record, entered⟩
      rw [named acting own, vacant.absent] at entered
      cases entered

/-- What a removal leaves behind is vacant. -/
theorem vacant_of_removing
    {request : Request}
    (ordered : s.roster.Orderly) (calm : Calm s) (held : OnRecord s)
    (apart : separate cfg s label = true)
    (serves : servesInFull cfg s label = true)
    (stepped : step cfg s label = some after)
    (own : label.ofLoop = true)
    (removing : after.loop = .removing request name) :
    Vacant after name := by
  have kept := ordered.kept
  have vacates
      (goes : s.loop.removes? = some name ∨ Takes s label name)
      (absent : after.dynamicChildren.lookup name = none)
      (ended : ∀ agent, s.agentName agent = name → s.task agent ≠ .live) :
      Vacant after name := by
    refine ⟨absent, ?_, ?_⟩
    · intro agent named live
      rcases live_of_removing kept calm apart stepped goes named live with
        ⟨before, named'⟩
      exact ended agent named' before
    · intro agent named
      rw [Bool.eq_false_iff]
      intro restarting
      rcases restarting_of_step stepped restarting with
        before | ⟨_, _, _, rfl, _⟩
      · have acting : s.roster.Acting agent :=
          .inr (ExitStage.acting_of_restarting before)
        have named' : s.agentName agent = name := by
          rw [← (named_of_step stepped
            (born_of_acting kept.numbered acting)).1]
          exact named
        rw [settled_of_removing kept calm apart goes named'] at before
        cases before
      · cases own
  cases label with
  | take message =>
      cases loop : s.loop with
      | idle =>
          simp only [step, loop, Option.some.injEq] at stepped
          have passes : Passes s after (s.Finds message) := by
            rw [← stepped]
            exact passes_takeMessage message loop
          rcases passes.removes request name removing with
            ⟨task, ⟨removal, found⟩, rests⟩
          have taken : Takes s (.take message) name := ⟨message, rfl, removal⟩
          apply vacates (.inr taken) (passes.absent request name removing)
          rintro agent rfl live
          apply rests agent _ live
          rw [found]
          apply recorded_of_settled kept held _ live
          intro handler same
          exact settled_of_removing kept calm apart (.inr taken) same
      | _ => simp [step, loop] at stepped
  | consulted approved constructs =>
      exfalso
      cases loop : s.loop with
      | consulting spawn =>
          simp only [step, loop, Option.some.injEq] at stepped
          subst stepped
          unfold State.resumeConsulting at removing
          split_ifs at removing
          · cases removing
          · have passes : Passes s
                (State.fail { s with currentSpawner := none })
                (fun _ _ => False) :=
              passes_stopChildren _ _
            rcases passes.removes request name removing with ⟨_, never, _⟩
            exact never
          · cases removing
          · cases removing
      | _ => simp [step, loop] at stepped
  | loop resumption =>
      simp only [servesInFull, Bool.not_eq_true'] at serves
      have passes := passes_resumeLoop serves stepped
      rcases passes.removes request name removing with ⟨task, waits, rests⟩
      apply vacates (.inl (LoopStage.removes_of_expects waits))
        (passes.absent request name removing)
      intro agent named live
      exact rests agent (held.expects name task agent waits named live) live
  | exit handler resumption now constructs => cases own
  | continuation record resumption => cases own
  | child other event => cases own
  | foreign other joins => cases own

end Vacant

end Civitas.Dynamic
