import Civitas.Dynamic.FailedStarts

/-!
# Copies of one spawn request

A request that is delivered again finds the child of its first copy in the
table and is answered from there.  Under a name that keeps its child, no
number of copies makes more than one child or counts more than one spawn.

The answer from the table does not look at the acknowledgement of the record.
Before it, a copy can be told that all is well while the first copy still
waits; when the start then fails, the first copy is told so and nobody else
is.  In the runs where copies are answered from acknowledged records only, no
answer is left standing for a child whose start has failed.
-/

namespace Civitas.Dynamic

open Civitas.CountTable
open Civitas.PyValue
open Civitas.Transition
open Function (update)

/-! ## Repeated requests -/

/-- The record of the child that a message asks for again. -/
def State.repeatOf (s : State) (message : Message) : Option Nat :=
  if message.kind = .spawn then
    match (field message.payload "name" (.str "")).key? with
    | some name =>
        (s.dynamicChildren.lookup name).filter fun record =>
          let spawnId := field message.payload "spawn_id" (.str "")
          spawnId.truthy && Value.pyEq (s.spawnId record) spawnId
    | none => none
  else none

/-- A copy is answered from the table once its record is acknowledged. -/
def repeatsAcknowledged (s : State) (label : Label) : Bool :=
  match label with
  | .take message => (s.repeatOf message).all s.acknowledged
  | _ => true

/-- The steps after which an ok can be relied upon. -/
def dependable (s : State) (label : Label) : Bool :=
  accountable s label && repeatsAcknowledged s label

/-- The children that were spawned under a name, newest first. -/
def State.births (s : State) (name : Name) : List Origin :=
  s.roster.origins.filter fun origin => origin.name = name

/-- The step does not take a child out that has the name. -/
def KeepsChild
    (cfg : Config) (name : Name) (s : State) (label : Label) : Prop :=
  ∀ record after, s.dynamicChildren.lookup name = some record →
    step cfg s label = some after →
      after.dynamicChildren.lookup name = some record

/-- The child that the answer to a request speaks of. -/
structure Made
    (found : Option Nat) (name : Name) (spawnId : Value) (id : Nat)
    (s : State) (record : Nat) : Prop where
  named : s.agentName record = name
  same : s.spawnId record = spawnId ∨
    Value.pyEq (s.spawnId record) spawnId = true
  /-- It had the name already, or was made for the request. -/
  made : found = some record ∨
    found = none ∧ (s.spawnRequest record).id = id
  root : s.home record = record
  started : s.task record ≠ .notStarted

/-! ## Births -/

section Births

variable {cfg : Config} {s after first : State} {label : Label} {name : Name}

/-- What is kept of the children that were ever spawned. -/
structure Chronicled (s : State) : Prop where
  started : ∀ origin ∈ s.roster.origins,
    s.task origin.record ≠ .notStarted
  distinct : (s.roster.origins.map Origin.record).Nodup
  total : s.totalSpawns = s.roster.origins.length
  counts : ∀ spawner,
    count s.spawnerTotalCounts spawner =
      (s.roster.origins.filter fun origin =>
        origin.spawner = spawner).length

theorem chronicled_init : Chronicled init where
  started := by rintro _ ⟨⟩
  distinct := List.nodup_nil
  total := rfl
  counts := fun _ => rfl

/-- A task that has started stays so. -/
theorem started_stays
    {agent : Nat} (stepped : step cfg s label = some after)
    (started : s.task agent ≠ .notStarted) :
    after.task agent ≠ .notStarted := by
  have motion := step_motion stepped
  change after.roster.task agent ≠ .notStarted
  change s.roster.task agent ≠ .notStarted at started
  generalize after.roster = b at motion
  cases motion with
  | quiet quiet =>
      intro idle
      exact started ((quiet.task agent).notStarted_iff.mp idle)
  | claim => exact started
  | enroll origin waits claimed =>
      by_cases same : agent = origin.record
      · simp only [Roster.enroll, same, Function.update_self]
        simp
      · simp only [Roster.enroll, Function.update_of_ne same]
        exact started
  | build => exact started
  | start handler record fresh transferring =>
      by_cases same : agent = fresh
      · simp only [Roster.start, same, Function.update_self]
        simp
      · simp only [Roster.start, Function.update_of_ne same]
        exact started
  | publish => exact started

/-- The origins of a step: as before, or one more for the claimed name. -/
theorem origins_of_step (stepped : step cfg s label = some after) :
    after.roster.origins = s.roster.origins ∨
      ∃ origin, s.roster.errand = .claimed origin.name origin.record ∧
        after.roster.origins = origin :: s.roster.origins ∧
        after.task origin.record = .live ∧
        after.dynamicChildren.lookup origin.name = some origin.record := by
  have motion := step_motion stepped
  change after.roster.origins = s.roster.origins ∨
    ∃ origin, s.roster.errand = .claimed origin.name origin.record ∧
      after.roster.origins = origin :: s.roster.origins ∧
      after.roster.task origin.record = .live ∧
      after.roster.entry origin.name = some origin.record
  generalize after.roster = b at motion
  cases motion with
  | quiet quiet => exact .inl quiet.origins
  | claim => exact .inl rfl
  | enroll origin waits claimed =>
      right
      exact
        ⟨origin, claimed, rfl, Function.update_self ..,
          Function.update_self ..⟩
  | build => exact .inl rfl
  | start => exact .inl rfl
  | publish => exact .inl rfl

theorem totals_of_step
    (held : Chronicled s) (names : namesSpawner s label = true)
    (stepped : step cfg s label = some after) :
    after.totalSpawns = after.roster.origins.length ∧
      ∀ spawner,
        count after.spawnerTotalCounts spawner =
          (after.roster.origins.filter fun origin =>
            origin.spawner = spawner).length := by
  have unmoved
      (books : after.ledger = s.ledger ∨
        ∃ name, after.ledger = s.ledger.remove name) :
      after.totalSpawns = after.roster.origins.length ∧
        ∀ spawner,
          count after.spawnerTotalCounts spawner =
            (after.roster.origins.filter fun origin =>
              origin.spawner = spawner).length := by
    have total : after.ledger.totalSpawns = s.ledger.totalSpawns := by
      rcases books with same | ⟨_, same⟩
      · rw [same]
      · rw [same]
        rfl
    have counts : after.ledger.totals = s.ledger.totals := by
      rcases books with same | ⟨_, same⟩
      · rw [same]
      · rw [same]
        rfl
    have origins : after.ledger.origins = s.ledger.origins := by
      rcases books with same | ⟨_, same⟩
      · rw [same]
      · rw [same]
        rfl
    refine ⟨?_, fun spawner => ?_⟩
    · exact total.trans (held.total.trans (congrArg List.length origins.symm))
    · change count after.ledger.totals spawner =
        (after.ledger.origins.filter fun origin =>
          origin.spawner = spawner).length
      rw [counts, origins]
      exact held.counts spawner
  rcases step_books stepped with
    kept | ⟨message, name, consults⟩ | ⟨spawn, agent, loop, rfl, admitted⟩
  · exact unmoved kept.books
  · exact unmoved (.inl consults.ledger)
  · cases hashed : spawn.spawner.key? with
    | none => simp [namesSpawner, loop, hashed] at names
    | some spawner =>
        have books := (admit_ledger s agent hashed).1
        rw [← admitted] at books
        refine ⟨?_, fun other => ?_⟩
        · change after.ledger.totalSpawns = after.ledger.origins.length
          rw [books, Ledger.enroll, List.length_cons]
          exact congrArg (· + 1) held.total
        · change count after.ledger.totals other =
            (after.ledger.origins.filter fun origin =>
              origin.spawner = other).length
          rw [books, Ledger.enroll]
          by_cases same : other = spawner
          · subst same
            rw [count_bump_self, List.filter_cons_of_pos (by simp),
              List.length_cons]
            exact congrArg (· + 1) (held.counts other)
          · rw [count_bump_of_ne _ same, List.filter_cons_of_neg]
            · exact held.counts other
            · simpa using fun equal => same equal.symm

theorem step_chronicled
    (kept : s.roster.Kept) (held : Chronicled s)
    (names : namesSpawner s label = true)
    (stepped : step cfg s label = some after) : Chronicled after := by
  rcases totals_of_step held names stepped with ⟨total, counts⟩
  refine ⟨?_, ?_, total, counts⟩
  · intro origin member
    rcases origins_of_step stepped with same | ⟨new, _, grown, live, _⟩
    · rw [same] at member
      exact started_stays stepped (held.started origin member)
    · rw [grown] at member
      rcases List.mem_cons.mp member with rfl | old
      · rw [live]
        simp
      · exact started_stays stepped (held.started origin old)
  · rcases origins_of_step stepped with same | ⟨new, claimed, grown, _⟩
    · rw [same]
      exact held.distinct
    · rw [grown, List.map_cons, List.nodup_cons]
      refine ⟨?_, held.distinct⟩
      intro member
      rcases List.mem_map.mp member with ⟨origin, old, same⟩
      have idle : s.task new.record = .notStarted :=
        (kept.claimed _ _ claimed).2.2.2.2.1
      rw [← same] at idle
      exact held.started origin old idle

/-- The child that has a name is the last one spawned under it. -/
theorem births_of_entered
    {record : Nat} (kept : s.roster.Kept) (held : Chronicled s)
    (entered : s.dynamicChildren.lookup name = some record) :
    ∃ origin older, s.births name = origin :: older ∧
      origin.record = record ∧
        ∀ other ∈ older, other.record ≠ record := by
  rcases kept.entry name record entered with ⟨origin, taken, same⟩
  have head : (s.births name).head? = some origin := by
    rw [State.births, List.head?_filter]
    exact taken
  cases born : s.births name with
  | nil =>
      rw [born] at head
      cases head
  | cons newest older =>
      rw [born] at head
      cases head
      refine ⟨origin, older, rfl, same, ?_⟩
      have distinct : ((s.births name).map Origin.record).Nodup :=
        held.distinct.sublist (List.Sublist.map _ List.filter_sublist)
      rw [born, List.map_cons, List.nodup_cons] at distinct
      intro other member equal
      apply distinct.1
      rw [same, ← equal]
      exact List.mem_map_of_mem member

/-- A step gives birth under a name only when it has no child. -/
theorem births_of_step
    (kept : s.roster.Kept) (stepped : step cfg s label = some after) :
    after.births name = s.births name ∨
      s.dynamicChildren.lookup name = none ∧
        ∃ origin, after.births name = origin :: s.births name ∧
          after.dynamicChildren.lookup name = some origin.record := by
  unfold State.births
  rcases origins_of_step stepped with
    same | ⟨origin, claimed, grown, _, entered⟩
  · rw [same]
    exact .inl rfl
  · rw [grown]
    by_cases named : origin.name = name
    · subst named
      right
      refine ⟨(kept.claimed _ _ claimed).2.2.2.1, origin, ?_, entered⟩
      rw [List.filter_cons_of_pos (by simp)]
    · left
      rw [List.filter_cons_of_neg (by simpa using named)]

/-- At most one child is born under a name that keeps its child. -/
structure BornOnce (name : Name) (first s : State) : Prop where
  births : s.births name = first.births name ∨
    first.dynamicChildren.lookup name = none ∧
      ∃ origin, s.births name = origin :: first.births name ∧
        s.dynamicChildren.lookup name = some origin.record
  stays : ∀ record, first.dynamicChildren.lookup name = some record →
    s.dynamicChildren.lookup name = some record

theorem BornOnce.refl (name : Name) (first : State) :
    BornOnce name first first :=
  ⟨.inl rfl, fun _ entered => entered⟩

theorem BornOnce.of_step
    (kept : s.roster.Kept) (held : BornOnce name first s)
    (keeps : KeepsChild cfg name s label)
    (stepped : step cfg s label = some after) : BornOnce name first after := by
  constructor
  · rcases births_of_step kept stepped with
      same | ⟨vacant, origin, grown, entered⟩
    · rw [same]
      rcases held.births with old | ⟨absent, origin, born, entered⟩
      · exact .inl old
      · exact .inr ⟨absent, origin, born, keeps _ _ entered stepped⟩
    · right
      rcases held.births with old | ⟨_, newest, _, taken⟩
      · rw [grown, old]
        refine ⟨?_, origin, rfl, entered⟩
        cases found : first.dynamicChildren.lookup name with
        | none => rfl
        | some record =>
            rw [held.stays record found] at vacant
            cases vacant
      · rw [taken] at vacant
        cases vacant
  · intro record entered
    exact keeps _ _ (held.stays record entered) stepped

end Births

/-! ## What is written of a child -/

section Written

variable {cfg : Config} {s after : State} {label : Label} {record : Nat}

theorem spawnId_afterStop (s : State) (stop : StopRequest) :
    (s.afterStop stop).spawnId = s.spawnId := by
  rcases afterStop_cases s stop with finished | ⟨task, _, _, waiting⟩
  · rw [finished]
    rfl
  · rw [waiting]

theorem spawnId_takeMessage (cfg : Config) (s : State) (message : Message) :
    (s.takeMessage cfg message).spawnId = s.spawnId := by
  unfold State.takeMessage
  simp only
  split
  · rfl
  · unfold State.takeSpawn
    split
    · rfl
    · rfl
    · rfl
  · unfold State.takeDespawn
    split
    · rfl
    · split
      · rfl
      · simp only
        split
        · split_ifs
          · rfl
          · rfl
        · rfl
  · unfold State.takeStop
    split_ifs
    · rfl
    · split
      · rfl
      · split
        · rfl
        · simp only
          split_ifs
          · rfl
          · exact spawnId_afterStop _ _
  · rfl

theorem spawnId_resumeLoop
    {resumption : Resumption}
    (resumed : s.resumeLoop resumption = some after) :
    after.spawnId = s.spawnId ∨
      ∃ spawn agent, s.loop = .auditing spawn agent ∧
        after = s.enroll spawn agent := by
  unfold State.resumeLoop at resumed
  split at resumed
  all_goals rename_i loop
  all_goals repeat' split at resumed
  all_goals cases resumed
  all_goals first
    | exact .inl rfl
    | exact .inl (spawnId_afterStop _ _)
    | exact .inr ⟨_, _, loop, rfl⟩

/-- What the first copy wrote stays with a child that is not claimed anew. -/
structure Written (s after : State) (record : Nat) : Prop where
  spawnId : after.spawnId record = s.spawnId record
  spawnRequest : after.spawnRequest record = s.spawnRequest record
  acknowledged : s.acknowledged record = true →
    after.acknowledged record = true

theorem written_of_loop
    (stepped : step cfg s label = some after) (own : label.ofLoop = true)
    (unclaimed : ∀ spawn, s.loop ≠ .auditing spawn record) :
    Written s after record := by
  have admits {spawn : SpawnRequest} {agent : Nat}
      (loop : s.loop = .auditing spawn agent) :
      (s.enroll spawn agent).spawnId record = s.spawnId record := by
    have apart : record ≠ agent := by
      rintro rfl
      exact unclaimed spawn loop
    unfold State.enroll
    split
    · rfl
    · exact Function.update_of_ne apart ..
  have spawnId : after.spawnId record = s.spawnId record := by
    cases label with
    | take message =>
        cases loop : s.loop with
        | idle =>
            simp only [step, loop, Option.some.injEq] at stepped
            subst stepped
            rw [spawnId_takeMessage]
        | _ => simp [step, loop] at stepped
    | consulted approved constructs =>
        cases loop : s.loop with
        | consulting spawn =>
            simp only [step, loop, Option.some.injEq] at stepped
            subst stepped
            unfold State.resumeConsulting
            split_ifs
            · rfl
            · rfl
            · rfl
            · rfl
        | _ => simp [step, loop] at stepped
    | loop resumption =>
        rcases spawnId_resumeLoop stepped with
          same | ⟨spawn, agent, loop, rfl⟩
        · rw [same]
        · exact admits loop
    | _ => cases own
  rcases frame_of_step stepped own with
    frame | ⟨spawn, agent, spawner, loop, _, keyed, rfl⟩
  · refine ⟨spawnId, ?_, fun acknowledged => ?_⟩
    · rw [frame.spawnRequest]
    · rw [frame.acknowledged]
      exact acknowledged
  · have apart : record ≠ agent := by
      rintro rfl
      exact unclaimed spawn loop
    refine ⟨spawnId, ?_, fun acknowledged => ?_⟩
    · simp only [State.enroll, keyed, Function.update_of_ne apart]
    · simp only [State.enroll, keyed, Function.update_of_ne apart]
      exact acknowledged

theorem written_of_aside
    (stepped : step cfg s label = some after)
    (other : label.ofLoop = false) : Written s after record := by
  cases label with
  | exit agent resumption now constructs =>
      simp only [step, State.resumeExit] at stepped
      repeat' split at stepped
      all_goals cases stepped
      all_goals first
        | exact ⟨rfl, rfl, fun acknowledged => acknowledged⟩
        | skip
      unfold State.beginExit
      simp only
      repeat' split
      all_goals exact ⟨rfl, rfl, fun acknowledged => acknowledged⟩
  | continuation settling resumption =>
      simp only [step, State.resumeContinuation] at stepped
      repeat' split at stepped
      all_goals cases stepped
      all_goals first
        | exact ⟨rfl, rfl, fun acknowledged => acknowledged⟩
        | skip
      refine ⟨rfl, rfl, fun acknowledged => ?_⟩
      by_cases same : record = settling
      · rw [same]
        exact Function.update_self ..
      · simp only [Function.update_of_ne same]
        exact acknowledged
  | child agent event =>
      simp only [step, State.childStep] at stepped
      repeat' split at stepped
      all_goals cases stepped
      all_goals exact ⟨rfl, rfl, fun acknowledged => acknowledged⟩
  | foreign name joins =>
      simp only [step, State.foreignStep] at stepped
      split at stepped
      all_goals cases stepped
      all_goals exact ⟨rfl, rfl, fun acknowledged => acknowledged⟩
  | _ => cases other

theorem written_of_step
    (stepped : step cfg s label = some after)
    (unclaimed : ∀ spawn, s.loop ≠ .auditing spawn record) :
    Written s after record := by
  cases own : label.ofLoop with
  | true => exact written_of_loop stepped own unclaimed
  | false => exact written_of_aside stepped own

/-- A child that has started is not claimed anew. -/
theorem unclaimed_of_started
    (kept : s.roster.Kept) (started : s.task record ≠ .notStarted)
    (spawn : SpawnRequest) : s.loop ≠ .auditing spawn record := by
  intro loop
  have claimed : s.roster.errand = .claimed spawn.name record := by
    simp only [State.roster, loop]
    rfl
  exact started (kept.claimed _ _ claimed).2.2.2.2.1

theorem born_of_started
    (numbered : s.roster.Numbered)
    (started : s.task record ≠ .notStarted) : record < s.next := by
  by_contra unborn
  exact started (numbered.blank record (Nat.le_of_not_lt unborn)).1

theorem Made.of_step
    {found : Option Nat} {name : Name} {spawnId : Value} {id : Nat}
    (kept : s.roster.Kept) (made : Made found name spawnId id s record)
    (stepped : step cfg s label = some after) :
    Made found name spawnId id after record := by
  have written :=
    written_of_step stepped (unclaimed_of_started kept made.started)
  have born := born_of_started kept.numbered made.started
  rcases named_of_step stepped born with ⟨named, home⟩
  constructor
  · rw [named]
    exact made.named
  · rw [written.spawnId]
    exact made.same
  · rw [written.spawnRequest]
    exact made.made
  · rw [home]
    exact made.root
  · exact started_stays stepped made.started

end Written

/-! ## Following one copy -/

/-- The continuation is about to say that the child runs. -/
def SpawnStage.confirms : SpawnStage → Bool
  | .announcing => true
  | .replying ok => ok
  | _ => false

/-- An ok for the request speaks of an acknowledged child. -/
def Granted
    (found : Option Nat) (name : Name) (spawnId : Value) (id : Nat)
    (s : State) : Prop :=
  ∃ record, Made found name spawnId id s record ∧
    s.acknowledged record = true

/-- Where an answer to the request can come from. -/
structure Owed
    (found : Option Nat) (name : Name) (spawnId : Value) (id : Nat)
    (s : State) : Prop where
  asked : ∀ spawn, s.loop.spawn? = some spawn → spawn.request.id = id →
    found = none ∧ spawn.name = name ∧ spawn.spawnId = spawnId
  replying : ∀ correlated, s.loop = .replying ⟨id, correlated⟩ .ok →
    Granted found name spawnId id s
  waiting : ∀ record, s.continuation record ≠ .absent →
    (s.spawnRequest record).id = id → Made found name spawnId id s record
  confirmed : ∀ record, (s.continuation record).confirms = true →
    s.acknowledged record = true
  answered : .answered id .ok ∈ s.log → Granted found name spawnId id s

section Owed

variable {cfg : Config} {s after : State} {label : Label} {id : Nat}
  {found : Option Nat} {name : Name} {spawnId : Value}

theorem Granted.of_step
    (kept : s.roster.Kept) (granted : Granted found name spawnId id s)
    (stepped : step cfg s label = some after) :
    Granted found name spawnId id after := by
  rcases granted with ⟨record, made, acknowledged⟩
  have written :=
    written_of_step stepped (unclaimed_of_started kept made.started)
  exact
    ⟨record, made.of_step kept stepped, written.acknowledged acknowledged⟩

theorem made_of_enroll
    {spawn : SpawnRequest} {agent : Nat} {spawner : Key}
    (kept : s.roster.Kept) (owed : Owed found name spawnId id s)
    (loop : s.loop = .auditing spawn agent)
    (keyed : spawn.spawner.key? = some spawner)
    (same : spawn.request.id = id) :
    Made found name spawnId id (s.enroll spawn agent) agent := by
  have claimed : s.roster.errand = .claimed spawn.name agent := by
    simp only [State.roster, loop]
    rfl
  rcases kept.claimed _ _ claimed with ⟨_, named, root, _⟩
  rcases owed.asked spawn (by rw [loop]; rfl) same with
    ⟨absent, called, copied⟩
  constructor
  · simp only [State.enroll, keyed]
    rw [← called]
    exact named
  · left
    simp only [State.enroll, keyed, Function.update_self]
    exact copied
  · right
    simp only [State.enroll, keyed, Function.update_self]
    exact ⟨absent, same⟩
  · simp only [State.enroll, keyed]
    exact root
  · simp only [State.enroll, keyed, Function.update_self]
    simp

theorem spawn_of_halted {stage : LoopStage}
    (halted : stage.halted = true) : stage.spawn? = none := by
  cases stage <;> first | rfl | cases halted

theorem asked_of_books
    (older : id < s.requests) (owed : Owed found name spawnId id s)
    (stepped : step cfg s label = some after) {spawn : SpawnRequest}
    (pending : after.loop.spawn? = some spawn)
    (same : spawn.request.id = id) :
    found = none ∧ spawn.name = name ∧ spawn.spawnId = spawnId := by
  rcases step_books stepped with
    kept | ⟨message, other, consults⟩ | ⟨asked, agent, loop, rfl, admitted⟩
  · exact owed.asked spawn (kept.pending spawn pending) same
  · rw [consults.after] at pending
    cases pending
    exact absurd same (Nat.ne_of_gt older)
  · subst admitted
    unfold State.enroll at pending
    split at pending
    · unfold State.fail State.onStop at pending
      rw [spawn_of_halted (halted_stopChildren _ _)] at pending
      cases pending
    · simp only at pending
      split_ifs at pending
      · cases pending
      · cases pending

/-- The loop comes to answer ok from the table, or by an admission. -/
theorem oks_of_step
    {request : Request} (stepped : step cfg s label = some after)
    (replying : after.loop = .replying request .ok) :
    s.loop = .replying request .ok ∨
      (∃ message, label = .take message ∧ request.id = s.requests) ∨
      ∃ spawn agent spawner, s.loop = .auditing spawn agent ∧
        spawn.spawner.key? = some spawner ∧ spawn.request = request ∧
        spawn.wait = false ∧ after = s.enroll spawn agent := by
  have runs {other : State} (halted : other.loop.halted = true)
      (answers : other.loop = .replying request .ok) : False := by
    rw [answers] at halted
    cases halted
  cases own : label.ofLoop with
  | false =>
      left
      rw [← (loopRests_of_step stepped own).loop]
      exact replying
  | true =>
      right
      have stage := stage_of_step stepped own
      rw [replying] at stage
      cases stage with
      | halts _ halted => cases halted
      | refuses message _ _ => exact .inl ⟨message, rfl, rfl⟩
      | denies spawn _ loop _ =>
          simp only [step, loop, Option.some.injEq] at stepped
          subst stepped
          unfold State.resumeConsulting at replying
          split_ifs at replying
          · cases replying
          · exact (runs (halted_stopChildren _ _) replying).elim
          · cases replying
          · cases replying
      | acknowledges spawn agent loop =>
          simp only [step, State.resumeLoop, loop, Option.some.injEq]
            at stepped
          subst stepped
          cases keyed : spawn.spawner.key? with
          | none =>
              simp only [State.enroll, keyed] at replying
              exact (runs (halted_stopChildren _ _) replying).elim
          | some spawner =>
              refine .inr ⟨spawn, agent, spawner, loop, keyed, rfl, ?_, rfl⟩
              simp only [State.enroll, keyed] at replying
              cases waits : spawn.wait with
              | false => rfl
              | true =>
                  rw [waits, if_pos rfl] at replying
                  cases replying
      | begins message _ _ serves _ _ => cases serves
      | goesOn resumption _ _ _ serves _ _ _ => cases serves

theorem granted_of_replying
    {correlated : Bool} (kept : s.roster.Kept) (older : id < s.requests)
    (owed : Owed found name spawnId id s)
    (stepped : step cfg s label = some after)
    (replying : after.loop = .replying ⟨id, correlated⟩ .ok) :
    Granted found name spawnId id after := by
  rcases oks_of_step stepped replying with
    before | ⟨message, _, same⟩ |
      ⟨spawn, agent, spawner, loop, keyed, same, waits, rfl⟩
  · exact (owed.replying correlated before).of_step kept stepped
  · exact absurd same (Nat.ne_of_lt older)
  · refine
      ⟨agent, made_of_enroll kept owed loop keyed (by rw [same]), ?_⟩
    simp only [State.enroll, keyed, Function.update_self, waits,
      Bool.not_false]

theorem made_of_waiting
    {record : Nat} (kept : s.roster.Kept)
    (owed : Owed found name spawnId id s)
    (stepped : step cfg s label = some after)
    (present : after.continuation record ≠ .absent)
    (same : (after.spawnRequest record).id = id) :
    Made found name spawnId id after record := by
  cases own : label.ofLoop with
  | false =>
      have before : s.continuation record ≠ .absent := by
        rcases continuation_of_other record stepped own with
          unmoved | before
        · rw [unmoved] at present
          exact present
        · exact before
      rw [(loopRests_of_step stepped own).spawnRequest] at same
      exact (owed.waiting record before same).of_step kept stepped
  | true =>
      rcases frame_of_step stepped own with
        frame | ⟨spawn, agent, spawner, loop, _, keyed, rfl⟩
      · have before := continuation_of_frame kept frame stepped present
        rw [frame.spawnRequest] at same
        exact (owed.waiting record before same).of_step kept stepped
      · by_cases own : record = agent
        · subst own
          simp only [State.enroll, keyed, Function.update_self] at same
          exact made_of_enroll kept owed loop keyed same
        · have before : s.continuation record ≠ .absent := by
            simp only [State.enroll, keyed] at present
            split_ifs at present
            · rw [Function.update_of_ne own] at present
              exact present
            · exact present
          simp only [State.enroll, keyed, Function.update_of_ne own] at same
          exact (owed.waiting record before same).of_step kept stepped

/-- A continuation that is to say ok has acknowledged its record. -/
theorem confirmed_of_step
    {record : Nat} (kept : s.roster.Kept)
    (held : ∀ record, (s.continuation record).confirms = true →
      s.acknowledged record = true)
    (stepped : step cfg s label = some after)
    (confirms : (after.continuation record).confirms = true) :
    after.acknowledged record = true := by
  have before (same : (s.continuation record).confirms = true) :
      after.acknowledged record = true := by
    have written : Written s after record := by
      apply written_of_step stepped
      intro spawn loop
      have claimed : s.roster.errand = .claimed spawn.name record := by
        simp only [State.roster, loop]
        rfl
      have absent : s.continuation record = .absent :=
        (kept.claimed _ _ claimed).2.2.2.2.2.2.1
      rw [absent] at same
      cases same
    exact written.acknowledged (held record same)
  cases own : label.ofLoop with
  | true =>
      rcases continues_of_loop stepped own with
        (unmoved | ⟨_, _, stopped⟩) |
          ⟨spawn, agent, spawner, loop, _, keyed, rfl⟩
      · rw [unmoved] at confirms
        exact before confirms
      · rw [stopped] at confirms
        simp only at confirms
        generalize s.continuation record = stage at confirms
        cases stage <;> cases confirms
      · apply before
        simp only [State.enroll, keyed] at confirms
        split_ifs at confirms
        · by_cases same : record = agent
          · rw [same, Function.update_self] at confirms
            cases confirms
          · rw [Function.update_of_ne same] at confirms
            exact confirms
        · exact confirms
  | false =>
      by_cases mine : ∃ resumption, label = .continuation record resumption
      · rcases mine with ⟨resumption, rfl⟩
        have moved {other : State} {stage : SpawnStage}
            (silent : stage.confirms = false)
            (loud :
              ((other.setContinuation record stage).continuation
                record).confirms = true) : False := by
          simp only [State.setContinuation, Function.update_self, silent]
            at loud
          cases loud
        simp only [step, State.resumeContinuation] at stepped
        split at stepped
        · split_ifs at stepped with unsettled ready
          · cases stepped
            exact Function.update_self ..
          · split at stepped
            · cases stepped
              exact (moved rfl confirms).elim
            · cases stepped
              exact (moved rfl confirms).elim
        all_goals cases stepped
        all_goals rename_i stage
        all_goals first
          | exact (moved rfl confirms).elim
          | exact held record (by rw [stage]; rfl)
      · rw [continuation_of_aside stepped own (not_exists.mp mine)]
          at confirms
        exact before confirms

theorem granted_of_answered
    (kept : s.roster.Kept) (owed : Owed found name spawnId id s)
    (stepped : step cfg s label = some after)
    (answered : .answered id .ok ∈ after.log) :
    Granted found name spawnId id after := by
  rcases step_logs stepped with ⟨new, grown, _, emitted⟩
  rw [grown] at answered
  rcases List.mem_append.mp answered with added | old
  · generalize event : Event.answered id .ok = said at added
    cases emitted _ added with
    | replied request answer replying correlated =>
        rcases request with ⟨number, reply⟩
        cases event
        exact (owed.replying reply replying).of_step kept stepped
    | settled record ok settling =>
        cases ok with
        | false => cases event
        | true =>
            simp only [if_true, Event.answered.injEq, and_true] at event
            have acknowledged :=
              owed.confirmed record (by rw [settling]; rfl)
            have made :=
              owed.waiting record (by rw [settling]; simp) event.symm
            exact Granted.of_step kept ⟨record, made, acknowledged⟩ stepped
    | raised => cases event
    | tookRemoval => cases event
    | spawned => cases event
    | notified => cases event
  · exact (owed.answered old).of_step kept stepped

theorem step_owed
    (kept : s.roster.Kept) (older : id < s.requests)
    (owed : Owed found name spawnId id s)
    (stepped : step cfg s label = some after) :
    Owed found name spawnId id after where
  asked := fun _ => asked_of_books older owed stepped
  replying := fun _ => granted_of_replying kept older owed stepped
  waiting := fun _ => made_of_waiting kept owed stepped
  confirmed := fun _ => confirmed_of_step kept owed.confirmed stepped
  answered := granted_of_answered kept owed stepped

end Owed

/-! ## Taking a copy -/

section Taken

variable {cfg : Config} {s after : State} {message : Message} {name : Name}

/-- A copy that is answered ok from the table asks for its child again. -/
theorem repeatOf_of_decided
    (kind : message.kind = .spawn) {spawner : Value}
    (decided : s.spawnDecision cfg message.payload spawner = .reply .ok) :
    ∃ record, s.repeatOf message = some record := by
  unfold State.spawnDecision at decided
  unfold State.repeatOf
  rw [if_pos kind]
  split at decided
  · cases decided
  · rename_i key named
    rw [named]
    simp only
    split at decided
    · rename_i record entered
      simp only at decided
      split_ifs at decided with copied
      · exact ⟨record, by rw [entered, Option.filter_some, if_pos copied]⟩
      · cases decided
    · repeat' split at decided
      all_goals cases decided

/-- The child that a copy asks for again has its name and its identifier. -/
theorem repeatOf_cases
    {record : Nat} (repeated : s.repeatOf message = some record) :
    message.kind = .spawn ∧
      ∃ name, (field message.payload "name" (.str "")).key? = some name ∧
        s.dynamicChildren.lookup name = some record ∧
        ((field message.payload "spawn_id" (.str "")).truthy &&
          Value.pyEq (s.spawnId record)
            (field message.payload "spawn_id" (.str ""))) = true := by
  unfold State.repeatOf at repeated
  split_ifs at repeated with kind
  split at repeated
  · rename_i name named
    rcases Option.filter_eq_some_iff.mp repeated with ⟨entered, copied⟩
    exact ⟨kind, name, named, entered, copied⟩
  · cases repeated

theorem loop_of_take
    (taken : step cfg s (.take message) = some after) : s.loop = .idle := by
  cases loop : s.loop with
  | idle => rfl
  | _ => simp [step, loop] at taken

theorem first_of_take
    (kind : message.kind = .spawn)
    (taken : step cfg s (.take message) = some after) :
    after =
      (s.receive message).takeSpawn cfg ⟨s.requests, message.correlated⟩
        message := by
  have idle := loop_of_take taken
  simp only [step, idle, Option.some.injEq, State.takeMessage, kind] at taken
  exact taken.symm

/-- A copy of the request for a child in the table creates nothing. -/
theorem respond_of_repeat
    {record : Nat} (repeated : s.repeatOf message = some record)
    (taken : step cfg s (.take message) = some after) :
    after =
      (s.receive message).respond ⟨s.requests, message.correlated⟩ .ok := by
  rcases repeatOf_cases repeated with ⟨kind, name, named, entered, copied⟩
  rw [first_of_take kind taken]
  have decided :
      (s.receive message).spawnDecision cfg message.payload
          (spawnerOf message.payload) = .reply .ok := by
    have found :
        (s.receive message).dynamicChildren.lookup name = some record :=
      entered
    have same : (s.receive message).spawnId record = s.spawnId record := rfl
    simp only [State.spawnDecision, named, found, same, copied, if_true]
  simp only [State.takeSpawn, decided]

theorem granted_of_repeat
    {record : Nat} (kept : s.roster.Kept) (held : Chronicled s)
    (named : (field message.payload "name" (.str "")).key? = some name)
    (repeated : s.repeatOf message = some record) :
    Made (s.dynamicChildren.lookup name) name
      (field message.payload "spawn_id" (.str "")) s.requests s record := by
  rcases repeatOf_cases repeated with ⟨_, key, same, entered, copied⟩
  rw [named] at same
  cases same
  rcases kept.entry name record entered with ⟨origin, incumbent, rfl⟩
  rcases kept.incumbent name origin incumbent with ⟨_, called, root, _⟩
  simp only [Bool.and_eq_true] at copied
  exact
    { named := called
      same := .inr copied.2
      made := .inl entered
      root := root
      started := held.started origin (Roster.incumbent_mem incumbent).1 }

theorem owed_of_take
    (kept : s.roster.Kept) (held : Chronicled s) (filed : Filed s)
    (confirmed : ∀ record, (s.continuation record).confirms = true →
      s.acknowledged record = true)
    (kind : message.kind = .spawn)
    (named : (field message.payload "name" (.str "")).key? = some name)
    (repeats : repeatsAcknowledged s (.take message) = true)
    (taken : step cfg s (.take message) = some after) :
    Owed (s.dynamicChildren.lookup name) name
      (field message.payload "spawn_id" (.str "")) s.requests after := by
  have opened := first_of_take kind taken
  have halts {other : State} {stage : LoopStage}
      (halted : other.loop.halted = true) (loop : other.loop = stage) :
      stage.halted = true := by
    rw [← loop]
    exact halted
  constructor
  · intro spawn pending _
    rw [opened] at pending
    unfold State.takeSpawn at pending
    split at pending
    · cases pending
    · unfold State.fail State.onStop at pending
      rw [spawn_of_halted (halted_stopChildren _ _)] at pending
      cases pending
    · rename_i key decided
      cases pending
      have absent : s.dynamicChildren.lookup key = none :=
        spawnDecision_fresh decided
      have same := spawnDecision_name decided
      rw [named] at same
      cases same
      exact ⟨absent, rfl, rfl⟩
  · intro correlated replying
    rw [opened] at replying
    unfold State.takeSpawn at replying
    split at replying
    · rename_i answer decided
      cases replying
      have answered :
          s.spawnDecision cfg message.payload (spawnerOf message.payload) =
            .reply .ok := decided
      rcases repeatOf_of_decided kind answered with ⟨record, repeated⟩
      have acknowledged : s.acknowledged record = true := by
        simpa [repeatsAcknowledged, repeated] using repeats
      exact
        Granted.of_step kept
          ⟨record, granted_of_repeat kept held named repeated, acknowledged⟩
          taken
    · cases halts (halted_stopChildren _ _) replying
    · cases replying
  · intro record present same
    rcases present_of_step kept taken present with
      ⟨before, unmoved⟩ | ⟨spawn, loop, _⟩
    · have below := filed.waiting record before
      rw [unmoved] at same
      omega
    · rw [loop_of_take taken] at loop
      cases loop
  · intro record confirms
    exact confirmed_of_step kept confirmed taken confirms
  · intro answered
    have kept :
        Event.answered s.requests .ok ∈
          after.log.filter (Event.answers s.requests) :=
      List.mem_filter.mpr ⟨answered, by simp [Event.answers]⟩
    rw [unanswered_of_take filed taken] at kept
    cases kept

end Taken

/-! ## Every run -/

/-- One child for all copies, and no ok left standing for a failed start. -/
structure SpawnIdempotent
    (cfg : Config) (permits : State → Label → Prop) (before : State)
    (message : Message) (first s : State) : Prop where
  /-- A copy that finds its child changes nothing but its answer. -/
  repeated : ∀ record, before.repeatOf message = some record →
    first =
      (before.receive message).respond
        ⟨before.requests, message.correlated⟩ .ok
  /-- While a name keeps its child, one child at most is born under it. -/
  once : ∀ name,
    (field message.payload "name" (.str "")).key? = some name →
      Reaches (step cfg)
          (fun s label => permits s label ∧ KeepsChild cfg name s label)
          first s →
        BornOnce name first s
  /-- The child that has a name is the last one spawned under it. -/
  sole : ∀ name record, s.dynamicChildren.lookup name = some record →
    ∃ origin older, s.births name = origin :: older ∧
      origin.record = record ∧ ∀ other ∈ older, other.record ≠ record
  /-- Every birth is charged once, to the total and to its spawner. -/
  charged : s.totalSpawns = s.roster.origins.length ∧
    ∀ spawner,
      count s.spawnerTotalCounts spawner =
        (s.roster.origins.filter fun origin =>
          origin.spawner = spawner).length
  /-- An ok names the child; if its start fails, the spawner is told. -/
  promised : ∀ name,
    (field message.payload "name" (.str "")).key? = some name →
      .answered before.requests .ok ∈ s.log →
        ∃ record,
          Made (before.dynamicChildren.lookup name) name
              (field message.payload "spawn_id" (.str "")) before.requests s
              record ∧
            (s.Stillborn record → s.requested record = false →
              (s.exit record = .finished → Told s record) ∧
                ∃ after, Reaches (step cfg) permits s after ∧
                  Told after record)

/-- What holds of every state of a dependable run. -/
structure Reliable (s : State) : Prop where
  attended : Attended s
  chronicled : Chronicled s
  filed : Filed s
  confirmed : ∀ record, (s.continuation record).confirms = true →
    s.acknowledged record = true

theorem reliable_init : Reliable init where
  attended := attended_init
  chronicled := chronicled_init
  filed := counted_init.filed
  confirmed := by rintro _ ⟨⟩

section Runs

variable {cfg : Config} {s after : State} {label : Label}

theorem accountable_of_dependable
    (permitted : dependable s label = true) : accountable s label = true := by
  simp only [dependable, Bool.and_eq_true] at permitted
  exact permitted.1

theorem dependable_exit
    (s : State) (record now : Nat) (constructs : Bool) :
    dependable s (.exit record .returned now constructs) = true := by
  simp [dependable, accountable, orderly, claimsFreeName, tearsUnreached,
    namesSpawner, seesFailures, repeatsAcknowledged]

theorem step_reliable
    (held : Reliable s) (permitted : dependable s label = true)
    (stepped : step cfg s label = some after) : Reliable after := by
  have accounts := accountable_of_dependable permitted
  have kept := held.attended.ordered.kept
  have names : namesSpawner s label = true := by
    simp only [accountable, Bool.and_eq_true] at accounts
    exact accounts.1.2
  exact
    { attended := step_attended held.attended accounts stepped
      chronicled := step_chronicled kept held.chronicled names stepped
      filed := step_filed kept held.filed stepped
      confirmed := fun _ => confirmed_of_step kept held.confirmed stepped }

/-- A failed start that was acknowledged ends in a notice. -/
theorem noticed_of_granted
    {found : Option Nat} {name : Name} {spawnId : Value} {id record : Nat}
    (held : Reliable s) (made : Made found name spawnId id s record)
    (acknowledged : s.acknowledged record = true)
    (stillborn : s.Stillborn record)
    (unasked : s.requested record = false) :
    (s.exit record = .finished → Told s record) ∧
      ∃ after, Reaches (step cfg) (dependable · ·) s after ∧
        Told after record := by
  have pledged : s.pledged record = true := by
    rw [pledged_iff, unstarted_iff]
    exact ⟨acknowledged, made.root, stillborn.unreached, unasked⟩
  rcases stillborn.done with ⟨outcome, done⟩
  refine ⟨held.attended.told record pledged, ?_⟩
  exact
    notice_reachable (fun _ _ => accountable_of_dependable)
      (fun s => dependable_exit s record 0 true) held.attended pledged done

end Runs

/--
In every run in which a copy is answered from the table only when its record
is acknowledged, names are claimed and starts torn down in order, an admitted
spawn names its spawner, an acknowledged start does not end cancelled, and the
awaits of the handler of its failure return: however often a spawn request is
delivered, a name that keeps its child gets one child, each child is charged
once, and an ok whose child fails to start is followed by a notice to the
spawner.
-/
theorem spawns_idempotent_in_every_run
    (cfg : Config) {before first s : State} {message : Message}
    (earlier : Reaches (step cfg) (dependable · ·) init before)
    (kind : message.kind = .spawn)
    (permitted : dependable before (.take message) = true)
    (taken : step cfg before (.take message) = some first)
    (later : Reaches (step cfg) (dependable · ·) first s) :
    SpawnIdempotent cfg (dependable · ·) before message first s := by
  have start : Reliable before := by
    apply earlier.invariant reliable_init
    intro _ _ _ held permitted stepped
    exact step_reliable held permitted stepped
  have opened : Reliable first := step_reliable start permitted taken
  have held : Reliable s := by
    apply later.invariant opened
    intro _ _ _ held permitted stepped
    exact step_reliable held permitted stepped
  constructor
  · intro record repeated
    exact respond_of_repeat repeated taken
  · intro name _ keeping
    have both : Reliable s ∧ BornOnce name first s := by
      apply keeping.invariant ⟨opened, .refl name first⟩
      rintro _ _ _ ⟨held, born⟩ ⟨permitted, keeps⟩ stepped
      exact
        ⟨step_reliable held permitted stepped,
          born.of_step held.attended.ordered.kept keeps stepped⟩
    exact both.2
  · intro name record entered
    exact
      births_of_entered held.attended.ordered.kept held.chronicled entered
  · exact ⟨held.chronicled.total, held.chronicled.counts⟩
  · intro name named answered
    have repeats : repeatsAcknowledged before (.take message) = true := by
      simp only [dependable, Bool.and_eq_true] at permitted
      exact permitted.2
    have older : before.requests < first.requests := by
      rcases requests_of_step taken with ⟨_, _, more⟩ | ⟨never, _⟩
      · omega
      · exact absurd rfl (never message)
    have followed :
        Reliable s ∧ before.requests < s.requests ∧
          Owed (before.dynamicChildren.lookup name) name
            (field message.payload "spawn_id" (.str "")) before.requests
            s := by
      apply later.invariant
      · exact
          ⟨opened, older,
            owed_of_take start.attended.ordered.kept start.chronicled
              start.filed start.confirmed kind named repeats taken⟩
      · rintro _ _ _ ⟨held, older, owed⟩ permitted stepped
        exact
          ⟨step_reliable held permitted stepped,
            Nat.lt_of_lt_of_le older (requests_le stepped),
            step_owed held.attended.ordered.kept older owed stepped⟩
    rcases followed.2.2.answered answered with ⟨record, made, acknowledged⟩
    exact ⟨record, made, noticed_of_granted held made acknowledged⟩

/-! ## Two copies -/

/-- A request that is answered before its child has started. -/
def quickCopy : Message :=
  spawnInto "planner" "app.Worker" "w1" false "1"

/-- The second copy is answered, the start fails, and the spawner is told. -/
theorem quick_copies_are_idempotent :
    ∃ before first s : State,
      step openConfig before (.take quickCopy) = some first ∧
        Event.answered 1 .ok ∈ s.log ∧ s.task 0 = .done .raised ∧
        s.exit 0 = .finished ∧
        SpawnIdempotent openConfig (dependable · ·) before quickCopy first
          s := by
  have run :
      ((runWhere (step openConfig) (dependable · ·) init
        (spawnQuickly quickCopy)).bind fun before =>
          (step openConfig before (.take quickCopy)).bind fun first =>
            (runWhere (step openConfig) (dependable · ·) first
              ([Label.loop .returned, .child 0 (.finish .raised .crashed)] ++
                List.replicate 6 (Label.exit 0 .returned 0 true))).map fun s =>
                  decide (dependable before (.take quickCopy) ∧
                    Event.answered 1 .ok ∈ s.log ∧
                    s.task 0 = .done .raised ∧ s.exit 0 = .finished)) =
        some true := by
    decide +kernel
  rcases Option.bind_eq_some_iff.mp run with ⟨before, ran, rest⟩
  rcases Option.bind_eq_some_iff.mp rest with ⟨first, taken, last⟩
  rcases Option.map_eq_some_iff.mp last with ⟨s, went, facts⟩
  rcases of_decide_eq_true facts with ⟨permitted, answered, done, finished⟩
  exact
    ⟨before, first, s, taken, answered, done, finished,
      spawns_idempotent_in_every_run openConfig
        (reaches_of_runWhere .start ran) (by decide) permitted taken
        (reaches_of_runWhere .start went)⟩

/--
The second copy is told ok while the first one waits.  The start fails; the
first copy gets an error, and the spawner of the second is told nothing.
-/
theorem copy_of_waiting_spawn_is_not_told :
    ∃ before first s : State,
      Reaches (step openConfig) (fun _ _ => True) init before ∧
        step openConfig before (.take waitingSpawn) = some first ∧
        Reaches (step openConfig) (fun _ _ => True) first s ∧
        waitingSpawn.kind = .spawn ∧
        (field waitingSpawn.payload "spawn_id" (.str "")).truthy = true ∧
        ¬SpawnIdempotent openConfig (fun _ _ => True) before waitingSpawn
          first s := by
  have run :
      ((runWhere (step openConfig) (fun _ _ => True) init
        [.take waitingSpawn, .consulted true true, .loop .returned,
          .loop .returned]).bind fun before =>
          (step openConfig before (.take waitingSpawn)).bind fun first =>
            (runWhere (step openConfig) (fun _ _ => True) first
              ([Label.loop .returned, .child 0 (.finish .raised .crashed)] ++
                List.replicate 5 (Label.exit 0 .returned 0 true) ++
                List.replicate 5 (Label.continuation 0 .returned))).map fun s =>
                  decide
                    (before.dynamicChildren.lookup (.str "w1") = some 0 ∧
                      before.requests = 1 ∧
                      Event.answered 1 .ok ∈ s.log ∧
                      s.task 0 = .done .raised ∧
                      s.reachedLoop 0 = false ∧ s.requested 0 = false ∧
                      s.exit 0 = .finished ∧
                      (s.log.filter fun event => event.about? = some 0) =
                        [])) =
        some true := by
    decide +kernel
  rcases Option.bind_eq_some_iff.mp run with ⟨before, ran, rest⟩
  rcases Option.bind_eq_some_iff.mp rest with ⟨first, taken, last⟩
  rcases Option.map_eq_some_iff.mp last with ⟨s, went, facts⟩
  rcases of_decide_eq_true facts with
    ⟨entered, numbered, answered, done, unreached, unasked, finished,
      untold⟩
  refine
    ⟨before, first, s, reaches_of_runWhere .start ran, taken,
      reaches_of_runWhere .start went, by decide +kernel, by decide +kernel, ?_⟩
  intro idempotent
  have named :
      (field waitingSpawn.payload "name" (.str "")).key? =
        some (.str "w1") := by
    decide +kernel
  rcases idempotent.promised (.str "w1") named
      (by rw [numbered]; exact answered) with
    ⟨record, made, noticed⟩
  have same : record = 0 := by
    rcases made.made with found | ⟨absent, _⟩
    · rw [entered] at found
      exact (Option.some.inj found).symm
    · rw [entered] at absent
      cases absent
  subst same
  rcases ((noticed ⟨⟨.raised, done⟩, unreached⟩ unasked).1 finished).notice
    with ⟨origin, _, _, once⟩
  rw [untold] at once
  cases once

end Civitas.Dynamic
