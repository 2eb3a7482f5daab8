import Civitas.Dynamic.Step
import Mathlib.Tactic.SplitIfs

/-!
# Spawn quotas

The four limits are checked when a spawn request is taken and charged when it
is admitted, with several awaits in between.  The invariant therefore speaks
about the request on its way to admission: the limits it was checked against
still have room, because only an admission uses any.

The books of a supervisor, its tables and counters, are an abstract ledger
with two operations: a child is removed, a spawn is admitted.  The steps of
the supervisor do nothing else to them, with one exception: a spawner that
cannot be a dictionary key raises in the middle of the admission block, after
`_total_spawns` has been incremented and before anything else is recorded.
-/

namespace Civitas.Dynamic

open Civitas.CountTable
open Civitas.PyValue
open Civitas.Transition
open Function (update)

/-! ## The ledger -/

/-- The tables and counters that quotas are about. -/
structure Ledger where
  children : Table Name Nat
  spawners : Name → Option Key
  totalSpawns : Nat
  totals : Table Key Nat
  origins : List Origin

/-- The children recorded for a spawner. -/
def Ledger.liveFor (books : Ledger) (spawner : Key) : Nat :=
  countKeys books.children fun name => books.spawners name == some spawner

/-- A child is removed; its spawn stays counted. -/
def Ledger.remove (books : Ledger) (name : Name) : Ledger :=
  { books with children := books.children.erase name }

/-- A spawn is entered and counted. -/
def Ledger.enroll (books : Ledger) (origin : Origin) : Ledger where
  children := books.children.insert origin.name origin.record
  spawners := update books.spawners origin.name (some origin.spawner)
  totalSpawns := books.totalSpawns + 1
  totals := bump books.totals origin.spawner
  origins := origin :: books.origins

/-- A count stays within a limit that is set. -/
def WithinLimit (limit : Option Int) (count : Nat) : Prop :=
  ∀ bound, limit = some bound → (count : Int) ≤ bound

/-- The quotas of a supervisor and the agreement of its counters. -/
structure QuotasHold (cfg : Config) (books : Ledger) : Prop where
  children : WithinLimit cfg.maxChildren books.children.keys.length
  totalSpawns : WithinLimit cfg.maxTotalSpawns books.totalSpawns
  childrenOf : ∀ spawner,
    WithinLimit cfg.maxChildrenPerSpawner (books.liveFor spawner)
  totalSpawnsOf : ∀ spawner,
    WithinLimit cfg.maxTotalSpawnsPerSpawner (count books.totals spawner)
  admitted : books.totalSpawns = books.origins.length
  summed : books.totalSpawns = total books.totals

/-- No total of a ledger is below that of an earlier one. -/
structure TotalsGrow (before after : Ledger) : Prop where
  totalSpawns : before.totalSpawns ≤ after.totalSpawns
  totalSpawnsOf : ∀ spawner,
    count before.totals spawner ≤ count after.totals spawner

/-- The limits leave room for one more child of this name and spawner. -/
structure HasRoom
    (cfg : Config) (books : Ledger) (name : Name) (spawner : Value) :
    Prop where
  fresh : books.children.lookup name = none
  children : limitReached cfg.maxChildren books.children.keys.length = false
  totalSpawns : limitReached cfg.maxTotalSpawns books.totalSpawns = false
  childrenOf : ∀ key, spawner.key? = some key →
    limitReached cfg.maxChildrenPerSpawner (books.liveFor key) = false
  totalSpawnsOf : ∀ key, spawner.key? = some key →
    limitReached cfg.maxTotalSpawnsPerSpawner
      (count books.totals key) = false

theorem limitReached_mono
    {limit : Option Int} {smaller larger : Nat}
    (le : smaller ≤ larger) (free : limitReached limit larger = false) :
    limitReached limit smaller = false := by
  cases limit with
  | none => rfl
  | some bound =>
      simp only [limitReached, decide_eq_false_iff_not] at free ⊢
      omega

theorem WithinLimit.mono
    {limit : Option Int} {smaller larger : Nat}
    (le : smaller ≤ larger) (within : WithinLimit limit larger) :
    WithinLimit limit smaller := by
  intro bound set
  have bounded := within bound set
  omega

/-- There is room for one more below a limit that is not reached. -/
theorem WithinLimit.succ
    {limit : Option Int} {current : Nat}
    (free : limitReached limit current = false) :
    WithinLimit limit (current + 1) := by
  intro bound set
  subst set
  simp only [limitReached, decide_eq_false_iff_not] at free
  omega

theorem Ledger.liveFor_remove_le
    (books : Ledger) (name : Name) (spawner : Key) :
    (books.remove name).liveFor spawner ≤ books.liveFor spawner :=
  countKeys_erase_le books.children name _

theorem QuotasHold.remove
    {cfg : Config} {books : Ledger}
    (held : QuotasHold cfg books) (name : Name) :
    QuotasHold cfg (books.remove name) where
  children := held.children.mono (length_keys_erase_le _ name)
  totalSpawns := held.totalSpawns
  childrenOf := fun spawner =>
    (held.childrenOf spawner).mono (books.liveFor_remove_le name spawner)
  totalSpawnsOf := held.totalSpawnsOf
  admitted := held.admitted
  summed := held.summed

theorem HasRoom.remove
    {cfg : Config} {books : Ledger} {name : Name} {spawner : Value}
    (room : HasRoom cfg books name spawner) (removed : Name) :
    HasRoom cfg (books.remove removed) name spawner where
  fresh := by
    by_cases same : name = removed
    · rw [same]
      exact AList.lookup_erase removed books.children
    · rw [← room.fresh]
      exact AList.lookup_erase_ne same
  children := limitReached_mono (length_keys_erase_le _ removed) room.children
  totalSpawns := room.totalSpawns
  childrenOf := fun key hashed =>
    limitReached_mono (books.liveFor_remove_le removed key)
      (room.childrenOf key hashed)
  totalSpawnsOf := room.totalSpawnsOf

/-- An admission adds one child to its spawner and none to the others. -/
theorem Ledger.liveFor_enroll
    {books : Ledger} {origin : Origin} (other : Key)
    (fresh : books.children.lookup origin.name = none) :
    (books.enroll origin).liveFor other =
      books.liveFor other + if other = origin.spawner then 1 else 0 := by
  have absent : origin.name ∉ books.children.keys := by
    rw [← AList.mem_keys, ← AList.lookup_eq_none]
    exact fresh
  have others :
      books.children.keys.countP
          (fun child =>
            update books.spawners origin.name (some origin.spawner) child ==
              some other) =
        books.children.keys.countP
          (fun child => books.spawners child == some other) := by
    apply List.countP_congr
    intro child member
    have apart : child ≠ origin.name := by
      intro same
      exact absent (same ▸ member)
    rw [Function.update_of_ne apart]
  simp only [Ledger.liveFor, Ledger.enroll, countKeys,
    keys_insert_of_fresh origin.record fresh, List.countP_cons, others,
    Function.update_self]
  by_cases same : other = origin.spawner
  · simp [same]
  · simp [same, Ne.symm same]

/-- An admission with room keeps the quotas. -/
theorem QuotasHold.enroll
    {cfg : Config} {books : Ledger} {origin : Origin} {value : Value}
    (held : QuotasHold cfg books)
    (room : HasRoom cfg books origin.name value)
    (hashed : value.key? = some origin.spawner) :
    QuotasHold cfg (books.enroll origin) where
  children := by
    have longer :
        (books.enroll origin).children.keys.length =
          books.children.keys.length + 1 := by
      rw [Ledger.enroll, keys_insert_of_fresh origin.record room.fresh]
      rfl
    rw [longer]
    exact .succ room.children
  totalSpawns := .succ room.totalSpawns
  childrenOf := by
    intro other
    rw [Ledger.liveFor_enroll other room.fresh]
    by_cases same : other = origin.spawner
    · rw [if_pos same, same]
      exact .succ (room.childrenOf origin.spawner hashed)
    · rw [if_neg same]
      exact held.childrenOf other
  totalSpawnsOf := by
    intro other
    by_cases same : other = origin.spawner
    · rw [same, Ledger.enroll, count_bump_self]
      exact .succ (room.totalSpawnsOf origin.spawner hashed)
    · rw [Ledger.enroll, count_bump_of_ne _ same]
      exact held.totalSpawnsOf other
  admitted := by
    rw [Ledger.enroll, held.admitted, List.length_cons]
  summed := by
    rw [Ledger.enroll, total_bump, held.summed]

/-! ## What a step does to the books -/

/-- The books of a supervisor; the admitted spawns are read off the log. -/
def State.ledger (s : State) : Ledger where
  children := s.dynamicChildren
  spawners := s.spawnerNames
  totalSpawns := s.totalSpawns
  totals := s.spawnerTotalCounts
  origins := s.log.filterMap Event.origin?

/-- The spawn request that the loop is working on. -/
def LoopStage.spawn? : LoopStage → Option SpawnRequest
  | .consulting spawn => some spawn
  | .subscribing spawn _ => some spawn
  | .auditing spawn _ => some spawn
  | _ => none

/-- The spawn request that the hook is asked about, and what it can see. -/
def State.asked (s : State) : Option (SpawnRequest × Option Value) :=
  match s.loop with
  | .consulting spawn => some (spawn, s.currentSpawner)
  | _ => none

/-- Books and pending spawn request are kept, up to a removed child. -/
structure KeepsBooks (before after : State) : Prop where
  books :
    after.ledger = before.ledger ∨
      ∃ name, after.ledger = before.ledger.remove name
  pending : ∀ spawn,
    after.loop.spawn? = some spawn → before.loop.spawn? = some spawn
  asked : ∀ view, after.asked = some view → before.asked = some view

theorem State.asked_none {s : State} (none : s.loop.spawn? = none) :
    s.asked = Option.none := by
  unfold State.asked
  split
  · rename_i stage
    rw [stage] at none
    cases none
  · rfl

/-- A step that leaves the books alone and ends in no spawn stage. -/
theorem KeepsBooks.quiet
    {before after : State}
    (same : after.ledger = before.ledger)
    (none : after.loop.spawn? = none) :
    KeepsBooks before after := by
  constructor
  · exact Or.inl same
  · intro spawn pending
    rw [none] at pending
    cases pending
  · intro view asked
    rw [State.asked_none none] at asked
    cases asked

/-- A step of another task that leaves the books alone. -/
theorem KeepsBooks.aside
    {before after : State}
    (same : after.ledger = before.ledger)
    (loop : after.loop = before.loop)
    (seen : after.asked = before.asked) :
    KeepsBooks before after := by
  constructor
  · exact Or.inl same
  · intro spawn pending
    rw [← loop]
    exact pending
  · intro view asked
    rw [← seen]
    exact asked

/-- A step of another task that removes a child. -/
theorem KeepsBooks.removal
    {before after : State} {name : Name}
    (removed : after.ledger = before.ledger.remove name)
    (loop : after.loop = before.loop)
    (seen : after.asked = before.asked) :
    KeepsBooks before after := by
  constructor
  · exact Or.inr ⟨name, removed⟩
  · intro spawn pending
    rw [← loop]
    exact pending
  · intro view asked
    rw [← seen]
    exact asked

theorem KeepsBooks.stopChildren
    {before : State} (s : State) (names : List Name)
    (same : s.ledger = before.ledger) :
    KeepsBooks before (s.stopChildren names) := by
  apply KeepsBooks.quiet
  · exact same
  · simp only [State.stopChildren]
    split
    · rfl
    · rfl

theorem KeepsBooks.onStop
    {before : State} (s : State) (same : s.ledger = before.ledger) :
    KeepsBooks before s.onStop :=
  KeepsBooks.stopChildren { s with requested := fun _ => true } _ same

theorem KeepsBooks.fail
    {before : State} (s : State) (same : s.ledger = before.ledger) :
    KeepsBooks before s.fail :=
  KeepsBooks.onStop { s with log := .raised :: s.log } same

theorem KeepsBooks.finishRemoval
    {before : State} (s : State) (request : Request) (name : Name)
    (same : s.ledger = before.ledger) :
    KeepsBooks before (s.finishRemoval request name) := by
  constructor
  · right
    rw [← same]
    exact ⟨name, rfl⟩
  · intro spawn pending
    cases pending
  · intro view asked
    cases asked

theorem KeepsBooks.afterStop
    {before : State} (s : State) (stop : StopRequest)
    (same : s.ledger = before.ledger) :
    KeepsBooks before (s.afterStop stop) := by
  unfold State.afterStop
  split
  · split_ifs with live
    · exact KeepsBooks.quiet same rfl
    · exact KeepsBooks.finishRemoval s _ _ same
  · exact KeepsBooks.finishRemoval s _ _ same

theorem KeepsBooks.takeDespawn
    (s : State) (request : Request) (payload : Dict) :
    KeepsBooks s (s.takeDespawn request payload) := by
  unfold State.takeDespawn
  split
  · exact KeepsBooks.fail s rfl
  · split
    · exact KeepsBooks.quiet rfl rfl
    · simp only
      split
      · split_ifs with live
        · exact KeepsBooks.quiet rfl rfl
        · exact KeepsBooks.quiet rfl rfl
      · exact KeepsBooks.quiet rfl rfl

theorem KeepsBooks.takeStop
    (cfg : Config) (s : State) (request : Request) (payload : Dict) :
    KeepsBooks s (s.takeStop cfg request payload) := by
  unfold State.takeStop
  split_ifs with floats
  · exact KeepsBooks.fail s rfl
  · split
    · exact KeepsBooks.fail s rfl
    · split
      · exact KeepsBooks.quiet rfl rfl
      · simp only
        split_ifs with posts
        · exact KeepsBooks.quiet rfl rfl
        · exact .afterStop
            { s with requested := update s.requested _ true } _ rfl

theorem KeepsBooks.resumeConsulting
    {s : State} {spawn : SpawnRequest}
    (consulting : s.loop = .consulting spawn)
    (approved constructs : Bool) :
    KeepsBooks s (s.resumeConsulting spawn approved constructs) := by
  unfold State.resumeConsulting
  split_ifs with denied fails taken
  · exact KeepsBooks.quiet rfl rfl
  · exact KeepsBooks.fail { s with currentSpawner := none } rfl
  · exact KeepsBooks.quiet rfl rfl
  · refine ⟨Or.inl rfl, ?_, by rintro _ ⟨⟩⟩
    intro other pending
    rw [consulting]
    exact pending

/-- Every resumption of the loop but an admission keeps the books. -/
theorem KeepsBooks.resumeLoop
    {s after : State} {resumption : Resumption}
    (resumed : s.resumeLoop resumption = some after) :
    KeepsBooks s after ∨
      ∃ spawn agent, s.loop = .auditing spawn agent ∧
        resumption = .returned ∧ after = s.enroll spawn agent := by
  have answered : ∀ request answer,
      KeepsBooks s (s.answer request answer) := by
    intro request answer
    refine KeepsBooks.quiet ?_ rfl
    simp only [State.answer, State.ledger]
    split_ifs with correlated
    · rfl
    · rfl
  unfold State.resumeLoop at resumed
  repeat' split at resumed
  all_goals cases resumed
  all_goals
    first
    | exact Or.inl (KeepsBooks.fail s rfl)
    | exact Or.inl (KeepsBooks.onStop s rfl)
    | exact Or.inl (KeepsBooks.fail { s with currentSpawner := none } rfl)
    | exact Or.inl (KeepsBooks.onStop { s with currentSpawner := none } rfl)
    | exact Or.inl (KeepsBooks.afterStop s _ rfl)
    | exact Or.inl (KeepsBooks.finishRemoval s _ _ rfl)
    | exact Or.inl (KeepsBooks.quiet rfl rfl)
    | exact Or.inl (answered _ _)
    | exact Or.inl (KeepsBooks.stopChildren s _ rfl)
    | skip
  · rename_i spawn agent stage _
    refine Or.inl ⟨Or.inl rfl, ?_, by rintro _ ⟨⟩⟩
    intro other pending
    rw [stage]
    exact pending
  · rename_i spawn agent stage _
    exact Or.inr ⟨spawn, agent, stage, rfl, rfl⟩

theorem KeepsBooks.resumeExit
    {cfg : Config} {s after : State} {agent now : Nat}
    {resumption : Resumption} {constructs : Bool}
    (resumed :
      s.resumeExit cfg agent resumption now constructs = some after) :
    KeepsBooks s after := by
  have began : ∀ crashed,
      KeepsBooks s (s.beginExit cfg agent crashed now constructs) := by
    intro crashed
    unfold State.beginExit
    split
    · exact KeepsBooks.aside rfl rfl rfl
    · simp only
      split_ifs
      all_goals exact KeepsBooks.aside rfl rfl rfl
  unfold State.resumeExit at resumed
  simp only at resumed
  repeat' split at resumed
  all_goals cases resumed
  all_goals
    first
    | exact KeepsBooks.aside rfl rfl rfl
    | exact KeepsBooks.removal rfl rfl rfl
    | exact began _

theorem KeepsBooks.resumeContinuation
    {s after : State} {record : Nat} {resumption : Resumption}
    (resumed : s.resumeContinuation record resumption = some after) :
    KeepsBooks s after := by
  unfold State.resumeContinuation at resumed
  simp only at resumed
  repeat' split at resumed
  all_goals cases resumed
  all_goals
    first
    | exact KeepsBooks.aside rfl rfl rfl
    | exact KeepsBooks.removal rfl rfl rfl

theorem KeepsBooks.childStep
    {s after : State} {agent : Nat} {event : ChildEvent}
    (acted : s.childStep agent event = some after) :
    KeepsBooks s after := by
  unfold State.childStep at acted
  repeat' split at acted
  all_goals cases acted
  all_goals exact KeepsBooks.aside rfl rfl rfl

theorem KeepsBooks.foreignStep
    {s after : State} {name : Name} {joins : Bool}
    (acted : s.foreignStep name joins = some after) :
    KeepsBooks s after := by
  unfold State.foreignStep at acted
  split at acted
  all_goals cases acted
  all_goals exact KeepsBooks.aside rfl rfl rfl

theorem State.receive_ledger (s : State) (message : Message) :
    (s.receive message).ledger = s.ledger := by
  simp only [State.receive, State.ledger]
  split_ifs with removal
  · rfl
  · rfl

theorem KeepsBooks.receive
    {s after : State} {message : Message}
    (kept : KeepsBooks (s.receive message) after) :
    KeepsBooks s after := by
  constructor
  · rw [← s.receive_ledger message]
    exact kept.books
  · exact kept.pending
  · exact kept.asked

/-- A spawn request passes its checks and goes to the hook. -/
structure Consults
    (cfg : Config) (s : State) (label : Label) (after : State)
    (message : Message) (name : Name) : Prop where
  taken : label = .take message
  spawn : message.kind = .spawn
  decided :
    s.spawnDecision cfg message.payload (spawnerOf message.payload) =
      .consult name
  after :
    after =
      (s.receive message).consult ⟨s.requests, message.correlated⟩ message
        name

/-- Taking a message keeps the books or passes a spawn on to the hook. -/
theorem takeMessage_books
    (cfg : Config) (s : State) (message : Message) :
    KeepsBooks s (s.takeMessage cfg message) ∨
      ∃ name,
        Consults cfg s (.take message) (s.takeMessage cfg message) message
          name := by
  cases kind : message.kind with
  | spawn =>
      simp only [State.takeMessage, kind, State.takeSpawn]
      split
      · exact Or.inl (.receive (KeepsBooks.quiet rfl rfl))
      · exact Or.inl (.receive (KeepsBooks.fail _ rfl))
      · rename_i name decided
        exact Or.inr ⟨name, rfl, kind, decided, rfl⟩
  | shutdown =>
      simp only [State.takeMessage, kind]
      exact Or.inl (.receive (KeepsBooks.onStop _ rfl))
  | despawn =>
      simp only [State.takeMessage, kind]
      exact Or.inl (.receive (KeepsBooks.takeDespawn _ _ _))
  | stop =>
      simp only [State.takeMessage, kind]
      exact Or.inl (.receive (KeepsBooks.takeStop cfg _ _ _))
  | other =>
      simp only [State.takeMessage, kind]
      exact Or.inl (.receive (KeepsBooks.aside rfl rfl rfl))

/--
What a step does to the books: it keeps them, passes a spawn request to the
hook, or runs the admission block.
-/
theorem step_books
    {cfg : Config} {s after : State} {label : Label}
    (stepped : step cfg s label = some after) :
    KeepsBooks s after ∨
      (∃ message name, Consults cfg s label after message name) ∨
      ∃ spawn agent, s.loop = .auditing spawn agent ∧
        label = .loop .returned ∧ after = s.enroll spawn agent := by
  cases label with
  | take message =>
      cases loop : s.loop with
      | idle =>
          simp only [step, loop, Option.some.injEq] at stepped
          subst stepped
          rcases takeMessage_books cfg s message with kept | ⟨name, consults⟩
          · exact Or.inl kept
          · exact Or.inr (Or.inl ⟨message, name, consults⟩)
      | _ => simp [step, loop] at stepped
  | consulted approved constructs =>
      cases loop : s.loop with
      | consulting spawn =>
          simp only [step, loop, Option.some.injEq] at stepped
          subst stepped
          exact Or.inl (KeepsBooks.resumeConsulting loop approved constructs)
      | _ => simp [step, loop] at stepped
  | loop resumption =>
      rcases KeepsBooks.resumeLoop stepped with
        kept | ⟨spawn, agent, stage, returned, admitted⟩
      · exact Or.inl kept
      · subst returned
        exact Or.inr (Or.inr ⟨spawn, agent, stage, rfl, admitted⟩)
  | exit agent resumption now constructs =>
      exact Or.inl (KeepsBooks.resumeExit stepped)
  | continuation record resumption =>
      exact Or.inl (KeepsBooks.resumeContinuation stepped)
  | child agent event => exact Or.inl (KeepsBooks.childStep stepped)
  | foreign name joins => exact Or.inl (KeepsBooks.foreignStep stepped)

/-! ## Every run keeps the quotas -/

theorem spawnerLimit_room
    {cfg : Config} {s : State} {spawner : Value} {key : Key}
    (limits : s.spawnerLimit cfg spawner = some none)
    (hashed : spawner.key? = some key) :
    limitReached cfg.maxChildrenPerSpawner (s.liveFor key) = false ∧
      limitReached cfg.maxTotalSpawnsPerSpawner
        (count s.spawnerTotalCounts key) = false := by
  simp only [State.spawnerLimit, hashed, Option.map_some, Option.getD_some]
    at limits
  split_ifs at limits with full unlimited spent
  · cases limits
  · constructor
    · exact Bool.eq_false_iff.mpr full
    · rw [Option.isNone_iff_eq_none.mp unlimited]
      rfl
  · cases limits
  · constructor
    · exact Bool.eq_false_iff.mpr full
    · exact Bool.eq_false_iff.mpr spent

/-- A request is only passed to the hook when there is room for it. -/
theorem hasRoom_of_consult
    {cfg : Config} {s : State} {payload : Dict} {name : Name}
    {spawner : Value}
    (decided : s.spawnDecision cfg payload spawner = .consult name) :
    HasRoom cfg s.ledger name spawner := by
  have fresh := spawnDecision_fresh decided
  unfold State.spawnDecision at decided
  split at decided
  · cases decided
  · split at decided
    · simp only at decided
      split_ifs at decided
    · split_ifs at decided with registered full spent
      split at decided
      · cases decided
      · cases decided
      · rename_i limits
        split at decided
        · cases decided
        · cases decided
        · cases decided
          constructor
          · exact fresh
          · exact Bool.eq_false_iff.mpr full
          · exact Bool.eq_false_iff.mpr spent
          · intro key hashed
            exact (spawnerLimit_room limits hashed).1
          · intro key hashed
            exact (spawnerLimit_room limits hashed).2

/-- A spawn that reaches its admission has a hashable spawner. -/
def hashableSpawner (s : State) (label : Label) : Bool :=
  match s.loop, label with
  | .auditing spawn _, .loop .returned => spawn.spawner.key?.isSome
  | _, _ => true

/-- The configured limits are not negative. -/
structure Config.LimitsNonneg (cfg : Config) : Prop where
  children : WithinLimit cfg.maxChildren 0
  totalSpawns : WithinLimit cfg.maxTotalSpawns 0
  childrenOf : WithinLimit cfg.maxChildrenPerSpawner 0
  totalSpawnsOf : WithinLimit cfg.maxTotalSpawnsPerSpawner 0

/-- Quotas hold, and the spawn request under way has room. -/
structure Budgeted (cfg : Config) (s : State) : Prop where
  quotas : QuotasHold cfg s.ledger
  room : ∀ spawn, s.loop.spawn? = some spawn →
    HasRoom cfg s.ledger spawn.name spawn.spawner

theorem budgeted_init {cfg : Config} (nonneg : cfg.LimitsNonneg) :
    Budgeted cfg init where
  quotas :=
    { children := nonneg.children
      totalSpawns := nonneg.totalSpawns
      childrenOf := fun _ => nonneg.childrenOf
      totalSpawnsOf := fun _ => nonneg.totalSpawnsOf
      admitted := rfl
      summed := rfl }
  room := by
    intro spawn pending
    cases pending

theorem Budgeted.keeps
    {cfg : Config} {before after : State}
    (budgeted : Budgeted cfg before) (kept : KeepsBooks before after) :
    Budgeted cfg after := by
  rcases kept.books with same | ⟨name, removed⟩
  · constructor
    · rw [same]
      exact budgeted.quotas
    · intro spawn pending
      rw [same]
      exact budgeted.room spawn (kept.pending spawn pending)
  · constructor
    · rw [removed]
      exact budgeted.quotas.remove name
    · intro spawn pending
      rw [removed]
      exact (budgeted.room spawn (kept.pending spawn pending)).remove name

/-- The admission block of a hashable spawner, on the books. -/
theorem admit_ledger
    (s : State) {spawn : SpawnRequest} (agent : Nat) {spawner : Key}
    (hashed : spawn.spawner.key? = some spawner) :
    (s.enroll spawn agent).ledger =
        s.ledger.enroll ⟨agent, spawn.name, spawn.sender, spawner⟩ ∧
      (s.enroll spawn agent).loop.spawn? = none := by
  simp only [State.enroll, hashed]
  constructor
  · rfl
  · split_ifs with waits
    · rfl
    · rfl

theorem Consults.ledger
    {cfg : Config} {s after : State} {label : Label} {message : Message}
    {name : Name} (consults : Consults cfg s label after message name) :
    after.ledger = s.ledger := by
  rw [consults.after]
  exact s.receive_ledger message

theorem step_budgeted
    {cfg : Config} {s after : State} {label : Label}
    (budgeted : Budgeted cfg s)
    (hashable : hashableSpawner s label = true)
    (stepped : step cfg s label = some after) :
    Budgeted cfg after := by
  rcases step_books stepped with
    kept | ⟨message, name, consults⟩ |
      ⟨spawn, agent, stage, returned, admitted⟩
  · exact budgeted.keeps kept
  · constructor
    · rw [consults.ledger]
      exact budgeted.quotas
    · intro spawn pending
      rw [consults.ledger]
      rw [consults.after] at pending
      cases pending
      exact hasRoom_of_consult consults.decided
  · subst returned
    simp only [hashableSpawner, stage] at hashable
    rcases Option.isSome_iff_exists.mp hashable with ⟨spawner, hashed⟩
    rcases admit_ledger s agent hashed with ⟨books, none⟩
    subst admitted
    have room := budgeted.room spawn (by rw [stage]; rfl)
    constructor
    · rw [books]
      exact budgeted.quotas.enroll room hashed
    · intro other pending
      rw [none] at pending
      cases pending

theorem step_totalsGrow
    {cfg : Config} {s after : State} {label : Label}
    (stepped : step cfg s label = some after) :
    TotalsGrow s.ledger after.ledger := by
  rcases step_books stepped with
    kept | ⟨message, name, consults⟩ | ⟨spawn, agent, _, _, admitted⟩
  · rcases kept.books with same | ⟨name, removed⟩
    · rw [same]
      exact ⟨le_rfl, fun _ => le_rfl⟩
    · rw [removed]
      exact ⟨le_rfl, fun _ => le_rfl⟩
  · rw [consults.ledger]
    exact ⟨le_rfl, fun _ => le_rfl⟩
  · subst admitted
    cases hashed : spawn.spawner.key? with
    | none =>
        simp only [State.enroll, hashed]
        exact ⟨Nat.le_succ _, fun _ => le_rfl⟩
    | some spawner =>
        rw [(admit_ledger s agent hashed).1]
        constructor
        · exact Nat.le_succ _
        · intro other
          by_cases same : other = spawner
          · rw [same, Ledger.enroll, count_bump_self]
            exact Nat.le_succ _
          · rw [Ledger.enroll, count_bump_of_ne _ same]

/--
With limits that are not negative, in every run whose admissions have hashable
spawners: every state keeps the quotas, the total equals the number of
admitted spawns and the sum of the totals of the spawners, and no step lowers
a total.
-/
theorem quotas_hold_in_every_run
    (cfg : Config) (nonneg : cfg.LimitsNonneg) {s : State}
    (reached : Reaches (step cfg) (hashableSpawner · ·) init s) :
    QuotasHold cfg s.ledger ∧
      ∀ label after, hashableSpawner s label →
        step cfg s label = some after → TotalsGrow s.ledger after.ledger := by
  constructor
  · have budgeted : Budgeted cfg s := by
      apply reached.invariant (budgeted_init nonneg)
      intro before label after held hashable stepped
      exact step_budgeted held hashable stepped
    exact budgeted.quotas
  · intro label after _ stepped
    exact step_totalsGrow stepped

/-- Two children at most, one of them for each spawner. -/
def pairConfig : Config where
  maxChildren := some 2
  maxChildrenPerSpawner := some 1
  imports := fun _ => true
  floats := fun _ => true

/-- Take a spawn request and bring it to its admission. -/
def admission (message : Message) : List Label :=
  [.take message, .consulted true true, .loop .returned, .loop .returned]

theorem quotas_hold_after_one_spawn :
    ∃ s : State, s.totalSpawns = 1 ∧ QuotasHold pairConfig s.ledger := by
  have nonneg : pairConfig.LimitsNonneg := by
    constructor
    · intro bound set
      cases set
      decide
    · intro bound set
      cases set
    · intro bound set
      cases set
      decide
    · intro bound set
      cases set
  have ran :
      ((runWhere (step pairConfig) (hashableSpawner · ·) init
        (admission (spawnInto "planner" "app.Worker" "w1" true "1"))).map
          (·.totalSpawns)) = some 1 := by
    decide +kernel
  rcases exists_reaches_of_run ran with ⟨s, run, spawned⟩
  exact
    ⟨s, spawned,
      (quotas_hold_in_every_run pairConfig nonneg
        run).1⟩

/-- A spawn request whose spawner is an empty list. -/
def listSpawner : Message where
  type := "civitas.dynamic.spawn"
  sender := "planner"
  payload :=
    dictOf
      [("class_path", .str "app.Worker"), ("name", .str "w1"),
        ("spawner", .list [])]

/-- Its admission is counted in the total and nowhere else. -/
theorem unhashable_spawner_breaks_totals :
    ∃ s,
      Reaches (step { imports := fun _ => true, floats := fun _ => true })
          (fun _ _ => True) init s ∧
        ¬ QuotasHold
            { imports := fun _ => true, floats := fun _ => true }
            s.ledger := by
  have ran :
      ((runWhere
          (step { imports := fun _ => true, floats := fun _ => true })
          (fun _ _ => True) init (admission listSpawner)).map fun s =>
            (s.ledger.totalSpawns, s.ledger.origins.length)) = some (1, 0) := by
    decide +kernel
  rcases exists_reaches_of_run ran with ⟨s, run, counted⟩
  refine ⟨s, run, ?_⟩
  intro held
  rcases Prod.mk.inj counted with ⟨total, admitted⟩
  have same := held.admitted
  rw [total, admitted] at same
  cases same

end Civitas.Dynamic
