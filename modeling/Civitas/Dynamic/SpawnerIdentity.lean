import Civitas.Dynamic.Lineage
import Civitas.Dynamic.Observations
import Civitas.Dynamic.Quotas

/-!
# The identity that spawns are charged to

The allowlist, the per-spawner quotas, the governance hook and the termination
notices all use the `spawner` field of the payload.  The message itself has a
sender, and nothing compares the two.  When every request that gets as far as
these checks names its sender, and a name is claimed only when nothing works
under it, spawns are authorized by, charged to and reported to their senders.
An agent that writes another name into the payload is taken for that agent.
-/

namespace Civitas.Dynamic

open Civitas.CountTable
open Civitas.PyValue
open Civitas.Transition

/-! ## What is expected -/

/-- The sender is on the allowlist, when there is one. -/
def Config.Allows (cfg : Config) (sender : String) : Prop :=
  ∀ allowed, cfg.spawnerAllowlist = some allowed → Key.str sender ∈ allowed

/-- Spawns are authorized, charged and reported by their senders. -/
structure SendersCharged
    (cfg : Config) (permits : State → Label → Prop) (s : State) :
    Prop where
  checked : ∀ message,
    permits s (.take message) → message.kind = .spawn →
      s.spawnDecision cfg message.payload (spawnerOf message.payload) =
        s.spawnDecision cfg message.payload (.str message.sender)
  asked : ∀ spawn, s.loop = .consulting spawn →
    s.currentSpawner = some (.str spawn.sender)
  created : ∀ origin ∈ s.roster.origins, cfg.Allows origin.sender
  recorded : ∀ name record,
    s.dynamicChildren.lookup name = some record →
      ∃ origin ∈ s.roster.origins,
        origin.record = record ∧ origin.name = name ∧
          s.spawnerNames name = some (.str origin.sender)
  charged : ∀ sender,
    count s.spawnerTotalCounts (.str sender) =
      s.roster.origins.countP fun origin => origin.sender == sender
  notified : ∀ about child spawner,
    Event.notified about child spawner ∈ s.log →
      ∃ origin ∈ s.roster.origins,
        origin.record = s.home about ∧ origin.name = child ∧
          spawner = .str origin.sender

/-! ## Requests that reach the checks on their spawner -/

/-- The request passes the checks that do not use its spawner. -/
def State.reachesSpawner
    (cfg : Config) (s : State) (payload : Dict) : Bool :=
  match (field payload "name" (.str "")).key? with
  | none => false
  | some name =>
      (s.dynamicChildren.lookup name).isNone && (s.registry name).isNone &&
        !limitReached cfg.maxChildren s.dynamicChildren.keys.length &&
        !limitReached cfg.maxTotalSpawns s.totalSpawns

/-- The payload names the sender as the spawner. -/
def Message.namesSender (message : Message) : Bool :=
  match spawnerOf message.payload with
  | .str spawner => spawner = message.sender
  | _ => false

/-- A spawn request that gets to the checks on its spawner names its sender. -/
def spawnerIsSender (cfg : Config) (s : State) (label : Label) : Bool :=
  match label with
  | .take message =>
      message.kind ≠ .spawn || !s.reachesSpawner cfg message.payload ||
        message.namesSender
  | _ => true

/-- Each spawn names its sender, and the name is free. -/
def attributed (cfg : Config) (s : State) (label : Label) : Bool :=
  spawnerIsSender cfg s label && claimsFreeName s label

theorem spawner_of_namesSender {message : Message}
    (names : message.namesSender = true) :
    spawnerOf message.payload = .str message.sender := by
  unfold Message.namesSender at names
  split at names
  · rename_i spawner found
    rw [found, of_decide_eq_true names]
  · cases names

/-- Before that point, the decision does not depend on the spawner. -/
theorem spawnDecision_congr
    {cfg : Config} {s : State} {payload : Dict}
    (early : s.reachesSpawner cfg payload = false)
    (left right : Value) :
    s.spawnDecision cfg payload left = s.spawnDecision cfg payload right := by
  unfold State.reachesSpawner at early
  unfold State.spawnDecision
  cases named : (field payload "name" (.str "")).key? with
  | none => rfl
  | some name =>
      simp only [named] at early ⊢
      cases entered : s.dynamicChildren.lookup name with
      | some record => rfl
      | none =>
          simp only [entered, Option.isNone_none, Bool.true_and] at early ⊢
          split_ifs with registered full spent
          · rfl
          · rfl
          · rfl
          · rw [Option.not_isSome_iff_eq_none] at registered
            simp [registered, full, spent] at early

/-- A request that is passed to the hook has got past that point. -/
theorem checks_of_consult
    {cfg : Config} {s : State} {payload : Dict} {spawner : Value}
    {name : Name}
    (decided : s.spawnDecision cfg payload spawner = .consult name) :
    s.reachesSpawner cfg payload = true ∧
      classAllowed cfg (field payload "class_path" (.str "")) spawner =
        some none := by
  unfold State.spawnDecision at decided
  unfold State.reachesSpawner
  cases named : (field payload "name" (.str "")).key? with
  | none =>
      simp only [named] at decided
      cases decided
  | some key =>
      simp only [named] at decided ⊢
      split at decided
      · split_ifs at decided
      · rename_i absent
        split_ifs at decided with registered full spent
        rw [Option.not_isSome_iff_eq_none] at registered
        split at decided
        · cases decided
        · cases decided
        · split at decided
          · cases decided
          · cases decided
          · rename_i allowed
            refine ⟨?_, allowed⟩
            simp [absent, registered, full, spent]

theorem allows_of_classAllowed
    {cfg : Config} {classPath : Value} {sender : String}
    (allowed : classAllowed cfg classPath (.str sender) = some none) :
    cfg.Allows sender := by
  intro list configured
  unfold classAllowed at allowed
  split at allowed
  · simp only [configured, Value.key?_str, Option.map_some] at allowed
    split_ifs at allowed with path imports listed
    · cases allowed
    · cases allowed
    · exact List.contains_iff_mem.mp listed
    · cases allowed
  · cases allowed

/-! ## Every run that names its senders -/

/-- Pending and admitted spawns are those of their senders. -/
structure Attributed (cfg : Config) (s : State) : Prop where
  pending : ∀ spawn, s.loop.spawn? = some spawn →
    spawn.spawner = .str spawn.sender ∧ cfg.Allows spawn.sender
  asked : ∀ view, s.asked = some view →
    view.2 = some (.str view.1.sender)
  origins : ∀ origin ∈ s.ledger.origins,
    origin.spawner = .str origin.sender ∧ cfg.Allows origin.sender
  charged : ∀ sender,
    count s.ledger.totals (.str sender) =
      s.ledger.origins.countP fun origin => origin.sender == sender

theorem attributed_init (cfg : Config) : Attributed cfg init where
  pending := by rintro _ ⟨⟩
  asked := by rintro _ ⟨⟩
  origins := by rintro _ ⟨⟩
  charged := fun _ => rfl

theorem Attributed.keeps
    {cfg : Config} {before after : State}
    (held : Attributed cfg before) (kept : KeepsBooks before after) :
    Attributed cfg after := by
  have same :
      after.ledger.origins = before.ledger.origins ∧
        after.ledger.totals = before.ledger.totals := by
    rcases kept.books with same | ⟨name, removed⟩
    · rw [same]
      exact ⟨rfl, rfl⟩
    · rw [removed]
      exact ⟨rfl, rfl⟩
  constructor
  · intro spawn pending
    exact held.pending spawn (kept.pending spawn pending)
  · intro view asked
    exact held.asked view (kept.asked view asked)
  · rw [same.1]
    exact held.origins
  · rw [same.1, same.2]
    exact held.charged

theorem Attributed.consults
    {cfg : Config} {s after : State} {label : Label} {message : Message}
    {name : Name}
    (held : Attributed cfg s)
    (named : spawnerIsSender cfg s label = true)
    (consults : Consults cfg s label after message name) :
    Attributed cfg after := by
  rcases checks_of_consult consults.decided with ⟨reaches, allowed⟩
  have names : message.namesSender = true := by
    simpa [spawnerIsSender, consults.taken, consults.spawn, reaches]
      using named
  have spawner := spawner_of_namesSender names
  rw [spawner] at allowed
  constructor
  · intro spawn pending
    rw [consults.after] at pending
    cases pending
    exact ⟨spawner, allows_of_classAllowed allowed⟩
  · intro view asked
    rw [consults.after] at asked
    cases asked
    exact congrArg some spawner
  · rw [consults.ledger]
    exact held.origins
  · rw [consults.ledger]
    exact held.charged

theorem Attributed.admits
    {cfg : Config} {s : State} {spawn : SpawnRequest} {agent : Nat}
    (held : Attributed cfg s) (stage : s.loop = .auditing spawn agent) :
    Attributed cfg (s.enroll spawn agent) := by
  have pending := held.pending spawn (by rw [stage]; rfl)
  have hashed : spawn.spawner.key? = some (.str spawn.sender) := by
    rw [pending.1]
    rfl
  rcases admit_ledger s agent hashed with ⟨books, none⟩
  constructor
  · intro other pending
    rw [none] at pending
    cases pending
  · intro view asked
    rw [State.asked_none none] at asked
    cases asked
  · intro origin member
    rw [books] at member
    rcases List.mem_cons.mp member with rfl | old
    · exact ⟨rfl, pending.2⟩
    · exact held.origins origin old
  · intro sender
    rw [books]
    simp only [Ledger.enroll, List.countP_cons, ← held.charged]
    by_cases same : spawn.sender = sender
    · subst same
      simp
    · have apart : Key.str sender ≠ .str spawn.sender := by
        intro equal
        exact same (Key.str.inj equal).symm
      simp [same, count_bump_of_ne _ apart]

theorem step_attributed
    {cfg : Config} {s after : State} {label : Label}
    (held : Attributed cfg s)
    (named : spawnerIsSender cfg s label = true)
    (stepped : step cfg s label = some after) :
    Attributed cfg after := by
  rcases step_books stepped with
    kept | ⟨message, name, consults⟩ | ⟨spawn, agent, stage, _, admitted⟩
  · exact held.keeps kept
  · exact held.consults named consults
  · rw [admitted]
    exact held.admits stage

/-- Every notice went to the spawner of the record it is about. -/
def Reported (s : State) : Prop :=
  ∀ about child spawner, Event.notified about child spawner ∈ s.log →
    about < s.next ∧ ∃ origin ∈ s.roster.origins,
      origin.record = s.home about ∧ origin.name = child ∧
        origin.spawner = spawner

theorem step_reported
    {cfg : Config} {s after : State} {label : Label}
    (kept : s.roster.Kept) (held : Reported s)
    (stepped : step cfg s label = some after) :
    Reported after := by
  rcases (step_motion stepped).grows with ⟨longer, _, homes, older⟩
  intro about child spawner sent
  have before : about < s.next ∧ ∃ origin ∈ s.roster.origins,
      origin.record = s.home about ∧ origin.name = child ∧
        origin.spawner = spawner := by
    rcases notified_of_step stepped sent with
      old | ⟨now, constructs, rfl, rfl, stage⟩
    · exact held about child spawner old
    · have view : s.roster.exit about = .notifying spawner := stage
      refine ⟨kept.numbered.born ?_, kept.notifying about spawner view⟩
      rw [view]
      simp
  rcases before with ⟨born, origin, member, record, named, charged⟩
  refine
    ⟨Nat.lt_of_lt_of_le born longer, origin, older origin member, ?_, named,
      charged⟩
  rw [record]
  exact (homes about born).symm

/--
In every run in which the spawn requests that get to the checks on their
spawner name their senders, and names are claimed only when nothing works
under them: spawns are authorized, charged and reported by their senders.
-/
theorem senders_charged_in_every_run
    (cfg : Config) {s : State}
    (reached : Reaches (step cfg) (attributed cfg · ·) init s) :
    SendersCharged cfg (attributed cfg · ·) s := by
  have held :
      s.roster.Kept ∧ Attributed cfg s ∧ Reported s := by
    apply reached.invariant
    · exact ⟨kept_init, attributed_init cfg, by rintro _ _ _ ⟨⟩⟩
    · intro before label after held permitted stepped
      rcases Bool.and_eq_true_iff.mp permitted with ⟨named, free⟩
      rcases held with ⟨kept, senders, reported⟩
      exact
        ⟨step_kept kept free stepped, step_attributed senders named stepped,
          step_reported kept reported stepped⟩
  rcases held with ⟨kept, senders, reported⟩
  constructor
  · intro message permitted spawn
    have named := (Bool.and_eq_true_iff.mp permitted).1
    by_cases reaches : s.reachesSpawner cfg message.payload = true
    · have names : message.namesSender = true := by
        simpa [spawnerIsSender, spawn, reaches] using named
      rw [spawner_of_namesSender names]
    · exact spawnDecision_congr (Bool.eq_false_iff.mpr reaches) _ _
  · intro spawn stage
    have asked : s.asked = some (spawn, s.currentSpawner) := by
      simp only [State.asked, stage]
    exact senders.asked _ asked
  · intro origin member
    exact (senders.origins origin member).2
  · intro name record entered
    rcases kept.entry name record entered with ⟨origin, taken, held⟩
    rcases Roster.incumbent_mem taken with ⟨member, named⟩
    have charged := (kept.incumbent name origin taken).2.2.2
    rw [(senders.origins origin member).1] at charged
    exact ⟨origin, member, held, named, charged⟩
  · exact senders.charged
  · intro about child spawner sent
    rcases reported about child spawner sent with
      ⟨_, origin, member, record, named, charged⟩
    refine ⟨origin, member, record, named, ?_⟩
    rw [← charged]
    exact (senders.origins origin member).1

/-- Only the planner may spawn. -/
def plannerConfig : Config where
  spawnerAllowlist := some [.str "planner"]
  imports := fun _ => true
  floats := fun _ => true

theorem senders_charged_after_spawn :
    ∃ s : State,
      s.roster.origins = [⟨0, .str "w1", "planner", .str "planner"⟩] ∧
        SendersCharged plannerConfig (attributed plannerConfig · ·) s := by
  have ran :
      ((runWhere (step plannerConfig) (attributed plannerConfig · ·) init
        [.take (spawnInto "planner" "app.Worker" "w1" false "1"),
          .consulted true true, .loop .returned, .loop .returned]).map
            fun s => s.roster.origins) =
        some [⟨0, .str "w1", "planner", .str "planner"⟩] := by
    decide +kernel
  rcases exists_reaches_of_run ran with ⟨s, run, spawned⟩
  exact
    ⟨s, spawned,
      senders_charged_in_every_run plannerConfig
        run⟩

/-- A spawn request of an outsider that names the planner as its spawner. -/
def borrowedSpawner : Message :=
  { spawnInto "planner" "app.Worker" "w1" false "1" with
    sender := "outsider" }

/-- It is admitted, although its sender is not on the allowlist. -/
theorem outsider_obtains_child :
    ∃ s : State,
      Reaches (step plannerConfig) (fun _ _ => True) init s ∧
        ¬ SendersCharged plannerConfig (fun _ _ => True) s := by
  have ran :
      ((runWhere (step plannerConfig) (fun _ _ => True) init
        [.take borrowedSpawner, .consulted true true, .loop .returned,
          .loop .returned]).map fun s => s.roster.origins) =
        some [⟨0, .str "w1", "outsider", .str "planner"⟩] := by
    decide +kernel
  rcases exists_reaches_of_run ran with ⟨s, run, spawned⟩
  refine ⟨s, run, ?_⟩
  intro charged
  have allowed :=
    charged.created ⟨0, .str "w1", "outsider", .str "planner"⟩
      (by rw [spawned]; exact List.mem_singleton_self _) _ rfl
  revert allowed
  decide

end Civitas.Dynamic
