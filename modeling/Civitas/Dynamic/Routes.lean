import Civitas.Dynamic.Lineage

/-!
# Keeping table, registry and bus together

The invariant speaks about one name at a time.  A name in the table is
registered and subscribed, unless a teardown of it is under way; a teardown
that has got past the registry or the bus has left nothing there; and a name
outside the table, and not claimed for a spawn, is in neither.

It is stated over the maps it depends on, and each thing that a handler or
the loop can do to them is one rule.
-/

namespace Civitas.Dynamic

open Function (update)

/-! ## The invariant -/

/-- The handler is between deregistration and removal. -/
def ExitStage.tearing : ExitStage → Bool
  | .unsubscribing _ | .draining _ => true
  | _ => false

/-- The handler has taken the subscription down and not removed the child. -/
def ExitStage.drains : ExitStage → Bool
  | .draining _ => true
  | _ => false

/-- The spawn drains the mailbox of its agent. -/
def SpawnStage.drains : SpawnStage → Bool
  | .draining => true
  | _ => false

/-- The handler removes its child without a teardown. -/
def ExitStage.clears : ExitStage → Bool
  | .clearing _ | .announcing _ => true
  | _ => false

/-- The loop removes a child or waits for its end. -/
def LoopStage.removal : LoopStage → Bool
  | .despawnWaiting .. | .despawnClearing .. | .stopPosting ..
  | .stopAgentWaiting .. | .stopAgentCancelled .. | .stopWaiting ..
  | .stopCancelled .. | .removing .. | .stopping .. => true
  | _ => false

/-- The loop has ended and `on_stop` has begun. -/
def LoopStage.halted : LoopStage → Bool
  | .stopping .. | .gathering | .ended => true
  | _ => false

theorem ExitStage.begun_of_tearing {stage : ExitStage}
    (tearing : stage.tearing = true) : stage.begun = true := by
  cases stage <;> first | rfl | cases tearing

theorem ExitStage.tearing_of_drains {stage : ExitStage}
    (drains : stage.drains = true) : stage.tearing = true := by
  cases stage <;> first | rfl | cases drains

theorem SpawnStage.tearing_of_drains {stage : SpawnStage}
    (drains : stage.drains = true) : stage.tearing = true := by
  cases stage <;> first | rfl | cases drains

/-- Where the handlers and continuations of all names stand. -/
structure Stages where
  agentName : Nat → Name
  home : Nat → Nat
  exit : Nat → ExitStage
  continuation : Nat → SpawnStage

/-- A teardown of the name has deregistered it. -/
def Stages.Tears (stages : Stages) (name : Name) : Prop :=
  ∃ agent, stages.agentName agent = name ∧
    ((stages.exit agent).tearing = true ∨
      (stages.continuation agent).tearing = true)

/-- A teardown of the name has unsubscribed it. -/
def Stages.Drains (stages : Stages) (name : Name) : Prop :=
  ∃ agent, stages.agentName agent = name ∧
    ((stages.exit agent).drains = true ∨
      (stages.continuation agent).drains = true)

theorem Stages.Drains.tears {stages : Stages} {name : Name}
    (drains : stages.Drains name) : stages.Tears name := by
  rcases drains with ⟨agent, named, exit | spawn⟩
  · exact ⟨agent, named, .inl (ExitStage.tearing_of_drains exit)⟩
  · exact ⟨agent, named, .inr (SpawnStage.tearing_of_drains spawn)⟩

/-- The invariant, over what it depends on. -/
structure Routes
    (entry : Name → Option Nat) (registry : Name → Option Owner)
    (handlers : Name → Option Nat) (stages : Stages) (loop : LoopStage) :
    Prop where
  claimed : ∀ name agent, loop.errand = .claimed name agent →
    registry name = some .mine
  audited : ∀ spawn agent, loop = .auditing spawn agent →
    (handlers spawn.name).isSome = true
  tracked : ∀ name record, entry name = some record →
    registry name = some .mine ∧ (handlers name).isSome = true ∨
      stages.Tears name
  absent : ∀ name, entry name = none →
    (∀ agent, loop.errand ≠ .claimed name agent) →
      registry name ≠ some .mine ∧ handlers name = none
  torn : ∀ name, stages.Tears name → registry name ≠ some .mine
  drained : ∀ name, stages.Drains name → handlers name = none
  building : ∀ agent built, (stages.exit agent).building = some built →
    entry (stages.agentName agent) = some (stages.home agent)
  uncleared : ∀ agent, (stages.exit agent).clears = false
  serving : loop.removal = false
  halted : loop.halted = true → ∀ name, entry name = none

/-- The stages of a state. -/
def State.stages (s : State) : Stages where
  agentName := s.agentName
  home := s.home
  exit := s.exit
  continuation := s.continuation

/-- The routing tables of a state are as its stages say. -/
def State.Routed (s : State) : Prop :=
  Routes s.dynamicChildren.lookup s.registry s.handlers s.stages s.loop

theorem routed_init : init.Routed where
  claimed := by rintro _ _ ⟨⟩
  audited := by rintro _ _ ⟨⟩
  tracked := by rintro _ _ ⟨⟩
  absent := fun _ _ _ => ⟨by rintro ⟨⟩, rfl⟩
  torn := by
    rintro name ⟨agent, _, exit | spawn⟩
    · cases exit
    · cases spawn
  drained := by
    rintro name ⟨agent, _, exit | spawn⟩
    · cases exit
    · cases spawn
  building := by rintro _ _ ⟨⟩
  uncleared := fun _ => rfl
  serving := rfl
  halted := by rintro ⟨⟩

/-! ## What the steps of one handler do -/

/-- The stages of one incarnation teardown its name. -/
def Stages.tearsAt (stages : Stages) (agent : Nat) : Prop :=
  (stages.exit agent).tearing = true ∨
    (stages.continuation agent).tearing = true

/-- The exit of an agent, or the spawn of a record, drains a mailbox. -/
def Stages.drainsAt (stages : Stages) (agent : Nat) : Prop :=
  (stages.exit agent).drains = true ∨
    (stages.continuation agent).drains = true

/-- Only the stages of one incarnation differ, and none of them clears. -/
structure Stages.Moves (agent : Nat) (a b : Stages) : Prop where
  agentName : b.agentName = a.agentName
  home : b.home = a.home
  exit : ∀ other, other ≠ agent → b.exit other = a.exit other
  continuation : ∀ other, other ≠ agent →
    b.continuation other = a.continuation other
  uncleared : (b.exit agent).clears = false

namespace Stages.Moves

variable {agent : Nat} {a b : Stages} (moves : Moves agent a b)

include moves

theorem tears_of_ne {name : Name} (apart : name ≠ a.agentName agent) :
    b.Tears name ↔ a.Tears name := by
  unfold Tears
  rw [moves.agentName]
  constructor
  · rintro ⟨other, named, tears⟩
    have distinct : other ≠ agent := by
      rintro rfl
      exact apart named.symm
    rw [moves.exit other distinct, moves.continuation other distinct] at tears
    exact ⟨other, named, tears⟩
  · rintro ⟨other, named, tears⟩
    have distinct : other ≠ agent := by
      rintro rfl
      exact apart named.symm
    rw [← moves.exit other distinct,
      ← moves.continuation other distinct] at tears
    exact ⟨other, named, tears⟩

theorem tears_of_before {name : Name}
    (at_ : a.tearsAt agent → b.tearsAt agent) (tears : a.Tears name) :
    b.Tears name := by
  rcases tears with ⟨other, named, tears⟩
  refine ⟨other, by rw [moves.agentName]; exact named, ?_⟩
  by_cases same : other = agent
  · rw [same] at tears ⊢
    exact at_ tears
  · rw [moves.exit other same, moves.continuation other same]
    exact tears

theorem tears_of_after {name : Name}
    (at_ : b.tearsAt agent → a.tearsAt agent) (tears : b.Tears name) :
    a.Tears name := by
  rcases tears with ⟨other, named, tears⟩
  refine ⟨other, by rw [← moves.agentName]; exact named, ?_⟩
  by_cases same : other = agent
  · rw [same] at tears ⊢
    exact at_ tears
  · rw [← moves.exit other same, ← moves.continuation other same]
    exact tears

theorem drains_of_after {name : Name}
    (at_ : b.drainsAt agent → a.drainsAt agent) (drains : b.Drains name) :
    a.Drains name := by
  rcases drains with ⟨other, named, drains⟩
  refine ⟨other, by rw [← moves.agentName]; exact named, ?_⟩
  by_cases same : other = agent
  · rw [same] at drains ⊢
    exact at_ drains
  · rw [← moves.exit other same, ← moves.continuation other same]
    exact drains

theorem drains_of_ne {name : Name} (apart : name ≠ a.agentName agent)
    (drains : b.Drains name) : a.Drains name := by
  rcases drains with ⟨other, named, drains⟩
  rw [moves.agentName] at named
  have distinct : other ≠ agent := by
    rintro rfl
    exact apart named.symm
  refine ⟨other, named, ?_⟩
  rw [← moves.exit other distinct, ← moves.continuation other distinct]
  exact drains

variable
  {entry : Name → Option Nat} {registry : Name → Option Owner}
  {handlers : Name → Option Nat} {loop : LoopStage}
  (held : Routes entry registry handlers a loop)

include held

theorem cleared (other : Nat) : (b.exit other).clears = false := by
  by_cases same : other = agent
  · rw [same]
    exact moves.uncleared
  · rw [moves.exit other same]
    exact held.uncleared other

/-- A step that leaves table, registry and bus alone. -/
theorem restage
    (tears : b.tearsAt agent ↔ a.tearsAt agent)
    (drains : b.drainsAt agent → a.drainsAt agent)
    (building : ∀ built, (b.exit agent).building = some built →
      entry (a.agentName agent) = some (a.home agent)) :
    Routes entry registry handlers b loop where
  claimed := held.claimed
  audited := held.audited
  tracked := by
    intro name record entered
    rcases held.tracked name record entered with routed | torn
    · exact .inl routed
    · exact .inr (moves.tears_of_before tears.mpr torn)
  absent := held.absent
  torn := by
    intro name torn
    exact held.torn name (moves.tears_of_after tears.mp torn)
  drained := by
    intro name drained
    exact held.drained name (moves.drains_of_after drains drained)
  building := by
    intro other built builds
    rw [moves.agentName, moves.home]
    by_cases same : other = agent
    · rw [same] at builds ⊢
      exact building built builds
    · rw [moves.exit other same] at builds
      exact held.building other built builds
  uncleared := moves.cleared held
  serving := held.serving
  halted := held.halted

/-- The teardown begins: the name is deregistered. -/
theorem deregister
    (unclaimed : ∀ claimant,
      loop.errand ≠ .claimed (a.agentName agent) claimant)
    (tears : b.tearsAt agent)
    (drains : b.drainsAt agent → a.drainsAt agent)
    (building : (b.exit agent).building = none ∨
      b.exit agent = a.exit agent) :
    Routes entry (update registry (a.agentName agent) none) handlers b
      loop where
  claimed := by
    intro name claimant claimed
    have apart : name ≠ a.agentName agent := by
      rintro rfl
      exact unclaimed claimant claimed
    rw [Function.update_of_ne apart]
    exact held.claimed name claimant claimed
  audited := held.audited
  tracked := by
    intro name record entered
    by_cases same : name = a.agentName agent
    · right
      refine ⟨agent, ?_, tears⟩
      rw [moves.agentName, same]
    · rw [Function.update_of_ne same]
      rcases held.tracked name record entered with routed | torn
      · exact .inl routed
      · exact .inr ((moves.tears_of_ne same).mpr torn)
  absent := by
    intro name absent free
    rcases held.absent name absent free with ⟨unregistered, unsubscribed⟩
    refine ⟨?_, unsubscribed⟩
    by_cases same : name = a.agentName agent
    · rw [same, Function.update_self]
      simp
    · rw [Function.update_of_ne same]
      exact unregistered
  torn := by
    intro name torn
    by_cases same : name = a.agentName agent
    · rw [same, Function.update_self]
      simp
    · rw [Function.update_of_ne same]
      exact held.torn name ((moves.tears_of_ne same).mp torn)
  drained := by
    intro name drained
    exact held.drained name (moves.drains_of_after drains drained)
  building := by
    intro other built builds
    rw [moves.agentName, moves.home]
    by_cases same : other = agent
    · rw [same] at builds ⊢
      rcases building with none | unmoved
      · rw [none] at builds
        cases builds
      · rw [unmoved] at builds
        exact held.building agent built builds
    · rw [moves.exit other same] at builds
      exact held.building other built builds
  uncleared := moves.cleared held
  serving := held.serving
  halted := held.halted

/-- The teardown goes on: the name is unsubscribed. -/
theorem unsubscribe
    (unclaimed : ∀ claimant,
      loop.errand ≠ .claimed (a.agentName agent) claimant)
    (torn : a.tearsAt agent) (tears : b.tearsAt agent)
    (building : (b.exit agent).building = none ∨
      b.exit agent = a.exit agent) :
    Routes entry registry (update handlers (a.agentName agent) none) b
      loop where
  claimed := held.claimed
  audited := by
    intro spawn claimant audits
    have apart : spawn.name ≠ a.agentName agent := by
      intro same
      apply unclaimed claimant
      rw [audits, ← same]
      rfl
    rw [Function.update_of_ne apart]
    exact held.audited spawn claimant audits
  tracked := by
    intro name record entered
    by_cases same : name = a.agentName agent
    · right
      refine ⟨agent, ?_, tears⟩
      rw [moves.agentName, same]
    · rw [Function.update_of_ne same]
      rcases held.tracked name record entered with routed | torn
      · exact .inl routed
      · exact .inr ((moves.tears_of_ne same).mpr torn)
  absent := by
    intro name absent free
    rcases held.absent name absent free with ⟨unregistered, unsubscribed⟩
    refine ⟨unregistered, ?_⟩
    by_cases same : name = a.agentName agent
    · rw [same, Function.update_self]
    · rw [Function.update_of_ne same]
      exact unsubscribed
  torn := by
    intro name torn'
    exact held.torn name (moves.tears_of_after (fun _ => torn) torn')
  drained := by
    intro name drained
    by_cases same : name = a.agentName agent
    · rw [same, Function.update_self]
    · rw [Function.update_of_ne same]
      exact held.drained name (moves.drains_of_ne same drained)
  building := by
    intro other built builds
    rw [moves.agentName, moves.home]
    by_cases same : other = agent
    · rw [same] at builds ⊢
      rcases building with none | unmoved
      · rw [none] at builds
        cases builds
      · rw [unmoved] at builds
        exact held.building agent built builds
    · rw [moves.exit other same] at builds
      exact held.building other built builds
  uncleared := moves.cleared held
  serving := held.serving
  halted := held.halted

/-- The teardown ends: the child is removed from the table. -/
theorem remove {entry' : Name → Option Nat}
    (removed : entry' (a.agentName agent) = none)
    (others : ∀ name, name ≠ a.agentName agent → entry' name = entry name)
    (drained : a.drainsAt agent)
    (tears : b.tearsAt agent → a.tearsAt agent)
    (drains : b.drainsAt agent → a.drainsAt agent)
    (building : ∀ other built, (b.exit other).building = some built →
      a.agentName other ≠ a.agentName agent ∧
        (a.exit other).building = some built) :
    Routes entry' registry handlers b loop where
  claimed := held.claimed
  audited := held.audited
  tracked := by
    intro name record entered
    have apart : name ≠ a.agentName agent := by
      rintro rfl
      rw [removed] at entered
      cases entered
    rw [others name apart] at entered
    rcases held.tracked name record entered with routed | torn
    · exact .inl routed
    · exact .inr ((moves.tears_of_ne apart).mpr torn)
  absent := by
    intro name absent free
    by_cases same : name = a.agentName agent
    · rw [same]
      have gone : a.Drains (a.agentName agent) := ⟨agent, rfl, drained⟩
      exact ⟨held.torn _ gone.tears, held.drained _ gone⟩
    · rw [others name same] at absent
      exact held.absent name absent free
  torn := by
    intro name torn
    exact held.torn name (moves.tears_of_after tears torn)
  drained := by
    intro name drained
    exact held.drained name (moves.drains_of_after drains drained)
  building := by
    intro other built builds
    rcases building other built builds with ⟨apart, before⟩
    rw [moves.agentName, moves.home, others _ apart]
    exact held.building other built before
  uncleared := moves.cleared held
  serving := held.serving
  halted := by
    intro halted name
    by_cases same : name = a.agentName agent
    · rw [same]
      exact removed
    · rw [others name same]
      exact held.halted halted name

/-- A restart subscribes the next incarnation. -/
theorem resubscribe (fresh : Nat)
    (untorn : ¬ a.Tears (a.agentName agent))
    (entered : entry (a.agentName agent) = some (a.home agent))
    (tears : b.tearsAt agent ↔ a.tearsAt agent)
    (drains : b.drainsAt agent → a.drainsAt agent) :
    Routes entry registry
      (update handlers (a.agentName agent) (some fresh)) b loop where
  claimed := held.claimed
  audited := by
    intro spawn claimant audits
    by_cases same : spawn.name = a.agentName agent
    · rw [same, Function.update_self]
      rfl
    · rw [Function.update_of_ne same]
      exact held.audited spawn claimant audits
  tracked := by
    intro name record entered
    by_cases same : name = a.agentName agent
    · rw [same, Function.update_self]
      rw [same] at entered
      rcases held.tracked _ record entered with routed | torn
      · exact .inl ⟨routed.1, rfl⟩
      · exact absurd torn untorn
    · rw [Function.update_of_ne same]
      rcases held.tracked name record entered with routed | torn
      · exact .inl routed
      · exact .inr (moves.tears_of_before tears.mpr torn)
  absent := by
    intro name absent free
    have apart : name ≠ a.agentName agent := by
      rintro rfl
      rw [entered] at absent
      cases absent
    rw [Function.update_of_ne apart]
    exact held.absent name absent free
  torn := by
    intro name torn
    exact held.torn name (moves.tears_of_after tears.mp torn)
  drained := by
    intro name drained
    have before := moves.drains_of_after drains drained
    have apart : name ≠ a.agentName agent := by
      rintro rfl
      exact untorn before.tears
    rw [Function.update_of_ne apart]
    exact held.drained name before
  building := by
    intro other built builds
    rw [moves.agentName, moves.home]
    by_cases same : other = agent
    · rw [same]
      exact entered
    · rw [moves.exit other same] at builds
      exact held.building other built builds
  uncleared := moves.cleared held
  serving := held.serving
  halted := held.halted

end Stages.Moves

/-! ## What the steps of the loop do -/

namespace Routes

variable
  {entry : Name → Option Nat} {registry : Name → Option Owner}
  {handlers : Name → Option Nat} {stages : Stages} {loop : LoopStage}
  (held : Routes entry registry handlers stages loop)

include held

/-- A new number does not take part in anything yet. -/
theorem number {next record : Nat} (name : Name)
    (exit : stages.exit next = .unwatched)
    (spawn : stages.continuation next = .absent) :
    Routes entry registry handlers
      { stages with
        agentName := update stages.agentName next name
        home := update stages.home next record }
      loop := by
  have unchanged {agent : Nat}
      (busy : stages.exit agent ≠ .unwatched ∨
        stages.continuation agent ≠ .absent) : agent ≠ next := by
    rintro rfl
    rcases busy with moved | moved
    · exact moved exit
    · exact moved spawn
  have tears {other : Name}
      (torn : { stages with
        agentName := update stages.agentName next name
        home := update stages.home next record }.Tears other) :
      stages.Tears other := by
    rcases torn with ⟨agent, named, torn⟩
    have apart : agent ≠ next := by
      apply unchanged
      rcases torn with tearing | tearing
      · left
        intro same
        simp only [same] at tearing
        cases tearing
      · right
        intro same
        simp only [same] at tearing
        cases tearing
    simp only [Function.update_of_ne apart] at named
    exact ⟨agent, named, torn⟩
  constructor
  · exact held.claimed
  · exact held.audited
  · intro other record' entered
    rcases held.tracked other record' entered with
      routed | ⟨agent, named, torn⟩
    · exact .inl routed
    · right
      refine ⟨agent, ?_, torn⟩
      have apart : agent ≠ next := by
        apply unchanged
        rcases torn with tearing | tearing
        · left
          intro same
          rw [same] at tearing
          cases tearing
        · right
          intro same
          rw [same] at tearing
          cases tearing
      simp only [Function.update_of_ne apart]
      exact named
  · exact held.absent
  · intro other torn
    exact held.torn other (tears torn)
  · intro other drains
    rcases drains with ⟨agent, named, drains⟩
    have apart : agent ≠ next := by
      apply unchanged
      rcases drains with drains | drains
      · left
        intro same
        simp only [same] at drains
        cases drains
      · right
        intro same
        simp only [same] at drains
        cases drains
    simp only [Function.update_of_ne apart] at named
    exact held.drained other ⟨agent, named, drains⟩
  · intro agent built builds
    have apart : agent ≠ next := by
      apply unchanged
      left
      intro same
      simp only [same] at builds
      cases builds
    simp only [Function.update_of_ne apart]
    exact held.building agent built builds
  · exact held.uncleared
  · exact held.serving
  · exact held.halted

/-- The loop goes on without a claim. -/
theorem reloop {loop' : LoopStage}
    (unclaimed : ∀ name agent, loop.errand ≠ .claimed name agent)
    (unclaimed' : ∀ name agent, loop'.errand ≠ .claimed name agent)
    (serving : loop'.removal = false)
    (halted : loop'.halted = true → ∀ name, entry name = none) :
    Routes entry registry handlers stages loop' where
  claimed := fun name agent claimed => absurd claimed (unclaimed' name agent)
  audited := by
    intro spawn agent audits
    exact absurd (by rw [audits]; rfl) (unclaimed' spawn.name agent)
  tracked := held.tracked
  absent := fun name absent _ => held.absent name absent (unclaimed name)
  torn := held.torn
  drained := held.drained
  building := held.building
  uncleared := held.uncleared
  serving := serving
  halted := halted

/-- The loop goes on serving without a claim. -/
theorem goOn {loop' : LoopStage}
    (unclaimed : ∀ name agent, loop.errand ≠ .claimed name agent)
    (unclaimed' : ∀ name agent, loop'.errand ≠ .claimed name agent)
    (serving : loop'.removal = false) (goes : loop'.halted = false) :
    Routes entry registry handlers stages loop' := by
  apply held.reloop unclaimed unclaimed' serving
  intro halted
  rw [goes] at halted
  cases halted

/-- The loop ends and the pending tasks are cancelled. -/
theorem halt
    (unclaimed : ∀ name agent, loop.errand ≠ .claimed name agent)
    (empty : ∀ name, entry name = none) :
    Routes entry registry handlers
      { stages with
        exit := fun agent => (stages.exit agent).cancel
        continuation := fun record =>
          (stages.continuation record).cancel }
      .gathering := by
  have exits (agent : Nat) : (stages.exit agent).cancel.tearing = false := by
    cases stages.exit agent <;> rfl
  have spawns (record : Nat) :
      (stages.continuation record).cancel.tearing = false := by
    cases stages.continuation record <;> rfl
  have untorn (name : Name) :
      ¬ { stages with
          exit := fun agent => (stages.exit agent).cancel
          continuation := fun record =>
            (stages.continuation record).cancel }.Tears name := by
    rintro ⟨agent, _, tearing | tearing⟩
    · rw [exits agent] at tearing
      cases tearing
    · rw [spawns agent] at tearing
      cases tearing
  constructor
  · rintro _ _ ⟨⟩
  · simp
  · intro name record entered
    rw [empty name] at entered
    cases entered
  · exact fun name absent _ => held.absent name absent (unclaimed name)
  · intro name torn
    exact absurd torn (untorn name)
  · intro name drains
    exact absurd drains.tears (untorn name)
  · intro agent built builds
    cases stage : stages.exit agent <;>
      simp [stage, ExitStage.cancel, ExitStage.building] at builds
  · intro agent
    cases stage : stages.exit agent <;>
      simp [stage, ExitStage.cancel, ExitStage.clears]
  · rfl
  · exact fun _ => empty

/-- A free name is claimed. -/
theorem claim {spawn : SpawnRequest} {agent : Nat}
    (unclaimed : ∀ name agent, loop.errand ≠ .claimed name agent)
    (absent : entry spawn.name = none)
    (untorn : ¬ stages.Tears spawn.name) :
    Routes entry (update registry spawn.name (some .mine)) handlers stages
      (.subscribing spawn agent) where
  claimed := by
    intro name claimant claimed
    cases claimed
    exact Function.update_self ..
  audited := by simp
  tracked := by
    intro name record entered
    have apart : name ≠ spawn.name := by
      rintro rfl
      rw [absent] at entered
      cases entered
    rw [Function.update_of_ne apart]
    exact held.tracked name record entered
  absent := by
    intro name absent free
    have apart : name ≠ spawn.name := by
      rintro rfl
      exact free agent rfl
    rw [Function.update_of_ne apart]
    exact held.absent name absent (unclaimed name)
  torn := by
    intro name torn
    have apart : name ≠ spawn.name := by
      rintro rfl
      exact untorn torn
    rw [Function.update_of_ne apart]
    exact held.torn name torn
  drained := held.drained
  building := held.building
  uncleared := held.uncleared
  serving := rfl
  halted := by rintro ⟨⟩

end Routes

namespace Routes

variable
  {entry : Name → Option Nat} {registry : Name → Option Owner}
  {handlers : Name → Option Nat} {stages : Stages}
  {spawn : SpawnRequest} {agent : Nat}

/-- The claimed name is subscribed. -/
theorem subscribe
    (held : Routes entry registry handlers stages (.subscribing spawn agent))
    (absent : entry spawn.name = none)
    (untorn : ¬ stages.Tears spawn.name) :
    Routes entry registry (update handlers spawn.name (some agent)) stages
      (.auditing spawn agent) where
  claimed := held.claimed
  audited := by
    intro spawn' agent' audits
    cases audits
    rw [Function.update_self]
    rfl
  tracked := by
    intro name record entered
    have apart : name ≠ spawn.name := by
      rintro rfl
      rw [absent] at entered
      cases entered
    rw [Function.update_of_ne apart]
    exact held.tracked name record entered
  absent := by
    intro name absent free
    have apart : name ≠ spawn.name := by
      rintro rfl
      exact free agent rfl
    rw [Function.update_of_ne apart]
    exact held.absent name absent free
  torn := held.torn
  drained := by
    intro name drains
    have apart : name ≠ spawn.name := by
      rintro rfl
      exact untorn drains.tears
    rw [Function.update_of_ne apart]
    exact held.drained name drains
  building := held.building
  uncleared := held.uncleared
  serving := rfl
  halted := by rintro ⟨⟩

/-- The claimed name is entered in the table. -/
theorem enter {loop' : LoopStage} {entry' : Name → Option Nat}
    (held : Routes entry registry handlers stages (.auditing spawn agent))
    (entered : entry' spawn.name = some agent)
    (others : ∀ name, name ≠ spawn.name → entry' name = entry name)
    (unbuilt : ∀ other built, (stages.exit other).building = some built →
      stages.agentName other ≠ spawn.name)
    (unclaimed : ∀ name agent, loop'.errand ≠ .claimed name agent)
    (serving : loop'.removal = false) (running : loop'.halted = false) :
    Routes entry' registry handlers stages loop' where
  claimed := fun name agent claimed => absurd claimed (unclaimed name agent)
  audited := by
    intro spawn' agent' audits
    exact absurd (by rw [audits]; rfl) (unclaimed spawn'.name agent')
  tracked := by
    intro name record entered'
    by_cases same : name = spawn.name
    · rw [same]
      exact .inl
        ⟨held.claimed spawn.name agent rfl, held.audited spawn agent rfl⟩
    · rw [others name same] at entered'
      exact held.tracked name record entered'
  absent := by
    intro name absent _
    have apart : name ≠ spawn.name := by
      rintro rfl
      rw [entered] at absent
      cases absent
    rw [others name apart] at absent
    apply held.absent name absent
    intro claimant claimed
    cases claimed
    exact apart rfl
  torn := held.torn
  drained := held.drained
  building := by
    intro other built builds
    rw [others _ (unbuilt other built builds)]
    exact held.building other built builds
  uncleared := held.uncleared
  serving := serving
  halted := by
    intro halted
    rw [running] at halted
    cases halted

end Routes

/-! ## Moving between stages -/

/-- The exit of an agent comes to a stage. -/
def Stages.setExit
    (stages : Stages) (agent : Nat) (stage : ExitStage) : Stages :=
  { stages with exit := update stages.exit agent stage }

/-- The spawn of a record comes to a stage. -/
def Stages.setContinuation
    (stages : Stages) (record : Nat) (stage : SpawnStage) : Stages :=
  { stages with continuation := update stages.continuation record stage }

theorem Stages.moves_setExit
    (stages : Stages) (agent : Nat) {stage : ExitStage}
    (uncleared : stage.clears = false) :
    Moves agent stages (stages.setExit agent stage) where
  agentName := rfl
  home := rfl
  exit := fun _ apart => Function.update_of_ne apart ..
  continuation := fun _ _ => rfl
  uncleared := by
    simp only [setExit, Function.update_self]
    exact uncleared

theorem Stages.moves_setContinuation
    {stages : Stages} (record : Nat) (stage : SpawnStage)
    (uncleared : (stages.exit record).clears = false) :
    Moves record stages (stages.setContinuation record stage) where
  agentName := rfl
  home := rfl
  exit := fun _ _ => rfl
  continuation := fun _ apart => Function.update_of_ne apart ..
  uncleared := uncleared

theorem Stages.tearsAt_setExit
    (stages : Stages) (agent : Nat) (stage : ExitStage) :
    (stages.setExit agent stage).tearsAt agent ↔
      stage.tearing = true ∨ (stages.continuation agent).tearing = true := by
  simp only [tearsAt, setExit, Function.update_self]

theorem Stages.drainsAt_setExit
    (stages : Stages) (agent : Nat) (stage : ExitStage) :
    (stages.setExit agent stage).drainsAt agent ↔
      stage.drains = true ∨ (stages.continuation agent).drains = true := by
  simp only [drainsAt, setExit, Function.update_self]

theorem Stages.tearsAt_setContinuation
    (stages : Stages) (record : Nat) (stage : SpawnStage) :
    (stages.setContinuation record stage).tearsAt record ↔
      (stages.exit record).tearing = true ∨ stage.tearing = true := by
  simp only [tearsAt, setContinuation, Function.update_self]

theorem Stages.drainsAt_setContinuation
    (stages : Stages) (record : Nat) (stage : SpawnStage) :
    (stages.setContinuation record stage).drainsAt record ↔
      (stages.exit record).drains = true ∨ stage.drains = true := by
  simp only [drainsAt, setContinuation, Function.update_self]

section Stages

variable
  {entry : Name → Option Nat} {registry : Name → Option Owner}
  {handlers : Name → Option Nat} {stages : Stages} {loop : LoopStage}
  (held : Routes entry registry handlers stages loop)

include held

/-- A handler moves from one stage that tears nothing down to another. -/
theorem Routes.setExit {agent : Nat} {stage : ExitStage}
    (before : (stages.exit agent).tearing = false)
    (after : stage.tearing = false) (uncleared : stage.clears = false)
    (building : ∀ built, stage.building = some built →
      entry (stages.agentName agent) = some (stages.home agent)) :
    Routes entry registry handlers (stages.setExit agent stage) loop := by
  have undrained : stage.drains = false := by
    rw [Bool.eq_false_iff]
    intro drains
    rw [ExitStage.tearing_of_drains drains] at after
    cases after
  apply (stages.moves_setExit agent uncleared).restage held
  · rw [Stages.tearsAt_setExit, Stages.tearsAt, before, after]
  · rw [Stages.drainsAt_setExit, undrained]
    rintro (drains | drains)
    · cases drains
    · exact .inr drains
  · intro built builds
    simp only [Stages.setExit, Function.update_self] at builds
    exact building built builds

/-- A handler moves to a stage that builds no handler. -/
theorem Routes.setPassing {agent : Nat} {stage : ExitStage}
    (before : (stages.exit agent).tearing = false)
    (after : stage.tearing = false) (uncleared : stage.clears = false)
    (builds : stage.building = none) :
    Routes entry registry handlers (stages.setExit agent stage) loop := by
  apply held.setExit before after uncleared
  intro built building
  rw [builds] at building
  cases building

/-- A continuation moves between stages that tear nothing down. -/
theorem Routes.setContinuation {record : Nat} {stage : SpawnStage}
    (before : (stages.continuation record).tearing = false)
    (after : stage.tearing = false) :
    Routes entry registry handlers (stages.setContinuation record stage)
      loop := by
  have undrained : stage.drains = false := by
    rw [Bool.eq_false_iff]
    intro drains
    rw [SpawnStage.tearing_of_drains drains] at after
    cases after
  apply (Stages.moves_setContinuation record stage
    (held.uncleared record)).restage held
  · rw [Stages.tearsAt_setContinuation, Stages.tearsAt, before, after]
  · rw [Stages.drainsAt_setContinuation, undrained]
    rintro (drains | drains)
    · exact .inl drains
    · cases drains
  · intro built builds
    exact held.building record built builds

end Stages

end Civitas.Dynamic
