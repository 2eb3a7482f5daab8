import Civitas.Dynamic.Removal
import Civitas.Dynamic.Routes

/-!
# Child table, registry and bus

A child is entered in three places: the table of the supervisor, the registry
and the subscriptions of the bus.  `_terminal_cleanup` undoes all three.  The
other ways to lose a child do not: a despawn and a stop leave the
subscription, a clean exit and an exhausted budget leave the registration as
well, and `on_stop` leaves everything.

The three agree in the runs that avoid these ways, and in which a name is
claimed only when nothing works under it.
-/

namespace Civitas.Dynamic

open Civitas.PyValue
open Civitas.Transition
open Function (update)

/-! ## What is expected -/

/-- Nothing is being done: no request, exit or start is under way. -/
structure Quiescent (s : State) : Prop where
  loop : s.loop = .idle ∨ s.loop = .ended
  exits : ∀ agent,
    s.exit agent = .unwatched ∨ s.exit agent = .finished ∨
      s.exit agent = .watched ∧ s.task agent = .live
  continuations : ∀ record,
    s.continuation record = .absent ∨ s.continuation record = .finished

/-- Table, registry and bus agree on the names of this supervisor. -/
structure RoutesAgree (s : State) : Prop where
  entered : Quiescent s → ∀ name record,
    s.dynamicChildren.lookup name = some record →
      s.registry name = some .mine ∧ (s.handlers name).isSome = true
  removed : Quiescent s → ∀ name,
    s.dynamicChildren.lookup name = none →
      s.registry name ≠ some .mine ∧ s.handlers name = none
  stopped : s.loop = .ended → ∀ name,
    s.registry name ≠ some .mine ∧ s.handlers name = none

/-! ## Runs that only clean up in full -/

/-- The exit is a failed start, or leads to a restart. -/
def State.retains
    (cfg : Config) (s : State) (agent : Nat) (crashed : Bool) (now : Nat) :
    Bool :=
  match s.dynamicChildren.lookup (s.agentName agent) with
  | none => true
  | some record =>
      crashed && !s.reachedLoop (s.recAgent record) ||
        s.restarts cfg agent record crashed now

/-- A spawn that has claimed its name gets to its admission. -/
def keepsClaim (s : State) (label : Label) : Bool :=
  match label, s.loop with
  | .loop resumption, .subscribing _ _ => resumption = .returned
  | .loop resumption, .auditing spawn _ =>
      resumption = .returned && spawn.spawner.key?.isSome
  | _, _ => true

/-- A teardown that has begun is not given up. -/
def completesTeardown (s : State) (label : Label) : Bool :=
  match label with
  | .exit agent .raised _ _ =>
      match s.exit agent with
      | .unsubscribing _ | .draining _ => false
      | _ => true
  | .continuation record .raised => !(s.continuation record).tearing
  | _ => true

/-- No child is removed but by a full teardown. -/
def removesInFull (cfg : Config) (s : State) (label : Label) : Bool :=
  match label with
  | .take message => (s.removalOf message).isNone
  | .exit agent .returned now _ =>
      match s.exit agent with
      | .scheduled crashed => s.retains cfg agent crashed now
      | _ => true
  | _ => true

/-- The steps that keep table, registry and bus together. -/
def routed (cfg : Config) (s : State) (label : Label) : Bool :=
  orderly s label && keepsClaim s label && completesTeardown s label &&
    removesInFull cfg s label &&
    (!s.ends cfg label || s.dynamicChildren.keys.isEmpty)

theorem State.Routed.agree {s : State} (held : s.Routed) :
    RoutesAgree s := by
  have resting (quiet : Quiescent s) (name : Name) :
      ¬ s.stages.Tears name := by
    rintro ⟨agent, _, exit | spawn⟩
    · rcases quiet.exits agent with idle | idle | ⟨idle, _⟩
      all_goals
        simp only [State.stages, idle] at exit
        cases exit
    · rcases quiet.continuations agent with idle | idle
      all_goals
        simp only [State.stages, idle] at spawn
        cases spawn
  constructor
  · intro quiet name record entered
    rcases held.tracked name record entered with routed | tears
    · exact routed
    · exact absurd tears (resting quiet name)
  · intro quiet name removed
    apply held.absent name removed
    rcases quiet.loop with idle | ended
    · rw [idle]
      rintro _ ⟨⟩
    · rw [ended]
      rintro _ ⟨⟩
  · intro ended name
    apply held.absent name
    · exact held.halted (by rw [ended]; rfl) name
    · rw [ended]
      rintro _ ⟨⟩

/-! ## Names that are torn down -/

section Names

variable {s : State} (held : s.roster.Orderly)

include held

/-- The incarnation that a teardown works for still holds its record. -/
theorem current_of_tears {name : Name} (tears : s.stages.Tears name) :
    ∃ agent, s.agentName agent = name ∧ s.roster.Serves agent ∧
      s.recAgent (s.home agent) = agent ∧
      ((s.exit agent).tearing = true ∨ s.reachedLoop agent = false) := by
  rcases tears with ⟨agent, named, exit | spawn⟩
  · have holds := ExitStage.holds_of_begun (ExitStage.begun_of_tearing exit)
    refine ⟨agent, named, ?_, ?_, .inl exit⟩
    · exact held.kept.acting agent
        (.inr (ExitStage.acting_of_holds holds))
    · exact held.kept.holder agent (.inr holds)
  · rcases held.kept.continuing agent
        (SpawnStage.acting_of_tearing spawn) with ⟨serves, root⟩
    have home : s.home agent = agent := root
    have unreached := (held.torn agent spawn).2
    refine ⟨agent, named, serves, ?_, .inr unreached⟩
    rw [home]
    exact held.kept.numbered.unreached agent root unreached

/-- No restart is built under a name that is torn down. -/
theorem not_tears_of_building {agent : Nat} {built : Nat × Nat}
    (building : (s.exit agent).building = some built) :
    ¬ s.stages.Tears (s.agentName agent) := by
  intro tears
  rcases current_of_tears held tears with
    ⟨other, named, ⟨origin', taken', served'⟩, current', torn⟩
  have holds :=
    ExitStage.holds_of_begun (ExitStage.begun_of_building building)
  rcases held.kept.acting agent
      (.inr (ExitStage.acting_of_holds holds)) with ⟨origin, taken, served⟩
  have current : s.recAgent (s.home agent) = agent :=
    held.kept.holder agent (.inr holds)
  have home : s.home other = s.home agent := by
    have taken'' : s.roster.incumbent (s.agentName agent) = some origin' := by
      rw [← named]
      exact taken'
    have equal : some origin = some origin' := taken.symm.trans taken''
    exact served'.symm.trans ((Option.some.inj equal) ▸ served)
  have same : other = agent := by
    rw [← current', home]
    exact current
  subst same
  rcases torn with tearing | unreached
  · cases stage : s.exit other <;>
      simp [stage, ExitStage.building, ExitStage.tearing]
        at building tearing
  · have reached := (held.kept.staged.building other built.1 built.2 building).1
    rw [show s.roster.reachedLoop other = s.reachedLoop other from rfl,
      unreached] at reached
    cases reached

/-- Nothing is torn down or built under a claimed name. -/
theorem free_of_errand {name : Name} {agent : Nat}
    (claimed : s.loop.errand = .claimed name agent) :
    s.dynamicChildren.lookup name = none ∧ ¬ s.stages.Tears name := by
  rcases held.kept.claimed name agent claimed with
    ⟨_, _, _, absent, _, _, _, _, free⟩
  refine ⟨absent, ?_⟩
  rintro ⟨other, named, exit | spawn⟩
  · exact (free other named).1
      (.inr (ExitStage.acting_of_holds
        (ExitStage.holds_of_begun (ExitStage.begun_of_tearing exit))))
  · have settled := (free other named).2
    have acting : (s.roster.continuation other).acting = true :=
      SpawnStage.acting_of_tearing spawn
    rw [acting] at settled
    cases settled

end Names

/-! ## Exit handlers and continuations -/

/-- A name is not claimed while something is done under it. -/
theorem unclaimed_of_busy
    {s : State} {agent : Nat} (kept : s.roster.Kept)
    (busy : s.roster.Acting agent ∨
      (s.continuation agent).acting = true) :
    ∀ claimant, s.loop.errand ≠ .claimed (s.agentName agent) claimant := by
  intro claimant claimed
  have free := (kept.claimed _ _ claimed).2.2.2.2.2.2.2.2 agent rfl
  rcases busy with acting | acting
  · exact free.1 acting
  · have settled := free.2
    rw [show s.roster.continuation agent = s.continuation agent from rfl,
      acting] at settled
    cases settled

theorem acting_of_begun
    {s : State} {agent : Nat} {stage : ExitStage}
    (found : s.exit agent = stage) (begun : stage.begun = true) :
    s.roster.Acting agent := by
  right
  rw [show s.roster.exit agent = s.exit agent from rfl, found]
  exact ExitStage.acting_of_holds (ExitStage.holds_of_begun begun)

/-- The handler deregisters its child. -/
theorem routed_deregister
    {s : State} {agent : Nat} {before : ExitStage}
    (kept : s.roster.Kept) (held : s.Routed)
    (found : s.exit agent = before) (begun : before.begun = true)
    (cause : CleanupCause) :
    ((s.deregister (s.agentName agent)).setExit agent
      (.unsubscribing cause)).Routed := by
  apply (s.stages.moves_setExit agent rfl).deregister held
  · exact unclaimed_of_busy kept (.inl (acting_of_begun found begun))
  · rw [Stages.tearsAt_setExit]
    exact .inl rfl
  · rw [Stages.drainsAt_setExit]
    rintro (drains | drains)
    · cases drains
    · exact .inr drains
  · left
    simp only [Stages.setExit, Function.update_self]
    rfl

theorem routed_beginExit
    {cfg : Config} {s : State} {agent now : Nat} {crashed constructs : Bool}
    (kept : s.roster.Kept) (held : s.Routed)
    (scheduled : s.exit agent = .scheduled crashed)
    (retained : s.retains cfg agent crashed now = true) :
    (s.beginExit cfg agent crashed now constructs).Routed := by
  have untorn : (s.stages.exit agent).tearing = false := by
    rw [show s.stages.exit agent = s.exit agent from rfl, scheduled]
    rfl
  unfold State.beginExit
  unfold State.retains at retained
  split
  · exact held.setPassing untorn rfl rfl rfl
  · rename_i record entered
    rw [entered] at retained
    simp only at retained ⊢
    have acting := acting_of_begun scheduled rfl
    have home : record = s.home agent := kept.entry_home acting entered
    split_ifs with unreached never crash clean spent builds
    · exact routed_deregister kept held scheduled rfl _
    · simp [State.restarts, unreached, never] at retained
    · simp [State.restarts, unreached, never] at retained
    · simp only [Bool.and_eq_true, decide_eq_true_eq, Bool.not_eq_true']
        at clean
      simp [State.restarts, clean.1, clean.2] at retained
    · simp [State.restarts, unreached, spent] at retained
    · rcases kept.numbered.blank s.next (Nat.le_refl _) with
        ⟨_, exit, spawn, _⟩
      have born : agent ≠ s.next := by
        rintro rfl
        rw [show s.roster.exit s.next = s.exit s.next from rfl,
          scheduled] at exit
        cases exit
      apply (held.number (s.agentName agent) exit spawn).setExit untorn rfl rfl
      intro built _
      have named :
          s.roster.entry
              (update s.agentName s.next (s.agentName agent) agent) =
            s.roster.entry (s.agentName agent) := by
        rw [Function.update_of_ne born]
      have held : update s.home s.next record agent = record := by
        rw [Function.update_of_ne born]
        exact home.symm
      exact named.trans (entered.trans (congrArg some held.symm))
    · exact held.setPassing untorn rfl rfl rfl

theorem tearing_of_stage
    {s : State} {agent : Nat} {stage : ExitStage}
    (found : s.exit agent = stage) :
    (s.stages.exit agent).tearing = stage.tearing := by
  rw [show s.stages.exit agent = s.exit agent from rfl, found]

section ExitSteps

variable {s : State} {agent record fresh : Nat} {cause : CleanupCause}

theorem routed_noticeStage
    {stage : ExitStage} (held : s.Routed) (found : s.exit agent = stage)
    (untorn : stage.tearing = false) :
    (s.setExit agent (s.noticeStage agent)).Routed := by
  have passes := (tearing_of_stage found).trans untorn
  unfold State.noticeStage
  split
  · split_ifs
    · exact held.setPassing passes rfl rfl rfl
    · exact held.setPassing passes rfl rfl rfl
  · exact held.setPassing passes rfl rfl rfl

theorem routed_afterCleanup
    (held : s.Routed) (leaving : s.exit agent = .leaving cause) :
    (s.setExit agent (s.afterCleanup agent cause)).Routed := by
  unfold State.afterCleanup
  split
  · split_ifs
    · exact routed_noticeStage held leaving rfl
    · exact held.setPassing (tearing_of_stage leaving) rfl rfl rfl
  · exact routed_noticeStage held leaving rfl

theorem routed_publishFresh
    (ordered : s.roster.Orderly) (held : s.Routed)
    (starting : s.exit agent = .starting record fresh) :
    (s.publishFresh agent record fresh).Routed := by
  rcases ordered.kept.staged.starting agent record fresh starting with
    ⟨_, _, _, _, apart, _, _, unwatched, _⟩
  have first : Routes s.dynamicChildren.lookup s.registry s.handlers
      (s.stages.setExit agent .finished) s.loop :=
    held.setPassing (tearing_of_stage starting) rfl rfl rfl
  refine first.setPassing ?_ rfl rfl rfl
  simp only [Stages.setExit, Function.update_of_ne apart]
  exact tearing_of_stage unwatched

/-- The handler of the name is taken out. -/
theorem routed_unsubscribed
    (ordered : s.roster.Orderly) (held : s.Routed)
    (unsubscribing : s.exit agent = .unsubscribing cause) :
    State.Routed
      { s.setExit agent (.draining cause) with
        handlers := update s.handlers (s.agentName agent) none } := by
  have unclaimed :=
    unclaimed_of_busy ordered.kept (.inl (acting_of_begun unsubscribing rfl))
  apply (s.stages.moves_setExit agent rfl).unsubscribe held unclaimed
  · left
    exact tearing_of_stage unsubscribing
  · rw [Stages.tearsAt_setExit]
    exact .inl rfl
  · left
    simp only [Stages.setExit, Function.update_self]
    rfl

/-- The mailbox is drained, and the child is removed. -/
theorem routed_drained
    (ordered : s.roster.Orderly) (held : s.Routed)
    (draining : s.exit agent = .draining cause) :
    ((s.removeChild (s.agentName agent)).setExit agent
      (.leaving cause)).Routed := by
  have drains : s.stages.drainsAt agent := by
    left
    rw [show s.stages.exit agent = s.exit agent from rfl, draining]
    rfl
  have torn : s.stages.tearsAt agent := .inl (tearing_of_stage draining)
  apply (s.stages.moves_setExit agent rfl).remove held
  · exact AList.lookup_erase (s.agentName agent) s.dynamicChildren
  · intro name apart
    exact AList.lookup_erase_ne apart
  · exact drains
  · exact fun _ => torn
  · exact fun _ => drains
  · intro other built builds
    have apart : other ≠ agent := by
      rintro rfl
      simp only [Stages.setExit, Function.update_self] at builds
      cases builds
    simp only [Stages.setExit, Function.update_of_ne apart] at builds
    refine ⟨?_, builds⟩
    intro same
    apply not_tears_of_building ordered builds
    exact ⟨agent, same.symm, torn⟩

/-- The handler of the fresh incarnation takes the name. -/
theorem routed_wired
    (ordered : s.roster.Orderly) (held : s.Routed)
    (wiring : s.exit agent = .wiring record fresh) :
    State.Routed
      { s.setExit agent (.transferring record fresh) with
        handlers := update s.handlers (s.agentName agent) (some fresh) } := by
  have builds : (s.exit agent).building = some (record, fresh) := by
    rw [wiring]
    rfl
  apply (s.stages.moves_setExit agent rfl).resubscribe held fresh
  · exact not_tears_of_building ordered builds
  · exact held.building agent _ builds
  · rw [Stages.tearsAt_setExit, Stages.tearsAt, tearing_of_stage wiring]
    rfl
  · rw [Stages.drainsAt_setExit]
    rintro (drains | drains)
    · cases drains
    · exact .inr drains

end ExitSteps

/-- The exit of an agent goes on; the cases are those of its stage. -/
theorem routed_resumeExit
    {cfg : Config} {s after : State} {agent now : Nat}
    {resumption : Resumption} {constructs : Bool}
    (ordered : s.roster.Orderly) (held : s.Routed)
    (completes : completesTeardown s
      (.exit agent resumption now constructs) = true)
    (inFull : removesInFull cfg s
      (.exit agent resumption now constructs) = true)
    (resumed :
      s.resumeExit cfg agent resumption now constructs = some after) :
    after.Routed := by
  have kept := ordered.kept
  unfold State.resumeExit at resumed
  simp only at resumed
  split at resumed
  · rename_i found
    split at resumed
    · cases resumed
      exact held.setPassing (tearing_of_stage found) rfl rfl rfl
    · cases resumed
      exact held.setPassing (tearing_of_stage found) rfl rfl rfl
    · cases resumed
  · rename_i crashed found
    cases resumed
    simp only [removesInFull, found] at inFull
    exact routed_beginExit kept held found inFull
  · rename_i found
    have uncleared := held.uncleared agent
    rw [show s.stages.exit agent = s.exit agent from rfl, found] at uncleared
    cases uncleared
  · rename_i found
    cases resumed
    exact routed_noticeStage held found rfl
  · rename_i found
    cases resumed
    exact held.setPassing (tearing_of_stage found) rfl rfl rfl
  · rename_i found
    cases resumed
    exact held.setPassing (tearing_of_stage found) rfl rfl rfl
  · rename_i found
    cases resumed
    exact held.setPassing (tearing_of_stage found) rfl rfl rfl
  · rename_i cause found
    cases resumed
    exact routed_unsubscribed ordered held found
  · rename_i found
    simp [completesTeardown, found] at completes
  · rename_i cause found
    cases resumed
    exact routed_drained ordered held found
  · rename_i found
    simp [completesTeardown, found] at completes
  · rename_i cause found
    cases resumed
    exact routed_afterCleanup held found
  · rename_i found
    cases resumed
    exact held.setPassing (tearing_of_stage found) rfl rfl rfl
  · rename_i record fresh found
    cases resumed
    exact routed_wired ordered held found
  · rename_i found
    cases resumed
    exact held.setPassing (tearing_of_stage found) rfl rfl rfl
  · rename_i record fresh found
    cases resumed
    exact held.setPassing (tearing_of_stage found) rfl rfl rfl
  · rename_i found
    cases resumed
    exact held.setPassing (tearing_of_stage found) rfl rfl rfl
  · rename_i found
    cases resumed
    exact routed_deregister kept held found rfl _
  · rename_i record fresh found
    split at resumed
    · cases resumed
      exact routed_publishFresh ordered held found
    · split_ifs at resumed
      · cases resumed
        exact held.setPassing (tearing_of_stage found) rfl rfl rfl
      · cases resumed
        exact routed_publishFresh ordered held found
    · cases resumed
  · cases resumed

theorem routed_resumeContinuation
    {s after : State} {record : Nat} {resumption : Resumption}
    (ordered : s.roster.Orderly) (held : s.Routed)
    (completes : completesTeardown s
      (.continuation record resumption) = true)
    (resumed : s.resumeContinuation record resumption = some after) :
    after.Routed := by
  have kept := ordered.kept
  have moves (stage : SpawnStage) :=
    Stages.moves_setContinuation record stage (held.uncleared record)
  have untorn {stage : SpawnStage} (found : s.continuation record = stage) :
      (s.stages.continuation record).tearing = stage.tearing := by
    rw [show s.stages.continuation record = s.continuation record from rfl,
      found]
  have unclaimed {stage : SpawnStage} (found : s.continuation record = stage)
      (acting : stage.acting = true) :
      ∀ claimant,
        s.loop.errand ≠ .claimed (s.agentName record) claimant := by
    apply unclaimed_of_busy kept
    right
    rw [found]
    exact acting
  unfold State.resumeContinuation at resumed
  simp only at resumed
  split at resumed
  · rename_i found
    split_ifs at resumed with unsettled ready
    · cases resumed
      exact held.setContinuation (untorn found) rfl
    · split at resumed
      · cases resumed
        apply (moves .unsubscribing).deregister held (unclaimed found rfl)
        · rw [Stages.tearsAt_setContinuation]
          exact .inr rfl
        · rw [Stages.drainsAt_setContinuation]
          rintro (drains | drains)
          · exact .inl drains
          · cases drains
        · exact .inr rfl
      · cases resumed
        exact held.setContinuation (untorn found) rfl
  · rename_i found
    cases resumed
    exact held.setContinuation (untorn found) rfl
  · rename_i found
    cases resumed
    exact held.setContinuation (untorn found) rfl
  · rename_i found
    cases resumed
    apply (moves .draining).unsubscribe held (unclaimed found rfl)
    · exact .inr (untorn found)
    · rw [Stages.tearsAt_setContinuation]
      exact .inr rfl
    · exact .inr rfl
  · rename_i found
    simp [completesTeardown, found, SpawnStage.tearing] at completes
  · rename_i found
    cases resumed
    have drains : s.stages.drainsAt record := by
      right
      rw [show s.stages.continuation record = s.continuation record from rfl,
        found]
      rfl
    have torn : s.stages.tearsAt record := .inr (untorn found)
    apply (moves .leaving).remove held
    · exact AList.lookup_erase (s.agentName record) s.dynamicChildren
    · intro name apart
      exact AList.lookup_erase_ne apart
    · exact drains
    · exact fun _ => torn
    · exact fun _ => drains
    · intro other built builds
      refine ⟨?_, builds⟩
      intro same
      apply not_tears_of_building ordered builds
      exact ⟨record, same.symm, torn⟩
  · rename_i found
    simp [completesTeardown, found, SpawnStage.tearing] at completes
  · rename_i found
    cases resumed
    exact held.setContinuation (untorn found) rfl
  · rename_i found
    cases resumed
    exact held.setContinuation (untorn found) rfl
  · rename_i found
    cases resumed
    exact held.setContinuation (untorn found) rfl
  · rename_i found
    cases resumed
    exact held.setContinuation (untorn found) rfl
  · cases resumed

/-! ## The loop -/

theorem empty_of_keys {s : State}
    (empty : s.dynamicChildren.keys.isEmpty = true) (name : Name) :
    s.dynamicChildren.lookup name = none := by
  rw [AList.lookup_eq_none, AList.mem_keys, List.isEmpty_iff.mp empty]
  exact List.not_mem_nil

/-- The loop ends without children. -/
theorem routed_onStop {s : State} (held : s.Routed)
    (unclaimed : ∀ name agent, s.loop.errand ≠ .claimed name agent)
    (empty : s.dynamicChildren.keys.isEmpty = true) :
    s.onStop.Routed := by
  have none : s.dynamicChildren.keys = [] := List.isEmpty_iff.mp empty
  unfold State.onStop State.stopChildren
  simp only [none, State.firstLive]
  exact held.halt unclaimed (empty_of_keys empty)

theorem routed_respond {s : State} (held : s.Routed)
    (unclaimed : ∀ name agent, s.loop.errand ≠ .claimed name agent)
    (request : Request) (answer : Answer) :
    (s.respond request answer).Routed :=
  held.goOn unclaimed (Errand.unclaimed_of_none rfl) rfl rfl

theorem routed_takeMessage
    {cfg : Config} {s : State} {message : Message}
    (held : s.Routed) (idle : s.loop = .idle)
    (retains : s.removalOf message = none)
    (empty : s.endedBy cfg message = true →
      s.dynamicChildren.keys.isEmpty = true) :
    (s.takeMessage cfg message).Routed := by
  have received : (s.receive message).Routed := held
  have unclaimed := Errand.unclaimed_of_none
    (show s.loop.errand = .none by rw [idle]; rfl)
  have ends (raises : s.endedBy cfg message = true) :
      (s.receive message).fail.Routed :=
    routed_onStop
      (s := { s.receive message with
        log := .raised :: (s.receive message).log })
      received unclaimed (empty raises)
  unfold State.takeMessage
  unfold State.endedBy at ends empty
  unfold State.removalOf at retains
  simp only at ends empty ⊢
  cases kind : message.kind with
  | shutdown =>
      rw [kind] at empty
      exact routed_onStop received unclaimed (empty rfl)
  | spawn =>
      rw [kind] at ends
      simp only [State.takeSpawn]
      split
      · exact routed_respond received unclaimed _ _
      · rename_i raises
        exact ends (decide_eq_true raises)
      · exact received.goOn unclaimed (Errand.unclaimed_of_asking rfl) rfl rfl
  | despawn =>
      rw [kind] at ends retains
      simp only [State.takeDespawn]
      split
      · rename_i unhashable
        apply ends
        simp only [unhashable, Option.isNone_none]
      · rename_i name hashed
        split
        · exact routed_respond received unclaimed _ _
        · rename_i record entered
          have found : s.dynamicChildren.lookup name = some record := entered
          simp [hashed, found] at retains
  | stop =>
      rw [kind] at ends retains
      simp only [State.takeStop]
      split_ifs with floats
      · apply ends
        simp only [floats, Bool.true_or]
      · split
        · rename_i unhashable
          apply ends
          simp only [unhashable, Option.isNone_none, Bool.or_true]
        · rename_i name hashed
          split
          · exact routed_respond received unclaimed _ _
          · rename_i record entered
            have found : s.dynamicChildren.lookup name = some record :=
              entered
            simp [hashed, found] at retains
  | other => exact received

theorem routed_resumeConsulting
    {cfg : Config} {s : State} {spawn : SpawnRequest}
    {approved constructs : Bool}
    (kept : s.roster.Kept) (held : s.Routed)
    (consulting : s.loop = .consulting spawn)
    (free : claimsFreeName s (.consulted approved constructs) = true)
    (empty : s.ends cfg (.consulted approved constructs) = true →
      s.dynamicChildren.keys.isEmpty = true) :
    (s.resumeConsulting spawn approved constructs).Routed := by
  have unclaimed := Errand.unclaimed_of_asking
    (show s.loop.errand = .asking spawn.name by rw [consulting]; rfl)
  unfold State.resumeConsulting
  split_ifs with denied fails taken
  · exact routed_respond (s := { s with currentSpawner := none }) held
      unclaimed _ _
  · apply routed_onStop
      (s := { s with currentSpawner := none, log := .raised :: s.log }) held
      unclaimed
    apply empty
    simp only [Bool.not_eq_true', Bool.not_eq_false] at denied fails
    simp only [State.ends, denied, fails, Bool.not_false, Bool.true_and]
  · exact routed_respond (s := { s with currentSpawner := none }) held
      unclaimed _ _
  · have absent : s.dynamicChildren.lookup spawn.name = none := by
      apply kept.asked
      rw [State.roster, consulting]
      rfl
    have claims : Claims s (.consulted approved constructs) spawn.name := by
      simp only [Bool.not_eq_true', Bool.not_eq_false] at denied fails
      rw [Option.not_isSome_iff_eq_none] at taken
      exact ⟨by rw [denied, fails], taken, spawn, consulting, rfl⟩
    have nothing := free_of_claims kept.numbered free claims
    have untorn : ¬ s.stages.Tears spawn.name := by
      rintro ⟨other, named, tearing | tearing⟩
      · exact (nothing other named).1
          (acting_of_begun rfl (ExitStage.begun_of_tearing tearing))
      · have settled := (nothing other named).2
        have acting : (s.roster.continuation other).acting = true :=
          SpawnStage.acting_of_tearing tearing
        rw [acting] at settled
        cases settled
    rcases kept.numbered.blank s.next (Nat.le_refl _) with
      ⟨_, exit, spawned, _⟩
    exact (held.claim unclaimed absent untorn).number spawn.name exit spawned

theorem routed_enroll
    {s : State} {spawn : SpawnRequest} {agent : Nat}
    (ordered : s.roster.Orderly) (held : s.Routed)
    (auditing : s.loop = .auditing spawn agent)
    (hashable : spawn.spawner.key?.isSome = true) :
    (s.enroll spawn agent).Routed := by
  rcases Option.isSome_iff_exists.mp hashable with ⟨spawner, hashed⟩
  have claimed : s.loop.errand = .claimed spawn.name agent := by
    rw [auditing]
    rfl
  rcases ordered.kept.claimed _ _ claimed with
    ⟨_, _, _, _, _, exit, spawned, _, free⟩
  have audits : Routes s.dynamicChildren.lookup s.registry s.handlers
      s.stages (.auditing spawn agent) := by
    rw [← auditing]
    exact held
  have unbuilt : ∀ other built,
      (s.stages.exit other).building = some built →
        s.stages.agentName other ≠ spawn.name := by
    intro other built builds named
    exact (free other named).1
      (acting_of_begun rfl (ExitStage.begun_of_building builds))
  have entered : (s.dynamicChildren.insert spawn.name agent).lookup
      spawn.name = some agent :=
    AList.lookup_insert s.dynamicChildren
  have others : ∀ name, name ≠ spawn.name →
      (s.dynamicChildren.insert spawn.name agent).lookup name =
        s.dynamicChildren.lookup name :=
    fun name apart => AList.lookup_insert_ne apart
  have waits : (s.stages.continuation agent).tearing = false := by
    rw [show s.stages.continuation agent = s.roster.continuation agent
      from rfl, spawned]
    rfl
  have admitted {loop : LoopStage}
      (unclaimed : ∀ name agent, loop.errand ≠ .claimed name agent)
      (serving : loop.removal = false) (running : loop.halted = false) :
      Routes (s.dynamicChildren.insert spawn.name agent).lookup s.registry
        s.handlers (s.stages.setExit agent .watched) loop :=
    (audits.enter entered others unbuilt unclaimed serving running).setPassing
      (tearing_of_stage exit) rfl rfl rfl
  simp only [State.enroll, hashed]
  cases spawn.wait with
  | true =>
      have idle : Routes (s.dynamicChildren.insert spawn.name agent).lookup
          s.registry s.handlers (s.stages.setExit agent .watched) .idle :=
        admitted (Errand.unclaimed_of_none rfl) rfl rfl
      exact idle.setContinuation waits rfl
  | false => exact admitted (Errand.unclaimed_of_none rfl) rfl rfl

theorem routed_resumeLoop
    {cfg : Config} {s after : State} {resumption : Resumption}
    (ordered : s.roster.Orderly) (held : s.Routed)
    (claims : keepsClaim s (.loop resumption) = true)
    (empty : s.ends cfg (.loop resumption) = true →
      s.dynamicChildren.keys.isEmpty = true)
    (resumed : s.resumeLoop resumption = some after) :
    after.Routed := by
  have serving := held.serving
  have ends {stage : LoopStage} (loop : s.loop = stage)
      (stops : resumption = .raised ∨ resumption = .cancelled)
      (waits : stage.halted = false ∧ stage.removal = false) :
      s.dynamicChildren.keys.isEmpty = true := by
    apply empty
    simp only [State.ends, State.escapes, loop]
    rcases stops with rfl | rfl
    · cases stage <;> simp_all [LoopStage.halted, LoopStage.removal]
    · cases stage <;> simp_all [LoopStage.halted, LoopStage.removal]
  unfold State.resumeLoop at resumed
  unfold keepsClaim at claims
  cases stage : s.loop with
  | subscribing spawn agent =>
      rw [stage] at resumed claims
      cases resumption with
      | returned =>
          cases resumed
          have claimed : s.loop.errand = .claimed spawn.name agent := by
            rw [stage]
            rfl
          rcases free_of_errand ordered claimed with ⟨absent, untorn⟩
          have subscribes : Routes s.dynamicChildren.lookup s.registry
              s.handlers s.stages (.subscribing spawn agent) := by
            rw [← stage]
            exact held
          exact subscribes.subscribe absent untorn
      | _ => cases claims
  | auditing spawn agent =>
      rw [stage] at resumed claims
      cases resumption with
      | returned =>
          cases resumed
          exact routed_enroll ordered held stage claims
      | _ => cases claims
  | replying request answer =>
      have unclaimed := Errand.unclaimed_of_none
        (show s.loop.errand = .none by rw [stage]; rfl)
      rw [stage] at resumed
      cases resumption with
      | returned =>
          cases resumed
          exact held.goOn unclaimed (Errand.unclaimed_of_none rfl) rfl rfl
      | raised =>
          cases resumed
          exact routed_onStop (s := { s with log := .raised :: s.log }) held
            unclaimed (ends stage (.inl rfl) ⟨rfl, rfl⟩)
      | cancelled =>
          cases resumed
          exact routed_onStop held unclaimed (ends stage (.inr rfl) ⟨rfl, rfl⟩)
      | timedOut => cases resumed
  | idle =>
      have unclaimed := Errand.unclaimed_of_none
        (show s.loop.errand = .none by rw [stage]; rfl)
      rw [stage] at resumed
      simp only at resumed
      split_ifs at resumed with cancelled
      cases resumed
      exact
        routed_onStop held unclaimed (ends stage (.inr cancelled) ⟨rfl, rfl⟩)
  | consulting spawn =>
      have consults : Routes s.dynamicChildren.lookup s.registry
          s.handlers s.stages (.consulting spawn) := by
        rw [← stage]
        exact held
      rw [stage] at resumed
      cases resumption with
      | raised =>
          cases resumed
          exact routed_onStop
            (s := { s with
              loop := .consulting spawn
              currentSpawner := none
              log := .raised :: s.log })
            consults (Errand.unclaimed_of_asking rfl)
            (ends stage (.inl rfl) ⟨rfl, rfl⟩)
      | cancelled =>
          cases resumed
          exact routed_onStop
            (s := { s with
              loop := .consulting spawn
              currentSpawner := none })
            consults (Errand.unclaimed_of_asking rfl)
            (ends stage (.inr rfl) ⟨rfl, rfl⟩)
      | returned => cases resumed
      | timedOut => cases resumed
  | gathering =>
      have unclaimed := Errand.unclaimed_of_none
        (show s.loop.errand = .none by rw [stage]; rfl)
      have gone := held.halted (by rw [stage]; rfl)
      rw [stage] at resumed
      simp only at resumed
      split_ifs at resumed
      cases resumed
      exact held.reloop unclaimed (Errand.unclaimed_of_none rfl) rfl
        (fun _ => gone)
  | ended =>
      rw [stage] at resumed
      cases resumed
  | _ =>
      rw [stage] at serving
      cases serving

/-! ## Every run -/

theorem routed_foreignStep
    {s after : State} {name : Name} {joins : Bool}
    (held : s.Routed)
    (acted : s.foreignStep name joins = some after) : after.Routed := by
  have others (owner : Option Owner)
      (foreign : owner ≠ some .mine)
      (notMine : s.registry name ≠ some .mine) :
      Routes s.dynamicChildren.lookup (update s.registry name owner)
        s.handlers s.stages s.loop := by
    constructor
    · intro other agent claimed
      have mine := held.claimed other agent claimed
      have apart : other ≠ name := by
        rintro rfl
        exact notMine mine
      rw [Function.update_of_ne apart]
      exact mine
    · exact held.audited
    · intro other record entered
      rcases held.tracked other record entered with routed | torn
      · have apart : other ≠ name := by
          rintro rfl
          exact notMine routed.1
        rw [Function.update_of_ne apart]
        exact .inl routed
      · exact .inr torn
    · intro other absent free
      rcases held.absent other absent free with
        ⟨unregistered, unsubscribed⟩
      refine ⟨?_, unsubscribed⟩
      by_cases same : other = name
      · rw [same, Function.update_self]
        exact foreign
      · rw [Function.update_of_ne same]
        exact unregistered
    · intro other torn
      by_cases same : other = name
      · rw [same, Function.update_self]
        exact foreign
      · rw [Function.update_of_ne same]
        exact held.torn other torn
    · exact held.drained
    · exact held.building
    · exact held.uncleared
    · exact held.serving
    · exact held.halted
  unfold State.foreignStep at acted
  split at acted
  · rename_i free
    cases acted
    apply others (some .foreign) (by simp)
    rw [free]
    simp
  · rename_i foreign
    cases acted
    apply others none (by simp)
    rw [foreign]
    simp
  · cases acted

theorem step_routed
    {cfg : Config} {s after : State} {label : Label}
    (ordered : s.roster.Orderly) (held : s.Routed)
    (permitted : routed cfg s label = true)
    (stepped : step cfg s label = some after) :
    after.Routed := by
  simp only [routed, Bool.and_eq_true, Bool.or_eq_true, Bool.not_eq_true']
    at permitted
  rcases permitted with ⟨⟨⟨⟨orders, claims⟩, completes⟩, inFull⟩, ends⟩
  have empty (stops : s.ends cfg label = true) :
      s.dynamicChildren.keys.isEmpty = true := by
    rcases ends with goesOn | empty
    · rw [goesOn] at stops
      cases stops
    · exact empty
  cases label with
  | take message =>
      cases loop : s.loop with
      | idle =>
          simp only [step, loop, Option.some.injEq] at stepped
          subst stepped
          simp only [removesInFull, Option.isNone_iff_eq_none] at inFull
          exact routed_takeMessage held loop inFull empty
      | _ => simp [step, loop] at stepped
  | consulted approved constructs =>
      cases loop : s.loop with
      | consulting spawn =>
          simp only [step, loop, Option.some.injEq] at stepped
          subst stepped
          have free := (Bool.and_eq_true_iff.mp orders).1
          exact routed_resumeConsulting ordered.kept held loop free empty
      | _ => simp [step, loop] at stepped
  | loop resumption =>
      exact routed_resumeLoop ordered held claims empty stepped
  | exit agent resumption now constructs =>
      exact routed_resumeExit ordered held completes inFull stepped
  | continuation record resumption =>
      exact routed_resumeContinuation ordered held completes stepped
  | child agent event =>
      simp only [step, State.childStep] at stepped
      repeat' split at stepped
      all_goals cases stepped
      all_goals exact held
  | foreign name joins => exact routed_foreignStep held stepped

/-- The restart of a crashed child cannot be built. -/
def failedRestart : List Label :=
  spawnQuickly (spawnInto "planner" "app.Worker" "w1" false "1") ++
    [Label.child 0 (.reach false), .child 0 (.finish .raised .crashed),
      .exit 0 .returned 0 false, .exit 0 .returned 0 false,
      .exit 0 .returned 0 false, .exit 0 .returned 0 false,
      .exit 0 .returned 0 false, .exit 0 .returned 0 false,
      .exit 0 .returned 0 false]

/-- A child with the default restart mode returns. -/
def cleanExit : List Label :=
  spawnQuickly (spawnInto "planner" "app.Worker" "w1" false "1") ++
    [Label.child 0 (.reach false), .child 0 (.finish .returned .stopped),
      .exit 0 .returned 0 true, .exit 0 .returned 0 true,
      .exit 0 .returned 0 true, .exit 0 .returned 0 true,
      .exit 0 .returned 0 true]

/-- The loop waits for a message. -/
def LoopStage.idles : LoopStage → Bool
  | .idle => true
  | _ => false

theorem LoopStage.eq_idle_of_idles
    {loop : LoopStage} (idles : loop.idles = true) : loop = .idle := by
  cases loop with
  | idle => rfl
  | _ => cases idles

end Civitas.Dynamic
