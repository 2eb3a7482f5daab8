import Civitas.Dynamic.Changes

/-!
# Removals and restarts

A restart looks its child up once, at its beginning, and works for several
awaits on what it found.  In the runs considered here a removal and a restart
of one name do not overlap: no despawn or stop is taken for a name that is
being restarted, and no restart is built for a name that is being removed.

Then a restart always finds its child in the table, and everything that works
under a name which is being removed has been asked to end.
-/

namespace Civitas.Dynamic

open Civitas.PyValue
open Civitas.Transition
open Function (update)

/-! ## Runs that keep removals and restarts apart -/

/-- The handler has built the next incarnation and not recorded it. -/
def ExitStage.restarting : ExitStage → Bool
  | .wiring _ _ | .transferring _ _ | .starting _ _ => true
  | _ => false

/-- A restart of the name is under way. -/
def State.restartsName (s : State) (name : Name) : Bool :=
  (List.range s.next).any fun agent =>
    s.agentName agent = name && (s.exit agent).restarting

/-- The exit of a child that ran leads to a restart. -/
def State.restarts
    (cfg : Config) (s : State) (agent record : Nat) (crashed : Bool)
    (now : Nat) : Bool :=
  cfg.restart ≠ .never && (cfg.restart ≠ .transient || crashed) &&
    !(s.verdict cfg (s.agentName agent) (s.recAgent record) now).2

/-- The handler is about to build the next incarnation. -/
def State.rebuilds
    (cfg : Config) (s : State) (agent : Nat) (crashed : Bool) (now : Nat)
    (constructs : Bool) : Bool :=
  match s.dynamicChildren.lookup (s.agentName agent) with
  | none => false
  | some record =>
      !(crashed && !s.reachedLoop (s.recAgent record)) &&
        s.restarts cfg agent record crashed now && constructs

/-- Removals and restarts of one name do not overlap. -/
def separate (cfg : Config) (s : State) (label : Label) : Bool :=
  match label with
  | .take message =>
      match s.removalOf message with
      | some name => !s.restartsName name
      | none => true
  | .exit agent .returned now constructs =>
      match s.exit agent with
      | .scheduled crashed =>
          !s.rebuilds cfg agent crashed now constructs ||
            s.loop.removes? ≠ some (s.agentName agent)
      | _ => true
  | _ => true

/-- An orderly step that keeps removals and restarts apart. -/
def steady (cfg : Config) (s : State) (label : Label) : Bool :=
  orderly s label && separate cfg s label

/-! ## Restarts -/

section Restarts

variable {cfg : Config} {s after : State} {label : Label} {agent : Nat}

theorem ExitStage.acting_of_restarting {stage : ExitStage}
    (restarting : stage.restarting = true) : stage.acting = true := by
  cases stage <;> first | rfl | cases restarting

theorem ExitStage.restarting_of_cancel {stage : ExitStage}
    (restarting : stage.cancel.restarting = true) : False := by
  cases stage <;> cases restarting

theorem entered_of_rebuilds
    {crashed : Bool} {now : Nat} {constructs : Bool}
    (rebuilds : s.rebuilds cfg agent crashed now constructs = true) :
    ∃ record, s.dynamicChildren.lookup (s.agentName agent) = some record := by
  unfold State.rebuilds at rebuilds
  split at rebuilds
  · cases rebuilds
  · rename_i record entered
    exact ⟨record, entered⟩

/-- Where a handler gets to with its first steps. -/
inductive Begins
    (cfg : Config) (s : State) (agent : Nat) (crashed : Bool) (now : Nat)
    (constructs : Bool) : ExitStage → Prop where
  | absent :
      s.dynamicChildren.lookup (s.agentName agent) = none →
        Begins cfg s agent crashed now constructs .finished
  | startFailed (record : Nat) :
      s.dynamicChildren.lookup (s.agentName agent) = some record →
        Begins cfg s agent crashed now constructs
          (.unsubscribing (.startFailed record))
  | clears (reason : Reason) :
      Begins cfg s agent crashed now constructs (.clearing reason)
  | builds (record fresh : Nat) :
      s.rebuilds cfg agent crashed now constructs = true →
        Begins cfg s agent crashed now constructs (.wiring record fresh)
  | fails : Begins cfg s agent crashed now constructs .rewireClearing

theorem begins_beginExit
    (cfg : Config) (s : State) (agent : Nat) (crashed : Bool) (now : Nat)
    (constructs : Bool) :
    Begins cfg s agent crashed now constructs
      ((s.beginExit cfg agent crashed now constructs).exit agent) := by
  have moved {other : State} {stage : ExitStage}
      (begins : Begins cfg s agent crashed now constructs stage) :
      Begins cfg s agent crashed now constructs
        ((other.setExit agent stage).exit agent) := by
    simp only [State.setExit, Function.update_self]
    exact begins
  unfold State.beginExit
  split
  · rename_i absent
    exact moved (.absent absent)
  · rename_i record entered
    simp only
    split_ifs with unreached never clean spent builds
    · exact moved (.startFailed record entered)
    · exact moved (.clears _)
    · exact moved (.clears _)
    · exact moved (.clears _)
    · exact moved (.clears _)
    · have rebuilds :
          s.rebuilds cfg agent crashed now constructs = true := by
        simp only [State.rebuilds, State.restarts, entered, Bool.and_eq_true,
          decide_eq_true_eq, not_and, Bool.not_eq_true,
          Bool.not_eq_true'] at *
        grind
      simp only [State.buildFresh, Function.update_self]
      exact .builds record s.next rebuilds
    · exact moved .fails

theorem restarting_of_resumeExit
    {now : Nat} {resumption : Resumption} {constructs : Bool}
    (resumed :
      s.resumeExit cfg agent resumption now constructs = some after)
    (restarting : (after.exit agent).restarting = true) :
    (s.exit agent).restarting = true ∨
      resumption = .returned ∧ ∃ crashed,
        s.exit agent = .scheduled crashed ∧
          s.rebuilds cfg agent crashed now constructs = true := by
  have settled {other : State} {stage : ExitStage}
      (quiet : stage.restarting = false)
      (moved : ((other.setExit agent stage).exit agent).restarting = true) :
      False := by
    simp only [State.setExit, Function.update_self, quiet] at moved
    cases moved
  have left {other : State} {stage : ExitStage}
      (quiet : stage = .finished ∨ ∃ spawner, stage = .notifying spawner)
      (moved : ((other.setExit agent stage).exit agent).restarting = true) :
      False := by
    rcases quiet with rfl | ⟨spawner, rfl⟩
    · exact settled rfl moved
    · exact settled rfl moved
  unfold State.resumeExit at resumed
  simp only at resumed
  split at resumed
  all_goals rename_i stage
  all_goals try rw [stage]
  all_goals repeat' split at resumed
  all_goals cases resumed
  all_goals first
    | exact .inl rfl
    | exact (settled rfl restarting).elim
    | exact (left (noticeStage_cases s agent) restarting).elim
    | exact (left (afterCleanup_cases s agent _) restarting).elim
    | skip
  · rename_i crashed
    refine .inr ⟨rfl, crashed, rfl, ?_⟩
    have begins := begins_beginExit cfg s agent crashed now constructs
    generalize (s.beginExit cfg agent crashed now constructs).exit agent =
      stage at begins restarting
    cases begins with
    | builds _ _ rebuilds => exact rebuilds
    | _ => cases restarting

/-- A restart was under way before the step, or is built in it. -/
theorem restarting_of_step
    (stepped : step cfg s label = some after)
    (restarting : (after.exit agent).restarting = true) :
    (s.exit agent).restarting = true ∨
      ∃ now constructs crashed,
        label = .exit agent .returned now constructs ∧
          s.exit agent = .scheduled crashed ∧
          s.rebuilds cfg agent crashed now constructs = true := by
  cases exit_of_step stepped agent with
  | same unmoved =>
      rw [unmoved] at restarting
      exact .inl restarting
  | own resumption now constructs handled =>
      subst handled
      rcases restarting_of_resumeExit stepped restarting with
        before | ⟨rfl, crashed, scheduled, rebuilds⟩
      · exact .inl before
      · exact .inr ⟨now, constructs, crashed, rfl, scheduled, rebuilds⟩
  | admitted spawn _ _ watched =>
      rw [watched] at restarting
      cases restarting
  | published other record now constructs _ _ watched =>
      rw [watched] at restarting
      cases restarting
  | cancelled _ stopped =>
      rw [stopped] at restarting
      exact (ExitStage.restarting_of_cancel restarting).elim

/-- What acts after a step acted before, or is spawned or restarted in it. -/
theorem acting_of_step
    (kept : s.roster.Kept)
    (stepped : step cfg s label = some after)
    (acting : after.roster.Acting agent) :
    s.roster.Acting agent ∨
      (∃ handler, (s.exit handler).restarting = true ∧
        s.agentName handler = s.agentName agent ∧
        s.home handler = s.home agent ∧ agent < s.next) ∨
      ∃ name, s.loop.errand = .claimed name agent ∧
        after.roster.entry (after.roster.agentName agent) =
          some (after.roster.home agent) := by
  have motion := step_motion stepped
  generalize after.roster = b at motion acting
  cases motion with
  | quiet quiet => exact .inl (quiet.acting acting)
  | claim => exact .inl acting
  | enroll origin waits claimed =>
      by_cases same : agent = origin.record
      · rcases kept.claimed _ _ claimed with ⟨_, named, home, _⟩
        rw [same]
        refine .inr (.inr ⟨origin.name, claimed, ?_⟩)
        simp only [Roster.enroll, named, home, Function.update_self]
      · left
        simpa only [Roster.Acting, Roster.enroll,
          Function.update_of_ne same] using acting
  | build handler record crashed scheduled =>
      left
      rcases acting with live | acts
      · exact .inl live
      · right
        by_cases same : agent = handler
        · rw [same, scheduled]
          rfl
        · simpa only [Roster.build, Function.update_of_ne same] using acts
  | start handler record fresh transferring =>
      rcases kept.staged.building handler record fresh
          (by rw [transferring]; rfl) with
        ⟨_, _, born, home, _, named, _⟩
      by_cases same : agent = fresh
      · right
        left
        refine ⟨handler, ?_, ?_, ?_, ?_⟩
        · rw [show s.exit handler = _ from transferring]
          rfl
        · rw [same]
          exact named.symm
        · rw [same]
          exact home.symm
        · rw [same]
          exact born
      · left
        rcases acting with live | acts
        · left
          simpa only [Roster.start, Function.update_of_ne same] using live
        · right
          by_cases own : agent = handler
          · rw [own, transferring]
            rfl
          · simpa only [Roster.start, Function.update_of_ne own] using acts
  | publish handler record fresh starting =>
      rcases kept.staged.starting handler record fresh starting with
        ⟨_, _, born, home, _, named, _⟩
      by_cases same : agent = fresh
      · right
        left
        refine ⟨handler, ?_, ?_, ?_, ?_⟩
        · rw [show s.exit handler = _ from starting]
          rfl
        · rw [same]
          exact named.symm
        · rw [same]
          exact home.symm
        · rw [same]
          exact born
      · left
        rcases acting with live | acts
        · exact .inl live
        · right
          by_cases own : agent = handler
          · rw [own, starting]
            rfl
          · simpa only [Roster.publish, Function.update_of_ne same,
              Function.update_of_ne own] using acts

end Restarts

/-! ## Calm states -/

/-- Restarts find their children, and removals are told to their children. -/
structure Calm (s : State) : Prop where
  housed : ∀ agent, (s.exit agent).restarting = true →
    s.dynamicChildren.lookup (s.agentName agent) = some (s.home agent)
  asked : ∀ name agent, s.loop.removes? = some name →
    s.agentName agent = name → s.roster.Acting agent →
      s.requested agent = true
  apart : ∀ name agent, s.loop.removes? = some name →
    s.agentName agent = name → (s.exit agent).restarting = false

theorem calm_init : Calm init :=
  ⟨by rintro _ ⟨⟩, by rintro _ _ ⟨⟩, by rintro _ _ ⟨⟩⟩

section Calm

variable {cfg : Config} {s after : State} {label : Label} {agent : Nat}

theorem restartsName_of_restarting
    (numbered : s.roster.Numbered)
    (restarting : (s.exit agent).restarting = true) :
    s.restartsName (s.agentName agent) = true := by
  have born : agent < s.next := by
    apply numbered.born
    intro unwatched
    rw [show s.exit agent = _ from unwatched] at restarting
    cases restarting
  apply List.any_eq_true.mpr
  refine ⟨agent, List.mem_range.mpr born, ?_⟩
  simp only [restarting, decide_true, Bool.and_self]

/-- The record of a restart has reached its loop and is not removed. -/
theorem current_of_restarting
    (kept : s.roster.Kept)
    (restarting : (s.exit agent).restarting = true) :
    (s.exit (s.recAgent (s.home agent))).removing = false ∧
      s.reachedLoop (s.home agent) = true := by
  have root : s.home (s.home agent) = s.home agent :=
    (kept.numbered.root agent).1
  have unmoved (unreached : ¬ s.reachedLoop (s.home agent) = true) :
      s.recAgent (s.home agent) = s.home agent :=
    kept.numbered.unreached _ root (Bool.eq_false_iff.mpr unreached)
  have built {record fresh : Nat}
      (building : (s.exit agent).building = some (record, fresh)) :
      (s.exit (s.recAgent (s.home agent))).removing = false ∧
        s.reachedLoop (s.home agent) = true := by
    have holds :=
      ExitStage.holds_of_begun (ExitStage.begun_of_building building)
    have current : s.recAgent (s.home agent) = agent :=
      kept.holder agent (.inr holds)
    constructor
    · rw [current]
      generalize s.exit agent = stage at building
      cases stage <;> first | rfl | cases building
    · by_contra unreached
      have same := unmoved unreached
      rw [current] at same
      rw [← same] at unreached
      exact unreached (kept.staged.building agent record fresh building).1
  cases stage : s.exit agent with
  | wiring record fresh => exact built (by rw [stage]; rfl)
  | transferring record fresh => exact built (by rw [stage]; rfl)
  | starting record fresh =>
      rcases kept.staged.starting agent record fresh stage with
        ⟨home, installed, _, _, _, _, _, unwatched, _, newer⟩
      have current : s.recAgent (s.home agent) = fresh := by
        have same : record = s.home agent := home
        rw [← same]
        exact installed
      constructor
      · rw [current, show s.exit fresh = _ from unwatched]
        rfl
      · by_contra unreached
        rw [unmoved unreached] at current
        exact newer current.symm
  | _ =>
      rw [stage] at restarting
      cases restarting

/-- A name that is being restarted is not removed. -/
theorem not_removes_of_restarting
    (held : s.roster.Orderly) (calm : Calm s)
    (permitted : separate cfg s label = true)
    (restarting : (s.exit agent).restarting = true) :
    ¬ Removes s label after (s.agentName agent) := by
  have kept := held.kept
  have acting : s.roster.Acting agent :=
    .inr (ExitStage.acting_of_restarting restarting)
  have serves := kept.acting agent acting
  rcases current_of_restarting kept restarting with ⟨stays, reached⟩
  intro removes
  generalize named : s.agentName agent = name at removes
  cases removes with
  | take message request _ removal =>
      have restarts := restartsName_of_restarting kept.numbered restarting
      simp only [separate, removal, ← named, restarts] at permitted
      cases permitted
  | loop resumption request _ removing =>
      rw [calm.apart name agent removing named] at restarting
      cases restarting
  | exit other now constructs removing =>
      have holds : (s.exit other).holds = true := by
        apply ExitStage.holds_of_begun
        generalize s.exit other = stage at removing
        cases stage <;> first | rfl | cases removing
      have rival : s.roster.Serves other :=
        kept.acting other (.inr (ExitStage.acting_of_holds holds))
      have same : s.home agent = s.home other := serves.home_eq rival named
      have current : s.recAgent (s.home other) = other :=
        kept.holder other (.inr holds)
      rw [same, current, removing] at stays
      cases stays
  | continuation record draining =>
      have tearing : (s.continuation record).tearing = true := by
        rw [draining]
        rfl
      rcases kept.continuing record (SpawnStage.acting_of_tearing tearing)
        with ⟨rival, root⟩
      have same : s.home agent = s.home record :=
        serves.home_eq rival named
      have unreached := (held.torn record tearing).2
      rw [same, show s.home record = record from root,
        show s.reachedLoop record = false from unreached] at reached
      cases reached

/-- No name under which something works is spawned. -/
theorem not_auditing_of_acting
    (kept : s.roster.Kept) (acting : s.roster.Acting agent)
    {spawn : SpawnRequest} {child : Nat}
    (loop : s.loop = .auditing spawn child) :
    spawn.name ≠ s.agentName agent := by
  intro same
  have claimed : s.roster.errand = .claimed spawn.name child := by
    simp only [State.roster, loop]
    rfl
  have free := (kept.claimed _ _ claimed).2.2.2.2.2.2.2.2
  exact (free agent same.symm).1 acting

theorem named_of_step
    (stepped : step cfg s label = some after) (born : agent < s.next) :
    after.agentName agent = s.agentName agent ∧
      after.home agent = s.home agent := by
  have grows := (step_motion stepped).grows
  exact ⟨grows.agentName agent born, grows.home agent born⟩

theorem born_of_acting
    (numbered : s.roster.Numbered) (acting : s.roster.Acting agent) :
    agent < s.next := by
  by_contra unborn
  rcases numbered.blank agent (Nat.le_of_not_lt unborn) with
    ⟨task, exit, _⟩
  rcases acting with live | acts
  · rw [task] at live
    cases live
  · rw [exit] at acts
    cases acts

theorem housed_of_step
    (held : s.roster.Orderly) (calm : Calm s)
    (permitted : separate cfg s label = true)
    (stepped : step cfg s label = some after)
    (restarting : (after.exit agent).restarting = true) :
    after.dynamicChildren.lookup (after.agentName agent) =
      some (after.home agent) := by
  have kept := held.kept
  have moves := step_tableMoves stepped
  rcases restarting_of_step stepped restarting with
    before | ⟨now, constructs, crashed, rfl, scheduled, rebuilds⟩
  · have acting : s.roster.Acting agent :=
      .inr (ExitStage.acting_of_restarting before)
    rcases named_of_step stepped (born_of_acting kept.numbered acting) with
      ⟨named, home⟩
    rw [named, home]
    rcases moves.entry (s.agentName agent) with
      same | ⟨_, removes⟩ | ⟨spawn, child, loop, _, spawned, _⟩
    · rw [same]
      exact calm.housed agent before
    · exact absurd removes
        (not_removes_of_restarting held calm permitted before)
    · exact absurd spawned (not_auditing_of_acting kept acting loop)
  · have acting : s.roster.Acting agent := by
      right
      simp only [State.roster, scheduled]
      rfl
    rcases named_of_step stepped (born_of_acting kept.numbered acting) with
      ⟨named, home⟩
    rw [named, home]
    have found :
        s.dynamicChildren.lookup (s.agentName agent) =
          some (s.home agent) := by
      rcases entered_of_rebuilds rebuilds with ⟨record, entered⟩
      rw [entered]
      exact congrArg some (kept.entry_home acting entered)
    rcases moves.entry (s.agentName agent) with
      same | ⟨_, removes⟩ | ⟨_, _, _, other, _⟩
    · rw [same]
      exact found
    · generalize s.agentName agent = name at removes
      cases removes with
      | exit _ _ _ removing =>
          rw [scheduled] at removing
          cases removing
    · cases other

/-- Nothing is restarted under a name whose removal goes on or begins. -/
theorem settled_of_removing
    {name : Name}
    (kept : s.roster.Kept) (calm : Calm s)
    (permitted : separate cfg s label = true)
    (removing : s.loop.removes? = some name ∨ Takes s label name)
    (named : s.agentName agent = name) :
    (s.exit agent).restarting = false := by
  rcases removing with before | ⟨message, rfl, removal⟩
  · exact calm.apart name agent before named
  · rw [Bool.eq_false_iff]
    intro restarting
    have under := restartsName_of_restarting kept.numbered restarting
    rw [named] at under
    simp only [separate, removal, under] at permitted
    cases permitted

theorem apart_of_step
    (kept : s.roster.Kept) (calm : Calm s)
    (permitted : separate cfg s label = true)
    (stepped : step cfg s label = some after)
    (removing : after.loop.removes? = some (after.agentName agent)) :
    (after.exit agent).restarting = false := by
  rw [Bool.eq_false_iff]
  intro restarting
  rcases restarting_of_step stepped restarting with
    before | ⟨now, constructs, crashed, rfl, scheduled, rebuilds⟩
  · have acting : s.roster.Acting agent :=
      .inr (ExitStage.acting_of_restarting before)
    have named :=
      (named_of_step stepped (born_of_acting kept.numbered acting)).1
    rw [named] at removing
    rw [settled_of_removing kept calm permitted
      ((step_tableMoves stepped).removes _ removing) rfl] at before
    cases before
  · have acting : s.roster.Acting agent := by
      right
      simp only [State.roster, scheduled]
      rfl
    have named :=
      (named_of_step stepped (born_of_acting kept.numbered acting)).1
    rw [named] at removing
    rcases (step_tableMoves stepped).removes _ removing with
      before | ⟨message, other, _⟩
    · simp [separate, scheduled, rebuilds, before] at permitted
    · cases other

theorem current_of_acting
    (kept : s.roster.Kept)
    (settled : (s.exit agent).restarting = false)
    (acting : s.roster.Acting agent) :
    s.recAgent (s.home agent) = agent := by
  apply kept.holder agent
  rcases acting with live | acts
  · exact .inl live
  · right
    change (s.exit agent).holds = true
    change (s.exit agent).acting = true at acts
    generalize s.exit agent = stage at acts settled
    cases stage <;> first | exact acts | cases settled

theorem asked_of_takes
    (kept : s.roster.Kept) (calm : Calm s)
    (permitted : separate cfg s label = true)
    (stepped : step cfg s label = some after)
    (taken : Takes s label (s.agentName agent))
    (acting : s.roster.Acting agent) :
    after.requested agent = true := by
  have settled := settled_of_removing kept calm permitted (.inr taken) rfl
  have current := current_of_acting kept settled acting
  have found := taken
  rcases found with ⟨message, _, removal⟩
  rcases entered_of_removalOf removal with ⟨record, entered⟩
  have same : record = s.home agent := kept.entry_home acting entered
  have asked := requested_of_takes stepped taken entered
  rw [same, current] at asked
  exact asked

theorem asked_of_step
    (kept : s.roster.Kept) (calm : Calm s)
    (permitted : separate cfg s label = true)
    (stepped : step cfg s label = some after)
    (removing : after.loop.removes? = some (after.agentName agent))
    (acting : after.roster.Acting agent) :
    after.requested agent = true := by
  have moves := step_tableMoves stepped
  rcases acting_of_step kept stepped acting with
    before | ⟨handler, restarting, named, _, born⟩ | ⟨name, claimed, _⟩
  · rw [(named_of_step stepped (born_of_acting kept.numbered before)).1]
      at removing
    rcases moves.removes _ removing with earlier | taken
    · exact moves.requested agent (calm.asked _ agent earlier rfl before)
    · exact asked_of_takes kept calm permitted stepped taken before
  · rw [(named_of_step stepped born).1, ← named] at removing
    rw [settled_of_removing kept calm permitted
      (moves.removes _ removing) rfl] at restarting
    cases restarting
  · rcases moves.removes _ removing with earlier | ⟨message, rfl, _⟩
    · generalize s.loop = stage at claimed earlier
      cases stage <;> cases claimed
      · cases earlier
      · cases earlier
    · cases loop : s.loop with
      | idle =>
          rw [loop] at claimed
          cases claimed
      | _ => simp [step, loop] at stepped

theorem step_calm
    (held : s.roster.Orderly) (calm : Calm s)
    (permitted : separate cfg s label = true)
    (stepped : step cfg s label = some after) :
    Calm after where
  housed := fun _ restarting =>
    housed_of_step held calm permitted stepped restarting
  asked := by
    rintro name agent removing rfl acting
    exact asked_of_step held.kept calm permitted stepped removing acting
  apart := by
    rintro name agent removing rfl
    exact apart_of_step held.kept calm permitted stepped removing

end Calm

end Civitas.Dynamic
