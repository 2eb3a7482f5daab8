import Civitas.Supervision.Tree
import Civitas.Transition

/-!
# Crash events

How a `Supervisor` learns of the failures of its children and what it does
about each of them: `_on_child_done`, the health probes and heartbeats, the
escalations of child supervisors, `_process_crash_event`, `_handle_crash` and
the restart strategies.

An event sits in the side table `_pending_crash_events` until the supervisor's
own loop takes its trigger.  An event of a finished task carries the task, and
is skipped when the task recorded for the child is another one.  Events of
probes and of escalations carry none.

Every incarnation of a child has a number: the task of a local agent, the start
of a child supervisor, what a worker hosts for a remote child.  The verdict of
the restart engine is left open; a state keeps what was charged, acted upon and
taken, so that a run can be judged by its last state.
-/

namespace Civitas.Supervision

open Civitas.Transition
open Function (update)

/-! ## State -/

/-- How a supervisor learns that a child has crashed. -/
inductive ChildKind where
  | agent
  | supervisor
  | remote
deriving DecidableEq

namespace CrashEvents

/-- A supervisor's children, in the order they are declared. -/
structure Config where
  /-- The names of `children`. -/
  children : List String
  kind : String → ChildKind
  strategy : RestartStrategy
  hosted : ∀ name ∈ children, kind name ≠ .remote

/-- An event, the incarnation it was raised for, and the task it carries. -/
structure Crash where
  name : String
  about : Nat
  task : Option Nat
deriving DecidableEq

/-- The incarnation that an event is about. -/
def Crash.incarnation (crash : Crash) : String × Nat :=
  (crash.name, crash.about)

/-- Where the processing of an event stands. -/
inductive Stage where
  | idle
  | sleeping (crash : Crash)
  | restarting (rest : List String)
  | escalating
deriving DecidableEq

/-- A supervisor, its children and the crash events. -/
structure State where
  /-- `_running`. -/
  running : Bool := false
  /-- The supervisor's own loop runs. -/
  alive : Bool := false
  /-- The children that `start` has still to start. -/
  launching : List String := []
  incarnation : String → Nat := fun _ => 0
  childTasks : String → Option Nat := fun _ => none
  /-- The done callback of a task has run. -/
  called : String → Nat → Bool := fun _ _ => false
  nextId : Nat := 0
  pending : List (Nat × Crash) := []
  stage : Stage := .idle
  taken : List (Nat × Crash) := []
  /-- The incarnations charged by `record_crash`. -/
  charged : List (String × Nat) := []
  /-- The incarnations whose failure a restart strategy was applied to. -/
  acted : List (String × Nat) := []

/-- The supervisor has not been started. -/
def init : State := {}

/-! ## Steps -/

/-- What the supervisor and its children do. -/
inductive Label where
  /-- The task of an agent has ended with an exception. -/
  | done (name : String) (task : Nat)
  /-- A probe has failed, or a child supervisor escalates. -/
  | report (name : String)
  /-- The loop takes the trigger of an event. -/
  | take (id : Nat) (suspended exhausted : Bool)
  /-- The backoff delay is over. -/
  | wake
  /-- The next child of the restart set; whether its start succeeds. -/
  | restart (started : Bool)
  /-- An await of the strategy raises. -/
  | abandon
  /-- The event has been handed to the parent, or logged. -/
  | escalated
  /-- A worker has replaced a remote child. -/
  | rehost (name : String)
  /-- `start`, up to its children. -/
  | begin
  /-- `start` comes to its next child; whether the start succeeds. -/
  | launch (started : Bool)
  /-- `stop` begins. -/
  | halt
  /-- The supervisor's own loop has ended. -/
  | finish
deriving DecidableEq

/-- `_enqueue_crash_event`. -/
def State.enqueue (s : State) (crash : Crash) : State :=
  { s with
    nextId := s.nextId + 1
    pending := s.pending ++ [(s.nextId, crash)] }

/-- A child has a new incarnation, whose task is recorded when it starts. -/
def State.renew
    (cfg : Config) (s : State) (name : String) (started : Bool) : State :=
  { s with
    incarnation := update s.incarnation name (s.incarnation name + 1)
    childTasks :=
      if cfg.kind name = .agent ∧ started
      then update s.childTasks name (some (s.incarnation name + 1))
      else s.childTasks }

/-- The restart set of a strategy, in the order in which it is restarted. -/
def Config.restartSet (cfg : Config) (name : String) : List String :=
  match cfg.strategy with
  | .oneForOne =>
      if cfg.kind name = .remote ∨ name ∈ cfg.children then [name] else []
  | .oneForAll => cfg.children
  | .restForOne => cfg.children.dropWhile (· ≠ name)

/-- The event carries a task that is not the one recorded for the child. -/
def State.stale (s : State) (crash : Crash) : Bool :=
  crash.task.isSome && decide (s.childTasks crash.name ≠ crash.task)

/-- `_process_crash_event` goes on to `_handle_crash`. -/
def State.heeds (s : State) (crash : Crash) : Bool :=
  s.running && !s.stale crash

/-- `_process_crash_event`, up to the backoff delay. -/
def State.process
    (s : State) (id : Nat) (suspended exhausted : Bool) : State :=
  match s.pending.lookup id with
  | none => s
  | some crash =>
      let popped :=
        { s with
          pending := s.pending.filter fun event => event.1 ≠ id
          taken := (id, crash) :: s.taken }
      if s.heeds crash then
        { popped with
          charged :=
            if suspended then s.charged
            else crash.incarnation :: s.charged
          stage := if exhausted then .escalating else .sleeping crash }
      else popped

/-- One step of the supervisor. -/
def step (cfg : Config) (s : State) : Label → Option State
  | .done name task =>
      if cfg.kind name = .agent ∧ task ≤ s.incarnation name ∧
          s.called name task = false then
        some
          ({ s with
              called :=
                update s.called name
                  (update (s.called name) task true) }.enqueue
            ⟨name, task, some task⟩)
      else none
  | .report name =>
      if cfg.kind name ≠ .agent
      then some (s.enqueue ⟨name, s.incarnation name, none⟩)
      else none
  | .take id suspended exhausted =>
      match s.alive, s.stage with
      | true, .idle => some (s.process id suspended exhausted)
      | _, _ => none
  | .wake =>
      match s.stage with
      | .sleeping crash =>
          some
            { s with
              stage := .restarting (cfg.restartSet crash.name)
              acted := crash.incarnation :: s.acted }
      | _ => none
  | .restart started =>
      match s.stage with
      | .restarting (name :: rest) =>
          if cfg.kind name = .remote
          then some { s with stage := .restarting rest }
          else
            some
              { s.renew cfg name started with
                stage := if started then .restarting rest else .escalating }
      | .restarting [] => some { s with stage := .idle }
      | _ => none
  | .abandon =>
      match s.stage with
      | .restarting _ => some { s with stage := .escalating }
      | _ => none
  | .escalated =>
      match s.stage with
      | .escalating => some { s with stage := .idle }
      | _ => none
  | .rehost name =>
      if cfg.kind name = .remote
      then some (s.renew cfg name true)
      else none
  | .begin =>
      if s.alive = false ∧ s.launching = [] then
        some
          { s with
            running := true
            alive := true
            launching := cfg.children }
      else none
  | .launch started =>
      match s.launching with
      | name :: rest =>
          some
            { s.renew cfg name started with
              launching := if started then rest else [] }
      | [] => none
  | .halt => some { s with running := false }
  | .finish =>
      if s.running = false
      then some { s with alive := false, stage := .idle }
      else none

/-! ## The condition -/

/-- The events in the side table that concern a child. -/
def State.awaiting (s : State) (name : String) : List (Nat × Crash) :=
  s.pending.filter fun event => event.2.name = name

/-- The incarnations that events have been raised for. -/
def State.heard (s : State) : List (String × Nat) :=
  (s.pending ++ s.taken).map fun event => event.2.incarnation

/--
A child may be renewed: no event without a task waits for it, and none at all
when its task stays the one recorded before.
-/
def State.renewable
    (cfg : Config) (s : State) (name : String) (started : Bool) : Bool :=
  if cfg.kind name = .agent ∧ started then true
  else (s.awaiting name).isEmpty

/--
Probes and escalations report an incarnation once; a child supervisor, a
remote child, or a child whose start fails, is renewed when no event waits for
it; a task that is no longer the incarnation of its child reports nothing while
it is still recorded.
-/
def reportsOnce (cfg : Config) (s : State) : Label → Bool
  | .report name => decide ((name, s.incarnation name) ∉ s.heard)
  | .done name task =>
      decide (task = s.incarnation name) ||
        decide (s.childTasks name ≠ some task)
  | .restart started =>
      match s.stage with
      | .restarting (name :: _) =>
          decide (cfg.kind name = .remote) || s.renewable cfg name started
      | _ => true
  | .rehost name => s.renewable cfg name true
  | .launch started =>
      match s.launching with
      | name :: _ => s.renewable cfg name started
      | [] => true
  | _ => true

/-! ## The invariant -/

/-- What holds in every run that meets the condition. -/
structure Sound (cfg : Config) (s : State) : Prop where
  heard : s.heard.Nodup
  ids : ((s.pending ++ s.taken).map Prod.fst).Nodup
  numbered : ∀ event ∈ s.pending ++ s.taken, event.1 < s.nextId
  called : ∀ event ∈ s.pending ++ s.taken,
    cfg.kind event.2.name = .agent →
      s.called event.2.name event.2.about = true
  carried : ∀ event ∈ s.pending ++ s.taken,
    event.2.task =
      if cfg.kind event.2.name = .agent then some event.2.about else none
  bounded : ∀ event ∈ s.pending,
    event.2.about ≤ s.incarnation event.2.name
  current : ∀ event ∈ s.pending,
    cfg.kind event.2.name ≠ .agent →
      event.2.about = s.incarnation event.2.name
  tasks : ∀ event ∈ s.pending,
    cfg.kind event.2.name = .agent →
      s.childTasks event.2.name = some event.2.about →
        event.2.about = s.incarnation event.2.name
  charged : s.charged.Nodup
  chargedTaken : ∀ incarnation ∈ s.charged,
    incarnation ∈ s.taken.map fun event => event.2.incarnation
  acted : s.acted.Nodup
  actedTaken : ∀ incarnation ∈ s.acted,
    incarnation ∈ s.taken.map fun event => event.2.incarnation
  sleeping : ∀ crash, s.stage = .sleeping crash →
    crash.incarnation ∉ s.acted ∧
      crash.incarnation ∈ s.taken.map fun event => event.2.incarnation

section Sound

variable {cfg : Config} {s after : State} {label : Label}

theorem sound_init : Sound cfg init := by
  constructor <;> simp [init, State.heard]

/-- The flags and the stage of a state may change freely. -/
theorem Sound.reflag
    (sound : Sound cfg s) (running alive : Bool) (launching : List String)
    (stage : Stage)
    (awake : ∀ crash, stage = .sleeping crash → s.stage = .sleeping crash) :
    Sound cfg
      { s with
        running := running
        alive := alive
        launching := launching
        stage := stage } where
  heard := sound.heard
  ids := sound.ids
  numbered := sound.numbered
  called := sound.called
  carried := sound.carried
  bounded := sound.bounded
  current := sound.current
  tasks := sound.tasks
  charged := sound.charged
  chargedTaken := sound.chargedTaken
  acted := sound.acted
  actedTaken := sound.actedTaken
  sleeping := fun crash slept => sound.sleeping crash (awake crash slept)

/-- An event for an incarnation that no event was raised for. -/
theorem Sound.enqueue
    (sound : Sound cfg s) {crash : Crash}
    (fresh : crash.incarnation ∉ s.heard)
    (carried :
      crash.task =
        if cfg.kind crash.name = .agent then some crash.about else none)
    (called :
      cfg.kind crash.name = .agent → s.called crash.name crash.about = true)
    (bounded : crash.about ≤ s.incarnation crash.name)
    (current :
      cfg.kind crash.name ≠ .agent ∨
          s.childTasks crash.name = some crash.about →
        crash.about = s.incarnation crash.name) :
    Sound cfg (s.enqueue crash) := by
  have appended :
      ((s.pending ++ [(s.nextId, crash)]) ++ s.taken).Perm
        ((s.nextId, crash) :: (s.pending ++ s.taken)) := by
    rw [List.append_assoc]
    exact List.perm_middle
  have member : ∀ event, event ∈ (s.enqueue crash).pending ++ s.taken →
      event = (s.nextId, crash) ∨ event ∈ s.pending ++ s.taken := by
    intro event within
    exact List.mem_cons.mp (appended.mem_iff.mp within)
  have queued : ∀ event ∈ (s.enqueue crash).pending,
      event = (s.nextId, crash) ∨ event ∈ s.pending := by
    intro event within
    rcases List.mem_append.mp within with old | new
    · exact .inr old
    · exact .inl (List.mem_singleton.mp new)
  constructor
  · have nodup : (crash.incarnation :: s.heard).Nodup :=
      List.nodup_cons.mpr ⟨fresh, sound.heard⟩
    have mapped :=
      appended.map fun event : Nat × Crash => event.2.incarnation
    exact mapped.nodup_iff.mpr nodup
  · have unused :
        s.nextId ∉ (s.pending ++ s.taken).map Prod.fst := by
      intro used
      rcases List.mem_map.mp used with ⟨event, within, same⟩
      have below := sound.numbered event within
      omega
    exact (appended.map Prod.fst).nodup_iff.mpr
      (List.nodup_cons.mpr ⟨unused, sound.ids⟩)
  · intro event within
    rcases member event within with rfl | old
    · exact Nat.lt_succ_self _
    · exact Nat.lt_succ_of_lt (sound.numbered event old)
  · intro event within
    rcases member event within with rfl | old
    · exact called
    · exact sound.called event old
  · intro event within
    rcases member event within with rfl | old
    · exact carried
    · exact sound.carried event old
  · intro event within
    rcases queued event within with rfl | old
    · exact bounded
    · exact sound.bounded event old
  · intro event within kind
    rcases queued event within with rfl | old
    · exact current (.inl kind)
    · exact sound.current event old kind
  · intro event within kind recorded
    rcases queued event within with rfl | old
    · exact current (.inr recorded)
    · exact sound.tasks event old kind recorded
  · exact sound.charged
  · exact sound.chargedTaken
  · exact sound.acted
  · exact sound.actedTaken
  · exact sound.sleeping

/-- A child is renewed when the events that wait for it allow it. -/
theorem Sound.renew
    (sound : Sound cfg s) {name : String} {started : Bool}
    (renewable : s.renewable cfg name started = true) :
    Sound cfg (s.renew cfg name started) := by
  have unawaited :
      ¬ (cfg.kind name = .agent ∧ started = true) →
        ∀ event ∈ s.pending, event.2.name ≠ name := by
    intro unrecorded event within same
    unfold State.renewable at renewable
    rw [if_neg unrecorded] at renewable
    have empty := List.isEmpty_iff.mp renewable
    have member : event ∈ s.awaiting name :=
      List.mem_filter.mpr ⟨within, decide_eq_true same⟩
    rw [empty] at member
    cases member
  constructor
  · exact sound.heard
  · exact sound.ids
  · exact sound.numbered
  · exact sound.called
  · exact sound.carried
  · intro event within
    have below := sound.bounded event within
    by_cases same : event.2.name = name
    · simp only [State.renew, same, Function.update_self]
      rw [same] at below
      omega
    · simpa [State.renew, same] using below
  · intro event within kind
    have different : event.2.name ≠ name := by
      intro same
      rw [same] at kind
      exact unawaited (fun recorded => kind recorded.1) event within same
    have kept := sound.current event within kind
    simpa [State.renew, different] using kept
  · intro event within kind recorded
    by_cases started' : cfg.kind name = .agent ∧ started = true
    · by_cases same : event.2.name = name
      · have below := sound.bounded event within
        simp only [State.renew, started', same, Function.update_self,
          and_self, if_true, Option.some.injEq] at recorded
        rw [same] at below
        omega
      · have old : s.childTasks event.2.name = some event.2.about := by
          simpa [State.renew, started', same] using recorded
        have kept := sound.tasks event within kind old
        simpa [State.renew, same] using kept
    · have different := unawaited started' event within
      have old : s.childTasks event.2.name = some event.2.about := by
        simpa [State.renew, started'] using recorded
      have kept := sound.tasks event within kind old
      simpa [State.renew, different] using kept
  · exact sound.charged
  · exact sound.chargedTaken
  · exact sound.acted
  · exact sound.actedTaken
  · exact sound.sleeping

/-- Taking an event out of a side table with distinct numbers. -/
theorem perm_of_lookup
    {events : List (Nat × Crash)} {id : Nat} {crash : Crash}
    (distinct : (events.map Prod.fst).Nodup)
    (found : events.lookup id = some crash) :
    events.Perm
      ((id, crash) :: events.filter fun event => event.1 ≠ id) := by
  rcases List.lookup_eq_some_iff.mp found with ⟨before, rest, rfl, earlier⟩
  rw [List.map_append, List.map_cons] at distinct
  have unique := (List.nodup_middle.mp distinct)
  have absent := (List.nodup_cons.mp unique).1
  have apart : ∀ event ∈ before ++ rest, event.1 ≠ id := by
    intro event within same
    apply absent
    rw [← List.map_append]
    exact List.mem_map.mpr ⟨event, within, same⟩
  have untouched :
      ((before ++ (id, crash) :: rest).filter fun event => event.1 ≠ id) =
        before ++ rest := by
    rw [List.filter_append, List.filter_cons_of_neg (by simp),
      ← List.filter_append]
    apply List.filter_eq_self.mpr
    intro event within
    exact decide_eq_true (apart event within)
  rw [untouched]
  exact List.perm_middle

/-- The side table after an event has been taken. -/
theorem Sound.pop
    (sound : Sound cfg s) {id : Nat} {crash : Crash}
    (found : s.pending.lookup id = some crash) :
    Sound cfg
      { s with
        pending := s.pending.filter fun event => event.1 ≠ id
        taken := (id, crash) :: s.taken } := by
  have distinct : (s.pending.map Prod.fst).Nodup := by
    have ids := sound.ids
    rw [List.map_append] at ids
    exact ids.of_append_left
  have moved :
      ((s.pending.filter fun event => event.1 ≠ id) ++
          (id, crash) :: s.taken).Perm
        (s.pending ++ s.taken) :=
    List.perm_middle.trans
      ((perm_of_lookup distinct found).symm.append_right s.taken)
  have kept : ∀ event,
      event ∈ (s.pending.filter fun event => event.1 ≠ id) →
        event ∈ s.pending := by
    intro event within
    exact (List.mem_filter.mp within).1
  have grown : ∀ incarnation,
      incarnation ∈ (s.taken.map fun event => event.2.incarnation) →
        incarnation ∈
          ((id, crash) :: s.taken).map fun event => event.2.incarnation := by
    intro incarnation within
    exact List.mem_cons_of_mem _ within
  constructor
  · have mapped := moved.map fun event : Nat × Crash => event.2.incarnation
    exact mapped.nodup_iff.mpr sound.heard
  · exact (moved.map Prod.fst).nodup_iff.mpr sound.ids
  · intro event within
    exact sound.numbered event (moved.mem_iff.mp within)
  · intro event within
    exact sound.called event (moved.mem_iff.mp within)
  · intro event within
    exact sound.carried event (moved.mem_iff.mp within)
  · intro event within
    exact sound.bounded event (kept event within)
  · intro event within
    exact sound.current event (kept event within)
  · intro event within
    exact sound.tasks event (kept event within)
  · exact sound.charged
  · intro incarnation within
    exact grown incarnation (sound.chargedTaken incarnation within)
  · exact sound.acted
  · intro incarnation within
    exact grown incarnation (sound.actedTaken incarnation within)
  · intro other slept
    rcases sound.sleeping other slept with ⟨unacted, within⟩
    exact ⟨unacted, grown _ within⟩

theorem mem_of_lookup
    {events : List (Nat × Crash)} {id : Nat} {crash : Crash}
    (found : events.lookup id = some crash) : (id, crash) ∈ events := by
  rcases List.lookup_eq_some_iff.mp found with ⟨before, rest, rfl, -⟩
  simp

/-- An event in the side table is about an incarnation not yet taken. -/
theorem Sound.untaken
    (sound : Sound cfg s) {id : Nat} {crash : Crash}
    (found : s.pending.lookup id = some crash) :
    crash.incarnation ∉ s.taken.map fun event => event.2.incarnation := by
  have heard := sound.heard
  unfold State.heard at heard
  rw [List.map_append] at heard
  intro taken
  have queued :
      crash.incarnation ∈
        s.pending.map fun event => event.2.incarnation :=
    List.mem_map.mpr ⟨(id, crash), mem_of_lookup found, rfl⟩
  exact (List.nodup_append.mp heard).2.2 _ queued _ taken rfl

/-- An event that is heeded is about the incarnation of its child. -/
theorem Sound.heeded
    (sound : Sound cfg s) {id : Nat} {crash : Crash}
    (found : s.pending.lookup id = some crash)
    (heeds : s.heeds crash = true) :
    crash.about = s.incarnation crash.name := by
  have within := mem_of_lookup found
  have carried :=
    sound.carried (id, crash) (List.mem_append_left _ within)
  by_cases kind : cfg.kind crash.name = .agent
  · have task : crash.task = some crash.about := by simpa [kind] using carried
    have recorded : s.childTasks crash.name = some crash.about := by
      unfold State.heeds State.stale at heeds
      simpa [task] using (Bool.and_eq_true_iff.mp heeds).2
    exact sound.tasks (id, crash) within kind recorded
  · exact sound.current (id, crash) within kind

theorem Sound.process
    (sound : Sound cfg s) (id : Nat) (suspended exhausted : Bool) :
    Sound cfg (s.process id suspended exhausted) := by
  unfold State.process
  cases found : s.pending.lookup id with
  | none => exact sound
  | some crash =>
      have popped := sound.pop found
      have untaken := sound.untaken found
      cases heeds : s.heeds crash with
      | false => simpa [heeds] using popped
      | true =>
          simp only [heeds, if_true]
          have head :
              crash.incarnation ∈
                ((id, crash) :: s.taken).map fun event =>
                  event.2.incarnation :=
            List.mem_cons_self
          constructor
          · exact popped.heard
          · exact popped.ids
          · exact popped.numbered
          · exact popped.called
          · exact popped.carried
          · exact popped.bounded
          · exact popped.current
          · exact popped.tasks
          · cases suspended with
            | true => exact popped.charged
            | false =>
                refine List.nodup_cons.mpr ⟨?_, popped.charged⟩
                intro charged
                exact untaken (sound.chargedTaken _ charged)
          · intro incarnation within
            cases suspended with
            | true => exact popped.chargedTaken incarnation within
            | false =>
                rcases List.mem_cons.mp within with rfl | old
                · exact head
                · exact popped.chargedTaken incarnation old
          · exact popped.acted
          · exact popped.actedTaken
          · intro other slept
            cases exhausted with
            | true => cases slept
            | false =>
                cases slept
                refine ⟨?_, head⟩
                intro acted
                exact untaken (sound.actedTaken _ acted)

/-- The exit of a task that nobody has heard of is reported. -/
theorem Sound.done_step
    {name : String} {task : Nat} (sound : Sound cfg s)
    (once : reportsOnce cfg s (.done name task) = true)
    (stepped : step cfg s (.done name task) = some after) :
    Sound cfg after := by
  simp only [step] at stepped
  split_ifs at stepped with enabled
  rcases enabled with ⟨kind, bounded, uncalled⟩
  cases stepped
  have fresh : (name, task) ∉ s.heard := by
    intro heard
    rcases List.mem_map.mp heard with ⟨event, within, same⟩
    rcases Prod.mk.inj same with ⟨named, about⟩
    have called :=
      sound.called event within (by rw [named]; exact kind)
    rw [named, about, uncalled] at called
    cases called
  have recalled :
      Sound cfg
        { s with
          called :=
            update s.called name (update (s.called name) task true) } := by
    refine { sound with called := ?_ }
    intro event within agent
    have called := sound.called event within agent
    by_cases named : event.2.name = name
    · by_cases about : event.2.about = task
      · simp [named, about]
      · rw [named] at called
        simpa [named, about] using called
    · simpa [named] using called
  refine recalled.enqueue fresh ?_ ?_ bounded ?_
  · simp [kind]
  · intro _
    simp
  · intro either
    rcases either with other | recorded
    · exact absurd kind other
    · rcases Bool.or_eq_true_iff.mp once with current | unrecorded
      · exact of_decide_eq_true current
      · exact absurd recorded (of_decide_eq_true unrecorded)

theorem Sound.report_step
    {name : String} (sound : Sound cfg s)
    (once : reportsOnce cfg s (.report name) = true)
    (stepped : step cfg s (.report name) = some after) :
    Sound cfg after := by
  simp only [step] at stepped
  split_ifs at stepped with kind
  cases stepped
  refine sound.enqueue (of_decide_eq_true once) ?_ ?_ (Nat.le_refl _) ?_
  · simp [kind]
  · intro agent
    exact absurd agent kind
  · intro _
    rfl

/-- The loop goes on to restart children after its delay. -/
theorem Sound.wake_step
    (sound : Sound cfg s)
    (stepped : step cfg s .wake = some after) : Sound cfg after := by
  simp only [step] at stepped
  split at stepped
  · rename_i crash slept
    cases stepped
    rcases sound.sleeping crash slept with ⟨unacted, taken⟩
    have reflagged :=
      sound.reflag s.running s.alive s.launching
        (.restarting (cfg.restartSet crash.name))
        (fun other same => by cases same)
    refine
      { reflagged with
        acted := List.nodup_cons.mpr ⟨unacted, sound.acted⟩
        actedTaken := ?_
        sleeping := ?_ }
    · intro incarnation within
      rcases List.mem_cons.mp within with rfl | old
      · exact taken
      · exact sound.actedTaken incarnation old
    · intro other same
      cases same
  · cases stepped

/-- A child is restarted, or none is left to restart. -/
theorem Sound.restart_step
    {started : Bool} (sound : Sound cfg s)
    (once : reportsOnce cfg s (.restart started) = true)
    (stepped : step cfg s (.restart started) = some after) :
    Sound cfg after := by
  simp only [step] at stepped
  cases stage : s.stage with
  | restarting names =>
      simp only [stage] at stepped
      cases names with
      | nil =>
          cases stepped
          exact sound.reflag _ _ _ _ (fun other same => by cases same)
      | cons name rest =>
          simp only [reportsOnce, stage] at once
          by_cases remote : cfg.kind name = .remote
          · simp only [remote, if_true] at stepped
            cases stepped
            exact sound.reflag _ _ _ _ (fun other same => by cases same)
          · simp only [remote, if_false] at stepped
            cases stepped
            have renewed := sound.renew (by simpa [remote] using once)
            refine renewed.reflag _ _ _ _ ?_
            intro other same
            cases started <;> cases same
  | idle => simp [stage] at stepped
  | sleeping crash => simp [stage] at stepped
  | escalating => simp [stage] at stepped

/-- `start` comes to the next child. -/
theorem Sound.launch_step
    {started : Bool} (sound : Sound cfg s)
    (once : reportsOnce cfg s (.launch started) = true)
    (stepped : step cfg s (.launch started) = some after) :
    Sound cfg after := by
  simp only [step] at stepped
  cases launching : s.launching with
  | nil => simp [launching] at stepped
  | cons name rest =>
      simp only [launching, Option.some.injEq] at stepped
      subst stepped
      simp only [reportsOnce, launching] at once
      exact (sound.renew once).reflag _ _ _ _ (fun other same => same)

/-- One step keeps the invariant. -/
theorem step_sound
    (sound : Sound cfg s) (once : reportsOnce cfg s label = true)
    (stepped : step cfg s label = some after) : Sound cfg after := by
  cases label with
  | done name task => exact sound.done_step once stepped
  | report name => exact sound.report_step once stepped
  | take id suspended exhausted =>
      simp only [step] at stepped
      split at stepped
      · cases stepped
        exact sound.process id suspended exhausted
      · cases stepped
  | wake => exact sound.wake_step stepped
  | restart started => exact sound.restart_step once stepped
  | abandon =>
      simp only [step] at stepped
      split at stepped
      · cases stepped
        exact sound.reflag _ _ _ _ (fun other same => by cases same)
      · cases stepped
  | escalated =>
      simp only [step] at stepped
      split at stepped
      · cases stepped
        exact sound.reflag _ _ _ _ (fun other same => by cases same)
      · cases stepped
  | rehost name =>
      simp only [step] at stepped
      split_ifs at stepped with remote
      cases stepped
      exact sound.renew once
  | begin =>
      simp only [step] at stepped
      split_ifs at stepped with enabled
      cases stepped
      exact sound.reflag _ _ _ _ (fun other same => same)
  | launch started => exact sound.launch_step once stepped
  | halt =>
      cases stepped
      exact sound.reflag _ _ _ _ (fun other same => same)
  | finish =>
      simp only [step] at stepped
      split_ifs at stepped with stopped
      cases stepped
      exact sound.reflag _ _ _ _ (fun other same => by cases same)

end Sound

/-! ## The property -/

/-- Every incarnation is charged, acted upon and taken once. -/
structure ChargedOnce (cfg : Config) (s : State) : Prop where
  charged : s.charged.Nodup
  acted : s.acted.Nodup
  taken : (s.taken.map Prod.fst).Nodup
  skipped : ∀ id crash, s.pending.lookup id = some crash →
    crash.about < s.incarnation crash.name ∨
        crash.incarnation ∈ s.acted →
      s.heeds crash = false
  single : ∀ id suspended exhausted after,
    step cfg s (.take id suspended exhausted) = some after →
      s.stage = .idle

/--
In every run whose steps report once, a failure is charged once and acted upon
once, and events of replaced incarnations are skipped.
-/
theorem failures_charged_once_in_every_run
    (cfg : Config) {s : State}
    (reached : Reaches (step cfg) (reportsOnce cfg · ·) init s) :
    ChargedOnce cfg s := by
  have sound : Sound cfg s := by
    apply reached.invariant
    · exact sound_init
    · intro before label after held once stepped
      exact step_sound held once stepped
  constructor
  · exact sound.charged
  · exact sound.acted
  · have ids := sound.ids
    rw [List.map_append] at ids
    exact ids.of_append_right
  · intro id crash found replaced
    by_contra heeded
    have heeds : s.heeds crash = true := by simpa using heeded
    rcases replaced with older | acted
    · have current := sound.heeded found heeds
      omega
    · exact sound.untaken found (sound.actedTaken _ acted)
  · intro id suspended exhausted after stepped
    simp only [step] at stepped
    split at stepped
    · assumption
    · cases stepped

/-- A supervisor of one agent and one remote child. -/
def mixedConfig : Config where
  children := ["agent"]
  kind := fun name => if name = "remote" then .remote else .agent
  strategy := .oneForOne
  hosted := by simp

/--
The agent crashes and is restarted; then a probe of the remote child fails.
-/
def crashThenProbe : List Label :=
  [.begin, .launch true, .done "agent" 1, .take 0 false false, .wake,
    .restart true, .restart true, .report "remote", .take 1 false false]

theorem two_failures_charged_once :
    ∃ s : State, s.charged = [("remote", 0), ("agent", 1)] ∧
      ChargedOnce mixedConfig s := by
  have ran :
      (runWhere (step mixedConfig) (reportsOnce mixedConfig · ·) init
        crashThenProbe).map State.charged =
          some [("remote", 0), ("agent", 1)] := by
    decide +kernel
  rcases exists_reaches_of_run ran with ⟨s, run, charged⟩
  exact
    ⟨s, charged,
      failures_charged_once_in_every_run mixedConfig
        run⟩

/-- A second probe fails while the first failure waits in backoff. -/
def probeDuringBackoff : List Label :=
  [.begin, .launch true, .report "remote", .take 0 false false,
    .report "remote", .wake, .restart true, .restart true,
    .take 1 false false]

/-- One failure of the remote child is charged twice. -/
theorem failure_charged_twice :
    ∃ s : State,
      Reaches (step mixedConfig) (fun _ _ => True) init s ∧
        ¬ ChargedOnce mixedConfig s := by
  have ran :
      (runWhere (step mixedConfig) (fun _ _ => True) init
        probeDuringBackoff).map State.charged =
          some [("remote", 0), ("remote", 0)] := by
    decide +kernel
  rcases exists_reaches_of_run ran with ⟨s, run, charged⟩
  refine ⟨s, run, ?_⟩
  intro once
  have distinct := once.charged
  rw [charged] at distinct
  revert distinct
  decide

end CrashEvents

end Civitas.Supervision
