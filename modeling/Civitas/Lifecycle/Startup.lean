import Mathlib.Data.List.Nodup

/-!
# Starting and stopping a runtime

`Runtime.start` goes through its steps one after another: it builds the
components, starts the task that exports spans, loads the identities,
registers the agents, starts the transport, subscribes the agents and the
addresses of the runtime, registers and subscribes the supervisors, and starts
the tree.  A supervisor starts its own loop, then its children in
order, then the monitor of its remote children.  An exception of any step
leaves `start` at once, with everything done before left as it is, and
`_started` is set by the last step only.  `Runtime.stop` returns at once when
`_started` is not set.  The start of a transport has steps of its own: what it
has opened when it raises, a connection, a socket or a proxy, stays open.

The components are built anew by every start unless they have been handed to
the runtime, with a registry that others may use too.
-/

namespace Civitas.Lifecycle.Startup

/-! ## Trees -/

/-- A node of the tree: an object, with the name of its process. -/
inductive Plan where
  | agent (object : Nat) (name : String)
  /-- A supervisor, with or without remote children. -/
  | supervisor (object : Nat) (name : String) (remote : Bool)
      (children : List Plan)

/-- The tasks that a start makes. -/
inductive Task where
  /-- `_run` of an agent or a supervisor. -/
  | loop (object : Nat)
  /-- `_heartbeat_loop` of a supervisor. -/
  | monitor (object : Nat)
deriving DecidableEq

mutual

/-- The names of `all_agents`. -/
def Plan.agents : Plan → List String
  | .agent _ name => [name]
  | .supervisor _ _ _ children => agentsEach children

/-- `Plan.agents` of each child. -/
def agentsEach : List Plan → List String
  | [] => []
  | child :: rest => child.agents ++ agentsEach rest

end

mutual

/-- The names of `all_supervisors`. -/
def Plan.supervisors : Plan → List String
  | .agent _ _ => []
  | .supervisor _ name _ children => name :: supervisorsEach children

/-- `Plan.supervisors` of each child. -/
def supervisorsEach : List Plan → List String
  | [] => []
  | child :: rest => child.supervisors ++ supervisorsEach rest

end

/-- The names of a tree. -/
def Plan.names (tree : Plan) : List String :=
  tree.agents ++ tree.supervisors

mutual

/-- The tasks of the tree in the order in which they are started. -/
def Plan.tasks : Plan → List Task
  | .agent object _ => [.loop object]
  | .supervisor object _ remote children =>
      .loop object :: (tasksEach children ++
        if remote then [.monitor object] else [])

/-- `Plan.tasks` of each child. -/
def tasksEach : List Plan → List Task
  | [] => []
  | child :: rest => child.tasks ++ tasksEach rest

end

/-! ## State -/

/-- A transport. -/
inductive Wire where
  | idle
  /-- `start` has raised and left something open. -/
  | opened
  | running
deriving DecidableEq

/-- A runtime and what its attempts have left. -/
structure State where
  /-- `_started`. -/
  started : Bool := false
  /-- The names that the registry of the runtime has entries for. -/
  registry : List String := []
  /-- The transport of the runtime. -/
  transport : Wire := .idle
  /-- What transports of earlier attempts have open. -/
  abandoned : Nat := 0
  /-- `_otel_agent_task` runs. -/
  exporting : Bool := false
  /-- Tasks that were dropped for a new `_otel_agent_task`. -/
  orphaned : Nat := 0
  /-- The tasks of the tree that have been started and not stopped. -/
  running : List Task := []
deriving DecidableEq

/-- A new runtime; `shared` is the registry that was handed to it. -/
def init (shared : Option (List String)) : State :=
  { registry := shared.getD [] }

/-- How the start of a transport ends. -/
inductive Attempt where
  | fine
  /-- It raises before anything is open. -/
  | refused
  /--
  It raises later: the stream is missing after `nats.connect`, or an address
  or a CURVE key is refused after the proxy has been started.
  -/
  | halfway
deriving DecidableEq

/-- Which steps raise, and what else happens during the start. -/
structure Choices where
  /-- `build_component_set`. -/
  components : Bool := false
  /-- The components have an export backend. -/
  exporters : Bool := false
  /-- The identities, the key registry and the injection. -/
  identities : Bool := false
  /-- The transport starts a proxy, which binds its addresses. -/
  proxy : Bool := false
  /-- `transport.start()`. -/
  transport : Attempt := .fine
  /-- `transport.subscribe` for an address. -/
  subscribe : String → Bool := fun _ => false
  /-- The names that workers announce once the runtime listens. -/
  announced : List String := []
  waitReady : Bool := false
  /-- `_restore_state` or `on_start` of a process. -/
  process : Nat → Bool := fun _ => false

/-- A state, and whether the step has returned. -/
abbrev Outcome := State × Bool

namespace Outcome

/-- The next statement, unless the one before has raised. -/
def andThen (outcome : Outcome) (next : State → Outcome) : Outcome :=
  if outcome.2 then next outcome.1 else outcome

end Outcome

/-- A `for` loop whose body may raise. -/
def forEach {α : Type} (body : α → State → Outcome) :
    List α → State → Outcome
  | [], s => (s, true)
  | item :: rest, s => (body item s).andThen (forEach body rest)

/-- Statements one after another. -/
def inOrder (statements : List (State → Outcome)) : State → Outcome :=
  forEach (fun statement => statement) statements

/-! ## Steps of `start` -/

/-- A statement that changes nothing and may raise. -/
def guarded (raises : Bool) (s : State) : Outcome :=
  (s, !raises)

/-- `LocalRegistry.register`. -/
def register (name : String) (s : State) : Outcome :=
  if name ∈ s.registry then (s, false)
  else ({ s with registry := s.registry ++ [name] }, true)

/-- The components of this attempt. -/
def build (shared : Option (List String)) (s : State) : State :=
  match shared with
  | some _ => s
  | none =>
      { s with
        registry := []
        transport := .idle
        abandoned := s.abandoned + if s.transport = .idle then 0 else 1 }

/-- `run_otel_agent` gets a task; the one of an earlier attempt is dropped. -/
def startExport (exporters : Bool) (s : State) : Outcome :=
  if exporters
  then
    ({ s with
        exporting := true
        orphaned := s.orphaned + if s.exporting then 1 else 0 }, true)
  else (s, true)

/--
`transport.start()`; a transport that runs returns at once.  A proxy finds its
addresses taken by one that has been left, and a connection that has been left
is dropped for a new one.
-/
def startTransport (proxy : Bool) (attempt : Attempt) (s : State) : Outcome :=
  if s.transport = .running then (s, true)
  else if proxy && (s.transport = .opened || 0 < s.abandoned) then (s, false)
  else
    let left := s.abandoned + if s.transport = .opened then 1 else 0
    match attempt with
    | .fine => ({ s with transport := .running, abandoned := left }, true)
    | .refused => (s, false)
    | .halfway => ({ s with transport := .opened, abandoned := left }, false)

/-- `_on_remote_register` for the announcements of the workers. -/
def announce (names : List String) (s : State) : Outcome :=
  ({ s with
      registry :=
        s.registry ++ names.filter fun name => name ∉ s.registry }, true)

/-- `AgentProcess._start`, or the start of a monitor. -/
def startTask (raises : Nat → Bool) (task : Task) (s : State) : Outcome :=
  match task with
  | .loop object =>
      if raises object then (s, false)
      else ({ s with running := s.running ++ [task] }, true)
  | .monitor _ => ({ s with running := s.running ++ [task] }, true)

mutual

/-- `Supervisor.start`, or `_start_child` of an agent. -/
def Plan.start (raises : Nat → Bool) : Plan → State → Outcome
  | .agent object _, s => startTask raises (.loop object) s
  | .supervisor object _ remote children, s =>
      ((startTask raises (.loop object) s).andThen
        (startEach raises children)).andThen fun s =>
          if remote then startTask raises (.monitor object) s else (s, true)

/-- The children start in order, up to the first that raises. -/
def startEach (raises : Nat → Bool) : List Plan → State → Outcome
  | [], s => (s, true)
  | child :: rest, s => (child.start raises s).andThen (startEach raises rest)

end

/-- A supervisor is registered and subscribed. -/
def enrol (subscribe : String → Bool) (name : String) (s : State) : Outcome :=
  (register name s).andThen (guarded (subscribe name))

/-- `self._started = True`. -/
def finish (s : State) : Outcome :=
  ({ s with started := true }, true)

/-- The statements of `start` before the transport is started. -/
def prepare
    (tree : Plan) (shared : Option (List String)) (choices : Choices) :
    List (State → Outcome) :=
  [guarded choices.components,
    fun s => startExport choices.exporters (build shared s),
    guarded choices.identities,
    forEach register tree.agents]

/-- The statements of `start` once the transport runs. -/
def connect (tree : Plan) (choices : Choices) : List (State → Outcome) :=
  [forEach (fun name => guarded (choices.subscribe name)) tree.agents,
    guarded (choices.subscribe "_agency.register"),
    guarded (choices.subscribe "_agency.deregister"),
    announce choices.announced,
    register "_runtime",
    guarded (choices.subscribe "_runtime"),
    guarded choices.waitReady,
    forEach (enrol choices.subscribe) tree.supervisors,
    tree.start choices.process,
    finish]

/-- `Runtime.start`. -/
def start
    (tree : Plan) (shared : Option (List String)) (choices : Choices)
    (s : State) : Outcome :=
  if s.started then (s, true)
  else
    inOrder
      (prepare tree shared choices ++
        startTransport choices.proxy choices.transport ::
          connect tree choices) s

/-- `Runtime.stop`. -/
def stop (s : State) : State :=
  if s.started then
    { s with
      running := []
      transport := .idle
      exporting := false
      registry := s.registry.filter (· ≠ "_runtime")
      started := false }
  else s

/-! ## What is promised -/

/--
If `start` raises, then after `stop` nothing of the tree runs, the transport
is stopped, no name of the tree is registered that was not before, and the
next `start` does what it would have done in a new runtime.
-/
def AllOrNothing
    (tree : Plan) (shared : Option (List String)) (choices : Choices) :
    Prop :=
  let first := start tree shared choices (init shared)
  first.2 = false →
    let s := stop first.1
    s.running = [] ∧ s.transport = .idle ∧ s.abandoned = 0 ∧
      (∀ name ∈ tree.names, name ∈ s.registry →
        name ∈ (init shared).registry) ∧
      ∀ later, start tree shared later s =
        start tree shared later (init shared)

/-- Nothing fails: no step raises and no name is taken. -/
structure Smooth
    (tree : Plan) (shared : Option (List String)) (choices : Choices) :
    Prop where
  components : choices.components = false
  identities : choices.identities = false
  transport : choices.transport = .fine
  waitReady : choices.waitReady = false
  subscribe :
    ∀ name ∈ tree.names ++ ["_agency.register", "_agency.deregister",
      "_runtime"], choices.subscribe name = false
  agents :
    tree.agents.Nodup ∧
      ∀ name ∈ tree.agents, name ∉ (init shared).registry
  own :
    "_runtime" ∉ (init shared).registry ++ tree.agents ++ choices.announced
  supervisors :
    tree.supervisors.Nodup ∧
      ∀ name ∈ tree.supervisors,
        name ∉ (init shared).registry ++ tree.agents ++ choices.announced ∧
          name ≠ "_runtime"
  processes :
    ∀ object, .loop object ∈ tree.tasks → choices.process object = false

/--
The first failure comes before anything has been registered, opened or
started: the components, or, where no spans are exported, the identities, the
name of the first agent, or, without agents, the transport.
-/
def Early
    (tree : Plan) (shared : Option (List String)) (choices : Choices) :
    Prop :=
  choices.components = true ∨
    choices.exporters = false ∧
      (choices.identities = true ∨
        (∃ name rest, tree.agents = name :: rest ∧
          name ∈ (init shared).registry) ∨
        tree.agents = [] ∧ choices.transport = .refused)

/-! ## Loops -/

variable {s t : State} {tree : Plan} {shared : Option (List String)}
  {choices : Choices}

theorem andThen_returned {outcome : Outcome} {next : State → Outcome} :
    outcome.andThen next = (t, true) ↔
      ∃ middle, outcome = (middle, true) ∧ next middle = (t, true) := by
  rcases outcome with ⟨middle, returned⟩
  cases returned with
  | true => simp [Outcome.andThen]
  | false => simp [Outcome.andThen]

theorem forEach_append
    {α : Type} (body : α → State → Outcome) (front back : List α)
    (s : State) :
    forEach body (front ++ back) s =
      (forEach body front s).andThen (forEach body back) := by
  induction front generalizing s with
  | nil => rfl
  | cons item rest ih =>
      simp only [List.cons_append, forEach]
      rcases body item s with ⟨middle, returned⟩
      cases returned with
      | true => exact ih middle
      | false => rfl

mutual

/-- A tree is started task by task. -/
theorem Plan.start_eq (raises : Nat → Bool) :
    ∀ (tree : Plan) (s : State),
      tree.start raises s = forEach (startTask raises) tree.tasks s
  | .agent object name, s => by
      simp only [Plan.start, Plan.tasks, forEach]
      rcases startTask raises (.loop object) s with ⟨middle, returned⟩
      cases returned <;> rfl
  | .supervisor object name remote children, s => by
      simp only [Plan.start, Plan.tasks, forEach]
      rcases startTask raises (.loop object) s with ⟨middle, returned⟩
      cases returned with
      | false => rfl
      | true =>
          simp only [Outcome.andThen, if_true]
          rw [forEach_append, startEach_eq raises children]
          rcases forEach (startTask raises) (tasksEach children) middle with
            ⟨last, done⟩
          cases done with
          | false => rfl
          | true =>
              cases remote with
              | false => rfl
              | true => rfl

theorem startEach_eq (raises : Nat → Bool) :
    ∀ (children : List Plan) (s : State),
      startEach raises children s =
        forEach (startTask raises) (tasksEach children) s
  | [], s => rfl
  | child :: rest, s => by
      simp only [startEach, tasksEach]
      rw [forEach_append, Plan.start_eq raises child]
      rcases forEach (startTask raises) child.tasks s with
        ⟨middle, returned⟩
      cases returned with
      | false => rfl
      | true => exact startEach_eq raises rest middle

end

/-! ## When a statement returns -/

theorem guarded_returned {raises : Bool} :
    guarded raises s = (t, true) ↔ raises = false ∧ s = t := by
  simp [guarded, and_comm]

theorem register_returned {name : String} :
    register name s = (t, true) ↔
      name ∉ s.registry ∧
        { s with registry := s.registry ++ [name] } = t := by
  unfold register
  by_cases taken : name ∈ s.registry
  · simp [taken]
  · simp [taken]

theorem enrol_returned {subscribe : String → Bool} {name : String} :
    enrol subscribe name s = (t, true) ↔
      name ∉ s.registry ∧ subscribe name = false ∧
        { s with registry := s.registry ++ [name] } = t := by
  unfold enrol
  rw [andThen_returned]
  constructor
  · rintro ⟨middle, registered, subscribed⟩
    rcases register_returned.mp registered with ⟨free, rfl⟩
    rcases guarded_returned.mp subscribed with ⟨accepted, rfl⟩
    exact ⟨free, accepted, rfl⟩
  · rintro ⟨free, accepted, rfl⟩
    exact ⟨_, register_returned.mpr ⟨free, rfl⟩,
      guarded_returned.mpr ⟨accepted, rfl⟩⟩

/-- A loop that registers names returns when none of them is taken. -/
theorem forEach_registers
    {body : String → State → Outcome} (accepts : String → Prop)
    (single : ∀ name s t, body name s = (t, true) ↔
      name ∉ s.registry ∧ accepts name ∧
        { s with registry := s.registry ++ [name] } = t)
    {names : List String} :
    forEach body names s = (t, true) ↔
      names.Nodup ∧
        (∀ name ∈ names, name ∉ s.registry ∧ accepts name) ∧
        { s with registry := s.registry ++ names } = t := by
  induction names generalizing s with
  | nil => simp [forEach]
  | cons name rest ih =>
      rw [forEach, andThen_returned, List.nodup_cons]
      constructor
      · rintro ⟨middle, here, later⟩
        rcases (single name s middle).mp here with ⟨free, accepted, rfl⟩
        rcases ih.mp later with ⟨distinct, each, rfl⟩
        have outside : ∀ other ∈ rest,
            other ∉ s.registry ∧ other ≠ name ∧ accepts other := by
          intro other member
          rcases each other member with ⟨unknown, fine⟩
          simp only [List.mem_append, List.mem_singleton, not_or] at unknown
          exact ⟨unknown.1, unknown.2, fine⟩
        refine ⟨⟨fun again => (outside name again).2.1 rfl, distinct⟩,
          ?_, ?_⟩
        · intro other member
          rcases List.mem_cons.mp member with rfl | later
          · exact ⟨free, accepted⟩
          · exact ⟨(outside other later).1, (outside other later).2.2⟩
        · simp
      · rintro ⟨⟨new, distinct⟩, each, rfl⟩
        rcases each name List.mem_cons_self with ⟨free, accepted⟩
        refine ⟨_, (single name s _).mpr ⟨free, accepted, rfl⟩,
          ih.mpr ⟨distinct, ?_, ?_⟩⟩
        · intro other member
          rcases each other (List.mem_cons_of_mem _ member) with
            ⟨unknown, fine⟩
          refine ⟨?_, fine⟩
          simp only [List.mem_append, List.mem_singleton, not_or]
          refine ⟨unknown, ?_⟩
          rintro rfl
          exact new member
        · simp

theorem registers_returned {names : List String} :
    forEach register names s = (t, true) ↔
      names.Nodup ∧ (∀ name ∈ names, name ∉ s.registry) ∧
        { s with registry := s.registry ++ names } = t := by
  rw [forEach_registers (fun _ => True) (by simp [register_returned])]
  simp

theorem guards_returned {raises : String → Bool} {names : List String} :
    forEach (fun name => guarded (raises name)) names s = (t, true) ↔
      (∀ name ∈ names, raises name = false) ∧ s = t := by
  induction names generalizing s with
  | nil => simp [forEach]
  | cons name rest ih =>
      rw [forEach, andThen_returned]
      constructor
      · rintro ⟨middle, here, later⟩
        rcases guarded_returned.mp here with ⟨fine, rfl⟩
        rcases ih.mp later with ⟨each, rfl⟩
        exact ⟨List.forall_mem_cons.mpr ⟨fine, each⟩, rfl⟩
      · rintro ⟨each, rfl⟩
        rcases List.forall_mem_cons.mp each with ⟨fine, rest⟩
        exact ⟨s, guarded_returned.mpr ⟨fine, rfl⟩, ih.mpr ⟨rest, rfl⟩⟩

theorem startTask_returned {raises : Nat → Bool} {task : Task} :
    startTask raises task s = (t, true) ↔
      (∀ object, task = .loop object → raises object = false) ∧
        { s with running := s.running ++ [task] } = t := by
  cases task with
  | loop object =>
      unfold startTask
      cases fails : raises object with
      | true => simp [fails]
      | false => simp [fails]
  | monitor object => simp [startTask]

theorem tasks_returned {raises : Nat → Bool} {tasks : List Task} :
    forEach (startTask raises) tasks s = (t, true) ↔
      (∀ object, .loop object ∈ tasks → raises object = false) ∧
        { s with running := s.running ++ tasks } = t := by
  induction tasks generalizing s with
  | nil => simp [forEach]
  | cons task rest ih =>
      rw [forEach, andThen_returned]
      constructor
      · rintro ⟨middle, here, later⟩
        rcases startTask_returned.mp here with ⟨fine, rfl⟩
        rcases ih.mp later with ⟨each, rfl⟩
        refine ⟨?_, by simp⟩
        intro object member
        rcases List.mem_cons.mp member with same | later
        · exact fine object same.symm
        · exact each object later
      · rintro ⟨each, rfl⟩
        refine ⟨_, startTask_returned.mpr ⟨?_, rfl⟩, ih.mpr ⟨?_, by simp⟩⟩
        · rintro object rfl
          exact each object List.mem_cons_self
        · exact fun object member =>
            each object (List.mem_cons_of_mem _ member)

theorem Plan.start_returned {raises : Nat → Bool} :
    tree.start raises s = (t, true) ↔
      (∀ object, .loop object ∈ tree.tasks → raises object = false) ∧
        { s with running := s.running ++ tree.tasks } = t := by
  rw [Plan.start_eq]
  exact tasks_returned

theorem enrols_returned
    {subscribe : String → Bool} {names : List String} :
    forEach (enrol subscribe) names s = (t, true) ↔
      names.Nodup ∧
        (∀ name ∈ names, name ∉ s.registry ∧ subscribe name = false) ∧
        { s with registry := s.registry ++ names } = t :=
  forEach_registers (fun name => subscribe name = false)
    fun _ _ _ => enrol_returned

theorem inOrder_cons
    {first : State → Outcome} {rest : List (State → Outcome)} :
    inOrder (first :: rest) s = (t, true) ↔
      ∃ middle, first s = (middle, true) ∧
        inOrder rest middle = (t, true) :=
  andThen_returned

theorem inOrder_nil : inOrder [] s = (t, true) ↔ s = t := by
  simp [inOrder, forEach]

/-- What has to go well once the transport runs. -/
theorem connect_returned :
    (∃ t, inOrder (connect tree choices) s = (t, true)) ↔
      (∀ name ∈ tree.agents, choices.subscribe name = false) ∧
      choices.subscribe "_agency.register" = false ∧
      choices.subscribe "_agency.deregister" = false ∧
      "_runtime" ∉ s.registry ++ choices.announced ∧
      choices.subscribe "_runtime" = false ∧
      choices.waitReady = false ∧
      (tree.supervisors.Nodup ∧ ∀ name ∈ tree.supervisors,
        name ∉ s.registry ++ choices.announced ∧ name ≠ "_runtime" ∧
          choices.subscribe name = false) ∧
      ∀ object, .loop object ∈ tree.tasks →
        choices.process object = false := by
  have heard : ∀ name, name ∈ s.registry ++
      (choices.announced.filter fun name => name ∉ s.registry) ↔
        name ∈ s.registry ++ choices.announced := by
    intro name
    by_cases known : name ∈ s.registry
    · simp [known]
    · simp [known]
  constructor
  · rintro ⟨t, ran⟩
    unfold connect at ran
    rcases inOrder_cons.mp ran with ⟨_, here, ran⟩
    rcases guards_returned.mp here with ⟨agents, rfl⟩
    rcases inOrder_cons.mp ran with ⟨_, here, ran⟩
    rcases guarded_returned.mp here with ⟨register, rfl⟩
    rcases inOrder_cons.mp ran with ⟨_, here, ran⟩
    rcases guarded_returned.mp here with ⟨deregister, rfl⟩
    rcases inOrder_cons.mp ran with ⟨_, here, ran⟩
    cases here
    rcases inOrder_cons.mp ran with ⟨_, here, ran⟩
    rcases register_returned.mp here with ⟨own, rfl⟩
    rcases inOrder_cons.mp ran with ⟨_, here, ran⟩
    rcases guarded_returned.mp here with ⟨addressed, rfl⟩
    rcases inOrder_cons.mp ran with ⟨_, here, ran⟩
    rcases guarded_returned.mp here with ⟨ready, rfl⟩
    rcases inOrder_cons.mp ran with ⟨_, here, ran⟩
    rcases enrols_returned.mp here with ⟨distinct, supervisors, rfl⟩
    rcases inOrder_cons.mp ran with ⟨_, here, _⟩
    rcases Plan.start_returned.mp here with ⟨processes, rfl⟩
    refine ⟨agents, register, deregister, ?_, addressed, ready,
      ⟨distinct, ?_⟩, processes⟩
    · exact fun member => own ((heard _).mpr member)
    · intro name member
      rcases supervisors name member with ⟨free, accepted⟩
      have apart := not_or.mp (fun either => free (List.mem_append.mpr either))
      refine ⟨fun taken => apart.1 ((heard name).mpr taken), ?_, accepted⟩
      rintro rfl
      exact apart.2 List.mem_cons_self
  · rintro ⟨agents, register, deregister, own, addressed, ready,
      ⟨distinct, supervisors⟩, processes⟩
    refine ⟨_, inOrder_cons.mpr ⟨_, guards_returned.mpr ⟨agents, rfl⟩,
      inOrder_cons.mpr ⟨_, guarded_returned.mpr ⟨register, rfl⟩,
      inOrder_cons.mpr ⟨_, guarded_returned.mpr ⟨deregister, rfl⟩,
      inOrder_cons.mpr ⟨_, rfl,
      inOrder_cons.mpr ⟨_, register_returned.mpr ⟨?_, rfl⟩,
      inOrder_cons.mpr ⟨_, guarded_returned.mpr ⟨addressed, rfl⟩,
      inOrder_cons.mpr ⟨_, guarded_returned.mpr ⟨ready, rfl⟩,
      inOrder_cons.mpr ⟨_, enrols_returned.mpr ⟨distinct, ?_, rfl⟩,
      inOrder_cons.mpr ⟨_, Plan.start_returned.mpr ⟨processes, rfl⟩,
      inOrder_cons.mpr ⟨_, rfl, inOrder_nil.mpr rfl⟩⟩⟩⟩⟩⟩⟩⟩⟩⟩⟩
    · exact fun member => own ((heard _).mp member)
    · intro name member
      rcases supervisors name member with ⟨free, other, accepted⟩
      refine ⟨fun taken => ?_, accepted⟩
      rcases List.mem_append.mp taken with known | same
      · exact free ((heard name).mp known)
      · exact other (List.mem_singleton.mp same)

theorem inOrder_append
    {front back : List (State → Outcome)} :
    inOrder (front ++ back) s = (t, true) ↔
      ∃ middle, inOrder front s = (middle, true) ∧
        inOrder back middle = (t, true) := by
  unfold inOrder
  rw [forEach_append, andThen_returned]

theorem build_init (shared : Option (List String)) :
    build shared (init shared) = init shared := by
  cases shared with
  | none => rfl
  | some names => rfl

/-- The state with the components of the first attempt. -/
def built (shared : Option (List String)) (choices : Choices) : State :=
  { init shared with exporting := choices.exporters }

theorem startExport_build :
    startExport choices.exporters (build shared (init shared)) =
      (built shared choices, true) := by
  rw [build_init, built, startExport]
  cases choices.exporters with
  | true => rfl
  | false => rfl

/-- The state with the agents registered. -/
theorem prepare_returned :
    inOrder (prepare tree shared choices) (init shared) = (t, true) ↔
      choices.components = false ∧ choices.identities = false ∧
        tree.agents.Nodup ∧
        (∀ name ∈ tree.agents, name ∉ (init shared).registry) ∧
        { built shared choices with
          registry := (init shared).registry ++ tree.agents } = t := by
  unfold prepare
  constructor
  · intro ran
    rcases inOrder_cons.mp ran with ⟨_, here, ran⟩
    rcases guarded_returned.mp here with ⟨components, rfl⟩
    rcases inOrder_cons.mp ran with ⟨_, here, ran⟩
    rw [startExport_build] at here
    cases here
    rcases inOrder_cons.mp ran with ⟨_, here, ran⟩
    rcases guarded_returned.mp here with ⟨identities, rfl⟩
    rcases inOrder_cons.mp ran with ⟨_, here, ran⟩
    rcases registers_returned.mp here with ⟨distinct, free, rfl⟩
    exact ⟨components, identities, distinct, free, inOrder_nil.mp ran⟩
  · rintro ⟨components, identities, distinct, free, rfl⟩
    exact inOrder_cons.mpr ⟨_, guarded_returned.mpr ⟨components, rfl⟩,
      inOrder_cons.mpr ⟨_, startExport_build,
      inOrder_cons.mpr ⟨_, guarded_returned.mpr ⟨identities, rfl⟩,
      inOrder_cons.mpr ⟨_, registers_returned.mpr ⟨distinct, free, rfl⟩,
        inOrder_nil.mpr rfl⟩⟩⟩⟩

theorem startTransport_returned
    {proxy : Bool} {attempt : Attempt} (idle : s.transport = .idle)
    (alone : s.abandoned = 0) :
    startTransport proxy attempt s = (t, true) ↔
      attempt = .fine ∧ { s with transport := .running } = t := by
  have fresh : startTransport proxy attempt s =
      match attempt with
      | .fine => ({ s with transport := .running }, true)
      | .refused => (s, false)
      | .halfway => ({ s with transport := .opened }, false) := by
    rcases s with ⟨_, _, _, _, _, _, _⟩
    cases idle
    cases alone
    cases attempt <;> simp [startTransport]
  rw [fresh]
  cases attempt <;> simp

/-- `start` returns when nothing fails. -/
theorem start_returned :
    (start tree shared choices (init shared)).2 = true ↔
      Smooth tree shared choices := by
  have unfolded : start tree shared choices (init shared) =
      inOrder (prepare tree shared choices ++
        startTransport choices.proxy choices.transport ::
          connect tree choices)
        (init shared) :=
    rfl
  have asPair : (start tree shared choices (init shared)).2 = true ↔
      ∃ t, start tree shared choices (init shared) = (t, true) := by
    constructor
    · exact fun returned => ⟨_, Prod.ext rfl returned⟩
    · rintro ⟨t, returned⟩
      rw [returned]
  rw [asPair, unfolded]
  constructor
  · rintro ⟨t, ran⟩
    rcases inOrder_append.mp ran with ⟨_, here, ran⟩
    rcases prepare_returned.mp here with
      ⟨components, identities, distinct, free, rfl⟩
    rcases inOrder_cons.mp ran with ⟨_, here, ran⟩
    rcases (startTransport_returned rfl rfl).mp here with ⟨transport, rfl⟩
    rcases connect_returned.mp ⟨t, ran⟩ with
      ⟨agents, register, deregister, own, addressed, ready,
        ⟨single, supervisors⟩, processes⟩
    refine ⟨components, identities, transport, ready, ?_,
      ⟨distinct, free⟩, own, ⟨single, ?_⟩, processes⟩
    · intro name member
      simp only [Plan.names, List.mem_append, List.mem_cons,
        List.not_mem_nil, or_false] at member
      rcases member with (agent | supervisor) | rfl | rfl | rfl
      · exact agents name agent
      · exact (supervisors name supervisor).2.2
      · exact register
      · exact deregister
      · exact addressed
    · intro name member
      exact ⟨(supervisors name member).1, (supervisors name member).2.1⟩
  · intro smooth
    have accepted := smooth.subscribe
    have connected : ∃ t, inOrder (connect tree choices)
        { built shared choices with
          registry := (init shared).registry ++ tree.agents
          transport := .running } = (t, true) := connect_returned.mpr
      ⟨fun name member => accepted name (by simp [Plan.names, member]),
        accepted _ (by simp), accepted _ (by simp), smooth.own,
        accepted _ (by simp), smooth.waitReady,
        ⟨smooth.supervisors.1, fun name member =>
          ⟨(smooth.supervisors.2 name member).1,
            (smooth.supervisors.2 name member).2,
            accepted name (by simp [Plan.names, member])⟩⟩,
        smooth.processes⟩
    rcases connected with ⟨t, connected⟩
    refine ⟨t, inOrder_append.mpr ⟨_, prepare_returned.mpr
      ⟨smooth.components, smooth.identities, smooth.agents.1,
        smooth.agents.2, rfl⟩, inOrder_cons.mpr ⟨_, ?_, connected⟩⟩⟩
    exact (startTransport_returned rfl rfl).mpr ⟨smooth.transport, rfl⟩

/-! ## What a failed start leaves behind -/

/-- What one state has is still there in another, and the flag is the same. -/
structure Kept (s t : State) : Prop where
  registry : ∀ name ∈ s.registry, name ∈ t.registry
  transport : s.transport ≠ .idle → t.transport ≠ .idle
  exporting : s.exporting = true → t.exporting = true
  started : t.started = s.started

theorem Kept.refl (s : State) : Kept s s :=
  ⟨fun _ => id, id, id, rfl⟩

theorem Kept.trans {r s t : State} (one : Kept r s) (two : Kept s t) :
    Kept r t where
  registry name known := two.registry name (one.registry name known)
  transport open_before := two.transport (one.transport open_before)
  exporting runs := two.exporting (one.exporting runs)
  started := two.started.trans one.started

/-- A statement of `start` takes nothing back and does not set the flag. -/
def Grows (statement : State → Outcome) : Prop :=
  ∀ s, Kept s (statement s).1

theorem grows_andThen
    {first second : State → Outcome} (one : Grows first)
    (two : Grows second) : Grows fun s => (first s).andThen second := by
  intro s
  change Kept s ((first s).andThen second).1
  unfold Outcome.andThen
  split
  · exact (one s).trans (two _)
  · exact one s

theorem grows_return : Grows fun s => (s, true) :=
  Kept.refl

theorem grows_forEach
    {α : Type} {body : α → State → Outcome} {items : List α}
    (each : ∀ item ∈ items, Grows (body item)) :
    Grows (forEach body items) := by
  induction items with
  | nil => exact grows_return
  | cons item rest ih =>
      exact grows_andThen (each item List.mem_cons_self)
        (ih fun other later => each other (List.mem_cons_of_mem _ later))

theorem grows_guarded (raises : Bool) : Grows (guarded raises) :=
  Kept.refl

theorem grows_register (name : String) : Grows (register name) := by
  intro s
  unfold register
  split
  · exact Kept.refl s
  · exact ⟨fun _ => List.mem_append_left _, id, id, rfl⟩

theorem grows_enrol (subscribe : String → Bool) (name : String) :
    Grows (enrol subscribe name) :=
  grows_andThen (grows_register name) (grows_guarded _)

theorem grows_announce (names : List String) : Grows (announce names) :=
  fun _ => ⟨fun _ => List.mem_append_left _, id, id, rfl⟩

theorem grows_startTransport (proxy : Bool) (attempt : Attempt) :
    Grows (startTransport proxy attempt) := by
  intro s
  unfold startTransport
  split
  · exact Kept.refl s
  split
  · exact Kept.refl s
  cases attempt with
  | fine => exact ⟨fun _ => id, fun _ => by simp, id, rfl⟩
  | refused => exact Kept.refl s
  | halfway => exact ⟨fun _ => id, fun _ => by simp, id, rfl⟩

theorem grows_startTask (raises : Nat → Bool) (task : Task) :
    Grows (startTask raises task) := by
  intro s
  cases task with
  | loop object =>
      change Kept s (if raises object then (s, false) else _ : Outcome).1
      split
      · exact Kept.refl s
      · exact ⟨fun _ => id, id, id, rfl⟩
  | monitor object => exact ⟨fun _ => id, id, id, rfl⟩

theorem grows_tree (raises : Nat → Bool) (tree : Plan) :
    Grows (tree.start raises) := by
  have same : tree.start raises = forEach (startTask raises) tree.tasks :=
    funext (Plan.start_eq raises tree)
  rw [same]
  exact grows_forEach fun task _ => grows_startTask raises task

/-- The statements of `connect` before the flag is set. -/
def connecting (tree : Plan) (choices : Choices) : List (State → Outcome) :=
  (connect tree choices).dropLast

theorem grows_connecting (tree : Plan) (choices : Choices) :
    Grows (inOrder (connecting tree choices)) := by
  refine grows_forEach ?_
  simp only [connecting, connect, List.dropLast_cons_cons,
    List.dropLast_singleton, List.forall_mem_cons, List.not_mem_nil,
    false_imp_iff, implies_true, and_true]
  exact ⟨grows_forEach fun name _ => grows_guarded _, grows_guarded _,
    grows_guarded _, grows_announce _, grows_register _, grows_guarded _,
    grows_guarded _, grows_forEach fun name _ => grows_enrol _ name,
    grows_tree _ tree⟩

theorem andThen_finish (outcome : Outcome) :
    (outcome.andThen finish).2 = outcome.2 ∧
      (outcome.2 = false → outcome.andThen finish = outcome) := by
  rcases outcome with ⟨s, returned⟩
  cases returned with
  | true => exact ⟨rfl, by simp⟩
  | false => exact ⟨rfl, fun _ => rfl⟩

/-- A start that raises has not set the flag. -/
theorem start_raised
    (raised : (start tree shared choices (init shared)).2 = false) :
    start tree shared choices (init shared) =
      inOrder (prepare tree shared choices ++
        startTransport choices.proxy choices.transport ::
          connecting tree choices)
        (init shared) := by
  have unfolded : start tree shared choices (init shared) =
      (inOrder (prepare tree shared choices ++
        startTransport choices.proxy choices.transport ::
          connecting tree choices)
        (init shared)).andThen finish := by
    have last : (inOrder [finish] : State → Outcome) = finish := by
      funext s
      rfl
    have whole : prepare tree shared choices ++
          startTransport choices.proxy choices.transport ::
            connect tree choices =
        (prepare tree shared choices ++
          startTransport choices.proxy choices.transport ::
            connecting tree choices) ++
          [finish] := by
      simp [connecting, connect]
    have split : inOrder (prepare tree shared choices ++
          startTransport choices.proxy choices.transport ::
            connect tree choices)
          (init shared) =
        (inOrder (prepare tree shared choices ++
          startTransport choices.proxy choices.transport ::
            connecting tree choices)
          (init shared)).andThen (inOrder [finish]) := by
      rw [whole]
      exact forEach_append _ _ _ _
    rw [last] at split
    exact split
  rw [unfolded] at raised ⊢
  have finished := andThen_finish
    (inOrder (prepare tree shared choices ++
      startTransport choices.proxy choices.transport ::
        connecting tree choices)
      (init shared))
  exact finished.2 (finished.1 ▸ raised)

/-- The statements after the components are there. -/
def remaining (tree : Plan) (choices : Choices) : State → Outcome :=
  inOrder
    (startTransport choices.proxy choices.transport ::
      connecting tree choices)

theorem grows_remaining (tree : Plan) (choices : Choices) :
    Grows (remaining tree choices) :=
  grows_andThen (grows_startTransport _ _) (grows_connecting tree choices)

/-- A start that raises once it has its components. -/
theorem raised_eq
    (raised : (start tree shared choices (init shared)).2 = false)
    (components : choices.components = false) :
    start tree shared choices (init shared) =
      (guarded choices.identities (built shared choices)).andThen fun s =>
        (forEach register tree.agents s).andThen
          (remaining tree choices) := by
  rw [start_raised raised]
  have unfolded : inOrder (prepare tree shared choices ++
        startTransport choices.proxy choices.transport ::
          connecting tree choices)
        (init shared) =
      (guarded choices.components (init shared)).andThen fun s =>
        (startExport choices.exporters (build shared s)).andThen fun s =>
          (guarded choices.identities s).andThen fun s =>
            (forEach register tree.agents s).andThen
              (remaining tree choices) :=
    rfl
  rw [unfolded, components]
  have returned : guarded false (init shared) = (init shared, true) := rfl
  rw [returned]
  simp only [Outcome.andThen, if_true, startExport_build]

theorem start_components_raise
    (raises : choices.components = true) (s : State)
    (idle : s.started = false) :
    start tree shared choices s = (s, false) := by
  have unfolded : start tree shared choices s =
      if s.started then (s, true)
      else
        (guarded choices.components s).andThen
          (inOrder
            ((fun s => startExport choices.exporters (build shared s)) ::
              guarded choices.identities :: forEach register tree.agents ::
              startTransport choices.proxy choices.transport ::
              connect tree choices)) :=
    rfl
  rw [unfolded, idle, raises]
  rfl

/-- An early failure leaves a new runtime. -/
theorem start_early
    (early : Early tree shared choices) :
    start tree shared choices (init shared) = (init shared, false) := by
  have raised : (start tree shared choices (init shared)).2 = false := by
    rw [← Bool.not_eq_true, start_returned]
    intro smooth
    rcases early with wrong | ⟨_, wrong | ⟨name, rest, agents, taken⟩ |
      ⟨_, wrong⟩⟩
    · cases wrong.symm.trans smooth.components
    · cases wrong.symm.trans smooth.identities
    · exact smooth.agents.2 name (by rw [agents]; exact List.mem_cons_self)
        taken
    · cases wrong.symm.trans smooth.transport
  cases components : choices.components with
  | true => exact start_components_raise components _ rfl
  | false =>
      rcases early with wrong | ⟨exporters, failed⟩
      · cases wrong.symm.trans components
      have same : built shared choices = init shared := by
        rw [built, exporters]
        rfl
      rw [raised_eq raised components, same]
      cases identities : choices.identities with
      | true => rfl
      | false =>
          have returned : guarded false (init shared) = (init shared, true) :=
            rfl
          simp only [returned, Outcome.andThen, if_true]
          rcases failed with wrong | ⟨name, rest, agents, taken⟩ |
            ⟨agents, transport⟩
          · cases wrong.symm.trans identities
          · have clash : forEach register tree.agents (init shared) =
                (init shared, false) := by
              rw [agents, forEach, register, if_pos taken]
              rfl
            simp [clash]
          · have refused : remaining tree choices (init shared) =
                (init shared, false) := by
              simp only [remaining, inOrder, forEach]
              rw [transport]
              cases choices.proxy <;> rfl
            rw [agents]
            exact refused

/-- The flag is not set and `stop` does nothing. -/
theorem stop_raised
    (kept : s.started = false) : stop s = s := by
  unfold stop
  rw [kept]
  rfl

/--
A later failure leaves a registered name, a transport with something open or
the task that exports spans.
-/
theorem left_behind
    (raised : (start tree shared choices (init shared)).2 = false)
    (late : ¬ Early tree shared choices) :
    let s := (start tree shared choices (init shared)).1
    s.started = false ∧
      ((∃ name ∈ tree.names, name ∈ s.registry ∧
          name ∉ (init shared).registry) ∨
        s.transport ≠ .idle ∨ s.exporting = true) := by
  rw [Early, not_or, Bool.not_eq_true] at late
  rcases late with ⟨components, late⟩
  have shape := raised_eq raised components
  have grows : Grows fun s =>
      (guarded choices.identities s).andThen fun s =>
        (forEach register tree.agents s).andThen (remaining tree choices) :=
    grows_andThen (grows_guarded _)
      (grows_andThen (grows_forEach fun name _ => grows_register name)
        (grows_remaining tree choices))
  have kept : Kept (built shared choices)
      (start tree shared choices (init shared)).1 :=
    shape ▸ grows (built shared choices)
  refine ⟨kept.started, ?_⟩
  cases exporters : choices.exporters with
  | true => exact .inr (.inr (kept.exporting exporters))
  | false =>
      simp only [exporters, true_and, not_or] at late
      rcases late with ⟨identities, named, wired⟩
      rw [Bool.not_eq_true] at identities
      have same : built shared choices = init shared := by
        rw [built, exporters]
        rfl
      have registered : start tree shared choices (init shared) =
          (forEach register tree.agents (init shared)).andThen
            (remaining tree choices) := by
        rw [shape, identities, same]
        rfl
      rw [registered]
      cases agents : tree.agents with
      | nil =>
          have attempted : choices.transport ≠ .refused :=
            fun refused => wired ⟨agents, refused⟩
          have opened : (startTransport choices.proxy choices.transport
              (init shared)).1.transport ≠ .idle := by
            cases attempt : choices.transport with
            | refused => exact absurd attempt attempted
            | fine => cases choices.proxy <;> simp [startTransport, init]
            | halfway => cases choices.proxy <;> simp [startTransport, init]
          right
          left
          change (remaining tree choices (init shared)).1.transport ≠ .idle
          have first : remaining tree choices (init shared) =
              (startTransport choices.proxy choices.transport
                (init shared)).andThen
                (inOrder (connecting tree choices)) :=
            rfl
          rw [first]
          unfold Outcome.andThen
          split
          · exact (grows_connecting tree choices _).transport opened
          · exact opened
      | cons name rest =>
          left
          have free : name ∉ (init shared).registry := fun taken =>
            named ⟨name, rest, agents, taken⟩
          have first : forEach register (name :: rest) (init shared) =
              forEach register rest
                { init shared with
                  registry := (init shared).registry ++ [name] } := by
            rw [forEach, register, if_neg free]
            rfl
          refine ⟨name, by simp [Plan.names, agents], ?_, free⟩
          rw [first]
          refine (grows_andThen
            (grows_forEach fun other _ => grows_register other)
            (grows_remaining tree choices) _).registry name ?_
          exact List.mem_append_right _ List.mem_cons_self

/-- A process that fails to start leaves the tasks before it running. -/
theorem tree_left_running
    {raises : Nat → Bool} {object : Nat} {front back : List Task}
    (shape : tree.tasks = front ++ .loop object :: back)
    (fails : raises object = true)
    (fine : ∀ other, .loop other ∈ front → raises other = false)
    (s : State) :
    tree.start raises s =
      ({ s with running := s.running ++ front }, false) := by
  have before : forEach (startTask raises) front s =
      ({ s with running := s.running ++ front }, true) :=
    tasks_returned.mpr ⟨fine, rfl⟩
  rw [Plan.start_eq, shape, forEach_append, before]
  simp [Outcome.andThen, forEach, startTask, fails]

/-- Two agents below one supervisor. -/
def pair : Plan :=
  .supervisor 0 "root" false [.agent 1 "first", .agent 2 "second"]

end Civitas.Lifecycle.Startup
