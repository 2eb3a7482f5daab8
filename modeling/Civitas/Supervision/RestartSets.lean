import Civitas.Supervision.Tree
import Mathlib.Algebra.Order.BigOperators.Group.List
import Mathlib.Algebra.Order.Ring.Nat
import Mathlib.Data.List.Forall2
import Mathlib.Data.List.Nodup
import Mathlib.Data.List.TakeWhile

/-!
# Restart sets

What a supervisor restarts when the engine rules `restart`: `_restart_child`,
`_restart_all_children` and `_restart_rest_for_one`, with
`_restart_agent_child` for agents and `Supervisor.stop` and
`Supervisor.start` for child supervisors.

The processing is a function of the tree and of the behaviour of its
processes; it has no result when it raises, which is when the event is
escalated.  Every strategy should restart a set of declared children, local and
remote, and put a fresh object in the place of every local agent of the set.
Agents below a restarted supervisor keep their objects, and the strategies that
go through the list of children leave the remote ones out.
-/

namespace Civitas.Supervision

open Civitas.Dynamic (ProcessStatus)

/-! ## Processing a crash -/

/-- A supervisor, for the processing of one crash event. -/
structure Supervisor where
  children : List Node
  /-- `_remote_children`. -/
  remote : List String
  strategy : RestartStrategy
  /-- The supervisor is wired to a bus. -/
  bus : Bool
  distinct : (children.map Node.name ++ remote).Nodup

/-- The children after the processing, and the restart commands sent. -/
structure Outcome where
  children : List Node
  commands : List String

/-- A number above the serial numbers of all agents. -/
def Supervisor.bound (sup : Supervisor) : Nat :=
  ((agentsOf sup.children).map Agent.serial).sum + 1

/-- `_restart_agent_child`: the fresh object has a new number. -/
def Agent.renew
    (behaviour : Behaviour) (bound : Nat) (agent : Agent) : Option Agent :=
  if behaviour.builds agent.name then
    (behaviour.starts agent.name).map fun status =>
      { agent with
        serial := bound + agent.serial
        status := status
        live := status.ready }
  else none

/-- A child after the children of its set have been stopped. -/
def Node.revive
    (behaviour : Behaviour) (bound : Nat) : Node → Option Node
  | .agent process => (process.renew behaviour bound).map .agent
  | node => node.start behaviour

/-- `_restart_child`, for a local child. -/
def Node.restartAlone
    (behaviour : Behaviour) (bound : Nat) : Node → Option Node
  | .agent process => (process.renew behaviour bound).map .agent
  | node => (node.stop behaviour).bind (Node.start behaviour)

/-- A child of a set that is stopped as a whole and then restarted. -/
def Node.restartInSet
    (behaviour : Behaviour) (bound : Nat) (node : Node) : Option Node :=
  (node.stop behaviour).bind (Node.revive behaviour bound)

/-- The processing of a crash that the engine rules `restart`. -/
def Supervisor.handleCrash
    (behaviour : Behaviour) (routes : Bool) (sup : Supervisor)
    (name : String) : Option Outcome :=
  match sup.strategy with
  | .oneForOne =>
      if name ∈ sup.remote then
        if sup.bus then
          if routes then some ⟨sup.children, [name]⟩ else none
        else some ⟨sup.children, []⟩
      else
        (sup.children.mapM fun node =>
          if node.name = name
          then node.restartAlone behaviour sup.bound
          else some node).map (⟨·, []⟩)
  | .oneForAll =>
      (sup.children.mapM (Node.restartInSet behaviour sup.bound)).map
        (⟨·, []⟩)
  | .restForOne =>
      ((sup.children.dropWhile fun node => node.name ≠ name).mapM
        (Node.restartInSet behaviour sup.bound)).map fun restarted =>
          ⟨(sup.children.takeWhile fun node => node.name ≠ name) ++
            restarted, []⟩

/-! ## What should be restarted -/

/-- The children of a supervisor as they are declared, remote ones last. -/
def Supervisor.declared (sup : Supervisor) : List String :=
  sup.children.map Node.name ++ sup.remote

/-- The children a strategy restarts. -/
def Supervisor.restartSet (sup : Supervisor) (name : String) : List String :=
  match sup.strategy with
  | .oneForOne => [name]
  | .oneForAll => sup.declared
  | .restForOne => sup.declared.dropWhile fun declared => declared ≠ name

mutual

/-- The child runs, and every agent of it is a new object of its spec. -/
def Node.Renewed (serials : List Nat) : Node → Node → Prop
  | .agent old, .agent new =>
      new.name = old.name ∧ new.spec = old.spec ∧ new.serial ∉ serials ∧
        new.status.ready = true ∧ new.live = true
  | .supervisor name _ children, .supervisor other live others =>
      other = name ∧ live = true ∧ renewedEach serials children others
  | _, _ => False

/-- `Node.Renewed` of each child. -/
def renewedEach (serials : List Nat) : List Node → List Node → Prop
  | [], [] => True
  | old :: olds, new :: news =>
      old.Renewed serials new ∧ renewedEach serials olds news
  | _, _ => False

end

/-- What has become of a child: renewed in the set, untouched outside. -/
def Supervisor.Becomes
    (sup : Supervisor) (name : String) (old new : Node) : Prop :=
  if old.name ∈ sup.restartSet name
  then old.Renewed ((agentsOf sup.children).map Agent.serial) new
  else new = old

/-- The processing has restarted the set of its strategy. -/
structure Supervisor.RestartsSet
    (sup : Supervisor) (name : String) (outcome : Outcome) : Prop where
  crashed : name ∈ sup.restartSet name
  children : List.Forall₂ (sup.Becomes name) sup.children outcome.children
  commands : ∀ other ∈ sup.remote,
    other ∈ sup.restartSet name → other ∈ outcome.commands

/-! ## When it is -/

mutual

/-- Every process that is started for the child stays in its loop. -/
def Node.comesUp (behaviour : Behaviour) : Node → Bool
  | .agent process =>
      (behaviour.starts process.name).any ProcessStatus.ready
  | .supervisor name _ children =>
      (behaviour.starts name).any ProcessStatus.ready &&
        comesUpEach behaviour children

/-- `Node.comesUp` of each child. -/
def comesUpEach (behaviour : Behaviour) : List Node → Bool
  | [] => true
  | node :: rest => node.comesUp behaviour && comesUpEach behaviour rest

end

/-- The child is not a supervisor of agents. -/
def Node.flat : Node → Bool
  | .agent _ => true
  | .supervisor _ _ children => (agentsOf children).isEmpty

/--
A remote child is restarted by itself, over a bus, and otherwise there are
none; no supervisor of agents is restarted; and what is started stays up.
-/
def Supervisor.restartsWell
    (behaviour : Behaviour) (sup : Supervisor) (name : String) : Bool :=
  (match sup.strategy with
    | .oneForOne => !decide (name ∈ sup.remote) || sup.bus
    | _ => sup.remote.isEmpty) &&
    sup.children.all fun node =>
      !decide (node.name ∈ sup.restartSet name) ||
        (node.flat && node.comesUp behaviour)

/-! ## One child -/

section Nodes

variable {behaviour : Behaviour}

theorem agent_of_stop
    {process stopped : Agent}
    (done : process.stop behaviour = some stopped) :
    stopped.name = process.name ∧ stopped.spec = process.spec ∧
      stopped.serial = process.serial := by
  unfold Agent.stop at done
  split at done
  · rcases Option.map_eq_some_iff.mp done with ⟨left, _, rfl⟩
    exact ⟨rfl, rfl, rfl⟩
  · cases done
    exact ⟨rfl, rfl, rfl⟩

theorem node_stop_agent
    {process : Agent} {stopped : Node}
    (done : (Node.agent process).stop behaviour = some stopped) :
    ∃ left, process.stop behaviour = some left ∧ stopped = .agent left := by
  rcases Option.map_eq_some_iff.mp done with ⟨left, ended, rfl⟩
  exact ⟨left, ended, rfl⟩

theorem node_stop_supervisor
    {name : String} {live : Bool} {children : List Node} {stopped : Node}
    (done :
      (Node.supervisor name live children).stop behaviour = some stopped) :
    ∃ each, stopEach behaviour children = some each ∧
      stopped = .supervisor name false each := by
  rw [Node.stop] at done
  split at done
  · cases done
  · cases each : stopEach behaviour children with
    | none => simp [each] at done
    | some stopped =>
        simp only [each, Option.some.injEq] at done
        exact ⟨stopped, rfl, done.symm⟩

theorem stopEach_cons
    {node : Node} {rest stopped : List Node}
    (done : stopEach behaviour (node :: rest) = some stopped) :
    ∃ first others, node.stop behaviour = some first ∧
      stopEach behaviour rest = some others ∧ stopped = first :: others := by
  rw [stopEach] at done
  cases first : node.stop behaviour with
  | none => simp [first] at done
  | some head =>
      cases others : stopEach behaviour rest with
      | none => simp [first, others] at done
      | some tail =>
          simp only [first, others, Option.some.injEq] at done
          exact ⟨head, tail, rfl, rfl, done.symm⟩

theorem node_start_supervisor
    {name : String} {live : Bool} {children : List Node} {started : Node}
    (done :
      (Node.supervisor name live children).start behaviour = some started) :
    ∃ status each, behaviour.starts name = some status ∧
      startEach behaviour children = some each ∧
      started = .supervisor name status.ready each := by
  rw [Node.start] at done
  cases status : behaviour.starts name with
  | none => simp [status] at done
  | some ready =>
      cases each : startEach behaviour children with
      | none => simp [status, each] at done
      | some started =>
          simp only [status, each, Option.some.injEq] at done
          exact ⟨ready, started, rfl, rfl, done.symm⟩

theorem startEach_cons
    {node : Node} {rest started : List Node}
    (done : startEach behaviour (node :: rest) = some started) :
    ∃ first others, node.start behaviour = some first ∧
      startEach behaviour rest = some others ∧ started = first :: others := by
  rw [startEach] at done
  cases first : node.start behaviour with
  | none => simp [first] at done
  | some head =>
      cases others : startEach behaviour rest with
      | none => simp [first, others] at done
      | some tail =>
          simp only [first, others, Option.some.injEq] at done
          exact ⟨head, tail, rfl, rfl, done.symm⟩

mutual

/-- A child that goes through `stop` and `start` keeps its agents. -/
theorem renewed_iff_of_start
    {serials : List Nat} (node : Node) {stopped started : Node}
    (known : ∀ agent ∈ node.agents, agent.serial ∈ serials)
    (ended : node.stop behaviour = some stopped)
    (begun : stopped.start behaviour = some started) :
    node.Renewed serials started ↔
      node.agents = [] ∧ node.comesUp behaviour = true := by
  match node with
  | .agent process =>
      rcases node_stop_agent ended with ⟨left, halted, rfl⟩
      rcases Option.map_eq_some_iff.mp begun with ⟨new, resumed, rfl⟩
      rcases Option.map_eq_some_iff.mp resumed with ⟨status, _, rfl⟩
      have kept := (agent_of_stop halted).2.2
      have old := known process (by simp [Node.agents])
      constructor
      · intro renewed
        have fresh := renewed.2.2.1
        exact absurd (by rw [kept]; exact old) fresh
      · rintro ⟨empty, -⟩
        simp [Node.agents] at empty
  | .supervisor name live children =>
      rcases node_stop_supervisor ended with ⟨each, halted, rfl⟩
      rcases node_start_supervisor begun with
        ⟨status, others, ready, resumed, rfl⟩
      have below :=
        renewedEach_iff_of_start children (by simpa [Node.agents] using known)
          halted resumed
      constructor
      · rintro ⟨-, live, renewed⟩
        rcases below.mp renewed with ⟨empty, up⟩
        refine ⟨by simpa [Node.agents] using empty, ?_⟩
        simp [Node.comesUp, ready, live, up]
      · rintro ⟨empty, up⟩
        simp only [Node.comesUp, ready, Option.any_some,
          Bool.and_eq_true] at up
        refine ⟨rfl, up.1, below.mpr ⟨?_, up.2⟩⟩
        simpa [Node.agents] using empty

theorem renewedEach_iff_of_start
    {serials : List Nat} (nodes : List Node) {stopped started : List Node}
    (known : ∀ agent ∈ agentsOf nodes, agent.serial ∈ serials)
    (ended : stopEach behaviour nodes = some stopped)
    (begun : startEach behaviour stopped = some started) :
    renewedEach serials nodes started ↔
      agentsOf nodes = [] ∧ comesUpEach behaviour nodes = true := by
  match nodes with
  | [] =>
      cases ended
      cases begun
      simp [renewedEach, agentsOf, comesUpEach]
  | node :: rest =>
      rcases stopEach_cons ended with ⟨first, others, halted, rested, rfl⟩
      rcases startEach_cons begun with ⟨head, tail, resumed, awoken, rfl⟩
      have one :=
        renewed_iff_of_start node
          (fun agent within =>
            known agent (by simp [agentsOf, within]))
          halted resumed
      have more :=
        renewedEach_iff_of_start rest
          (fun agent within =>
            known agent (by simp [agentsOf, within]))
          rested awoken
      simp only [renewedEach, agentsOf, comesUpEach, one, more,
        List.append_eq_nil_iff, Bool.and_eq_true]
      constructor
      · rintro ⟨⟨empty, up⟩, none, all⟩
        exact ⟨⟨empty, none⟩, up, all⟩
      · rintro ⟨⟨empty, none⟩, up, all⟩
        exact ⟨⟨empty, up⟩, none, all⟩

end

/-- An agent that is renewed, from what `_stop` has left of it. -/
theorem renewed_iff_of_renew
    {serials : List Nat} {bound : Nat} {process left new : Agent}
    (above : ∀ serial ∈ serials, serial < bound)
    (name : left.name = process.name) (spec : left.spec = process.spec)
    (built : left.renew behaviour bound = some new) :
    (Node.agent process).Renewed serials (.agent new) ↔
      (Node.agent process).comesUp behaviour = true := by
  unfold Agent.renew at built
  split at built
  · rcases Option.map_eq_some_iff.mp built with ⟨status, begun, rfl⟩
    have fresh : bound + left.serial ∉ serials := by
      intro used
      have below := above _ used
      omega
    rw [name] at begun
    simp [Node.Renewed, Node.comesUp, name, spec, fresh, begun]
  · cases built

/-- A child that is restarted alone. -/
theorem renewed_iff_of_restartAlone
    {serials : List Nat} {bound : Nat} {node new : Node}
    (above : ∀ serial ∈ serials, serial < bound)
    (known : ∀ agent ∈ node.agents, agent.serial ∈ serials)
    (restarted : node.restartAlone behaviour bound = some new) :
    node.Renewed serials new ↔
      (node.flat && node.comesUp behaviour) = true := by
  cases node with
  | agent process =>
      rcases Option.map_eq_some_iff.mp restarted with ⟨fresh, built, rfl⟩
      rw [renewed_iff_of_renew above rfl rfl built]
      simp [Node.flat]
  | supervisor name live children =>
      rcases Option.bind_eq_some_iff.mp restarted with ⟨stopped, ended, begun⟩
      rw [renewed_iff_of_start _ known ended begun]
      simp [Node.flat, Node.agents]

/-- A child that is restarted with its set. -/
theorem renewed_iff_of_restartInSet
    {serials : List Nat} {bound : Nat} {node new : Node}
    (above : ∀ serial ∈ serials, serial < bound)
    (known : ∀ agent ∈ node.agents, agent.serial ∈ serials)
    (restarted : node.restartInSet behaviour bound = some new) :
    node.Renewed serials new ↔
      (node.flat && node.comesUp behaviour) = true := by
  rcases Option.bind_eq_some_iff.mp restarted with ⟨stopped, ended, begun⟩
  cases node with
  | agent process =>
      rcases node_stop_agent ended with ⟨left, halted, rfl⟩
      rcases Option.map_eq_some_iff.mp begun with ⟨fresh, built, rfl⟩
      rcases agent_of_stop halted with ⟨name, spec, -⟩
      rw [renewed_iff_of_renew above name spec built]
      simp [Node.flat]
  | supervisor name live children =>
      rcases node_stop_supervisor ended with ⟨each, _, rfl⟩
      rw [renewed_iff_of_start _ known ended begun]
      simp [Node.flat, Node.agents]

end Nodes

/-! ## Lists of children -/

theorem mapM_eq_some_iff
    {first second : Type} {f : first → Option second}
    {inputs : List first} {outputs : List second} :
    inputs.mapM f = some outputs ↔
      List.Forall₂ (fun input output => f input = some output) inputs
        outputs := by
  induction inputs generalizing outputs with
  | nil =>
      simp only [List.mapM_nil, List.forall₂_nil_left_iff]
      constructor
      · intro same
        cases same
        rfl
      · rintro rfl
        rfl
  | cons input rest ih =>
      rw [List.mapM_cons, List.forall₂_cons_left_iff]
      constructor
      · intro same
        rcases Option.bind_eq_some_iff.mp same with ⟨head, found, more⟩
        rcases Option.bind_eq_some_iff.mp more with ⟨tail, others, done⟩
        cases done
        exact ⟨head, tail, found, ih.mp others, rfl⟩
      · rintro ⟨head, tail, found, others, rfl⟩
        rw [found, ih.mpr others]
        rfl

/-- A relation that the inputs alone decide. -/
theorem forall₂_iff_of_mapM
    {first second : Type} {f : first → Option second}
    (relation : first → second → Prop) (decides : first → Prop)
    {inputs : List first} {outputs : List second}
    (mapped : inputs.mapM f = some outputs)
    (decided : ∀ input ∈ inputs, ∀ output, f input = some output →
      (relation input output ↔ decides input)) :
    List.Forall₂ relation inputs outputs ↔
      ∀ input ∈ inputs, decides input := by
  have pairs := mapM_eq_some_iff.mp mapped
  clear mapped
  induction pairs with
  | nil => simp
  | cons found _ ih =>
      have head := decided _ List.mem_cons_self _ found
      have tail :=
        ih fun input within => decided input (List.mem_cons_of_mem _ within)
      refine List.forall₂_cons.trans ((and_congr head tail).trans ?_)
      simp

section Supervisors

variable {behaviour : Behaviour} {routes : Bool} {sup : Supervisor}
  {name : String} {outcome : Outcome}

theorem serial_lt_bound
    {serial : Nat}
    (used : serial ∈ (agentsOf sup.children).map Agent.serial) :
    serial < sup.bound := by
  have below := List.le_sum_of_mem used
  unfold Supervisor.bound
  omega

theorem agents_of_mem
    {nodes : List Node} {node : Node} (within : node ∈ nodes) {agent : Agent}
    (below : agent ∈ node.agents) : agent ∈ agentsOf nodes := by
  induction nodes with
  | nil => cases within
  | cons first rest ih =>
      rw [agentsOf, List.mem_append]
      rcases List.mem_cons.mp within with rfl | later
      · exact .inl below
      · exact .inr (ih later)

theorem known_of_mem
    {node : Node} (within : node ∈ sup.children) :
    ∀ agent ∈ node.agents,
      agent.serial ∈ (agentsOf sup.children).map Agent.serial := by
  intro agent below
  exact List.mem_map.mpr ⟨agent, agents_of_mem within below, rfl⟩

/-- The condition on a child, in the set or outside. -/
def Supervisor.allows
    (sup : Supervisor) (behaviour : Behaviour) (name : String)
    (node : Node) : Prop :=
  (!decide (node.name ∈ sup.restartSet name) ||
    (node.flat && node.comesUp behaviour)) = true

theorem becomes_iff_outside
    {node new : Node} (outside : node.name ∉ sup.restartSet name)
    (same : new = node) :
    sup.Becomes name node new ↔ sup.allows behaviour name node := by
  simp [Supervisor.Becomes, Supervisor.allows, outside, same]

theorem becomes_iff_inside
    {node new : Node} (inside : node.name ∈ sup.restartSet name)
    (renewed :
      node.Renewed ((agentsOf sup.children).map Agent.serial) new ↔
        (node.flat && node.comesUp behaviour) = true) :
    sup.Becomes name node new ↔ sup.allows behaviour name node := by
  simp only [Supervisor.Becomes, inside, if_true, renewed]
  simp [Supervisor.allows, inside]

theorem restartsWell_iff :
    sup.restartsWell behaviour name = true ↔
      (match sup.strategy with
        | .oneForOne => !decide (name ∈ sup.remote) || sup.bus
        | _ => sup.remote.isEmpty) = true ∧
        ∀ node ∈ sup.children, sup.allows behaviour name node := by
  unfold Supervisor.restartsWell Supervisor.allows
  rw [Bool.and_eq_true, List.all_eq_true]

theorem mem_dropWhile_ne
    {names : List String} (within : name ∈ names) :
    name ∈ names.dropWhile fun other => other ≠ name := by
  induction names with
  | nil => cases within
  | cons first rest ih =>
      by_cases same : first = name
      · simp [same]
      · have later : name ∈ rest := by
          rcases List.mem_cons.mp within with equal | later
          · exact absurd equal.symm same
          · exact later
        rw [List.dropWhile_cons_of_pos (by simpa using same)]
        exact ih later

theorem mem_restartSet (known : name ∈ sup.declared) :
    name ∈ sup.restartSet name := by
  unfold Supervisor.restartSet
  cases sup.strategy with
  | oneForOne => exact List.mem_singleton.mpr rfl
  | oneForAll => exact known
  | restForOne => exact mem_dropWhile_ne known

theorem restartsSet_iff_of_remote
    (strategy : sup.strategy = .oneForOne) (remote : name ∈ sup.remote)
    (handled : sup.handleCrash behaviour routes name = some outcome) :
    sup.RestartsSet name outcome ↔
      sup.restartsWell behaviour name = true := by
  have set : sup.restartSet name = [name] := by
    simp [Supervisor.restartSet, strategy]
  have outside : ∀ node ∈ sup.children, node.name ∉ sup.restartSet name := by
    intro node within inside
    rw [set, List.mem_singleton] at inside
    have apart := (List.nodup_append.mp sup.distinct).2.2 node.name
      (List.mem_map.mpr ⟨node, within, rfl⟩) name remote
    exact apart inside
  have allowed : ∀ node ∈ sup.children, sup.allows behaviour name node := by
    intro node within
    exact (becomes_iff_outside (outside node within) rfl).mp
      (by simp [Supervisor.Becomes, outside node within])
  have unchanged :
      List.Forall₂ (sup.Becomes name) sup.children sup.children := by
    rw [List.forall₂_same]
    intro node within
    simp [Supervisor.Becomes, outside node within]
  rw [restartsWell_iff]
  simp only [Supervisor.handleCrash, strategy, remote, if_true] at handled
  cases wired : sup.bus with
  | false =>
      simp only [wired, Bool.false_eq_true, if_false,
        Option.some.injEq] at handled
      subst handled
      constructor
      · intro restarted
        have sent := restarted.commands name remote (by simp [set])
        cases sent
      · rintro ⟨bus, -⟩
        simp [strategy, remote] at bus
  | true =>
      simp only [wired, if_true] at handled
      split at handled
      · cases handled
        constructor
        · intro _
          exact ⟨by simp [strategy], allowed⟩
        · intro _
          refine ⟨by simp [set], unchanged, ?_⟩
          intro other _ inside
          rwa [set] at inside
      · cases handled

theorem restartsSet_iff_of_alone
    (strategy : sup.strategy = .oneForOne) (localChild : name ∉ sup.remote)
    (handled : sup.handleCrash behaviour routes name = some outcome) :
    sup.RestartsSet name outcome ↔
      sup.restartsWell behaviour name = true := by
  have set : sup.restartSet name = [name] := by
    simp [Supervisor.restartSet, strategy]
  simp only [Supervisor.handleCrash, strategy, localChild,
    if_false] at handled
  rcases Option.map_eq_some_iff.mp handled with ⟨children, mapped, rfl⟩
  have decided :=
    forall₂_iff_of_mapM (sup.Becomes name) (sup.allows behaviour name)
      mapped (by
        intro node within new found
        by_cases named : node.name = name
        · rw [if_pos named] at found
          refine becomes_iff_inside (by simp [set, named]) ?_
          exact renewed_iff_of_restartAlone
            (fun serial used => serial_lt_bound used) (known_of_mem within)
            found
        · rw [if_neg named] at found
          cases found
          exact becomes_iff_outside (by simp [set, named]) rfl)
  rw [restartsWell_iff]
  constructor
  · intro restarted
    exact ⟨by simp [strategy, localChild], decided.mp restarted.children⟩
  · rintro ⟨-, allowed⟩
    refine ⟨by simp [set], decided.mpr allowed, ?_⟩
    intro other remote inside
    rw [set, List.mem_singleton] at inside
    exact absurd (inside ▸ remote) localChild

theorem restartsSet_iff_of_all
    (strategy : sup.strategy = .oneForAll) (known : name ∈ sup.declared)
    (handled : sup.handleCrash behaviour routes name = some outcome) :
    sup.RestartsSet name outcome ↔
      sup.restartsWell behaviour name = true := by
  have set : sup.restartSet name = sup.declared := by
    simp [Supervisor.restartSet, strategy]
  simp only [Supervisor.handleCrash, strategy] at handled
  rcases Option.map_eq_some_iff.mp handled with ⟨children, mapped, rfl⟩
  have decided :=
    forall₂_iff_of_mapM (sup.Becomes name) (sup.allows behaviour name)
      mapped (by
        intro node within new found
        have inside : node.name ∈ sup.restartSet name := by
          rw [set]
          exact List.mem_append_left _ (List.mem_map.mpr ⟨node, within, rfl⟩)
        exact becomes_iff_inside inside
          (renewed_iff_of_restartInSet
            (fun serial used => serial_lt_bound used) (known_of_mem within)
            found))
  rw [restartsWell_iff]
  simp only [strategy, List.isEmpty_iff]
  constructor
  · intro restarted
    refine ⟨?_, decided.mp restarted.children⟩
    apply List.eq_nil_iff_forall_not_mem.mpr
    intro other remote
    have sent := restarted.commands other remote (by
      rw [set]
      exact List.mem_append_right _ remote)
    cases sent
  · rintro ⟨empty, allowed⟩
    refine ⟨by rw [set]; exact known, decided.mpr allowed, ?_⟩
    intro other remote
    rw [empty] at remote
    cases remote

/-- The children before the crashed one, and the others. -/
def Supervisor.earlier (sup : Supervisor) (name : String) : List Node :=
  sup.children.takeWhile fun node => node.name ≠ name

/-- The child and those after it. -/
def Supervisor.later (sup : Supervisor) (name : String) : List Node :=
  sup.children.dropWhile fun node => node.name ≠ name

theorem earlier_append_later (sup : Supervisor) (name : String) :
    sup.earlier name ++ sup.later name = sup.children :=
  List.takeWhile_append_dropWhile

theorem name_ne_of_earlier
    {node : Node} (early : node ∈ sup.earlier name) : node.name ≠ name := by
  unfold Supervisor.earlier at early
  have kept := List.mem_takeWhile_imp early
  exact of_decide_eq_true kept

/-- The set of `REST_FOR_ONE`, without the children before the crashed one. -/
theorem restartSet_of_rest (strategy : sup.strategy = .restForOne) :
    sup.restartSet name =
      ((sup.later name).map Node.name ++ sup.remote).dropWhile
        fun other => other ≠ name := by
  have before : ∀ other ∈ (sup.earlier name).map Node.name,
      decide (other ≠ name) = true := by
    intro other within
    rcases List.mem_map.mp within with ⟨node, early, rfl⟩
    exact decide_eq_true (name_ne_of_earlier early)
  unfold Supervisor.restartSet Supervisor.declared
  rw [strategy, ← earlier_append_later sup name, List.map_append,
    List.append_assoc]
  exact List.dropWhile_append_of_pos before

theorem later_mem_restartSet
    (strategy : sup.strategy = .restForOne) {node : Node}
    (late : node ∈ sup.later name) :
    sup.restartSet name =
      (sup.later name).map Node.name ++ sup.remote := by
  rw [restartSet_of_rest strategy]
  cases found : sup.later name with
  | nil =>
      rw [found] at late
      cases late
  | cons first rest =>
      have named : first.name = name := by
        have nonempty : sup.later name ≠ [] := by simp [found]
        have stops :
            decide (((sup.later name).head nonempty).name ≠ name) = false :=
          List.head_dropWhile_not _ nonempty
        have head : (sup.later name).head nonempty = first := by
          simp [found]
        rw [head] at stops
        simpa using stops
      rw [List.map_cons, List.cons_append,
        List.dropWhile_cons_of_neg (by simp [named])]

theorem earlier_not_mem_restartSet
    (strategy : sup.strategy = .restForOne) {node : Node}
    (early : node ∈ sup.earlier name) :
    node.name ∉ sup.restartSet name := by
  rw [restartSet_of_rest strategy]
  intro inside
  have later :
      node.name ∈ (sup.later name).map Node.name ++ sup.remote :=
    (List.dropWhile_sublist _).subset inside
  have distinct := sup.distinct
  rw [← earlier_append_later sup name, List.map_append,
    List.append_assoc] at distinct
  exact (List.nodup_append.mp distinct).2.2 node.name
    (List.mem_map.mpr ⟨node, early, rfl⟩) node.name later rfl

/-- With remote children, the set of `REST_FOR_ONE` holds one of them. -/
theorem remote_mem_restartSet
    (strategy : sup.strategy = .restForOne) (known : name ∈ sup.declared)
    (nonempty : sup.remote ≠ []) :
    ∃ other ∈ sup.remote, other ∈ sup.restartSet name := by
  rcases List.mem_append.mp known with child | remote
  · rcases List.mem_map.mp child with ⟨node, within, named⟩
    have late : node ∈ sup.later name := by
      rw [← earlier_append_later sup name] at within
      rcases List.mem_append.mp within with early | late
      · exact absurd named (name_ne_of_earlier early)
      · exact late
    rcases List.exists_mem_of_ne_nil _ nonempty with ⟨other, remote⟩
    refine ⟨other, remote, ?_⟩
    rw [later_mem_restartSet strategy late]
    exact List.mem_append_right _ remote
  · exact ⟨name, remote, mem_restartSet known⟩

theorem restartsSet_iff_of_rest
    (strategy : sup.strategy = .restForOne) (known : name ∈ sup.declared)
    (handled : sup.handleCrash behaviour routes name = some outcome) :
    sup.RestartsSet name outcome ↔
      sup.restartsWell behaviour name = true := by
  simp only [Supervisor.handleCrash, strategy] at handled
  rcases Option.map_eq_some_iff.mp handled with ⟨restarted, mapped, rfl⟩
  have whole :
      sup.children.mapM
          (fun node =>
            if node.name ∈ sup.restartSet name
            then node.restartInSet behaviour sup.bound
            else some node) =
        some (sup.earlier name ++ restarted) := by
    rw [mapM_eq_some_iff, ← earlier_append_later sup name]
    apply List.rel_append
    · rw [List.forall₂_same]
      intro node early
      rw [if_neg (earlier_not_mem_restartSet strategy early)]
    · have inside : ∀ node ∈ sup.later name,
          node.name ∈ sup.restartSet name := by
        intro node late
        rw [later_mem_restartSet strategy late]
        exact List.mem_append_left _ (List.mem_map.mpr ⟨node, late, rfl⟩)
      have pairs :=
        (List.forall₂_and_left _ _).mpr
          ⟨inside, mapM_eq_some_iff.mp mapped⟩
      refine pairs.imp ?_
      rintro node new ⟨within, found⟩
      rw [if_pos within]
      exact found
  have decided :=
    forall₂_iff_of_mapM (sup.Becomes name) (sup.allows behaviour name)
      whole (by
        intro node within new found
        by_cases inside : node.name ∈ sup.restartSet name
        · rw [if_pos inside] at found
          exact becomes_iff_inside inside
            (renewed_iff_of_restartInSet
              (fun serial used => serial_lt_bound used)
              (known_of_mem within) found)
        · rw [if_neg inside] at found
          cases found
          exact becomes_iff_outside inside rfl)
  rw [restartsWell_iff]
  simp only [strategy, List.isEmpty_iff]
  constructor
  · intro done
    refine ⟨?_, decided.mp done.children⟩
    by_contra nonempty
    rcases remote_mem_restartSet strategy known nonempty with
      ⟨other, remote, inside⟩
    cases done.commands other remote inside
  · rintro ⟨empty, allowed⟩
    refine ⟨mem_restartSet known, decided.mpr allowed, ?_⟩
    intro other remote
    rw [empty] at remote
    cases remote

end Supervisors

/--
A crash that is processed without escalation has restarted the set of its
strategy exactly when the condition holds.
-/
theorem restart_set_renewed_iff
    {behaviour : Behaviour} {routes : Bool} {sup : Supervisor}
    {name : String} {outcome : Outcome} (known : name ∈ sup.declared)
    (handled : sup.handleCrash behaviour routes name = some outcome) :
    sup.RestartsSet name outcome ↔
      sup.restartsWell behaviour name = true := by
  cases strategy : sup.strategy with
  | oneForOne =>
      by_cases remote : name ∈ sup.remote
      · exact restartsSet_iff_of_remote strategy remote handled
      · exact restartsSet_iff_of_alone strategy remote handled
  | oneForAll => exact restartsSet_iff_of_all strategy known handled
  | restForOne => exact restartsSet_iff_of_rest strategy known handled

/-- Every process stops at once and comes up again. -/
def smooth : Behaviour where
  stops := fun _ => some (.stopped, [])
  builds := fun _ => true
  starts := fun _ => some .running

/-- An agent in its loop. -/
def runningAgent (name : String) (serial : Nat) : Node :=
  .agent
    { name := name
      spec := 0
      serial := serial
      status := .running
      live := true
      mailbox := [] }

/-- Three agents, restarted from the crashed one on. -/
def chain : Supervisor where
  children := [runningAgent "a" 1, runningAgent "b" 2, runningAgent "c" 3]
  remote := []
  strategy := .restForOne
  bus := true
  distinct := by decide

theorem rest_of_chain_renewed :
    ∃ outcome, chain.handleCrash smooth true "b" = some outcome ∧
      chain.RestartsSet "b" outcome := by
  have known : "b" ∈ chain.declared := by decide
  have well : chain.restartsWell smooth "b" = true := by decide +kernel
  have ran : (chain.handleCrash smooth true "b").isSome = true := by
    decide +kernel
  rcases Option.isSome_iff_exists.mp ran with ⟨outcome, handled⟩
  exact
    ⟨outcome, handled,
      (restart_set_renewed_iff known handled).mpr well⟩

/-- A supervisor whose only child is a supervisor of one agent. -/
def nested : Supervisor where
  children := [.supervisor "inner" true [runningAgent "w" 1]]
  remote := []
  strategy := .oneForOne
  bus := true
  distinct := by decide

/-- The agent below a restarted supervisor is the object it was before. -/
theorem subtree_restart_keeps_objects :
    ∃ outcome, nested.handleCrash smooth true "inner" = some outcome ∧
      ¬ nested.RestartsSet "inner" outcome := by
  refine
    ⟨⟨[.supervisor "inner" true [runningAgent "w" 1]], []⟩, rfl, ?_⟩
  intro restarted
  have kept := restarted.children
  rw [show nested.children =
    [.supervisor "inner" true [runningAgent "w" 1]] from rfl] at kept
  have renewed := (List.forall₂_cons.mp kept).1
  have inside :
      (Node.supervisor "inner" true [runningAgent "w" 1]).name ∈
        nested.restartSet "inner" := by
    decide
  rw [Supervisor.Becomes, if_pos inside] at renewed
  have fresh := renewed.2.2.1.2.2.1
  revert fresh
  decide

end Civitas.Supervision
