import Civitas.Transition
import Mathlib.Logic.Function.Basic

/-!
# The receive path of ZMQ and the agents behind it

One receiver loop takes the frames of a process out of its socket, in order.
It awaits `mailbox.put` of an agent, the `put` into a reply queue, and the
whole of `_on_restart_command`, which stops an agent and starts its next
incarnation.  An agent takes one message at a time, and its handler awaits
replies.  Every request goes out through the publisher, so that a request to
an agent of the same process, too, comes in through the loop; only a reply of
the same process is put into the reply queue directly.

A queue with `maxsize` zero has no bound.
-/

namespace Civitas.Transport.ReceivePath

open Civitas.Transition
open Function (update)

/-! ## Agents -/

/-- What the receive path reads of a message. -/
structure Message where
  /-- `message.priority > 0`. -/
  priority : Bool := false
  /-- `_agency.shutdown`, or `civitas.eval.halt`. -/
  shutdown : Bool := false
  /-- The request of this process that its `reply_to` belongs to. -/
  request : Option Nat := none
deriving DecidableEq

/-- The message that `_stop` puts into the mailbox. -/
def shutdownMessage : Message :=
  { priority := true, shutdown := true }

/-- Where the loop of an agent is. -/
inductive Phase where
  /-- The loop of the agent is at the mailbox. -/
  | waiting
  /-- A handler runs; it awaits the replies to these requests. -/
  | handling (awaited : List Nat)
  | stopped
deriving DecidableEq

/-- An agent of the process, with the two lanes of its mailbox. -/
structure Agent where
  mailboxSize : Nat := 1000
  prioritySize : Nat := 100
  normal : List Message := []
  priority : List Message := []
  phase : Phase := .waiting
  /-- `_restart_counts` of the worker. -/
  restarts : Nat := 0
deriving DecidableEq

namespace Agent

/-- The lane of the mailbox that the message goes to is full. -/
def full (agent : Agent) (message : Message) : Bool :=
  if message.priority then
    agent.prioritySize ≠ 0 ∧ agent.prioritySize ≤ agent.priority.length
  else agent.mailboxSize ≠ 0 ∧ agent.mailboxSize ≤ agent.normal.length

/-- `put_nowait` of the lane. -/
def enqueue (agent : Agent) (message : Message) : Agent :=
  if message.priority then
    { agent with priority := agent.priority ++ [message] }
  else { agent with normal := agent.normal ++ [message] }

/-- `Mailbox.get`, or `get_priority` of a suspended agent. -/
def take (agent : Agent) (priority : Bool) : Option (Message × Agent) :=
  match agent.phase, priority, agent.priority, agent.normal with
  | .waiting, true, message :: rest, _ =>
      some (message, { agent with priority := rest })
  | .waiting, false, [], message :: rest =>
      some (message, { agent with normal := rest })
  | _, _, _, _ => none

/-- The requests that the current handler awaits. -/
def awaited (agent : Agent) : List Nat :=
  match agent.phase with
  | .handling awaited => awaited
  | _ => []

end Agent

/-! ## State -/

/-- A call of `request`. -/
structure Request where
  /-- The agent whose handler makes it. -/
  owner : String := ""
  /-- The agent of the process that it is for; none for other processes. -/
  recipient : Option String := none
  /-- The loop has taken the frame of the request. -/
  taken : Bool := false
  /-- The reply address is in `_reply_queues`. -/
  listed : Bool := false
  /-- The reply queue has an item. -/
  item : Bool := false
deriving DecidableEq

/-- The frames that come to the socket. -/
inductive Frame where
  | message (name : String) (message : Message)
  | reply (address : Nat)
  /-- A restart command of the supervisor. -/
  | restart (name : String)
  /-- Anything else. -/
  | other
deriving DecidableEq

/-- The request that the frame brings to an agent of the process. -/
def Frame.carried : Frame → Option Nat
  | .message _ content => content.request
  | _ => none

/-- Where the receiver loop is. -/
inductive Loop where
  | receiving
  /-- `await self._mailbox.put(message)`. -/
  | putting (name : String) (message : Message)
  /-- `await self._reply_queues[address].put(data)`. -/
  | replying (address : Nat)
  /-- `await agent._stop()`; its shutdown message is in the mailbox or not. -/
  | stopping (name : String) (queued : Bool)
  /-- `await fresh._start()`. -/
  | starting (name : String)
deriving DecidableEq

/-- The process: its loop, its socket, its agents and their requests. -/
structure State where
  agents : String → Option Agent
  maxRestarts : Nat
  loop : Loop := .receiving
  socket : List Frame := []
  requests : Nat → Request := fun _ => {}
  /-- The number of requests made so far. -/
  issued : Nat := 0

/-- A process with these agents, every one with an empty mailbox. -/
def init (sizes : String → Option (Nat × Nat)) (maxRestarts : Nat) : State :=
  { agents := fun name => (sizes name).map fun size =>
      { mailboxSize := size.1, prioritySize := size.2 }
    maxRestarts := maxRestarts }

namespace State

/-- The state with another agent under the name. -/
def setAgent (s : State) (name : String) (agent : Agent) : State :=
  { s with agents := update s.agents name (some agent) }

/-- The state with another request at the address. -/
def setRequest (s : State) (address : Nat) (request : Request) : State :=
  { s with requests := update s.requests address request }

/-- The reply address leaves `_reply_queues`. -/
def unlist (s : State) (address : Nat) : State :=
  s.setRequest address
    { s.requests address with listed := false, item := false }

/-- The requests of a handler end with it. -/
def unlistAll (s : State) (addresses : List Nat) : State :=
  addresses.foldl unlist s

/-- The loop passes a message to `agent.receive`. -/
def deliver
    (s : State) (name : String) (agent : Agent) (message : Message) : State :=
  if agent.full message then { s with loop := .putting name message }
  else s.setAgent name (agent.enqueue message)

/-- The loop puts a reply into the queue of its request. -/
def reply (s : State) (address : Nat) : State :=
  let request := s.requests address
  if request.listed then
    if request.item then { s with loop := .replying address }
    else s.setRequest address { request with item := true }
  else s

/-- `_stop` puts its shutdown message, if there is room. -/
def beginStop (s : State) (name : String) (agent : Agent) : State :=
  if agent.full shutdownMessage then { s with loop := .stopping name false }
  else
    { s.setAgent name (agent.enqueue shutdownMessage) with
      loop := .stopping name true }

/-- `Worker._on_restart_command`. -/
def restart (s : State) (name : String) (agent : Agent) : State :=
  if s.maxRestarts ≤ agent.restarts then s
  else if agent.phase = .stopped then { s with loop := .starting name }
  else s.beginStop name agent

/-- A frame is taken out of the socket. -/
def accept (s : State) (frame : Frame) : State :=
  match frame.carried with
  | none => s
  | some address =>
      s.setRequest address { s.requests address with taken := true }

/-- The loop has the frame of the request, and waits to deliver it. -/
def holds (s : State) (address : Nat) : Bool :=
  match s.loop with
  | .putting _ message => message.request = some address
  | _ => false

/-- The round of `_receiver_loop` for one frame. -/
def round (s : State) (frame : Frame) (consumed : Bool) : State :=
  match frame with
  | .message name message =>
      match s.agents name with
      | none => s
      | some agent => if consumed then s else s.deliver name agent message
  | .reply address => s.reply address
  | .restart name =>
      match s.agents name with
      | none => s
      | some agent => s.restart name agent
  | .other => s

/-- The loop goes on after an `await`. -/
def resume (s : State) (failed : Bool) : Option State :=
  match s.loop with
  | .receiving => none
  | .putting name message =>
      (s.agents name).bind fun agent =>
        if agent.full message then none
        else some
          { s.setAgent name (agent.enqueue message) with loop := .receiving }
  | .replying address =>
      let request := s.requests address
      if request.item then none
      else some
        { s.setRequest address { request with item := true } with
          loop := .receiving }
  | .stopping name false =>
      (s.agents name).bind fun agent =>
        if agent.full shutdownMessage then none
        else some (s.beginStop name agent)
  | .stopping name true =>
      (s.agents name).bind fun agent =>
        if agent.phase = .stopped then some { s with loop := .starting name }
        else none
  | .starting name =>
      (s.agents name).map fun agent =>
        if failed then { s with loop := .receiving }
        else
          { s.setAgent name
              { agent with
                phase := .waiting, restarts := agent.restarts + 1 } with
            loop := .receiving }

/-- The loop works on the agent. -/
def engaged (s : State) (name : String) : Bool :=
  match s.loop with
  | .stopping target _ | .starting target => target = name
  | _ => false

end State

/-! ## Steps -/

/-- What can happen in the process, and what comes to it. -/
inductive Label where
  | arrive (frame : Frame)
  /-- The loop receives; a stream control frame may be consumed. -/
  | receive (consumed : Bool)
  | resume (failed : Bool)
  /-- The time that `_stop` gives the agent is over; its task is cancelled. -/
  | expire
  | take (name : String) (priority : Bool)
  /-- The handler makes a request of an agent here, or of another process. -/
  | ask (name : String) (recipient : Option String)
  | answer (name : String) (address : Nat)
  /-- The time of a request is over. -/
  | lapse (name : String) (address : Nat)
  /-- The handler returns. -/
  | finish (name : String)
  /-- The handler raises, runs out of time or is cancelled. -/
  | fail (name : String) (stops : Bool)
  /-- A replier of the same process publishes. -/
  | localReply (address : Nat)
  /-- The agent is started again by its supervisor. -/
  | revive (name : String)
deriving DecidableEq

/--
Whether a frame can come to the socket.  A request of the process comes once;
a reply comes from the other process, or when an agent here has been handed
the request, which it may pass on to another process.
-/
def State.possible (s : State) : Frame → Bool
  | .reply address =>
      address < s.issued ∧
        ((s.requests address).recipient = none ∨
          (s.requests address).taken = true ∧ s.holds address = false)
  | .message name message =>
      message.request.all fun address =>
        address < s.issued ∧ (s.requests address).recipient = some name ∧
          (s.requests address).taken = false ∧
          address ∉ s.socket.filterMap Frame.carried
  | _ => true

/-- A step of the handler of an agent. -/
def State.handlerStep
    (s : State) (name : String) (agent : Agent) (awaited : List Nat) :
    Label → Option State
  | .ask _ recipient =>
      some
        { (s.setRequest s.issued
              { owner := name
                recipient := recipient
                listed := true }).setAgent
            name { agent with phase := .handling (s.issued :: awaited) } with
          issued := s.issued + 1 }
  | .answer _ address =>
      if address ∈ awaited ∧ (s.requests address).item = true then
        some ((s.unlist address).setAgent name
          { agent with phase := .handling (awaited.filter (· ≠ address)) })
      else none
  | .lapse _ address =>
      if address ∈ awaited then
        some ((s.unlist address).setAgent name
          { agent with phase := .handling (awaited.filter (· ≠ address)) })
      else none
  | .finish _ =>
      if awaited = [] then
        some (s.setAgent name { agent with phase := .waiting })
      else none
  | .fail _ stops =>
      some ((s.unlistAll awaited).setAgent name
        { agent with phase := if stops then .stopped else .waiting })
  | _ => none

/-- The handler of the agent makes a step. -/
def State.handle (s : State) (name : String) (label : Label) :
    Option State :=
  (s.agents name).bind fun agent =>
    match agent.phase with
    | .handling awaited => s.handlerStep name agent awaited label
    | _ => none

/-- One step of the receiving process. -/
def step (s : State) : Label → Option State
  | .arrive frame =>
      if s.possible frame then some { s with socket := s.socket ++ [frame] }
      else none
  | .receive consumed =>
      match s.loop, s.socket with
      | .receiving, frame :: rest =>
          some (({ s with socket := rest }.accept frame).round frame consumed)
      | _, _ => none
  | .resume failed => s.resume failed
  | .expire =>
      match s.loop with
      | .stopping name true =>
          (s.agents name).map fun agent =>
            (s.unlistAll agent.awaited).setAgent name
              { agent with phase := .stopped }
      | _ => none
  | .take name priority =>
      (s.agents name).bind fun agent =>
        (agent.take priority).map fun taken =>
          s.setAgent name
            { taken.2 with
              phase := if taken.1.shutdown then .stopped else .handling [] }
  | .localReply address =>
      let request := s.requests address
      if request.listed ∧ request.taken ∧ s.holds address = false ∧
          request.item = false then
        some (s.setRequest address { request with item := true })
      else none
  | .revive name =>
      (s.agents name).bind fun agent =>
        if agent.phase = .stopped ∧ s.engaged name = false then
          some (s.setAgent name { agent with phase := .waiting })
        else none
  | .ask name recipient => s.handle name (.ask name recipient)
  | .answer name address => s.handle name (.answer name address)
  | .lapse name address => s.handle name (.lapse name address)
  | .finish name => s.handle name (.finish name)
  | .fail name stops => s.handle name (.fail name stops)

/-! ## Deadlock -/

/-- The loop waits until the agent makes room, or until it has stopped. -/
def State.blockedOn (s : State) (name : String) : Bool :=
  match s.agents name with
  | none => false
  | some agent =>
      match s.loop with
      | .putting target message => target = name ∧ agent.full message
      | .stopping target _ => target = name ∧ agent.phase ≠ .stopped
      | _ => false

/-- The handler of the agent waits for the reply to the request. -/
def State.awaits (s : State) (name : String) (address : Nat) : Bool :=
  match s.agents name with
  | none => false
  | some agent =>
      address ∈ agent.awaited ∧ (s.requests address).item = false

/--
The reply to the request, or the request itself, is in the socket, or is the
frame that the loop is at.
-/
def State.withholds (s : State) (address : Nat) : Bool :=
  decide (.reply address ∈ s.socket) ||
    decide (address ∈ s.socket.filterMap Frame.carried) || s.holds address

/-- The loop is blocked on the agent, whose handler waits for the reply. -/
structure StuckAt (s : State) (name : String) (address : Nat) : Prop where
  blocked : s.blockedOn name = true
  awaits : s.awaits name address = true
  withheld : s.withholds address = true

/--
The loop is blocked on the agent, whose handler waits for a reply that cannot
come before the loop goes on.
-/
def Stuck (s : State) (name : String) : Prop :=
  ∃ address, StuckAt s name address

/-- A request of the agent is unanswered. -/
def State.exposed (s : State) (name : String) : Bool :=
  match s.agents name with
  | none => false
  | some agent =>
      agent.awaited.any fun address => !(s.requests address).item

/--
The agent that the loop would wait for at the frame: its lane is full, or it
has to stop for a restart.
-/
def State.obstacle (s : State) (frame : Frame) (consumed : Bool) :
    Option String :=
  match frame with
  | .message name message =>
      (s.agents name).bind fun agent =>
        if consumed = false ∧ agent.full message then some name else none
  | .restart name =>
      (s.agents name).bind fun agent =>
        if agent.restarts < s.maxRestarts ∧ agent.phase ≠ .stopped
        then some name else none
  | _ => none

/--
The loop takes a message for an agent whose lane is full, or a restart command
that it has to stop the agent for, only when no request of the agent is
unanswered; and an agent that the loop is blocked on makes no request.
-/
def orderly (s : State) : Label → Prop
  | .receive consumed =>
      ∀ frame ∈ s.socket.head?, ∀ name ∈ s.obstacle frame consumed,
        s.exposed name = false
  | .ask name _ => s.blockedOn name = false
  | _ => True

instance (s : State) (label : Label) : Decidable (orderly s label) := by
  unfold orderly
  split <;> infer_instance

variable {s t : State} {name : String} {label : Label}

/-! ## Requests and agents under a step -/

@[simp]
theorem setAgent_self (s : State) (name : String) (agent : Agent) :
    (s.setAgent name agent).agents name = some agent := by
  simp [State.setAgent]

@[simp]
theorem setAgent_requests (s : State) (name : String) (agent : Agent) :
    (s.setAgent name agent).requests = s.requests :=
  rfl

theorem setAgent_other
    (s : State) {name other : String} (agent : Agent)
    (different : other ≠ name) :
    (s.setAgent name agent).agents other = s.agents other := by
  simp [State.setAgent, different]

theorem unlist_requests
    (s : State) {address other : Nat} (different : other ≠ address) :
    (s.unlist address).requests other = s.requests other := by
  simp [State.unlist, State.setRequest, different]

/-- Only the requests in the list are touched. -/
theorem unlistAll_frame (addresses : List Nat) (s : State) :
    (s.unlistAll addresses).agents = s.agents ∧
      (s.unlistAll addresses).loop = s.loop ∧
      (s.unlistAll addresses).socket = s.socket ∧
      (s.unlistAll addresses).issued = s.issued ∧
      ∀ other ∉ addresses,
        (s.unlistAll addresses).requests other = s.requests other := by
  induction addresses generalizing s with
  | nil => exact ⟨rfl, rfl, rfl, rfl, fun _ _ => rfl⟩
  | cons address rest ih =>
      rcases ih (s.unlist address) with
        ⟨agents, loop, socket, issued, requests⟩
      refine ⟨agents, loop, socket, issued, ?_⟩
      intro other outside
      have apart : other ≠ address ∧ other ∉ rest := by
        simpa using outside
      exact (requests other apart.2).trans (unlist_requests s apart.1)

theorem unlistAll_setAgent
    (s : State) (addresses : List Nat) (name : String) (agent : Agent) :
    ((s.unlistAll addresses).setAgent name agent).agents =
      update s.agents name (some agent) := by
  simp only [State.setAgent, (unlistAll_frame addresses s).1]

@[simp]
theorem enqueue_awaited (agent : Agent) (message : Message) :
    (agent.enqueue message).awaited = agent.awaited := by
  unfold Agent.enqueue
  split <;> rfl

@[simp]
theorem enqueue_phase (agent : Agent) (message : Message) :
    (agent.enqueue message).phase = agent.phase := by
  unfold Agent.enqueue
  split <;> rfl

/--
Whatever a handler awaits after the step it awaited before, and a reply that
had come has not gone.
-/
def Keeps (s t : State) : Prop :=
  ∀ name agent, t.agents name = some agent → ∀ address ∈ agent.awaited,
    ∃ before, s.agents name = some before ∧ address ∈ before.awaited ∧
      (t.requests address).owner = (s.requests address).owner ∧
      ((s.requests address).item = true → (t.requests address).item = true)

theorem Keeps.of_same
    (agents : t.agents = s.agents) (requests : t.requests = s.requests) :
    Keeps s t := by
  intro name agent found address awaited
  rw [requests]
  exact ⟨agent, agents ▸ found, awaited, rfl, id⟩

theorem Keeps.trans {u : State} (first : Keeps s t) (second : Keeps t u) :
    Keeps s u := by
  intro name agent found address awaited
  rcases second name agent found address awaited with
    ⟨middle, found, awaited, owner, item⟩
  rcases first name middle found address awaited with
    ⟨before, found, awaited, owner₀, item₀⟩
  exact ⟨before, found, awaited, owner.trans owner₀,
    fun some => item (item₀ some)⟩

/-- An agent changes and awaits nothing new. -/
theorem Keeps.setAgent
    {agent after : Agent} (found : s.agents name = some agent)
    (fewer : ∀ address ∈ after.awaited, address ∈ agent.awaited) :
    Keeps s (s.setAgent name after) := by
  intro other state present address awaited
  by_cases same : other = name
  · subst same
    rw [setAgent_self] at present
    cases present
    exact ⟨agent, found, fewer address awaited, rfl, id⟩
  · rw [setAgent_other s after same] at present
    exact ⟨state, present, awaited, rfl, id⟩

/-- A reply comes to a request. -/
theorem Keeps.item (s : State) (address : Nat) :
    Keeps s (s.setRequest address
      { s.requests address with item := true }) := by
  intro name agent found other awaited
  refine ⟨agent, found, awaited, ?_⟩
  by_cases same : other = address
  · subst same
    simp [State.setRequest]
  · simp [State.setRequest, same]

/-- The loop takes a frame. -/
theorem Keeps.accept (s : State) (frame : Frame) :
    Keeps s (s.accept frame) := by
  unfold State.accept
  cases frame.carried with
  | none => exact .of_same rfl rfl
  | some taken =>
      intro name agent found other awaited
      refine ⟨agent, found, awaited, ?_⟩
      by_cases same : other = taken
      · subst same
        simp [State.setRequest]
      · simp [State.setRequest, same]

/-- Every request that a handler awaits has been made by its agent. -/
def Owned (s : State) : Prop :=
  ∀ name agent, s.agents name = some agent → ∀ address ∈ agent.awaited,
    address < s.issued ∧ (s.requests address).owner = name

/-- The agent gives up requests of its own. -/
theorem Keeps.release
    (owned : Owned s) {agent after : Agent} {gone : List Nat}
    (found : s.agents name = some agent)
    (own : ∀ address ∈ gone, address ∈ agent.awaited)
    (rest : ∀ address ∈ after.awaited,
      address ∈ agent.awaited ∧ address ∉ gone) :
    Keeps s ((s.unlistAll gone).setAgent name after) := by
  rcases unlistAll_frame gone s with ⟨agents, _, _, _, requests⟩
  intro other state present address awaited
  by_cases same : other = name
  · subst same
    rw [setAgent_self] at present
    cases present
    rcases rest address awaited with ⟨mine, kept⟩
    rw [setAgent_requests, requests address kept]
    exact ⟨agent, found, mine, rfl, id⟩
  · rw [setAgent_other _ after same, agents] at present
    have kept : address ∉ gone := by
      intro dropped
      have mine := (owned name agent found address (own address dropped)).2
      have theirs := (owned other state present address awaited).2
      exact same (theirs.symm.trans mine)
    rw [setAgent_requests, requests address kept]
    exact ⟨state, present, awaited, rfl, id⟩

theorem awaited_of_handling
    {agent : Agent} {awaited : List Nat}
    (handling : agent.phase = .handling awaited) :
    agent.awaited = awaited := by
  unfold Agent.awaited
  rw [handling]

theorem unlist_eq (s : State) (address : Nat) :
    s.unlist address = s.unlistAll [address] :=
  rfl

/-- The handler is done with one request. -/
theorem Keeps.forget
    (owned : Owned s) {agent : Agent} {awaited : List Nat} {address : Nat}
    (found : s.agents name = some agent)
    (handling : agent.phase = .handling awaited)
    (member : address ∈ awaited) :
    Keeps s ((s.unlist address).setAgent name
      { agent with phase := .handling (awaited.filter (· ≠ address)) }) := by
  have mine := awaited_of_handling handling
  rw [unlist_eq]
  refine Keeps.release owned found ?_ ?_
  · intro other gone
    rw [mine, List.mem_singleton.mp gone]
    exact member
  · intro other left
    have left : other ∈ awaited.filter (· ≠ address) := left
    have parts := List.mem_filter.mp left
    rw [mine]
    refine ⟨parts.1, fun gone => ?_⟩
    simpa [List.mem_singleton.mp gone] using parts.2

theorem Keeps.beginStop
    {agent : Agent} (found : s.agents name = some agent) :
    Keeps s (s.beginStop name agent) := by
  unfold State.beginStop
  split
  · exact .of_same rfl rfl
  · have enqueued :
        Keeps s (s.setAgent name (agent.enqueue shutdownMessage)) :=
      .setAgent found (fun address => by rw [enqueue_awaited]; exact id)
    exact enqueued.trans (.of_same rfl rfl)

theorem Keeps.deliver
    {agent : Agent} (found : s.agents name = some agent)
    (message : Message) : Keeps s (s.deliver name agent message) := by
  unfold State.deliver
  split
  · exact .of_same rfl rfl
  · exact .setAgent found (fun address => by rw [enqueue_awaited]; exact id)

theorem Keeps.restart
    {agent : Agent} (found : s.agents name = some agent) :
    Keeps s (s.restart name agent) := by
  unfold State.restart
  split
  · exact .of_same rfl rfl
  · split
    · exact .of_same rfl rfl
    · exact .beginStop found

theorem Keeps.reply (s : State) (address : Nat) :
    Keeps s (s.reply address) := by
  simp only [State.reply]
  split
  · split
    · exact .of_same rfl rfl
    · exact .item s address
  · exact .of_same rfl rfl

/-- The round for one frame takes no request away. -/
theorem Keeps.round (s : State) (frame : Frame) (consumed : Bool) :
    Keeps s (s.round frame consumed) := by
  cases frame with
  | message name message =>
      simp only [State.round]
      split
      · exact .of_same rfl rfl
      · rename_i agent found
        split
        · exact .of_same rfl rfl
        · exact .deliver found message
  | reply address => exact .reply s address
  | restart name =>
      simp only [State.round]
      split
      · exact .of_same rfl rfl
      · rename_i agent found
        exact .restart found
  | other => exact .of_same rfl rfl

theorem Keeps.resume
    {failed : Bool} (resumed : s.resume failed = some t) : Keeps s t := by
  unfold State.resume at resumed
  split at resumed
  · cases resumed
  · rcases Option.bind_eq_some_iff.mp resumed with ⟨agent, found, next⟩
    split at next
    · cases next
    · cases next
      rename_i name message _ _
      have enqueued : Keeps s (s.setAgent name (agent.enqueue message)) :=
        .setAgent found (fun address => by rw [enqueue_awaited]; exact id)
      exact enqueued.trans (.of_same rfl rfl)
  · simp only at resumed
    split at resumed
    · cases resumed
    · cases resumed
      exact (Keeps.item s _).trans (.of_same rfl rfl)
  · rcases Option.bind_eq_some_iff.mp resumed with ⟨agent, found, next⟩
    split at next
    · cases next
    · cases next
      exact .beginStop found
  · rcases Option.bind_eq_some_iff.mp resumed with ⟨agent, found, next⟩
    split at next
    · cases next
      exact .of_same rfl rfl
    · cases next
  · rcases Option.map_eq_some_iff.mp resumed with ⟨agent, found, next⟩
    split at next
    · cases next
      exact .of_same rfl rfl
    · cases next
      rename_i name _ _
      have started : Keeps s (s.setAgent name
          { agent with
            phase := .waiting, restarts := agent.restarts + 1 }) :=
        .setAgent found (by rintro _ ⟨⟩)
      exact started.trans (.of_same rfl rfl)

/-! ## The step of a handler -/

/-- What a step of a handler does, with the guards that it passed. -/
theorem handle_cases
    (handled : s.handle name label = some t) :
    ∃ agent awaited, s.agents name = some agent ∧
      agent.phase = .handling awaited ∧
      s.handlerStep name agent awaited label = some t := by
  rcases Option.bind_eq_some_iff.mp handled with ⟨agent, found, next⟩
  split at next
  · rename_i awaited handling
    exact ⟨agent, awaited, found, handling, next⟩
  · cases next

theorem Keeps.handle
    (owned : Owned s) (handled : s.handle name label = some t)
    (silent : ∀ other recipient, label ≠ .ask other recipient) : Keeps s t := by
  rcases handle_cases handled with
    ⟨agent, awaited, found, handling, next⟩
  have mine := awaited_of_handling handling
  unfold State.handlerStep at next
  split at next
  · exact absurd rfl (silent _ _)
  · split at next
    · rename_i guard
      cases next
      exact .forget owned found handling guard.1
    · cases next
  · split at next
    · rename_i member
      cases next
      exact .forget owned found handling member
    · cases next
  · split at next
    · cases next
      exact .setAgent found (by rintro _ ⟨⟩)
    · cases next
  · rename_i stops
    cases next
    refine .release owned found (fun address member => mine ▸ member) ?_
    intro address member
    cases stops <;> cases member
  · cases next

theorem Keeps.step
    (owned : Owned s) (stepped : step s label = some t)
    (silent : ∀ other recipient, label ≠ .ask other recipient) : Keeps s t := by
  cases label with
  | arrive frame =>
      simp only [ReceivePath.step] at stepped
      split at stepped
      · cases stepped
        exact .of_same rfl rfl
      · cases stepped
  | receive consumed =>
      simp only [ReceivePath.step] at stepped
      split at stepped
      · rename_i frame rest _ _
        cases stepped
        exact ((Keeps.of_same rfl rfl :
          Keeps s { s with socket := rest }).trans (.accept _ frame)).trans
          (.round _ frame consumed)
      · cases stepped
  | resume failed => exact .resume stepped
  | expire =>
      simp only [ReceivePath.step] at stepped
      split at stepped
      · rcases Option.map_eq_some_iff.mp stepped with ⟨agent, found, rfl⟩
        exact .release owned found (fun address member => member)
          (fun address member => by cases member)
      · cases stepped
  | take name priority =>
      rcases Option.bind_eq_some_iff.mp stepped with ⟨agent, found, next⟩
      rcases Option.map_eq_some_iff.mp next with ⟨taken, _, rfl⟩
      refine .setAgent found (fun address member => ?_)
      unfold Agent.awaited at member
      simp only at member
      split at member <;> rename_i shape
      · split at shape
        · cases shape
        · cases shape
          cases member
      · cases member
  | localReply address =>
      simp only [ReceivePath.step] at stepped
      split at stepped
      · cases stepped
        exact .item s address
      · cases stepped
  | revive name =>
      rcases Option.bind_eq_some_iff.mp stepped with ⟨agent, found, next⟩
      split at next
      · cases next
        exact .setAgent found (by rintro _ ⟨⟩)
      · cases next
  | ask name recipient => exact absurd rfl (silent name recipient)
  | answer name address => exact .handle owned stepped silent
  | lapse name address => exact .handle owned stepped silent
  | finish name => exact .handle owned stepped silent
  | fail name stops => exact .handle owned stepped silent

/-! ## What the loop is blocked on -/

theorem blockedOn_iff :
    s.blockedOn name = true ↔
      ∃ agent, s.agents name = some agent ∧
        ((∃ message, s.loop = .putting name message ∧
            agent.full message = true) ∨
          ∃ queued, s.loop = .stopping name queued ∧
            agent.phase ≠ .stopped) := by
  unfold State.blockedOn
  cases found : s.agents name with
  | none => simp
  | some agent =>
      cases place : s.loop with
      | receiving => simp
      | putting target message =>
          simp only [decide_eq_true_eq, Option.some.injEq, exists_eq_left',
            Loop.putting.injEq, reduceCtorEq, false_and, exists_false,
            or_false]
          constructor
          · rintro ⟨rfl, full⟩
            exact ⟨message, ⟨rfl, rfl⟩, full⟩
          · rintro ⟨_, ⟨rfl, rfl⟩, full⟩
            exact ⟨rfl, full⟩
      | replying address => simp
      | stopping target queued => simp
      | starting target => simp

/-- With the loop in its place, an agent that moves on blocks it no more. -/
theorem blockedOn_of_after
    (place : t.loop = s.loop)
    (agents : ∀ after, t.agents name = some after →
      ∃ before, s.agents name = some before ∧
        (∀ message, after.full message = true →
          before.full message = true) ∧
        (s.engaged name = true → after.phase ≠ .stopped →
          before.phase ≠ .stopped))
    (blocked : t.blockedOn name = true) : s.blockedOn name = true := by
  rw [blockedOn_iff] at blocked ⊢
  rcases blocked with ⟨after, present, why⟩
  rcases agents after present with ⟨before, found, full, phase⟩
  refine ⟨before, found, ?_⟩
  rcases why with ⟨message, putting, filled⟩ | ⟨queued, stopping, going⟩
  · exact .inl ⟨message, place ▸ putting, full message filled⟩
  · have stopping : s.loop = .stopping name queued := place ▸ stopping
    refine .inr ⟨queued, stopping, phase ?_ going⟩
    simp [State.engaged, stopping]

/-- One agent moves on and the loop stays where it is. -/
theorem blockedOn_of_update
    {target : String} {agent after : Agent}
    (blocked : t.blockedOn name = true)
    (agents : t.agents = update s.agents target (some after))
    (place : t.loop = s.loop) (found : s.agents target = some agent)
    (full : ∀ message, after.full message = true →
      agent.full message = true)
    (phase : s.engaged target = true → after.phase ≠ .stopped →
      agent.phase ≠ .stopped) :
    s.blockedOn name = true := by
  refine blockedOn_of_after place ?_ blocked
  intro state present
  rw [agents] at present
  by_cases same : name = target
  · subst same
    rw [Function.update_self] at present
    cases present
    exact ⟨agent, found, full, phase⟩
  · rw [Function.update_of_ne same] at present
    exact ⟨state, present, fun _ => id, fun _ => id⟩

theorem full_of_take
    {agent : Agent} {priority : Bool} {taken : Message × Agent}
    (took : agent.take priority = some taken) (message : Message)
    (full : taken.2.full message = true) : agent.full message = true := by
  unfold Agent.take at took
  split at took
  · rename_i rest _ _ lane
    cases took
    unfold Agent.full at full ⊢
    split
    · rename_i urgent
      rw [if_pos urgent] at full
      simp only [ne_eq, decide_eq_true_eq, lane, List.length_cons] at full ⊢
      exact ⟨full.1, by omega⟩
    · rename_i ordinary
      rw [if_neg ordinary] at full
      exact full
  · rename_i lane
    cases took
    unfold Agent.full at full ⊢
    split
    · rename_i urgent
      rw [if_pos urgent] at full
      exact full
    · rename_i ordinary
      rw [if_neg ordinary] at full
      simp only [ne_eq, decide_eq_true_eq, lane, List.length_cons] at full ⊢
      exact ⟨full.1, by omega⟩
  · cases took

theorem waiting_of_take
    {agent : Agent} {priority : Bool} {taken : Message × Agent}
    (took : agent.take priority = some taken) :
    agent.phase = .waiting := by
  unfold Agent.take at took
  split at took
  · rename_i waiting _ _
    assumption
  · rename_i waiting _ _
    assumption
  · cases took

theorem blockedOn_of_handle
    {target : String}
    (handled : s.handle target label = some t)
    (blocked : t.blockedOn name = true) : s.blockedOn name = true := by
  rcases handle_cases handled with
    ⟨agent, awaited, found, handling, next⟩
  have going : agent.phase ≠ .stopped := by
    rw [handling]
    simp
  unfold State.handlerStep at next
  split at next
  · cases next
    exact blockedOn_of_update blocked rfl rfl found (fun _ => id)
      (fun _ _ => going)
  · split at next
    · cases next
      exact blockedOn_of_update blocked rfl rfl found (fun _ => id)
        (fun _ _ => going)
    · cases next
  · split at next
    · cases next
      exact blockedOn_of_update blocked rfl rfl found (fun _ => id)
        (fun _ _ => going)
    · cases next
  · split at next
    · cases next
      exact blockedOn_of_update blocked rfl rfl found (fun _ => id)
        (fun _ _ => going)
    · cases next
  · cases next
    have frame := unlistAll_frame awaited s
    exact blockedOn_of_update blocked (unlistAll_setAgent _ _ _ _) frame.2.1
      found (fun _ => id) (fun _ _ => going)
  · cases next

theorem blockedOn_of_beginStop
    {target : String} {agent : Agent}
    (found : s.agents target = some agent)
    (blocked : (s.beginStop target agent).blockedOn name = true) :
    target = name ∧ agent.phase ≠ .stopped := by
  rw [blockedOn_iff] at blocked
  rcases blocked with ⟨after, present, why⟩
  unfold State.beginStop at present why
  split at why
  · rename_i full
    rw [if_pos full] at present
    rcases why with ⟨message, putting, _⟩ | ⟨queued, stopping, going⟩
    · cases putting
    · cases stopping
      have same : agent = after :=
        Option.some.inj (found.symm.trans present)
      exact ⟨rfl, same ▸ going⟩
  · rename_i room
    rw [if_neg room] at present
    rcases why with ⟨message, putting, _⟩ | ⟨queued, stopping, going⟩
    · cases putting
    · cases stopping
      simp only [setAgent_self, Option.some.injEq] at present
      rw [← present, enqueue_phase] at going
      exact ⟨rfl, going⟩

theorem not_blockedOn_of_place
    (putting : ∀ message, s.loop ≠ .putting name message)
    (stopping : ∀ queued, s.loop ≠ .stopping name queued) :
    s.blockedOn name ≠ true := by
  intro blocked
  rw [blockedOn_iff] at blocked
  rcases blocked with
    ⟨agent, _, ⟨message, place, _⟩ | ⟨queued, place, _⟩⟩
  · exact putting message place
  · exact stopping queued place

theorem blockedOn_of_resume
    {failed : Bool} (resumed : s.resume failed = some t)
    (blocked : t.blockedOn name = true) : s.blockedOn name = true := by
  unfold State.resume at resumed
  split at resumed
  · cases resumed
  · rcases Option.bind_eq_some_iff.mp resumed with ⟨agent, found, next⟩
    split at next
    · cases next
    · cases next
      exact absurd blocked (not_blockedOn_of_place (by simp) (by simp))
  · simp only at resumed
    split at resumed
    · cases resumed
    · cases resumed
      exact absurd blocked (not_blockedOn_of_place (by simp) (by simp))
  · rename_i target place
    rcases Option.bind_eq_some_iff.mp resumed with ⟨agent, found, next⟩
    split at next
    · cases next
    · cases next
      rcases blockedOn_of_beginStop found blocked with ⟨rfl, going⟩
      exact blockedOn_iff.mpr
        ⟨agent, found, .inr ⟨false, place, going⟩⟩
  · rcases Option.bind_eq_some_iff.mp resumed with ⟨agent, found, next⟩
    split at next
    · cases next
      exact absurd blocked (not_blockedOn_of_place (by simp) (by simp))
    · cases next
  · rcases Option.map_eq_some_iff.mp resumed with ⟨agent, found, next⟩
    split at next
    · cases next
      exact absurd blocked (not_blockedOn_of_place (by simp) (by simp))
    · cases next
      exact absurd blocked (not_blockedOn_of_place (by simp) (by simp))

/-- A frame that blocks the loop names the agent. -/
theorem obstacle_of_round
    {frame : Frame} {consumed : Bool} (free : s.loop = .receiving)
    (blocked : (s.round frame consumed).blockedOn name = true) :
    name ∈ s.obstacle frame consumed := by
  have clear : s.blockedOn name ≠ true :=
    not_blockedOn_of_place (by rw [free]; simp)
      (by rw [free]; simp)
  cases frame with
  | message target message =>
      simp only [State.round] at blocked
      split at blocked
      · exact absurd blocked clear
      · rename_i agent found
        split at blocked
        · exact absurd blocked clear
        · rename_i passed
          unfold State.deliver at blocked
          split at blocked
          · rename_i full
            rw [blockedOn_iff] at blocked
            rcases blocked with
              ⟨_, _, ⟨_, place, _⟩ | ⟨_, place, _⟩⟩
            · cases place
              simp [State.obstacle, found, full, passed]
            · cases place
          · refine absurd blocked (not_blockedOn_of_place ?_ ?_)
            · intro other place
              cases free.symm.trans place
            · intro queued place
              cases free.symm.trans place
  | reply address =>
      simp only [State.round, State.reply] at blocked
      split at blocked
      · split at blocked
        · exact absurd blocked (not_blockedOn_of_place (by simp) (by simp))
        · refine absurd blocked (not_blockedOn_of_place ?_ ?_)
          · intro other place
            cases free.symm.trans place
          · intro queued place
            cases free.symm.trans place
      · exact absurd blocked clear
  | restart target =>
      simp only [State.round] at blocked
      split at blocked
      · exact absurd blocked clear
      · rename_i agent found
        unfold State.restart at blocked
        split at blocked
        · exact absurd blocked clear
        · rename_i few
          split at blocked
          · exact absurd blocked (not_blockedOn_of_place (by simp) (by simp))
          · rename_i going
            rcases blockedOn_of_beginStop found blocked with ⟨rfl, _⟩
            simp [State.obstacle, found, going, Nat.lt_of_not_le few]
  | other => exact absurd blocked clear

theorem obstacle_accept (s : State) (rest : List Frame) (taken frame : Frame)
    (consumed : Bool) :
    (({ s with socket := rest } : State).accept taken).obstacle frame consumed =
      s.obstacle frame consumed := by
  unfold State.accept State.obstacle
  cases taken.carried <;> rfl

/-- Only a frame that the loop takes can block it. -/
theorem blockedOn_of_step
    (stepped : step s label = some t)
    (other : ∀ consumed, label ≠ .receive consumed)
    (blocked : t.blockedOn name = true) : s.blockedOn name = true := by
  cases label with
  | arrive frame =>
      simp only [step] at stepped
      split at stepped
      · cases stepped
        exact blocked
      · cases stepped
  | receive consumed => exact absurd rfl (other consumed)
  | resume failed => exact blockedOn_of_resume stepped blocked
  | expire =>
      simp only [step] at stepped
      split at stepped
      · rcases Option.map_eq_some_iff.mp stepped with ⟨agent, found, rfl⟩
        have frame := unlistAll_frame agent.awaited s
        exact blockedOn_of_update blocked (unlistAll_setAgent _ _ _ _) frame.2.1
          found (fun _ => id) (fun _ going => absurd rfl going)
      · cases stepped
  | take target priority =>
      rcases Option.bind_eq_some_iff.mp stepped with ⟨agent, found, next⟩
      rcases Option.map_eq_some_iff.mp next with ⟨taken, took, rfl⟩
      refine blockedOn_of_update blocked rfl rfl found ?_ ?_
      · exact full_of_take took
      · intro _ _
        rw [waiting_of_take took]
        simp
  | localReply address =>
      simp only [step] at stepped
      split at stepped
      · cases stepped
        exact blocked
      · cases stepped
  | revive target =>
      rcases Option.bind_eq_some_iff.mp stepped with ⟨agent, found, next⟩
      split at next
      · rename_i guard
        cases next
        refine blockedOn_of_update blocked rfl rfl found (fun _ => id) ?_
        intro engaged
        rw [guard.2] at engaged
        cases engaged
      · cases next
  | ask target recipient => exact blockedOn_of_handle stepped blocked
  | answer target address => exact blockedOn_of_handle stepped blocked
  | lapse target address => exact blockedOn_of_handle stepped blocked
  | finish target => exact blockedOn_of_handle stepped blocked
  | fail target stops => exact blockedOn_of_handle stepped blocked

/-! ## The number of requests under a step -/

theorem accept_issued (s : State) (frame : Frame) :
    (s.accept frame).issued = s.issued := by
  unfold State.accept
  cases frame.carried <;> rfl

@[simp]
theorem accept_loop (s : State) (frame : Frame) :
    (s.accept frame).loop = s.loop := by
  unfold State.accept
  cases frame.carried <;> rfl

theorem round_issued (s : State) (frame : Frame) (consumed : Bool) :
    (s.round frame consumed).issued = s.issued := by
  cases frame with
  | message name message =>
      simp only [State.round]
      split
      · rfl
      · split
        · rfl
        · unfold State.deliver
          split <;> rfl
  | reply address =>
      simp only [State.round, State.reply]
      split
      · split <;> rfl
      · rfl
  | restart name =>
      simp only [State.round]
      split
      · rfl
      · unfold State.restart State.beginStop
        split
        · rfl
        · split
          · rfl
          · split <;> rfl
  | other => rfl

theorem resume_issued
    {failed : Bool} (resumed : s.resume failed = some t) :
    t.issued = s.issued := by
  unfold State.resume at resumed
  split at resumed
  · cases resumed
  · rcases Option.bind_eq_some_iff.mp resumed with ⟨agent, _, next⟩
    split at next
    · cases next
    · cases next
      rfl
  · simp only at resumed
    split at resumed
    · cases resumed
    · cases resumed
      rfl
  · rcases Option.bind_eq_some_iff.mp resumed with ⟨agent, _, next⟩
    split at next
    · cases next
    · cases next
      unfold State.beginStop
      split <;> rfl
  · rcases Option.bind_eq_some_iff.mp resumed with ⟨agent, _, next⟩
    split at next
    · cases next
      rfl
    · cases next
  · rcases Option.map_eq_some_iff.mp resumed with ⟨agent, _, next⟩
    split at next
    · cases next
      rfl
    · cases next
      rfl

theorem handle_frame
    (handled : s.handle name label = some t) :
    t.socket = s.socket ∧
      ((∀ other recipient, label ≠ .ask other recipient) →
        t.issued = s.issued) := by
  rcases handle_cases handled with ⟨agent, awaited, _, _, next⟩
  unfold State.handlerStep at next
  split at next
  · cases next
    exact ⟨rfl, fun silent => absurd rfl (silent _ _)⟩
  · split at next
    · cases next
      exact ⟨rfl, fun _ => rfl⟩
    · cases next
  · split at next
    · cases next
      exact ⟨rfl, fun _ => rfl⟩
    · cases next
  · split at next
    · cases next
      exact ⟨rfl, fun _ => rfl⟩
    · cases next
  · cases next
    rcases unlistAll_frame awaited s with ⟨_, _, socket, issued, _⟩
    exact ⟨socket, fun _ => issued⟩
  · cases next

/-- Only `ask` makes a request. -/
theorem issued_of_step
    (stepped : step s label = some t)
    (silent : ∀ other recipient, label ≠ .ask other recipient) :
    t.issued = s.issued := by
  cases label with
  | arrive frame =>
      simp only [step] at stepped
      split at stepped
      · cases stepped
        rfl
      · cases stepped
  | receive consumed =>
      simp only [step] at stepped
      split at stepped
      · rename_i frame rest _ _
        cases stepped
        rw [round_issued, accept_issued]
      · cases stepped
  | resume failed => exact resume_issued stepped
  | expire =>
      simp only [step] at stepped
      split at stepped
      · rcases Option.map_eq_some_iff.mp stepped with ⟨agent, _, rfl⟩
        exact (unlistAll_frame agent.awaited s).2.2.2.1
      · cases stepped
  | take name priority =>
      rcases Option.bind_eq_some_iff.mp stepped with ⟨agent, _, next⟩
      rcases Option.map_eq_some_iff.mp next with ⟨taken, _, rfl⟩
      rfl
  | localReply address =>
      simp only [step] at stepped
      split at stepped
      · cases stepped
        rfl
      · cases stepped
  | revive name =>
      rcases Option.bind_eq_some_iff.mp stepped with ⟨agent, _, next⟩
      split at next
      · cases next
        rfl
      · cases next
  | ask name recipient => exact absurd rfl (silent name recipient)
  | answer name address => exact (handle_frame stepped).2 silent
  | lapse name address => exact (handle_frame stepped).2 silent
  | finish name => exact (handle_frame stepped).2 silent
  | fail name stops => exact (handle_frame stepped).2 silent

/-! ## Invariant -/

theorem exposed_iff :
    s.exposed name = true ↔
      ∃ agent, s.agents name = some agent ∧ ∃ address ∈ agent.awaited,
        (s.requests address).item = false := by
  unfold State.exposed
  cases s.agents name with
  | none => simp
  | some agent => simp

theorem awaits_iff {address : Nat} :
    s.awaits name address = true ↔
      ∃ agent, s.agents name = some agent ∧ address ∈ agent.awaited ∧
        (s.requests address).item = false := by
  unfold State.awaits
  cases s.agents name with
  | none => simp
  | some agent => simp

theorem Keeps.exposed
    (keeps : Keeps s t) (after : t.exposed name = true) :
    s.exposed name = true := by
  rw [exposed_iff] at after ⊢
  rcases after with ⟨agent, found, address, awaited, item⟩
  rcases keeps name agent found address awaited with
    ⟨before, found, awaited, _, kept⟩
  refine ⟨before, found, address, awaited, ?_⟩
  cases had : (s.requests address).item with
  | false => rfl
  | true =>
      rw [kept had] at item
      cases item

theorem owned_init
    (sizes : String → Option (Nat × Nat)) (maxRestarts : Nat) :
    Owned (init sizes maxRestarts) := by
  intro name agent found address awaited
  rcases Option.map_eq_some_iff.mp found with ⟨size, _, rfl⟩
  cases awaited

/-- What `ask` does. -/
theorem ask_cases
    {recipient : Option String}
    (stepped : step s (.ask name recipient) = some t) :
    ∃ agent awaited, s.agents name = some agent ∧
      agent.phase = .handling awaited ∧
      t.agents = update s.agents name
        (some { agent with phase := .handling (s.issued :: awaited) }) ∧
      t.requests = update s.requests s.issued
        { owner := name, recipient := recipient, listed := true } ∧
      t.issued = s.issued + 1 ∧ t.socket = s.socket ∧ t.loop = s.loop := by
  rcases handle_cases stepped with ⟨agent, awaited, found, handling, next⟩
  cases next
  exact ⟨agent, awaited, found, handling, rfl, rfl, rfl, rfl, rfl⟩

/-- What is awaited after `ask`: the new request, or what was before. -/
theorem awaited_of_ask
    (owned : Owned s) {recipient : Option String}
    (stepped : step s (.ask name recipient) = some t)
    {target : String} {agent : Agent} (found : t.agents target = some agent)
    {address : Nat} (awaited : address ∈ agent.awaited) :
    target = name ∧ address = s.issued ∨
      (∃ before, s.agents target = some before ∧
        address ∈ before.awaited) ∧
      t.requests address = s.requests address ∧ address < s.issued := by
  rcases ask_cases stepped with
    ⟨asker, list, present, handling, agents, requests, _⟩
  have old : ∀ before, s.agents target = some before →
      address ∈ before.awaited →
      (∃ before, s.agents target = some before ∧
        address ∈ before.awaited) ∧
      t.requests address = s.requests address ∧ address < s.issued := by
    intro before known member
    have less := (owned target before known address member).1
    refine ⟨⟨before, known, member⟩, ?_, less⟩
    rw [requests, Function.update_of_ne (Nat.ne_of_lt less)]
  rw [agents] at found
  by_cases same : target = name
  · subst same
    rw [Function.update_self] at found
    cases found
    rcases List.mem_cons.mp awaited with new | member
    · exact .inl ⟨rfl, new⟩
    · exact .inr (old asker present
        ((awaited_of_handling handling).symm ▸ member))
  · rw [Function.update_of_ne same] at found
    exact .inr (old agent found awaited)

theorem Owned.step
    (owned : Owned s) (stepped : step s label = some t) : Owned t := by
  intro other agent found address awaited
  by_cases asks : ∃ target recipient, label = .ask target recipient
  · rcases asks with ⟨target, recipient, rfl⟩
    rcases ask_cases stepped with ⟨_, _, _, _, _, requests, issued, _⟩
    rcases awaited_of_ask owned stepped found awaited with
      ⟨rfl, rfl⟩ | ⟨⟨before, known, member⟩, same, _⟩
    · rw [issued, requests, Function.update_self]
      exact ⟨Nat.lt_succ_self _, rfl⟩
    · rw [issued, same]
      have was := owned other before known address member
      exact ⟨Nat.lt_succ_of_lt was.1, was.2⟩
  · have silent : ∀ other recipient, label ≠ .ask other recipient :=
      fun other recipient same => asks ⟨other, recipient, same⟩
    rcases Keeps.step owned stepped silent other agent found address
        awaited with ⟨before, known, member, owner, _⟩
    rw [issued_of_step stepped silent, owner]
    exact owned other before known address member

/-- No agent that the loop is blocked on has an unanswered request. -/
structure Clear (s : State) : Prop where
  owned : Owned s
  sheltered : ∀ name, s.blockedOn name = true → s.exposed name = false

theorem exposed_of_ask
    (owned : Owned s) {target : String} {recipient : Option String}
    (stepped : step s (.ask target recipient) = some t)
    (after : t.exposed name = true) :
    s.exposed name = true ∨ name = target := by
  rcases exposed_iff.mp after with ⟨agent, found, address, awaited, item⟩
  rcases awaited_of_ask owned stepped found awaited with
    ⟨same, _⟩ | ⟨⟨before, known, member⟩, request, _⟩
  · exact .inr same
  · rw [request] at item
    exact .inl (exposed_iff.mpr ⟨before, known, address, member, item⟩)

/-- The frame that blocks the loop is one that it was permitted to take. -/
theorem sheltered_of_receive
    {consumed : Bool} (permitted : orderly s (.receive consumed))
    (stepped : step s (.receive consumed) = some t)
    (blocked : t.blockedOn name = true) : s.exposed name = false := by
  simp only [ReceivePath.step] at stepped
  split at stepped
  · rename_i frame rest free socket
    cases stepped
    have obstacle :=
      @obstacle_of_round (({ s with socket := rest } : State).accept frame) name
        frame consumed (by rw [accept_loop]; exact free) blocked
    rw [obstacle_accept] at obstacle
    exact permitted frame (by rw [socket]; rfl) name obstacle
  · cases stepped

theorem Clear.step
    (clear : Clear s) (permitted : orderly s label)
    (stepped : step s label = some t) : Clear t := by
  refine ⟨clear.owned.step stepped, ?_⟩
  intro name blocked
  cases after : t.exposed name with
  | false => rfl
  | true =>
      exfalso
      have sheltered : s.exposed name = false := by
        by_cases receives : ∃ consumed, label = .receive consumed
        · rcases receives with ⟨consumed, rfl⟩
          exact sheltered_of_receive permitted stepped blocked
        · refine clear.sheltered name (blockedOn_of_step stepped ?_ blocked)
          exact fun consumed same => receives ⟨consumed, same⟩
      by_cases asks : ∃ target recipient, label = .ask target recipient
      · rcases asks with ⟨target, recipient, rfl⟩
        rcases exposed_of_ask clear.owned stepped after with before | rfl
        · rw [sheltered] at before
          cases before
        · have earlier := blockedOn_of_step stepped (by simp) blocked
          cases permitted.symm.trans earlier
      · have before := (Keeps.step clear.owned stepped
          (fun other recipient same => asks ⟨other, recipient, same⟩)).exposed
          after
        rw [sheltered] at before
        cases before

theorem clear_init
    (sizes : String → Option (Nat × Nat)) (maxRestarts : Nat) :
    Clear (init sizes maxRestarts) := by
  refine ⟨owned_init sizes maxRestarts, fun name blocked => ?_⟩
  exact
    absurd blocked
      (not_blockedOn_of_place (by rintro _ ⟨⟩) (by rintro _ ⟨⟩))

theorem Clear.not_stuck
    (clear : Clear s) (name : String) : ¬ Stuck s name := by
  rintro ⟨address, blocked, awaits, _⟩
  rcases awaits_iff.mp awaits with ⟨agent, found, awaited, item⟩
  have exposed : s.exposed name = true :=
    exposed_iff.mpr ⟨agent, found, address, awaited, item⟩
  rw [clear.sheltered name blocked] at exposed
  cases exposed

/--
In every run whose steps are orderly, the loop is never blocked on an agent
whose handler waits for a reply that cannot come before the loop goes on.
-/
theorem never_stuck_of_orderly
    (sizes : String → Option (Nat × Nat)) (maxRestarts : Nat)
    (run : Reaches step orderly (init sizes maxRestarts) s)
    (name : String) : ¬ Stuck s name := by
  have clear : Clear s :=
    run.invariant (clear_init sizes maxRestarts)
      fun _ _ _ clear permitted stepped => clear.step permitted stepped
  exact clear.not_stuck name

/-! ## The condition cannot be left out -/

theorem exposed_congr
    {before after : Agent} (found : s.agents name = some before)
    (present : t.agents name = some after)
    (awaited : after.awaited = before.awaited)
    (requests : t.requests = s.requests)
    (exposed : s.exposed name = true) : t.exposed name = true := by
  rw [exposed_iff] at exposed ⊢
  rcases exposed with ⟨agent, known, address, member, abroad⟩
  cases found.symm.trans known
  refine ⟨after, present, address, awaited.symm ▸ member, ?_⟩
  rw [requests]
  exact abroad

theorem exposed_accept (s : State) (rest : List Frame) (taken : Frame) :
    (({ s with socket := rest } : State).accept taken).exposed name =
      s.exposed name := by
  unfold State.accept State.exposed
  cases taken.carried with
  | none => rfl
  | some address =>
      simp only [State.setRequest]
      cases s.agents name with
      | none => rfl
      | some agent =>
          refine congrArg (List.any agent.awaited) (funext fun other => ?_)
          by_cases same : other = address
          · subst same
            simp
          · rw [Function.update_of_ne same]

/-- At an obstacle with an unanswered request the loop blocks on it. -/
theorem blocked_of_obstacle
    {frame : Frame} {consumed : Bool} (exposed : s.exposed name = true)
    (obstacle : name ∈ s.obstacle frame consumed) :
    (s.round frame consumed).blockedOn name = true ∧
      (s.round frame consumed).exposed name = true := by
  cases frame with
  | message target message =>
      rcases Option.bind_eq_some_iff.mp obstacle with ⟨agent, found, here⟩
      split at here
      · rename_i guard
        cases here
        have place : s.round (.message name message) consumed =
            { s with loop := .putting name message } := by
          simp [State.round, found, guard.1, State.deliver, guard.2]
        rw [place]
        refine ⟨blockedOn_iff.mpr
          ⟨agent, found, .inl ⟨message, rfl, guard.2⟩⟩, exposed⟩
      · cases here
  | restart target =>
      rcases Option.bind_eq_some_iff.mp obstacle with ⟨agent, found, here⟩
      split at here
      · rename_i guard
        cases here
        have few : ¬ s.maxRestarts ≤ agent.restarts :=
          Nat.not_le_of_lt guard.1
        have place : s.round (.restart name) consumed =
            s.beginStop name agent := by
          simp [State.round, found, State.restart, few, guard.2]
        rw [place]
        unfold State.beginStop
        split
        · exact ⟨blockedOn_iff.mpr
            ⟨agent, found, .inr ⟨false, rfl, guard.2⟩⟩, exposed⟩
        · have present :
              (s.setAgent name (agent.enqueue shutdownMessage)).agents
                name = some (agent.enqueue shutdownMessage) :=
            setAgent_self _ _ _
          refine ⟨blockedOn_iff.mpr
            ⟨_, present, .inr ⟨true, rfl, ?_⟩⟩, ?_⟩
          · rw [enqueue_phase]
            exact guard.2
          · exact exposed_congr found present (enqueue_awaited _ _) rfl
              exposed
      · cases here
  | reply address => cases obstacle
  | other => cases obstacle

/--
A blocked loop and an unanswered request: the reply, or the request, need only
arrive to be stuck.
-/
theorem reply_gets_stuck
    (owned : Owned s) (blocked : s.blockedOn name = true)
    (exposed : s.exposed name = true) :
    ∃ frame t, step s (.arrive frame) = some t ∧ Stuck t name := by
  rcases exposed_iff.mp exposed with ⟨agent, found, address, awaited, item⟩
  have issued := (owned name agent found address awaited).1
  have awaits : s.awaits name address = true :=
    awaits_iff.mpr ⟨agent, found, awaited, item⟩
  have stuck : ∀ frame, s.possible frame = true →
      ({ s with socket := s.socket ++ [frame] } : State).withholds address =
        true →
      ∃ frame t, step s (.arrive frame) = some t ∧ Stuck t name := by
    intro frame possible withheld
    exact ⟨frame, _, if_pos possible, address, blocked, awaits, withheld⟩
  cases already : s.withholds address with
  | true =>
      refine stuck .other rfl ?_
      simp only [State.withholds, Bool.or_eq_true, decide_eq_true_eq,
        List.filterMap_append, List.mem_append] at already ⊢
      exact already.imp_left fun held => held.imp .inl .inl
  | false =>
      simp only [State.withholds, Bool.or_eq_false_iff,
        decide_eq_false_iff_not] at already
      rcases already with ⟨⟨_, unsent⟩, free⟩
      cases recipient : (s.requests address).recipient with
      | none =>
          refine stuck (.reply address) ?_ (by simp [State.withholds])
          simp [State.possible, issued, recipient]
      | some target =>
          cases taken : (s.requests address).taken with
          | true =>
              refine stuck (.reply address) ?_ (by simp [State.withholds])
              simp [State.possible, issued, taken, free]
          | false =>
              refine stuck (.message target { request := some address }) ?_
                (by simp [State.withholds, Frame.carried])
              simpa [State.possible, issued, recipient, taken] using unsent

/--
After a step that is not orderly, one frame need only arrive for the loop and
the agent to be stuck.
-/
theorem stuck_after_disorder
    (owned : Owned s) (disorder : ¬ orderly s label)
    (stepped : step s label = some t) :
    ∃ name frame u, step t (.arrive frame) = some u ∧ Stuck u name := by
  have after := owned.step stepped
  cases label with
  | receive consumed =>
      simp only [orderly, not_forall] at disorder
      rcases disorder with ⟨frame, head, name, obstacle, open_⟩
      have exposed : s.exposed name = true := by
        simpa using open_
      simp only [step] at stepped
      split at stepped
      · rename_i first rest free socket
        cases stepped
        have same : first = frame := by
          rw [socket] at head
          exact Option.some.inj head
        subst same
        have still :
            (({ s with socket := rest } : State).accept first).exposed name =
              true := by
          rw [exposed_accept]
          exact exposed
        have both := blocked_of_obstacle still
          ((obstacle_accept s rest first first consumed).symm ▸ obstacle)
        exact ⟨name, reply_gets_stuck after both.1 both.2⟩
      · cases stepped
  | ask name recipient =>
      simp only [orderly, Bool.not_eq_false] at disorder
      rcases ask_cases stepped with
        ⟨agent, awaited, found, handling, agents, requests, _, _, place⟩
      have present : t.agents name =
          some { agent with phase := .handling (s.issued :: awaited) } := by
        rw [agents, Function.update_self]
      have exposed : t.exposed name = true := by
        refine exposed_iff.mpr ⟨_, present, s.issued, List.mem_cons_self, ?_⟩
        rw [requests, Function.update_self]
      have blocked : t.blockedOn name = true := by
        rcases blockedOn_iff.mp disorder with ⟨before, known, why⟩
        cases found.symm.trans known
        refine blockedOn_iff.mpr ⟨_, present, ?_⟩
        rw [place]
        rcases why with full | ⟨queued, stopping, _⟩
        · exact .inl full
        · exact .inr ⟨queued, stopping, by simp⟩
      exact ⟨name, reply_gets_stuck after blocked exposed⟩
  | arrive frame => exact absurd trivial disorder
  | resume failed => exact absurd trivial disorder
  | expire => exact absurd trivial disorder
  | take name priority => exact absurd trivial disorder
  | answer name address => exact absurd trivial disorder
  | lapse name address => exact absurd trivial disorder
  | finish name => exact absurd trivial disorder
  | fail name stops => exact absurd trivial disorder
  | localReply address => exact absurd trivial disorder
  | revive name => exact absurd trivial disorder

/-! ## Only a time limit ends a deadlock -/

/-- A time limit that ends a wait of the agent, or of the loop for it. -/
def timesOut (name : String) : Label → Bool
  | .lapse target _ | .fail target _ => target = name
  | .expire => true
  | _ => false

/-- The loop, the handler and the reply stay as they are. -/
theorem stuck_of_frame
    {agent after : Agent} {address : Nat}
    (found : s.agents name = some agent)
    (blocked : s.blockedOn name = true)
    (present : t.agents name = some after)
    (full : ∀ message, agent.full message = true →
      after.full message = true)
    (awaited : address ∈ after.awaited) (place : t.loop = s.loop)
    (item : (t.requests address).item = false)
    (socket : t.socket = s.socket) (withheld : s.withholds address = true) :
    StuckAt t name address := by
  refine ⟨?_, awaits_iff.mpr ⟨after, present, awaited, item⟩, ?_⟩
  case refine_2 =>
    rw [← withheld]
    unfold State.withholds State.holds
    rw [socket, place]
  rcases blockedOn_iff.mp blocked with ⟨before, known, why⟩
  cases found.symm.trans known
  refine blockedOn_iff.mpr ⟨after, present, ?_⟩
  rw [place]
  rcases why with ⟨message, putting, filled⟩ | ⟨queued, stopping, _⟩
  · exact .inl ⟨message, putting, full message filled⟩
  · refine .inr ⟨queued, stopping, fun stopped => ?_⟩
    unfold Agent.awaited at awaited
    rw [stopped] at awaited
    cases awaited

theorem item_unlistAll
    (addresses : List Nat) (s : State) {address : Nat}
    (empty : (s.requests address).item = false) :
    ((s.unlistAll addresses).requests address).item = false := by
  induction addresses generalizing s with
  | nil => exact empty
  | cons first rest ih =>
      refine ih (s.unlist first) ?_
      by_cases same : address = first
      · subst same
        simp [State.unlist, State.setRequest]
      · rw [unlist_requests s same]
        exact empty

/-- What a handler leaves alone: the loop, the socket and empty queues. -/
theorem handle_leaves
    (handled : s.handle name label = some t) :
    t.loop = s.loop ∧
      (∀ other, other ≠ name → t.agents other = s.agents other) ∧
      ∀ address, (s.requests address).item = false →
        (t.requests address).item = false := by
  rcases handle_cases handled with ⟨agent, awaited, found, _, next⟩
  unfold State.handlerStep at next
  split at next
  · cases next
    refine ⟨rfl, fun other => setAgent_other _ _, ?_⟩
    intro address empty
    by_cases same : address = s.issued
    · subst same
      simp [State.setRequest]
    · simpa [State.setRequest, same] using empty
  · split at next
    · cases next
      exact ⟨rfl, fun other => setAgent_other _ _,
        fun address => item_unlistAll [_] s⟩
    · cases next
  · split at next
    · cases next
      exact ⟨rfl, fun other => setAgent_other _ _,
        fun address => item_unlistAll [_] s⟩
    · cases next
  · split at next
    · cases next
      exact ⟨rfl, fun other => setAgent_other _ _, fun _ => id⟩
    · cases next
  · cases next
    have frame := unlistAll_frame awaited s
    refine ⟨frame.2.1, fun other different => ?_,
      fun address => item_unlistAll awaited s⟩
    rw [setAgent_other _ _ different, frame.1]
  · cases next

/-- The handler of the agent goes on waiting, whatever else it does. -/
theorem awaited_of_handle
    {agent : Agent} {address : Nat} (found : s.agents name = some agent)
    (awaited : address ∈ agent.awaited)
    (empty : (s.requests address).item = false)
    (patient : timesOut name label = false)
    (named : ∀ target list, label = .lapse target list → target = name)
    (fails : ∀ target stops, label = .fail target stops → target = name)
    (handled : s.handle name label = some t) :
    ∃ after, t.agents name = some after ∧ address ∈ after.awaited ∧
      ∀ message, agent.full message = true →
        after.full message = true := by
  rcases handle_cases handled with ⟨before, list, known, handling, next⟩
  cases found.symm.trans known
  rw [awaited_of_handling handling] at awaited
  unfold State.handlerStep at next
  split at next
  · cases next
    exact ⟨_, setAgent_self _ _ _, List.mem_cons_of_mem _ awaited,
      fun _ => id⟩
  · split at next
    · rename_i other guard
      cases next
      refine ⟨_, setAgent_self _ _ _, List.mem_filter.mpr ⟨awaited, ?_⟩,
        fun _ => id⟩
      have different : address ≠ other := by
        rintro rfl
        rw [guard.2] at empty
        cases empty
      simpa using different
    · cases next
  · rename_i target other
    have same := named target other rfl
    simp [timesOut, same] at patient
  · split at next
    · rename_i none
      rw [none] at awaited
      cases awaited
    · cases next
  · rename_i target stops
    have same := fails target stops rfl
    simp [timesOut, same] at patient
  · cases next

/-- A deadlock outlasts every step of a handler but a time limit. -/
theorem stuck_of_handle
    {target : String} {address : Nat} (stuck : StuckAt s name address)
    (patient : timesOut name label = false)
    (named : ∀ other list, label = .lapse other list → other = target)
    (fails : ∀ other stops, label = .fail other stops → other = target)
    (handled : s.handle target label = some t) :
    StuckAt t name address := by
  rcases stuck with ⟨blocked, awaits, withheld⟩
  rcases awaits_iff.mp awaits with ⟨agent, found, awaited, empty⟩
  rcases handle_leaves handled with ⟨place, others, items⟩
  have socket := (handle_frame handled).1
  by_cases same : name = target
  · subst same
    rcases awaited_of_handle found awaited empty patient named fails
        handled with ⟨after, present, still, full⟩
    exact stuck_of_frame found blocked present full still place
      (items address empty) socket withheld
  · exact stuck_of_frame found blocked ((others name same).trans found)
      (fun _ => id) awaited place (items address empty) socket withheld

/-- The loop cannot go on past the agent. -/
theorem stuck_of_resume
    {failed : Bool} {address : Nat} (stuck : StuckAt s name address)
    (resumed : s.resume failed = some t) : StuckAt t name address := by
  rcases stuck with ⟨blocked, awaits, withheld⟩
  rcases awaits_iff.mp awaits with ⟨agent, found, awaited, empty⟩
  rcases blockedOn_iff.mp blocked with ⟨before, known, why⟩
  cases found.symm.trans known
  unfold State.resume at resumed
  rcases why with ⟨message, putting, full⟩ | ⟨queued, stopping, going⟩
  · rw [putting] at resumed
    simp [found, full] at resumed
  · rw [stopping] at resumed
    cases queued with
    | true => simp [found, going] at resumed
    | false =>
        simp only [found, Option.bind_some] at resumed
        split at resumed
        · cases resumed
        · rename_i room
          cases resumed
          unfold State.beginStop
          rw [if_neg room]
          refine ⟨blockedOn_iff.mpr
            ⟨_, setAgent_self _ _ _, .inr ⟨true, rfl, ?_⟩⟩,
            awaits_iff.mpr ⟨_, setAgent_self _ _ _, ?_, empty⟩, ?_⟩
          · rw [enqueue_phase]
            exact going
          · rw [enqueue_awaited]
            exact awaited
          · rw [← withheld]
            unfold State.withholds State.holds
            rw [stopping]
            rfl

/--
Once the loop is blocked on an agent that waits for a reply behind the blocked
frame, only a time limit, or the failure of the handler, ends it; or an agent
of the process that has been handed the request, too, answers it.
-/
theorem stuck_until_timeout
    {address : Nat} (stuck : StuckAt s name address)
    (patient : timesOut name label = false)
    (unanswered : label ≠ .localReply address)
    (stepped : step s label = some t) : StuckAt t name address := by
  have whole := stuck
  rcases stuck with ⟨blocked, awaits, withheld⟩
  rcases awaits_iff.mp awaits with ⟨agent, found, awaited, empty⟩
  cases label with
  | arrive frame =>
      simp only [step] at stepped
      split at stepped
      · cases stepped
        refine ⟨blocked, awaits, ?_⟩
        simp only [State.withholds, Bool.or_eq_true, decide_eq_true_eq,
          List.filterMap_append, List.mem_append] at withheld ⊢
        exact withheld.imp_left fun held => held.imp .inl .inl
      · cases stepped
  | receive consumed =>
      simp only [step] at stepped
      split at stepped
      · rename_i free _
        refine absurd blocked (not_blockedOn_of_place ?_ ?_)
        · rw [free]
          simp
        · rw [free]
          simp
      · cases stepped
  | resume failed => exact stuck_of_resume whole stepped
  | expire => cases patient
  | take target priority =>
      rcases Option.bind_eq_some_iff.mp stepped with ⟨taker, known, next⟩
      rcases Option.map_eq_some_iff.mp next with ⟨taken, took, rfl⟩
      have other : name ≠ target := by
        rintro rfl
        cases found.symm.trans known
        have waiting := waiting_of_take took
        unfold Agent.awaited at awaited
        rw [waiting] at awaited
        cases awaited
      exact stuck_of_frame found blocked
        ((setAgent_other s _ other).trans found) (fun _ => id) awaited rfl
        empty rfl withheld
  | localReply answered =>
      simp only [step] at stepped
      split at stepped
      · cases stepped
        have other : address ≠ answered := by
          rintro rfl
          exact unanswered rfl
        refine stuck_of_frame found blocked found (fun _ => id) awaited rfl
          ?_ rfl withheld
        simpa [State.setRequest, other] using empty
      · cases stepped
  | revive target =>
      rcases Option.bind_eq_some_iff.mp stepped with ⟨reviver, known, next⟩
      split at next
      · rename_i guard
        cases next
        have other : name ≠ target := by
          rintro rfl
          cases found.symm.trans known
          unfold Agent.awaited at awaited
          rw [guard.1] at awaited
          cases awaited
        exact stuck_of_frame found blocked
          ((setAgent_other s _ other).trans found) (fun _ => id) awaited rfl
          empty rfl withheld
      · cases next
  | ask target recipient =>
      exact stuck_of_handle whole patient (by simp) (by simp) stepped
  | answer target other =>
      exact stuck_of_handle whole patient (by simp) (by simp) stepped
  | lapse target other =>
      exact stuck_of_handle whole patient
        (fun _ _ same => by cases same; rfl) (by simp) stepped
  | finish target =>
      exact stuck_of_handle whole patient (by simp) (by simp) stepped
  | fail target stops =>
      exact stuck_of_handle whole patient (by simp)
        (fun _ _ same => by cases same; rfl) stepped

/-! ## Runs -/

/-- One agent with room for one message. -/
def oneSlot : String → Option (Nat × Nat) := fun name =>
  if name = "clerk" then some (1, 100) else none

/-- A request answered while the mailbox has room. -/
theorem answered_request_not_stuck :
    ∃ s, Reaches step orderly (init oneSlot 3) s ∧
      (s.requests 0).item = true ∧ ¬ Stuck s "clerk" := by
  have ran :
      ((runWhere step orderly (init oneSlot 3)
        [.arrive (.message "clerk" {}), .receive false, .take "clerk" false,
          .ask "clerk" none, .arrive (.message "clerk" {}), .receive false,
          .arrive (.reply 0), .receive false]).map
        fun s => (s.requests 0).item) = some true := by
    decide +kernel
  rcases exists_reaches_of_run ran with ⟨s, run, seen⟩
  exact ⟨s, run, seen, never_stuck_of_orderly oneSlot 3 run "clerk"⟩

/--
The handler awaits a reply, one message fills the mailbox, the next one blocks
the loop, and the reply comes behind it.
-/
theorem clerk_gets_stuck :
    ¬ ∀ (sizes : String → Option (Nat × Nat)) (maxRestarts : Nat)
        (s : State),
      Reaches step (fun _ _ => True) (init sizes maxRestarts) s →
        ∀ name, ¬ Stuck s name := by
  intro claim
  have ran :
      ((runWhere step (fun _ _ => True) (init oneSlot 3)
        [.arrive (.message "clerk" {}), .receive false, .take "clerk" false,
          .ask "clerk" none, .arrive (.message "clerk" {}), .receive false,
          .arrive (.message "clerk" {}), .receive false,
          .arrive (.reply 0)]).map fun s =>
        decide (s.blockedOn "clerk" = true ∧ s.awaits "clerk" 0 = true ∧
          s.withholds 0 = true)) = some true := by
    decide +kernel
  rcases exists_reaches_of_run ran with ⟨s, run, seen⟩
  have stuck := of_decide_eq_true seen
  exact claim oneSlot 3 s run "clerk" ⟨0, stuck.1, stuck.2.1, stuck.2.2⟩

end Civitas.Transport.ReceivePath
