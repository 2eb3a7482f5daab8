import Mathlib.Data.List.Basic
import Mathlib.Logic.Function.Basic

/-!
# Mailboxes

`Mailbox` of `process.py`: two bounded queues, of which the priority queue is
served first.  A sender that finds its queue full waits; the waiting senders of
a queue are served in the order they came, but a sender that comes when there
is room does not look for them.  A sender that is woken and finds the queue
filled again by such a newcomer is sent by `asyncio.Queue` to the end of those
that wait; here it keeps its place, so that nothing is to be concluded about
the order of senders whom a newcomer has overtaken.

The line of a lane is what is queued or being put, in the order in which it
will be served when nobody comes in between.
-/

namespace Civitas.Supervision

open Function (update)

/-- The two queues of a mailbox. -/
inductive Lane where
  | priority
  | normal
deriving DecidableEq

/-- What a mailbox and the loop of an agent read of a message. -/
structure Message where
  id : Nat
  lane : Lane
  /-- `type` is `_agency.shutdown`. -/
  shutdown : Bool := false
  /-- `timestamp + ttl`, when there is a `ttl`. -/
  deadline : Option Nat := none
deriving DecidableEq

/-- `_drop_if_expired` keeps the message. -/
def Message.unexpired (now : Nat) (message : Message) : Bool :=
  message.deadline.all (now ≤ ·)

/-- `Mailbox`, with the senders that wait for room. -/
structure Mailbox where
  queue : Lane → List Message := fun _ => []
  blocked : Lane → List Message := fun _ => []

namespace Mailbox

/-- A mailbox without messages. -/
def empty : Mailbox := {}

/-- What is queued in a lane or being put into it. -/
def line (mailbox : Mailbox) (lane : Lane) : List Message :=
  mailbox.queue lane ++ mailbox.blocked lane

/-- The queue of a lane is not full; a capacity of zero is no bound. -/
def room (capacity : Lane → Nat) (mailbox : Mailbox) (lane : Lane) : Bool :=
  decide (capacity lane = 0) ||
    decide ((mailbox.queue lane).length < capacity lane)

/-- The message is queued in its lane. -/
def enqueue (mailbox : Mailbox) (message : Message) : Mailbox :=
  { mailbox with
    queue :=
      update mailbox.queue message.lane
        (mailbox.queue message.lane ++ [message]) }

/-- `put`, up to the point where it waits. -/
def put
    (capacity : Lane → Nat) (mailbox : Mailbox) (message : Message) :
    Mailbox :=
  if mailbox.room capacity message.lane then mailbox.enqueue message
  else
    { mailbox with
      blocked :=
        update mailbox.blocked message.lane
          (mailbox.blocked message.lane ++ [message]) }

/-- The first waiting sender of a lane finds room. -/
def letIn
    (capacity : Lane → Nat) (mailbox : Mailbox) (lane : Lane) :
    Option Mailbox :=
  match mailbox.blocked lane with
  | message :: rest =>
      if mailbox.room capacity lane then
        some
          { queue := update mailbox.queue lane (mailbox.queue lane ++ [message])
            blocked := update mailbox.blocked lane rest }
      else none
  | [] => none

/-- `get`, or `get_priority` while the agent is suspended. -/
def get (mailbox : Mailbox) (suspended : Bool) : Option (Message × Mailbox) :=
  match mailbox.queue .priority with
  | message :: rest =>
      some
        (message,
          { mailbox with queue := update mailbox.queue .priority rest })
  | [] =>
      if suspended then none
      else
        match mailbox.queue .normal with
        | message :: rest =>
            some
              (message,
                { mailbox with queue := update mailbox.queue .normal rest })
        | [] => none

/-- `drain`: what it returns. -/
def contents (mailbox : Mailbox) : List Message :=
  mailbox.queue .priority ++ mailbox.queue .normal

/-- `drain`: what it leaves behind. -/
def drained (mailbox : Mailbox) : Mailbox :=
  { mailbox with queue := fun _ => [] }

/-- Every message is in its own lane, and no queue exceeds its capacity. -/
structure Ordered (capacity : Lane → Nat) (mailbox : Mailbox) : Prop where
  lanes : ∀ lane, ∀ message ∈ mailbox.line lane, message.lane = lane
  bounded : ∀ lane,
    capacity lane = 0 ∨ (mailbox.queue lane).length ≤ capacity lane

section

variable {capacity : Lane → Nat} {mailbox after : Mailbox}

theorem ordered_empty : Ordered capacity empty := by
  constructor
  · intro lane message within
    cases within
  · intro lane
    exact .inr (Nat.zero_le _)

theorem room_bounded
    {lane : Lane} (room : mailbox.room capacity lane = true) :
    capacity lane = 0 ∨ (mailbox.queue lane).length + 1 ≤ capacity lane := by
  rcases Bool.or_eq_true_iff.mp room with unbounded | free
  · exact .inl (of_decide_eq_true unbounded)
  · exact .inr (of_decide_eq_true free)

theorem Ordered.enqueue
    (ordered : Ordered capacity mailbox) {message : Message}
    (room : mailbox.room capacity message.lane = true) :
    Ordered capacity (mailbox.enqueue message) := by
  constructor
  · intro lane other within
    by_cases same : lane = message.lane
    · subst same
      simp only [line, Mailbox.enqueue, Function.update_self,
        List.append_assoc, List.mem_append, List.mem_singleton] at within
      rcases within with old | rfl | waiting
      · exact ordered.lanes _ other (List.mem_append_left _ old)
      · rfl
      · exact ordered.lanes _ other (List.mem_append_right _ waiting)
    · apply ordered.lanes lane other
      simpa [line, Mailbox.enqueue, same] using within
  · intro lane
    by_cases same : lane = message.lane
    · subst same
      simpa [Mailbox.enqueue] using room_bounded room
    · simpa [Mailbox.enqueue, same] using ordered.bounded lane

theorem Ordered.put
    (ordered : Ordered capacity mailbox) (message : Message) :
    Ordered capacity (mailbox.put capacity message) := by
  unfold Mailbox.put
  split
  · rename_i room
    exact ordered.enqueue room
  · constructor
    · intro lane other within
      by_cases same : lane = message.lane
      · subst same
        simp only [line, Function.update_self, List.mem_append,
          List.mem_singleton] at within
        rcases within with old | waiting | rfl
        · exact ordered.lanes _ other (List.mem_append_left _ old)
        · exact ordered.lanes _ other (List.mem_append_right _ waiting)
        · rfl
      · apply ordered.lanes lane other
        simpa [line, same] using within
    · exact ordered.bounded

/-- Serving a waiting sender leaves the line as it is. -/
theorem line_of_letIn
    {served : Lane} (admitted : mailbox.letIn capacity served = some after)
    (lane : Lane) : after.line lane = mailbox.line lane := by
  unfold letIn at admitted
  split at admitted
  · rename_i message rest waiting
    split at admitted
    · cases admitted
      by_cases same : lane = served
      · subst same
        simp [line, waiting]
      · simp [line, same]
    · cases admitted
  · cases admitted

theorem Ordered.letIn
    (ordered : Ordered capacity mailbox) {served : Lane}
    (admitted : mailbox.letIn capacity served = some after) :
    Ordered capacity after := by
  constructor
  · intro lane message within
    rw [line_of_letIn admitted lane] at within
    exact ordered.lanes lane message within
  · intro lane
    unfold Mailbox.letIn at admitted
    split at admitted
    · split at admitted
      · rename_i room
        cases admitted
        by_cases same : lane = served
        · subst same
          simpa using room_bounded room
        · simpa [same] using ordered.bounded lane
      · cases admitted
    · cases admitted

/-- What `get` takes is the head of its queue. -/
theorem get_cases
    {suspended : Bool} {message : Message}
    (taken : mailbox.get suspended = some (message, after)) :
    ∃ lane rest, mailbox.queue lane = message :: rest ∧
      after = { mailbox with queue := update mailbox.queue lane rest } ∧
      (lane = .normal → mailbox.queue .priority = []) := by
  unfold get at taken
  split at taken
  · rename_i head rest found
    cases taken
    exact ⟨.priority, rest, found, rfl, fun normal => by cases normal⟩
  · rename_i none
    split at taken
    · cases taken
    · split at taken
      · rename_i head rest found
        cases taken
        exact ⟨.normal, rest, found, rfl, fun _ => none⟩
      · cases taken

theorem Ordered.get
    (ordered : Ordered capacity mailbox) {suspended : Bool}
    {message : Message}
    (taken : mailbox.get suspended = some (message, after)) :
    Ordered capacity after := by
  rcases get_cases taken with ⟨served, rest, found, rfl, -⟩
  constructor
  · intro lane other within
    apply ordered.lanes lane other
    by_cases same : lane = served
    · subst same
      simp only [line, Function.update_self, List.mem_append] at within
      rcases within with old | waiting
      · apply List.mem_append_left
        rw [found]
        exact List.mem_cons_of_mem _ old
      · exact List.mem_append_right _ waiting
    · simpa [line, same] using within
  · intro lane
    by_cases same : lane = served
    · subst same
      have bound := ordered.bounded lane
      rw [found, List.length_cons] at bound
      rcases bound with unbounded | below
      · exact .inl unbounded
      · right
        simp only [Function.update_self]
        omega
    · simpa [same] using ordered.bounded lane

/-- The messages of a lane among those that `drain` returns. -/
theorem contents_filter
    (ordered : Ordered capacity mailbox) (lane : Lane) :
    (mailbox.contents.filter fun message => message.lane = lane) =
      mailbox.queue lane := by
  have own : ∀ other,
      (mailbox.queue other).filter (fun message => message.lane = lane) =
        if other = lane then mailbox.queue other else [] := by
    intro other
    have named : ∀ message ∈ mailbox.queue other, message.lane = other := by
      intro message within
      exact ordered.lanes other message (List.mem_append_left _ within)
    split
    · rename_i same
      apply List.filter_eq_self.mpr
      intro message within
      rw [named message within]
      exact decide_eq_true same
    · rename_i different
      apply List.filter_eq_nil_iff.mpr
      intro message within
      rw [named message within]
      simpa using different
  rw [contents, List.filter_append, own, own]
  cases lane <;> simp

end

end Mailbox

end Civitas.Supervision
