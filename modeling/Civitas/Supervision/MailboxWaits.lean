import Civitas.Supervision.Mailbox
import Civitas.Transition

/-!
# Producers and the consumer of a mailbox

`put`, `put_nowait`, `get` and `get_priority` of `Mailbox`, with the event
`_notify` that both queues share.  The consumer looks for a message, clears
the event, looks again and waits; each of these is a step, and any producer
may act between two of them.  A producer that finds its queue full waits for
room; whichever of the waiting ones comes first is let in.  A message that is
let in sets the event in the same step, as `put` does not await in between.

The other fields of a state are history.  `offered` and `called` are what the
producers and the consumer have asked for, whatever came of it; `refused`,
`withdrawn` and `abandoned` are the calls that ended without effect.
`effected` has the messages of each lane in the order in which they were
queued, and `removed` what the consumer took out of the queues.
-/

namespace Civitas.Supervision.MailboxWaits

open Civitas.Transition
open Function (update)

/-! ## State -/

/--
Where the consumer stands.  The flag tells `get_priority` from `get`; a
consumer that waits is woken when the event is set.
-/
inductive Consumer where
  | idle
  | looking (suspended : Bool)
  | clearing (suspended : Bool)
  | rechecking (suspended : Bool)
  | entering (suspended : Bool)
  | waiting (suspended woken : Bool)
deriving DecidableEq

/-- What the consumer took out of a queue, and what was known then. -/
structure Removal where
  message : Message
  lane : Lane
  suspended : Bool
  now : Nat
  returned : Bool
  /-- The priority queue was not empty. -/
  urgent : Bool
deriving DecidableEq

/--
A mailbox with the tasks that wait at it, and what became of each message.
-/
structure State where
  mailbox : Mailbox := .empty
  /-- `_notify`. -/
  notify : Bool := false
  consumer : Consumer := .idle
  /-- What `put` and `put_nowait` have been called with. -/
  offered : Lane → List Message := fun _ => []
  /-- What `put_nowait` raised `QueueFull` for. -/
  refused : Lane → List Message := fun _ => []
  /-- What a cancelled `put` did not queue. -/
  withdrawn : Lane → List Message := fun _ => []
  effected : Lane → List Message := fun _ => []
  removed : List Removal := []
  /-- How often `get` or `get_priority` was called. -/
  called : Nat := 0
  /-- How often the call was cancelled. -/
  abandoned : Nat := 0

/-- A mailbox that has just been made. -/
def init : State := {}

/-! ## Steps -/

/-- `_notify.set()`: the flag is set and the waiting consumer is woken. -/
def State.set (s : State) : State :=
  { s with
    notify := true
    consumer :=
      match s.consumer with
      | .waiting suspended _ =>
          .waiting suspended (!s.notify || s.consumer = .waiting suspended true)
      | stage => stage }

/-- The message is queued and the event is set. -/
def State.queue (s : State) (message : Message) : State :=
  State.set
    { s with
      mailbox := s.mailbox.enqueue message
      effected :=
        update s.effected message.lane
          (s.effected message.lane ++ [message]) }

/-- The message waits for room. -/
def State.block (s : State) (message : Message) : State :=
  { s with
    mailbox :=
      { s.mailbox with
        blocked :=
          update s.mailbox.blocked message.lane
            (s.mailbox.blocked message.lane ++ [message]) } }

/-- The message does not wait any more. -/
def State.unblock (s : State) (message : Message) : State :=
  { s with
    mailbox :=
      { s.mailbox with
        blocked :=
          update s.mailbox.blocked message.lane
            ((s.mailbox.blocked message.lane).erase message) } }

/-- A producer calls `put` or `put_nowait`. -/
def State.offer (s : State) (message : Message) : State :=
  { s with
    offered :=
      update s.offered message.lane
        (s.offered message.lane ++ [message]) }

/-- The call of the producer raises `QueueFull`. -/
def State.refuse (s : State) (message : Message) : State :=
  { s with
    refused :=
      update s.refused message.lane
        (s.refused message.lane ++ [message]) }

/-- The call of the producer is cancelled. -/
def State.withdraw (s : State) (message : Message) : State :=
  { s with
    withdrawn :=
      update s.withdrawn message.lane
        (s.withdrawn message.lane ++ [message]) }

/-- The queues have something for the consumer. -/
def State.ready (s : State) (suspended : Bool) : Bool :=
  !(s.mailbox.queue .priority).isEmpty ||
    !suspended && !(s.mailbox.queue .normal).isEmpty

/-- The lane that `get` takes from. -/
def State.lane (s : State) : Lane :=
  if (s.mailbox.queue .priority).isEmpty then .normal else .priority

/-- What the senders and the consumer of a mailbox do. -/
inductive Label where
  /-- `put`; it waits when the queue is full. -/
  | put (message : Message)
  /-- A waiting `put` finds room. -/
  | retry (message : Message)
  /-- A waiting `put` is cancelled. -/
  | cancelPut (message : Message)
  /-- `put_nowait`; `QueueFull` when the queue is full. -/
  | putNowait (message : Message)
  /-- The consumer calls `get`, or `get_priority`. -/
  | call (suspended : Bool)
  /-- The consumer goes on. -/
  | go (now : Nat)
  /-- The consumer's wait is cancelled. -/
  | cancel
  /-- `peek`, `depth` or `empty`. -/
  | inspect
deriving DecidableEq

/-- The consumer looks for a message. -/
def State.look (s : State) (suspended : Bool) (now : Nat) : State :=
  match s.mailbox.get suspended with
  | some (message, mailbox) =>
      { s with
        mailbox := mailbox
        consumer :=
          if message.unexpired now then .idle else .looking suspended
        removed :=
          s.removed ++
            [{ message := message
               lane := s.lane
               suspended := suspended
               now := now
               returned := message.unexpired now
               urgent := !(s.mailbox.queue .priority).isEmpty }] }
  | none => { s with consumer := .clearing suspended }

/-- The successor of a state; `none` when the step is not enabled. -/
def step (capacity : Lane → Nat) (s : State) : Label → Option State
  | .put message =>
      if s.mailbox.room capacity message.lane
      then some ((s.offer message).queue message)
      else some ((s.offer message).block message)
  | .retry message =>
      if message ∈ s.mailbox.blocked message.lane ∧
          s.mailbox.room capacity message.lane = true
      then some ((s.unblock message).queue message)
      else none
  | .cancelPut message =>
      if message ∈ s.mailbox.blocked message.lane
      then some ((s.unblock message).withdraw message)
      else none
  | .putNowait message =>
      let urgent := { message with lane := .priority }
      if s.mailbox.room capacity .priority
      then some ((s.offer urgent).queue urgent)
      else some ((s.offer urgent).refuse urgent)
  | .call suspended =>
      match s.consumer with
      | .idle =>
          some
            { s with consumer := .looking suspended, called := s.called + 1 }
      | _ => none
  | .go now =>
      match s.consumer with
      | .looking suspended => some (s.look suspended now)
      | .clearing suspended =>
          some { s with notify := false, consumer := .rechecking suspended }
      | .rechecking suspended =>
          if s.ready suspended
          then some { s with consumer := .looking suspended }
          else some { s with consumer := .entering suspended }
      | .entering suspended =>
          if s.notify
          then some { s with consumer := .looking suspended }
          else some { s with consumer := .waiting suspended false }
      | .waiting suspended true =>
          some { s with consumer := .looking suspended }
      | _ => none
  | .cancel =>
      match s.consumer with
      | .waiting _ _ =>
          some { s with consumer := .idle, abandoned := s.abandoned + 1 }
      | _ => none
  | .inspect => some s

/-! ## What is expected -/

/-- What was taken out of a lane. -/
def State.removedFrom (s : State) (lane : Lane) : List Removal :=
  s.removed.filter fun removal => removal.lane = lane

/-- What the consumer was given of a lane. -/
def State.returnedFrom (s : State) (lane : Lane) : List Message :=
  ((s.removedFrom lane).filter Removal.returned).map Removal.message

/-- What a mailbox owes to its senders and its consumer. -/
structure Correct (s : State) : Prop where
  /--
  Each `put` has queued its message once, or raised, or was cancelled, or
  still waits for room.
  -/
  accounted : ∀ lane,
    (s.offered lane).Perm
      (s.effected lane ++ s.mailbox.blocked lane ++ s.withdrawn lane ++
        s.refused lane)
  /-- Each call has been given one message, or was cancelled, or goes on. -/
  answered :
    s.called =
      s.removed.countP Removal.returned + s.abandoned +
        (if s.consumer = .idle then 0 else 1)
  /-- Every queued message was taken out once, or is still queued. -/
  conserved : ∀ lane,
    s.effected lane =
      (s.removedFrom lane).map Removal.message ++ s.mailbox.queue lane
  /-- What was taken out was returned, or had expired. -/
  fate : ∀ removal ∈ s.removed,
    removal.returned = removal.message.unexpired removal.now
  ordered : ∀ lane, (s.returnedFrom lane).Sublist (s.effected lane)
  urgentFirst : ∀ removal ∈ s.removed,
    removal.lane = .normal → removal.urgent = false
  priorityOnly : ∀ removal ∈ s.removed,
    removal.suspended = true → removal.lane = .priority
  awake : ∀ suspended woken,
    s.consumer = .waiting suspended woken → s.notify = false →
      s.ready suspended = false
  /-- A consumer that waits on a set event can go on. -/
  woken : ∀ suspended woken,
    s.consumer = .waiting suspended woken → s.notify = true →
      woken = true

/-! ## The invariant -/

/-- How far the consumer can be from what is queued. -/
def Attentive (s : State) : Prop :=
  match s.consumer with
  | .entering suspended => s.notify = false → s.ready suspended = false
  | .waiting suspended woken =>
      (woken = false → s.notify = false ∧ s.ready suspended = false) ∧
        (woken = true → s.notify = true)
  | _ => True

/-- What has become of each call of a producer. -/
def Accounted (s : State) : Prop :=
  ∀ lane message,
    (s.offered lane).count message =
      (s.effected lane).count message +
        (s.mailbox.blocked lane).count message +
        (s.withdrawn lane).count message + (s.refused lane).count message

/-- What has become of each call of the consumer. -/
def Answered (s : State) : Prop :=
  s.called =
    s.removed.countP Removal.returned + s.abandoned +
      (if s.consumer = .idle then 0 else 1)

/-- The invariant of what was queued and what was taken. -/
structure Kept (s : State) : Prop where
  conserved : ∀ lane,
    s.effected lane =
      (s.removedFrom lane).map Removal.message ++ s.mailbox.queue lane
  fate : ∀ removal ∈ s.removed,
    removal.returned = removal.message.unexpired removal.now
  urgentFirst : ∀ removal ∈ s.removed,
    removal.lane = .normal → removal.urgent = false
  priorityOnly : ∀ removal ∈ s.removed,
    removal.suspended = true → removal.lane = .priority
  attentive : Attentive s

theorem kept_init : Kept init where
  conserved := fun _ => rfl
  fate := by rintro _ ⟨⟩
  urgentFirst := by rintro _ ⟨⟩
  priorityOnly := by rintro _ ⟨⟩
  attentive := trivial

section Steps

variable {s after : State}

theorem Kept.queue (kept : Kept s) (message : Message) :
    Kept (s.queue message) := by
  constructor
  · intro lane
    show update s.effected message.lane _ lane =
      (s.removedFrom lane).map Removal.message ++
        (s.mailbox.enqueue message).queue lane
    by_cases same : lane = message.lane
    · subst same
      simp [Mailbox.enqueue, kept.conserved]
    · simp [Mailbox.enqueue, Function.update_of_ne same, kept.conserved]
  · exact kept.fate
  · exact kept.urgentFirst
  · exact kept.priorityOnly
  · have attentive := kept.attentive
    unfold Attentive at attentive ⊢
    cases stage : s.consumer with
    | waiting suspended woken =>
        rw [stage] at attentive
        have moved : (s.queue message).consumer = .waiting suspended true := by
          cases woken with
          | true => simp [State.queue, State.set, stage]
          | false =>
              simp [State.queue, State.set, stage, (attentive.1 rfl).1]
        rw [moved]
        constructor
        · intro asleep
          cases asleep
        · exact fun _ => rfl
    | entering suspended =>
        have moved : (s.queue message).consumer = .entering suspended := by
          simp [State.queue, State.set, stage]
        rw [moved]
        intro idle
        cases idle
    | idle => simp [State.queue, State.set, stage]
    | looking suspended => simp [State.queue, State.set, stage]
    | clearing suspended => simp [State.queue, State.set, stage]
    | rechecking suspended => simp [State.queue, State.set, stage]

/-- Only the calls of the producers differ. -/
theorem Kept.reblock
    (kept : Kept s)
    (blocked offered refused withdrawn : Lane → List Message) :
    Kept
      { s with
        mailbox := { s.mailbox with blocked := blocked }
        offered := offered
        refused := refused
        withdrawn := withdrawn } :=
  ⟨kept.conserved, kept.fate, kept.urgentFirst, kept.priorityOnly,
    kept.attentive⟩

/-- Only the consumer differs. -/
theorem Kept.move
    {consumer : Consumer} {called abandoned : Nat} (kept : Kept s)
    (attentive : Attentive { s with consumer := consumer }) :
    Kept
      { s with
        consumer := consumer
        called := called
        abandoned := abandoned } :=
  ⟨kept.conserved, kept.fate, kept.urgentFirst, kept.priorityOnly,
    attentive⟩

theorem lane_of_get
    {suspended : Bool} {message : Message} {mailbox : Mailbox}
    (taken : s.mailbox.get suspended = some (message, mailbox)) :
    ∃ rest, s.mailbox.queue s.lane = message :: rest ∧
      mailbox =
        { s.mailbox with queue := update s.mailbox.queue s.lane rest } ∧
      (suspended = true → s.lane = .priority) := by
  unfold Mailbox.get at taken
  unfold State.lane
  cases urgent : s.mailbox.queue .priority with
  | cons first rest =>
      rw [urgent] at taken
      cases taken
      exact ⟨rest, urgent, rfl, fun _ => rfl⟩
  | nil =>
      rw [urgent] at taken
      simp only at taken
      split_ifs at taken with priorityOnly
      cases usual : s.mailbox.queue .normal with
      | cons first rest =>
          rw [usual] at taken
          cases taken
          refine ⟨rest, usual, rfl, ?_⟩
          intro only
          exact absurd only priorityOnly
      | nil =>
          rw [usual] at taken
          cases taken

theorem Kept.look (kept : Kept s) (suspended : Bool) (now : Nat) :
    Kept (s.look suspended now) := by
  unfold State.look
  cases taken : s.mailbox.get suspended with
  | none => exact kept.move trivial
  | some pair =>
      rcases pair with ⟨message, mailbox⟩
      rcases lane_of_get taken with ⟨rest, found, rfl, only⟩
      simp only
      constructor
      · intro lane
        have before := kept.conserved lane
        by_cases same : lane = s.lane
        · subst same
          rw [before, found]
          simp [State.removedFrom]
        · have other : ¬s.lane = lane := fun equal => same equal.symm
          rw [before]
          simp [State.removedFrom, other, Function.update_of_ne same]
      · intro removal within
        rcases List.mem_append.mp within with old | new
        · exact kept.fate removal old
        · rw [List.mem_singleton.mp new]
      · intro removal within normal
        rcases List.mem_append.mp within with old | new
        · exact kept.urgentFirst removal old normal
        · rw [List.mem_singleton.mp new] at normal ⊢
          simp only [State.lane] at normal
          split_ifs at normal with empty
          simp [empty]
      · intro removal within priorityOnly
        rcases List.mem_append.mp within with old | new
        · exact kept.priorityOnly removal old priorityOnly
        · rw [List.mem_singleton.mp new] at priorityOnly ⊢
          exact only priorityOnly
      · unfold Attentive
        simp only
        split_ifs <;> trivial

theorem Kept.go
    {now : Nat} {capacity : Lane → Nat} (kept : Kept s)
    (stepped : step capacity s (.go now) = some after) : Kept after := by
  have attentive := kept.attentive
  unfold Attentive at attentive
  simp only [step] at stepped
  cases stage : s.consumer with
  | idle => simp [stage] at stepped
  | looking suspended =>
      rw [stage] at stepped
      cases stepped
      exact kept.look suspended now
  | clearing suspended =>
      rw [stage] at stepped
      cases stepped
      exact
        ⟨kept.conserved, kept.fate, kept.urgentFirst, kept.priorityOnly,
          trivial⟩
  | rechecking suspended =>
      rw [stage] at stepped
      simp only at stepped
      split_ifs at stepped with ready
      · cases stepped
        exact kept.move trivial
      · cases stepped
        have empty : s.ready suspended = false := by simpa using ready
        refine kept.move ?_
        intro _
        exact empty
  | entering suspended =>
      rw [stage] at stepped attentive
      simp only at stepped
      split_ifs at stepped with set
      · cases stepped
        exact kept.move trivial
      · cases stepped
        have cleared : s.notify = false := by simpa using set
        refine kept.move ⟨?_, by simp⟩
        intro _
        exact ⟨cleared, attentive cleared⟩
  | waiting suspended woken =>
      rw [stage] at stepped
      cases woken with
      | false => cases stepped
      | true =>
          cases stepped
          exact kept.move trivial

/-- The consumer leaves alone what the producers have done. -/
theorem producers_of_go
    {capacity : Lane → Nat} {now : Nat}
    (stepped : step capacity s (.go now) = some after) :
    after.effected = s.effected ∧ after.offered = s.offered ∧
      after.refused = s.refused ∧ after.withdrawn = s.withdrawn ∧
      after.mailbox.blocked = s.mailbox.blocked := by
  simp only [step] at stepped
  split at stepped
  · rename_i suspended _
    cases stepped
    unfold State.look
    cases taken : s.mailbox.get suspended with
    | none => exact ⟨rfl, rfl, rfl, rfl, rfl⟩
    | some pair =>
        rcases pair with ⟨message, mailbox⟩
        rcases lane_of_get taken with ⟨rest, _, rfl, _⟩
        exact ⟨rfl, rfl, rfl, rfl, rfl⟩
  · cases stepped
    exact ⟨rfl, rfl, rfl, rfl, rfl⟩
  · split_ifs at stepped <;> cases stepped <;>
      exact ⟨rfl, rfl, rfl, rfl, rfl⟩
  · split_ifs at stepped <;> cases stepped <;>
      exact ⟨rfl, rfl, rfl, rfl, rfl⟩
  · cases stepped
    exact ⟨rfl, rfl, rfl, rfl, rfl⟩
  · cases stepped

/-- A producer does not end the call of the consumer. -/
theorem Answered.queue (answered : Answered s) (message : Message) :
    Answered (s.queue message) := by
  have idle : (s.queue message).consumer = .idle ↔ s.consumer = .idle := by
    unfold State.queue State.set
    cases stage : s.consumer <;> simp
  unfold Answered at answered ⊢
  simp only [idle]
  exact answered

theorem answered_of_go
    {capacity : Lane → Nat} {now : Nat} (answered : Answered s)
    (stepped : step capacity s (.go now) = some after) : Answered after := by
  unfold Answered at answered ⊢
  simp only [step] at stepped
  split at stepped
  · rename_i suspended stage
    cases stepped
    rw [stage, if_neg (by simp)] at answered
    unfold State.look
    cases taken : s.mailbox.get suspended with
    | none => simpa using answered
    | some pair =>
        rcases pair with ⟨message, mailbox⟩
        cases unexpired : message.unexpired now
        · simpa [unexpired, List.countP_append] using answered
        · simp only [unexpired, if_true, List.countP_append,
            List.countP_singleton]
          omega
  · rename_i stage
    cases stepped
    simpa [stage] using answered
  · rename_i stage
    split_ifs at stepped <;> cases stepped <;> simpa [stage] using answered
  · rename_i stage
    split_ifs at stepped <;> cases stepped <;> simpa [stage] using answered
  · rename_i stage
    cases stepped
    simpa [stage] using answered
  · cases stepped

theorem step_kept
    {capacity : Lane → Nat} {label : Label} (kept : Kept s)
    (stepped : step capacity s label = some after) : Kept after := by
  cases label with
  | put message =>
      simp only [step] at stepped
      split_ifs at stepped
      · cases stepped
        exact (kept.reblock _ _ _ _).queue message
      · cases stepped
        exact kept.reblock _ _ _ _
  | retry message =>
      simp only [step] at stepped
      split_ifs at stepped
      cases stepped
      exact (kept.reblock _ _ _ _).queue message
  | cancelPut message =>
      simp only [step] at stepped
      split_ifs at stepped
      cases stepped
      exact kept.reblock _ _ _ _
  | putNowait message =>
      simp only [step] at stepped
      split_ifs at stepped
      · cases stepped
        exact (kept.reblock _ _ _ _).queue _
      · cases stepped
        exact kept.reblock _ _ _ _
  | call suspended =>
      simp only [step] at stepped
      split at stepped
      · cases stepped
        exact kept.move trivial
      · cases stepped
  | go now => exact kept.go stepped
  | cancel =>
      simp only [step] at stepped
      split at stepped
      · cases stepped
        exact kept.move trivial
      · cases stepped
  | inspect =>
      cases stepped
      exact kept

/-! ## The calls of the producers -/

theorem count_appended
    (file : Lane → List Message) (message : Message) (lane : Lane)
    (other : Message) :
    (update file message.lane (file message.lane ++ [message]) lane).count
        other =
      (file lane).count other +
        (if lane = message.lane ∧ message = other then 1 else 0) := by
  by_cases same : lane = message.lane
  · subst same
    simp [List.count_singleton]
  · simp [same]

theorem count_erased
    {file : Lane → List Message} {message : Message}
    (member : message ∈ file message.lane) (lane : Lane) (other : Message) :
    (update file message.lane ((file message.lane).erase message) lane).count
        other +
      (if lane = message.lane ∧ message = other then 1 else 0) =
      (file lane).count other := by
  by_cases same : lane = message.lane
  · subst same
    by_cases equal : message = other
    · subst equal
      have positive := List.count_pos_iff.mpr member
      simp only [Function.update_self, List.count_erase_self, and_self,
        if_true]
      omega
    · simp [equal, List.count_erase_of_ne (Ne.symm equal)]
  · simp [same]

/-- A call that queues its message at once. -/
theorem Accounted.queued (accounted : Accounted s) (message : Message) :
    Accounted ((s.offer message).queue message) := by
  intro lane other
  have before := accounted lane other
  simp only [State.queue, State.set, State.offer, Mailbox.enqueue,
    count_appended]
  omega

/-- A call that raises. -/
theorem Accounted.refused (accounted : Accounted s) (message : Message) :
    Accounted ((s.offer message).refuse message) := by
  intro lane other
  have before := accounted lane other
  simp only [State.refuse, State.offer, count_appended]
  omega

theorem step_accounted
    {capacity : Lane → Nat} {label : Label} (accounted : Accounted s)
    (stepped : step capacity s label = some after) : Accounted after := by
  cases label with
  | put message =>
      simp only [step] at stepped
      split_ifs at stepped
      · cases stepped
        exact accounted.queued message
      · cases stepped
        intro lane other
        have before := accounted lane other
        simp only [State.block, State.offer, count_appended]
        omega
  | retry message =>
      simp only [step] at stepped
      split_ifs at stepped with waits
      cases stepped
      intro lane other
      have before := accounted lane other
      have left := count_erased waits.1 lane other
      simp only [State.queue, State.set, State.unblock, Mailbox.enqueue,
        count_appended]
      omega
  | cancelPut message =>
      simp only [step] at stepped
      split_ifs at stepped with waits
      cases stepped
      intro lane other
      have before := accounted lane other
      have left := count_erased waits lane other
      simp only [State.withdraw, State.unblock, count_appended]
      omega
  | putNowait message =>
      simp only [step] at stepped
      split_ifs at stepped
      · cases stepped
        exact accounted.queued _
      · cases stepped
        exact accounted.refused _
  | call suspended =>
      simp only [step] at stepped
      split at stepped <;> cases stepped
      exact accounted
  | go now =>
      rcases producers_of_go stepped with
        ⟨effected, offered, refused, withdrawn, blocked⟩
      intro lane other
      rw [effected, offered, refused, withdrawn, blocked]
      exact accounted lane other
  | cancel =>
      simp only [step] at stepped
      split at stepped <;> cases stepped
      exact accounted
  | inspect =>
      cases stepped
      exact accounted

/-! ## The calls of the consumer -/

theorem step_answered
    {capacity : Lane → Nat} {label : Label} (answered : Answered s)
    (stepped : step capacity s label = some after) : Answered after := by
  cases label with
  | put message =>
      simp only [step] at stepped
      split_ifs at stepped
      · cases stepped
        exact Answered.queue (s := s.offer _) answered _
      · cases stepped
        exact answered
  | retry message =>
      simp only [step] at stepped
      split_ifs at stepped
      cases stepped
      exact Answered.queue (s := s.unblock message) answered message
  | cancelPut message =>
      simp only [step] at stepped
      split_ifs at stepped
      cases stepped
      exact answered
  | putNowait message =>
      simp only [step] at stepped
      split_ifs at stepped
      · cases stepped
        exact Answered.queue (s := s.offer _) answered _
      · cases stepped
        exact answered
  | call suspended =>
      simp only [step] at stepped
      split at stepped
      · rename_i idle
        cases stepped
        unfold Answered at answered ⊢
        rw [idle, if_pos rfl] at answered
        simp [answered]
      · cases stepped
  | go now => exact answered_of_go answered stepped
  | cancel =>
      simp only [step] at stepped
      split at stepped
      · rename_i waiting
        cases stepped
        unfold Answered at answered ⊢
        rw [waiting, if_neg (by simp)] at answered
        simp only [if_true]
        omega
      · cases stepped
  | inspect =>
      cases stepped
      exact answered

end Steps

/-! ## Mailboxes in every run -/

theorem Kept.correct
    {s : State} (kept : Kept s) (accounted : Accounted s)
    (answered : Answered s) : Correct s where
  accounted := by
    intro lane
    refine List.perm_iff_count.mpr fun message => ?_
    rw [accounted lane message, List.count_append, List.count_append,
      List.count_append]
  answered := answered
  conserved := kept.conserved
  fate := kept.fate
  ordered := by
    intro lane
    rw [kept.conserved lane]
    apply List.Sublist.trans _ (List.sublist_append_left _ _)
    exact List.filter_sublist.map _
  urgentFirst := kept.urgentFirst
  priorityOnly := kept.priorityOnly
  awake := by
    intro suspended woken waiting cleared
    have attentive := kept.attentive
    simp only [Attentive, waiting] at attentive
    cases woken with
    | false => exact (attentive.1 rfl).2
    | true =>
        rw [attentive.2 rfl] at cleared
        cases cleared
  woken := by
    intro suspended woken waiting set
    have attentive := kept.attentive
    simp only [Attentive, waiting] at attentive
    cases woken with
    | true => rfl
    | false =>
        rw [(attentive.1 rfl).1] at set
        cases set

/--
A message comes between the clearing of the event and the second look, a
sender waits for room, the urgent message has expired, and the consumer ends
up waiting for urgent messages only.
-/
def crowded : List Label :=
  [.call false, .go 5, .go 5, .put ⟨1, .normal, false, none⟩,
    .put ⟨2, .normal, false, none⟩, .putNowait ⟨3, .normal, false, some 4⟩,
    .go 5, .go 5, .go 5, .retry ⟨2, .normal, false, none⟩,
    .call true, .go 6, .go 6, .go 6, .go 6]

end Civitas.Supervision.MailboxWaits
