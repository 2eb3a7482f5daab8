import Civitas.Supervision.Mailbox
import Civitas.Transition

/-!
# The backlog of a restarted child

What becomes of the mailbox of a child over its restarts.  A child that
crashed is dead; the other restart paths call `_stop`, which puts a shutdown
message into the mailbox and waits for the task.  Then a fresh incarnation is
built and subscribed, `_transfer_mailbox` drains the old mailbox and puts every
message into the new one, and the fresh incarnation starts.  A child below a
restarted supervisor, and the supervisor itself, start again over the same
mailbox.

Messages arrive at any time: at the old incarnation until the fresh one is
subscribed, and at the fresh one from then on.  The state remembers what was
owed to the current incarnation when it replaced its predecessor, what was
delivered to it since, and what it got out of its queues.
-/

namespace Civitas.Supervision.Backlog

open Civitas.Transition
open Function (update)

/-! ## Steps -/

/-- Where the child stands. -/
inductive Stage where
  /-- The incarnation is in its loop. -/
  | alive
  /-- `_stop` waits for the incarnation. -/
  | stopping
  /-- The task of the incarnation has finished. -/
  | dead
  /-- A fresh incarnation is subscribed. -/
  | wired
  /-- `_transfer_mailbox` has these messages still to put. -/
  | moving (rest : List Message)
deriving DecidableEq

/-- The mailboxes of a child, and what becomes of their messages. -/
structure State where
  stage : Stage := .alive
  old : Mailbox := .empty
  fresh : Mailbox := .empty
  /-- What the predecessor had not taken when it was replaced. -/
  owed : Lane → List Message := fun _ => []
  /-- What was delivered to this incarnation. -/
  later : Lane → List Message := fun _ => []
  /-- What this incarnation got out of its queues, and when. -/
  dequeued : Lane → List (Message × Nat) := fun _ => []

/-- A child that has just started. -/
def init : State := {}

/-- What happens to a child, and to its messages. -/
inductive Label where
  | deliver (message : Message)
  | admitOld (lane : Lane)
  | admitFresh (lane : Lane)
  | take (suspended : Bool) (now : Nat)
  | stop (id : Nat)
  | die
  | wire
  | drain
  | move
  | start
  | reuse
deriving DecidableEq

/-- The message `_stop` sends. -/
def shutdownMessage (id : Nat) : Message where
  id := id
  lane := .priority
  shutdown := true

/-- The messages of a line that concern more than a lifetime. -/
def business (messages : List Message) : List Message :=
  messages.filter fun message => !message.shutdown

/-- `_stop` has put its message. -/
def State.posted (s : State) : Bool :=
  (s.old.blocked .priority).all fun message => !message.shutdown

/-- A message is delivered to the current incarnation. -/
def State.arrived (s : State) (message : Message) : Lane → List Message :=
  update s.later message.lane (s.later message.lane ++ [message])

/-- A message is put into the mailbox of the child. -/
def State.receive
    (capacity : Lane → Nat) (s : State) (message : Message) : State :=
  { s with
    old := s.old.put capacity message
    later := s.arrived message }

/-- The incarnation is replaced now. -/
def State.settle (s : State) : State :=
  { s with
    owed := fun lane => business (s.old.line lane)
    later := fun _ => []
    dequeued := fun _ => [] }

/-- What `get` does with the message it found: an expired one is dropped. -/
def State.handle
    (s : State) (now : Nat) (message : Message) (old : Mailbox) : State :=
  { s with
    old := old
    stage :=
      if message.unexpired now && message.shutdown then .dead else s.stage
    dequeued :=
      update s.dequeued message.lane
        (s.dequeued message.lane ++ [(message, now)]) }

/-- One step of a child. -/
def step (capacity : Lane → Nat) (s : State) : Label → Option State
  | .deliver message =>
      match s.stage with
      | .alive | .stopping | .dead => some (s.receive capacity message)
      | .wired | .moving _ =>
          some
            { s with
              fresh := s.fresh.put capacity message
              later := s.arrived message }
  | .admitOld lane =>
      (s.old.letIn capacity lane).map fun old => { s with old := old }
  | .admitFresh lane =>
      match s.stage with
      | .wired | .moving _ =>
          (s.fresh.letIn capacity lane).map fun fresh =>
            { s with fresh := fresh }
      | _ => none
  | .take suspended now =>
      match s.stage with
      | .alive | .stopping =>
          (s.old.get suspended).map fun (message, old) =>
            s.handle now message old
      | _ => none
  | .stop id =>
      match s.stage with
      | .alive =>
          some
            { s.receive capacity (shutdownMessage id) with
              stage := .stopping }
      | .dead => some (s.receive capacity (shutdownMessage id))
      | _ => none
  | .die =>
      match s.stage with
      | .alive | .stopping => some { s with stage := .dead }
      | _ => none
  | .wire =>
      match s.stage with
      | .dead =>
          if s.posted then some { s.settle with stage := .wired }
          else none
      | _ => none
  | .drain =>
      match s.stage with
      | .wired =>
          some
            { s with
              stage := .moving s.old.contents
              old := s.old.drained }
      | _ => none
  | .move =>
      match s.stage with
      | .moving (message :: rest) =>
          if s.fresh.room capacity message.lane then
            some
              { s with
                stage := .moving rest
                fresh := s.fresh.enqueue message }
          else none
      | _ => none
  | .start =>
      match s.stage with
      | .moving [] =>
          some { s with stage := .alive, old := s.fresh, fresh := .empty }
      | _ => none
  | .reuse =>
      match s.stage with
      | .dead =>
          if s.posted then some { s.settle with stage := .alive }
          else none
      | _ => none

/-! ## The condition -/

/-- No shutdown message is left in the mailbox. -/
def State.clear (s : State) : Bool :=
  [Lane.priority, .normal].all fun lane =>
    (s.old.line lane).all fun message => !message.shutdown

/-- The incarnation has not taken all it was owed. -/
def State.indebted (s : State) (lane : Lane) : Bool :=
  (s.dequeued lane).length < (s.owed lane).length

/-- A sender finds room while the sender of an owed message waits for it. -/
def State.overtaken
    (capacity : Lane → Nat) (s : State) (lane : Lane) : Bool :=
  s.indebted lane && !(s.old.blocked lane).isEmpty &&
    s.old.room capacity lane

/--
The old mailbox holds no shutdown message when the child is replaced, no
sender waits at it when it is drained, nothing reaches the fresh incarnation
before the messages of its lane have been carried over, and nothing overtakes
an owed message whose sender waits for room.
-/
def carries (capacity : Lane → Nat) (s : State) : Label → Bool
  | .wire | .reuse => s.clear
  | .drain =>
      [Lane.priority, .normal].all fun lane => (s.old.blocked lane).isEmpty
  | .deliver message =>
      match s.stage with
      | .wired => (s.old.line message.lane).isEmpty
      | .moving rest => rest.all fun other => other.lane ≠ message.lane
      | _ => !s.overtaken capacity message.lane
  | .stop _ => !s.overtaken capacity .priority
  | .take _ _ =>
      !(s.indebted .priority && (s.old.queue .priority).isEmpty)
  | _ => true

/-! ## The invariant -/

/-- The messages of a lane that have still to be carried over. -/
def State.pending (s : State) (lane : Lane) : List Message :=
  match s.stage with
  | .wired => s.old.line lane
  | .moving rest => rest.filter fun message => message.lane = lane
  | _ => []

/-- What this incarnation got out of the queue of a lane. -/
def State.gone (s : State) (lane : Lane) : List Message :=
  (s.dequeued lane).map Prod.fst

/-- The incarnation has not been replaced. -/
def Stage.early : Stage → Bool
  | .alive | .stopping | .dead => true
  | _ => false

/-- The backlog is being carried over. -/
def Stage.carrying : Stage → Bool
  | .wired | .moving _ => true
  | _ => false

/-- The fresh mailbox of a lane, while the backlog is carried over. -/
structure Carrying (s : State) (lane : Lane) : Prop where
  owed : ∃ moved tail, s.fresh.queue lane = moved ++ tail ∧
    s.owed lane = moved ++ s.pending lane ∧
    (tail ++ s.fresh.blocked lane).Perm (s.later lane)
  alone : s.pending lane ≠ [] → s.later lane = []

/--
What the incarnation got out of a lane, followed by what stands in its line, is
what it was owed, followed by what was delivered to it.
-/
def Served (s : State) (lane : Lane) : Prop :=
  ∃ rest, s.gone lane ++ s.old.line lane = s.owed lane ++ rest ∧
    rest.Perm (s.later lane)

/-- No normal message is taken before the priority messages it was owed. -/
def PriorityFirst (s : State) : Prop :=
  s.dequeued .normal ≠ [] → s.owed .priority <+: s.gone .priority

/-- What holds while an incarnation is in charge. -/
structure Living (s : State) : Prop where
  fresh : s.fresh = .empty
  served : ∀ lane, Served s lane
  first : PriorityFirst s

/-- What holds while a successor is prepared. -/
structure Replacing (capacity : Lane → Nat) (s : State) : Prop where
  fresh : s.fresh.Ordered capacity
  idle : ∀ lane, s.dequeued lane = []
  carried : ∀ lane, Carrying s lane

/-- What holds in every run that meets the condition. -/
structure Sound (capacity : Lane → Nat) (s : State) : Prop where
  old : s.old.Ordered capacity
  living : s.stage.early = true → Living s
  wired : s.stage = .wired → ∀ lane, s.owed lane = s.old.line lane
  replacing : s.stage.carrying = true → Replacing capacity s
  fits : ∀ rest, s.stage = .moving rest → ∀ lane,
    capacity lane = 0 ∨ (s.owed lane).length ≤ capacity lane
  lifetime : ∀ lane, ∀ message ∈ s.owed lane, message.shutdown = false

section Sound

variable {capacity : Lane → Nat} {s after : State} {label : Label}

theorem sound_init : Sound capacity init := by
  constructor
  · exact Mailbox.ordered_empty
  · intro _
    refine ⟨rfl, ?_, ?_⟩
    · intro lane
      exact ⟨[], rfl, .nil⟩
    · intro some
      exact absurd rfl some
  · intro wired
    cases wired
  · intro carrying
    cases carrying
  · intro rest moving
    cases moving
  · intro lane message within
    cases within

/-- The child goes on with another mailbox. -/
theorem Sound.live
    (sound : Sound capacity s) {next : State}
    (ordered : next.old.Ordered capacity) (early : next.stage.early = true)
    (living : Living next) (owed : next.owed = s.owed) :
    Sound capacity next := by
  constructor
  · exact ordered
  · intro _
    exact living
  · intro wired
    rw [wired] at early
    cases early
  · intro carrying
    cases stage : next.stage <;>
      simp [stage, Stage.early, Stage.carrying] at early carrying
  · intro rest moving
    rw [moving] at early
    cases early
  · rw [owed]
    exact sound.lifetime

theorem business_of_clear
    (clear : s.clear = true) (lane : Lane) :
    business (s.old.line lane) = s.old.line lane := by
  unfold State.clear at clear
  rw [List.all_eq_true] at clear
  have own := clear lane (by cases lane <;> simp)
  rw [List.all_eq_true] at own
  exact List.filter_eq_self.mpr own

theorem business_lifetime
    {messages : List Message} {message : Message}
    (within : message ∈ business messages) : message.shutdown = false := by
  simpa using (List.mem_filter.mp within).2

theorem arrived_eq (s : State) (message : Message) (lane : Lane) :
    s.arrived message lane =
      s.later lane ++ if lane = message.lane then [message] else [] := by
  unfold State.arrived
  by_cases same : lane = message.lane
  · subst same
    simp
  · simp [same]

/-- What is put last in a mailbox stands in its queue or at the end. -/
theorem put_cases (mailbox : Mailbox) (message : Message) (lane : Lane) :
    ((mailbox.put capacity message).queue lane = mailbox.queue lane ∧
        (mailbox.put capacity message).blocked lane =
          mailbox.blocked lane ++
            if lane = message.lane then [message] else []) ∨
      ((mailbox.put capacity message).queue lane =
          mailbox.queue lane ++
            (if lane = message.lane then [message] else []) ∧
        (mailbox.put capacity message).blocked lane =
          mailbox.blocked lane) := by
  unfold Mailbox.put Mailbox.enqueue
  by_cases same : lane = message.lane
  · subst same
    split
    · right
      simp
    · left
      simp
  · split
    · right
      simp [same]
    · left
      simp [same]

/-- What is inserted may as well stand last. -/
theorem perm_swap_last (front new back : List Message) :
    (front ++ new ++ back).Perm (front ++ back ++ new) := by
  rw [List.append_assoc, List.append_assoc]
  exact List.perm_append_comm.append_left front

/-- A message is delivered to the fresh incarnation. -/
theorem Carrying.deliver
    {lane : Lane} (carrying : Carrying s lane) (message : Message)
    (allowed : message.lane = lane → s.pending lane = []) :
    Carrying
      { s with
        fresh := s.fresh.put capacity message
        later := s.arrived message }
      lane := by
  rcases carrying.owed with ⟨moved, tail, queue, owed, perm⟩
  constructor
  · rcases put_cases s.fresh message lane with ⟨kept, more⟩ | ⟨more, kept⟩
    · refine ⟨moved, tail, kept.trans queue, owed, ?_⟩
      dsimp only
      rw [more, arrived_eq, ← List.append_assoc]
      exact perm.append_right _
    · refine
        ⟨moved, tail ++ if lane = message.lane then [message] else [], ?_,
          owed, ?_⟩
      · rw [more, queue, List.append_assoc]
      · dsimp only
        rw [kept, arrived_eq]
        exact (perm_swap_last tail _ _).trans (perm.append_right _)
  · intro pending
    dsimp only
    rw [arrived_eq]
    have other : lane ≠ message.lane := by
      intro same
      exact pending (allowed same.symm)
    rw [if_neg other, List.append_nil]
    exact carrying.alone pending

/-- A waiting sender of the fresh incarnation finds room. -/
theorem Carrying.letIn
    {lane : Lane} (carrying : Carrying s lane) {served : Lane}
    {fresh : Mailbox} (admitted : s.fresh.letIn capacity served = some fresh) :
    Carrying { s with fresh := fresh } lane := by
  rcases carrying.owed with ⟨moved, tail, queue, owed, perm⟩
  refine ⟨?_, carrying.alone⟩
  unfold Mailbox.letIn at admitted
  split at admitted
  · rename_i message rest waiting
    split at admitted
    · cases admitted
      by_cases same : lane = served
      · subst same
        refine ⟨moved, tail ++ [message], by simp [queue], owed, ?_⟩
        rw [waiting] at perm
        simpa using perm
      · exact
          ⟨moved, tail, by simpa [same] using queue, owed,
            by simpa [same] using perm⟩
    · cases admitted
  · cases admitted

/-- While a lane has messages to carry over, its fresh queue is those moved. -/
theorem Carrying.untouched
    {lane : Lane} (carrying : Carrying s lane)
    (pending : s.pending lane ≠ []) :
    s.owed lane = s.fresh.queue lane ++ s.pending lane ∧
      s.fresh.blocked lane = [] := by
  rcases carrying.owed with ⟨moved, tail, queue, owed, perm⟩
  have none := carrying.alone pending
  rw [none] at perm
  have empty := List.perm_nil.mp perm
  rcases List.append_eq_nil_iff.mp empty with ⟨noTail, noBlocked⟩
  rw [noTail, List.append_nil] at queue
  rw [queue]
  exact ⟨owed, noBlocked⟩

/-- The next message is put into the fresh mailbox. -/
theorem Carrying.move
    {lane : Lane} (carrying : Carrying s lane) {message : Message}
    {rest : List Message} (moving : s.stage = .moving (message :: rest)) :
    Carrying
      { s with stage := .moving rest, fresh := s.fresh.enqueue message }
      lane := by
  by_cases same : message.lane = lane
  · subst same
    have before :
        s.pending message.lane =
          message ::
            rest.filter fun other => other.lane = message.lane := by
      simp [State.pending, moving]
    have nonempty : s.pending message.lane ≠ [] := by
      rw [before]
      exact List.cons_ne_nil _ _
    rcases carrying.untouched nonempty with ⟨owed, unblocked⟩
    have none := carrying.alone nonempty
    constructor
    · refine
        ⟨s.fresh.queue message.lane ++ [message], [], ?_, ?_, ?_⟩
      · simp [Mailbox.enqueue]
      · dsimp only
        rw [owed, before, List.append_assoc]
        rfl
      · simp [Mailbox.enqueue, unblocked, none]
    · intro _
      exact none
  · have before :
        s.pending lane =
          rest.filter fun other => other.lane = lane := by
      simp [State.pending, moving, same]
    rcases carrying.owed with ⟨moved, tail, queue, owed, perm⟩
    have apart : lane ≠ message.lane := fun equal => same equal.symm
    constructor
    · refine ⟨moved, tail, ?_, ?_, ?_⟩
      · simpa [Mailbox.enqueue, apart] using queue
      · dsimp only
        rw [owed, before]
        rfl
      · simpa [Mailbox.enqueue] using perm
    · intro pending
      apply carrying.alone
      rw [before]
      exact pending

/-- A message is put into the mailbox and overtakes nothing that is owed. -/
theorem Served.receive
    {lane : Lane} (served : Served s lane) {message : Message}
    (allowed : s.overtaken capacity message.lane = false) :
    Served (s.receive capacity message) lane := by
  rcases served with ⟨rest, whole, perm⟩
  have later := arrived_eq s message lane
  by_cases same : lane = message.lane
  · rw [if_pos same] at later
    by_cases room : s.old.room capacity lane = true
    · by_cases waiting : s.old.blocked lane = []
      · refine ⟨rest ++ [message], ?_, ?_⟩
        · subst same
          have line :
              (s.receive capacity message).old.line message.lane =
                s.old.line message.lane ++ [message] := by
            simp [State.receive, Mailbox.put, room, Mailbox.enqueue,
              Mailbox.line, waiting]
          rw [line, ← List.append_assoc]
          exact (congrArg (· ++ [message]) whole).trans
            (List.append_assoc _ _ _)
        · exact (perm.append_right _).trans (.of_eq later.symm)
      · subst same
        have paid : s.indebted message.lane = false := by
          cases owing : s.indebted message.lane with
          | false => rfl
          | true =>
              simp [State.overtaken, owing, room, waiting] at allowed
        have enough :
            (s.owed message.lane).length ≤ (s.gone message.lane).length := by
          simpa [State.indebted, State.gone] using paid
        have owing :
            s.owed message.lane <+: s.gone message.lane := by
          refine List.prefix_of_prefix_length_le
            (List.prefix_append _ rest) ?_ enough
          rw [← whole]
          exact List.prefix_append _ _
        rcases owing with ⟨more, gone⟩
        have tail : rest = more ++ s.old.line message.lane := by
          rw [← gone, List.append_assoc] at whole
          exact (List.append_cancel_left whole).symm
        refine
          ⟨more ++ s.old.queue message.lane ++ [message] ++
            s.old.blocked message.lane, ?_, ?_⟩
        · simp [State.receive, Mailbox.put, room, Mailbox.enqueue,
            Mailbox.line, State.gone] at gone ⊢
          rw [← gone]
          simp
        · rw [tail] at perm
          refine (perm_swap_last _ _ _).trans ?_
          refine .trans ?_ (.of_eq later.symm)
          refine (List.Perm.append_right _ ?_)
          simpa [Mailbox.line] using perm
    · refine ⟨rest ++ [message], ?_, ?_⟩
      · subst same
        have line :
            (s.receive capacity message).old.line message.lane =
              s.old.line message.lane ++ [message] := by
          simp [State.receive, Mailbox.put, room, Mailbox.line]
        rw [line, ← List.append_assoc]
        exact (congrArg (· ++ [message]) whole).trans
          (List.append_assoc _ _ _)
      · exact (perm.append_right _).trans (.of_eq later.symm)
  · rw [if_neg same, List.append_nil] at later
    refine ⟨rest, ?_, perm.trans (.of_eq later.symm)⟩
    have line :
        (s.receive capacity message).old.line lane = s.old.line lane := by
      unfold State.receive Mailbox.put Mailbox.line
      split <;> simp [Mailbox.enqueue, same]
    rw [line]
    exact whole

theorem Living.receive
    (living : Living s) {message : Message}
    (allowed : s.overtaken capacity message.lane = false) :
    Living (s.receive capacity message) where
  fresh := living.fresh
  served := fun lane => (living.served lane).receive allowed
  first := living.first

/-- A waiting sender of the mailbox finds room. -/
theorem Living.letIn
    (living : Living s) {lane : Lane} {old : Mailbox}
    (admitted : s.old.letIn capacity lane = some old) :
    Living { s with old := old } where
  fresh := living.fresh
  served := by
    intro other
    rcases living.served other with ⟨rest, whole, perm⟩
    refine ⟨rest, ?_, perm⟩
    dsimp only
    rw [Mailbox.line_of_letIn admitted other]
    exact whole
  first := living.first

/-- The incarnation gets a message out of a queue. -/
theorem Living.handle
    (living : Living s) (ordered : s.old.Ordered capacity)
    {suspended : Bool} {now : Nat} {message : Message} {old : Mailbox}
    (allowed : carries capacity s (.take suspended now) = true)
    (taken : s.old.get suspended = some (message, old)) :
    Living (s.handle now message old) := by
  rcases Mailbox.get_cases taken with ⟨lane, rest, found, rfl, late⟩
  have own : message.lane = lane := by
    apply ordered.lanes lane message
    simp [Mailbox.line, found]
  subst own
  constructor
  · exact living.fresh
  · intro other
    rcases living.served other with ⟨tail, whole, perm⟩
    refine ⟨tail, ?_, perm⟩
    refine Eq.trans ?_ whole
    by_cases same : other = message.lane
    · subst same
      simp [State.gone, State.handle, Mailbox.line, found]
    · simp [State.gone, State.handle, Mailbox.line, same]
  · intro some
    cases served : message.lane with
    | priority =>
        have before : s.dequeued .normal ≠ [] := by
          simpa [State.handle, served] using some
        refine (living.first before).trans ?_
        simp [State.gone, State.handle, served]
    | normal =>
        have none := late served
        have paid : s.indebted .priority = false := by
          simpa [carries, none] using allowed
        have enough :
            (s.owed .priority).length ≤ (s.gone .priority).length := by
          simpa [State.indebted, State.gone] using paid
        rcases living.served .priority with ⟨tail, whole, -⟩
        have owing := List.prefix_of_prefix_length_le
          (List.prefix_append _ tail)
          (whole ▸ List.prefix_append _ _) enough
        simpa [State.gone, State.handle, served] using owing

/-- The next message of the backlog has room. -/
theorem Sound.roomy
    (sound : Sound capacity s) {message : Message} {rest : List Message}
    (moving : s.stage = .moving (message :: rest)) :
    s.fresh.room capacity message.lane = true := by
  have replacing := sound.replacing (by simp [moving, Stage.carrying])
  have before :
      s.pending message.lane =
        message :: rest.filter fun other => other.lane = message.lane := by
    simp [State.pending, moving]
  have nonempty : s.pending message.lane ≠ [] := by
    rw [before]
    exact List.cons_ne_nil _ _
  have owed := ((replacing.carried message.lane).untouched nonempty).1
  unfold Mailbox.room
  rcases sound.fits _ moving message.lane with unbounded | fits
  · simp [unbounded]
  · rw [owed, before, List.length_append, List.length_cons] at fits
    have free :
        (s.fresh.queue message.lane).length < capacity message.lane := by
      omega
    simp [free]

/-- The fresh mailbox changes while the backlog is carried over. -/
theorem Sound.refresh
    (sound : Sound capacity s) (carrying : s.stage.carrying = true)
    {fresh : Mailbox} {later : Lane → List Message}
    (ordered : fresh.Ordered capacity)
    (kept : ∀ lane, Carrying { s with fresh := fresh, later := later } lane) :
    Sound capacity { s with fresh := fresh, later := later } where
  old := sound.old
  living := by
    intro early
    cases stage : s.stage <;>
      simp [stage, Stage.early, Stage.carrying] at early carrying
  wired := sound.wired
  replacing := fun _ => ⟨ordered, (sound.replacing carrying).idle, kept⟩
  fits := sound.fits
  lifetime := sound.lifetime

theorem Sound.deliver
    (sound : Sound capacity s) {message : Message}
    (allowed : carries capacity s (.deliver message) = true)
    (stepped : step capacity s (.deliver message) = some after) :
    Sound capacity after := by
  simp only [step] at stepped
  simp only [carries] at allowed
  split at stepped
  case h_4 stage =>
    cases stepped
    have carrying : s.stage.carrying = true := by simp [stage, Stage.carrying]
    have replacing := sound.replacing carrying
    refine sound.refresh carrying (replacing.fresh.put message) ?_
    intro lane
    refine (replacing.carried lane).deliver message ?_
    rintro rfl
    simp only [stage] at allowed
    simpa [State.pending, stage] using allowed
  case h_5 rest stage =>
    cases stepped
    have carrying : s.stage.carrying = true := by simp [stage, Stage.carrying]
    have replacing := sound.replacing carrying
    refine sound.refresh carrying (replacing.fresh.put message) ?_
    intro lane
    refine (replacing.carried lane).deliver message ?_
    rintro rfl
    simp only [stage] at allowed
    simpa [State.pending, stage, List.filter_eq_nil_iff] using allowed
  all_goals
    rename_i stage
    cases stepped
    have early : s.stage.early = true := by simp [stage, Stage.early]
    simp only [stage, Bool.not_eq_true'] at allowed
    exact sound.live (sound.old.put message) early
      ((sound.living early).receive allowed) rfl

/-- A waiting sender of the old mailbox finds room. -/
theorem Sound.admitOld
    (sound : Sound capacity s) {lane : Lane}
    (stepped : step capacity s (.admitOld lane) = some after) :
    Sound capacity after := by
  rcases Option.map_eq_some_iff.mp stepped with ⟨old, admitted, rfl⟩
  have lines := Mailbox.line_of_letIn admitted
  constructor
  · exact sound.old.letIn admitted
  · intro early
    exact (sound.living early).letIn admitted
  · intro wired other
    rw [sound.wired wired other]
    exact (lines other).symm
  · intro carrying
    have replacing := sound.replacing carrying
    refine ⟨replacing.fresh, replacing.idle, ?_⟩
    intro other
    have held := replacing.carried other
    have same :
        State.pending { s with old := old } other = s.pending other := by
      unfold State.pending
      dsimp only
      split
      · exact lines other
      · rfl
      · rfl
    constructor
    · rcases held.owed with ⟨moved, tail, queue, owed, perm⟩
      exact ⟨moved, tail, queue, by rw [same]; exact owed, perm⟩
    · rw [same]
      exact held.alone
  · exact sound.fits
  · exact sound.lifetime

theorem Sound.take
    (sound : Sound capacity s) {suspended : Bool} {now : Nat}
    (allowed : carries capacity s (.take suspended now) = true)
    (stepped : step capacity s (.take suspended now) = some after) :
    Sound capacity after := by
  simp only [step] at stepped
  split at stepped
  case h_3 => cases stepped
  all_goals
    rename_i stage
    rcases Option.map_eq_some_iff.mp stepped with
      ⟨⟨message, old⟩, taken, rfl⟩
    have early : s.stage.early = true := by simp [stage, Stage.early]
    refine sound.live (sound.old.get taken) ?_
      ((sound.living early).handle sound.old allowed taken) rfl
    simp only [State.handle]
    split
    · rfl
    · exact early

theorem Sound.stop
    (sound : Sound capacity s) {id : Nat}
    (allowed : carries capacity s (.stop id) = true)
    (stepped : step capacity s (.stop id) = some after) :
    Sound capacity after := by
  have spared : s.overtaken capacity (shutdownMessage id).lane = false := by
    simpa [carries, shutdownMessage] using allowed
  simp only [step] at stepped
  split at stepped
  · rename_i stage
    cases stepped
    have living := sound.living (by simp [stage, Stage.early])
    have received := living.receive spared
    exact sound.live (sound.old.put _) rfl
      ⟨received.fresh, received.served, received.first⟩ rfl
  · rename_i stage
    cases stepped
    have early : s.stage.early = true := by simp [stage, Stage.early]
    exact sound.live (sound.old.put _) early
      ((sound.living early).receive spared) rfl
  · cases stepped

theorem Sound.die
    (sound : Sound capacity s)
    (stepped : step capacity s .die = some after) : Sound capacity after := by
  simp only [step] at stepped
  split at stepped
  case h_3 => cases stepped
  all_goals
    rename_i stage
    cases stepped
    have living := sound.living (by simp [stage, Stage.early])
    exact sound.live sound.old rfl
      ⟨living.fresh, living.served, living.first⟩ rfl

/-- The child is replaced, and nothing has reached its successor. -/
theorem Sound.wire
    (sound : Sound capacity s) (clear : s.clear = true)
    (stepped : step capacity s .wire = some after) : Sound capacity after := by
  simp only [step] at stepped
  split at stepped
  · rename_i stage
    split at stepped
    · cases stepped
      have empty := (sound.living (by simp [stage, Stage.early])).fresh
      have owed := business_of_clear clear
      constructor
      · exact sound.old
      · intro early
        cases early
      · intro _ lane
        exact owed lane
      · intro _
        refine ⟨?_, fun _ => rfl, ?_⟩
        · simp only [State.settle, empty]
          exact Mailbox.ordered_empty
        · intro lane
          constructor
          · refine ⟨[], [], ?_, owed lane, ?_⟩
            · simp [State.settle, empty, Mailbox.empty]
            · simp [State.settle, empty, Mailbox.empty]
          · intro _
            rfl
      · intro rest moving
        cases moving
      · intro lane message within
        exact business_lifetime within
    · cases stepped
  · cases stepped

/-- The old mailbox is drained; no sender waits at it. -/
theorem Sound.drain
    (sound : Sound capacity s) (allowed : carries capacity s .drain = true)
    (stepped : step capacity s .drain = some after) :
    Sound capacity after := by
  have unblocked : ∀ lane, s.old.blocked lane = [] := by
    intro lane
    simp only [carries, List.all_eq_true] at allowed
    exact List.isEmpty_iff.mp (allowed lane (by cases lane <;> simp))
  have lines : ∀ lane, s.old.line lane = s.old.queue lane := by
    intro lane
    simp [Mailbox.line, unblocked lane]
  simp only [step] at stepped
  split at stepped
  · rename_i stage
    cases stepped
    have owed := sound.wired stage
    have replacing := sound.replacing (by simp [stage, Stage.carrying])
    constructor
    · constructor
      · intro lane message within
        simp [Mailbox.line, Mailbox.drained, unblocked lane] at within
      · intro lane
        exact .inr (Nat.zero_le _)
    · intro early
      cases early
    · intro wired
      cases wired
    · intro _
      refine ⟨replacing.fresh, replacing.idle, ?_⟩
      intro lane
      have same :
          State.pending
              { s with
                stage := .moving s.old.contents
                old := s.old.drained }
              lane =
            s.pending lane := by
        simp only [State.pending, stage]
        rw [Mailbox.contents_filter sound.old lane, lines lane]
      have held := replacing.carried lane
      constructor
      · rcases held.owed with ⟨moved, tail, queue, whole, perm⟩
        exact ⟨moved, tail, queue, by rw [same]; exact whole, perm⟩
      · rw [same]
        exact held.alone
    · intro rest _ lane
      dsimp only
      rw [owed lane, lines lane]
      exact sound.old.bounded lane
    · exact sound.lifetime
  · cases stepped

theorem Sound.move
    (sound : Sound capacity s)
    (stepped : step capacity s .move = some after) :
    Sound capacity after := by
  simp only [step] at stepped
  split at stepped
  · rename_i message rest stage
    split at stepped
    · rename_i room
      cases stepped
      have replacing := sound.replacing (by simp [stage, Stage.carrying])
      constructor
      · exact sound.old
      · intro early
        cases early
      · intro wired
        cases wired
      · intro _
        refine ⟨replacing.fresh.enqueue room, replacing.idle, ?_⟩
        intro lane
        exact (replacing.carried lane).move stage
      · intro _ _
        exact sound.fits _ stage
      · exact sound.lifetime
    · cases stepped
  · cases stepped

/-- The successor starts with the backlog before what came later. -/
theorem Sound.start
    (sound : Sound capacity s)
    (stepped : step capacity s .start = some after) :
    Sound capacity after := by
  simp only [step] at stepped
  split at stepped
  · rename_i stage
    cases stepped
    have replacing := sound.replacing (by simp [stage, Stage.carrying])
    refine sound.live replacing.fresh rfl ⟨rfl, ?_, ?_⟩ rfl
    · intro lane
      rcases (replacing.carried lane).owed with
        ⟨moved, tail, queue, owed, perm⟩
      have all : s.owed lane = moved := by
        simpa [State.pending, stage] using owed
      refine ⟨tail ++ s.fresh.blocked lane, ?_, perm⟩
      simp [State.gone, replacing.idle lane, Mailbox.line, queue, all]
    · intro some
      exact absurd (replacing.idle .normal) some
  · cases stepped

theorem Sound.reuse
    (sound : Sound capacity s) (clear : s.clear = true)
    (stepped : step capacity s .reuse = some after) :
    Sound capacity after := by
  simp only [step] at stepped
  split at stepped
  · rename_i stage
    split at stepped
    · cases stepped
      have empty := (sound.living (by simp [stage, Stage.early])).fresh
      constructor
      · exact sound.old
      · intro _
        refine ⟨empty, ?_, ?_⟩
        · intro lane
          refine ⟨[], ?_, .nil⟩
          simp only [State.settle, State.gone, List.map_nil, List.nil_append,
            List.append_nil]
          exact (business_of_clear clear lane).symm
        · intro some
          exact absurd rfl some
      · intro wired
        cases wired
      · intro carrying
        cases carrying
      · intro rest moving
        cases moving
      · intro lane message within
        exact business_lifetime within
    · cases stepped
  · cases stepped

/-- One step keeps the invariant. -/
theorem step_sound
    (sound : Sound capacity s) (allowed : carries capacity s label = true)
    (stepped : step capacity s label = some after) :
    Sound capacity after := by
  cases label with
  | deliver message => exact sound.deliver allowed stepped
  | admitOld lane => exact sound.admitOld stepped
  | admitFresh lane =>
      simp only [step] at stepped
      split at stepped
      case h_3 => cases stepped
      all_goals
        rename_i stage
        rcases Option.map_eq_some_iff.mp stepped with ⟨fresh, admitted, rfl⟩
        have carrying : s.stage.carrying = true := by
          simp [stage, Stage.carrying]
        have replacing := sound.replacing carrying
        refine sound.refresh carrying (replacing.fresh.letIn admitted) ?_
        intro other
        exact (replacing.carried other).letIn admitted
  | take suspended now => exact sound.take allowed stepped
  | stop id => exact sound.stop allowed stepped
  | die => exact sound.die stepped
  | wire => exact sound.wire allowed stepped
  | drain => exact sound.drain allowed stepped
  | move => exact sound.move stepped
  | start => exact sound.start stepped
  | reuse => exact sound.reuse allowed stepped

end Sound

/-! ## Every run -/

/-- The messages among these that `get` returned: the unexpired ones. -/
def returned (dequeued : List (Message × Nat)) : List Message :=
  (dequeued.filter fun (message, now) => message.unexpired now).map Prod.fst

/--
The messages that the loop took from a lane are the unexpired ones of the
backlog, and others only when the backlog is exhausted.
-/
def BacklogFirst (s : State) (lane : Lane) : Prop :=
  ∃ backlog others left, s.owed lane = backlog.map Prod.fst ++ left ∧
    (others ≠ [] → left = []) ∧
    returned (s.dequeued lane) = returned backlog ++ returned others

theorem Served.backlogFirst
    {s : State} {lane : Lane} (served : Served s lane) :
    BacklogFirst s lane := by
  rcases served with ⟨rest, whole, -⟩
  rcases List.append_eq_append_iff.mp whole with
    ⟨left, owed, -⟩ | ⟨more, gone, -⟩
  · refine ⟨s.dequeued lane, [], left, owed, ?_, ?_⟩
    · intro some
      exact absurd rfl some
    · simp [returned]
  · rcases List.map_eq_append_iff.mp gone with
      ⟨backlog, others, dequeued, own, -⟩
    refine ⟨backlog, others, [], ?_, fun _ => rfl, ?_⟩
    · rw [own, List.append_nil]
    · simp [dequeued, returned]

/--
A restart carries over exactly the backlog: an incarnation gets all it was
owed, in the order of its lane, before what was delivered to it; the priority
messages come first; no shutdown message is among them; and carrying them over
does not wait.
-/
structure CarriesBacklog (capacity : Lane → Nat) (s : State) : Prop where
  served : s.stage.early = true → ∀ lane, Served s lane
  backlog : s.stage.early = true → ∀ lane, BacklogFirst s lane
  first : s.stage.early = true → PriorityFirst s
  lifetime : ∀ lane, ∀ message ∈ s.owed lane, message.shutdown = false
  proceeds : ∀ message rest, s.stage = .moving (message :: rest) →
    (step capacity s .move).isSome = true

theorem Sound.carriesBacklog
    {capacity : Lane → Nat} {s : State} (sound : Sound capacity s) :
    CarriesBacklog capacity s where
  served := fun early => (sound.living early).served
  backlog := fun early lane =>
    ((sound.living early).served lane).backlogFirst
  first := fun early => (sound.living early).first
  lifetime := sound.lifetime
  proceeds := by
    intro message rest moving
    simp [step, moving, sound.roomy moving]

theorem backlog_carried_in_every_run
    (capacity : Lane → Nat) {s : State}
    (reached : Reaches (step capacity) (carries capacity · ·) init s) :
    CarriesBacklog capacity s := by
  have sound : Sound capacity s := by
    refine reached.invariant sound_init ?_
    intro before label after sound allowed stepped
    exact step_sound sound allowed stepped
  exact sound.carriesBacklog

/-- `maxsize` and `priority_maxsize` of an agent. -/
def agentCapacity : Lane → Nat
  | .priority => 100
  | .normal => 1000

/-- A message of the normal lane. -/
def task (id : Nat) : Message where
  id := id
  lane := .normal

/-- A child crashes with two messages queued. -/
def crashRun : List Label :=
  [.deliver (task 1), .deliver (task 2), .take false 0, .deliver (task 3),
    .die, .wire, .drain, .move, .move, .start, .deliver (task 4),
    .take false 0]

/-- A child crashes with two messages queued; the next one gets the first. -/
theorem crashed_child_keeps_backlog :
    ∃ s, s.owed .normal = [task 2, task 3] ∧
      returned (s.dequeued .normal) = [task 2] ∧
      CarriesBacklog agentCapacity s := by
  have run :
      ((runWhere (step agentCapacity) (carries agentCapacity · ·) init
        crashRun).map fun s =>
          decide (s.owed .normal = [task 2, task 3] ∧
            returned (s.dequeued .normal) = [task 2])) = some true := by
    decide +kernel
  rcases Option.map_eq_some_iff.mp run with ⟨s, ran, held⟩
  have facts := of_decide_eq_true held
  exact ⟨s, facts.1, facts.2,
    backlog_carried_in_every_run agentCapacity
      (reaches_of_runWhere .start ran)⟩

/-- A child that hangs is stopped and replaced. -/
def hungRun : List Label :=
  [.deliver (task 1), .take false 0, .deliver (task 2), .stop 7, .die, .wire,
    .drain, .move, .move, .start, .take false 0]

/--
A child that hangs in its handler is stopped for a restart and cancelled: its
successor takes the shutdown message first and ends.
-/
theorem successor_takes_old_shutdown :
    ¬ ∀ s, Reaches (step agentCapacity) (fun _ _ => True) init s →
      CarriesBacklog agentCapacity s := by
  intro always
  have run :
      ((runWhere (step agentCapacity) (fun _ _ => True) init
        hungRun).map fun s =>
          decide (s.stage = .dead ∧ s.owed .priority = [] ∧
            s.later .priority = [] ∧
            s.gone .priority = [shutdownMessage 7])) = some true := by
    decide +kernel
  rcases Option.map_eq_some_iff.mp run with ⟨s, ran, held⟩
  have facts := of_decide_eq_true held
  have carries := always s (reaches_of_runWhere .start ran)
  rcases carries.served (by rw [facts.1]; rfl) .priority with
    ⟨rest, whole, perm⟩
  rw [facts.2.1, facts.2.2.2, List.nil_append] at whole
  rw [facts.2.2.1, ← whole] at perm
  cases List.perm_nil.mp perm

end Civitas.Supervision.Backlog
