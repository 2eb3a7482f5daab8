import Civitas.Transport.Replies
import Mathlib.Data.List.Perm.Basic

/-!
# Subscriptions over restarts

`subscribe`, `unsubscribe` and `publish` of the three transports for one
address, under `setup_agent` and `teardown_agent` of the bus.  A subscription
is a slot of `_handlers` in process, a counted topic filter beside that slot
with ZMQ, and an object of the broker beside that slot with NATS, where
`_subscriptions` remembers the object that was made last.  The broker makes one
copy of a message for every live object; a copy is handed to whatever handler
the address has when it is dispatched.

Every restart calls `setup_agent` for a fresh incarnation and none calls
`teardown_agent`.  A delivery that finds the mailbox of its incarnation full
is held until there is room.
-/

namespace Civitas.Transport.Subscriptions

open Civitas.Transition
open Civitas.Transport.Replies (Kind)

/-! ## State -/

/-- A copy of a message on its way to a subscription object. -/
structure Copy where
  message : Nat
  via : Nat
deriving DecidableEq

/-- A delivery that waits in `mailbox.put` of an incarnation. -/
structure Held where
  copy : Copy
  incarnation : Nat
deriving DecidableEq

/-- A message that was handed to an incarnation. -/
structure Delivery where
  message : Nat
  incarnation : Nat
  /-- The incarnation that was set up at that moment. -/
  current : Option Nat
deriving DecidableEq

/-- An address, its subscription and the messages for it. -/
structure State where
  /-- The slot of the address in `_handlers`. -/
  handler : Option Nat := none
  /-- How often the SUB socket of ZMQ has the topic filter. -/
  filters : Nat := 0
  /-- The slot of the address in `_subscriptions` of NATS. -/
  subscription : Option Nat := none
  /-- The subscription objects of the address that the broker serves. -/
  live : List Nat := []
  /-- The number of subscription objects made so far. -/
  objects : Nat := 0
  inFlight : List Copy := []
  held : List Held := []
  /-- The number of incarnations set up so far. -/
  incarnations : Nat := 0
  /-- The incarnation set up last, unless it has been torn down. -/
  current : Option Nat := none
  /-- The last `setup_agent` has returned and no teardown followed. -/
  ready : Bool := false
  published : Nat := 0
  /-- What was published while set up, since the last teardown. -/
  owed : List Nat := []
  delivered : List Delivery := []

/-- Nobody has the address. -/
def init : State := {}

namespace State

/-- `Transport.subscribe`; the broker or the socket may refuse. -/
def subscribe
    (s : State) (kind : Kind) (incarnation : Nat) (refused : Bool) : State :=
  let s := { s with handler := some incarnation }
  match kind with
  | .inProcess => s
  | .zmq =>
      if refused then s else { s with filters := s.filters + 1 }
  | .nats =>
      if refused then s
      else
        { s with
          live := s.live ++ [s.objects]
          subscription := some s.objects
          objects := s.objects + 1 }

/-- `Transport.unsubscribe`; what the broker or the socket raises is logged. -/
def unsubscribe (s : State) (kind : Kind) (raised : Bool) : State :=
  let s := { s with handler := none }
  match kind with
  | .inProcess => s
  | .zmq =>
      if raised then s else { s with filters := s.filters - 1 }
  | .nats =>
      match s.subscription with
      | none => s
      | some object =>
          { s with
            subscription := none
            live := if raised then s.live else s.live.erase object }

/-- `MessageBus.setup_agent` for the next incarnation. -/
def setupAgent (s : State) (kind : Kind) (refused : Bool) : State :=
  let incarnation := s.incarnations
  { s.subscribe kind incarnation refused with
    incarnations := incarnation + 1
    current := some incarnation
    ready := !refused }

/-- `MessageBus.teardown_agent`. -/
def teardownAgent (s : State) (kind : Kind) (raised : Bool) : State :=
  { s.unsubscribe kind raised with
    current := none
    ready := false
    owed := [] }

/-- The message is in the mailbox of the incarnation. -/
def deliver (s : State) (message incarnation : Nat) : State :=
  { s with
    delivered := s.delivered ++ [⟨message, incarnation, s.current⟩] }

/-- The handler of the address, if there is one, is called with the copy. -/
def hand (s : State) (copy : Copy) (room : Bool) : State :=
  match s.handler with
  | none => s
  | some incarnation =>
      if room then s.deliver copy.message incarnation
      else { s with held := s.held ++ [⟨copy, incarnation⟩] }

/-- The next message is known to the observer. -/
def record (s : State) : State :=
  { s with
    published := s.published + 1
    owed := if s.ready then s.owed ++ [s.published] else s.owed }

/-- `Transport.publish` of the next message. -/
def publish (s : State) (kind : Kind) (room : Bool) : State :=
  match kind with
  | .inProcess => s.record.hand ⟨s.published, 0⟩ room
  | .zmq =>
      if 0 < s.filters then
        { s.record with inFlight := s.inFlight ++ [⟨s.published, 0⟩] }
      else s.record
  | .nats =>
      { s.record with
        inFlight :=
          s.inFlight ++ s.live.map fun object => ⟨s.published, object⟩ }

/-- The task that receives for the object waits for room in a mailbox. -/
def busy (s : State) (via : Nat) : Bool :=
  s.held.any fun held => held.copy.via = via

/-- The copy has been taken off the wire. -/
def take (s : State) (copy : Copy) : State :=
  { s with inFlight := s.inFlight.erase copy }

/-- The delivery does not wait any more. -/
def release (s : State) (held : Held) : State :=
  { s with held := s.held.erase held }

/-- `_receiver_loop` of ZMQ, or `_on_msg` of a NATS subscription object. -/
def dispatch
    (s : State) (kind : Kind) (via : Nat) (room : Bool) : Option State :=
  if s.busy via then none
  else
    match s.inFlight.find? fun copy => copy.via = via with
    | none => none
    | some copy =>
        if kind = .nats ∧ via ∉ s.live then some (s.take copy)
        else some ((s.take copy).hand copy room)

/-- A delivery that waited finds room. -/
def land (s : State) (held : Held) : Option State :=
  if held ∈ s.held then
    some ((s.release held).deliver held.copy.message held.incarnation)
  else none

end State

/-! ## Steps -/

/-- What happens at an address. -/
inductive Label where
  | setup (refused : Bool)
  | teardown (raised : Bool)
  | publish (room : Bool)
  | dispatch (via : Nat) (room : Bool)
  | land (held : Held)
deriving DecidableEq

/-- One step at an address. -/
def step (kind : Kind) (s : State) : Label → Option State
  | .setup refused =>
      if kind = .inProcess ∧ refused = true then none
      else some (s.setupAgent kind refused)
  | .teardown raised => some (s.teardownAgent kind raised)
  | .publish room => some (s.publish kind room)
  | .dispatch via room => s.dispatch kind via room
  | .land held => s.land held

/--
No delivery waits at the mailbox of an incarnation that is replaced or torn
down, and NATS makes a subscription object only when the address has no live
one.
-/
def orderly (kind : Kind) (s : State) : Label → Prop
  | .setup refused =>
      s.held = [] ∧ (kind = .nats → refused = false → s.live = [])
  | .teardown _ => s.held = []
  | _ => True

instance (kind : Kind) (s : State) (label : Label) :
    Decidable (orderly kind s label) := by
  unfold orderly
  split <;> infer_instance

/-- The steps of the transport and of the mailboxes alone. -/
def receiving (_ : State) : Label → Prop
  | .dispatch _ _ => True
  | .land _ => True
  | _ => False

/-! ## What is promised -/

namespace State

/-- How often the message has been put into a mailbox. -/
def times (s : State) (message : Nat) : Nat :=
  s.delivered.countP fun delivery => delivery.message = message

/-- How many copies of the message are on their way. -/
def underWay (s : State) (message : Nat) : Nat :=
  s.inFlight.countP (fun copy => copy.message = message) +
    s.held.countP fun held => held.copy.message = message

/-- Nothing is on its way. -/
def settled (s : State) : Prop :=
  s.inFlight = [] ∧ s.held = []

end State

/--
Deliveries go to the incarnation that is set up and to no other; no message is
delivered twice; and what was published while the address was set up is
delivered once by the steps of the transport.
-/
structure DeliveredOnce (kind : Kind) (s : State) : Prop where
  current :
    ∀ delivery ∈ s.delivered, delivery.current = some delivery.incarnation
  once : ∀ message, s.times message ≤ 1
  owed : ∀ message ∈ s.owed, s.times message + s.underWay message = 1
  completes :
    ∃ t, Reaches (step kind) receiving s t ∧ t.settled ∧
      ∀ message ∈ s.owed, t.times message = 1

/-! ## Invariant -/

/-- The transport carries a message published now to the address. -/
def served (kind : Kind) (s : State) : Prop :=
  match kind with
  | .inProcess => True
  | .zmq => 0 < s.filters
  | .nats => s.live ≠ []

/-- The invariant of an address. -/
structure Sound (kind : Kind) (s : State) : Prop where
  handler : s.handler = s.current
  current :
    ∀ delivery ∈ s.delivered, delivery.current = some delivery.incarnation
  held : ∀ held ∈ s.held, s.current = some held.incarnation
  fresh :
    ∀ message, s.published ≤ message →
      s.times message = 0 ∧ s.underWay message = 0
  once : ∀ message, s.times message + s.underWay message ≤ 1
  owed : ∀ message ∈ s.owed, s.times message + s.underWay message = 1
  known : ∀ message ∈ s.owed, message < s.published
  idle : s.current = none → s.owed = [] ∧ s.ready = false
  ready : s.ready = true → served kind s
  single : kind = .nats → s.live.length ≤ 1
  carried :
    kind = .nats → ∀ copy ∈ s.inFlight, copy.message ∈ s.owed →
      copy.via ∈ s.live
  direct : kind = .inProcess → s.inFlight = []

variable {kind : Kind} {s t : State}

theorem sound_init : Sound kind init := by
  constructor <;> simp [init, State.times, State.underWay]

/-! ## What a delivery changes -/

/-- Everything but the copies, the waiting deliveries and the log. -/
structure SameRecord (s t : State) : Prop where
  handler : t.handler = s.handler
  filters : t.filters = s.filters
  live : t.live = s.live
  current : t.current = s.current
  ready : t.ready = s.ready
  published : t.published = s.published
  owed : t.owed = s.owed

theorem hand_record
    (s : State) (copy : Copy) (room : Bool) :
    SameRecord s (s.hand copy room) ∧
      (s.hand copy room).inFlight = s.inFlight := by
  unfold State.hand
  split
  · exact ⟨by constructor <;> rfl, rfl⟩
  · split <;> exact ⟨by constructor <;> rfl, rfl⟩

theorem total_deliver
    (s : State) (message incarnation other : Nat) :
    (s.deliver message incarnation).times other +
        (s.deliver message incarnation).underWay other =
      s.times other + s.underWay other +
        if message = other then 1 else 0 := by
  simp only [State.deliver, State.times, State.underWay,
    List.countP_append, List.countP_singleton, decide_eq_true_eq]
  omega

/-- A copy that is handed to a handler counts once, delivered or held. -/
theorem total_hand
    {incarnation : Nat} (subscribed : s.handler = some incarnation)
    (copy : Copy) (room : Bool) (message : Nat) :
    (s.hand copy room).times message + (s.hand copy room).underWay message =
      s.times message + s.underWay message +
        if copy.message = message then 1 else 0 := by
  unfold State.hand
  rw [subscribed]
  cases room with
  | true => exact total_deliver s copy.message incarnation message
  | false =>
      simp only [Bool.false_eq_true, if_false, State.times,
        State.underWay, List.countP_append, List.countP_singleton,
        decide_eq_true_eq]
      omega

theorem hand_none
    (closed : s.handler = none) (copy : Copy) (room : Bool) :
    s.hand copy room = s := by
  unfold State.hand
  rw [closed]

theorem delivered_hand
    (agree : s.handler = s.current)
    (current : ∀ delivery ∈ s.delivered,
      delivery.current = some delivery.incarnation)
    (copy : Copy) (room : Bool) :
    ∀ delivery ∈ (s.hand copy room).delivered,
      delivery.current = some delivery.incarnation := by
  unfold State.hand
  cases subscribed : s.handler with
  | none => exact current
  | some incarnation =>
      cases room with
      | false => exact current
      | true =>
          intro delivery member
          rcases List.mem_append.mp member with old | new
          · exact current delivery old
          · cases List.mem_singleton.mp new
            exact agree.symm.trans subscribed

theorem held_hand
    (agree : s.handler = s.current)
    (held : ∀ held ∈ s.held, s.current = some held.incarnation)
    (copy : Copy) (room : Bool) :
    ∀ held ∈ (s.hand copy room).held,
      s.current = some held.incarnation := by
  unfold State.hand
  cases subscribed : s.handler with
  | none => exact held
  | some incarnation =>
      cases room with
      | true => exact held
      | false =>
          intro waiting member
          rcases List.mem_append.mp member with old | new
          · exact held waiting old
          · cases List.mem_singleton.mp new
            exact agree.symm.trans subscribed

/-- A copy leaves the line and its count falls by one. -/
theorem total_erase_copy
    {copy : Copy} (member : copy ∈ s.inFlight) (message : Nat) :
    s.times message + s.underWay message =
      (s.take copy).times message + (s.take copy).underWay message +
        if copy.message = message then 1 else 0 := by
  have split :
      s.inFlight.countP (fun copy => copy.message = message) =
        (copy :: s.inFlight.erase copy).countP
          (fun copy => copy.message = message) :=
    (List.perm_cons_erase member).countP_eq _
  simp only [List.countP_cons, decide_eq_true_eq] at split
  simp only [State.take, State.times, State.underWay]
  omega

theorem total_erase_held
    {held : Held} (member : held ∈ s.held) (message : Nat) :
    s.times message + s.underWay message =
      (s.release held).times message + (s.release held).underWay message +
        if held.copy.message = message then 1 else 0 := by
  have split :
      s.held.countP (fun held => held.copy.message = message) =
        (held :: s.held.erase held).countP
          (fun held => held.copy.message = message) :=
    (List.perm_cons_erase member).countP_eq _
  simp only [List.countP_cons, decide_eq_true_eq] at split
  simp only [State.release, State.times, State.underWay]
  omega

/-! ## Steps keep the invariant -/

theorem served_congr
    (filters : t.filters = s.filters) (live : t.live = s.live)
    (carries : served kind s) : served kind t := by
  cases kind with
  | inProcess => trivial
  | zmq =>
      unfold served
      rw [filters]
      exact carries
  | nats =>
      unfold served
      rw [live]
      exact carries

/-- Deliveries that keep the counts of what is owed keep the invariant. -/
theorem Sound.of_received
    (sound : Sound kind s) (same : SameRecord s t)
    (current : ∀ delivery ∈ t.delivered,
      delivery.current = some delivery.incarnation)
    (held : ∀ held ∈ t.held, s.current = some held.incarnation)
    (inFlight : ∀ copy ∈ t.inFlight, copy ∈ s.inFlight)
    (fewer : ∀ message,
      t.times message + t.underWay message ≤
        s.times message + s.underWay message)
    (kept : ∀ message ∈ s.owed,
      t.times message + t.underWay message =
        s.times message + s.underWay message) :
    Sound kind t where
  handler := by rw [same.handler, same.current]; exact sound.handler
  current := current
  held := by rw [same.current]; exact held
  fresh := by
    rw [same.published]
    intro message unpublished
    have none := sound.fresh message unpublished
    have bound := fewer message
    omega
  once := fun message => Nat.le_trans (fewer message) (sound.once message)
  owed := by
    rw [same.owed]
    intro message member
    rw [kept message member]
    exact sound.owed message member
  known := by
    rw [same.owed, same.published]
    exact sound.known
  idle := by
    rw [same.current, same.owed, same.ready]
    exact sound.idle
  ready := by
    rw [same.ready]
    intro prepared
    exact served_congr same.filters same.live (sound.ready prepared)
  single := by
    rw [same.live]
    exact sound.single
  carried := by
    rw [same.owed, same.live]
    intro nats copy member owes
    exact sound.carried nats copy (inFlight copy member) owes
  direct := by
    intro inProcess
    have none := sound.direct inProcess
    apply List.eq_nil_iff_forall_not_mem.mpr
    intro copy member
    have before := inFlight copy member
    rw [none] at before
    cases before

theorem Sound.land
    (sound : Sound kind s) {held : Held}
    (landed : s.land held = some t) : Sound kind t := by
  unfold State.land at landed
  split at landed
  · rename_i member
    cases landed
    have total : ∀ message,
        s.times message + s.underWay message =
          ((s.release held).deliver
              held.copy.message held.incarnation).times message +
            ((s.release held).deliver
              held.copy.message held.incarnation).underWay message := by
      intro message
      rw [total_deliver]
      exact total_erase_held member message
    refine sound.of_received (by constructor <;> rfl) ?_ ?_
      (fun copy old => old) (fun message => Nat.le_of_eq (total message).symm)
      (fun message _ => (total message).symm)
    · intro delivery logged
      rcases List.mem_append.mp logged with old | new
      · exact sound.current delivery old
      · cases List.mem_singleton.mp new
        exact sound.held held member
    · intro waiting left
      exact sound.held waiting (List.mem_of_mem_erase left)
  · cases landed

/-- A copy that is handed on or dropped for want of a handler. -/
theorem Sound.hand_copy
    (sound : Sound kind s) {copy : Copy} (member : copy ∈ s.inFlight)
    (room : Bool) :
    Sound kind ((s.take copy).hand copy room) := by
  have frame := hand_record (s.take copy) copy room
  have agree : (s.take copy).handler = (s.take copy).current :=
    sound.handler
  have same : SameRecord s ((s.take copy).hand copy room) := by
    rcases frame.1 with ⟨h, f, l, c, r, p, o⟩
    exact ⟨h, f, l, c, r, p, o⟩
  refine sound.of_received same
    (delivered_hand agree sound.current copy room)
    (held_hand agree sound.held copy room) ?_ ?_ ?_
  · intro other left
    rw [frame.2] at left
    exact List.mem_of_mem_erase left
  · intro message
    have before := total_erase_copy member message
    cases subscribed : (s.take copy).handler with
    | none =>
        rw [hand_none subscribed]
        omega
    | some incarnation =>
        rw [total_hand subscribed]
        omega
  · intro message owes
    have before := total_erase_copy member message
    cases subscribed : (s.take copy).handler with
    | none =>
        have closed := sound.idle (sound.handler.symm.trans subscribed)
        rw [closed.1] at owes
        cases owes
    | some incarnation =>
        rw [total_hand subscribed]
        omega

/-- NATS: a copy for an object that is not live any more is dropped. -/
theorem Sound.drop_copy
    (sound : Sound .nats s) {copy : Copy} (member : copy ∈ s.inFlight)
    (gone : copy.via ∉ s.live) :
    Sound .nats (s.take copy) := by
  refine sound.of_received (by constructor <;> rfl) sound.current sound.held
    (fun other left => List.mem_of_mem_erase left) ?_ ?_
  · intro message
    have before := total_erase_copy member message
    omega
  · intro message owes
    have before := total_erase_copy member message
    have other : copy.message ≠ message := by
      rintro rfl
      exact gone (sound.carried rfl copy member owes)
    rw [if_neg other] at before
    omega

theorem Sound.dispatch
    (sound : Sound kind s) {via : Nat} {room : Bool}
    (dispatched : s.dispatch kind via room = some t) : Sound kind t := by
  unfold State.dispatch at dispatched
  split at dispatched
  · cases dispatched
  · split at dispatched
    · cases dispatched
    · rename_i copy found
      have member := List.mem_of_find?_eq_some found
      have addressed : copy.via = via := by
        simpa using List.find?_some found
      split at dispatched
      · rename_i dropped
        cases dispatched
        rcases dropped with ⟨rfl, gone⟩
        exact sound.drop_copy member (addressed ▸ gone)
      · cases dispatched
        exact sound.hand_copy member room

theorem Sound.setup
    (sound : Sound kind s) {refused : Bool}
    (quiet : s.held = [])
    (alone : kind = .nats → refused = false → s.live = []) :
    Sound kind (s.setupAgent kind refused) := by
  have none : ∀ held ∈ s.held,
      some s.incarnations = some held.incarnation := by
    rw [quiet]
    intro held member
    cases member
  cases kind with
  | inProcess =>
      exact ⟨rfl, sound.current, none, sound.fresh, sound.once, sound.owed,
        sound.known, by rintro ⟨⟩, fun _ => trivial, by rintro ⟨⟩,
        by rintro ⟨⟩, sound.direct⟩
  | zmq =>
      cases refused with
      | true =>
          exact ⟨rfl, sound.current, none, sound.fresh, sound.once,
            sound.owed, sound.known, by rintro ⟨⟩, by rintro ⟨⟩,
            by rintro ⟨⟩, by rintro ⟨⟩, by rintro ⟨⟩⟩
      | false =>
          exact ⟨rfl, sound.current, none, sound.fresh, sound.once,
            sound.owed, sound.known, by rintro ⟨⟩, fun _ => Nat.succ_pos _,
            by rintro ⟨⟩,
            (by simp), by simp⟩
  | nats =>
      cases refused with
      | true =>
          exact ⟨rfl, sound.current, none, sound.fresh, sound.once,
            sound.owed, sound.known, by rintro ⟨⟩, by rintro ⟨⟩, sound.single,
            sound.carried, by simp⟩
      | false =>
          have empty := alone rfl rfl
          refine ⟨rfl, sound.current, none, sound.fresh, sound.once,
            sound.owed, sound.known, by rintro ⟨⟩, fun _ => ?_, fun _ => ?_,
            fun _ copy member owes => ?_, by simp⟩
          · exact List.append_ne_nil_of_right_ne_nil _
              (List.cons_ne_nil _ _)
          · simp [State.setupAgent, State.subscribe, empty]
          · have carried := sound.carried rfl copy member owes
            rw [empty] at carried
            cases carried

theorem Sound.teardown
    (sound : Sound kind s) {raised : Bool} (quiet : s.held = []) :
    Sound kind (s.teardownAgent kind raised) := by
  have none : ∀ held ∈ s.held,
      (none : Option Nat) = some held.incarnation := by
    rw [quiet]
    intro held member
    cases member
  cases kind with
  | inProcess =>
      exact ⟨rfl, sound.current, none, sound.fresh, sound.once, by rintro _ ⟨⟩,
        (by rintro _ ⟨⟩), fun _ => ⟨rfl, rfl⟩, by rintro ⟨⟩, by simp,
        by simp, sound.direct⟩
  | zmq =>
      cases raised <;>
        exact
          ⟨rfl, sound.current, none, sound.fresh, sound.once, by rintro _ ⟨⟩,
          (by rintro _ ⟨⟩), fun _ => ⟨rfl, rfl⟩, by rintro ⟨⟩, by simp,
          by simp, by simp⟩
  | nats =>
      have fewer :
          (s.teardownAgent .nats raised).live.length ≤ s.live.length := by
        unfold State.teardownAgent State.unsubscribe
        cases s.subscription with
        | none => exact Nat.le_refl _
        | some object =>
            cases raised with
            | true => exact Nat.le_refl _
            | false => exact List.length_erase_le
      unfold State.teardownAgent State.unsubscribe at fewer ⊢
      cases table : s.subscription with
      | none =>
          exact ⟨rfl, sound.current, none, sound.fresh, sound.once, by simp,
            (by simp), fun _ => ⟨rfl, rfl⟩, by simp, sound.single, by simp,
            by simp⟩
      | some object =>
          simp only [table] at fewer
          exact ⟨rfl, sound.current, none, sound.fresh, sound.once, by simp,
            (by simp), fun _ => ⟨rfl, rfl⟩, by simp,
            fun _ => Nat.le_trans fewer (sound.single rfl), by simp, by simp⟩

theorem mem_owed_record
    {message : Nat} (member : message ∈ s.record.owed) :
    message ∈ s.owed ∨ message = s.published ∧ s.ready = true := by
  simp only [State.record] at member
  split at member
  · rename_i prepared
    rcases List.mem_append.mp member with old | new
    · exact .inl old
    · exact .inr ⟨List.mem_singleton.mp new, prepared⟩
  · exact .inl member

/-- A publication that makes at most one copy, and one when set up. -/
theorem Sound.of_published
    (sound : Sound kind s) (same : SameRecord s.record t)
    (current : ∀ delivery ∈ t.delivered,
      delivery.current = some delivery.incarnation)
    (held : ∀ held ∈ t.held, s.current = some held.incarnation)
    (copies : kind = .nats → ∀ copy ∈ t.inFlight,
      copy ∈ s.inFlight ∧ copy.message ≠ s.published ∨ copy.via ∈ s.live)
    (direct : kind = .inProcess → t.inFlight = [])
    (others : ∀ message, message ≠ s.published →
      t.times message + t.underWay message =
        s.times message + s.underWay message)
    (atMost : t.times s.published + t.underWay s.published ≤ 1)
    (served : s.ready = true →
      t.times s.published + t.underWay s.published = 1) :
    Sound kind t where
  handler := by rw [same.handler, same.current]; exact sound.handler
  current := current
  held := by rw [same.current]; exact held
  fresh := by
    rw [same.published]
    intro message unpublished
    have later : s.published + 1 ≤ message := unpublished
    have none := sound.fresh message (by omega)
    have equal := others message (by omega)
    omega
  once := by
    intro message
    by_cases new : message = s.published
    · rw [new]
      exact atMost
    · rw [others message new]
      exact sound.once message
  owed := by
    rw [same.owed]
    intro message member
    rcases mem_owed_record member with old | ⟨new, prepared⟩
    · have before := sound.known message old
      rw [others message (by omega)]
      exact sound.owed message old
    · rw [new]
      exact served prepared
  known := by
    rw [same.owed, same.published]
    intro message member
    have count : s.record.published = s.published + 1 := rfl
    rcases mem_owed_record member with old | ⟨new, _⟩
    · have before := sound.known message old
      omega
    · omega
  idle := by
    rw [same.current, same.owed, same.ready]
    intro closed
    have idle := sound.idle closed
    simp only [State.record, idle.2, Bool.false_eq_true, if_false]
    exact ⟨idle.1, trivial⟩
  ready := by
    rw [same.ready]
    intro prepared
    exact served_congr same.filters same.live (sound.ready prepared)
  single := by
    rw [same.live]
    exact sound.single
  carried := by
    rw [same.owed, same.live]
    intro nats copy member owes
    rcases copies nats copy member with ⟨old, other⟩ | live
    · rcases mem_owed_record owes with owed | ⟨new, _⟩
      · exact sound.carried nats copy old owed
      · exact absurd new other
    · exact live
  direct := direct

theorem total_record (s : State) (message : Nat) :
    s.record.times message + s.record.underWay message =
      s.times message + s.underWay message :=
  rfl

/-- Nothing of a message that has not been published is under way. -/
theorem Sound.unpublished
    (sound : Sound kind s) :
    s.times s.published + s.underWay s.published = 0 := by
  have none := sound.fresh s.published (Nat.le_refl _)
  omega

theorem Sound.copy_published
    (sound : Sound kind s) {copy : Copy} (member : copy ∈ s.inFlight) :
    copy.message ≠ s.published := by
  intro new
  have none := (sound.fresh s.published (Nat.le_refl _)).2
  have some : 0 < s.inFlight.countP
      (fun copy => copy.message = s.published) :=
    List.countP_pos_iff.mpr ⟨copy, member, by simpa using new⟩
  simp only [State.underWay] at none
  omega

theorem Sound.publish_inProcess
    (sound : Sound .inProcess s) (room : Bool) :
    Sound .inProcess (s.publish .inProcess room) := by
  have frame := hand_record s.record ⟨s.published, 0⟩ room
  have agree : s.record.handler = s.record.current := sound.handler
  have unpublished := sound.unpublished
  refine sound.of_published frame.1
    (delivered_hand agree sound.current _ room)
    (held_hand agree sound.held _ room) (by simp)
    (fun _ => frame.2.trans (sound.direct rfl)) ?_ ?_ ?_
  · intro message other
    cases subscribed : s.record.handler with
    | none => rw [State.publish, hand_none subscribed, total_record]
    | some incarnation =>
        rw [State.publish, total_hand subscribed, total_record,
          if_neg other.symm, Nat.add_zero]
  · cases subscribed : s.record.handler with
    | none =>
        rw [State.publish, hand_none subscribed, total_record]
        omega
    | some incarnation =>
        rw [State.publish, total_hand subscribed, total_record, if_pos rfl]
        omega
  · intro prepared
    cases subscribed : s.record.handler with
    | none =>
        have idle := sound.idle (sound.handler.symm.trans subscribed)
        rw [idle.2] at prepared
        cases prepared
    | some incarnation =>
        rw [State.publish, total_hand subscribed, total_record, if_pos rfl]
        omega

/-- Copies of the new message that the broker adds to the wire. -/
theorem total_copies
    (s : State) (objects : List Nat) (message : Nat) :
    let t : State :=
      { s.record with
        inFlight :=
          s.inFlight ++ objects.map fun object => ⟨s.published, object⟩ }
    t.times message + t.underWay message =
      s.times message + s.underWay message +
        if s.published = message then objects.length else 0 := by
  simp only [State.times, State.underWay, State.record,
    List.countP_append, List.countP_map]
  split
  · rename_i same
    have all : objects.countP
        ((fun copy : Copy => decide (copy.message = message)) ∘
          fun object => ⟨s.published, object⟩) = objects.length := by
      rw [List.countP_eq_length]
      intro object _
      simpa using same
    omega
  · rename_i other
    have none : objects.countP
        ((fun copy : Copy => decide (copy.message = message)) ∘
          fun object => ⟨s.published, object⟩) = 0 := by
      rw [List.countP_eq_zero]
      intro object _
      simpa using other
    omega

/-- The broker makes at most one copy, and one when the address is set up. -/
theorem Sound.of_copies
    (sound : Sound kind s) (remote : kind ≠ .inProcess)
    (objects : List Nat) (few : objects.length ≤ 1)
    (some : s.ready = true → objects.length = 1)
    (live : kind = .nats → ∀ object ∈ objects, object ∈ s.live) :
    Sound kind
      { s.record with
        inFlight :=
          s.inFlight ++ objects.map fun object => ⟨s.published, object⟩ } := by
  have unpublished := sound.unpublished
  refine sound.of_published (by constructor <;> rfl) sound.current
    sound.held ?_ (fun inProcess => absurd inProcess remote) ?_ ?_ ?_
  · intro nats copy member
    rcases List.mem_append.mp member with old | new
    · exact .inl ⟨old, sound.copy_published old⟩
    · rcases List.mem_map.mp new with ⟨object, among, rfl⟩
      exact .inr (live nats object among)
  · intro message other
    rw [total_copies, if_neg (Ne.symm other), Nat.add_zero]
  · rw [total_copies, if_pos rfl]
    omega
  · intro prepared
    rw [total_copies, if_pos rfl, some prepared]
    omega

theorem Sound.publish
    (sound : Sound kind s) (room : Bool) :
    Sound kind (s.publish kind room) := by
  cases kind with
  | inProcess => exact sound.publish_inProcess room
  | zmq =>
      unfold State.publish
      by_cases filtered : 0 < s.filters
      · rw [if_pos filtered]
        exact
          sound.of_copies (by simp) [0] (Nat.le_refl _) (fun _ => rfl)
            (by simp)
      · rw [if_neg filtered]
        have unready : ¬ s.ready = true :=
          fun prepared => filtered (sound.ready prepared)
        have none := sound.of_copies (by simp) [] (Nat.zero_le _)
          (fun prepared => absurd prepared unready) (by simp)
        rw [List.map_nil, List.append_nil] at none
        exact none
  | nats =>
      refine sound.of_copies (by simp) s.live (sound.single rfl) ?_
        (fun _ _ member => member)
      intro prepared
      have some := List.length_pos_iff.mpr (sound.ready prepared)
      have single := sound.single rfl
      omega

/-! ## Runs -/

theorem Sound.after
    (sound : Sound kind s) {label : Label}
    (permitted : orderly kind s label)
    (stepped : step kind s label = some t) : Sound kind t := by
  cases label with
  | setup refused =>
      simp only [step] at stepped
      split at stepped
      · cases stepped
      · cases stepped
        exact sound.setup permitted.1 permitted.2
  | teardown raised =>
      cases stepped
      exact sound.teardown permitted
  | publish room =>
      cases stepped
      exact sound.publish room
  | dispatch via room => exact sound.dispatch stepped
  | land held => exact sound.land stepped

theorem sound_of_orderly
    (run : Reaches (step kind) (orderly kind) init s) : Sound kind s :=
  run.invariant sound_init fun _ _ _ sound permitted stepped =>
    sound.after permitted stepped

/-- How many steps of the transport are left at most. -/
def remaining (s : State) : Nat :=
  2 * s.inFlight.length + s.held.length

theorem received_owed
    {label : Label} (receives : receiving s label)
    (stepped : step kind s label = some t) : t.owed = s.owed := by
  cases label with
  | dispatch via room =>
      simp only [step, State.dispatch] at stepped
      split at stepped
      · cases stepped
      · split at stepped
        · cases stepped
        · rename_i copy _
          split at stepped
          · cases stepped
            rfl
          · cases stepped
            exact (hand_record (s.take copy) copy room).1.owed
  | land held =>
      simp only [step, State.land] at stepped
      split at stepped
      · cases stepped
        rfl
      · cases stepped
  | setup refused => cases receives
  | teardown raised => cases receives
  | publish room => cases receives

theorem orderly_of_receiving
    {label : Label} (receives : receiving s label) :
    orderly kind s label := by
  cases label with
  | dispatch via room => trivial
  | land held => trivial
  | setup refused => cases receives
  | teardown raised => cases receives
  | publish room => cases receives

/-- A held delivery can be completed. -/
theorem land_advances
    {held : Held} (member : held ∈ s.held) :
    ∃ label t, receiving s label ∧ step kind s label = some t ∧
      remaining t < remaining s := by
  refine ⟨.land held, _, trivial, if_pos member, ?_⟩
  have shorter := List.length_erase_of_mem member
  have some := List.length_pos_of_mem member
  simp only [remaining, State.deliver, State.release, shorter]
  omega

/-- With no delivery held, the first copy on the wire can be dispatched. -/
theorem dispatch_advances
    {copy : Copy} {rest : List Copy} (free : s.held = [])
    (first : s.inFlight = copy :: rest) :
    ∃ label t, receiving s label ∧ step kind s label = some t ∧
      remaining t < remaining s := by
  have idle : s.busy copy.via = false := by
    unfold State.busy
    rw [free]
    rfl
  have found :
      s.inFlight.find? (fun other => other.via = copy.via) = some copy := by
    rw [first]
    exact List.find?_cons_of_pos (by simp)
  have shorter : (s.take copy).inFlight.length + 1 = s.inFlight.length := by
    simp [State.take, first]
  have kept := (hand_record (s.take copy) copy true).2
  have untouched : (s.take copy).held = s.held := rfl
  by_cases dropped : kind = .nats ∧ copy.via ∉ s.live
  · refine ⟨.dispatch copy.via true, s.take copy, trivial, ?_, ?_⟩
    · simp only [step, State.dispatch, idle, found, if_pos dropped,
        Bool.false_eq_true, if_false]
    · simp only [remaining, untouched]
      omega
  · refine ⟨.dispatch copy.via true, (s.take copy).hand copy true, trivial,
      ?_, ?_⟩
    · simp only [step, State.dispatch, idle, found, if_neg dropped,
        Bool.false_eq_true, if_false]
    · have same : ((s.take copy).hand copy true).held = s.held := by
        unfold State.hand
        cases (s.take copy).handler <;> rfl
      simp only [remaining, same, kept]
      omega

theorem receiving_advances
    (unsettled : ¬ s.settled) :
    ∃ label t, receiving s label ∧ step kind s label = some t ∧
      remaining t < remaining s := by
  cases waiting : s.held with
  | cons held rest =>
      exact land_advances (by rw [waiting]; exact List.mem_cons_self)
  | nil =>
      cases copies : s.inFlight with
      | nil => exact absurd ⟨copies, waiting⟩ unsettled
      | cons copy rest => exact dispatch_advances waiting copies

/-- The transport alone brings every state of the invariant to rest. -/
theorem Sound.settles
    (sound : Sound kind s) :
    ∃ t, Reaches (step kind) receiving s t ∧ t.settled ∧ Sound kind t ∧
      t.owed = s.owed := by
  induction left : remaining s using Nat.strongRecOn generalizing s with
  | _ steps ih =>
      by_cases settled : s.settled
      · exact ⟨s, .start, settled, sound, rfl⟩
      · rcases receiving_advances settled with
          ⟨label, next, receives, stepped, less⟩
        have kept := sound.after (orderly_of_receiving receives) stepped
        rcases ih (remaining next) (left ▸ less) kept rfl with
          ⟨t, reached, settled, sound, owed⟩
        refine ⟨t, ?_, settled, sound,
          owed.trans (received_owed receives stepped)⟩
        exact (Reaches.step .start receives stepped).trans reached

/--
In every run that sets an address up and tears it down only when no delivery
is held, and on NATS sets it up only when no subscription object of it is
live, messages are delivered once and to the incarnation that is set up.
-/
theorem delivered_once_of_orderly
    (kind : Kind) {s : State}
    (run : Reaches (step kind) (orderly kind) init s) :
    DeliveredOnce kind s := by
  have sound := sound_of_orderly run
  refine ⟨sound.current, ?_, sound.owed, ?_⟩
  · intro message
    have once := sound.once message
    omega
  · rcases sound.settles with ⟨t, reached, settled, after, owed⟩
    refine ⟨t, reached, settled, ?_⟩
    intro message member
    have total := after.owed message (owed ▸ member)
    have none : t.underWay message = 0 := by
      simp [State.underWay, settled.1, settled.2]
    omega

/-- A child restarted once over ZMQ gets a message once. -/
theorem delivered_once_after_zmq_restart :
    ∃ s, Reaches (step .zmq) (orderly .zmq) init s ∧
      s.incarnations = 2 ∧ s.delivered = [⟨0, 1, some 1⟩] ∧
      DeliveredOnce .zmq s := by
  have ran :
      ((runWhere (step .zmq) (orderly .zmq) init
        [.setup false, .setup false, .publish true, .dispatch 0 true]).map
        fun s => decide
          (s.incarnations = 2 ∧ s.delivered = [⟨0, 1, some 1⟩])) =
          some true := by
    decide +kernel
  rcases exists_reaches_of_run ran with ⟨s, run, seen⟩
  have seen := of_decide_eq_true seen
  exact ⟨s, run, seen.1, seen.2, delivered_once_of_orderly .zmq run⟩

/-- A child restarted once over NATS gets a message twice. -/
theorem nats_restart_delivers_twice :
    ¬ ∀ (kind : Kind) (s : State),
      Reaches (step kind) (fun _ _ => True) init s →
        DeliveredOnce kind s := by
  intro claim
  have ran :
      ((runWhere (step .nats) (fun _ _ => True) init
        [.setup false, .setup false, .publish true, .dispatch 0 true,
          .dispatch 1 true]).map fun s => s.times 0) = some 2 := by
    decide +kernel
  rcases exists_reaches_of_run ran with ⟨s, run, twice⟩
  have once := (claim .nats s run).once 0
  omega

end Civitas.Transport.Subscriptions
