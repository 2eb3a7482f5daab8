import Civitas.Security.FrameworkTraffic
import Civitas.Transition

/-!
# Escalation

What a `Supervisor` does when it gives up on a child: `_process_crash_event`,
`_escalate` and `_escalate_to_parent`, with the bus that carries the trigger.

An escalation has two halves.  The event is written to the table
`_pending_crash_events` of the parent, and a trigger that names the event is
sent to its mailbox: directly when no bus is wired, otherwise by `route`, which
looks the parent up, serializes the trigger, publishes it, and reports to the
audit sink.  When the budget of the supervisor is exhausted the hand-over runs
inside `_handle_crash`, so that an exception it raises is taken for a failed
restart, and the event is handed over a second time.  An exception of the last
hand-over leaves `handle`, and ends the loop of the supervisor.

The supervisors are given by their parents; agents have no entry there.  Every
event of an escalation carries the number of the decision it comes from.
-/

namespace Civitas.Supervision.Escalation

open Civitas.Security
open Civitas.Transition
open Function (update)

/-! ## The bus -/

/-- What `route` does with the trigger of an escalation. -/
structure Bus (libraries : Libraries) where
  serializer : Serializer libraries
  config : SigningConfig
  /-- The registry has an entry for the name. -/
  registered : String → Bool
  /-- The transport has a handler for the name. -/
  subscribed : String → Bool
  /-- `InProcessTransport`, whose `publish` calls the handler itself. -/
  inProcess : Bool

/-- The tree of supervisors, and what sends their triggers. -/
structure Config (libraries : Libraries) where
  /-- `_parent`. -/
  parent : String → Option String
  /-- `_bus`. -/
  bus : Option (Bus libraries)
  /-- What `_uuid7` returns for an event, and what its trigger is made of. -/
  uuid : Nat → String
  stamp : Nat → Stamp
  nonce : Nat → Civitas.PyValue.Bytes

/-! ## State -/

/-- The child that an event names, and the decision it comes from. -/
structure Event where
  name : String
  cause : Option Nat
deriving DecidableEq

/-- An entry of the table `_pending_crash_events` of a supervisor. -/
structure Entry where
  holder : String
  id : Nat
  event : Event
deriving DecidableEq

/-- The entry is an event of the decision, at the supervisor. -/
def Entry.answers
    (entry : Entry) (holder : String) (decision : String × Nat) : Bool :=
  decide (entry.holder = holder ∧ entry.event.name = decision.1 ∧
    entry.event.cause = some decision.2)

/-- An event that a supervisor took from its table, and what came of it. -/
structure Turn where
  entry : Entry
  /-- `_running` when the event was taken. -/
  running : Bool
  /-- The child whose crash is handled after the event was taken. -/
  handles : Option String
deriving DecidableEq

/-- The supervisors of a tree, and their crash events. -/
structure State where
  /-- `_running` of each supervisor. -/
  running : String → Bool := fun _ => false
  /-- The loop of a supervisor runs. -/
  alive : String → Bool := fun _ => false
  /-- The child whose crash is being handled. -/
  handling : String → Option String := fun _ => none
  nextId : Nat := 0
  nextCause : Nat := 0
  pending : List Entry := []
  /-- The triggers in the mailboxes, in the order they came. -/
  mailboxes : List (String × Nat) := []
  /-- The triggers on the wire. -/
  inFlight : List (String × Nat) := []
  /-- The events that the supervisors have taken from their tables. -/
  taken : List Entry := []
  /-- What came of each of them. -/
  turns : List Turn := []
  /-- The decisions to give up on a child, by supervisor. -/
  gaveUp : List (String × Nat) := []
  /-- The supervisors whose loops a hand-over has ended. -/
  fallen : List String := []

/-- No supervisor has been started. -/
def init : State := {}

/-! ## Handing over -/

/-- What becomes of a call of `route` that comes to its publication. -/
inductive Outcome where
  | routed
  /-- `publish` raises. -/
  | publishFails
  /-- The audit sink raises. -/
  | auditFails
  /-- The supervisor is cancelled while it waits for `publish`. -/
  | cancelled
deriving DecidableEq

/-- How a hand-over ends. -/
inductive Handed where
  | returned
  | raised
  | cancelled
deriving DecidableEq

section

variable {libraries : Libraries}

/-- The serializer turns the trigger of an event into bytes. -/
def Bus.serializes
    (bus : Bus libraries) (cfg : Config libraries)
    (name parent : String) (id : Nat) : Bool :=
  match
    bus.serializer.serialize bus.config (cfg.nonce id)
      ((FrameworkMessage.childCrashed name parent (cfg.uuid id)).fields
        (cfg.stamp id)).toDict
  with
  | .ok _ => true
  | .error _ => false

/-- An event is written to the table of a supervisor. -/
def State.record (s : State) (holder : String) (event : Event) : State :=
  { s with
    nextId := s.nextId + 1
    pending := s.pending ++ [⟨holder, s.nextId, event⟩] }

/-- `publish`, for the trigger of an event. -/
def State.publish
    (s : State) (bus : Bus libraries) (holder : String) (id : Nat) : State :=
  if bus.inProcess then
    if bus.subscribed holder
    then { s with mailboxes := s.mailboxes ++ [(holder, id)] }
    else s
  else { s with inFlight := s.inFlight ++ [(holder, id)] }

/-- `_escalate_to_parent`, for a decision. -/
def State.handOver
    (cfg : Config libraries) (s : State) (decision : String × Nat)
    (outcome : Outcome) : State × Handed :=
  match cfg.parent decision.1 with
  | none => (s, .returned)
  | some parent =>
      let written := s.record parent ⟨decision.1, some decision.2⟩
      match cfg.bus with
      | none =>
          ({ written with
              mailboxes := s.mailboxes ++ [(parent, s.nextId)] }, .returned)
      | some bus =>
          if bus.registered parent &&
              bus.serializes cfg decision.1 parent s.nextId then
            match outcome with
            | .routed => (written.publish bus parent s.nextId, .returned)
            | .publishFails => (written, .raised)
            | .auditFails => (written.publish bus parent s.nextId, .raised)
            | .cancelled => (written, .cancelled)
          else (written, .raised)

/-- The loop of a supervisor is ready for the next message. -/
def State.settle (s : State) (name : String) : State :=
  { s with handling := update s.handling name none }

/-- The loop of a supervisor has ended. -/
def State.finish (s : State) (name : String) : State :=
  { s.settle name with alive := update s.alive name false }

/-- What the last hand-over of a decision leads to. -/
def State.conclude (s : State) (name : String) : Handed → State
  | .returned => s.settle name
  | .cancelled => s.finish name
  | .raised => { s.finish name with fallen := name :: s.fallen }

/-- The supervisor gives up on the child whose crash it handles. -/
def State.decide (s : State) (name : String) : State :=
  { s with
    nextCause := s.nextCause + 1
    gaveUp := s.gaveUp ++ [(name, s.nextCause)] }

/-! ## Steps -/

/-- What the supervisors do, and what is reported to them. -/
inductive Label where
  /-- `_enqueue_crash_event` for a child that is not a supervisor. -/
  | crash (supervisor child : String)
  /-- The loop takes the next trigger; whether the event is stale. -/
  | take (supervisor : String) (stale : Bool)
  /-- The restart strategy has been applied. -/
  | restarted (supervisor : String)
  /-- The restart of the child fails. -/
  | restartFails (supervisor : String) (outcome : Outcome)
  /-- The budget is exhausted. -/
  | exhausted (supervisor : String) (first second : Outcome)
  /-- A trigger arrives. -/
  | deliver (supervisor : String) (id : Nat)
  /-- The wire loses a trigger, or its receiver refuses it. -/
  | lose (supervisor : String) (id : Nat)
  /-- `start`. -/
  | begin (supervisor : String)
  /-- `stop` begins. -/
  | halt (supervisor : String)
  /-- The loop of a stopped supervisor ends, or is cancelled. -/
  | finish (supervisor : String)
deriving DecidableEq

/-- `_process_crash_event`, up to `_handle_crash`. -/
def State.process (s : State) (name : String) (id : Nat) (stale : Bool) :
    State :=
  match s.pending.find? fun entry => entry.holder = name ∧ entry.id = id with
  | none => s
  | some entry =>
      let popped :=
        { s with
          pending := s.pending.erase entry
          taken := s.taken ++ [entry] }
      if s.running name && !(entry.event.cause.isNone && stale)
      then
        { popped with
          handling := update s.handling name (some entry.event.name) }
      else popped

/-- The history of the events that were taken in a step of a supervisor. -/
def State.observe (after before : State) (name : String) : State :=
  { after with
    turns :=
      before.turns ++
        (after.taken.drop before.taken.length).map fun entry =>
          ⟨entry, before.running name, after.handling name⟩ }

local instance lawfulPosts : LawfulBEq (String × Nat) :=
  inferInstance

/-- One step of a supervisor. -/
def step (cfg : Config libraries) (s : State) : Label → Option State
  | .crash name child =>
      if cfg.parent child = none then
        let written := s.record name ⟨child, none⟩
        some
          { written with mailboxes := s.mailboxes ++ [(name, s.nextId)] }
      else none
  | .take name stale =>
      if s.alive name = true ∧ s.handling name = none then
        match s.mailboxes.find? fun trigger => trigger.1 = name with
        | none => none
        | some trigger =>
            let received :=
              { s with mailboxes := s.mailboxes.erase trigger }
            some ((received.process name trigger.2 stale).observe s name)
      else none
  | .restarted name =>
      if (s.handling name).isSome then some (s.settle name) else none
  | .restartFails name outcome =>
      if (s.handling name).isSome then
        let handed := (s.decide name).handOver cfg (name, s.nextCause) outcome
        some (handed.1.conclude name handed.2)
      else none
  | .exhausted name first second =>
      if (s.handling name).isSome then
        let handed := (s.decide name).handOver cfg (name, s.nextCause) first
        match handed.2 with
        | .raised =>
            let again := handed.1.handOver cfg (name, s.nextCause) second
            some (again.1.conclude name again.2)
        | ended => some (handed.1.conclude name ended)
      else none
  | .deliver name id =>
      if (name, id) ∈ s.inFlight then
        let received := { s with inFlight := s.inFlight.erase (name, id) }
        match cfg.bus with
        | none => none
        | some bus =>
            if bus.subscribed name
            then
              some
                { received with mailboxes := s.mailboxes ++ [(name, id)] }
            else some received
      else none
  | .lose name id =>
      if (name, id) ∈ s.inFlight
      then some { s with inFlight := s.inFlight.erase (name, id) }
      else none
  | .begin name =>
      if s.alive name then none
      else
        some
          { s with
            running := update s.running name true
            alive := update s.alive name true }
  | .halt name => some { s with running := update s.running name false }
  | .finish name =>
      if s.running name then none else some (s.finish name)

/-! ## The condition -/

/-- The hand-over to the parent meets with no exception. -/
def Config.handsOver
    (cfg : Config libraries) (name : String) (id : Nat) (outcome : Outcome) :
    Bool :=
  match cfg.parent name, cfg.bus with
  | some parent, some bus =>
      bus.registered parent && bus.subscribed parent &&
        bus.serializes cfg name parent id && decide (outcome = .routed)
  | _, _ => true

/--
No call of `route` with the trigger of an escalation raises or is cancelled,
and what it publishes arrives.
-/
def carries (cfg : Config libraries) (s : State) : Label → Bool
  | .restartFails name outcome => cfg.handsOver name s.nextId outcome
  | .exhausted name first _ => cfg.handsOver name s.nextId first
  | .deliver name _ => cfg.bus.all fun bus => bus.subscribed name
  | .lose _ _ => false
  | _ => true

/-- Escalations are not lost. -/
structure NeverLost (cfg : Config libraries) (s : State) : Prop where
  /-- No hand-over has ended the loop of a supervisor. -/
  survives : s.fallen = []
  /-- Every entry has a trigger in the mailbox of its holder, or on the way. -/
  triggered : ∀ entry ∈ s.pending,
    (entry.holder, entry.id) ∈ s.mailboxes ∨
      (entry.holder, entry.id) ∈ s.inFlight
  /-- A decision has one event, in the table of the parent or taken from it. -/
  once : ∀ decision ∈ s.gaveUp, ∀ parent,
    cfg.parent decision.1 = some parent →
      (s.pending ++ s.taken).countP (·.answers parent decision) = 1
  /-- When the parent has taken its triggers, it has taken the event. -/
  processed : ∀ decision ∈ s.gaveUp, ∀ parent,
    cfg.parent decision.1 = some parent →
      (∀ trigger ∈ s.mailboxes ++ s.inFlight, trigger.1 ≠ parent) →
        s.taken.countP (·.answers parent decision) = 1
  /-- Each event that was taken has had its turn. -/
  observed : s.turns.map Turn.entry = s.taken
  /-- In its turn, a supervisor that runs handles the crash it is told of. -/
  acted : ∀ turn ∈ s.turns, turn.running = true →
    turn.entry.event.cause.isSome = true →
      turn.handles = some turn.entry.event.name

/-! ## The invariant -/

/-- The supervisors act on the escalations they take. -/
structure Acted (s : State) : Prop where
  observed : s.turns.map Turn.entry = s.taken
  acted : ∀ turn ∈ s.turns, turn.running = true →
    turn.entry.event.cause.isSome = true →
      turn.handles = some turn.entry.event.name

/-- What holds of events and triggers in every run that meets the condition. -/
structure Sound (cfg : Config libraries) (s : State) : Prop where
  survives : s.fallen = []
  numbered : ∀ entry ∈ s.pending, entry.id < s.nextId
  ids : (s.pending.map Entry.id).Nodup
  triggered : ∀ entry ∈ s.pending,
    (entry.holder, entry.id) ∈ s.mailboxes ∨
      (entry.holder, entry.id) ∈ s.inFlight
  caused : ∀ entry ∈ s.pending ++ s.taken, ∀ cause,
    entry.event.cause = some cause → cause < s.nextCause
  decided : ∀ decision ∈ s.gaveUp, decision.2 < s.nextCause
  once : ∀ decision ∈ s.gaveUp, ∀ parent,
    cfg.parent decision.1 = some parent →
      (s.pending ++ s.taken).countP (·.answers parent decision) = 1

variable {cfg : Config libraries} {s after : State} {label : Label}

theorem sound_init : Sound cfg init := by
  constructor <;> simp [init]

theorem Sound.neverLost (sound : Sound cfg s) (acts : Acted s) :
    NeverLost cfg s where
  observed := acts.observed
  acted := acts.acted
  survives := sound.survives
  triggered := sound.triggered
  once := sound.once
  processed := by
    intro decision gave parent above clear
    have whole := sound.once decision gave parent above
    have none : s.pending.countP (·.answers parent decision) = 0 := by
      refine List.countP_eq_zero.mpr ?_
      intro entry within answers
      have holder : entry.holder = parent := (of_decide_eq_true answers).1
      rcases sound.triggered entry within with queued | flying
      · exact clear _ (List.mem_append_left _ queued) holder
      · exact clear _ (List.mem_append_right _ flying) holder
    rw [List.countP_append, none, Nat.zero_add] at whole
    exact whole

/-- Flags may change freely, and triggers may be added. -/
theorem Sound.reflag
    (sound : Sound cfg s)
    (running alive : String → Bool) (handling : String → Option String) :
    Sound cfg
      { s with running := running, alive := alive, handling := handling } where
  survives := sound.survives
  numbered := sound.numbered
  ids := sound.ids
  triggered := sound.triggered
  caused := sound.caused
  decided := sound.decided
  once := sound.once

theorem Sound.settle (sound : Sound cfg s) (name : String) :
    Sound cfg (s.settle name) :=
  sound.reflag s.running s.alive (update s.handling name none)

theorem Sound.finish (sound : Sound cfg s) (name : String) :
    Sound cfg (s.finish name) :=
  sound.reflag s.running (update s.alive name false)
    (update s.handling name none)

theorem Sound.observe
    (sound : Sound cfg s) (before : State) (name : String) :
    Sound cfg (s.observe before name) where
  survives := sound.survives
  numbered := sound.numbered
  ids := sound.ids
  triggered := sound.triggered
  caused := sound.caused
  decided := sound.decided
  once := sound.once

/-- An event is written together with its trigger. -/
theorem Sound.post
    (sound : Sound cfg s) {holder : String} {event : Event} {nextCause : Nat}
    {gaveUp : List (String × Nat)}
    {mailboxes inFlight : List (String × Nat)}
    (kept : ∀ trigger, trigger ∈ s.mailboxes ∨ trigger ∈ s.inFlight →
      trigger ∈ mailboxes ∨ trigger ∈ inFlight)
    (sent : (holder, s.nextId) ∈ mailboxes ∨ (holder, s.nextId) ∈ inFlight)
    (later : s.nextCause ≤ nextCause)
    (caused : ∀ cause, event.cause = some cause → cause < nextCause)
    (decided : ∀ decision ∈ gaveUp, decision.2 < nextCause)
    (once : ∀ decision ∈ gaveUp, ∀ parent,
      cfg.parent decision.1 = some parent →
        (s.pending ++ s.taken).countP (·.answers parent decision) +
          [(⟨holder, s.nextId, event⟩ : Entry)].countP
            (·.answers parent decision) = 1) :
    Sound cfg
      { s.record holder event with
        nextCause := nextCause
        gaveUp := gaveUp
        mailboxes := mailboxes
        inFlight := inFlight } where
  survives := sound.survives
  numbered := by
    intro entry within
    rcases List.mem_append.mp within with old | new
    · exact Nat.lt_succ_of_lt (sound.numbered entry old)
    · cases List.mem_singleton.mp new
      exact Nat.lt_succ_self _
  ids := by
    have unused : s.nextId ∉ s.pending.map Entry.id := by
      intro used
      rcases List.mem_map.mp used with ⟨entry, within, same⟩
      have below := sound.numbered entry within
      omega
    simp only [State.record, List.map_append, List.map_cons, List.map_nil]
    exact List.nodup_append_comm.mp
      (List.nodup_cons.mpr ⟨unused, sound.ids⟩)
  triggered := by
    intro entry within
    rcases List.mem_append.mp within with old | new
    · exact kept _ (sound.triggered entry old)
    · cases List.mem_singleton.mp new
      exact sent
  caused := by
    intro entry within cause carried
    simp only [State.record, List.append_assoc, List.mem_append,
      List.mem_singleton] at within
    rcases within with old | rfl | old
    · have below :=
        sound.caused entry (List.mem_append_left _ old) cause carried
      exact Nat.lt_of_lt_of_le below later
    · exact caused cause carried
    · have below :=
        sound.caused entry (List.mem_append_right _ old) cause carried
      exact Nat.lt_of_lt_of_le below later
  decided := decided
  once := by
    intro decision gave parent above
    have counted := once decision gave parent above
    simp only [State.record, List.countP_append] at counted ⊢
    omega

/-- A supervisor without a parent gives up. -/
theorem Sound.decide
    (sound : Sound cfg s) {name : String} (top : cfg.parent name = none) :
    Sound cfg (s.decide name) where
  survives := sound.survives
  numbered := sound.numbered
  ids := sound.ids
  triggered := sound.triggered
  caused := by
    intro entry within cause carried
    exact Nat.lt_succ_of_lt (sound.caused entry within cause carried)
  decided := by
    intro decision gave
    rcases List.mem_append.mp gave with old | new
    · exact Nat.lt_succ_of_lt (sound.decided decision old)
    · cases List.mem_singleton.mp new
      exact Nat.lt_succ_self _
  once := by
    intro decision gave parent above
    rcases List.mem_append.mp gave with old | new
    · exact sound.once decision old parent above
    · cases List.mem_singleton.mp new
      cases top.symm.trans above

/-- No event answers a decision that is still to be made. -/
theorem Sound.unanswered
    (sound : Sound cfg s) (parent name : String) :
    (s.pending ++ s.taken).countP
      (·.answers parent (name, s.nextCause)) = 0 := by
  refine List.countP_eq_zero.mpr ?_
  intro entry within answers
  have carried := (of_decide_eq_true answers).2.2
  exact Nat.lt_irrefl _ (sound.caused entry within _ carried)

/-- A supervisor gives up, and its parent has the event with its trigger. -/
theorem Sound.escalate
    (sound : Sound cfg s) {name parent : String}
    {mailboxes inFlight : List (String × Nat)}
    (above : cfg.parent name = some parent)
    (kept : ∀ trigger, trigger ∈ s.mailboxes ∨ trigger ∈ s.inFlight →
      trigger ∈ mailboxes ∨ trigger ∈ inFlight)
    (sent : (parent, s.nextId) ∈ mailboxes ∨ (parent, s.nextId) ∈ inFlight) :
    Sound cfg
      { (s.decide name).record parent ⟨name, some s.nextCause⟩ with
        mailboxes := mailboxes, inFlight := inFlight } := by
  refine sound.post kept sent (Nat.le_succ _) ?_ ?_ ?_
  · intro cause same
    cases same
    exact Nat.lt_succ_self _
  · intro decision gave
    rcases List.mem_append.mp gave with old | new
    · exact Nat.lt_succ_of_lt (sound.decided decision old)
    · cases List.mem_singleton.mp new
      exact Nat.lt_succ_self _
  · intro decision gave other known
    rcases List.mem_append.mp gave with old | new
    · have earlier := sound.decided decision old
      have different :
          (⟨parent, s.nextId, name, some s.nextCause⟩ : Entry).answers other
            decision = false := by
        refine decide_eq_false ?_
        rintro ⟨-, -, same⟩
        have equal : s.nextCause = decision.2 := Option.some.inj same
        omega
      have counted := sound.once decision old other known
      simpa [different] using counted
    · cases List.mem_singleton.mp new
      cases above.symm.trans known
      have same :
          (⟨parent, s.nextId, name, some s.nextCause⟩ : Entry).answers parent
            (name, s.nextCause) = true :=
        decide_eq_true ⟨rfl, rfl, rfl⟩
      rw [sound.unanswered parent name, List.countP_singleton, same]
      rfl

/-- The hand-over of a new decision, when nothing comes in between. -/
theorem Sound.handOver
    (sound : Sound cfg s) {name : String} {outcome : Outcome}
    (hands : cfg.handsOver name s.nextId outcome = true) :
    ((s.decide name).handOver cfg (name, s.nextCause) outcome).2 =
        .returned ∧
      Sound cfg
        ((s.decide name).handOver cfg (name, s.nextCause) outcome).1 := by
  cases above : cfg.parent name with
  | none =>
      simp only [State.handOver, above]
      exact ⟨trivial, sound.decide above⟩
  | some parent =>
      cases wired : cfg.bus with
      | none =>
          simp only [State.handOver, above, wired]
          refine ⟨trivial, sound.escalate above ?_ ?_⟩
          · rintro trigger (queued | flying)
            · exact .inl (List.mem_append_left _ queued)
            · exact .inr flying
          · exact .inl (List.mem_append_right _ (List.mem_singleton_self _))
      | some bus =>
          simp only [Config.handsOver, above, wired, Bool.and_eq_true,
            decide_eq_true_eq] at hands
          rcases hands with ⟨⟨⟨registered, subscribed⟩, serializes⟩, rfl⟩
          have ready :
              (bus.registered parent &&
                bus.serializes cfg name parent (s.decide name).nextId) =
                  true := by
            rw [registered]
            exact serializes
          simp only [State.handOver, above, wired, ready, if_true]
          refine ⟨trivial, ?_⟩
          unfold State.publish
          by_cases near : bus.inProcess = true
          · rw [if_pos near, if_pos subscribed]
            refine sound.escalate above ?_ ?_
            · rintro trigger (queued | flying)
              · exact .inl (List.mem_append_left _ queued)
              · exact .inr flying
            · exact .inl (List.mem_append_right _ (List.mem_singleton_self _))
          · rw [if_neg near]
            refine sound.escalate above ?_ ?_
            · rintro trigger (queued | flying)
              · exact .inl queued
              · exact .inr (List.mem_append_left _ flying)
            · exact .inr (List.mem_append_right _ (List.mem_singleton_self _))

/-- A trigger moves from the wire to the mailbox. -/
theorem Sound.deliver
    (sound : Sound cfg s) (trigger : String × Nat) :
    Sound cfg
      { s with
        inFlight := s.inFlight.erase trigger
        mailboxes := s.mailboxes ++ [trigger] } where
  survives := sound.survives
  numbered := sound.numbered
  ids := sound.ids
  triggered := by
    intro entry within
    by_cases same : (entry.holder, entry.id) = trigger
    · rw [same]
      exact .inl (List.mem_append_right _ (List.mem_singleton_self _))
    · rcases sound.triggered entry within with queued | flying
      · exact .inl (List.mem_append_left _ queued)
      · exact .inr ((List.mem_erase_of_ne same).mpr flying)
  caused := sound.caused
  decided := sound.decided
  once := sound.once

/-- A trigger is taken together with its event. -/
theorem Sound.process
    (sound : Sound cfg s) {name : String} {id : Nat} (stale : Bool) :
    Sound cfg
      ({ s with mailboxes := s.mailboxes.erase (name, id) }.process name id
        stale) := by
  cases found :
      s.pending.find? fun entry => entry.holder = name ∧ entry.id = id with
  | none =>
      simp only [State.process, found]
      refine ⟨sound.survives, sound.numbered, sound.ids, ?_, sound.caused,
        sound.decided, sound.once⟩
      intro entry within
      have other : (entry.holder, entry.id) ≠ (name, id) := by
        intro same
        have absent := List.find?_eq_none.mp found entry within
        cases same
        exact absent (decide_eq_true ⟨rfl, rfl⟩)
      rcases sound.triggered entry within with queued | flying
      · exact .inl ((List.mem_erase_of_ne other).mpr queued)
      · exact .inr flying
  | some entry =>
      have member : entry ∈ s.pending := List.mem_of_find?_eq_some found
      have matched := List.find?_some found
      have named : entry.holder = name ∧ entry.id = id :=
        of_decide_eq_true matched
      have moved :
          (s.pending ++ s.taken).Perm
            (s.pending.erase entry ++ (s.taken ++ [entry])) := by
        rw [← List.append_assoc]
        refine ((List.perm_cons_erase member).append_right s.taken).trans ?_
        exact (List.perm_append_singleton entry _).symm
      have popped :
          Sound cfg
            { s with
              mailboxes := s.mailboxes.erase (name, id)
              pending := s.pending.erase entry
              taken := s.taken ++ [entry] } := by
        refine ⟨sound.survives, ?_, ?_, ?_, ?_, sound.decided, ?_⟩
        · intro other within
          exact sound.numbered other (List.mem_of_mem_erase within)
        · exact sound.ids.sublist (List.erase_sublist.map _)
        · intro other within
          have kept := List.mem_of_mem_erase within
          have different : (other.holder, other.id) ≠ (name, id) := by
            intro same
            have sameId : other.id = entry.id := by
              rw [named.2]
              exact congrArg Prod.snd same
            have equal :=
              List.inj_on_of_nodup_map sound.ids kept member sameId
            subst equal
            have nodup : s.pending.Nodup := sound.ids.of_map _
            exact nodup.not_mem_erase within
          rcases sound.triggered other kept with queued | flying
          · exact .inl ((List.mem_erase_of_ne different).mpr queued)
          · exact .inr flying
        · intro other within
          exact sound.caused other (moved.mem_iff.mpr within)
        · intro decision gave parent above
          rw [← moved.countP_eq]
          exact sound.once decision gave parent above
      simp only [State.process, found]
      split
      · exact popped.reflag _ _ _
      · exact popped

/-- Every step of a run that meets the condition keeps the invariant. -/
theorem Sound.step
    (sound : Sound cfg s) (permitted : carries cfg s label = true)
    (stepped : step cfg s label = some after) :
    Sound cfg after := by
  cases label with
  | crash name child =>
      simp only [Escalation.step] at stepped
      split at stepped
      · cases stepped
        refine sound.post ?_ ?_ (Nat.le_refl s.nextCause) ?_ sound.decided ?_
        · rintro trigger (queued | flying)
          · exact .inl (List.mem_append_left _ queued)
          · exact .inr flying
        · exact .inl (List.mem_append_right _ (List.mem_singleton_self _))
        · intro cause same
          cases same
        · intro decision gave parent above
          simpa [Entry.answers] using sound.once decision gave parent above
      · cases stepped
  | take name stale =>
      simp only [Escalation.step] at stepped
      split at stepped
      · split at stepped
        · cases stepped
        · rename_i trigger found
          cases stepped
          have matched := List.find?_some found
          have named : trigger.1 = name := of_decide_eq_true matched
          subst named
          exact (sound.process stale).observe s trigger.1
      · cases stepped
  | restarted name =>
      simp only [Escalation.step] at stepped
      split at stepped
      · cases stepped
        exact sound.settle name
      · cases stepped
  | restartFails name outcome =>
      simp only [Escalation.step] at stepped
      split at stepped
      · cases stepped
        rcases sound.handOver permitted with ⟨returned, kept⟩
        rw [returned]
        exact kept.settle name
      · cases stepped
  | exhausted name first second =>
      simp only [Escalation.step] at stepped
      split at stepped
      · rcases sound.handOver permitted with ⟨returned, kept⟩
        rw [returned] at stepped
        cases stepped
        exact kept.settle name
      · cases stepped
  | deliver name id =>
      simp only [Escalation.step] at stepped
      split at stepped
      · split at stepped
        · cases stepped
        · rename_i bus wired
          have subscribed : bus.subscribed name = true := by
            simpa [carries, wired] using permitted
          rw [if_pos subscribed] at stepped
          cases stepped
          exact sound.deliver (name, id)
      · cases stepped
  | lose name id => cases permitted
  | begin name =>
      simp only [Escalation.step] at stepped
      split at stepped
      · cases stepped
      · cases stepped
        exact sound.reflag _ _ _
  | halt name =>
      cases stepped
      exact sound.reflag _ _ _
  | finish name =>
      simp only [Escalation.step] at stepped
      split at stepped
      · cases stepped
      · cases stepped
        exact sound.finish name

/-! ## The escalations that are taken are acted on -/

theorem acted_init : Acted init := by
  constructor <;> simp [init]

/-- A step in which no event is taken leaves the history alone. -/
theorem Acted.keep
    (acts : Acted s) (taken : after.taken = s.taken)
    (turns : after.turns = s.turns) :
    Acted after := by
  constructor
  · rw [taken, turns]
    exact acts.observed
  · rw [turns]
    exact acts.acted

theorem publish_keeps
    (s : State) (bus : Bus libraries) (holder : String) (id : Nat) :
    (s.publish bus holder id).taken = s.taken ∧
      (s.publish bus holder id).turns = s.turns := by
  unfold State.publish
  split_ifs <;> exact ⟨rfl, rfl⟩

/-- A hand-over takes no event. -/
theorem handOver_keeps
    (cfg : Config libraries) (s : State) (decision : String × Nat)
    (outcome : Outcome) :
    (s.handOver cfg decision outcome).1.taken = s.taken ∧
      (s.handOver cfg decision outcome).1.turns = s.turns := by
  unfold State.handOver
  cases cfg.parent decision.1 with
  | none => exact ⟨rfl, rfl⟩
  | some parent =>
      cases cfg.bus with
      | none => exact ⟨rfl, rfl⟩
      | some bus =>
          dsimp only
          split
          · cases outcome with
            | routed => exact publish_keeps _ bus parent s.nextId
            | auditFails => exact publish_keeps _ bus parent s.nextId
            | publishFails => exact ⟨rfl, rfl⟩
            | cancelled => exact ⟨rfl, rfl⟩
          · exact ⟨rfl, rfl⟩

theorem conclude_keeps (s : State) (name : String) (handed : Handed) :
    (s.conclude name handed).taken = s.taken ∧
      (s.conclude name handed).turns = s.turns := by
  cases handed <;> exact ⟨rfl, rfl⟩

/-- The turn in which a supervisor takes an event, acted on or not. -/
theorem Acted.process
    (acts : Acted s) (mailboxes : List (String × Nat)) (name : String)
    (id : Nat) (stale : Bool) :
    Acted
      (({ s with mailboxes := mailboxes }.process name id stale).observe s
        name) := by
  unfold State.process
  dsimp only
  cases s.pending.find? fun entry => entry.holder = name ∧ entry.id = id with
  | none =>
      refine acts.keep rfl ?_
      simp [State.observe]
  | some entry =>
      dsimp only
      split
      · rename_i runs
        constructor
        · simp [State.observe, acts.observed]
        · intro turn member _ _
          simp only [State.observe, List.drop_left, List.map_cons,
            List.map_nil, List.mem_append, List.mem_singleton] at member
          rcases member with old | rfl
          · exact acts.acted turn old ‹_› ‹_›
          · exact Function.update_self ..
      · rename_i idle
        constructor
        · simp [State.observe, acts.observed]
        · intro turn member runs escalated
          simp only [State.observe, List.drop_left, List.map_cons,
            List.map_nil, List.mem_append, List.mem_singleton] at member
          rcases member with old | rfl
          · exact acts.acted turn old runs escalated
          · exfalso
            apply idle
            dsimp only at runs escalated
            rw [runs]
            cases cause : entry.event.cause with
            | none =>
                rw [cause] at escalated
                cases escalated
            | some decision => rfl

/-- Every step, in whatever circumstances, keeps the history. -/
theorem Acted.step
    (acts : Acted s) (stepped : step cfg s label = some after) :
    Acted after := by
  cases label with
  | take name stale =>
      simp only [Escalation.step] at stepped
      split at stepped
      · split at stepped
        · cases stepped
        · cases stepped
          exact acts.process _ name _ stale
      · cases stepped
  | restartFails name outcome =>
      simp only [Escalation.step] at stepped
      split at stepped
      · cases stepped
        have handed := handOver_keeps cfg (s.decide name)
          (name, s.nextCause) outcome
        have concluded := conclude_keeps
          ((s.decide name).handOver cfg (name, s.nextCause) outcome).1 name
          ((s.decide name).handOver cfg (name, s.nextCause) outcome).2
        exact
          acts.keep (concluded.1.trans handed.1)
            (concluded.2.trans handed.2)
      · cases stepped
  | exhausted name first second =>
      simp only [Escalation.step] at stepped
      split at stepped
      · have handed := handOver_keeps cfg (s.decide name)
          (name, s.nextCause) first
        split at stepped
        · cases stepped
          have again := handOver_keeps cfg
            ((s.decide name).handOver cfg (name, s.nextCause) first).1
            (name, s.nextCause) second
          have concluded := conclude_keeps
            (((s.decide name).handOver cfg (name, s.nextCause) first).1.handOver
              cfg (name, s.nextCause) second).1 name
            (((s.decide name).handOver cfg (name, s.nextCause) first).1.handOver
              cfg (name, s.nextCause) second).2
          exact
            acts.keep
              (concluded.1.trans (again.1.trans handed.1))
              (concluded.2.trans (again.2.trans handed.2))
        · cases stepped
          have concluded := conclude_keeps
            ((s.decide name).handOver cfg (name, s.nextCause) first).1 name
            ((s.decide name).handOver cfg (name, s.nextCause) first).2
          exact
            acts.keep (concluded.1.trans handed.1)
              (concluded.2.trans handed.2)
      · cases stepped
  | crash name child =>
      simp only [Escalation.step] at stepped
      split at stepped
      · cases stepped
        exact acts.keep rfl rfl
      · cases stepped
  | restarted name =>
      simp only [Escalation.step] at stepped
      split at stepped
      · cases stepped
        exact acts.keep rfl rfl
      · cases stepped
  | deliver name id =>
      simp only [Escalation.step] at stepped
      split at stepped
      · split at stepped
        · cases stepped
        · split at stepped
          · cases stepped
            exact acts.keep rfl rfl
          · cases stepped
            exact acts.keep rfl rfl
      · cases stepped
  | lose name id =>
      simp only [Escalation.step] at stepped
      split at stepped
      · cases stepped
        exact acts.keep rfl rfl
      · cases stepped
  | begin name =>
      simp only [Escalation.step] at stepped
      split at stepped
      · cases stepped
      · cases stepped
        exact acts.keep rfl rfl
  | halt name =>
      cases stepped
      exact acts.keep rfl rfl
  | finish name =>
      simp only [Escalation.step] at stepped
      split at stepped
      · cases stepped
      · cases stepped
        exact acts.keep rfl rfl

/--
In every run in which no hand-over meets with an exception, escalations are not
lost.
-/
theorem escalations_never_lost
    (cfg : Config libraries)
    (reached :
      Reaches (Escalation.step cfg) (fun s label => carries cfg s label = true)
        init s) :
    NeverLost cfg s := by
  have sound : Sound cfg s := by
    refine reached.invariant sound_init ?_
    intro before label after kept permitted stepped
    exact kept.step permitted stepped
  have acts : Acted s := by
    refine reached.invariant acted_init ?_
    intro before label after kept _ stepped
    exact kept.step stepped
  exact sound.neverLost acts

/--
Under strict verification the trigger of a supervisor without an identity is
never serialized.
-/
theorem serializes_eq_false_of_strict
    {bus : Bus libraries}
    {identities : String → Option (AgentIdentity libraries)}
    (signing : bus.serializer = .signing identities)
    (strict : bus.config.strict = true)
    {name : String} (unknown : identities name = none)
    (parent : String) (id : Nat) :
    bus.serializes cfg name parent id = false := by
  let receiver : MessageSigner :=
    { libraries := libraries
      registry := fun _ => none
      config := bus.config }
  let message :=
    (FrameworkMessage.childCrashed name parent (cfg.uuid id)).fields
      (cfg.stamp id)
  have refused :
      ∀ envelope,
        sign bus.config identities (cfg.nonce id) message.toDict ≠
          .ok envelope := by
    intro envelope signed
    have named : message.sender = .str name := rfl
    have checked : receiver.config.strict = true := strict
    rcases (sign_ok_iff checked named).mp signed with
      ⟨identity, -, found, -⟩
    cases unknown.symm.trans found
  unfold Bus.serializes Serializer.serialize
  rw [signing]
  simp only [Serializer.envelope]
  cases signed :
      sign bus.config identities (cfg.nonce id) message.toDict with
  | error error => rfl
  | ok envelope => exact absurd signed (refused envelope)

end

/-- Two supervisors, of which `root` is the parent of `sub`. -/
def pair
    (bus : Option (Bus (shortLibraries []))) : Config (shortLibraries []) where
  parent name := if name = "sub" then some "root" else none
  bus := bus
  uuid _ := "0192"
  stamp _ := echoStamp
  nonce id := [UInt8.ofNat id]

/-- The bus of a deployment in one process. -/
def inProcessBus : Bus (shortLibraries []) where
  serializer := .msgpack
  config := { requireVerification := false, allowUnsigned := true }
  registered _ := true
  subscribed _ := true
  inProcess := true

/-- The bus of a deployment whose one agent has an identity. -/
def strictBus : Bus (shortLibraries []) where
  serializer := .signing (echoDeployment []).identities
  config := { requireVerification := true, allowUnsigned := false }
  registered _ := true
  subscribed _ := true
  inProcess := false

/-- A child of `sub` crashes, and the budget of `sub` is exhausted. -/
def exhaustion : List Label :=
  [.begin "root", .begin "sub", .crash "sub" "worker", .take "sub" false,
    .exhausted "sub" .routed .routed]

theorem escalation_in_process :
    ∃ s,
      Reaches (step (pair (some inProcessBus)))
          (fun s label => carries (pair (some inProcessBus)) s label = true)
          init s ∧
        NeverLost (pair (some inProcessBus)) s ∧
        ("sub", 0) ∈ s.gaveUp ∧
        s.taken.countP (·.answers "root" ("sub", 0)) = 1 ∧
        s.turns.map Turn.handles = [some "worker", some "sub"] := by
  have ran :
      ((runWhere (step (pair (some inProcessBus)))
          (fun s label => carries (pair (some inProcessBus)) s label = true)
          init (exhaustion ++ [Label.take "root" false])).map fun s =>
        decide (("sub", 0) ∈ s.gaveUp ∧
          s.taken.countP (·.answers "root" ("sub", 0)) = 1 ∧
          s.turns.map Turn.handles = [some "worker", some "sub"])) =
        some true := by
    decide +kernel
  rcases exists_reaches_of_run ran with ⟨s, run, seen⟩
  have escalated := of_decide_eq_true seen
  exact ⟨s, run, escalations_never_lost _ run, escalated⟩

/--
Under strict verification `sub` cannot sign the trigger: both its hand-overs
raise, its loop ends, and `root` keeps two events that it will never take.
-/
theorem escalation_lost_under_strict_signing :
    ¬ ∀ s,
      Reaches (step (pair (some strictBus))) (fun _ _ => True) init s →
        NeverLost (pair (some strictBus)) s := by
  intro never
  have ran :
      ((runWhere (step (pair (some strictBus))) (fun _ _ => True) init
          exhaustion).map fun s =>
        decide (s.fallen = ["sub"] ∧ s.pending.length = 2 ∧
          s.mailboxes = [] ∧ s.inFlight = [])) =
        some true := by
    decide +kernel
  rcases exists_reaches_of_run ran with ⟨s, run, seen⟩
  have lost := never s run
  have fell := (of_decide_eq_true seen).1
  rw [lost.survives] at fell
  cases fell

end Civitas.Supervision.Escalation
