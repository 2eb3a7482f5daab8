import Civitas.Flights
import Civitas.Supervision.Mailbox
import Civitas.Transition

/-!
# Suspension

The message loop of an agent and the requests to suspend and to resume it:
`suspend`, `resume`, `_enter_suspended`, `_update_suspend_reason` and
`_message_loop`, with the two queues of the mailbox.

`suspend` only sets a flag.  The loop reads it at the top of each round, before
it calls `get`, or `get_priority` when the agent is suspended.  Both return at
once when they find a message, and otherwise wait inside the call.  `resume`
changes the status where it is called: by the loop, for a message, or by any
other task, and calls `checkpoint`.

`checkpoint` hands the state over as it is when it is called and waits for the
store.  The store may take its time, and checkpoints of several tasks may be
stored in another order than they were called in.

A message arrives when `put` has found room for it.  Next to what the code has,
a state says whether the last request that was accepted is a suspension, and
keeps what each queue has taken in and given out.
-/

namespace Civitas.Lifecycle.Suspension

open Civitas.Flights (Cell)
open Civitas.Supervision (Lane)
open Civitas.Transition
open Function (update)

/-! ## Messages -/

/-- What the loop makes of the type of a message. -/
inductive Kind where
  /-- Passed to `handle`. -/
  | business
  /-- `civitas.eval.correction`, passed to `on_correction`. -/
  | correction
  /-- `_agency.shutdown` or `civitas.eval.halt`. -/
  | shutdown
  /-- `_agency.heartbeat`. -/
  | heartbeat
  /-- `_agency.suspend`. -/
  | suspend
  /-- `_agency.resume`. -/
  | resume (approver : String)
  /-- `_agency.force_restart`. -/
  | forceRestart
  /-- `civitas.dynamic.terminated`. -/
  | terminated
deriving DecidableEq

/-- The loop passes the message to the code of the agent. -/
def Kind.dispatched : Kind → Bool
  | .business | .correction => true
  | _ => false

/-- A message, as far as the loop reads it. -/
structure Message where
  id : Nat
  lane : Lane
  kind : Kind
  /-- `timestamp + ttl`, when there is a `ttl`. -/
  deadline : Option Nat := none
deriving DecidableEq

/-- `_drop_if_expired`. -/
def Message.expired (now : Nat) (message : Message) : Bool :=
  message.deadline.any (· < now)

/-! ## State -/

/-- The statuses that the loop tells apart. -/
inductive Status where
  | running
  | suspended
  /-- `STOPPING`, `STOPPED` or `CRASHED`. -/
  | ended
deriving DecidableEq

/-- Where the loop stands. -/
inductive Phase where
  /-- At the top of a round. -/
  | boundary
  /-- Inside `_enter_suspended`; whether `checkpoint` has been called. -/
  | entering (saving : Bool)
  /-- Inside `get_priority`, or inside `get`. -/
  | waiting (priorityOnly : Bool)
  /-- Inside `_dispatch`. -/
  | handling
  /-- Inside the treatment of a control message. -/
  | controlling
  | ended
deriving DecidableEq

/-- A message that `get` or `get_priority` has given out. -/
structure Taken where
  message : Message
  expired : Bool
deriving DecidableEq

/-- The task that waits for a checkpoint. -/
inductive Writer where
  | loop
  | other
deriving DecidableEq

/-- The agent, its mailbox and what is stored under its name. -/
structure State where
  status : Status
  /-- `_suspend_requested`. -/
  requested : Bool := false
  /-- `state` holds the suspend marker. -/
  marker : Bool
  /-- Whether the state store holds the suspend marker, and the checkpoints. -/
  store : Cell Writer Bool
  queue : Lane → List Message := fun _ => []
  phase : Phase := .boundary
  /-- The last request that was accepted is a suspension. -/
  held : Bool
  arrived : Lane → List Message := fun _ => []
  taken : Lane → List Taken := fun _ => []
  /-- What was passed to the code of the agent, and `held` at that moment. -/
  dispatched : List (Message × Bool) := []

/-- `_message_loop` begins, with a marker that may have been restored. -/
def init (restored : Bool) : State where
  status := if restored then .suspended else .running
  marker := restored
  store := { value := restored }
  held := restored

/-- `_status == SUSPENDED`. -/
def State.suspended (s : State) : Bool :=
  decide (s.status = .suspended)

/-! ## Requests -/

/-- `suspend`, or the treatment of `_agency.suspend` by a running agent. -/
def State.request (s : State) : State :=
  { s with requested := true, held := true }

/-- `resume` with an approver, up to its checkpoint. -/
def State.release (s : State) : State :=
  let released := { s with requested := false, held := false }
  if s.suspended
  then { released with marker := false, status := .running }
  else released

/-- `checkpoint` is called. -/
def State.save (s : State) (writer : Writer) : State :=
  { s with store := s.store.issue writer s.marker }

/-! ## The loop -/

/-- `_suspend_requested = False`, and the choice between the queues. -/
def State.await (s : State) : State :=
  { s with requested := false, phase := .waiting s.suspended }

/-- The top of a round. -/
def State.round (s : State) : State :=
  if s.requested && decide (s.status = .running)
  then
    { s with
      status := .suspended
      marker := true
      phase := .entering false }
  else s.await

/-- The queue that `get` or `get_priority` takes a message from. -/
def State.source (s : State) (priorityOnly : Bool) : Lane :=
  if (s.queue .priority).isEmpty && !priorityOnly then .normal
  else .priority

/-- A message leaves its queue. -/
def State.pop
    (s : State) (lane : Lane) (message : Message) (rest : List Message)
    (now : Nat) : State :=
  { s with
    queue := update s.queue lane rest
    taken :=
      update s.taken lane (s.taken lane ++ [⟨message, message.expired now⟩]) }

/-- The loop has ended. -/
def State.finish (s : State) : State :=
  { s with status := .ended, phase := .ended }

/-- What the loop does with a message; `allowed` is `_suspend_allowed`. -/
def State.interpret (s : State) (allowed : Bool) (message : Message) : State :=
  match message.kind with
  | .business | .correction =>
      { s with
        phase := .handling
        dispatched := s.dispatched ++ [(message, s.held)] }
  | .shutdown => s.finish
  | .heartbeat | .terminated => { s with phase := .controlling }
  | .suspend =>
      if allowed then
        if s.suspended then
          let reasoned := if s.marker then s.save .loop else s
          { reasoned with held := true, phase := .controlling }
        else { s.request with phase := .boundary }
      else { s with phase := .boundary }
  | .resume approver =>
      if approver = "" then { s with phase := .boundary }
      else if s.suspended
      then { s.release.save .loop with phase := .controlling }
      else { s.release with phase := .boundary }
  | .forceRestart =>
      if allowed then s.finish else { s with phase := .boundary }

/-! ## Steps -/

/-- What the agent's loop, its code and other tasks do. -/
inductive Label where
  /-- `put` has found room. -/
  | arrive (message : Message)
  /-- Another task, or the code of the agent, calls `suspend`. -/
  | suspend
  /-- Another task, or the code of the agent, calls `resume`. -/
  | resume (approver : String)
  /-- The code of the agent calls `checkpoint`. -/
  | checkpoint
  /-- The store has done with a checkpoint; whether it has stored it. -/
  | lands (position : Nat) (stores : Bool)
  /-- The code of the agent replaces `state`. -/
  | overwrite
  /-- The loop is at the top of a round. -/
  | round
  /-- `on_suspend` returns, and `_enter_suspended` calls `checkpoint`. -/
  | enterSaves
  /-- `_enter_suspended` returns. -/
  | entered
  /-- `get` or `get_priority` gives out a message, or drops an expired one. -/
  | take (now : Nat)
  /-- The treatment of a message returns. -/
  | proceed
  /-- An exception or a cancellation ends the loop. -/
  | fail
deriving DecidableEq

/-- One step of an agent. -/
def step (allowed : Bool) (s : State) : Label → Option State
  | .arrive message =>
      some
        { s with
          queue :=
            update s.queue message.lane (s.queue message.lane ++ [message])
          arrived :=
            update s.arrived message.lane
              (s.arrived message.lane ++ [message]) }
  | .suspend => if allowed then some s.request else none
  | .resume approver =>
      if approver = "" then none
      else some (if s.suspended then s.release.save .other else s.release)
  | .checkpoint => some (s.save .other)
  | .lands position stores =>
      (s.store.land position stores).map fun store => { s with store := store }
  | .overwrite => some { s with marker := false }
  | .round =>
      match s.phase with
      | .boundary => some s.round
      | _ => none
  | .enterSaves =>
      match s.phase with
      | .entering false =>
          some { s.save .loop with phase := .entering true }
      | _ => none
  | .entered =>
      match s.phase with
      | .entering true => if s.store.waits .loop then none else some s.await
      | _ => none
  | .take now =>
      match s.phase with
      | .waiting priorityOnly =>
          match s.queue (s.source priorityOnly) with
          | [] => none
          | message :: rest =>
              let popped := s.pop (s.source priorityOnly) message rest now
              if message.expired now then some popped
              else some (popped.interpret allowed message)
      | _ => none
  | .proceed =>
      match s.phase with
      | .handling => some { s with phase := .boundary }
      | .controlling =>
          if s.store.waits .loop then none
          else some { s with phase := .boundary }
      | _ => none
  | .fail =>
      match s.phase with
      | .handling | .controlling | .entering _ | .waiting _ =>
          some s.finish
      | _ => none

/-! ## When requests are heeded -/

/--
No task calls `suspend` while the loop is inside `get`, or while it enters the
suspension of an agent that has already been resumed, and none calls `resume`
while the loop is inside `get_priority`.
-/
def heeds (s : State) : Label → Bool
  | .suspend =>
      match s.phase with
      | .waiting priorityOnly => priorityOnly
      | .entering _ => s.suspended
      | _ => true
  | .resume _ => decide (s.phase ≠ .waiting true)
  | _ => true

/-- The status, the flag and the loop agree on the last request. -/
def State.Coherent (s : State) : Prop :=
  match s.phase with
  | .waiting priorityOnly =>
      s.status ≠ .ended ∧ priorityOnly = s.suspended ∧
        s.held = s.suspended ∧ (s.requested = true → s.suspended = true)
  | .entering _ => s.status ≠ .ended ∧ s.held = s.suspended
  | .ended => True
  | _ => s.status ≠ .ended ∧ s.held = (s.suspended || s.requested)

section Coherent

variable {allowed : Bool} {s after : State} {label : Label}

theorem coherent_init (restored : Bool) : (init restored).Coherent := by
  cases restored <;> exact ⟨by decide, rfl⟩

/-- What the loop and the requests do not touch keeps coherence. -/
theorem State.Coherent.frame
    (coherent : s.Coherent)
    (status : after.status = s.status)
    (requested : after.requested = s.requested)
    (phase : after.phase = s.phase) (held : after.held = s.held) :
    after.Coherent := by
  unfold State.Coherent State.suspended at *
  rw [status, requested, phase, held]
  exact coherent

theorem State.Coherent.request
    (coherent : s.Coherent) (heeded : heeds s .suspend = true) :
    s.request.Coherent := by
  unfold State.Coherent at *
  cases phase : s.phase with
  | waiting priorityOnly =>
      simp only [heeds, phase] at heeded
      simp only [phase] at coherent
      rcases coherent with ⟨live, only, -, -⟩
      have suspended : s.suspended = true := only.symm.trans heeded
      simp only [State.request, phase]
      exact ⟨live, only, suspended.symm, fun _ => suspended⟩
  | entering saved =>
      simp only [heeds, phase] at heeded
      simp only [phase] at coherent
      simp only [State.request, phase]
      exact ⟨coherent.1, heeded.symm⟩
  | ended => simp only [State.request, phase]
  | boundary | handling | controlling =>
      simp only [phase] at coherent
      simp only [State.request, phase]
      exact ⟨coherent.1, (Bool.or_true _).symm⟩

theorem release_status (s : State) :
    s.release.suspended = false ∧
      (s.release.status = .ended ↔ s.status = .ended) ∧
      s.release.requested = false ∧ s.release.held = false ∧
      s.release.phase = s.phase := by
  unfold State.release State.suspended
  cases s.status <;> simp

theorem State.Coherent.release
    (coherent : s.Coherent) {approver : String}
    (heeded : heeds s (.resume approver) = true) :
    s.release.Coherent := by
  rcases release_status s with ⟨awake, live, unrequested, free, phase⟩
  unfold State.Coherent at *
  rw [phase, awake, unrequested, free]
  cases here : s.phase with
  | waiting priorityOnly =>
      simp only [here] at coherent
      have both : priorityOnly = false := by
        have parked : s.phase ≠ .waiting true := of_decide_eq_true heeded
        cases priorityOnly with
        | true => exact absurd here parked
        | false => rfl
      exact ⟨fun ended => coherent.1 (live.mp ended), both, rfl, by simp⟩
  | entering saved =>
      simp only [here] at coherent
      exact ⟨fun ended => coherent.1 (live.mp ended), rfl⟩
  | ended => trivial
  | boundary | handling | controlling =>
      simp only [here] at coherent
      exact ⟨fun ended => coherent.1 (live.mp ended), rfl⟩

theorem coherent_await
    (live : s.status ≠ .ended) (held : s.held = s.suspended) :
    s.await.Coherent :=
  ⟨live, rfl, held, by rintro ⟨⟩⟩

theorem State.Coherent.round
    (coherent : s.Coherent) (phase : s.phase = .boundary) :
    s.round.Coherent := by
  simp only [State.Coherent, phase] at coherent
  rcases coherent with ⟨live, held⟩
  unfold State.round
  split
  · rename_i entered
    rcases Bool.and_eq_true_iff.mp entered with ⟨requested, -⟩
    refine ⟨by simp, ?_⟩
    exact held.trans (by simp [requested, State.suspended])
  · rename_i passed
    refine coherent_await live ?_
    cases status : s.status with
    | running =>
        have unrequested : s.requested = false := by
          simpa [status] using passed
        rw [held, unrequested, Bool.or_false]
    | suspended => simp [held, State.suspended, status]
    | ended => exact absurd status live

theorem State.Coherent.finish (s : State) : s.finish.Coherent :=
  trivial

/-- The loop leaves a wait with a message. -/
theorem State.Coherent.interpret
    (coherent : s.Coherent) {priorityOnly : Bool}
    (phase : s.phase = .waiting priorityOnly) (message : Message) :
    (s.interpret allowed message).Coherent := by
  simp only [State.Coherent, phase] at coherent
  rcases coherent with ⟨live, -, held, covered⟩
  have agreed : s.held = (s.suspended || s.requested) := by
    cases requested : s.requested with
    | false => rw [held, Bool.or_false]
    | true => rw [held, covered requested, Bool.true_or]
  unfold State.interpret
  cases message.kind with
  | business | correction | heartbeat | terminated => exact ⟨live, agreed⟩
  | shutdown => exact .finish s
  | suspend =>
      cases suspended : s.suspended with
      | true =>
          have asleep : true = (s.suspended || s.requested) := by
            rw [suspended, Bool.true_or]
          cases allowed with
          | true =>
              cases s.marker with
              | true => exact ⟨live, asleep⟩
              | false => exact ⟨live, asleep⟩
          | false => exact ⟨live, agreed⟩
      | false =>
          cases allowed with
          | true => exact ⟨live, (Bool.or_true _).symm⟩
          | false => exact ⟨live, agreed⟩
  | resume approver =>
      rcases release_status s with ⟨awake, ends, unrequested, free, -⟩
      have running : s.release.status ≠ .ended :=
        fun ended => live (ends.mp ended)
      have freed : s.release.held =
          (s.release.suspended || s.release.requested) := by
        rw [free, awake, unrequested]
        rfl
      by_cases unnamed : approver = ""
      · simp only [if_pos unnamed]
        exact ⟨live, agreed⟩
      · simp only [if_neg unnamed]
        cases s.suspended with
        | true => exact ⟨running, freed⟩
        | false => exact ⟨running, freed⟩
  | forceRestart =>
      cases allowed with
      | true => exact .finish s
      | false => exact ⟨live, agreed⟩

/-- What a wait comes to. -/
theorem take_cases
    {now : Nat} (stepped : step allowed s (.take now) = some after) :
    ∃ priorityOnly message rest,
      s.phase = .waiting priorityOnly ∧
        s.queue (s.source priorityOnly) = message :: rest ∧
        after =
          if message.expired now
          then s.pop (s.source priorityOnly) message rest now
          else
            (s.pop (s.source priorityOnly) message rest now).interpret
              allowed message := by
  simp only [Suspension.step] at stepped
  split at stepped
  · rename_i priorityOnly phase
    split at stepped
    · cases stepped
    · rename_i message rest front
      refine ⟨priorityOnly, message, rest, phase, front, ?_⟩
      split at stepped <;> cases stepped <;> simp_all
  · cases stepped

theorem State.Coherent.step
    (coherent : s.Coherent) (heeded : heeds s label = true)
    (stepped : step allowed s label = some after) :
    after.Coherent := by
  cases label with
  | arrive message =>
      cases stepped
      exact coherent.frame rfl rfl rfl rfl
  | suspend =>
      simp only [Suspension.step] at stepped
      split at stepped
      · cases stepped
        exact coherent.request heeded
      · cases stepped
  | resume approver =>
      simp only [Suspension.step] at stepped
      split at stepped
      · cases stepped
      · cases stepped
        have released := coherent.release heeded
        cases s.suspended with
        | true => exact released.frame rfl rfl rfl rfl
        | false => exact released
  | checkpoint =>
      cases stepped
      exact coherent.frame rfl rfl rfl rfl
  | lands position stores =>
      rcases Option.map_eq_some_iff.mp stepped with ⟨store, -, rfl⟩
      exact coherent.frame rfl rfl rfl rfl
  | overwrite =>
      cases stepped
      exact coherent.frame rfl rfl rfl rfl
  | round =>
      simp only [Suspension.step] at stepped
      split at stepped
      · rename_i phase
        cases stepped
        exact coherent.round phase
      · cases stepped
  | enterSaves =>
      simp only [Suspension.step] at stepped
      split at stepped
      · rename_i phase
        cases stepped
        simp only [State.Coherent, phase] at coherent
        exact coherent
      · cases stepped
  | entered =>
      simp only [Suspension.step] at stepped
      split at stepped
      · rename_i phase
        split at stepped
        · cases stepped
        · cases stepped
          simp only [State.Coherent, phase] at coherent
          exact coherent_await coherent.1 coherent.2
      · cases stepped
  | take now =>
      rcases take_cases stepped with
        ⟨priorityOnly, message, rest, phase, -, rfl⟩
      have popped :
          (s.pop (s.source priorityOnly) message rest now).Coherent :=
        coherent.frame rfl rfl rfl rfl
      split
      · exact popped
      · exact popped.interpret phase message
  | proceed =>
      simp only [Suspension.step] at stepped
      split at stepped
      · rename_i phase
        cases stepped
        simp only [State.Coherent, phase] at coherent
        exact coherent
      · rename_i phase
        split at stepped
        · cases stepped
        · cases stepped
          simp only [State.Coherent, phase] at coherent
          exact coherent
      · cases stepped
  | fail =>
      simp only [Suspension.step] at stepped
      split at stepped
      all_goals
        cases stepped
        try exact .finish s

end Coherent

end Civitas.Lifecycle.Suspension
