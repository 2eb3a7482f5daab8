import Civitas.Lifecycle.Suspension

/-!
# No dispatch while suspended

While a suspension is in force, an agent passes no further message to its own
code; what it has buffered is passed on later, in the order it came.

The queues keep their order in every run.  The gate holds when no request falls
where the loop does not see it, and when no message for the code of the agent
stands in the priority queue of a suspended agent, which the loop serves.
-/

namespace Civitas.Lifecycle.Suspension

open Civitas.Supervision (Lane)
open Civitas.Transition
open Function (update)

/-- The message was passed to the code of the agent. -/
def Taken.served (taken : Taken) : Bool :=
  !taken.expired && taken.message.kind.dispatched

/-- The messages of a lane that were passed to the code of the agent. -/
def State.servedOf (s : State) (lane : Lane) : List Message :=
  (s.dispatched.map Prod.fst).filter fun message => message.lane = lane

/-- The gate of a suspended agent. -/
structure Gated (s : State) : Prop where
  /-- Nothing was dispatched while a suspension was in force. -/
  quiet : ∀ entry ∈ s.dispatched, entry.2 = false
  /-- A queue gives out what it has taken in, from the front. -/
  ordered : ∀ lane,
    s.arrived lane = (s.taken lane).map Taken.message ++ s.queue lane
  /-- What a queue has given out is dispatched in that order. -/
  dispatched : ∀ lane,
    s.servedOf lane =
      ((s.taken lane).filter Taken.served).map Taken.message
  /-- A resumed agent waits for both queues. -/
  released : ∀ priorityOnly, s.held = false →
    s.phase = .waiting priorityOnly → priorityOnly = false

/-! ## The queues -/

/-- What the queues have taken in and given out. -/
structure State.Logged (s : State) : Prop where
  lanes : ∀ lane, ∀ message ∈ s.queue lane, message.lane = lane
  ordered : ∀ lane,
    s.arrived lane = (s.taken lane).map Taken.message ++ s.queue lane
  dispatched : ∀ lane,
    s.servedOf lane =
      ((s.taken lane).filter Taken.served).map Taken.message

/-- Two states have the same queues and the same history of them. -/
structure SameLog (s after : State) : Prop where
  queue : after.queue = s.queue
  arrived : after.arrived = s.arrived
  taken : after.taken = s.taken
  dispatched : after.dispatched = s.dispatched

section Logged

variable {allowed : Bool} {s after : State} {label : Label}

theorem logged_init (restored : Bool) : (init restored).Logged where
  lanes := by rintro _ _ ⟨⟩
  ordered := fun _ => rfl
  dispatched := fun _ => rfl

theorem State.Logged.same (logged : s.Logged) (same : SameLog s after) :
    after.Logged where
  lanes := by
    rw [same.queue]
    exact logged.lanes
  ordered := by
    rw [same.arrived, same.taken, same.queue]
    exact logged.ordered
  dispatched := by
    unfold State.servedOf
    rw [same.taken, same.dispatched]
    exact logged.dispatched

theorem State.Logged.arrive (logged : s.Logged) (message : Message) :
    State.Logged
      { s with
        queue :=
          update s.queue message.lane (s.queue message.lane ++ [message])
        arrived :=
          update s.arrived message.lane
            (s.arrived message.lane ++ [message]) } where
  lanes := by
    intro lane other within
    by_cases same : lane = message.lane
    · subst same
      simp only [Function.update_self, List.mem_append,
        List.mem_singleton] at within
      rcases within with old | rfl
      · exact logged.lanes _ other old
      · rfl
    · simp only [Function.update_of_ne same] at within
      exact logged.lanes lane other within
  ordered := by
    intro lane
    by_cases same : lane = message.lane
    · subst same
      simp only [Function.update_self]
      rw [logged.ordered, List.append_assoc]
    · simp only [Function.update_of_ne same]
      exact logged.ordered lane
  dispatched := logged.dispatched

/-- What the treatment of a message does to the history. -/
theorem interpret_log (message : Message) :
    (s.interpret allowed message).queue = s.queue ∧
      (s.interpret allowed message).arrived = s.arrived ∧
      (s.interpret allowed message).taken = s.taken ∧
      (s.interpret allowed message).dispatched =
        if message.kind.dispatched then s.dispatched ++ [(message, s.held)]
        else s.dispatched := by
  unfold State.interpret
  cases message.kind with
  | business | correction | shutdown | heartbeat | terminated =>
      exact ⟨rfl, rfl, rfl, rfl⟩
  | suspend =>
      cases allowed <;> cases s.suspended <;> cases s.marker <;>
        exact ⟨rfl, rfl, rfl, rfl⟩
  | forceRestart => cases allowed <;> exact ⟨rfl, rfl, rfl, rfl⟩
  | resume approver =>
      unfold State.release
      by_cases unnamed : approver = ""
      · simp [unnamed, Kind.dispatched]
      · cases s.suspended <;> simp [unnamed, Kind.dispatched, State.save]

/-- A message leaves the queue that it stands at the front of. -/
theorem State.Logged.take
    (logged : s.Logged) {lane : Lane} {message : Message}
    {rest : List Message} (now : Nat)
    (front : s.queue lane = message :: rest) :
    State.Logged
      (if message.expired now then s.pop lane message rest now
      else (s.pop lane message rest now).interpret allowed message) := by
  have home : message.lane = lane := by
    refine logged.lanes lane message ?_
    rw [front]
    exact List.mem_cons_self
  have log := @interpret_log allowed (s.pop lane message rest now) message
  have queue :
      State.queue
          (if message.expired now then s.pop lane message rest now
          else (s.pop lane message rest now).interpret allowed message) =
        update s.queue lane rest := by
    split
    · rfl
    · exact log.1
  have arrived :
      State.arrived
          (if message.expired now then s.pop lane message rest now
          else (s.pop lane message rest now).interpret allowed message) =
        s.arrived := by
    split
    · rfl
    · exact log.2.1
  have taken :
      State.taken
          (if message.expired now then s.pop lane message rest now
          else (s.pop lane message rest now).interpret allowed message) =
        update s.taken lane
          (s.taken lane ++ [⟨message, message.expired now⟩]) := by
    split
    · rfl
    · exact log.2.2.1
  have dispatched :
      State.dispatched
          (if message.expired now then s.pop lane message rest now
          else (s.pop lane message rest now).interpret allowed message) =
        if Taken.served ⟨message, message.expired now⟩ then
          s.dispatched ++ [(message, s.held)]
        else s.dispatched := by
    cases expired : message.expired now with
    | true => rfl
    | false => exact log.2.2.2
  constructor
  · intro other kept within
    rw [queue] at within
    by_cases same : other = lane
    · subst same
      rw [Function.update_self] at within
      refine logged.lanes other kept ?_
      rw [front]
      exact List.mem_cons_of_mem _ within
    · rw [Function.update_of_ne same] at within
      exact logged.lanes other kept within
  · intro other
    rw [queue, arrived, taken, logged.ordered]
    by_cases same : other = lane
    · subst same
      simp only [Function.update_self, front, List.map_append, List.map_cons,
        List.map_nil, List.append_assoc, List.singleton_append]
    · simp only [Function.update_of_ne same]
  · intro other
    have before := logged.dispatched other
    unfold State.servedOf at before ⊢
    rw [taken, dispatched]
    by_cases same : other = lane
    · subst same
      rw [Function.update_self, List.filter_append, List.map_append, ← before]
      split
      · rename_i served
        simp [served, home]
      · rename_i skipped
        simp [skipped]
    · rw [Function.update_of_ne same, ← before]
      split
      · simp [home, Ne.symm same]
      · rfl

/-- Every other step leaves the queues and their history alone. -/
theorem sameLog_of_step
    (arrives : ∀ message, label ≠ .arrive message)
    (takes : ∀ now, label ≠ .take now)
    (stepped : step allowed s label = some after) :
    SameLog s after := by
  have released : SameLog s s.release := by
    unfold State.release
    cases asleep : s.suspended <;> constructor <;> simp
  have rounded : SameLog s s.round := by
    unfold State.round
    split <;> exact ⟨rfl, rfl, rfl, rfl⟩
  cases label with
  | arrive message => exact absurd rfl (arrives message)
  | take now => exact absurd rfl (takes now)
  | suspend =>
      simp only [Suspension.step] at stepped
      split at stepped
      · cases stepped
        exact ⟨rfl, rfl, rfl, rfl⟩
      · cases stepped
  | resume approver =>
      simp only [Suspension.step] at stepped
      split at stepped
      · cases stepped
      · cases stepped
        split
        · exact ⟨released.queue, released.arrived, released.taken,
            released.dispatched⟩
        · exact released
  | checkpoint =>
      cases stepped
      exact ⟨rfl, rfl, rfl, rfl⟩
  | lands position stores =>
      rcases Option.map_eq_some_iff.mp stepped with ⟨store, -, rfl⟩
      exact ⟨rfl, rfl, rfl, rfl⟩
  | overwrite =>
      cases stepped
      exact ⟨rfl, rfl, rfl, rfl⟩
  | round =>
      simp only [Suspension.step] at stepped
      split at stepped
      · cases stepped
        exact rounded
      · cases stepped
  | enterSaves | fail =>
      simp only [Suspension.step] at stepped
      split at stepped
      all_goals
        cases stepped
        try exact ⟨rfl, rfl, rfl, rfl⟩
  | entered =>
      simp only [Suspension.step] at stepped
      split at stepped
      · split at stepped
        · cases stepped
        · cases stepped
          exact ⟨rfl, rfl, rfl, rfl⟩
      · cases stepped
  | proceed =>
      simp only [Suspension.step] at stepped
      split at stepped
      · cases stepped
        exact ⟨rfl, rfl, rfl, rfl⟩
      · split at stepped
        · cases stepped
        · cases stepped
          exact ⟨rfl, rfl, rfl, rfl⟩
      · cases stepped

theorem State.Logged.step
    (logged : s.Logged) (stepped : step allowed s label = some after) :
    after.Logged := by
  by_cases arrives : ∃ message, label = .arrive message
  · rcases arrives with ⟨message, rfl⟩
    cases stepped
    exact logged.arrive message
  · by_cases takes : ∃ now, label = .take now
    · rcases takes with ⟨now, rfl⟩
      rcases take_cases stepped with
        ⟨priorityOnly, message, rest, -, front, rfl⟩
      exact logged.take now front
    · refine logged.same (sameLog_of_step ?_ ?_ stepped)
      · intro message same
        exact arrives ⟨message, same⟩
      · intro now same
        exact takes ⟨now, same⟩

end Logged

/-! ## The gate -/

/--
The priority queue of a suspended agent, whose front the loop takes, has no
message for the code of the agent there.
-/
def controls (s : State) : Label → Bool
  | .take now =>
      !(s.suspended &&
        (s.queue .priority).head?.any fun message =>
          message.kind.dispatched && !message.expired now)
  | _ => true

/-- What holds in every run that meets the conditions. -/
structure Guarded (s : State) : Prop where
  coherent : s.Coherent
  logged : s.Logged
  quiet : ∀ entry ∈ s.dispatched, entry.2 = false

section Gate

variable {allowed : Bool} {s after : State} {label : Label}

theorem quiet_of_step
    (coherent : s.Coherent) (controlled : controls s label = true)
    (quiet : ∀ entry ∈ s.dispatched, entry.2 = false)
    (stepped : step allowed s label = some after) :
    ∀ entry ∈ after.dispatched, entry.2 = false := by
  by_cases takes : ∃ now, label = .take now
  · rcases takes with ⟨now, rfl⟩
    rcases take_cases stepped with
      ⟨priorityOnly, message, rest, phase, front, rfl⟩
    simp only [State.Coherent, phase] at coherent
    rcases coherent with ⟨-, only, held, -⟩
    split
    · exact quiet
    · rename_i fresh
      have log :=
        @interpret_log allowed
          (s.pop (s.source priorityOnly) message rest now) message
      rw [log.2.2.2]
      split
      · rename_i served
        intro entry within
        rcases List.mem_append.mp within with old | new
        · exact quiet entry old
        · cases List.mem_singleton.mp new
          cases asleep : s.suspended with
          | false => exact held.trans asleep
          | true =>
              have source : s.source priorityOnly = .priority := by
                simp [State.source, only, asleep]
              rw [source] at front
              have unexpired : message.expired now = false := by
                simpa using fresh
              simp [controls, asleep, front, served, unexpired]
                at controlled
      · exact quiet
  · have same : after.dispatched = s.dispatched := by
      by_cases arrives : ∃ message, label = .arrive message
      · rcases arrives with ⟨message, rfl⟩
        cases stepped
        rfl
      · refine (sameLog_of_step ?_ ?_ stepped).dispatched
        · exact fun message same => arrives ⟨message, same⟩
        · exact fun now same => takes ⟨now, same⟩
    rw [same]
    exact quiet

/--
In every run whose requests are heeded, and in which the loop of a suspended
agent finds only control messages in the priority queue, the gate holds.
-/
theorem gated_in_every_run
    (allowed restored : Bool)
    (reached :
      Reaches (step allowed)
        (fun s label => heeds s label = true ∧ controls s label = true)
        (init restored) s) :
    Gated s := by
  have guarded : Guarded s := by
    refine reached.invariant ?_ ?_
    · exact ⟨coherent_init restored, logged_init restored, by rintro _ ⟨⟩⟩
    · intro before label after kept permitted stepped
      rcases permitted with ⟨heeded, controlled⟩
      exact ⟨kept.coherent.step heeded stepped, kept.logged.step stepped,
        quiet_of_step kept.coherent controlled kept.quiet stepped⟩
  rcases guarded with ⟨coherent, logged, quiet⟩
  refine ⟨quiet, logged.ordered, logged.dispatched, ?_⟩
  intro priorityOnly free phase
  simp only [State.Coherent, phase] at coherent
  rw [coherent.2.1, ← coherent.2.2.1, free]

end Gate

/-- A message for `handle`. -/
def task (id : Nat) : Message :=
  { id := id, lane := .normal, kind := .business }

/-- An agent is suspended by a message, buffers two tasks, and is resumed. -/
def approval : List Label :=
  [.round, .arrive { id := 0, lane := .priority, kind := .suspend }, .take 0,
    .round, .enterSaves, .lands 0 true, .entered, .arrive (task 1),
    .arrive (task 2),
    .arrive { id := 3, lane := .priority, kind := .resume "ada" }, .take 0,
    .lands 0 true, .proceed, .round, .take 0, .proceed, .round, .take 0]

theorem approval_gated :
    ∃ s,
      Reaches (step true)
          (fun s label => heeds s label = true ∧ controls s label = true)
          (init false) s ∧
        Gated s ∧ s.dispatched = [(task 1, false), (task 2, false)] := by
  have ran :
      ((runWhere (step true)
          (fun s label => heeds s label = true ∧ controls s label = true)
          (init false) approval).map fun s =>
        decide (s.dispatched = [(task 1, false), (task 2, false)])) =
        some true := by
    decide +kernel
  rcases exists_reaches_of_run ran with ⟨s, run, seen⟩
  exact ⟨s, run, gated_in_every_run true false run, of_decide_eq_true seen⟩

/-- A task that arrives after `suspend` has been called is dispatched. -/
theorem dispatched_while_suspended :
    ¬ ∀ s, Reaches (step true) (fun _ _ => True) (init false) s →
      Gated s := by
  intro gated
  have ran :
      ((runWhere (step true) (fun _ _ => True) (init false)
          [.round, .suspend, .arrive (task 0), .take 0]).map fun s =>
        decide (s.dispatched = [(task 0, true)])) =
        some true := by
    decide +kernel
  rcases exists_reaches_of_run ran with ⟨s, run, seen⟩
  have quiet := (gated s run).quiet
  rw [of_decide_eq_true seen] at quiet
  cases quiet (task 0, true) List.mem_cons_self

end Civitas.Lifecycle.Suspension
