import Civitas.Lifecycle.Suspension

/-!
# The last request wins

When an agent waits for a message again, its status, the queues it waits for
and the marker in its state store are those of the last request to suspend or
to resume it.

The status and the loop agree when every request falls where the loop sees it.
The marker agrees with them when moreover the checkpoints are stored, one that
overtakes another with the same marker only, and the code of the agent does not
take the marker of a suspended agent away.
-/

namespace Civitas.Lifecycle.Suspension

open Civitas.Flights (Cell)
open Civitas.Transition

/-- The agent is as the last request wants it. -/
structure LastWins (s : State) : Prop where
  /-- A blocked loop, with every checkpoint done, is where it should be. -/
  agrees : ∀ priorityOnly, s.phase = .waiting priorityOnly →
    s.queue (s.source priorityOnly) = [] → s.store.flights = [] →
      s.status = (if s.held then .suspended else .running) ∧
        s.store.value = s.held ∧ priorityOnly = s.held
  /-- No running agent leaves its messages unattended. -/
  attended :
    ¬ (s.status = .running ∧ s.queue .normal ≠ [] ∧
      s.phase = .waiting true)

/--
Checkpoints are stored, none before an earlier one with another marker, and the
marker of a suspended agent is kept.
-/
def durable (s : State) : Label → Bool
  | .lands position stores => stores && s.store.inOrder position
  | .overwrite => !s.suspended
  | _ => true

/-- The marker follows the status, and the store is going to follow it. -/
structure State.Marked (s : State) : Prop where
  marker : s.phase ≠ .ended → s.marker = s.suspended
  settled : s.phase ≠ .ended → s.phase ≠ .entering false →
    s.store.settled = s.marker

section Marked

variable {allowed : Bool} {s after : State} {label : Label}

theorem marked_init (restored : Bool) : (init restored).Marked := by
  cases restored
  all_goals
    constructor
    · intro _
      rfl
    · intro _ _
      rfl

theorem State.Marked.finish (s : State) : s.finish.Marked where
  marker := fun live => absurd rfl live
  settled := fun live => absurd rfl live

/-- A checkpoint is going to store the marker as it is. -/
theorem settled_save (s : State) (writer : Writer) :
    (s.save writer).store.settled = s.marker :=
  s.store.settled_issue writer s.marker

/-- What else happens to an agent keeps its status, marker and store. -/
theorem State.Marked.frame
    (marked : s.Marked) (live : s.phase ≠ .ended)
    (called : s.phase ≠ .entering false)
    (status : after.status = s.status) (marker : after.marker = s.marker)
    (store : after.store.settled = s.store.settled) :
    after.Marked where
  marker := by
    intro _
    rw [marker, marked.marker live]
    unfold State.suspended
    rw [status]
  settled := by
    intro _ _
    rw [store, marker]
    exact marked.settled live called

/-- A step that leaves the loop where it is. -/
theorem State.Marked.still
    (marked : s.Marked) (phase : after.phase = s.phase)
    (status : after.status = s.status) (marker : after.marker = s.marker)
    (store : after.store.settled = s.store.settled) :
    after.Marked where
  marker := by
    intro live
    rw [phase] at live
    rw [marker, marked.marker live]
    unfold State.suspended
    rw [status]
  settled := by
    intro live called
    rw [phase] at live called
    rw [store, marker]
    exact marked.settled live called

/-- A checkpoint by a task other than the loop, or by a loop that goes on. -/
theorem State.Marked.save
    (marked : s.Marked) (live : s.phase ≠ .ended) (writer : Writer)
    (phase : Phase) :
    State.Marked { s.save writer with phase := phase } where
  marker := fun _ => marked.marker live
  settled := fun _ _ => settled_save s writer

theorem release_store (s : State) : s.release.store = s.store := by
  unfold State.release
  cases s.suspended <;> rfl

/-- A call of `resume` on an agent that is not suspended changes nothing. -/
theorem release_idle
    (awake : s.suspended = false) :
    s.release.marker = s.marker ∧ s.release.status = s.status := by
  unfold State.release
  rw [awake]
  exact ⟨rfl, rfl⟩

theorem release_marker (asleep : s.suspended = true) :
    s.release.marker = s.release.suspended := by
  rw [(release_status s).1]
  unfold State.release
  rw [asleep]
  rfl

theorem State.Marked.round
    (marked : s.Marked) (phase : s.phase = .boundary) : s.round.Marked := by
  unfold State.round
  split
  · exact ⟨fun _ => rfl, fun _ called => absurd rfl called⟩
  · exact marked.frame (by simp [phase]) (by simp [phase]) rfl rfl rfl

/-- The treatment of a message that a waiting loop has taken. -/
theorem State.Marked.interpret
    (marked : s.Marked) {priorityOnly : Bool}
    (phase : s.phase = .waiting priorityOnly) (message : Message) :
    (s.interpret allowed message).Marked := by
  have live : s.phase ≠ .ended := by
    rw [phase]
    simp
  have called : s.phase ≠ .entering false := by
    rw [phase]
    simp
  unfold State.interpret
  cases message.kind with
  | business | correction | heartbeat | terminated =>
      exact marked.frame live called rfl rfl rfl
  | shutdown => exact .finish s
  | suspend =>
      cases allowed with
      | false => exact marked.frame live called rfl rfl rfl
      | true =>
          cases s.suspended with
          | false => exact marked.frame live called rfl rfl rfl
          | true =>
              cases holds : s.marker with
              | false => exact marked.frame live called rfl rfl rfl
              | true =>
                  have kept := marked.save live .loop .controlling
                  exact ⟨kept.marker, kept.settled⟩
  | forceRestart =>
      cases allowed with
      | true => exact .finish s
      | false => exact marked.frame live called rfl rfl rfl
  | resume approver =>
      by_cases unnamed : approver = ""
      · simp only [if_pos unnamed]
        exact marked.frame live called rfl rfl rfl
      · simp only [if_neg unnamed]
        cases asleep : s.suspended with
        | false =>
            have idle := release_idle asleep
            exact
              marked.frame live called idle.2 idle.1
                (congrArg _ (release_store s))
        | true =>
            exact
              ⟨fun _ => release_marker asleep,
                fun _ _ => settled_save s.release .loop⟩

/-- A call of `resume` by another task. -/
theorem State.Marked.release (marked : s.Marked) :
    State.Marked
      (if s.suspended then s.release.save .other else s.release) := by
  have phase := (release_status s).2.2.2.2
  cases asleep : s.suspended with
  | false =>
      have idle := release_idle asleep
      exact
        marked.still phase idle.2 idle.1 (congrArg _ (release_store s))
  | true =>
      exact
        ⟨fun _ => release_marker asleep,
          fun _ _ => settled_save s.release .other⟩

theorem State.Marked.step
    (marked : s.Marked) (durably : durable s label = true)
    (stepped : step allowed s label = some after) :
    after.Marked := by
  cases label with
  | arrive message =>
      cases stepped
      exact marked.still rfl rfl rfl rfl
  | suspend =>
      simp only [Suspension.step] at stepped
      split at stepped
      · cases stepped
        exact marked.still rfl rfl rfl rfl
      · cases stepped
  | resume approver =>
      simp only [Suspension.step] at stepped
      split at stepped
      · cases stepped
      · cases stepped
        exact marked.release
  | checkpoint =>
      cases stepped
      exact ⟨marked.marker, fun _ _ => settled_save s .other⟩
  | lands position stores =>
      simp only [durable, Bool.and_eq_true] at durably
      rcases durably with ⟨rfl, ordered⟩
      rcases Option.map_eq_some_iff.mp stepped with ⟨store, landed, rfl⟩
      exact marked.still rfl rfl rfl (Cell.settled_land ordered landed)
  | overwrite =>
      cases stepped
      have awake : s.suspended = false := by
        simpa [durable] using durably
      constructor
      · intro _
        exact awake.symm
      · intro live called
        exact
          (marked.settled live called).trans
            ((marked.marker live).trans awake)
  | round =>
      simp only [Suspension.step] at stepped
      split at stepped
      · rename_i phase
        cases stepped
        exact marked.round phase
      · cases stepped
  | enterSaves =>
      simp only [Suspension.step] at stepped
      split at stepped
      · rename_i phase
        cases stepped
        exact marked.save (by simp [phase]) .loop (.entering true)
      · cases stepped
  | entered =>
      simp only [Suspension.step] at stepped
      split at stepped
      · rename_i phase
        split at stepped
        · cases stepped
        · cases stepped
          exact marked.frame (by simp [phase]) (by simp [phase]) rfl rfl rfl
      · cases stepped
  | take now =>
      rcases take_cases stepped with
        ⟨priorityOnly, message, rest, phase, -, rfl⟩
      have popped :
          (s.pop (s.source priorityOnly) message rest now).Marked :=
        marked.still rfl rfl rfl rfl
      split
      · exact popped
      · exact popped.interpret phase message
  | proceed =>
      simp only [Suspension.step] at stepped
      split at stepped
      · rename_i phase
        cases stepped
        exact marked.frame (by simp [phase]) (by simp [phase]) rfl rfl rfl
      · rename_i phase
        split at stepped
        · cases stepped
        · cases stepped
          exact marked.frame (by simp [phase]) (by simp [phase]) rfl rfl rfl
      · cases stepped
  | fail =>
      simp only [Suspension.step] at stepped
      split at stepped
      all_goals
        cases stepped
        try exact .finish s

end Marked

/-! ## Runs -/

/-- What holds in every run that meets the conditions. -/
structure Agreed (s : State) : Prop where
  coherent : s.Coherent
  marked : s.Marked

theorem Agreed.lastWins {s : State} (agreed : Agreed s) : LastWins s where
  agrees := by
    intro priorityOnly phase _ drained
    have marker := agreed.marked.marker (by rw [phase]; simp)
    have stored : s.store.value = s.marker := by
      rw [← Cell.settled_of_flights_nil drained]
      exact agreed.marked.settled (by rw [phase]; simp) (by rw [phase]; simp)
    have coherent := agreed.coherent
    simp only [State.Coherent, phase] at coherent
    rcases coherent with ⟨live, only, held, -⟩
    refine ⟨?_, ?_, only.trans held.symm⟩
    · rw [held]
      unfold State.suspended
      cases status : s.status with
      | running | suspended => rfl
      | ended => exact absurd status live
    · rw [stored, marker, held]
  attended := by
    rintro ⟨running, -, phase⟩
    have coherent := agreed.coherent
    simp only [State.Coherent, phase] at coherent
    have asleep := coherent.2.1
    rw [State.suspended, running] at asleep
    cases asleep

/--
In every run whose requests are heeded, with checkpoints that are stored in
order and a marker that is left alone, the last request wins.
-/
theorem last_request_wins
    {s : State} (allowed restored : Bool)
    (reached :
      Reaches (step allowed)
        (fun s label => heeds s label = true ∧ durable s label = true)
        (init restored) s) :
    LastWins s := by
  have agreed : Agreed s := by
    refine reached.invariant ?_ ?_
    · exact ⟨coherent_init restored, marked_init restored⟩
    · intro before label after kept permitted stepped
      rcases permitted with ⟨heeded, durably⟩
      exact ⟨kept.coherent.step heeded stepped,
        kept.marked.step durably stepped⟩
  exact agreed.lastWins

/-- Another task resumes an agent while it is still entering suspension. -/
def countermand : List Label :=
  [.round, .arrive { id := 0, lane := .priority, kind := .suspend }, .take 0,
    .round, .resume "ada", .enterSaves, .lands 0 true, .lands 0 true,
    .entered]

theorem countermand_wins :
    ∃ s,
      Reaches (step true)
          (fun s label => heeds s label = true ∧ durable s label = true)
          (init false) s ∧
        LastWins s ∧ s.held = false ∧ s.status = .running ∧
          s.store.flights = [] := by
  have ran :
      ((runWhere (step true)
          (fun s label => heeds s label = true ∧ durable s label = true)
          (init false) countermand).map fun s =>
        decide
          (s.held = false ∧ s.status = .running ∧ s.store.flights = [])) =
        some true := by
    decide +kernel
  rcases exists_reaches_of_run ran with ⟨s, run, seen⟩
  exact
    ⟨s, run, last_request_wins true false run, of_decide_eq_true seen⟩

/--
A task resumes an agent whose loop is inside `get_priority`: it is running, and
its loop waits for priority messages next to a message for `handle`.
-/
theorem resumed_agent_unattended :
    ¬ ∀ s, Reaches (step true) (fun _ _ => True) (init true) s →
      LastWins s := by
  intro wins
  have ran :
      ((runWhere (step true) (fun _ _ => True) (init true)
          [.round, .arrive { id := 0, lane := .normal, kind := .business },
            .resume "ada", .lands 0 true]).map fun s =>
        decide (s.status = .running ∧ s.queue .normal ≠ [] ∧
          s.phase = .waiting true)) =
        some true := by
    decide +kernel
  rcases exists_reaches_of_run ran with ⟨s, run, seen⟩
  have attended := (wins s run).attended
  exact attended (of_decide_eq_true seen)

end Civitas.Lifecycle.Suspension
