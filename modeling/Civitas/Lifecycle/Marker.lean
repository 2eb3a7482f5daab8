import Civitas.Flights
import Civitas.Transition

/-!
# The suspend marker in the state store

The life of one name: the incarnations of the agent that bears it, the marker
in the state of each of them, and the marker that the state store keeps for the
name.

`_run` begins an incarnation with an empty state and restores the stored one
before `on_start`.  `_enter_suspended` puts the marker into memory, calls
`on_suspend` and then `checkpoint`; a loop that begins with the marker is
`SUSPENDED` without them.  `resume` takes the marker out of memory and calls
`checkpoint`.  A removal for good calls `_clear_suspend_marker` on the recorded
incarnation on some paths; the call looks for the marker in the memory of that
incarnation, and writes to the store only when it is there.

The store is reliable: a checkpoint stores the marker as it was when
`checkpoint` was called, but some time after, and perhaps after a later one.
-/

namespace Civitas.Lifecycle.Marker

open Civitas.Flights (Cell)
open Civitas.Transition

/-! ## State -/

/-- Where the incarnation that is recorded for the name stands. -/
inductive Life where
  /-- None is recorded. -/
  | absent
  /-- Before `_restore_state` has returned. -/
  | restoring
  /-- Inside `on_start`. -/
  | starting
  | looping
  /-- The task has ended; whether it had come to the loop. -/
  | ended (reached : Bool)
  /-- The name is being removed for good. -/
  | removing
deriving DecidableEq

/-- Who calls `checkpoint`. -/
inductive Writer where
  /-- The loop, a call of `resume`, or the code of the agent. -/
  | agent
  /-- `_clear_suspend_marker`. -/
  | remover
deriving DecidableEq

/-- A name, its incarnation and what is stored under it. -/
structure State where
  life : Life := .absent
  /-- The status is `SUSPENDED`. -/
  suspended : Bool := false
  /-- The state of the recorded incarnation holds the marker. -/
  marker : Bool := false
  /-- Whether the store holds the marker, and the checkpoints under way. -/
  store : Cell Writer Bool := { value := false }
  /-- Inside `on_suspend`; `_enter_suspended` has not called `checkpoint`. -/
  entering : Bool := false
  /-- The loop began `SUSPENDED` and has not been resumed since. -/
  restored : Bool := false
  /-- The name was suspended, and since then neither resumed nor removed. -/
  asleep : Bool := false
  /-- For each start of the loop, `asleep` and whether it starts `SUSPENDED`. -/
  starts : List (Bool × Bool) := []
  /-- For each call of `on_suspend`, whether the suspension was restored. -/
  hooks : List Bool := []

/-- Nothing has had the name. -/
def init : State := {}

/-- Every checkpoint has been called and stored. -/
def State.quiescent (s : State) : Bool :=
  !s.entering && s.store.flights.isEmpty

/-! ## Removals -/

/-- The ways in which a name is removed for good. -/
inductive Removal where
  /-- `_handle_despawn`. -/
  | despawn
  /-- `_handle_stop`. -/
  | softStop
  /-- The exit of a child with `RestartMode.NEVER`. -/
  | never
  /-- The clean exit of a child with `RestartMode.TRANSIENT`. -/
  | transient
  /-- The restarts of a dynamic child are exhausted. -/
  | exhausted
  /-- A dynamic child has failed before it came to its loop. -/
  | startFailure
  /-- The fresh incarnation of a dynamic child cannot be wired. -/
  | unwired
  /-- `_escalate` of a supervisor without a parent. -/
  | topLevel
deriving DecidableEq

/-- The path calls `_clear_suspend_marker`. -/
def Removal.clears : Removal → Bool
  | .softStop | .startFailure => false
  | _ => true

/-- Where the recorded incarnation stands when the path is taken. -/
def Removal.applies : Removal → Life → Bool
  | .despawn, life | .softStop, life =>
      decide (life ≠ .absent ∧ life ≠ .removing)
  | .startFailure, life => decide (life = .ended false)
  | _, life => decide (life = .ended true)

/-- `checkpoint` is called. -/
def State.checkpoint (s : State) (writer : Writer) : State :=
  { s with store := s.store.issue writer s.marker }

/-- `_clear_suspend_marker`, up to the store. -/
def State.clearSuspendMarker (s : State) : State :=
  if s.marker then { s with marker := false }.checkpoint .remover else s

/-- The recorded incarnation comes to its end. -/
def State.retire (s : State) (life : Life) : State :=
  { s with
    life := life
    suspended := false
    entering := false
    restored := false }

/-- The incarnation is removed; some removals clear the marker. -/
def State.remove (s : State) (removal : Removal) : State :=
  let cleared := if removal.clears then s.clearSuspendMarker else s
  { cleared.retire .removing with asleep := false }

/-! ## Steps -/

/-- What happens to a name. -/
inductive Label where
  /-- An agent is given the name. -/
  | create
  /-- `_restore_state` returns. -/
  | restore
  /-- The start fails, or is cancelled. -/
  | fail
  /-- `_message_loop` begins. -/
  | start
  /-- `_enter_suspended`, up to the call of `on_suspend`. -/
  | enter
  /-- `on_suspend` returns. -/
  | enterSaves
  /-- `resume` with an approver. -/
  | resume
  /-- The store has stored a checkpoint. -/
  | lands (position : Nat)
  /-- The code of the agent changes `state`; whether the marker is in it. -/
  | overwrite (marker : Bool)
  /-- The code of the agent, or a repeated suspension, calls `checkpoint`. -/
  | checkpoint
  /-- A crash, a shutdown or a clean exit. -/
  | finish
  /-- A fresh incarnation of the agent. -/
  | restart
  /-- The process ends. -/
  | vanish
  | remove (removal : Removal)
  /-- The name is no longer recorded. -/
  | removed
deriving DecidableEq

/-- The code of the agent runs. -/
def Life.active : Life → Bool
  | .starting | .looping => true
  | _ => false

/-- One step of a name. -/
def step (s : State) : Label → Option State
  | .create =>
      if s.life = .absent
      then some { s with life := .restoring, marker := false }
      else none
  | .restore =>
      if s.life = .restoring
      then some { s with life := .starting, marker := s.store.value }
      else none
  | .fail =>
      if s.life = .restoring ∨ s.life = .starting
      then some (s.retire (.ended false))
      else none
  | .start =>
      if s.life = .starting then
        some
          { s with
            life := .looping
            suspended := s.marker
            restored := s.marker
            starts := s.starts ++ [(s.asleep, s.marker)] }
      else none
  | .enter =>
      if s.life = .looping ∧ s.suspended = false ∧ s.entering = false then
        some
          { s with
            suspended := true
            marker := true
            entering := true
            asleep := true
            hooks := s.hooks ++ [s.restored] }
      else none
  | .enterSaves =>
      if s.entering
      then some { s.checkpoint .agent with entering := false }
      else none
  | .resume =>
      if s.life = .absent then none
      else if s.suspended then
        let resumed :=
          { s with
            suspended := false
            marker := false
            restored := false
            asleep := false }
        some (resumed.checkpoint .agent)
      else some { s with asleep := false }
  | .lands position =>
      (s.store.land position true).map fun store => { s with store := store }
  | .overwrite marker =>
      if s.life.active then some { s with marker := marker } else none
  | .checkpoint =>
      if s.life.active then some (s.checkpoint .agent) else none
  | .finish =>
      if s.life = .looping then some (s.retire (.ended true)) else none
  | .restart =>
      match s.life with
      | .ended _ => some { s with life := .restoring, marker := false }
      | _ => none
  | .vanish =>
      some
        { s.retire .absent with
          store := { value := s.store.value } }
  | .remove removal =>
      if removal.applies s.life then some (s.remove removal) else none
  | .removed =>
      if s.life = .removing ∧ s.store.waits .remover = false
      then some { s with life := .absent }
      else none

/-! ## The condition -/

/--
A checkpoint is not stored before an earlier one with another marker; an
incarnation does not end before its checkpoints are stored; `resume` is not
called for a suspended name between two loops; the code of the agent leaves the
marker alone; and a name with a stored marker is removed on a path that clears
it, while the marker is in the memory of the recorded incarnation.
-/
def keeps (s : State) : Label → Bool
  | .lands position => s.store.inOrder position
  | .finish | .fail | .vanish => s.quiescent
  | .resume => !s.asleep || decide (s.life = .looping)
  | .overwrite marker => decide (marker = s.marker)
  | .remove removal =>
      s.store.flights.isEmpty &&
        (!s.store.value || removal.clears && s.marker)
  | _ => true

/-- The marker tells whether the name is suspended. -/
structure Faithful (s : State) : Prop where
  /-- The store holds the marker exactly while the name is suspended. -/
  stored : s.quiescent = true → s.store.value = s.asleep
  /-- A loop starts `SUSPENDED` exactly when the name is suspended. -/
  starts : ∀ start ∈ s.starts, start.2 = start.1
  /-- A loop is `SUSPENDED` exactly while the name is suspended. -/
  status : s.life = .looping → s.suspended = s.asleep
  /-- `on_suspend` is not called for a suspension that was restored. -/
  unfired : ∀ restored ∈ s.hooks, restored = false

/-! ## The invariant -/

/-- What holds in every run that meets the condition. -/
structure Sound (s : State) : Prop where
  starts : ∀ start ∈ s.starts, start.2 = start.1
  unfired : ∀ restored ∈ s.hooks, restored = false
  idle : s.life ≠ .looping →
    s.suspended = false ∧ s.entering = false ∧ s.restored = false
  /-- Only running code and a removal have checkpoints under way. -/
  drained : s.life.active = false →
    ∀ flight ∈ s.store.flights, s.life = .removing ∧ flight.1 = .remover
  memory : s.life.active = true → s.marker = s.asleep
  status : s.life = .looping → s.suspended = s.asleep
  restored : s.restored = true → s.suspended = true
  settled : s.entering = false → s.store.settled = s.asleep

section Sound

variable {s after : State} {label : Label}

theorem sound_init : Sound init := by
  constructor <;> simp [init, Life.active, Cell.settled]

theorem quiescent_iff :
    s.quiescent = true ↔ s.entering = false ∧ s.store.flights = [] := by
  simp [State.quiescent]

/-- An incarnation that does not run has nothing under way. -/
theorem Sound.flights_nil
    (sound : Sound s) (resting : s.life.active = false)
    (kept : s.life ≠ .removing) : s.store.flights = [] := by
  cases flights : s.store.flights with
  | nil => rfl
  | cons flight rest =>
      have removing :=
        sound.drained resting flight (by rw [flights]; exact List.mem_cons_self)
      exact absurd removing.1 kept

theorem Sound.faithful (sound : Sound s) : Faithful s where
  stored := by
    intro quiescent
    rcases quiescent_iff.mp quiescent with ⟨entered, drained⟩
    rw [← Cell.settled_of_flights_nil drained]
    exact sound.settled entered
  starts := sound.starts
  status := sound.status
  unfired := sound.unfired

/-! ### Incarnations -/

/-- The next incarnation is about to read the store. -/
theorem Sound.begin
    (sound : Sound s) (resting : s.life.active = false)
    (kept : s.life ≠ .removing) :
    Sound { s with life := .restoring, marker := false } := by
  have idle :=
    sound.idle (by
      rintro looping
      rw [looping] at resting
      cases resting)
  have drained := sound.flights_nil resting kept
  refine ⟨sound.starts, sound.unfired, fun _ => idle, ?_, by rintro ⟨⟩,
    by rintro ⟨⟩, sound.restored, sound.settled⟩
  intro _ flight within
  rw [drained] at within
  cases within

/-- An incarnation has read what the store holds. -/
theorem Sound.restore
    (sound : Sound s) (restoring : s.life = .restoring) :
    Sound { s with life := .starting, marker := s.store.value } := by
  have idle := sound.idle (by rw [restoring]; simp)
  have drained :=
    sound.flights_nil (by rw [restoring]; rfl) (by rw [restoring]; simp)
  have stored : s.store.value = s.asleep := by
    rw [← Cell.settled_of_flights_nil drained]
    exact sound.settled idle.2.1
  exact ⟨sound.starts, sound.unfired, fun _ => idle, by rintro ⟨⟩,
    fun _ => stored, by rintro ⟨⟩, sound.restored, sound.settled⟩

/-- A loop begins as the restored marker says, and calls no hook. -/
theorem Sound.start
    (sound : Sound s) (starting : s.life = .starting) :
    Sound
      { s with
        life := .looping
        suspended := s.marker
        restored := s.marker
        starts := s.starts ++ [(s.asleep, s.marker)] } := by
  have memory : s.marker = s.asleep :=
    sound.memory (by rw [starting]; rfl)
  refine ⟨?_, sound.unfired, fun off => absurd rfl off, by rintro ⟨⟩,
    fun _ => memory, fun _ => memory, id, sound.settled⟩
  intro start within
  rcases List.mem_append.mp within with old | new
  · exact sound.starts start old
  · cases List.mem_singleton.mp new
    exact memory

/-- An incarnation comes to its end with nothing left to store. -/
theorem Sound.retire
    (sound : Sound s) {life : Life} (quiescent : s.quiescent = true)
    (resting : life.active = false) :
    Sound (s.retire life) := by
  rcases quiescent_iff.mp quiescent with ⟨entered, drained⟩
  have off : life ≠ .looping := by
    rintro rfl
    cases resting
  refine ⟨sound.starts, sound.unfired, fun _ => ⟨rfl, rfl, rfl⟩, ?_, ?_,
    fun looping => absurd looping off, by rintro ⟨⟩,
    fun _ => sound.settled entered⟩
  · intro _ flight within
    have none : flight ∈ ([] : List (Writer × Bool)) := by
      rw [← drained]
      exact within
    cases none
  · intro active
    cases resting.symm.trans active

/-- The process ends, and with it what it has under way. -/
theorem Sound.vanish
    (sound : Sound s) (quiescent : s.quiescent = true) :
    Sound { s.retire .absent with store := { value := s.store.value } } := by
  have retired : Sound (s.retire .absent) := sound.retire quiescent rfl
  have drained := (quiescent_iff.mp quiescent).2
  refine ⟨retired.starts, retired.unfired, retired.idle, by rintro _ _ ⟨⟩,
    by rintro ⟨⟩, by rintro ⟨⟩, by rintro ⟨⟩, ?_⟩
  intro entered
  have settled := retired.settled entered
  rw [State.retire, Cell.settled_of_flights_nil drained] at settled
  exact settled

/-! ### Suspensions -/

/-- The loop enters a suspension, which it has not restored. -/
theorem Sound.enter
    (sound : Sound s) (looping : s.life = .looping)
    (awake : s.suspended = false) :
    Sound
      { s with
        suspended := true
        marker := true
        entering := true
        asleep := true
        hooks := s.hooks ++ [s.restored] } := by
  have fresh : s.restored = false := by
    cases restored : s.restored with
    | false => rfl
    | true => cases awake.symm.trans (sound.restored restored)
  refine ⟨sound.starts, ?_, fun off => absurd looping off, ?_, fun _ => rfl,
    fun _ => rfl, fun _ => rfl, by rintro ⟨⟩⟩
  · intro restored within
    rcases List.mem_append.mp within with old | new
    · exact sound.unfired restored old
    · rw [List.mem_singleton.mp new]
      exact fresh
  · intro resting
    have active : s.life.active = true := by
      rw [looping]
      rfl
    cases resting.symm.trans active

/-- The memory of a running incarnation is handed to the store. -/
theorem Sound.checkpoint
    (sound : Sound s) (active : s.life.active = true) (entering : Bool)
    (entered : entering = true → s.life = .looping) :
    Sound { s.checkpoint .agent with entering := entering } := by
  refine ⟨sound.starts, sound.unfired, ?_, ?_, sound.memory, sound.status,
    sound.restored, ?_⟩
  · intro off
    have idle := sound.idle off
    refine ⟨idle.1, ?_, idle.2.2⟩
    cases entering with
    | false => rfl
    | true => exact absurd (entered rfl) off
  · intro resting
    cases resting.symm.trans active
  · intro _
    exact (s.store.settled_issue _ _).trans (sound.memory active)

/-- A suspended name is resumed. -/
theorem Sound.resume
    (sound : Sound s) (suspended : s.suspended = true) :
    Sound
      (State.checkpoint
        { s with
          suspended := false
          marker := false
          restored := false
          asleep := false }
        .agent) := by
  have looping : s.life = .looping := by
    by_contra off
    cases suspended.symm.trans (sound.idle off).1
  have active : s.life.active = true := by
    rw [looping]
    rfl
  refine ⟨sound.starts, sound.unfired, fun off => absurd looping off, ?_,
    fun _ => rfl, fun _ => rfl, by rintro ⟨⟩,
    fun _ => s.store.settled_issue _ _⟩
  intro resting
  cases resting.symm.trans active

/-- A name that is not suspended is resumed once more. -/
theorem Sound.stay
    (sound : Sound s) (awake : ¬ s.suspended = true)
    (kept : keeps s .resume = true) :
    Sound { s with asleep := false } := by
  have rested : s.asleep = false := by
    cases asleep : s.asleep with
    | false => rfl
    | true =>
        have looping : s.life = .looping := by
          simpa [keeps, asleep] using kept
        exact absurd ((sound.status looping).trans asleep) awake
  refine ⟨sound.starts, sound.unfired, sound.idle, sound.drained, ?_, ?_,
    sound.restored, ?_⟩
  · intro active
    exact (sound.memory active).trans rested
  · intro looping
    exact (sound.status looping).trans rested
  · intro entered
    exact (sound.settled entered).trans rested

/-! ### Checkpoints and removals -/

theorem Sound.lands
    (sound : Sound s) {position : Nat} {store : Cell Writer Bool}
    (ordered : s.store.inOrder position = true)
    (landed : s.store.land position true = some store) :
    Sound { s with store := store } := by
  refine ⟨sound.starts, sound.unfired, sound.idle, ?_, sound.memory,
    sound.status, sound.restored, ?_⟩
  · intro resting flight within
    exact
      sound.drained resting flight (Cell.flights_land_subset landed within)
  · intro entered
    exact (Cell.settled_land ordered landed).trans (sound.settled entered)

/-- What a removal leaves to be stored is that there is no marker. -/
theorem remove_store
    {removal : Removal} (kept : keeps s (.remove removal) = true) :
    (s.remove removal).store.settled = false ∧
      ∀ flight ∈ (s.remove removal).store.flights,
        flight.1 = Writer.remover := by
  simp only [keeps, Bool.and_eq_true, List.isEmpty_iff] at kept
  rcases kept with ⟨drained, gone⟩
  have plain :
      s.store.value = false →
        s.store.settled = false ∧
          ∀ flight ∈ s.store.flights, flight.1 = Writer.remover := by
    intro unmarked
    refine ⟨(Cell.settled_of_flights_nil drained).trans unmarked, ?_⟩
    rw [drained]
    rintro _ ⟨⟩
  unfold State.remove State.clearSuspendMarker State.retire
  cases clears : removal.clears with
  | false => exact plain (by simpa [clears] using gone)
  | true =>
      cases marker : s.marker with
      | false => exact plain (by simpa [clears, marker] using gone)
      | true =>
          refine ⟨s.store.settled_issue _ _, ?_⟩
          intro flight within
          have only : flight ∈ s.store.flights ++ [(Writer.remover, false)] :=
            within
          rw [drained] at only
          rw [List.mem_singleton.mp only]

/-- A removal leaves no marker behind. -/
theorem Sound.remove
    (sound : Sound s) {removal : Removal}
    (kept : keeps s (.remove removal) = true) :
    Sound (s.remove removal) := by
  have same :
      (s.remove removal).starts = s.starts ∧
        (s.remove removal).hooks = s.hooks := by
    unfold State.remove State.clearSuspendMarker State.retire
    cases removal.clears <;> cases s.marker <;> exact ⟨rfl, rfl⟩
  have store := remove_store kept
  refine ⟨?_, ?_, fun _ => ⟨rfl, rfl, rfl⟩, ?_, by rintro ⟨⟩, by rintro ⟨⟩,
    by rintro ⟨⟩, fun _ => store.1⟩
  · rw [same.1]
    exact sound.starts
  · rw [same.2]
    exact sound.unfired
  · intro _ flight within
    exact ⟨rfl, store.2 flight within⟩

/-- A name is given up when its removal has been stored. -/
theorem Sound.removed
    (sound : Sound s) (removing : s.life = .removing)
    (stored : s.store.waits .remover = false) :
    Sound { s with life := .absent } := by
  have resting : s.life.active = false := by
    rw [removing]
    rfl
  refine ⟨sound.starts, sound.unfired,
    fun _ => sound.idle (by rw [removing]; simp), ?_, by rintro ⟨⟩,
    by rintro ⟨⟩, sound.restored, sound.settled⟩
  intro _ flight within
  have own := (sound.drained resting flight within).2
  have waits : s.store.waits .remover = true :=
    List.any_eq_true.mpr ⟨flight, within, decide_eq_true own⟩
  cases stored.symm.trans waits

theorem Sound.step
    (sound : Sound s) (kept : keeps s label = true)
    (stepped : step s label = some after) :
    Sound after := by
  cases label with
  | create =>
      simp only [Marker.step] at stepped
      split at stepped
      · rename_i absent
        cases stepped
        exact sound.begin (by rw [absent]; rfl) (by rw [absent]; simp)
      · cases stepped
  | restore =>
      simp only [Marker.step] at stepped
      split at stepped
      · rename_i restoring
        cases stepped
        exact sound.restore restoring
      · cases stepped
  | fail =>
      simp only [Marker.step] at stepped
      split at stepped
      · cases stepped
        exact sound.retire kept rfl
      · cases stepped
  | start =>
      simp only [Marker.step] at stepped
      split at stepped
      · rename_i starting
        cases stepped
        exact sound.start starting
      · cases stepped
  | enter =>
      simp only [Marker.step] at stepped
      split at stepped
      · rename_i enters
        cases stepped
        exact sound.enter enters.1 enters.2.1
      · cases stepped
  | enterSaves =>
      simp only [Marker.step] at stepped
      split at stepped
      · rename_i entering
        cases stepped
        have looping : s.life = .looping := by
          by_contra off
          cases entering.symm.trans (sound.idle off).2.1
        exact sound.checkpoint (by rw [looping]; rfl) false (by rintro ⟨⟩)
      · cases stepped
  | resume =>
      simp only [Marker.step] at stepped
      split at stepped
      · cases stepped
      · split at stepped
        · rename_i suspended
          cases stepped
          exact sound.resume suspended
        · rename_i awake
          cases stepped
          exact sound.stay awake kept
  | lands position =>
      rcases Option.map_eq_some_iff.mp stepped with ⟨store, landed, rfl⟩
      exact sound.lands kept landed
  | overwrite marker =>
      simp only [Marker.step] at stepped
      split at stepped
      · cases stepped
        have same : marker = s.marker := of_decide_eq_true kept
        exact ⟨sound.starts, sound.unfired, sound.idle, sound.drained,
          fun active => same.trans (sound.memory active), sound.status,
          sound.restored, sound.settled⟩
      · cases stepped
  | checkpoint =>
      simp only [Marker.step] at stepped
      split at stepped
      · rename_i active
        cases stepped
        refine sound.checkpoint active s.entering ?_
        intro entering
        by_contra off
        cases entering.symm.trans (sound.idle off).2.1
      · cases stepped
  | finish =>
      simp only [Marker.step] at stepped
      split at stepped
      · cases stepped
        exact sound.retire kept rfl
      · cases stepped
  | restart =>
      simp only [Marker.step] at stepped
      split at stepped
      · rename_i reached ended
        cases stepped
        exact sound.begin (by rw [ended]; rfl) (by rw [ended]; simp)
      · cases stepped
  | vanish =>
      cases stepped
      exact sound.vanish kept
  | remove removal =>
      simp only [Marker.step] at stepped
      split at stepped
      · cases stepped
        exact sound.remove kept
      · cases stepped
  | removed =>
      simp only [Marker.step] at stepped
      split at stepped
      · rename_i done
        cases stepped
        exact sound.removed done.1 done.2
      · cases stepped

/-- In every run that meets the condition, the marker is faithful. -/
theorem marker_faithful_in_every_run
    (reached :
      Reaches Marker.step (fun s label => keeps s label = true) init s) :
    Faithful s := by
  have sound : Sound s := by
    refine reached.invariant sound_init ?_
    intro before label after holds kept stepped
    exact holds.step kept stepped
  exact sound.faithful

end Sound

/--
A suspended agent crashes, is restarted into its suspension, and is despawned;
the name is then given to another agent.
-/
def reuse : List Label :=
  [.create, .restore, .start, .enter, .enterSaves, .lands 0, .finish,
    .restart, .restore, .start, .remove .despawn, .lands 0, .removed, .create,
    .restore, .start]

theorem reuse_faithful :
    ∃ s,
      Reaches step (fun s label => keeps s label = true) init s ∧
        Faithful s ∧
        s.starts = [(false, false), (true, true), (false, false)] ∧
        s.hooks = [false] := by
  have ran :
      ((runWhere step (fun s label => keeps s label = true) init reuse).map
        fun s =>
          decide
            (s.starts = [(false, false), (true, true), (false, false)] ∧
              s.hooks = [false])) =
        some true := by
    decide +kernel
  rcases exists_reaches_of_run ran with ⟨s, run, seen⟩
  exact ⟨s, run, marker_faithful_in_every_run run, of_decide_eq_true seen⟩

/-- The soft stop of a suspended child leaves its marker in the store. -/
theorem soft_stop_leaves_marker :
    ¬ ∀ s, Reaches step (fun _ _ => True) init s → Faithful s := by
  intro faithful
  have ran :
      ((runWhere step (fun _ _ => True) init
          [.create, .restore, .start, .enter, .enterSaves, .lands 0,
            .remove .softStop, .removed]).map fun s =>
        decide
          (s.quiescent = true ∧ s.store.value = true ∧ s.asleep = false)) =
        some true := by
    decide +kernel
  rcases exists_reaches_of_run ran with ⟨s, run, seen⟩
  rcases of_decide_eq_true seen with ⟨quiescent, stored, awake⟩
  have same := (faithful s run).stored quiescent
  rw [stored, awake] at same
  cases same

end Civitas.Lifecycle.Marker
