import Civitas.Transition
import Mathlib.Data.List.Nodup
import Mathlib.Data.List.Range
import Mathlib.Data.List.ReduceOption
import Mathlib.Data.Rat.Defs

/-!
# The audit log

`JsonlFileSink` of `audit/sinks.py`.  `emit` queues a line and starts the
drain loop when none is alive; the drain loop collects lines into a batch of
its own and writes the batch; `flush` writes what is queued; `close` queues a
sentinel, waits for the drain loop, flushes and closes the file.  All of them
run in one event loop: what stands between two awaits that suspend is not
interrupted.  Putting into the queue never suspends, as the queue has no
bound, and the drain loop gives up control only when the queue is empty.

A line is the number of its event in the order of the calls of `emit`, and the
file is what was written, through all reopenings of the path.
-/

namespace Civitas.Audit

open Civitas.Transition

/-! ## The queue -/

/-- The lines that stand before the first sentinel. -/
def ahead : List (Option Nat) → List Nat
  | some line :: rest => line :: ahead rest
  | none :: _ => []
  | [] => []

/-- What stands behind the first sentinel. -/
def behind : List (Option Nat) → List (Option Nat)
  | some _ :: rest => behind rest
  | none :: rest => rest
  | [] => []

theorem reduceOption_eq_ahead (queue : List (Option Nat)) :
    queue.reduceOption = ahead queue ++ (behind queue).reduceOption := by
  induction queue with
  | nil => rfl
  | cons item rest ih =>
      cases item with
      | none => rfl
      | some line => simp [ahead, behind, ih]

theorem behind_of_no_sentinel
    {queue : List (Option Nat)} (noSentinel : none ∉ queue) :
    behind queue = [] := by
  induction queue with
  | nil => rfl
  | cons item rest ih =>
      cases item with
      | none => exact absurd (List.mem_cons_self ..) noSentinel
      | some line =>
          exact ih fun within => noSentinel (List.mem_cons_of_mem _ within)

theorem ahead_append
    {queue : List (Option Nat)} (item : Option Nat) (sentinel : none ∈ queue) :
    ahead (queue ++ [item]) = ahead queue ∧
      behind (queue ++ [item]) = behind queue ++ [item] := by
  induction queue with
  | nil => cases sentinel
  | cons first rest ih =>
      cases first with
      | none => exact ⟨rfl, rfl⟩
      | some line =>
          have later : none ∈ rest := by simpa using sentinel
          exact ⟨congrArg (line :: ·) (ih later).1, (ih later).2⟩

theorem ahead_append_sentinel
    {queue : List (Option Nat)} (noSentinel : none ∉ queue) :
    ahead (queue ++ [none]) = queue.reduceOption ∧
      behind (queue ++ [none]) = [] := by
  induction queue with
  | nil => exact ⟨rfl, rfl⟩
  | cons first rest ih =>
      cases first with
      | none => exact absurd (List.mem_cons_self ..) noSentinel
      | some line =>
          have later : none ∉ rest :=
            fun within => noSentinel (List.mem_cons_of_mem _ within)
          exact ⟨congrArg (line :: ·) (ih later).1, (ih later).2⟩

/-! ## State -/

/-- The arguments of the constructor that the drain loop reads. -/
structure Settings where
  batchSize : Int := 100
  flushInterval : Rat := 1 / 10

/-- `_task`; a drain loop that is collecting has the control. -/
inductive DrainLoop where
  | absent
  | created
  | collecting (batch : List Nat)
  | waiting (batch : List Nat)
  | finished
deriving DecidableEq

/-- `close`; it is woken when the drain loop that it waits for has ended. -/
inductive Closing where
  | uncalled
  | waiting
  | woken
  | returned
deriving DecidableEq

/-- `JsonlFileSink`, with what it has been given and has written. -/
structure Sink where
  queue : List (Option Nat) := []
  drain : DrainLoop := .absent
  rotateFlag : Bool := false
  /-- The handler of `SIGHUP` is set. -/
  watching : Bool := false
  isOpen : Bool := true
  file : List Nat := []
  closing : Closing := .uncalled
  /-- How often `emit` has returned. -/
  emitted : Nat := 0
  /-- How often `emit` had returned when `close` was called. -/
  mark : Nat := 0
  /-- How many events are in the file, as a `flush` or `close` has returned. -/
  promised : Nat := 0

/-- The drain loop's private batch. -/
def Sink.held (s : Sink) : List Nat :=
  match s.drain with
  | .collecting batch => batch
  | .waiting batch => batch
  | _ => []

/-- The drain loop is between two awaits. -/
def Sink.busy (s : Sink) : Bool :=
  match s.drain with
  | .collecting _ => true
  | _ => false

/-! ## Steps -/

/-- `_write_batch` on an open file. -/
def Sink.writeBatch (s : Sink) (lines : List Nat) : Sink :=
  { s with file := if s.isOpen then s.file ++ lines else s.file }

/-- The drain loop ends. -/
def Sink.finish (s : Sink) : Sink :=
  { s with
    drain := .finished
    closing := if s.closing = .waiting then .woken else s.closing }

/-- The drain loop gets the first item of the queue, or waits for one. -/
def Sink.take (s : Sink) (batch : List Nat) : Sink :=
  match s.queue with
  | [] => { s with drain := .waiting batch }
  | none :: rest => Sink.finish (Sink.writeBatch { s with queue := rest } batch)
  | some line :: rest =>
      { s with queue := rest, drain := .collecting (batch ++ [line]) }

/-- `_rotate`, when the flag is set. -/
def Sink.rotate (s : Sink) : Sink :=
  if s.rotateFlag then { s with isOpen := true, rotateFlag := false } else s

/--
The end of one round of the drain loop.  To write to a closed file raises, and
the drain loop ends.
-/
def Sink.wrapUp (s : Sink) (batch : List Nat) : Sink :=
  if batch ≠ [] ∧ s.isOpen = false then s.finish
  else { (s.writeBatch batch).rotate with drain := .collecting [] }

/-- The loop of `flush`: up to the sentinel, which is queued again. -/
def Sink.drainQueue (s : Sink) : Sink :=
  { s.writeBatch (ahead s.queue) with
    queue := if none ∈ s.queue then behind s.queue ++ [none] else [] }

/-- `flush`: what is in the queue is written and synchronised. -/
def Sink.flush (s : Sink) : Sink :=
  { s.drainQueue with promised := max s.promised s.emitted }

/-- What `close` does after the drain loop. -/
def Sink.release (s : Sink) : Sink :=
  { s.drainQueue with
    isOpen := false
    closing := .returned
    promised := max s.promised s.mark }

/-- `emit`: the event is queued, and the drain loop is started if none runs. -/
def Sink.emit (s : Sink) : Sink :=
  { s with
    queue := s.queue ++ [some s.emitted]
    emitted := s.emitted + 1
    drain :=
      if s.drain = .absent ∨ s.drain = .finished then .created else s.drain }

/-- `close`, up to the point where it waits. -/
def Sink.close (s : Sink) : Sink :=
  let called : Sink :=
    { s with
      queue := s.queue ++ [none]
      mark := s.emitted
      closing := .waiting }
  if s.drain = .absent ∨ s.drain = .finished then called.release else called

/-- What happens to a sink. -/
inductive Label where
  | emit
  | flush
  | sighup
  | close
  /-- `close` goes on after the drain loop has ended. -/
  | closeResumes
  /-- Five seconds are over: the drain loop is cancelled. -/
  | closeTimesOut
  | drainStarts
  /-- The head of the inner loop; the flag says that the interval is over. -/
  | drainChecks (elapsed : Bool)
  /-- The drain loop is woken by an item. -/
  | drainWakes
  /-- The interval is over while the drain loop waits. -/
  | drainTimesOut
deriving DecidableEq

/--
The successor of a state; `none` when the step is not enabled.  After the
final `close` neither `emit` nor `flush` is called.
-/
def step (settings : Settings) (s : Sink) : Label → Option Sink
  | .emit =>
      if s.busy ∨ s.closing = .returned then none else some s.emit
  | .flush =>
      if s.busy ∨ s.closing = .returned then none else some s.flush
  | .sighup =>
      if s.busy ∨ s.watching = false then none
      else some { s with rotateFlag := true }
  | .close =>
      if s.busy ∨ s.closing ≠ .uncalled then none else some s.close
  | .closeResumes =>
      if s.busy ∨ s.closing ≠ .woken then none else some s.release
  | .closeTimesOut =>
      if s.busy ∨ s.closing ≠ .waiting then none
      else some { s with drain := .finished }.release
  | .drainStarts =>
      match s.drain with
      | .created => some { s with drain := .collecting [], watching := true }
      | _ => none
  | .drainChecks elapsed =>
      match s.drain with
      | .collecting batch =>
          if (batch.length : Int) < settings.batchSize ∧ elapsed = false ∧
              0 < settings.flushInterval
          then some (s.take batch)
          else some (s.wrapUp batch)
      | _ => none
  | .drainWakes =>
      match s.drain with
      | .waiting batch =>
          if s.queue = [] then none else some (s.take batch)
      | _ => none
  | .drainTimesOut =>
      match s.drain with
      | .waiting batch => some (s.wrapUp batch)
      | _ => none

/-! ## What is expected -/

/-- The events whose `emit` returned before `close` was called. -/
def Sink.covered (s : Sink) : Nat :=
  if s.closing = .uncalled then s.emitted else s.mark

/--
A `flush` finds the drain loop without lines of its own and no line behind the
sentinel, and `close` does not lose patience with a drain loop that holds
lines.
-/
def Orderly (s : Sink) : Label → Prop
  | .flush => s.held = [] ∧ (behind s.queue).reduceOption = []
  | .closeTimesOut => s.held = []
  | _ => True

instance (s : Sink) (label : Label) : Decidable (Orderly s label) := by
  cases label <;> unfold Orderly <;> infer_instance

/-- What a sink owes to those who emitted its events. -/
structure Faithful (settings : Settings) (s : Sink) : Prop where
  /-- Lines are in the order of their events, and none is repeated. -/
  ordered : s.file.Pairwise (· < ·)
  durable : ∀ line < s.promised, line ∈ s.file
  /-- What was emitted in time can still be written, and then is there once. -/
  completes : ∃ after, Reaches (step settings) Orderly s after ∧
    ∀ line < s.covered, after.file.count line = 1

/-! ## The invariant -/

/-- Where the sentinel is, and what stands before it. -/
def Sentinel (s : Sink) : Prop :=
  match s.closing with
  | .uncalled => none ∉ s.queue ∧ s.drain ≠ .finished
  | .waiting =>
      none ∈ s.queue ∧ none ∉ behind s.queue ∧
        s.drain ≠ .absent ∧ s.drain ≠ .finished ∧
        s.mark ≤ s.file.length + s.held.length + (ahead s.queue).length
  | .woken => none ∉ s.queue ∧ s.mark ≤ s.file.length
  | .returned => False

/-- Until `close` returns. -/
structure Running (s : Sink) : Prop where
  total : s.file ++ s.held ++ s.queue.reduceOption = List.range s.emitted
  isOpen : s.isOpen = true
  absent : s.drain = .absent → s.emitted = 0
  promised : s.promised ≤ s.file.length
  mark : s.mark ≤ s.emitted
  sentinel : Sentinel s

/-- After `close` has returned. -/
structure Closed (s : Sink) : Prop where
  returned : s.closing = .returned
  ordered : s.file.Pairwise (· < ·)
  durable : ∀ line < s.promised, line ∈ s.file
  mark : s.mark ≤ s.promised
  quiet :
    s.drain = .absent ∨ s.drain = .finished ∨
      s.queue = [] ∧ (s.held ≠ [] → s.isOpen = false ∧ s.busy = false)

/-- The invariant of a sink. -/
def Kept (s : Sink) : Prop := Running s ∨ Closed s

theorem kept_fresh : Kept {} := by
  refine .inl ⟨rfl, rfl, fun _ => rfl, Nat.le_refl 0, Nat.le_refl 0, ?_⟩
  exact ⟨by simp, by simp⟩

section Steps

variable {s after : Sink}

theorem Running.file_eq (running : Running s) :
    s.file = List.range s.file.length := by
  have total := congrArg (List.take s.file.length) running.total
  rw [List.append_assoc, List.take_left, List.take_range] at total
  have lengths := congrArg List.length running.total
  simp only [List.length_append, List.length_range] at lengths
  rwa [Nat.min_eq_left (by omega)] at total

theorem Running.mem_file
    (running : Running s) {line : Nat} (below : line < s.file.length) :
    line ∈ s.file := by
  rw [running.file_eq]
  simpa using below

/-- A drain loop that is alive keeps the place of the sentinel. -/
theorem Sentinel.advance
    (sentinel : Sentinel s) (closing : after.closing = s.closing)
    (mark : after.mark = s.mark)
    (present : after.drain ≠ .absent) (alive : after.drain ≠ .finished)
    (same : none ∈ after.queue ↔ none ∈ s.queue)
    (rest : behind after.queue = behind s.queue)
    (written : s.file.length ≤ after.file.length)
    (sum : s.file.length + s.held.length + (ahead s.queue).length ≤
      after.file.length + after.held.length + (ahead after.queue).length) :
    Sentinel after := by
  unfold Sentinel at sentinel ⊢
  rw [closing]
  cases stage : s.closing with
  | uncalled =>
      rw [stage] at sentinel
      exact ⟨fun within => sentinel.1 (same.mp within), alive⟩
  | waiting =>
      rw [stage] at sentinel
      rcases sentinel with ⟨within, single, _, _, bound⟩
      refine ⟨same.mpr within, rest ▸ single, present, alive, ?_⟩
      rw [mark]
      exact bound.trans sum
  | woken =>
      rw [stage] at sentinel
      refine ⟨fun within => sentinel.1 (same.mp within), ?_⟩
      rw [mark]
      exact sentinel.2.trans written
  | returned =>
      rw [stage] at sentinel
      exact sentinel

theorem held_emit (s : Sink) : s.emit.held = s.held := by
  unfold Sink.emit Sink.held
  cases s.drain <;> rfl

theorem Running.emit (running : Running s) : Running s.emit where
  total := by
    rw [held_emit]
    show s.file ++ s.held ++ (s.queue ++ [some s.emitted]).reduceOption =
      List.range (s.emitted + 1)
    rw [List.reduceOption_append, List.range_succ, ← running.total]
    simp
  isOpen := running.isOpen
  absent := by
    intro absent
    simp only [Sink.emit] at absent
    split_ifs at absent with started
    exact absurd (.inl absent) started
  promised := running.promised
  mark := Nat.le_succ_of_le running.mark
  sentinel := by
    have sentinel := running.sentinel
    unfold Sentinel at sentinel ⊢
    show match s.closing with
      | .uncalled => _
      | .waiting => _
      | .woken => _
      | .returned => _
    cases stage : s.closing with
    | uncalled =>
        rw [stage] at sentinel
        refine ⟨by simpa [Sink.emit] using sentinel.1, ?_⟩
        simp only [Sink.emit]
        split_ifs with started
        · simp
        · exact sentinel.2
    | waiting =>
        rw [stage] at sentinel
        rcases sentinel with ⟨within, single, present, alive, bound⟩
        have appended := ahead_append (some s.emitted) within
        have started : ¬(s.drain = .absent ∨ s.drain = .finished) := by
          rintro (absent | finished)
          · exact present absent
          · exact alive finished
        have same : s.emit.drain = s.drain := if_neg started
        rw [held_emit, same]
        refine ⟨List.mem_append_left _ within, ?_, present, alive, ?_⟩
        · show none ∉ behind (s.queue ++ [some s.emitted])
          rw [appended.2]
          simpa using single
        · show s.mark ≤ s.file.length + s.held.length +
            (ahead (s.queue ++ [some s.emitted])).length
          rw [appended.1]
          exact bound
    | woken =>
        rw [stage] at sentinel
        exact ⟨by simpa [Sink.emit] using sentinel.1, sentinel.2⟩
    | returned =>
        rw [stage] at sentinel
        exact sentinel

/-- What a drain loop with this batch is. -/
theorem Running.alive
    {batch : List Nat}
    (drain : s.drain = .collecting batch ∨ s.drain = .waiting batch) :
    s.held = batch ∧ s.drain ≠ .absent ∧ s.drain ≠ .finished := by
  unfold Sink.held
  rcases drain with drain | drain
  · rw [drain]
    exact ⟨rfl, by simp, by simp⟩
  · rw [drain]
    exact ⟨rfl, by simp, by simp⟩

theorem take_of_nil
    (batch : List Nat) (queue : s.queue = []) :
    s.take batch = { s with drain := .waiting batch } := by
  simp [Sink.take, queue]

theorem take_of_line
    (batch : List Nat) {line : Nat} {rest : List (Option Nat)}
    (queue : s.queue = some line :: rest) :
    s.take batch =
      { s with queue := rest, drain := .collecting (batch ++ [line]) } := by
  simp [Sink.take, queue]

theorem Running.waits
    {rest : List (Option Nat)} (running : Running s)
    (queue : s.queue = none :: rest) :
    s.closing = .waiting ∧ none ∉ rest ∧
      s.mark ≤ s.file.length + s.held.length := by
  have sentinel := running.sentinel
  have within : none ∈ s.queue := by simp [queue]
  unfold Sentinel at sentinel
  cases stage : s.closing with
  | uncalled =>
      rw [stage] at sentinel
      exact absurd within sentinel.1
  | waiting =>
      rw [stage] at sentinel
      rcases sentinel with ⟨_, single, _, _, bound⟩
      rw [queue] at single bound
      exact ⟨rfl, single, bound⟩
  | woken =>
      rw [stage] at sentinel
      exact absurd within sentinel.1
  | returned =>
      rw [stage] at sentinel
      cases sentinel

/-- The drain loop writes its batch and ends. -/
theorem Running.take_of_sentinel
    {batch : List Nat} {rest : List (Option Nat)} (running : Running s)
    (queue : s.queue = none :: rest) :
    s.take batch =
      { s with
        queue := rest
        drain := .finished
        closing := .woken
        file := s.file ++ batch } := by
  simp [Sink.take, queue, Sink.finish, Sink.writeBatch, running.isOpen,
    (running.waits queue).1]

theorem Running.take
    {batch : List Nat} (running : Running s)
    (drain : s.drain = .collecting batch ∨ s.drain = .waiting batch) :
    Running (s.take batch) := by
  rcases Running.alive drain with ⟨held, present, alive⟩
  have total := running.total
  rw [held] at total
  cases queue : s.queue with
  | nil =>
      rw [take_of_nil batch queue]
      refine
        ⟨total, running.isOpen, by simp, running.promised, running.mark, ?_⟩
      refine Sentinel.advance running.sentinel rfl rfl ?_ ?_ ?_ ?_ ?_ ?_
      · simp
      · simp
      · exact Iff.rfl
      · rfl
      · exact Nat.le_refl _
      · rw [held]
        simp [Sink.held]
  | cons item rest =>
      rw [queue] at total
      cases item with
      | some line =>
          rw [take_of_line batch queue]
          refine
            ⟨?_, running.isOpen, by simp, running.promised, running.mark, ?_⟩
          · rw [← total]
            simp [Sink.held]
          · refine Sentinel.advance running.sentinel rfl rfl ?_ ?_ ?_ ?_ ?_ ?_
            · simp
            · simp
            · simp [queue]
            · simp [queue, behind]
            · exact Nat.le_refl _
            · rw [held, queue]
              simp only [ahead, Sink.held, List.length_append,
                List.length_cons, List.length_nil]
              omega
      | none =>
          rcases running.waits queue with ⟨_, single, bound⟩
          rw [running.take_of_sentinel queue]
          refine ⟨?_, running.isOpen, by simp, ?_, running.mark, ?_⟩
          · rw [← total]
            simp [Sink.held]
          · simpa using Nat.le_add_right_of_le running.promised
          · rw [held] at bound
            exact ⟨single, by simpa using bound⟩

theorem wrapUp_of_open
    (batch : List Nat) (opened : s.isOpen = true) :
    s.wrapUp batch =
      { s with
        file := s.file ++ batch
        rotateFlag := false
        drain := .collecting [] } := by
  cases flag : s.rotateFlag <;>
    simp [Sink.wrapUp, Sink.writeBatch, Sink.rotate, opened, flag]

theorem Running.wrapUp
    {batch : List Nat} (running : Running s)
    (drain : s.drain = .collecting batch ∨ s.drain = .waiting batch) :
    Running (s.wrapUp batch) := by
  rcases Running.alive drain with ⟨held, present, alive⟩
  have total := running.total
  rw [held] at total
  rw [wrapUp_of_open batch running.isOpen]
  refine ⟨?_, running.isOpen, by simp, ?_, running.mark, ?_⟩
  · rw [← total]
    simp [Sink.held]
  · simpa using Nat.le_add_right_of_le running.promised
  · refine Sentinel.advance running.sentinel rfl rfl ?_ ?_ ?_ ?_ ?_ ?_
    · simp
    · simp
    · exact Iff.rfl
    · rfl
    · simp
    · rw [held]
      simp [Sink.held]

/-- What `flush` writes, and what it leaves in the queue. -/
theorem Running.drainQueue (running : Running s) :
    s.drainQueue =
      { s with
        file := s.file ++ ahead s.queue
        queue := if none ∈ s.queue then behind s.queue ++ [none] else [] } := by
  simp [Sink.drainQueue, Sink.writeBatch, running.isOpen]

theorem Running.flush
    (running : Running s) (free : s.held = [])
    (clear : (behind s.queue).reduceOption = []) :
    Running s.flush := by
  have total := running.total
  rw [free, reduceOption_eq_ahead, clear] at total
  simp only [List.append_nil] at total
  have all : s.emitted = (s.file ++ ahead s.queue).length := by
    rw [total, List.length_range]
  unfold Sink.flush
  rw [running.drainQueue]
  refine ⟨?_, running.isOpen, running.absent, ?_, running.mark, ?_⟩
  · have left : (if none ∈ s.queue then behind s.queue ++ [none]
        else []).reduceOption = [] := by
      split_ifs with sentinel
      · rw [List.reduceOption_append, clear]
        rfl
      · rfl
    show s.file ++ ahead s.queue ++ s.held ++ _ = List.range s.emitted
    rw [left, free, List.append_nil, List.append_nil]
    exact total
  · show max s.promised s.emitted ≤ (s.file ++ ahead s.queue).length
    have promised := running.promised
    rw [← all]
    simp only [List.length_append] at all
    omega
  · have sentinel := running.sentinel
    have marked := running.mark
    unfold Sentinel at sentinel ⊢
    simp only
    cases stage : s.closing with
    | uncalled =>
        rw [stage] at sentinel
        rw [if_neg sentinel.1]
        exact ⟨by simp, sentinel.2⟩
    | waiting =>
        rw [stage] at sentinel
        rcases sentinel with ⟨within, single, present, alive, _⟩
        rw [if_pos within]
        have appended := ahead_append_sentinel single
        refine ⟨by simp, ?_, present, alive, ?_⟩
        · rw [appended.2]
          simp
        · rw [← all]
          omega
    | woken =>
        rw [stage] at sentinel
        rw [if_neg sentinel.1]
        refine ⟨by simp, ?_⟩
        rw [← all]
        exact marked
    | returned =>
        rw [stage] at sentinel
        cases sentinel

theorem Running.ordered (running : Running s) :
    (s.file ++ ahead s.queue).Pairwise (· < ·) := by
  have whole : (List.range s.emitted).Pairwise (· < ·) :=
    List.pairwise_lt_range
  rw [← running.total, reduceOption_eq_ahead] at whole
  refine whole.sublist ?_
  rw [List.append_assoc]
  apply List.Sublist.append (List.Sublist.refl _)
  apply List.Sublist.trans _ (List.sublist_append_right _ _)
  exact List.sublist_append_left _ _

/-- `close` returns: what it has promised is in the file. -/
theorem closed_release
    (isOpen : s.isOpen = true)
    (ordered : (s.file ++ ahead s.queue).Pairwise (· < ·))
    (promised : ∀ line < s.promised, line ∈ s.file)
    (written : ∀ line < s.mark, line ∈ s.file ++ ahead s.queue)
    (quiet : s.drain = .absent ∨ s.drain = .finished ∨ none ∉ s.queue)
    (free : s.busy = false) :
    Closed s.release := by
  have drained : s.drainQueue =
      { s with
        file := s.file ++ ahead s.queue
        queue := if none ∈ s.queue then behind s.queue ++ [none] else [] } := by
    simp [Sink.drainQueue, Sink.writeBatch, isOpen]
  unfold Sink.release
  rw [drained]
  refine ⟨rfl, ordered, ?_, Nat.le_max_right _ _, ?_⟩
  · intro line below
    have either : line < s.promised ∨ line < s.mark := by
      simp only at below
      omega
    rcases either with old | marked
    · exact List.mem_append_left _ (promised line old)
    · exact written line marked
  · rcases quiet with absent | finished | noSentinel
    · exact .inl absent
    · exact .inr (.inl finished)
    · exact .inr (.inr ⟨if_neg noSentinel, fun _ => ⟨rfl, free⟩⟩)

theorem Running.durable
    (running : Running s) {line : Nat} (below : line < s.promised) :
    line ∈ s.file :=
  running.mem_file (below.trans_le running.promised)

theorem Running.closeResumes
    (running : Running s) (woken : s.closing = .woken)
    (free : s.busy = false) : Closed s.release := by
  have sentinel := running.sentinel
  unfold Sentinel at sentinel
  rw [woken] at sentinel
  refine closed_release running.isOpen running.ordered
    (fun _ below => running.durable below) ?_ (.inr (.inr sentinel.1)) free
  intro line below
  exact List.mem_append_left _ (running.mem_file (below.trans_le sentinel.2))

/-- What stands before the sentinel, when the drain loop holds nothing. -/
theorem Running.written
    (running : Running s) (waiting : s.closing = .waiting)
    (empty : s.held = []) {line : Nat} (below : line < s.mark) :
    line ∈ s.file ++ ahead s.queue := by
  have sentinel := running.sentinel
  have total := running.total
  unfold Sentinel at sentinel
  rw [waiting] at sentinel
  rcases sentinel with ⟨_, _, _, _, bound⟩
  rw [empty, List.append_nil, reduceOption_eq_ahead, ← List.append_assoc]
    at total
  rw [empty] at bound
  have front := congrArg (List.take (s.file ++ ahead s.queue).length) total
  rw [List.take_left, List.take_range] at front
  rw [front]
  have lengths := congrArg List.length total
  simp only [List.length_append, List.length_range, List.length_nil]
    at lengths bound ⊢
  rw [List.mem_range]
  omega

theorem Running.closeTimesOut
    (running : Running s) (waiting : s.closing = .waiting)
    (empty : s.held = []) :
    Closed (Sink.release { s with drain := .finished }) := by
  refine closed_release running.isOpen running.ordered
    (fun _ below => running.durable below) ?_ (.inr (.inl rfl)) rfl
  intro line below
  exact running.written waiting empty below

theorem Running.close
    (running : Running s) (uncalled : s.closing = .uncalled) :
    Kept s.close := by
  have sentinel := running.sentinel
  have total := running.total
  unfold Sentinel at sentinel
  rw [uncalled] at sentinel
  have appended := ahead_append_sentinel sentinel.1
  unfold Sink.close
  by_cases absent : s.drain = .absent
  · have none_yet := running.absent absent
    have empty : s.held = [] := by
      unfold Sink.held
      rw [absent]
    rw [none_yet, empty, List.append_nil] at total
    rw [if_pos (.inl absent)]
    refine .inr (closed_release running.isOpen ?_ ?_ ?_ (.inl absent) ?_)
    · simp only
      rw [appended.1, total]
      exact List.Pairwise.nil
    · exact fun _ below => running.durable below
    · intro line below
      simp only [none_yet] at below
      omega
    · show Sink.busy _ = false
      unfold Sink.busy
      simp only
      rw [absent]
  · rw [if_neg (by simp [absent, sentinel.2])]
    refine .inl ⟨?_, running.isOpen, running.absent, running.promised,
      Nat.le_refl _, ?_⟩
    · rw [← total]
      simp [Sink.held, List.reduceOption_append]
    · refine ⟨by simp, ?_, absent, sentinel.2, ?_⟩
      · simp only
        rw [appended.2]
        simp
      · have lengths := congrArg List.length total
        simp only [List.length_append, List.length_range] at lengths
        simp only
        rw [appended.1]
        exact lengths.ge

/-! ## Every step -/

/-- A round of the drain loop after `close` has returned. -/
theorem Closed.wrapUp
    {batch : List Nat} (closed : Closed s) (queue : s.queue = [])
    (held : batch ≠ [] → s.isOpen = false) :
    Closed (s.wrapUp batch) := by
  unfold Sink.wrapUp
  split_ifs with raises
  · refine ⟨?_, closed.ordered, closed.durable, closed.mark, .inr (.inl rfl)⟩
    simp [Sink.finish, closed.returned]
  · have empty : batch = [] := by
      by_contra nonempty
      exact raises ⟨nonempty, held nonempty⟩
    have same : s.writeBatch [] = s := by simp [Sink.writeBatch]
    rw [empty, same]
    unfold Sink.rotate
    split_ifs
    · exact
        ⟨closed.returned, closed.ordered, closed.durable, closed.mark,
          .inr (.inr ⟨queue, fun held => absurd rfl held⟩)⟩
    · exact
        ⟨closed.returned, closed.ordered, closed.durable, closed.mark,
          .inr (.inr ⟨queue, fun held => absurd rfl held⟩)⟩

/-- A drain loop that is alive after `close` has nothing to take. -/
theorem Closed.alive
    {batch : List Nat} (closed : Closed s)
    (drain : s.drain = .collecting batch ∨ s.drain = .waiting batch) :
    s.queue = [] ∧ (batch ≠ [] → s.isOpen = false ∧ s.busy = false) := by
  rcases Running.alive drain with ⟨held, present, alive⟩
  rcases closed.quiet with absent | finished | quiet
  · exact absurd absent present
  · exact absurd finished alive
  · exact held ▸ quiet

theorem closed_step
    {settings : Settings} {label : Label} (closed : Closed s)
    (stepped : step settings s label = some after) : Closed after := by
  have returned := closed.returned
  cases label with
  | emit => simp [step, returned] at stepped
  | flush => simp [step, returned] at stepped
  | close => simp [step, returned] at stepped
  | closeResumes => simp [step, returned] at stepped
  | closeTimesOut => simp [step, returned] at stepped
  | sighup =>
      simp only [step] at stepped
      split_ifs at stepped
      cases stepped
      exact
        ⟨returned, closed.ordered, closed.durable, closed.mark, closed.quiet⟩
  | drainStarts =>
      simp only [step] at stepped
      split at stepped
      · rename_i created
        cases stepped
        rcases closed.quiet with absent | finished | quiet
        · rw [absent] at created
          cases created
        · rw [finished] at created
          cases created
        · exact
            ⟨returned, closed.ordered, closed.durable, closed.mark,
              .inr (.inr ⟨quiet.1, fun held => absurd rfl held⟩)⟩
      · cases stepped
  | drainChecks elapsed =>
      simp only [step] at stepped
      split at stepped
      · rename_i batch collecting
        rcases closed.alive (.inl collecting) with ⟨queue, shut⟩
        have empty : batch = [] := by
          by_contra nonempty
          have free := (shut nonempty).2
          simp [Sink.busy, collecting] at free
        subst empty
        split_ifs at stepped
        · cases stepped
          rw [take_of_nil [] queue]
          exact
            ⟨returned, closed.ordered, closed.durable, closed.mark,
              .inr (.inr ⟨queue, fun held => absurd rfl held⟩)⟩
        · cases stepped
          exact closed.wrapUp queue fun nonempty => absurd rfl nonempty
      · cases stepped
  | drainWakes =>
      simp only [step] at stepped
      split at stepped
      · rename_i batch waiting
        rw [if_pos (closed.alive (.inr waiting)).1] at stepped
        cases stepped
      · cases stepped
  | drainTimesOut =>
      simp only [step] at stepped
      split at stepped
      · rename_i batch waiting
        cases stepped
        rcases closed.alive (.inr waiting) with ⟨queue, shut⟩
        exact closed.wrapUp queue fun nonempty => (shut nonempty).1
      · cases stepped

theorem Running.starts
    (running : Running s) (created : s.drain = .created) :
    Running { s with drain := .collecting [], watching := true } := by
  have held : s.held = [] := by
    unfold Sink.held
    rw [created]
  have total := running.total
  rw [held] at total
  refine ⟨total, running.isOpen, by simp, running.promised, running.mark, ?_⟩
  refine Sentinel.advance running.sentinel rfl rfl ?_ ?_ ?_ ?_ ?_ ?_
  · simp
  · simp
  · exact Iff.rfl
  · rfl
  · exact Nat.le_refl _
  · rw [held]
    simp [Sink.held]

theorem running_step
    {settings : Settings} {label : Label} (running : Running s)
    (orderly : Orderly s label)
    (stepped : step settings s label = some after) : Kept after := by
  cases label with
  | emit =>
      simp only [step] at stepped
      split_ifs at stepped
      cases stepped
      exact .inl running.emit
  | flush =>
      simp only [step] at stepped
      split_ifs at stepped
      cases stepped
      exact .inl (running.flush orderly.1 orderly.2)
  | sighup =>
      simp only [step] at stepped
      split_ifs at stepped
      cases stepped
      exact
        .inl ⟨running.total, running.isOpen, running.absent, running.promised,
          running.mark, running.sentinel⟩
  | close =>
      simp only [step] at stepped
      split_ifs at stepped with refused
      cases stepped
      exact running.close (not_not.mp (not_or.mp refused).2)
  | closeResumes =>
      simp only [step] at stepped
      split_ifs at stepped with refused
      cases stepped
      rcases not_or.mp refused with ⟨free, woken⟩
      exact
        .inr (running.closeResumes (not_not.mp woken) (by simpa using free))
  | closeTimesOut =>
      simp only [step] at stepped
      split_ifs at stepped with refused
      cases stepped
      exact
        .inr (running.closeTimesOut (not_not.mp (not_or.mp refused).2) orderly)
  | drainStarts =>
      simp only [step] at stepped
      split at stepped
      · rename_i created
        cases stepped
        exact .inl (running.starts created)
      · cases stepped
  | drainChecks elapsed =>
      simp only [step] at stepped
      split at stepped
      · rename_i batch collecting
        split_ifs at stepped
        · cases stepped
          exact .inl (running.take (.inl collecting))
        · cases stepped
          exact .inl (running.wrapUp (.inl collecting))
      · cases stepped
  | drainWakes =>
      simp only [step] at stepped
      split at stepped
      · rename_i batch waiting
        split_ifs at stepped
        cases stepped
        exact .inl (running.take (.inr waiting))
      · cases stepped
  | drainTimesOut =>
      simp only [step] at stepped
      split at stepped
      · rename_i batch waiting
        cases stepped
        exact .inl (running.wrapUp (.inr waiting))
      · cases stepped

theorem step_kept
    {settings : Settings} {label : Label} (kept : Kept s)
    (orderly : Orderly s label)
    (stepped : step settings s label = some after) : Kept after := by
  rcases kept with running | closed
  · exact running_step running orderly stepped
  · exact .inr (closed_step closed stepped)

/-! ## What is left to write -/

variable {settings : Settings}

theorem reaches_one
    {label : Label} (stepped : step settings s label = some after)
    (orderly : Orderly s label) :
    Reaches (step settings) Orderly s after :=
  .step .start orderly stepped

/-- The drain loop ends its round. -/
theorem drainTimesOut_of_waiting
    {batch : List Nat} (waiting : s.drain = .waiting batch) :
    Reaches (step settings) Orderly s (s.wrapUp batch) := by
  have stepped : step settings s .drainTimesOut = some (s.wrapUp batch) := by
    simp [step, waiting]
  exact reaches_one stepped trivial

/-- The drain loop writes what stands before the sentinel. -/
theorem Running.drains
    (positive : 0 < settings.batchSize) (patient : 0 < settings.flushInterval)
    {batch : List Nat} {due : Nat} (running : Running s)
    (collecting : s.drain = .collecting batch)
    (within : due ≤ s.file.length + batch.length + (ahead s.queue).length) :
    ∃ after, Reaches (step settings) Orderly s after ∧ Running after ∧
      due ≤ after.file.length := by
  generalize size : 2 * s.queue.length + batch.length = measure
  induction measure using Nat.strong_induction_on generalizing s batch with
  | _ measure ih =>
      have checks : step settings s (.drainChecks false) =
          if (batch.length : Int) < settings.batchSize
          then some (s.take batch) else some (s.wrapUp batch) := by
        simp [step, collecting, patient]
      by_cases fits : (batch.length : Int) < settings.batchSize
      · rw [if_pos fits] at checks
        have first := reaches_one checks trivial
        have taken := running.take (.inl collecting)
        cases queue : s.queue with
        | nil =>
            have same := take_of_nil batch queue
            have waiting : (s.take batch).drain = .waiting batch := by
              rw [same]
            refine
              ⟨_, first.trans (drainTimesOut_of_waiting waiting),
                taken.wrapUp (.inr waiting), ?_⟩
            rw [wrapUp_of_open batch taken.isOpen, same]
            simpa [queue, ahead] using within
        | cons item rest =>
            cases item with
            | none =>
                refine ⟨_, first, taken, ?_⟩
                rw [running.take_of_sentinel queue]
                simpa [queue, ahead] using within
            | some line =>
                have same := take_of_line batch queue
                rw [same] at first taken
                rw [queue] at size within
                simp only [List.length_cons, ahead] at size within
                have grown : (batch ++ [line]).length = batch.length + 1 := by
                  simp
                rcases ih (2 * rest.length + (batch ++ [line]).length)
                    (by omega) taken rfl (by simp only; omega) rfl with
                  ⟨last, reached, kept, written⟩
                exact ⟨last, first.trans reached, kept, written⟩
      · rw [if_neg fits] at checks
        have first := reaches_one checks trivial
        have wrapped := running.wrapUp (.inl collecting)
        have same := wrapUp_of_open batch running.isOpen
        rw [same] at first wrapped
        have grown : (s.file ++ batch).length = s.file.length + batch.length :=
          List.length_append
        rcases ih (2 * s.queue.length + ([] : List Nat).length)
            (by simp only [List.length_nil]; omega) wrapped rfl
            (by simp only [List.length_nil]; omega) rfl with
          ⟨last, reached, kept, written⟩
        exact ⟨last, first.trans reached, kept, written⟩

/-- What is covered stands before the sentinel, or is already written. -/
theorem Running.covered_le (running : Running s) :
    s.covered ≤
      s.file.length + s.held.length + (ahead s.queue).length := by
  have sentinel := running.sentinel
  unfold Sentinel at sentinel
  unfold Sink.covered
  cases stage : s.closing with
  | uncalled =>
      rw [stage] at sentinel
      have lengths := congrArg List.length running.total
      rw [reduceOption_eq_ahead, behind_of_no_sentinel sentinel.1] at lengths
      simp only [List.length_append, List.length_range] at lengths
      rw [if_pos rfl, ← lengths]
      simp
  | waiting =>
      rw [stage] at sentinel
      exact sentinel.2.2.2.2
  | woken =>
      rw [stage] at sentinel
      have written : s.mark ≤ s.file.length := sentinel.2
      rw [if_neg (by simp)]
      omega
  | returned =>
      rw [stage] at sentinel
      cases sentinel

theorem Running.completes
    (positive : 0 < settings.batchSize) (patient : 0 < settings.flushInterval)
    (running : Running s) :
    ∃ after, Reaches (step settings) Orderly s after ∧ Running after ∧
      s.covered ≤ after.file.length := by
  have within := running.covered_le
  cases stage : s.drain with
  | absent =>
      have held : s.held = [] := by simp [Sink.held, stage]
      have lengths := congrArg List.length running.total
      rw [running.absent stage, reduceOption_eq_ahead] at lengths
      simp only [List.length_append, List.length_range] at lengths
      exact ⟨s, .start, running, by omega⟩
  | created =>
      have held : s.held = [] := by simp [Sink.held, stage]
      have starts : step settings s .drainStarts =
          some { s with drain := .collecting [], watching := true } := by
        simp [step, stage]
      rw [held] at within
      rcases (running.starts stage).drains positive patient rfl within with
        ⟨last, reached, kept, written⟩
      exact
        ⟨last, (reaches_one starts trivial).trans reached, kept, written⟩
  | collecting batch =>
      have held : s.held = batch := by simp [Sink.held, stage]
      rw [held] at within
      exact running.drains positive patient stage within
  | waiting batch =>
      have held : s.held = batch := by simp [Sink.held, stage]
      have wrapped := running.wrapUp (.inr stage)
      have same := wrapUp_of_open batch running.isOpen
      rw [held] at within
      rw [same] at wrapped
      have first : Reaches (step settings) Orderly s (s.wrapUp batch) :=
        drainTimesOut_of_waiting stage
      rw [same] at first
      have due : s.covered ≤ (s.file ++ batch).length + ([] : List Nat).length +
          (ahead s.queue).length := by
        simp only [List.length_append, List.length_nil]
        omega
      rcases wrapped.drains positive patient rfl due with
        ⟨last, reached, kept, written⟩
      exact ⟨last, first.trans reached, kept, written⟩
  | finished =>
      have sentinel := running.sentinel
      unfold Sentinel at sentinel
      cases closing : s.closing with
      | uncalled =>
          rw [closing] at sentinel
          exact absurd stage sentinel.2
      | waiting =>
          rw [closing] at sentinel
          exact absurd stage sentinel.2.2.2.1
      | woken =>
          rw [closing] at sentinel
          refine ⟨s, .start, running, ?_⟩
          unfold Sink.covered
          rw [closing]
          exact sentinel.2
      | returned =>
          rw [closing] at sentinel
          cases sentinel

end Steps

/-! ## The audit log in every run -/

/-- Increasing lines contain each line at most once. -/
theorem count_of_increasing
    {file : List Nat} (ordered : file.Pairwise (· < ·)) {line : Nat}
    (within : line ∈ file) : file.count line = 1 := by
  have distinct : file.Nodup := ordered.imp Nat.ne_of_lt
  exact List.count_eq_one_of_mem distinct within

theorem Running.increasing {s : Sink} (running : Running s) :
    s.file.Pairwise (· < ·) := by
  rw [running.file_eq]
  exact List.pairwise_lt_range

theorem Kept.faithful
    {settings : Settings} {s : Sink} (positive : 0 < settings.batchSize)
    (patient : 0 < settings.flushInterval) (kept : Kept s) :
    Faithful settings s := by
  rcases kept with running | closed
  · refine ⟨running.increasing, fun _ below => running.durable below, ?_⟩
    rcases running.completes positive patient with
      ⟨after, reached, done, written⟩
    refine ⟨after, reached, ?_⟩
    intro line below
    exact
      count_of_increasing done.increasing
        (done.mem_file (below.trans_le written))
  · refine ⟨closed.ordered, closed.durable, s, .start, ?_⟩
    intro line below
    have marked : s.covered = s.mark := by
      simp [Sink.covered, closed.returned]
    rw [marked] at below
    exact
      count_of_increasing closed.ordered
        (closed.durable line (below.trans_le closed.mark))

theorem audit_log_faithful_in_every_run
    (settings : Settings) (positive : 0 < settings.batchSize)
    (patient : 0 < settings.flushInterval) {s : Sink}
    (reached : Reaches (step settings) Orderly {} s) :
    Faithful settings s := by
  apply Kept.faithful positive patient
  apply reached.invariant kept_fresh
  intro before label after kept orderly stepped
  exact step_kept kept orderly stepped

/-- Three events, a flush, a rotation and a close while the last event waits. -/
def working : List Label :=
  [.emit, .emit, .flush, .drainStarts, .drainChecks false, .sighup,
    .drainTimesOut, .drainChecks false, .emit, .close, .drainWakes,
    .drainChecks false, .closeResumes]

theorem working_log_faithful :
    ∃ s : Sink, s.closing = .returned ∧ s.file = [0, 1, 2] ∧
      s.promised = 3 ∧ Faithful {} s := by
  have run :
      (runWhere (step {}) Orderly {} working).map
        (fun s => decide (s.closing = .returned ∧ s.file = [0, 1, 2] ∧
          s.promised = 3)) =
      some true := by
    decide +kernel
  rcases Option.map_eq_some_iff.mp run with ⟨s, ran, found⟩
  rcases of_decide_eq_true found with ⟨returned, file, promised⟩
  exact
    ⟨s, returned, file, promised,
      audit_log_faithful_in_every_run {} (by decide) (by decide +kernel)
        (reaches_of_runWhere .start ran)⟩

/--
A flush returns while the drain loop holds the first event; the second event
is written before it.
-/
theorem flush_overtakes_drain_loop :
    ∃ s : Sink, Reaches (step {}) (fun _ _ => True) {} s ∧
      s.promised = 2 ∧ 0 ∉ s.file ∧
      ∃ later, Reaches (step {}) (fun _ _ => True) s later ∧
        later.file = [1, 0] := by
  have run :
      ((runWhere (step {}) (fun _ _ => True) {}
        [.emit, .drainStarts, .drainChecks false, .drainChecks false, .emit,
          .flush]).bind fun s =>
        (runWhere (step {}) (fun _ _ => True) s [.drainTimesOut]).map
          fun later => decide (s.promised = 2 ∧ 0 ∉ s.file ∧
            later.file = [1, 0])) =
      some true := by
    decide +kernel
  rcases Option.bind_eq_some_iff.mp run with ⟨s, ran, rest⟩
  rcases Option.map_eq_some_iff.mp rest with ⟨later, more, found⟩
  rcases of_decide_eq_true found with ⟨promised, absent, file⟩
  exact
    ⟨s, reaches_of_runWhere .start ran, promised, absent, later,
      reaches_of_runWhere .start more, file⟩

end Civitas.Audit
