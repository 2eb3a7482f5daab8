import Civitas.Transition

/-!
# Exporting spans

`run_otel_agent` of `observability/otel_agent.py` on a `SpanQueue`: one task
moves spans from the queue to a list of its own and from there, as a batch, to
the backend.  When it is cancelled it drains the queue, flushes once more and
shuts the backend down.

A step is what happens between two awaits of the task, or a span put by other
code.  Cancellation reaches the task where it awaits: in the queue, or inside
an export, which then does not complete.

Whether every span is exported once is decided by the place where the
cancellation finds the task.
-/

namespace Civitas.Observability.SpanExport

open Civitas.Transition

variable {Span : Type}

/-! ## The queue -/

/-- `put_nowait` of `SpanQueue`: the queue, and the span that was dropped. -/
def putNowait (maxsize : Int) (queue : List Span) (span : Span) :
    List Span × List Span :=
  -- `asyncio.Queue` is unbounded for `maxsize <= 0`
  if 0 < maxsize ∧ maxsize ≤ queue.length
  then (queue.tail ++ [span], queue.take 1)
  else (queue ++ [span], [])

/-! ## The task -/

/-- Where the task awaits; it is done when nothing is awaited any more. -/
inductive Phase (Span : Type) where
  | waiting (pending : List Span)
  | exporting (batch : List Span)
  | flushing (batch : List Span)
  | stopping
  | done
deriving DecidableEq

/-- How a call of the backend ended. -/
inductive Call (Span : Type) where
  | exported (batch : List Span)
  | failed (batch : List Span)
  | interrupted (batch : List Span)
  | shutdown
deriving DecidableEq

/-- The arguments of the task. -/
structure Config where
  maxsize : Int := 10000
  batchSize : Int := 50

/-- The queue, the task that drains it and what it has exported. -/
structure State (Span : Type) where
  queue : List Span := []
  phase : Phase Span := .waiting []
  calls : List (Call Span) := []
  /-- The spans that were put, in order. -/
  put : List Span := []
  /-- Where the cancellation found the task. -/
  found : Option (Phase Span) := none
  /-- How many spans had been put when the task was cancelled. -/
  promised : Nat := 0
  /-- The spans that an overflow, a failed export or the deadline lost. -/
  dropped : List Span := []

/-- What happens next. -/
inductive Label (Span : Type) where
  | put (span : Span)
  | take
  | timeout
  | exportReturns
  | exportRaises
  /-- The deadline, if any, passes after so many rounds of the drain. -/
  | cancel (deadline : Option Nat)
  | shutdownReturns

/-- `_flush`, awaited in the given phase. -/
def flush
    (phase : List Span → Phase Span) (rest : Phase Span)
    (pending : List Span) : Phase Span :=
  if pending = [] then rest else phase pending

/-- The loop that drains the queue: what it takes and what it leaves. -/
def drain : Option Nat → List Span → List Span × List Span
  | _, [] => ([], [])
  | some 0, queue => ([], queue)
  | some (rounds + 1), span :: queue =>
      let rest := drain (some rounds) queue
      (span :: rest.1, rest.2)
  | none, span :: queue =>
      let rest := drain none queue
      (span :: rest.1, rest.2)

/-- The cancelled task drains the queue and flushes once more. -/
def State.shut
    (state : State Span) (pending : List Span) (deadline : Option Nat) :
    State Span :=
  let drained := drain deadline state.queue
  { state with
    queue := drained.2
    phase := flush .flushing .stopping (pending ++ drained.1)
    found := some state.phase
    promised := state.put.length
    dropped := state.dropped ++ drained.2 }

/-- One step of the export. -/
def step (cfg : Config) (state : State Span) :
    Label Span → Option (State Span)
  | .put span =>
      let result := putNowait cfg.maxsize state.queue span
      some
        { state with
          queue := result.1
          put := state.put ++ [span]
          dropped := state.dropped ++ result.2 }
  | .take =>
      match state.phase, state.queue with
      | .waiting pending, span :: rest =>
          let pending := pending ++ [span]
          some
            { state with
              queue := rest
              phase :=
                if cfg.batchSize ≤ (pending.length : Int)
                then flush .exporting (.waiting []) pending
                else .waiting pending }
      | _, _ => none
  | .timeout =>
      match state.phase with
      | .waiting pending =>
          some
            { state with phase := flush .exporting (.waiting []) pending }
      | _ => none
  | .exportReturns =>
      match state.phase with
      | .exporting batch =>
          some
            { state with
              phase := .waiting []
              calls := state.calls ++ [.exported batch] }
      | .flushing batch =>
          some
            { state with
              phase := .stopping
              calls := state.calls ++ [.exported batch] }
      | _ => none
  | .exportRaises =>
      match state.phase with
      | .exporting batch =>
          some
            { state with
              phase := .waiting []
              calls := state.calls ++ [.failed batch]
              dropped := state.dropped ++ batch }
      | .flushing batch =>
          some
            { state with
              phase := .stopping
              calls := state.calls ++ [.failed batch]
              dropped := state.dropped ++ batch }
      | _ => none
  | .cancel deadline =>
      match state.phase with
      | .waiting pending => some (state.shut pending deadline)
      | .exporting batch =>
          some
            { state.shut [] deadline with
              calls := state.calls ++ [.interrupted batch] }
      | _ => none
  | .shutdownReturns =>
      match state.phase with
      | .stopping =>
          some
            { state with
              phase := .done
              calls := state.calls ++ [.shutdown] }
      | _ => none

/-! ## What is expected -/

/-- The spans of a completed export. -/
def Call.spans : Call Span → List Span
  | .exported batch => batch
  | _ => []

/-- The spans of all completed exports, in order. -/
def exported (calls : List (Call Span)) : List Span :=
  calls.flatMap Call.spans

/-- No overflow, no failing export, and time enough to drain the queue. -/
def Faultless (cfg : Config) (state : State Span) : Label Span → Prop
  | .put span => (putNowait cfg.maxsize state.queue span).2 = []
  | .exportRaises => False
  | .cancel deadline => deadline = none
  | _ => True

/--
The completed exports are the spans in the order in which they were put, each
once, with all that were put before the cancellation, and the last call of the
backend is its only shutdown.
-/
structure ExportedOnce (state : State Span) : Prop where
  inOrder : exported state.calls <+: state.put
  whole : state.promised ≤ (exported state.calls).length
  shutdown : ∃ earlier,
    state.calls = earlier ++ [.shutdown] ∧ .shutdown ∉ earlier

/-! ## Where the spans are -/

/-- The spans that the task holds. -/
def Phase.inHand : Phase Span → List Span
  | .waiting pending => pending
  | .exporting batch | .flushing batch => batch
  | .stopping | .done => []

/-- The spans of the export that the cancellation interrupted. -/
def State.lost (state : State Span) : List Span :=
  match state.found with
  | some (.exporting batch) => batch
  | _ => []

/-- Before the cancellation every span is exported, in hand or queued. -/
structure Running (state : State Span) : Prop where
  found : state.found = none
  spans :
    state.put =
      exported state.calls ++ state.phase.inHand ++ state.queue
  unshut : .shutdown ∉ state.calls
  nonempty : ∀ batch, state.phase = .exporting batch → batch ≠ []

/--
After it, what was put before is exported or in hand, up to the batch that was
lost.
-/
structure Ending (state : State Span) : Prop where
  spans : ∃ before rest,
    state.put.take state.promised = before ++ state.lost ++ rest ∧
      exported state.calls ++ state.phase.inHand = before ++ rest
  promised : state.promised ≤ state.put.length
  nonempty : ∀ batch, state.found = some (.exporting batch) → batch ≠ []
  unshut : state.phase ≠ .done → .shutdown ∉ state.calls
  shutdown : state.phase = .done → ∃ earlier,
    state.calls = earlier ++ [.shutdown] ∧ .shutdown ∉ earlier

/-- The task has not been cancelled yet. -/
def Phase.running : Phase Span → Bool
  | .waiting _ | .exporting _ => true
  | .flushing _ | .stopping | .done => false

/-- The spans of a state are where its phase says. -/
structure Sound (state : State Span) : Prop where
  running : state.phase.running = true → Running state
  ending : state.phase.running = false → Ending state

variable {cfg : Config} {state after : State Span}

theorem exported_append (calls : List (Call Span)) (call : Call Span) :
    exported (calls ++ [call]) = exported calls ++ call.spans := by
  simp [exported]

theorem inHand_flush_exporting (pending : List Span) :
    (flush .exporting (.waiting []) pending).inHand = pending := by
  unfold flush
  split
  · rename_i empty
    exact empty.symm
  · rfl

theorem inHand_flush_flushing (pending : List Span) :
    (flush .flushing .stopping pending).inHand = pending := by
  unfold flush
  split
  · rename_i empty
    exact empty.symm
  · rfl

/-- A flush exports a batch that is not empty, or goes on waiting. -/
theorem flush_exporting_cases (pending : List Span) :
    flush .exporting (.waiting []) pending = .waiting [] ∨
      pending ≠ [] ∧
        flush .exporting (.waiting []) pending = .exporting pending := by
  unfold flush
  split
  · exact .inl rfl
  · rename_i some
    exact .inr ⟨some, rfl⟩

theorem running_flush_exporting (pending : List Span) :
    (flush .exporting (.waiting []) pending).running = true := by
  rcases flush_exporting_cases pending with waits | ⟨_, exports⟩
  · rw [waits]
    rfl
  · rw [exports]
    rfl

/-- The last flush leads to the shutdown. -/
theorem running_flush_flushing (pending : List Span) :
    (flush .flushing .stopping pending).running = false := by
  unfold flush
  split <;> rfl

theorem flush_flushing_ne_done (pending : List Span) :
    flush .flushing .stopping pending ≠ .done := by
  unfold flush
  split <;> simp

/-- In time the loop empties the queue. -/
theorem drain_none (queue : List Span) : drain none queue = (queue, []) := by
  induction queue with
  | nil => rfl
  | cons span rest ih =>
      unfold drain
      rw [ih]

theorem putNowait_of_room
    {maxsize : Int} {queue : List Span} {span : Span}
    (room : (putNowait maxsize queue span).2 = []) :
    (putNowait maxsize queue span).1 = queue ++ [span] := by
  unfold putNowait at room ⊢
  split
  · rename_i full
    rw [if_pos full] at room
    cases queue with
    | nil => rfl
    | cons first rest => cases room
  · rfl

/-! ## One step -/

/-- A span that is put before the cancellation is queued. -/
theorem Running.put
    (running : Running state) {queue dropped : List Span} {span : Span}
    (queued : queue = state.queue ++ [span]) :
    Running
      { state with
        queue := queue
        put := state.put ++ [span]
        dropped := dropped } where
  found := running.found
  spans := by
    rw [queued]
    simp only [running.spans, List.append_assoc]
  unshut := running.unshut
  nonempty := running.nonempty

/-- What is put after the cancellation is not promised. -/
theorem Ending.put
    (ending : Ending state) {queue dropped : List Span} (span : Span) :
    Ending
      { state with
        queue := queue
        put := state.put ++ [span]
        dropped := dropped } where
  spans := by
    rcases ending.spans with ⟨before, rest, split, handed⟩
    have kept :
        (state.put ++ [span]).take state.promised =
          state.put.take state.promised :=
      List.take_append_of_le_length ending.promised
    exact ⟨before, rest, kept.trans split, handed⟩
  promised := by
    rw [List.length_append]
    exact Nat.le_add_right_of_le ending.promised
  nonempty := ending.nonempty
  unshut := ending.unshut
  shutdown := ending.shutdown

/-- Spans that move from the queue to the task are still exported later. -/
theorem Running.move
    (running : Running state) {queue : List Span} {phase : Phase Span}
    (spans :
      phase.inHand ++ queue = state.phase.inHand ++ state.queue)
    (nonempty : ∀ batch, phase = .exporting batch → batch ≠ []) :
    Running { state with queue := queue, phase := phase } where
  found := running.found
  spans := by
    rw [running.spans, List.append_assoc, List.append_assoc, spans]
  unshut := running.unshut
  nonempty := nonempty

/-- A completed export turns the batch in hand into exported spans. -/
theorem Running.exportReturns
    (running : Running state) {batch : List Span}
    (exports : state.phase = .exporting batch) :
    Running
      { state with
        phase := .waiting []
        calls := state.calls ++ [.exported batch] } where
  found := running.found
  spans := by
    rw [running.spans, exports, exported_append]
    simp [Call.spans, Phase.inHand]
  unshut := by
    rw [List.mem_append, not_or]
    exact ⟨running.unshut, by simp⟩
  nonempty := by simp

theorem Ending.exportReturns
    (ending : Ending state) {batch : List Span}
    (flushes : state.phase = .flushing batch) :
    Ending
      { state with
        phase := .stopping
        calls := state.calls ++ [.exported batch] } where
  spans := by
    rcases ending.spans with ⟨before, rest, split, handed⟩
    refine ⟨before, rest, split, ?_⟩
    rw [flushes] at handed
    rw [exported_append]
    simpa [Call.spans, Phase.inHand] using handed
  promised := ending.promised
  nonempty := ending.nonempty
  unshut _ := by
    rw [List.mem_append, not_or]
    exact ⟨ending.unshut (by rw [flushes]; simp), by simp⟩
  shutdown := by simp

/-- A task cancelled while it waits keeps all that it has collected. -/
theorem Running.cancel_waiting
    (running : Running state) {pending : List Span}
    (waits : state.phase = .waiting pending) :
    Ending (state.shut pending none) where
  spans := by
    refine ⟨state.put, [], ?_, ?_⟩
    · simp [State.shut, State.lost, waits]
    · simp only [State.shut, drain_none,
        inHand_flush_flushing, running.spans, waits]
      simp [Phase.inHand]
  promised := Nat.le_refl _
  nonempty := by
    intro batch found
    rw [State.shut, waits] at found
    cases found
  unshut _ := running.unshut
  shutdown ended := absurd ended (flush_flushing_ne_done _)

/-- A task cancelled inside an export loses the batch of that export. -/
theorem Running.cancel_exporting
    (running : Running state) {batch : List Span}
    (exports : state.phase = .exporting batch) :
    Ending
      { state.shut [] none with
        calls := state.calls ++ [.interrupted batch] } where
  spans := by
    have put :
        state.put = exported state.calls ++ batch ++ state.queue := by
      rw [running.spans, exports]
      rfl
    refine ⟨exported state.calls, state.queue, ?_, ?_⟩
    · have lost :
          State.lost { state.shut [] none with
            calls := state.calls ++ [.interrupted batch] } = batch := by
        simp [State.shut, State.lost, exports]
      rw [lost, ← put]
      exact List.take_length
    · simp [State.shut, drain_none, inHand_flush_flushing,
        exported_append, Call.spans]
  promised := Nat.le_refl _
  nonempty := by
    intro other found
    rw [State.shut, exports] at found
    cases found
    exact running.nonempty batch exports
  unshut _ := by
    rw [List.mem_append, not_or]
    exact ⟨running.unshut, by simp⟩
  shutdown ended := absurd ended (flush_flushing_ne_done _)

theorem Ending.shutdownReturns
    (ending : Ending state) (stops : state.phase = .stopping) :
    Ending
      { state with
        phase := .done
        calls := state.calls ++ [.shutdown] } where
  spans := by
    rcases ending.spans with ⟨before, rest, split, handed⟩
    refine ⟨before, rest, split, ?_⟩
    rw [stops] at handed
    rw [exported_append]
    simpa [Call.spans, Phase.inHand] using handed
  promised := ending.promised
  nonempty := ending.nonempty
  unshut undone := absurd rfl undone
  shutdown _ :=
    ⟨state.calls, rfl, ending.unshut (by rw [stops]; simp)⟩

/-- A phase that still waits or exports. -/
theorem Sound.of_running
    (running : Running state) (runs : state.phase.running = true) :
    Sound state where
  running _ := running
  ending ended := by
    rw [runs] at ended
    cases ended

theorem Sound.of_ending
    (ending : Ending state) (ended : state.phase.running = false) :
    Sound state where
  running runs := by
    rw [ended] at runs
    cases runs
  ending _ := ending

/-- A flush moves what the task has collected into an export. -/
theorem Sound.of_flush
    (running : Running state) {pending queue : List Span}
    (spans : pending ++ queue = state.phase.inHand ++ state.queue) :
    Sound
      { state with
        queue := queue
        phase := flush .exporting (.waiting []) pending } := by
  refine .of_running (running.move ?_ ?_) (running_flush_exporting pending)
  · rw [inHand_flush_exporting, spans]
  · intro batch exports
    rcases flush_exporting_cases pending with same | ⟨some, same⟩
    · rw [same] at exports
      cases exports
    · rw [same] at exports
      cases exports
      exact some

/-- Every step of a faultless run keeps the spans where they belong. -/
theorem Sound.step
    (sound : Sound state) {label : Label Span}
    (faultless : Faultless cfg state label)
    (stepped : SpanExport.step cfg state label = some after) :
    Sound after := by
  cases label with
  | put span =>
      cases stepped
      constructor
      · intro runs
        exact (sound.running runs).put (putNowait_of_room faultless)
      · intro ended
        exact (sound.ending ended).put span
  | take =>
      simp only [SpanExport.step] at stepped
      split at stepped
      · rename_i pending span rest waits queued
        cases stepped
        have running := sound.running (by rw [waits]; rfl)
        have moved :
            (pending ++ [span]) ++ rest =
              state.phase.inHand ++ state.queue := by
          rw [waits, queued]
          simp [Phase.inHand]
        split
        · exact .of_flush running moved
        · exact .of_running (running.move moved (by simp)) rfl
      · cases stepped
  | timeout =>
      simp only [SpanExport.step] at stepped
      split at stepped
      · rename_i pending waits
        cases stepped
        have running := sound.running (by rw [waits]; rfl)
        exact .of_flush running (by rw [waits]; rfl)
      · cases stepped
  | exportReturns =>
      simp only [SpanExport.step] at stepped
      split at stepped
      · rename_i batch exports
        cases stepped
        have running := sound.running (by rw [exports]; rfl)
        exact .of_running (running.exportReturns exports) rfl
      · rename_i batch flushes
        cases stepped
        have ending := sound.ending (by rw [flushes]; rfl)
        exact .of_ending (ending.exportReturns flushes) rfl
      · cases stepped
  | exportRaises => exact faultless.elim
  | cancel deadline =>
      have inTime : deadline = none := faultless
      subst inTime
      simp only [SpanExport.step] at stepped
      split at stepped
      · rename_i pending waits
        cases stepped
        have running := sound.running (by rw [waits]; rfl)
        exact .of_ending (running.cancel_waiting waits)
          (running_flush_flushing _)
      · rename_i batch exports
        cases stepped
        have running := sound.running (by rw [exports]; rfl)
        exact .of_ending (running.cancel_exporting exports)
          (running_flush_flushing _)
      · cases stepped
  | shutdownReturns =>
      simp only [SpanExport.step] at stepped
      split at stepped
      · rename_i stops
        cases stepped
        have ending := sound.ending (by rw [stops]; rfl)
        exact .of_ending (ending.shutdownReturns stops) rfl
      · cases stepped

/-! ## The law -/

theorem sound_init : Sound ({} : State Span) := by
  refine .of_running ⟨rfl, rfl, by simp, by simp⟩ rfl

/-- A task that is done has exported everything but the batch it lost. -/
theorem Ending.exportedOnce_iff
    (ending : Ending state) (done : state.phase = .done) :
    ExportedOnce state ↔ state.lost = [] := by
  rcases ending.spans with ⟨before, rest, split, handed⟩
  have all : exported state.calls = before ++ rest := by
    rw [← handed, done]
    simp [Phase.inHand]
  have count :
      state.promised =
        before.length + state.lost.length + rest.length := by
    have size := congrArg List.length split
    rw [List.length_take, Nat.min_eq_left ending.promised] at size
    rw [size, List.length_append, List.length_append]
  constructor
  · intro once
    have whole := once.whole
    rw [all, List.length_append, count] at whole
    exact List.eq_nil_of_length_eq_zero (by omega)
  · intro nothing
    rw [nothing, List.append_nil] at split
    refine ⟨?_, ?_, ending.shutdown done⟩
    · rw [all, ← split]
      exact List.take_prefix _ _
    · rw [all, count, nothing, List.length_append]
      simp

/--
In every faultless run, when the task is done every span put before the
cancellation has been exported once, in order, and the backend has been shut
down once afterwards, exactly if the cancellation did not find the task inside
an export.
-/
theorem exported_once_iff
    (cfg : Config)
    (reached : Reaches (SpanExport.step cfg) (Faultless cfg) {} state)
    (done : state.phase = .done) :
    ExportedOnce state ↔ ∀ batch, state.found ≠ some (.exporting batch) := by
  have sound : Sound state := by
    refine reached.invariant sound_init ?_
    intro before label after holds permitted stepped
    exact holds.step permitted stepped
  have ending := sound.ending (by rw [done]; rfl)
  rw [ending.exportedOnce_iff done]
  constructor
  · intro nothing batch found
    apply ending.nonempty batch found
    rw [← nothing, State.lost, found]
  · intro outside
    unfold State.lost
    split
    · rename_i batch found
      exact absurd found (outside batch)
    · rfl

/-- A queue that holds two spans, and batches of two. -/
def small : Config where
  maxsize := 2
  batchSize := 2

instance (cfg : Config) (state : State Nat) (label : Label Nat) :
    Decidable (Faultless cfg state label) :=
  match label with
  | .put span =>
      inferInstanceAs
        (Decidable ((putNowait cfg.maxsize state.queue span).2 = []))
  | .exportRaises => inferInstanceAs (Decidable False)
  | .cancel deadline => inferInstanceAs (Decidable (deadline = none))
  | .take | .timeout | .exportReturns | .shutdownReturns =>
      inferInstanceAs (Decidable True)

/-- Cancelled while it collects, with one span in hand and one queued. -/
theorem collected_spans_exported_once :
    ∃ state : State Nat,
      Reaches (step small) (Faultless small) {} state ∧
        ExportedOnce state ∧ state.promised = 4 ∧
        state.calls =
          [.exported [1, 2], .exported [3, 4], .shutdown] := by
  have ran :
      ((runWhere (step small) (Faultless small) {}
          [.put 1, .put 2, .take, .take, .exportReturns, .put 3, .take,
            .put 4, .cancel none, .exportReturns,
            .shutdownReturns]).map fun state =>
        decide (state.phase = .done ∧ state.found = some (.waiting [3]) ∧
          state.promised = 4 ∧
          state.calls =
            [.exported [1, 2], .exported [3, 4], .shutdown])) =
        some true := by
    decide
  rcases exists_reaches_of_run ran with ⟨state, run, seen⟩
  rcases of_decide_eq_true seen with ⟨done, found, promised, calls⟩
  refine ⟨state, run, ?_, promised, calls⟩
  refine (exported_once_iff small run done).mpr ?_
  intro batch inside
  rw [found] at inside
  cases inside

/-- Cancelled inside an export, the task loses the batch of two spans. -/
theorem interrupted_batch_not_exported :
    ¬ ∀ state : State Nat,
      Reaches (step small) (Faultless small) {} state →
        state.phase = .done → ExportedOnce state := by
  intro always
  have ran :
      ((runWhere (step small) (Faultless small) {}
          [.put 1, .put 2, .take, .take, .cancel none,
            .shutdownReturns]).map fun state =>
        decide (state.phase = .done ∧ state.promised = 2 ∧
          state.calls = [.interrupted [1, 2], .shutdown])) =
        some true := by
    decide
  rcases exists_reaches_of_run ran with ⟨state, run, seen⟩
  rcases of_decide_eq_true seen with ⟨done, promised, calls⟩
  have whole := (always state run done).whole
  rw [promised, calls] at whole
  simp [exported, Call.spans] at whole

end Civitas.Observability.SpanExport
