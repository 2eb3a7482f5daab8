import Civitas.Dynamic.State

/-!
# Dispatching one delivery

`_dispatch` and `_apply_error_action` of `process.py`: the handler, the
timeout around it and the routing of its reply stand in one `try` block inside
a loop that `on_error` can continue.

The code of the agent and the bus are given by what they do in each attempt
of the delivery.  A handler that exceeds its timeout is cancelled, and the
`TimeoutError` raised on its behalf is its failure.  While a callback or the
bus runs, other tasks may change the status of the agent; the status found
afterwards is part of the attempt.

An exception of `on_correction` or of the bus enters the retry machinery like
one of the handler.  The discipline the loop is for holds exactly of the
deliveries on which this does not happen.
-/

namespace Civitas.Lifecycle

open Civitas.Dynamic (ProcessStatus)

variable {Error Reply : Type}

/-! ## Callbacks -/

/-- `ErrorAction`. -/
inductive ErrorAction where
  | retry
  | skip
  | stop
  | escalate
deriving DecidableEq

/-- How a call of `handle` under its timeout ends. -/
inductive HandleOutcome (Error Reply : Type) where
  | returned (reply : Option Reply)
  | raised (error : Error)
  | timedOut (error : Error)
  | cancelled

/-- How `on_correction` or the routing of a reply ends. -/
inductive AwaitOutcome (Error : Type) where
  | returned
  | raised (error : Error)
  | cancelled

/-- How `on_error` ends. -/
inductive OnErrorOutcome (Error : Type) where
  | action (action : ErrorAction)
  | raised (error : Error)
  | cancelled

/-- What happens in one attempt, and the statuses found after it. -/
structure Attempt (Error Reply : Type) where
  handle : HandleOutcome Error Reply
  onCorrection : AwaitOutcome Error := .returned
  route : AwaitOutcome Error := .returned
  onError : OnErrorOutcome Error := .action .escalate
  afterBody : ProcessStatus := .running
  afterError : ProcessStatus := .running

/--
A message with what the code of the agent does in each attempt of it: whether
it is a correction, and whether it has a correlation id for a reply.
-/
structure Delivery (Error Reply : Type) where
  correction : Bool := false
  correlated : Bool := true
  attempt : Int := 0
  attempts : Nat → Attempt Error Reply

/-- The exception a call of `handle` fails with. -/
def HandleOutcome.failure :
    HandleOutcome Error Reply → Option Error
  | .raised error | .timedOut error => some error
  | .returned _ | .cancelled => none

/-! ## The loop -/

/-- The code that an exception comes from. -/
inductive Origin where
  | handle
  | onCorrection
  | route
deriving DecidableEq

/-- What an observer of the agent sees of a dispatch. -/
inductive Event (Error : Type) where
  | handled (attempt : Nat)
  | corrected (attempt : Nat)
  | routed (attempt : Nat)
  | consulted (attempt : Nat) (origin : Origin) (error : Error)
deriving DecidableEq

/-- How the `try` block of one attempt ends. -/
inductive BodyOutcome (Error : Type) where
  | done
  | failed (origin : Origin) (error : Error)
  | cancelled

/-- The end of an `await` that yields nothing. -/
def AwaitOutcome.toBody (origin : Origin) :
    AwaitOutcome Error → BodyOutcome Error
  | .returned => .done
  | .raised error => .failed origin error
  | .cancelled => .cancelled

/-- The `try` block: the events of an attempt and its outcome. -/
def Delivery.body
    (delivery : Delivery Error Reply) (attempt : Nat) :
    List (Event Error) × BodyOutcome Error :=
  if delivery.correction then
    ([.corrected attempt],
      (delivery.attempts attempt).onCorrection.toBody .onCorrection)
  else
    match (delivery.attempts attempt).handle with
    | .raised error | .timedOut error =>
        ([.handled attempt], .failed .handle error)
    | .cancelled => ([.handled attempt], .cancelled)
    | .returned none => ([.handled attempt], .done)
    | .returned (some _) =>
        if delivery.correlated then
          ([.handled attempt, .routed attempt],
            (delivery.attempts attempt).route.toBody .route)
        else ([.handled attempt], .done)

/-- How a dispatch ends; three endings raise an exception out of it. -/
inductive Ending (Error : Type) where
  | completed
  | cancelled
  | skipped (attempt : Nat)
  | stopped
  | dropped
  | escalated (error : Error)
  | exhausted (error : Error)
  | onErrorRaised (error : Error)

/-- The exception with which the agent crashes. -/
def Ending.crash : Ending Error → Option Error
  | .escalated error | .exhausted error => some error
  | _ => none

/-- The dispatch raises, so the message loop ends. -/
def Ending.propagates : Ending Error → Bool
  | .cancelled | .escalated _ | .exhausted _ | .onErrorRaised _ => true
  | .completed | .skipped _ | .stopped | .dropped => false

/-- A dispatch: what was seen of it, the status left and its end. -/
structure Dispatched (Error : Type) where
  events : List (Event Error)
  status : ProcessStatus
  ending : Ending Error

/-- Continue a dispatch after the events of an attempt. -/
def Dispatched.after
    (events : List (Event Error)) (rest : Dispatched Error) :
    Dispatched Error :=
  { rest with events := events ++ rest.events }

/-- The loop of `_dispatch` from an attempt, with `message.attempt`. -/
def Delivery.loop
    (delivery : Delivery Error Reply) (maxRetries : Int)
    (attempt : Nat) (counter : Int) : Dispatched Error :=
  let found := delivery.attempts attempt
  match delivery.body attempt with
  | (events, .done) =>
      { events := events
        status := found.afterBody
        ending := .completed }
  | (events, .cancelled) =>
      { events := events
        status := found.afterBody
        ending := .cancelled }
  | (events, .failed origin error) =>
      let events := events ++ [.consulted attempt origin error]
      match found.onError with
      | .raised other =>
          { events := events
            status := found.afterError
            ending := .onErrorRaised other }
      | .cancelled =>
          { events := events
            status := found.afterError
            ending := .cancelled }
      | .action .skip =>
          { events := events
            status := found.afterError
            ending := .skipped attempt }
      | .action .stop =>
          { events := events
            status := .stopping
            ending := .stopped }
      | .action .escalate =>
          { events := events
            status := .crashed
            ending := .escalated error }
      | .action .retry =>
          if maxRetries < counter + 1 then
            { events := events
              status := .crashed
              ending := .exhausted error }
          else if found.afterError ≠ .running then
            { events := events
              status := found.afterError
              ending := .dropped }
          else
            (delivery.loop maxRetries (attempt + 1) (counter + 1)).after
              events
termination_by (maxRetries - counter).toNat
decreasing_by omega

/-- `_dispatch`. -/
def Delivery.dispatch
    (delivery : Delivery Error Reply) (maxRetries : Int) :
    Dispatched Error :=
  delivery.loop maxRetries 0 delivery.attempt

/-- The message loop on the deliveries that follow each other in a mailbox. -/
def messageLoop (maxRetries : Int) :
    Nat → List (Delivery Error Reply) → List (Nat × Event Error)
  | _, [] => []
  | position, delivery :: rest =>
      let dispatched := delivery.dispatch maxRetries
      dispatched.events.map (Prod.mk position) ++
        if dispatched.ending.propagates then []
        else if dispatched.status = .running ∨
            dispatched.status = .suspended then
          messageLoop maxRetries (position + 1) rest
        else []

/-! ## The law and its condition -/

/-- The event is a call of `handle`. -/
def Event.isHandled : Event Error → Bool
  | .handled _ => true
  | _ => false

/-- The agent is crashed, and the exception leaves the dispatch. -/
def Dispatched.Crashes (run : Dispatched Error) (error : Error) : Prop :=
  run.status = .crashed ∧ run.ending.crash = some error ∧
    run.ending.propagates = true

/--
What `on_error` has answered to the error of an attempt is done; `counter` is
the value of `message.attempt` then.
-/
structure Delivery.Obeys
    (delivery : Delivery Error Reply) (maxRetries : Int)
    (attempt : Nat) (counter : Int) (error : Error)
    (run : Dispatched Error) : Prop where
  escalates :
    (delivery.attempts attempt).onError = .action .escalate →
      run.Crashes error
  exhausts :
    (delivery.attempts attempt).onError = .action .retry →
      maxRetries < counter + 1 → run.Crashes error
  skips :
    (delivery.attempts attempt).onError = .action .skip →
      run.status = (delivery.attempts attempt).afterError ∧
        run.ending.propagates = false

/-- What the retry machinery promises about a delivery. -/
structure Delivery.Disciplined
    (delivery : Delivery Error Reply) (maxRetries : Int) : Prop where
  calls :
    (((delivery.dispatch maxRetries).events.countP Event.isHandled : Nat) :
        Int) ≤
      max 1 (maxRetries - delivery.attempt + 1)
  recalled : ∀ attempt,
    .handled (attempt + 1) ∈ (delivery.dispatch maxRetries).events →
      (delivery.attempts attempt).handle.failure ≠ none
  consulted : ∀ attempt origin error,
    .consulted attempt origin error ∈
        (delivery.dispatch maxRetries).events →
      origin = .handle ∧
        (delivery.attempts attempt).handle.failure = some error
  obeys : ∀ attempt origin error,
    .consulted attempt origin error ∈
        (delivery.dispatch maxRetries).events →
      delivery.Obeys maxRetries attempt (delivery.attempt + attempt) error
        (delivery.dispatch maxRetries)
  crashes : ∀ error,
    (delivery.dispatch maxRetries).ending.crash = some error →
      (delivery.dispatch maxRetries).status = .crashed ∧
        (delivery.dispatch maxRetries).ending.propagates = true ∧
        ∃ attempt,
          (delivery.attempts attempt).handle.failure = some error
  skips : ∀ attempt,
    (delivery.dispatch maxRetries).ending = .skipped attempt →
      (delivery.dispatch maxRetries).status =
        (delivery.attempts attempt).afterError
  alone : ∀ earlier later : List (Delivery Error Reply),
    (messageLoop maxRetries 0 (earlier ++ delivery :: later)).filter
        (·.1 = earlier.length) <:+:
      messageLoop maxRetries 0 (earlier ++ delivery :: later)

/-- The attempt fails, `on_error` asks for another, and it is granted. -/
def Delivery.Retries
    (delivery : Delivery Error Reply) (maxRetries : Int)
    (attempt : Nat) : Prop :=
  (∃ origin error, (delivery.body attempt).2 = .failed origin error) ∧
    (delivery.attempts attempt).onError = .action .retry ∧
    delivery.attempt + attempt + 1 ≤ maxRetries ∧
    (delivery.attempts attempt).afterError = .running

/-- Whatever fails in an attempt that takes place fails in `handle`. -/
def Delivery.FailsInHandle
    (delivery : Delivery Error Reply) (maxRetries : Int) : Prop :=
  ∀ attempt, (∀ earlier < attempt, delivery.Retries maxRetries earlier) →
    ∀ origin error, (delivery.body attempt).2 = .failed origin error →
      origin = .handle

/-! ## One attempt -/

/-- What a dispatch that ends in an attempt has seen and how it ends. -/
structure Delivery.Ends
    (delivery : Delivery Error Reply) (maxRetries : Int)
    (attempt : Nat) (counter : Int) (run : Dispatched Error) : Prop where
  events :
    run.events = (delivery.body attempt).1 ∨
      ∃ origin error,
        (delivery.body attempt).2 = .failed origin error ∧
          run.events =
            (delivery.body attempt).1 ++ [.consulted attempt origin error]
  failed : ∀ origin error,
    (delivery.body attempt).2 = .failed origin error →
      run.events =
        (delivery.body attempt).1 ++ [.consulted attempt origin error]
  obeys : ∀ origin error,
    (delivery.body attempt).2 = .failed origin error →
      delivery.Obeys maxRetries attempt counter error run
  crashes : ∀ error, run.ending.crash = some error →
    run.status = .crashed ∧ run.ending.propagates = true ∧
      ∃ origin, (delivery.body attempt).2 = .failed origin error
  skips : ∀ skipped, run.ending = .skipped skipped →
    skipped = attempt ∧
      run.status = (delivery.attempts attempt).afterError

/-- A dispatch continued by another attempt. -/
structure Delivery.Continues
    (delivery : Delivery Error Reply) (maxRetries : Int)
    (attempt : Nat) (counter : Int)
    (origin : Origin) (error : Error) : Prop where
  failed : (delivery.body attempt).2 = .failed origin error
  asked : (delivery.attempts attempt).onError = .action .retry
  granted : counter + 1 ≤ maxRetries
  running : (delivery.attempts attempt).afterError = .running

theorem Delivery.not_continues_of_body
    {delivery : Delivery Error Reply} {maxRetries : Int}
    {attempt : Nat} {counter : Int}
    (sound : ∀ origin error,
      (delivery.body attempt).2 ≠ .failed origin error)
    (origin : Origin) (error : Error) :
    ¬ delivery.Continues maxRetries attempt counter origin error :=
  fun continued => sound origin error continued.failed

theorem Delivery.not_continues_of_onError
    {delivery : Delivery Error Reply} {maxRetries : Int}
    {attempt : Nat} {counter : Int}
    (other : (delivery.attempts attempt).onError ≠ .action .retry)
    (origin : Origin) (error : Error) :
    ¬ delivery.Continues maxRetries attempt counter origin error :=
  fun continued => other continued.asked

theorem Delivery.obeys_iff
    {delivery : Delivery Error Reply} {maxRetries : Int}
    {attempt : Nat} {counter : Int} {error : Error}
    {run : Dispatched Error} :
    delivery.Obeys maxRetries attempt counter error run ↔
      ((delivery.attempts attempt).onError = .action .escalate →
          run.Crashes error) ∧
        ((delivery.attempts attempt).onError = .action .retry →
          maxRetries < counter + 1 → run.Crashes error) ∧
        ((delivery.attempts attempt).onError = .action .skip →
          run.status = (delivery.attempts attempt).afterError ∧
            run.ending.propagates = false) := by
  constructor
  · intro obeys
    exact ⟨obeys.escalates, obeys.exhausts, obeys.skips⟩
  · rintro ⟨escalates, exhausts, skips⟩
    exact ⟨escalates, exhausts, skips⟩

/-- Each attempt ends the dispatch, or continues it by the next. -/
theorem Delivery.loop_cases
    (delivery : Delivery Error Reply) (maxRetries : Int)
    (attempt : Nat) (counter : Int) :
    (delivery.Ends maxRetries attempt counter
          (delivery.loop maxRetries attempt counter) ∧
        ∀ origin error,
          ¬ delivery.Continues maxRetries attempt counter origin error) ∨
      ∃ origin error,
        delivery.Continues maxRetries attempt counter origin error ∧
          delivery.loop maxRetries attempt counter =
            (delivery.loop maxRetries (attempt + 1) (counter + 1)).after
              ((delivery.body attempt).1 ++
                [.consulted attempt origin error]) := by
  rw [Delivery.loop]
  rcases made : delivery.body attempt with ⟨events, outcome⟩
  cases outcome with
  | done =>
      refine Or.inl ⟨?_, Delivery.not_continues_of_body (by simp [made])⟩
      constructor <;> simp [made, Ending.crash]
  | cancelled =>
      refine Or.inl ⟨?_, Delivery.not_continues_of_body (by simp [made])⟩
      constructor <;> simp [made, Ending.crash]
  | failed origin error =>
      by_cases asked :
          (delivery.attempts attempt).onError = .action .retry
      · by_cases exceeded : maxRetries < counter + 1
        · refine Or.inl ⟨?_, ?_⟩
          · constructor <;>
              simp [made, asked, exceeded, Ending.crash, Ending.propagates,
                Delivery.obeys_iff, Dispatched.Crashes]
          · intro _ _ continued
            have granted := continued.granted
            omega
        · by_cases running :
              (delivery.attempts attempt).afterError = .running
          · refine Or.inr ⟨origin, error, ?_, ?_⟩
            · exact ⟨by simp [made], asked, by omega, running⟩
            · simp [asked, exceeded, running]
          · refine Or.inl ⟨?_, fun _ _ continued =>
              running continued.running⟩
            constructor <;>
              simp [made, asked, exceeded, running, Ending.crash,
                Delivery.obeys_iff]
      · refine Or.inl ⟨?_, Delivery.not_continues_of_onError asked⟩
        cases found : (delivery.attempts attempt).onError with
        | raised other =>
            constructor <;>
              simp [made, found, Ending.crash, Delivery.obeys_iff]
        | cancelled =>
            constructor <;>
              simp [made, found, Ending.crash, Delivery.obeys_iff]
        | action action =>
            cases action with
            | retry => exact absurd found asked
            | skip =>
                constructor
                · simp [made]
                · simp [made]
                · simp [made, found, Ending.propagates, Delivery.obeys_iff]
                · simp [Ending.crash]
                · intro skipped same
                  cases same
                  exact ⟨rfl, rfl⟩
            | stop =>
                constructor <;>
                  simp [made, found, Ending.crash, Delivery.obeys_iff]
            | escalate =>
                constructor <;>
                  simp [made, found, Ending.crash, Ending.propagates,
                    Delivery.obeys_iff, Dispatched.Crashes]

/-- What holds of every last attempt and is kept by every further one. -/
theorem Delivery.loop_induction
    {delivery : Delivery Error Reply} {maxRetries : Int}
    {motive : Nat → Int → Dispatched Error → Prop}
    (ends : ∀ attempt counter run,
      delivery.Ends maxRetries attempt counter run →
      (∀ origin error,
        ¬ delivery.Continues maxRetries attempt counter origin error) →
      motive attempt counter run)
    (continues : ∀ attempt counter origin error run,
      delivery.Continues maxRetries attempt counter origin error →
      motive (attempt + 1) (counter + 1) run →
      motive attempt counter
        (run.after
          ((delivery.body attempt).1 ++
            [.consulted attempt origin error])))
    (attempt : Nat) (counter : Int) :
    motive attempt counter (delivery.loop maxRetries attempt counter) := by
  induction remaining : (maxRetries - counter).toNat using
      Nat.strong_induction_on generalizing attempt counter with
  | _ remaining ih =>
      rcases delivery.loop_cases maxRetries attempt counter with
        ⟨ended, last⟩ | ⟨origin, error, continued, next⟩
      · exact ends attempt counter _ ended last
      · rw [next]
        apply continues attempt counter origin error _ continued
        have granted := continued.granted
        exact ih _ (by omega) (attempt + 1) (counter + 1) rfl

/-! ## The events of an attempt -/

/-- An attempt calls `handle` at most once and names itself. -/
theorem Delivery.body_handled
    (delivery : Delivery Error Reply) (attempt : Nat) :
    (delivery.body attempt).1.countP Event.isHandled ≤ 1 ∧
      (∀ other, Event.handled other ∈ (delivery.body attempt).1 →
        other = attempt) ∧
      ∀ other origin error,
        Event.consulted other origin error ∉
          (delivery.body attempt).1 := by
  unfold Delivery.body
  split
  · simp [Event.isHandled]
  · split
    · simp [Event.isHandled]
    · simp [Event.isHandled]
    · simp [Event.isHandled]
    · simp [Event.isHandled]
    · split <;> simp [Event.isHandled, List.countP_cons]

theorem AwaitOutcome.toBody_failed
    {outcome : AwaitOutcome Error} {origin found : Origin} {error : Error}
    (failed : outcome.toBody origin = .failed found error) :
    found = origin := by
  cases outcome with
  | returned => cases failed
  | raised other =>
      cases failed
      rfl
  | cancelled => cases failed

/-- A failure in `handle` is the failure of that call. -/
theorem Delivery.failure_of_body
    {delivery : Delivery Error Reply} {attempt : Nat} {error : Error}
    (failed : (delivery.body attempt).2 = .failed .handle error) :
    (delivery.attempts attempt).handle.failure = some error := by
  unfold Delivery.body at failed
  split at failed
  · cases AwaitOutcome.toBody_failed failed
  · split at failed
    · rename_i raised
      cases failed
      rw [raised]
      rfl
    · rename_i timedOut
      cases failed
      rw [timedOut]
      rfl
    · cases failed
    · cases failed
    · split at failed
      · cases AwaitOutcome.toBody_failed failed
      · cases failed

/-- The last attempt of a dispatch shows its own events only. -/
theorem Delivery.Ends.mem_events
    {delivery : Delivery Error Reply} {maxRetries : Int} {attempt : Nat}
    {counter : Int} {run : Dispatched Error}
    (ended : delivery.Ends maxRetries attempt counter run)
    {event : Event Error} (seen : event ∈ run.events) :
    event ∈ (delivery.body attempt).1 ∨
      ∃ origin error,
        (delivery.body attempt).2 = .failed origin error ∧
          event = .consulted attempt origin error := by
  rcases ended.events with same | ⟨origin, error, failed, same⟩
  · rw [same] at seen
    exact Or.inl seen
  · rw [same] at seen
    rcases List.mem_append.mp seen with shown | consulted
    · exact Or.inl shown
    · exact Or.inr ⟨origin, error, failed, List.mem_singleton.mp consulted⟩

/-! ## Promises that hold of every delivery -/

/-- The handler is called once, and once more for each retry granted. -/
theorem Delivery.calls_loop
    (delivery : Delivery Error Reply) (maxRetries : Int)
    (attempt : Nat) (counter : Int) :
    (((delivery.loop maxRetries attempt counter).events.countP
        Event.isHandled : Nat) : Int) ≤
      max 1 (maxRetries - counter + 1) := by
  refine Delivery.loop_induction
    (motive := fun _ counter run =>
      ((run.events.countP Event.isHandled : Nat) : Int) ≤
        max 1 (maxRetries - counter + 1)) ?_ ?_ attempt counter
  · intro attempt counter run ended _
    have once := (delivery.body_handled attempt).1
    have few : run.events.countP Event.isHandled ≤ 1 := by
      rcases ended.events with same | ⟨origin, error, _, same⟩
      · rw [same]
        exact once
      · rw [same, List.countP_append]
        exact once
    omega
  · intro attempt counter origin error run continued bound
    have once := (delivery.body_handled attempt).1
    have granted := continued.granted
    have split :
        (run.after ((delivery.body attempt).1 ++
            [.consulted attempt origin error])).events.countP
              Event.isHandled =
          (delivery.body attempt).1.countP Event.isHandled +
            run.events.countP Event.isHandled := by
      simp [Dispatched.after, List.countP_append, Event.isHandled]
    rw [split]
    omega

/-- Every answer of `on_error` is obeyed. -/
theorem Delivery.obeys_loop
    (delivery : Delivery Error Reply) (maxRetries : Int)
    {attempt : Nat} {origin : Origin} {error : Error}
    (seen : .consulted attempt origin error ∈
      (delivery.dispatch maxRetries).events) :
    delivery.Obeys maxRetries attempt (delivery.attempt + attempt) error
      (delivery.dispatch maxRetries) := by
  revert seen
  refine @Delivery.loop_induction Error Reply delivery maxRetries
    (fun current counter run =>
      counter = delivery.attempt + current →
        .consulted attempt origin error ∈ run.events →
          delivery.Obeys maxRetries attempt (delivery.attempt + attempt)
            error run)
    ?_ ?_ 0 delivery.attempt (by simp)
  · intro current counter run ended _ counted seen
    rcases ended.mem_events seen with inside | ⟨_, _, failed, same⟩
    · exact absurd inside
        ((delivery.body_handled current).2.2 attempt origin error)
    · cases same
      rw [← counted]
      exact ended.obeys origin error failed
  · intro current counter other raised run continued ih counted seen
    rcases List.mem_append.mp seen with now | later
    · rcases List.mem_append.mp now with inside | consulted
      · exact absurd inside
          ((delivery.body_handled current).2.2 attempt origin error)
      · cases List.mem_singleton.mp consulted
        -- The dispatch goes on, so none of the three answers was given.
        constructor
        · intro escalates
          rw [continued.asked] at escalates
          cases escalates
        · intro _ exceeded
          have granted := continued.granted
          omega
        · intro skips
          rw [continued.asked] at skips
          cases skips
    · have obeys := ih (by rw [counted]; push_cast; omega) later
      exact ⟨obeys.escalates, obeys.exhausts, obeys.skips⟩

/-- A skipped message leaves the status as `on_error` left it. -/
theorem Delivery.skips_loop
    (delivery : Delivery Error Reply) (maxRetries : Int)
    (attempt : Nat) (counter : Int) (skipped : Nat)
    (ended : (delivery.loop maxRetries attempt counter).ending =
      .skipped skipped) :
    (delivery.loop maxRetries attempt counter).status =
      (delivery.attempts skipped).afterError := by
  revert ended
  refine Delivery.loop_induction
    (motive := fun _ _ run => run.ending = .skipped skipped →
      run.status = (delivery.attempts skipped).afterError)
    ?_ ?_ attempt counter
  · intro attempt counter run ended _ same
    rcases ended.skips skipped same with ⟨here, status⟩
    rw [here]
    exact status
  · intro attempt counter origin error run _ kept same
    exact kept same

/-- After its own events, a delivery is followed by the rest or by nothing. -/
theorem messageLoop_cons
    (maxRetries : Int) (position : Nat)
    (delivery : Delivery Error Reply) (rest : List (Delivery Error Reply)) :
    ∃ tail,
      messageLoop maxRetries position (delivery :: rest) =
          (delivery.dispatch maxRetries).events.map (Prod.mk position) ++
            tail ∧
        (tail = [] ∨ tail = messageLoop maxRetries (position + 1) rest) := by
  refine ⟨_, rfl, ?_⟩
  split
  · exact Or.inl rfl
  · split
    · exact Or.inr rfl
    · exact Or.inl rfl

theorem le_of_mem_messageLoop
    {maxRetries : Int} {position : Nat}
    {deliveries : List (Delivery Error Reply)}
    {event : Nat × Event Error}
    (seen : event ∈ messageLoop maxRetries position deliveries) :
    position ≤ event.1 := by
  induction deliveries generalizing position with
  | nil => cases seen
  | cons delivery rest ih =>
      rcases messageLoop_cons maxRetries position delivery rest with
        ⟨tail, whole, ends | goesOn⟩
      · rw [whole, ends, List.append_nil] at seen
        rcases List.mem_map.mp seen with ⟨_, _, same⟩
        rw [← same]
      · rw [whole, goesOn] at seen
        rcases List.mem_append.mp seen with own | later
        · rcases List.mem_map.mp own with ⟨_, _, same⟩
          rw [← same]
        · exact Nat.le_of_succ_le (ih later)

/-- The events of one position of a mailbox follow each other directly. -/
theorem filter_messageLoop
    (maxRetries : Int) (position number : Nat)
    (deliveries : List (Delivery Error Reply)) :
    (messageLoop maxRetries position deliveries).filter (·.1 = number) <:+:
      messageLoop maxRetries position deliveries := by
  induction deliveries generalizing position with
  | nil => exact List.infix_rfl
  | cons delivery rest ih =>
      rcases messageLoop_cons maxRetries position delivery rest with
        ⟨tail, whole, shape⟩
      have later : tail.filter (·.1 = number) <:+: tail ∧
          ∀ event ∈ tail, position < event.1 := by
        rcases shape with ends | goesOn
        · rw [ends]
          exact ⟨List.infix_rfl, by simp⟩
        · rw [goesOn]
          exact ⟨ih (position + 1), fun event => le_of_mem_messageLoop⟩
      rw [whole, List.filter_append]
      by_cases here : number = position
      · have own :
            ((delivery.dispatch maxRetries).events.map
                (Prod.mk position)).filter (·.1 = number) =
              (delivery.dispatch maxRetries).events.map
                (Prod.mk position) := by
          simp [List.filter_eq_self, here]
        have none : tail.filter (·.1 = number) = [] := by
          rw [List.filter_eq_nil_iff]
          intro event member same
          have beyond := later.2 event member
          rw [decide_eq_true_eq] at same
          omega
        rw [own, none, List.append_nil]
        exact (List.prefix_append _ _).isInfix
      · have own :
            ((delivery.dispatch maxRetries).events.map
                (Prod.mk position)).filter (·.1 = number) = [] := by
          simp [List.filter_eq_nil_iff, Ne.symm here]
        rw [own, List.nil_append]
        exact later.1.trans (List.suffix_append _ _).isInfix

/-! ## Promises that need failures to come from the handler -/

/-- What a dispatch from an attempt on shows of its handler. -/
structure Delivery.Sound
    (delivery : Delivery Error Reply) (attempt : Nat)
    (run : Dispatched Error) : Prop where
  named : ∀ other, .handled other ∈ run.events → attempt ≤ other
  recalled : ∀ other, attempt ≤ other →
    .handled (other + 1) ∈ run.events →
      (delivery.attempts other).handle.failure ≠ none
  consulted : ∀ other origin error,
    .consulted other origin error ∈ run.events →
      origin = .handle ∧
        (delivery.attempts other).handle.failure = some error
  crashes : ∀ error, run.ending.crash = some error →
    run.status = .crashed ∧ run.ending.propagates = true ∧
      ∃ other, (delivery.attempts other).handle.failure = some error

/-- A last attempt that fails in the handler, if at all, is sound. -/
theorem Delivery.Ends.sound
    {delivery : Delivery Error Reply} {maxRetries : Int} {attempt : Nat}
    {counter : Int} {run : Dispatched Error}
    (ended : delivery.Ends maxRetries attempt counter run)
    (own : ∀ origin error,
      (delivery.body attempt).2 = .failed origin error → origin = .handle) :
    delivery.Sound attempt run := by
  have shown := delivery.body_handled attempt
  have called : ∀ other, .handled other ∈ run.events →
      other = attempt := by
    intro other seen
    rcases ended.mem_events seen with inside | ⟨_, _, _, same⟩
    · exact shown.2.1 other inside
    · cases same
  constructor
  · intro other seen
    exact Nat.le_of_eq (called other seen).symm
  · intro other reached seen
    have same := called (other + 1) seen
    omega
  · intro other origin error seen
    rcases ended.mem_events seen with inside | ⟨_, _, failed, same⟩
    · exact absurd inside (shown.2.2 other origin error)
    · cases same
      have handled := own origin error failed
      subst handled
      exact ⟨rfl, Delivery.failure_of_body failed⟩
  · intro error crashed
    rcases ended.crashes error crashed with
      ⟨status, propagates, origin, failed⟩
    have handled := own origin error failed
    subst handled
    exact
      ⟨status, propagates, attempt, Delivery.failure_of_body failed⟩

/-- A further attempt after a failure of the handler keeps soundness. -/
theorem Delivery.Sound.after
    {delivery : Delivery Error Reply} {attempt : Nat} {error : Error}
    {run : Dispatched Error} (sound : delivery.Sound (attempt + 1) run)
    (failed : (delivery.body attempt).2 = .failed .handle error) :
    delivery.Sound attempt
      (run.after
        ((delivery.body attempt).1 ++
          [.consulted attempt .handle error])) := by
  have shown := delivery.body_handled attempt
  constructor
  · intro other seen
    rcases List.mem_append.mp seen with now | later
    · rcases List.mem_append.mp now with inside | consulted
      · exact Nat.le_of_eq (shown.2.1 other inside).symm
      · simp at consulted
    · exact Nat.le_of_succ_le (sound.named other later)
  · intro other reached seen
    rcases List.mem_append.mp seen with now | later
    · rcases List.mem_append.mp now with inside | consulted
      · have same := shown.2.1 (other + 1) inside
        omega
      · simp at consulted
    · rcases Nat.eq_or_lt_of_le reached with same | beyond
      · rw [← same, Delivery.failure_of_body failed]
        exact Option.some_ne_none error
      · exact sound.recalled other beyond later
  · intro other origin found seen
    rcases List.mem_append.mp seen with now | later
    · rcases List.mem_append.mp now with inside | consulted
      · exact absurd inside (shown.2.2 other origin found)
      · cases List.mem_singleton.mp consulted
        exact ⟨rfl, Delivery.failure_of_body failed⟩
    · exact sound.consulted other origin found later
  · exact sound.crashes

/-- Where failures come from the handler, the whole dispatch is sound. -/
theorem Delivery.FailsInHandle.sound
    {delivery : Delivery Error Reply} {maxRetries : Int}
    (own : delivery.FailsInHandle maxRetries) :
    delivery.Sound 0 (delivery.dispatch maxRetries) := by
  refine @Delivery.loop_induction Error Reply delivery maxRetries
    (fun attempt counter run =>
      counter = delivery.attempt + attempt →
        (∀ earlier < attempt, delivery.Retries maxRetries earlier) →
          delivery.Sound attempt run)
    ?_ ?_ 0 delivery.attempt (by simp) (by simp)
  · intro attempt counter run ended _ _ reached
    exact ended.sound (own attempt reached)
  · intro attempt counter origin error run continued ih counted reached
    have handled := own attempt reached origin error continued.failed
    subst handled
    apply Delivery.Sound.after _ continued.failed
    apply ih
    · rw [counted]
      push_cast
      omega
    · intro earlier before
      rcases Nat.lt_succ_iff_lt_or_eq.mp before with old | same
      · exact reached earlier old
      · rw [same]
        refine
          ⟨⟨.handle, error, continued.failed⟩, continued.asked, ?_,
            continued.running⟩
        rw [← counted]
        exact continued.granted

/-- Every attempt that takes place and fails has `on_error` consulted. -/
theorem Delivery.consulted_of_failed
    {delivery : Delivery Error Reply} {maxRetries : Int}
    {attempt : Nat} {origin : Origin} {error : Error}
    (reached : ∀ earlier < attempt, delivery.Retries maxRetries earlier)
    (failed : (delivery.body attempt).2 = .failed origin error) :
    .consulted attempt origin error ∈
      (delivery.dispatch maxRetries).events := by
  refine @Delivery.loop_induction Error Reply delivery maxRetries
    (fun current counter run =>
      counter = delivery.attempt + current → current ≤ attempt →
        .consulted attempt origin error ∈ run.events)
    ?_ ?_ 0 delivery.attempt (by simp) (Nat.zero_le _)
  · intro current counter run ended last counted below
    rcases Nat.eq_or_lt_of_le below with same | before
    · rw [← same] at failed
      rw [ended.failed origin error failed, ← same]
      simp
    · rcases reached current before with
        ⟨⟨other, raised, bodyFailed⟩, asked, granted, running⟩
      rw [← counted] at granted
      exact absurd ⟨bodyFailed, asked, granted, running⟩ (last other raised)
  · intro current counter other raised run continued ih counted below
    rcases Nat.eq_or_lt_of_le below with same | before
    · rw [← same, continued.failed] at failed
      cases failed
      rw [← same]
      simp [Dispatched.after]
    · refine List.mem_append_right _ (ih ?_ before)
      rw [counted]
      push_cast
      omega

/-! ## The result -/

/-- A handler that always completes, with replies that cannot be routed. -/
def unroutableReply : Delivery String Unit where
  attempts := fun _ =>
    { handle := .returned (some ())
      route := .raised "No agent registered"
      onError := .action .retry }

end Civitas.Lifecycle
