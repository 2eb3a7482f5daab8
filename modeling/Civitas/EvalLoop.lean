import Civitas.Lifecycle.Dispatching
import Civitas.PyText
import Civitas.PyValue
import Civitas.SlidingWindow
import Civitas.Transition
import Mathlib.Algebra.Order.Ring.Rat
import Mathlib.Logic.Function.Basic
import Mathlib.Tactic.Linarith

/-!
# The evaluation loop

`emit_eval` of `process.py` and `EvalAgent` of `evalloop.py`.  An event
travels as the payload of a message: the name of the agent and the type of the
event stand beside the keys of the agent's own payload, and the evaluating
agent reads the target of its correction from that dictionary.

The bus raises for a target that it cannot route to.  That exception leaves
`handle` like one of the policy or of the code of the agent, and the default
`on_error` escalates it.

The policy, the exporters, the clock and the bus are given step by step, so a
run is any sequence of events under any policy.
-/

namespace Civitas.EvalLoop

open Civitas.PyText
open Civitas.PyValue
open Civitas.SlidingWindow
open Civitas.Transition

/-! ## Events and corrections -/

/-- What the evaluating agent uses of a message. -/
structure Message where
  type : String := "civitas.eval.event"
  sender : Value
  payload : Dict
  id : String := ""
  traceId : String := ""
  spanId : String := ""

/-- The payload with which `emit_eval` sends an event. -/
def emitEval (name eventType : String) (payload : Dict) : Dict :=
  merge
    (dictOf [("agent_name", .str name), ("event_type", .str eventType)])
    payload

/-- `EvalEvent`. -/
structure EvalEvent where
  agentName : Value
  eventType : Value
  payload : Dict
  traceId : String
  messageId : String

/-- The event that `handle` makes of a message. -/
def Message.event (message : Message) : EvalEvent where
  agentName := field message.payload "agent_name" message.sender
  eventType := field message.payload "event_type" (.str "")
  payload := message.payload
  traceId := message.traceId
  messageId := message.id

/-- `CorrectionSignal`. -/
structure CorrectionSignal where
  severity : String
  reason : String
  payload : Dict := []

/-- The message of a correction; its recipient is whatever was named. -/
structure Correction where
  type : String
  sender : String
  recipient : Value
  payload : Dict
  traceId : String
  parentSpanId : Option String
  priority : Nat

/-- How `on_eval_event` ends. -/
inductive PolicyOutcome where
  | returned (signal : Option CorrectionSignal)
  | raised

/-! ## The bus -/

/-- What the bus finds when it routes a correction. -/
structure Bus where
  registered : String → Bool
  hasReplyAddress : String → Bool
  /-- Serializer and transport take the message. -/
  transmits : Correction → Bool

/-- `route` finds an address for the recipient. -/
def Bus.routable (bus : Bus) : Value → Bool
  | .str name =>
      bus.registered name || bus.hasReplyAddress name ||
        startsWith name "_reply."
  -- no entry has such a name, and only a text has `startswith`
  | _ => false

/-- The code that an exception of `handle` comes from. -/
inductive Crash where
  /-- `on_eval_event` -/
  | policy
  /-- the dictionary of time stamps, on an unhashable name -/
  | content
  /-- `route`, which finds no address -/
  | routing
  | transport
deriving DecidableEq

/-- `route`: the exception, if it raises one. -/
def Bus.route (bus : Bus) (correction : Correction) : Option Crash :=
  if bus.routable correction.recipient then
    if bus.transmits correction then none else some .transport
  else some .routing

/-! ## The evaluating agent -/

/-- `EvalAgent`, with `_correction_timestamps`. -/
structure EvalAgent where
  name : String := "eval_agent"
  maxCorrections : Int := 10
  windowSeconds : ℚ := 60
  correctionTimestamps : Key → List ℚ := fun _ => []

/-- What `handle` logs. -/
inductive Warning where
  | exporterFailed (position : Nat)
  | rateLimited
deriving DecidableEq

/-- How `handle` ends. -/
inductive Outcome where
  /-- the message is no event, or the policy asks for no correction -/
  | idle
  | limited
  /-- the agent is not wired to a bus -/
  | unsent
  | sent (correction : Correction)
  | raised (crash : Crash)

/-- What `handle` meets with: the message, and the answers it gets. -/
structure Encounter where
  message : Message
  exporters : List (EvalEvent → Bool) := []
  policy : EvalEvent → PolicyOutcome
  now : ℚ
  bus : Option Bus

namespace EvalAgent

variable (agent : EvalAgent)

/-- The exporters, one after the other; the errors they raise are logged. -/
def runExporters (event : EvalEvent) :
    Nat → List (EvalEvent → Bool) → List Warning
  | _, [] => []
  | position, exporter :: rest =>
      (if exporter event then [] else [.exporterFailed position]) ++
        runExporters event (position + 1) rest

/-- `_check_rate_limit` for a target that is hashable. -/
def checkRateLimit (target : Key) (now : ℚ) : EvalAgent × Bool :=
  let recent := (agent.correctionTimestamps target).filter fun time =>
    now - time < agent.windowSeconds
  let allowed : Bool := (recent.length : Int) < agent.maxCorrections
  let kept := if allowed then recent ++ [now] else recent
  ({ agent with
      correctionTimestamps :=
        Function.update agent.correctionTimestamps target kept },
    allowed)

/-- The message of `_send_correction`. -/
def correction
    (target : Value) (signal : CorrectionSignal) (original : Message) :
    Correction where
  type :=
    if signal.severity = "halt" then "civitas.eval.halt"
    else "civitas.eval.correction"
  sender := agent.name
  recipient := target
  payload :=
    merge
      (dictOf
        [("severity", .str signal.severity), ("reason", .str signal.reason)])
      signal.payload
  traceId := original.traceId
  parentSpanId :=
    if original.spanId = "" then none else some original.spanId
  priority := if signal.severity = "halt" then 1 else 0

/-- `_send_correction`. -/
def sendCorrection
    (bus : Option Bus) (target : Value) (signal : CorrectionSignal)
    (original : Message) : Outcome :=
  match bus with
  | none => .unsent
  | some bus =>
      let message := agent.correction target signal original
      match bus.route message with
      | none => .sent message
      | some crash => .raised crash

/-- `handle`. -/
def handle (encounter : Encounter) : EvalAgent × List Warning × Outcome :=
  if encounter.message.type = "civitas.eval.event" then
    let event := encounter.message.event
    let warnings := runExporters event 0 encounter.exporters
    match encounter.policy event with
    | .raised => (agent, warnings, .raised .policy)
    | .returned none => (agent, warnings, .idle)
    | .returned (some signal) =>
        match event.agentName.key? with
        | none => (agent, warnings, .raised .content)
        | some target =>
            match agent.checkRateLimit target encounter.now with
            | (after, false) => (after, warnings ++ [.rateLimited], .limited)
            | (after, true) =>
                (after, warnings,
                  after.sendCorrection encounter.bus event.agentName signal
                    encounter.message)
  else (agent, [], .idle)

end EvalAgent

/-- The exception that leaves `handle`. -/
def Outcome.crash : Outcome → Option Crash
  | .raised crash => some crash
  | _ => none

/-- The delivery of an event, with the `on_error` that no policy replaces. -/
def Outcome.delivery (outcome : Outcome) : Lifecycle.Delivery Crash Unit where
  attempts _ :=
    { handle :=
        match outcome.crash with
        | none => .returned none
        | some crash => .raised crash }

/-- The agent crashes of what leaves `handle`, and of nothing else. -/
theorem Outcome.crash_dispatch (outcome : Outcome) (maxRetries : Int) :
    (outcome.delivery.dispatch maxRetries).ending.crash = outcome.crash := by
  unfold Lifecycle.Delivery.dispatch
  rw [Lifecycle.Delivery.loop]
  cases outcome <;> rfl

/-! ## Runs -/

/-- Where a message of the mailbox comes from. -/
inductive Origin where
  /-- `emit_eval(event_type, payload)` of the agent of that name -/
  | emitted
      (name eventType : String) (payload : Dict)
      (id traceId spanId : String)
  | posted (message : Message)

/-- The message that arrives. -/
def Origin.message : Origin → Message
  | .emitted name eventType payload id traceId spanId =>
      { sender := .str name
        payload := emitEval name eventType payload
        id := id
        traceId := traceId
        spanId := spanId }
  | .posted message => message

/-- The agent that emitted the event. -/
def Origin.emitter? : Origin → Option String
  | .emitted name .. => some name
  | .posted _ => none

/-- A message is handled, or a crashed agent is started afresh. -/
inductive Label where
  | deliver
      (origin : Origin) (exporters : List (EvalEvent → Bool))
      (policy : EvalEvent → PolicyOutcome) (now : ℚ) (bus : Option Bus)
  | restart (now : ℚ)

/-- A correction that was sent, by whom its event was emitted, and when. -/
structure Sent where
  emitter : Option String
  time : ℚ
  correction : Correction

/-- The agent, the clock it has read, its crash and what it has sent. -/
structure State where
  agent : EvalAgent
  clock : Option ℚ := none
  crashed : Option Crash := none
  sent : List Sent := []

/-- The correction of an outcome. -/
def Outcome.sent? (origin : Origin) (now : ℚ) : Outcome → List Sent
  | .sent correction =>
      [{ emitter := origin.emitter?, time := now, correction := correction }]
  | _ => []

/-- One message to the agent; an agent that has crashed takes none. -/
def step (state : State) : Label → Option State
  | .deliver origin exporters policy now bus =>
      match state.crashed with
      | some _ => none
      | none =>
          let handled := state.agent.handle
            { message := origin.message
              exporters := exporters
              policy := policy
              now := now
              bus := bus }
          let outcome := handled.2.2
          some
            { agent := handled.1
              clock := some now
              crashed := outcome.crash
              sent := state.sent ++ outcome.sent? origin now }
  | .restart now =>
      match state.crashed with
      | some _ =>
          -- the supervisor builds the agent again from its arguments
          some
            { state with
              agent := { state.agent with correctionTimestamps := fun _ => [] }
              clock := some now
              crashed := none }
      | none => none

/-! ## What is expected -/

/-- How many corrections were sent to a target within a span of time. -/
def sentWithin
    (state : State) (target : String) (span : ℚ → Bool) : Nat :=
  state.sent.countP fun sent =>
    decide (sent.correction.recipient.key? = some (.str target)) &&
      span sent.time

/--
No event has harmed the agent, every correction for an emitted event went to
its emitter, and no window of the limit's length holds too many corrections.
-/
structure Contained (state : State) : Prop where
  unharmed :
    state.crashed ≠ some .content ∧ state.crashed ≠ some .routing
  attributed : ∀ sent ∈ state.sent, ∀ name,
    sent.emitter = some name → sent.correction.recipient = .str name
  boundedFrom : ∀ target first,
    (sentWithin state target
        (fun time =>
          decide
            (first ≤ time ∧ time < first + state.agent.windowSeconds)) :
        Int) ≤
      max 0 state.agent.maxCorrections
  boundedUpto : ∀ target first,
    (sentWithin state target
        (fun time =>
          decide
            (first < time ∧ time ≤ first + state.agent.windowSeconds)) :
        Int) ≤
      max 0 state.agent.maxCorrections

/-- The payload given to `emit_eval` names no other agent. -/
def Origin.Honest : Origin → Prop
  | .emitted name _ payload .. =>
      ∀ value, field? payload "agent_name" = some value → value = .str name
  | .posted _ => True

/--
When the policy asks for a correction, the event names a hashable target; and
when the limit admits one and there is a bus, the bus can route to it and the
payload of an emitted event names no other agent.
-/
def WellTargeted
    (agent : EvalAgent) (origin : Origin)
    (policy : EvalEvent → PolicyOutcome) (now : ℚ)
    (bus : Option Bus) : Prop :=
  let message := origin.message
  let target := message.event.agentName
  message.type = "civitas.eval.event" →
    ∀ signal, policy message.event = .returned (some signal) →
      ∃ key, target.key? = some key ∧
        ((agent.checkRateLimit key now).2 = true →
          ∀ found, bus = some found →
            found.routable target = true ∧
              (found.transmits (agent.correction target signal message) =
                  true →
                origin.Honest))

/-- The clock does not go back. -/
def State.inTime (state : State) (now : ℚ) : Prop :=
  ∀ last, state.clock = some last → last ≤ now

/--
Events are well targeted, the clock does not go back, and the agent is not
started afresh while a correction that it has sent still counts.
-/
def Harmless (state : State) : Label → Prop
  | .deliver origin _ policy now bus =>
      state.inTime now ∧ WellTargeted state.agent origin policy now bus
  | .restart now =>
      state.inTime now ∧
        ∀ sent ∈ state.sent, state.agent.windowSeconds ≤ now - sent.time

/-! ## One delivery -/

/-- The corrections that count against a new one. -/
def correctionWindow (windowSeconds : ℚ) : Window ℚ where
  counts now earlier := now - earlier < windowSeconds
  antitone := by
    intro now later earlier order counted
    have recent : later - earlier < windowSeconds :=
      of_decide_eq_true counted
    exact decide_eq_true ((sub_le_sub_right order _).trans_lt recent)

namespace EvalAgent

variable {agent : EvalAgent}

/-- The corrections that count against a new one of an agent. -/
def window (agent : EvalAgent) : Window ℚ :=
  correctionWindow agent.windowSeconds

theorem checkRateLimit_allowed (target : Key) (now : ℚ) :
    (agent.checkRateLimit target now).2 =
      agent.window.admits agent.maxCorrections now
        (agent.correctionTimestamps target) :=
  rfl

theorem checkRateLimit_timestamps (target : Key) (now : ℚ) :
    (agent.checkRateLimit target now).1.correctionTimestamps =
      Function.update agent.correctionTimestamps target
        (agent.window.request agent.maxCorrections now
          (agent.correctionTimestamps target)) :=
  rfl

/-- Counting a correction does not change what is sent. -/
theorem sendCorrection_checkRateLimit (key : Key) (now : ℚ) :
    (agent.checkRateLimit key now).1.sendCorrection = agent.sendCorrection :=
  rfl

/-- What a call of `handle` does, by what the policy asks for. -/
inductive Handles (agent : EvalAgent) (encounter : Encounter) :
    EvalAgent → Outcome → Prop where
  | quiet {outcome : Outcome} :
      (∀ signal, encounter.message.type = "civitas.eval.event" →
        encounter.policy encounter.message.event ≠
          .returned (some signal)) →
      outcome = .idle ∨ outcome = .raised .policy →
        Handles agent encounter agent outcome
  | unhashable {signal : CorrectionSignal} :
      encounter.message.type = "civitas.eval.event" →
      encounter.policy encounter.message.event = .returned (some signal) →
      encounter.message.event.agentName.key? = none →
        Handles agent encounter agent (.raised .content)
  | limited {signal : CorrectionSignal} {key : Key} :
      encounter.message.type = "civitas.eval.event" →
      encounter.policy encounter.message.event = .returned (some signal) →
      encounter.message.event.agentName.key? = some key →
      (agent.checkRateLimit key encounter.now).2 = false →
        Handles agent encounter
          (agent.checkRateLimit key encounter.now).1 .limited
  | admitted {signal : CorrectionSignal} {key : Key} :
      encounter.message.type = "civitas.eval.event" →
      encounter.policy encounter.message.event = .returned (some signal) →
      encounter.message.event.agentName.key? = some key →
      (agent.checkRateLimit key encounter.now).2 = true →
        Handles agent encounter
          (agent.checkRateLimit key encounter.now).1
          (agent.sendCorrection encounter.bus
            encounter.message.event.agentName signal encounter.message)

theorem handles_handle (agent : EvalAgent) (encounter : Encounter) :
    Handles agent encounter
      (agent.handle encounter).1 (agent.handle encounter).2.2 := by
  unfold EvalAgent.handle
  by_cases isEvent : encounter.message.type = "civitas.eval.event"
  · rw [if_pos isEvent]
    dsimp only
    cases asked : encounter.policy encounter.message.event with
    | raised => exact .quiet (by simp [asked]) (.inr rfl)
    | returned signal =>
        cases signal with
        | none => exact .quiet (by simp [asked]) (.inl rfl)
        | some signal =>
            dsimp only
            cases named : encounter.message.event.agentName.key? with
            | none => exact .unhashable isEvent asked named
            | some key =>
                dsimp only
                rcases checked : agent.checkRateLimit key encounter.now with
                  ⟨after, _ | _⟩
                · have result := Handles.limited isEvent asked named
                    (congrArg Prod.snd checked)
                  rw [checked] at result
                  exact result
                · have result := Handles.admitted isEvent asked named
                    (congrArg Prod.snd checked)
                  rw [← sendCorrection_checkRateLimit key encounter.now,
                    checked] at result
                  exact result
  · rw [if_neg isEvent]
    exact .quiet (fun _ event => absurd event isEvent) (.inl rfl)

/-- How a correction leaves the agent. -/
theorem sendCorrection_cases
    (bus : Option Bus) (target : Value) (signal : CorrectionSignal)
    (original : Message) :
    (bus = none ∧
        agent.sendCorrection bus target signal original = .unsent) ∨
      ∃ found, bus = some found ∧
        ((found.routable target = false ∧
            agent.sendCorrection bus target signal original =
              .raised .routing) ∨
          (found.routable target = true ∧
            found.transmits (agent.correction target signal original) =
              false ∧
            agent.sendCorrection bus target signal original =
              .raised .transport) ∨
          (found.routable target = true ∧
            found.transmits (agent.correction target signal original) =
              true ∧
            agent.sendCorrection bus target signal original =
              .sent (agent.correction target signal original))) := by
  cases bus with
  | none => exact .inl ⟨rfl, rfl⟩
  | some found =>
      refine .inr ⟨found, rfl, ?_⟩
      have recipient :
          (agent.correction target signal original).recipient = target := rfl
      simp only [EvalAgent.sendCorrection, Bus.route, recipient]
      cases found.routable target with
      | false => exact .inl ⟨rfl, rfl⟩
      | true =>
          cases found.transmits (agent.correction target signal original) with
          | false => exact .inr (.inl ⟨rfl, rfl, rfl⟩)
          | true => exact .inr (.inr ⟨rfl, rfl, rfl⟩)

end EvalAgent

/-! ## What the agent remembers -/

/-- The times of the corrections sent to a target. -/
def sentTo (sent : List Sent) (target : String) : List ℚ :=
  (sent.filter fun sent =>
    decide (sent.correction.recipient.key? = some (.str target))).map
      Sent.time

theorem sentTo_append (first second : List Sent) (target : String) :
    sentTo (first ++ second) target =
      sentTo first target ++ sentTo second target := by
  simp [sentTo]

theorem sentWithin_eq_countP
    (state : State) (target : String) (span : ℚ → Bool) :
    sentWithin state target span =
      (sentTo state.sent target).countP span := by
  unfold sentWithin sentTo
  rw [List.countP_map, List.countP_filter]
  apply List.countP_congr
  intro sent _
  simp [and_comm]

/--
What the agent remembers of a target stands for a list of grants, and every
correction sent to the target is one of them.
-/
structure Granted
    (state : State) (target : String) (granted : List ℚ) : Prop where
  agree : ∀ since, state.inTime since →
    state.agent.window.Agree since
      (state.agent.correctionTimestamps (.str target)) granted
  orderly :
    state.agent.window.Orderly state.agent.maxCorrections granted
  past : ∀ since, state.inTime since → ∀ time ∈ granted, time ≤ since
  sent : (sentTo state.sent target).Sublist granted

variable {state after : State} {target : String} {now : ℚ}

/-- A span of less than a window holds no more corrections than the limit. -/
theorem Granted.sentWithin_le
    {granted : List ℚ} (held : Granted state target granted)
    {span : ℚ → Bool}
    (short : ∀ earlier later, span earlier = true → span later = true →
      later - earlier < state.agent.windowSeconds) :
    (sentWithin state target span : Int) ≤
      max 0 state.agent.maxCorrections := by
  have count :
      sentWithin state target span ≤ granted.countP span := by
    rw [sentWithin_eq_countP]
    exact held.sent.countP_le
  have spans : state.agent.window.Spans span := by
    intro earlier later inside last _
    exact decide_eq_true (short earlier later inside last)
  have bounded := held.orderly.count_le spans
  omega

/-- Nothing granted, nothing remembered and nothing sent. -/
theorem granted_of_quiet
    {granted : List ℚ} (held : Granted state target granted)
    {next : State}
    (agent : next.agent = state.agent)
    (order : ∀ since, next.inTime since → state.inTime since)
    (sent : sentTo next.sent target = sentTo state.sent target) :
    Granted next target granted where
  agree since later := by
    rw [agent]
    exact held.agree since (order since later)
  orderly := by
    rw [agent]
    exact held.orderly
  past since later := held.past since (order since later)
  sent := by
    rw [sent]
    exact held.sent

/-- A correction that is counted is granted when there is room for it. -/
theorem Granted.checked
    {granted : List ℚ} (held : Granted state target granted)
    (order : state.inTime now) {key : Key} {next : State}
    (agent : next.agent = (state.agent.checkRateLimit key now).1)
    (clock : next.clock = some now)
    (sent : sentTo next.sent target = sentTo state.sent target ∨
      sentTo next.sent target = sentTo state.sent target ++ [now] ∧
        key = .str target ∧
        (state.agent.checkRateLimit key now).2 = true) :
    ∃ granted, Granted next target granted := by
  have later : ∀ since, next.inTime since → now ≤ since :=
    fun since inTime => inTime now clock
  by_cases own : key = .str target
  · subst own
    have admitted :=
      state.agent.checkRateLimit_allowed (.str target) now
    have known := held.agree now order
    refine
      ⟨state.agent.window.grant state.agent.maxCorrections now
        (state.agent.correctionTimestamps (.str target)) granted,
        ?_, ?_, ?_, ?_⟩
    · intro since inTime
      rw [agent, EvalAgent.checkRateLimit_timestamps, Function.update_self]
      exact (known.request le_rfl).mono (later since inTime)
    · rw [agent]
      exact held.orderly.grant (held.past now order) known le_rfl
    · intro since inTime time member
      unfold Window.grant at member
      split at member
      · rcases List.mem_append.mp member with old | new
        · exact (held.past now order time old).trans (later since inTime)
        · rw [List.mem_singleton.mp new]
          exact later since inTime
      · exact (held.past now order time member).trans (later since inTime)
    · unfold Window.grant
      rcases sent with same | ⟨added, -, room⟩
      · rw [same]
        split
        · exact held.sent.trans (List.sublist_append_left _ _)
        · exact held.sent
      · rw [added, if_pos (admitted ▸ room)]
        exact held.sent.append_right [now]
  · have same : sentTo next.sent target = sentTo state.sent target := by
      rcases sent with same | ⟨-, named, -⟩
      · exact same
      · exact absurd named own
    refine ⟨granted, ?_, ?_, ?_, ?_⟩
    · intro since inTime
      rw [agent, EvalAgent.checkRateLimit_timestamps,
        Function.update_of_ne (Ne.symm own)]
      exact (held.agree now order).mono (later since inTime)
    · rw [agent]
      exact held.orderly
    · intro since inTime time member
      exact (held.past now order time member).trans (later since inTime)
    · rw [same]
      exact held.sent

/-! ## The law, step by step -/

/-- An honest payload leaves the emitter its own name. -/
theorem Origin.agentName_of_honest
    {origin : Origin} (honest : origin.Honest) {name : String}
    (emitter : origin.emitter? = some name) :
    origin.message.event.agentName = .str name := by
  cases origin with
  | posted message => cases emitter
  | emitted agent eventType payload id traceId spanId =>
      cases emitter
      show field (emitEval name eventType payload) "agent_name" _ = _
      rw [field, emitEval, field?_merge]
      cases own : field? payload "agent_name" with
      | none => rfl
      | some value =>
          rw [honest value own]
          rfl

/-- A payload that is not honest names somebody else. -/
theorem Origin.honest_of_agentName
    {origin : Origin}
    (named : ∀ name, origin.emitter? = some name →
      origin.message.event.agentName = .str name) :
    origin.Honest := by
  cases origin with
  | posted message => trivial
  | emitted agent eventType payload id traceId spanId =>
      intro value own
      have target := named agent rfl
      change field (emitEval agent eventType payload) "agent_name" _ = _
        at target
      rw [field, emitEval, field?_merge, own] at target
      exact target

/-- What a run has kept. -/
structure Tracked (state : State) : Prop where
  unharmed :
    state.crashed ≠ some .content ∧ state.crashed ≠ some .routing
  attributed : ∀ sent ∈ state.sent, ∀ name,
    sent.emitter = some name → sent.correction.recipient = .str name
  granted : ∀ target, ∃ granted, Granted state target granted

theorem Tracked.contained (tracked : Tracked state) : Contained state where
  unharmed := tracked.unharmed
  attributed := tracked.attributed
  boundedFrom target first := by
    rcases tracked.granted target with ⟨granted, held⟩
    apply held.sentWithin_le
    intro earlier later inside last
    have begun := (of_decide_eq_true inside).1
    have ended := (of_decide_eq_true last).2
    linarith
  boundedUpto target first := by
    rcases tracked.granted target with ⟨granted, held⟩
    apply held.sentWithin_le
    intro earlier later inside last
    have begun := (of_decide_eq_true inside).1
    have ended := (of_decide_eq_true last).2
    linarith

/-- The outcome harms neither the agent nor another one. -/
def Outcome.Safe (outcome : Outcome) (origin : Origin) : Prop :=
  (outcome.crash ≠ some .content ∧ outcome.crash ≠ some .routing) ∧
    ∀ correction, outcome = .sent correction → ∀ name,
      origin.emitter? = some name → correction.recipient = .str name

/-- The outcome of a delivery is safe exactly if it is well targeted. -/
theorem Outcome.safe_iff
    {agent next : EvalAgent} {outcome : Outcome} {origin : Origin}
    {exporters : List (EvalEvent → Bool)}
    {policy : EvalEvent → PolicyOutcome} {bus : Option Bus}
    (handled :
      agent.Handles
        { message := origin.message
          exporters := exporters
          policy := policy
          now := now
          bus := bus }
        next outcome) :
    outcome.Safe origin ↔ WellTargeted agent origin policy now bus := by
  cases handled with
  | quiet quiet ended =>
      constructor
      · intro _ isEvent signal asked
        exact absurd asked (quiet signal isEvent)
      · intro _
        rcases ended with rfl | rfl
        · exact ⟨⟨by rintro ⟨⟩, by rintro ⟨⟩⟩, by simp⟩
        · exact ⟨⟨by rintro ⟨⟩, by rintro ⟨⟩⟩, by simp⟩
  | unhashable isEvent asked named =>
      constructor
      · intro safe
        exact absurd rfl safe.1.1
      · intro targeted
        rcases targeted isEvent _ asked with ⟨key, hashable, -⟩
        rw [named] at hashable
        cases hashable
  | limited isEvent asked named room =>
      constructor
      · intro _ _ other again
        refine ⟨_, named, ?_⟩
        intro admitted
        rw [room] at admitted
        cases admitted
      · intro _
        exact ⟨⟨by rintro ⟨⟩, by rintro ⟨⟩⟩, by simp⟩
  | @admitted signal key isEvent asked named room =>
      have only :
          WellTargeted agent origin policy now bus ↔
            ∀ found, bus = some found →
              found.routable origin.message.event.agentName = true ∧
                (found.transmits
                    (agent.correction origin.message.event.agentName signal
                      origin.message) = true →
                  origin.Honest) := by
        constructor
        · intro targeted
          rcases targeted isEvent signal asked with ⟨other, same, reaches⟩
          rw [named] at same
          cases same
          exact reaches room
        · intro reaches _ other again
          cases asked.symm.trans again
          exact ⟨key, named, fun _ => reaches⟩
      rw [only]
      rcases agent.sendCorrection_cases bus origin.message.event.agentName
          signal origin.message with
        ⟨unwired, ended⟩ | ⟨found, wired, lost | failed | sent⟩
      · rw [ended, unwired]
        exact ⟨by simp, fun _ => ⟨⟨by rintro ⟨⟩, by rintro ⟨⟩⟩, by simp⟩⟩
      · rw [lost.2]
        constructor
        · intro safe
          exact absurd rfl safe.1.2
        · intro reaches
          have routable := (reaches found wired).1
          rw [lost.1] at routable
          cases routable
      · rw [failed.2.2]
        constructor
        · intro _ other same
          rw [wired] at same
          cases same
          refine ⟨failed.1, ?_⟩
          intro transmitted
          rw [failed.2.1] at transmitted
          cases transmitted
        · intro _
          exact ⟨⟨by rintro ⟨⟩, by rintro ⟨⟩⟩, by simp⟩
      · rw [sent.2.2]
        constructor
        · intro safe other same
          rw [wired] at same
          cases same
          exact ⟨sent.1, fun _ =>
            Origin.honest_of_agentName fun name emitter =>
              safe.2 _ rfl name emitter⟩
        · intro reaches
          refine ⟨⟨by rintro ⟨⟩, by rintro ⟨⟩⟩, ?_⟩
          intro correction same name emitter
          cases same
          exact Origin.agentName_of_honest
            ((reaches found wired).2 sent.2.1) emitter

/-- Whatever is delivered in time, the corrections stay counted. -/
theorem Tracked.granted_of_deliver
    (tracked : Tracked state) (order : state.inTime now)
    {origin : Origin} {exporters : List (EvalEvent → Bool)}
    {policy : EvalEvent → PolicyOutcome} {bus : Option Bus}
    {outcome : Outcome}
    (handled :
      state.agent.Handles
        { message := origin.message
          exporters := exporters
          policy := policy
          now := now
          bus := bus }
        after.agent outcome)
    (clock : after.clock = some now)
    (sent : after.sent = state.sent ++ outcome.sent? origin now)
    (target : String) :
    ∃ granted, Granted after target granted := by
  rcases tracked.granted target with ⟨granted, held⟩
  have earlier : ∀ since, after.inTime since → state.inTime since :=
    fun since inTime last read =>
      (order last read).trans (inTime now clock)
  have unsent : outcome.sent? origin now = [] →
      sentTo after.sent target = sentTo state.sent target := by
    intro nothing
    rw [sent, nothing, List.append_nil]
  generalize same : after.agent = next at handled
  cases handled with
  | quiet quiet ended =>
      refine ⟨granted, granted_of_quiet held same earlier (unsent ?_)⟩
      rcases ended with rfl | rfl <;> rfl
  | unhashable isEvent asked named =>
      exact ⟨granted, granted_of_quiet held same earlier (unsent rfl)⟩
  | limited isEvent asked named room =>
      exact held.checked order same clock (.inl (unsent rfl))
  | @admitted signal key isEvent asked named room =>
      apply held.checked order same clock
      rcases state.agent.sendCorrection_cases bus
          origin.message.event.agentName signal origin.message with
        ⟨-, ended⟩ | ⟨found, -, lost | failed | transmitted⟩
      · exact .inl (unsent (by rw [ended]; rfl))
      · exact .inl (unsent (by rw [lost.2]; rfl))
      · exact .inl (unsent (by rw [failed.2.2]; rfl))
      · rw [sent, transmitted.2.2, sentTo_append]
        by_cases own : key = .str target
        · right
          refine ⟨?_, own, room⟩
          congr 1
          have recipient :
              (state.agent.correction origin.message.event.agentName signal
                origin.message).recipient.key? = some (.str target) :=
            named.trans (congrArg some own)
          simp [sentTo, Outcome.sent?, recipient]
        · left
          have recipient :
              (state.agent.correction origin.message.event.agentName signal
                origin.message).recipient.key? ≠ some (.str target) := by
            intro other
            exact own (Option.some.inj (named.symm.trans other))
          simp [sentTo, Outcome.sent?, recipient]

/-- What a delivery changes. -/
theorem exists_of_deliver
    {origin : Origin} {exporters : List (EvalEvent → Bool)}
    {policy : EvalEvent → PolicyOutcome} {bus : Option Bus}
    (stepped :
      step state (.deliver origin exporters policy now bus) = some after) :
    ∃ outcome : Outcome,
      state.agent.Handles
          { message := origin.message
            exporters := exporters
            policy := policy
            now := now
            bus := bus }
          after.agent outcome ∧
        after.clock = some now ∧ after.crashed = outcome.crash ∧
        after.sent = state.sent ++ outcome.sent? origin now := by
  simp only [step] at stepped
  split at stepped
  · cases stepped
  · cases stepped
    exact ⟨_, EvalAgent.handles_handle _ _, rfl, rfl, rfl⟩

/-- A delivery in time keeps the law exactly if it is well targeted. -/
theorem Tracked.deliver_iff
    (tracked : Tracked state) (order : state.inTime now)
    {origin : Origin} {exporters : List (EvalEvent → Bool)}
    {policy : EvalEvent → PolicyOutcome} {bus : Option Bus}
    (stepped :
      step state (.deliver origin exporters policy now bus) = some after) :
    Tracked after ↔ WellTargeted state.agent origin policy now bus := by
  rcases exists_of_deliver stepped with
    ⟨outcome, handled, clock, crashed, sent⟩
  rw [← Outcome.safe_iff handled]
  constructor
  · intro kept
    refine ⟨crashed ▸ kept.unharmed, ?_⟩
    intro correction same name emitter
    apply kept.attributed
      { emitter := origin.emitter?, time := now, correction := correction }
    · rw [sent, same]
      exact List.mem_append_right _ List.mem_cons_self
    · exact emitter
  · intro safe
    refine ⟨crashed ▸ safe.1, ?_,
      tracked.granted_of_deliver order handled clock sent⟩
    intro each member name emitter
    rw [sent] at member
    rcases List.mem_append.mp member with old | new
    · exact tracked.attributed each old name emitter
    · cases outcome with
      | sent correction =>
          rw [List.mem_singleton.mp new] at emitter ⊢
          exact safe.2 correction rfl name emitter
      | idle | limited | unsent | raised => cases new

/-- After a delivery in time the law already says what a run has kept. -/
theorem Tracked.of_contained
    (tracked : Tracked state) (order : state.inTime now)
    {origin : Origin} {exporters : List (EvalEvent → Bool)}
    {policy : EvalEvent → PolicyOutcome} {bus : Option Bus}
    (stepped :
      step state (.deliver origin exporters policy now bus) = some after)
    (contained : Contained after) :
    Tracked after := by
  rcases exists_of_deliver stepped with
    ⟨outcome, handled, clock, crashed, sent⟩
  exact ⟨contained.unharmed, contained.attributed,
    tracked.granted_of_deliver order handled clock sent⟩

/-- Starting afresh forgets only what does not count any more. -/
theorem Tracked.restart
    (tracked : Tracked state) (order : state.inTime now)
    (stale : ∀ sent ∈ state.sent,
      state.agent.windowSeconds ≤ now - sent.time)
    (stepped : step state (.restart now) = some after) :
    Tracked after := by
  simp only [step] at stepped
  split at stepped
  · cases stepped
    refine ⟨⟨by simp, by simp⟩, tracked.attributed, ?_⟩
    intro target
    rcases tracked.granted target with ⟨granted, held⟩
    refine ⟨sentTo state.sent target, ?_, ?_, ?_, ?_⟩
    · intro since inTime later reached
      have order := (inTime now rfl).trans reached
      symm
      apply List.filter_eq_nil_iff.mpr
      intro time member
      rcases List.mem_map.mp member with ⟨sent, among, rfl⟩
      have old := stale sent (List.mem_filter.mp among).1
      show ¬ decide (later - sent.time < state.agent.windowSeconds) = true
      rw [decide_eq_true_iff]
      linarith
    · exact held.orderly.sublist held.sent
    · intro since inTime time member
      exact
        (held.past now order time (held.sent.subset member)).trans
          (inTime now rfl)
    · exact List.Sublist.refl _
  · cases stepped

/-! ## Every run -/

/-- Nothing has been sent yet. -/
theorem tracked_init
    {agent : EvalAgent} (fresh : agent.correctionTimestamps = fun _ => []) :
    Tracked { agent := agent } := by
  refine ⟨⟨by simp, by simp⟩, by simp, ?_⟩
  intro target
  refine ⟨[], ?_, .nil, by simp, List.Sublist.refl _⟩
  intro since _
  rw [fresh]
  exact .refl since []

/-- A bus on which two agents are registered. -/
def twoAgents : Bus where
  registered name := name = "writer" || name = "editor"
  hasReplyAddress _ := false
  transmits _ := true

/-- A policy that nudges whoever emits an event. -/
def nudge (_ : EvalEvent) : PolicyOutcome :=
  .returned (some { severity := "nudge", reason := "tone" })

/-- An event of `writer` with the given payload. -/
def draft (payload : Dict) : Origin :=
  .emitted "writer" "draft" payload "" "" ""

/-- An agent that sends one correction in a minute. -/
def strict : EvalAgent where
  maxCorrections := 1

end Civitas.EvalLoop
