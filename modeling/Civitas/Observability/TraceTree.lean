import Civitas.Forest
import Civitas.Transition
import Mathlib.Data.List.Perm.Basic
import Mathlib.Logic.Function.Basic

/-!
# Traces

The spans of `observability/tracer.py` and the trace fields of the messages
between agents: what `MessageBus`, `AgentProcess`, `GenServer`, `EvalAgent`,
`Runtime` and the gateway hand to the `Tracer`, and what it makes of it.

A message is built, routed (its send span is started, and with OpenTelemetry
the identifiers of the span are written back to the message), received (a
receive span) and dispatched (a handle span).  While an agent handles a
message its own messages and spans are linked to it.  A transport may lose,
repeat and reorder what was routed.

Random identifiers are numbers that have not been used.  The empty string is
`none`: neither as a trace nor as a parent does it link anything.
-/

namespace Civitas.Observability.TraceTree

open Civitas.Transition
open Function (update)

/-! ## Spans -/

/-- `trace_id`. -/
inductive TraceId where
  | none
  | minted (number : Nat)
  /-- The text of a `traceparent` header, handed over by the gateway. -/
  | given (text : String)
deriving DecidableEq

/-- A span, by its identifiers. -/
structure Span where
  trace : TraceId
  id : Option Nat
  parent : Option Nat
  /-- The `trace_id` that the span was asked to be part of. -/
  asked : TraceId
deriving DecidableEq

/-- What the `Tracer` was built with. -/
inductive Backend where
  /-- A `SpanQueue`, or the console. -/
  | queue
  /-- OpenTelemetry; `int(text, 16)` of a trace. -/
  | otel (parse : String → Option Nat)

/-- `_otel_parent_context`. -/
def parentContext (parse : String → Option Nat) :
    TraceId → Option Nat → Option (Nat × Nat)
  | .minted number, some parent => some (number, parent)
  | .given text, some parent => (parse text).map fun number => (number, parent)
  | _, _ => .none

/-- `_make_span`, and the numbers used up afterwards. -/
def makeSpan (backend : Backend) (next : Nat)
    (trace : TraceId) (id parent : Option Nat) (asked : TraceId) :
    Span × Nat :=
  match backend with
  | .queue => (⟨trace, id, parent, asked⟩, next)
  | .otel parse =>
      match parentContext parse trace parent with
      | some (number, up) =>
          (⟨.minted number, some next, some up, asked⟩, next + 1)
      | .none =>
          (⟨.minted (next + 1), some next, .none, asked⟩, next + 2)

/-! ## Messages -/

/-- The fields of a message that the tracer reads. -/
structure Message where
  trace : TraceId
  span : Option Nat
  parent : Option Nat
deriving DecidableEq

/-- `_agency.child_crashed`, put into a mailbox without the bus. -/
def posted : Message where
  trace := .none
  span := .none
  parent := .none

/-- The spans that were started and the messages that carry them on. -/
structure State where
  /-- The numbers from here on have not been used. -/
  next : Nat := 0
  /-- The spans that were started, the latest first. -/
  spans : List Span := []
  /-- The messages that are built and not yet routed. -/
  built : List Message := []
  /-- The messages that were routed. -/
  sent : List Message := []
  /-- `_current_message` of each agent. -/
  current : String → Option Message := fun _ => .none
  /-- The `span_id` of its `_current_handle_span`. -/
  handling : String → Option Nat := fun _ => .none

/-- No span has been started. -/
def init : State := {}

/-- A span is started. -/
def State.start (s : State) (backend : Backend)
    (trace : TraceId) (id parent : Option Nat) (asked : TraceId) : State :=
  let made := makeSpan backend s.next trace id parent asked
  { s with next := made.2, spans := made.1 :: s.spans }

/-- `start_span`: a trace of its own when none is named. -/
def State.startSpan (s : State) (backend : Backend)
    (trace : TraceId) (parent : Option Nat) : State :=
  let own := if trace = .none then .minted (s.next + 1) else trace
  { s with next := s.next + 2 }.start backend own (some s.next) parent trace

/-- A message with a new span identifier. -/
def State.build (s : State) (trace : TraceId) (parent : Option Nat) : State :=
  { s with
    next := s.next + 1
    built := ⟨trace, some s.next, parent⟩ :: s.built }

/-! ## Steps -/

/-- The trace of a message that answers nothing and is sent by no handler. -/
inductive Origin where
  /-- `Runtime` and `TopologyAgent`: `new_trace_id`. -/
  | fresh
  /-- The gateway; empty without the header. -/
  | header (text : String)
  /-- Timers, probes, cancelled and interrupted streams. -/
  | untraced
  /-- The same, without a span identifier: `_agency.restart`, health acks. -/
  | unnamed
deriving DecidableEq

/-- Where spans and messages come from. -/
inductive Label where
  | originate (origin : Origin)
  /-- `send`, `ask` and `stream` of an agent. -/
  | say (agent : String)
  /-- `reply_to`, stream frames, error replies, corrections. -/
  | answer (original : Nat)
  /-- The answer to the message that is handled. -/
  | reply (agent : String)
  /-- `_agency.heartbeat_ack`. -/
  | ack (original : Nat)
  /-- `route` and `request` of the bus. -/
  | route (index : Nat)
  | receive (index : Nat)
  | dispatch (agent : String) (index : Nat)
  /-- A message that was put into the mailbox directly. -/
  | dispatchPosted (agent : String)
  /-- `llm_span`, `tool_span` and `_gs_span`. -/
  | inner (agent : String)
  /-- `civitas.agent.retry`. -/
  | retry (agent : String)
  /-- The spans of the life cycle. -/
  | lifecycle
  | finish (agent : String)

/-- A message that answers none is built. -/
def State.originate (s : State) : Origin → State
  | .fresh =>
      { s with next := s.next + 1 }.build (.minted s.next) .none
  | .header text => s.build (if text = "" then .none else .given text) .none
  | .untraced => s.build .none .none
  | .unnamed => { s with built := ⟨.none, .none, .none⟩ :: s.built }

/-- `_dispatch` starts. -/
def State.handle (s : State) (backend : Backend) (agent : String)
    (message : Message) : State :=
  let started := s.startSpan backend message.trace message.span
  { started with
    current := update s.current agent (some message)
    handling := update s.handling agent (started.spans.head?.bind Span.id) }

/-- One span or one message. -/
def step (backend : Backend) (s : State) : Label → Option State
  | .originate origin => some (s.originate origin)
  | .say agent =>
      match s.current agent with
      | some message => some (s.build message.trace message.span)
      | .none => some (s.build .none .none)
  | .answer original =>
      s.sent[original]?.map fun message =>
        s.build message.trace message.span
  | .reply agent =>
      (s.current agent).map fun message => s.build message.trace message.span
  | .ack original =>
      s.sent[original]?.map fun message =>
        { s with built := ⟨message.trace, .none, .none⟩ :: s.built }
  | .route index =>
      s.built[index]?.map fun message =>
        let started :=
          s.start backend message.trace message.span message.parent
            message.trace
        { started with
          built := s.built.eraseIdx index
          sent :=
            (started.spans.head?.toList.map fun span =>
              ⟨span.trace, span.id, message.parent⟩) ++ s.sent }
  | .receive index =>
      s.sent[index]?.map fun message =>
        { s with next := s.next + 1 }.start backend message.trace
          (some s.next) message.span message.trace
  | .dispatch agent index =>
      match s.current agent with
      | some _ => .none
      | .none => s.sent[index]?.map (s.handle backend agent)
  | .dispatchPosted agent =>
      match s.current agent with
      | some _ => .none
      | .none => some (s.handle backend agent posted)
  | .inner agent =>
      match s.current agent with
      | some message =>
          -- a supervisor opens no spans while it handles a crash
          if message = posted then .none
          else
            some
              (s.startSpan backend message.trace
                ((s.handling agent).or message.span))
      | .none => some (s.startSpan backend .none .none)
  | .retry agent =>
      (s.current agent).map fun message =>
        s.startSpan backend message.trace .none
  | .lifecycle => some (s.startSpan backend .none .none)
  | .finish agent =>
      some
        { s with
          current := update s.current agent .none
          handling := update s.handling agent .none }

/-! ## Links -/

/-- The backend links a span whose caller names no trace. -/
def Backend.lax : Backend → Bool
  | .queue => true
  | .otel _ => false

/-- A child is in the trace of its parent, or was asked to be in none. -/
def Joins (backend : Backend) (child parent : Span) : Prop :=
  parent.trace = child.trace ∨ backend.lax = true ∧ child.asked = .none

/-- A span of that name was started, in the trace if one is named. -/
def Known (backend : Backend) (spans : List Span) (trace : TraceId)
    (id : Nat) : Prop :=
  ∃ span ∈ spans, span.id = some id ∧
    (span.trace = trace ∨ backend.lax = true ∧ trace = .none)

/-- The invariant of the spans and of what carries them on. -/
structure Traced (backend : Backend) (s : State) : Prop where
  forest : Forest.Grown Span.id Span.parent (Joins backend) s.spans
  old : ∀ span ∈ s.spans, ∀ id, span.id = some id → id < s.next
  minted : backend.lax = false →
    ∀ span ∈ s.spans, ∃ number < s.next, span.trace = .minted number
  roots : backend.lax = false →
    ∀ first ∈ s.spans, ∀ second ∈ s.spans,
      first.parent = none → second.parent = none →
        first.trace = second.trace → first = second
  waiting : ∀ message ∈ s.built, ∀ id, message.span = some id →
    id < s.next ∧ ∀ span ∈ s.spans, span.id ≠ some id
  apart : (s.built.filterMap Message.span).Nodup
  linked : ∀ message ∈ s.built, ∀ id, message.parent = some id →
    Known backend s.spans message.trace id
  routed : ∀ message ∈ s.sent, ∀ id, message.span = some id →
    Known backend s.spans message.trace id
  whole : backend.lax = false → ∀ message ∈ s.sent, message.span ≠ none
  current : ∀ agent message, s.current agent = some message →
    ∀ id, message.span = some id → Known backend s.spans message.trace id
  handled : ∀ agent message, s.current agent = some message →
    message ≠ posted → ∀ id, s.handling agent = some id →
      Known backend s.spans message.trace id

variable {backend : Backend} {s after : State}

theorem traced_init : Traced backend init where
  forest := .nil
  old := by simp [init]
  minted := by simp [init]
  roots := by simp [init]
  waiting := by simp [init]
  apart := by simp [init]
  linked := by simp [init]
  routed := by simp [init]
  whole := by simp [init]
  current := by simp [init]
  handled := by simp [init]

theorem Known.cons
    {spans : List Span} {trace : TraceId} {id : Nat}
    (known : Known backend spans trace id) (span : Span) :
    Known backend (span :: spans) trace id := by
  rcases known with ⟨old, there, named, same⟩
  exact ⟨old, List.mem_cons_of_mem _ there, named, same⟩

/-! ## One span more -/

theorem Traced.add
    (traced : Traced backend s) {span : Span} {next : Nat}
    (grows : s.next ≤ next)
    (fresh : ∀ number, span.id = some number →
      number < next ∧ (∀ old ∈ s.spans, old.id ≠ some number) ∧
        ∀ message ∈ s.built, message.span ≠ some number)
    (joined : ∀ up, span.parent = some up →
      ∃ old ∈ s.spans, old.id = some up ∧ Joins backend span old)
    (minted : backend.lax = false → ∃ number < next,
      span.trace = .minted number ∧
        (span.parent = none → s.next ≤ number)) :
    Traced backend { s with next := next, spans := span :: s.spans } where
  forest :=
    .add traced.forest (fun number named => (fresh number named).2.1) joined
  old := by
    intro other there number named
    rcases List.mem_cons.mp there with rfl | before
    · exact (fresh number named).1
    · exact Nat.lt_of_lt_of_le (traced.old other before number named) grows
  minted := by
    intro strict other there
    rcases List.mem_cons.mp there with rfl | before
    · rcases minted strict with ⟨number, below, own, -⟩
      exact ⟨number, below, own⟩
    · rcases traced.minted strict other before with ⟨number, below, own⟩
      exact ⟨number, Nat.lt_of_lt_of_le below grows, own⟩
  roots := by
    intro strict first one second other orphan bare same
    rcases minted strict with ⟨number, -, own, beyond⟩
    -- the trace of a new root is later than those of all the others
    have apart {old : Span} (before : old ∈ s.spans)
        (top : span.parent = none) : old.trace ≠ span.trace := by
      rcases traced.minted strict old before with ⟨earlier, below, theirs⟩
      intro alike
      rw [theirs, own, TraceId.minted.injEq] at alike
      have later := beyond top
      omega
    rcases List.mem_cons.mp one with rfl | early
    · rcases List.mem_cons.mp other with rfl | late
      · rfl
      · exact absurd same.symm (apart late orphan)
    · rcases List.mem_cons.mp other with rfl | late
      · exact absurd same (apart early bare)
      · exact traced.roots strict first early second late orphan bare same
  waiting := by
    intro message there number named
    rcases traced.waiting message there number named with ⟨below, unused⟩
    refine ⟨Nat.lt_of_lt_of_le below grows, ?_⟩
    intro other within
    rcases List.mem_cons.mp within with rfl | before
    · exact fun own => (fresh number own).2.2 message there named
    · exact unused other before
  apart := traced.apart
  linked message there id up := (traced.linked message there id up).cons span
  routed message there id up := (traced.routed message there id up).cons span
  whole := traced.whole
  current agent message on id up :=
    (traced.current agent message on id up).cons span
  handled agent message on apart id up :=
    (traced.handled agent message on apart id up).cons span

section Start

variable {trace asked : TraceId} {id parent : Option Nat}

/-- What `_make_span` makes of a parent that was started. -/
theorem makeSpan_cases
    (id : Option Nat) (traced : Traced backend s)
    (known : ∀ up, parent = some up → Known backend s.spans asked up)
    (same : asked ≠ .none → trace = asked) :
    (backend.lax = true ∧
      makeSpan backend s.next trace id parent asked =
        (⟨trace, id, parent, asked⟩, s.next)) ∨
    (backend.lax = false ∧ parent = none ∧
      makeSpan backend s.next trace id parent asked =
        (⟨.minted (s.next + 1), some s.next, none, asked⟩, s.next + 2)) ∨
    (backend.lax = false ∧ ∃ up, parent = some up ∧
      makeSpan backend s.next trace id parent asked =
        (⟨asked, some s.next, some up, asked⟩, s.next + 1)) := by
  cases backend with
  | queue => exact .inl ⟨rfl, rfl⟩
  | otel parse =>
      right
      cases parent with
      | none =>
          left
          refine ⟨rfl, rfl, ?_⟩
          cases trace <;> rfl
      | some up =>
          right
          rcases known up rfl with ⟨old, there, -, member | ⟨lax, -⟩⟩
          · rcases traced.minted rfl old there with ⟨number, -, minted⟩
            have asking : asked = .minted number := member.symm.trans minted
            have given : trace = .minted number :=
              (same (by rw [asking]; simp)).trans asking
            refine ⟨rfl, up, rfl, ?_⟩
            rw [given, asking]
            rfl
          · cases lax

/-- A span that is started links to what was started before it. -/
theorem Traced.start
    (traced : Traced backend s)
    (known : ∀ up, parent = some up → Known backend s.spans asked up)
    (same : asked ≠ .none → trace = asked)
    (fresh : ∀ number, id = some number →
      number < s.next ∧ (∀ old ∈ s.spans, old.id ≠ some number) ∧
        ∀ message ∈ s.built, message.span ≠ some number) :
    Traced backend (s.start backend trace id parent asked) := by
  have unused : ∀ number, some s.next = some number →
      (∀ old ∈ s.spans, old.id ≠ some number) ∧
        ∀ message ∈ s.built, message.span ≠ some number := by
    rintro number ⟨⟩
    constructor
    · exact fun old there named =>
        Nat.lt_irrefl _ (traced.old old there _ named)
    · exact fun message there named =>
        Nat.lt_irrefl _ (traced.waiting message there _ named).1
  unfold State.start
  rcases makeSpan_cases id traced known same with
    ⟨lax, made⟩ | ⟨strict, orphan, made⟩ | ⟨strict, up, child, made⟩
  · rw [made]
    apply traced.add (Nat.le_refl _) fresh
    · intro up child
      rcases known up child with ⟨old, there, named, member | untraced⟩
      · refine ⟨old, there, named, ?_⟩
        by_cases untraced : asked = .none
        · exact .inr ⟨lax, untraced⟩
        · exact .inl (member.trans (same untraced).symm)
      · exact ⟨old, there, named, .inr untraced⟩
    · intro strict
      rw [lax] at strict
      cases strict
  · rw [made]
    apply traced.add (by omega)
    · intro number named
      exact ⟨by cases named; simp, unused number named⟩
    · intro up child
      cases child
    · intro _
      exact ⟨s.next + 1, by simp, rfl, fun _ => by simp⟩
  · rw [made]
    rcases known up child with ⟨old, there, named, member | ⟨lax, -⟩⟩
    · apply traced.add (by omega)
      · intro number own
        exact ⟨by cases own; simp, unused number own⟩
      · rintro _ ⟨⟩
        exact ⟨old, there, named, .inl member⟩
      · intro _
        rcases traced.minted strict old there with ⟨number, below, minted⟩
        refine ⟨number, by simp only; omega, member.symm.trans minted, ?_⟩
        intro orphan
        cases orphan
    · rw [strict] at lax
      cases lax

/-- The trace of the span that was started last. -/
theorem makeSpan_trace
    (id : Option Nat) (traced : Traced backend s)
    (known : ∀ up, parent = some up → Known backend s.spans asked up)
    (same : asked ≠ .none → trace = asked)
    (linked : backend.lax = false → parent ≠ none) :
    (makeSpan backend s.next trace id parent asked).1.trace = asked ∨
      backend.lax = true ∧ asked = .none := by
  rcases makeSpan_cases id traced known same with
    ⟨lax, made⟩ | ⟨strict, orphan, made⟩ | ⟨strict, up, child, made⟩
  · by_cases untraced : asked = .none
    · exact .inr ⟨lax, untraced⟩
    · left
      rw [made]
      exact same untraced
  · exact absurd orphan (linked strict)
  · left
    rw [made]

end Start

/-! ## Steps keep the links -/

/-- A number is used up. -/
theorem Traced.skip
    (traced : Traced backend s) :
    Traced backend { s with next := s.next + 1 } :=
  { traced with
    old := fun span there id named =>
      Nat.lt_succ_of_lt (traced.old span there id named)
    minted := fun strict span there => by
      rcases traced.minted strict span there with ⟨number, below, own⟩
      exact ⟨number, Nat.lt_succ_of_lt below, own⟩
    waiting := fun message there id named =>
      ⟨Nat.lt_succ_of_lt (traced.waiting message there id named).1,
        (traced.waiting message there id named).2⟩ }

theorem Traced.startSpan
    (traced : Traced backend s) {trace : TraceId} {parent : Option Nat}
    (known : ∀ up, parent = some up → Known backend s.spans trace up) :
    Traced backend (s.startSpan backend trace parent) := by
  have later : Traced backend { s with next := s.next + 2 } :=
    traced.skip.skip
  apply later.start known
  · exact fun asked => if_neg asked
  · rintro number ⟨⟩
    refine ⟨by simp, ?_, ?_⟩
    · exact fun old there named =>
        Nat.lt_irrefl _ (traced.old old there _ named)
    · exact fun message there named =>
        Nat.lt_irrefl _ (traced.waiting message there _ named).1

/-- A message is built whose parent was started. -/
theorem Traced.build
    (traced : Traced backend s) {trace : TraceId} {parent : Option Nat}
    (known : ∀ up, parent = some up → Known backend s.spans trace up) :
    Traced backend (s.build trace parent) :=
  { traced with
    old := fun span there id named =>
      Nat.lt_succ_of_lt (traced.old span there id named)
    minted := fun strict span there => by
      rcases traced.minted strict span there with ⟨number, below, own⟩
      exact ⟨number, Nat.lt_succ_of_lt below, own⟩
    waiting := by
      intro message there id named
      rcases List.mem_cons.mp there with rfl | before
      · cases named
        refine ⟨Nat.lt_succ_self _, ?_⟩
        exact fun old within own =>
          Nat.lt_irrefl _ (traced.old old within _ own)
      · rcases traced.waiting message before id named with ⟨below, unused⟩
        exact ⟨Nat.lt_succ_of_lt below, unused⟩
    apart := by
      simp only [State.build, List.filterMap_cons, List.nodup_cons]
      refine ⟨?_, traced.apart⟩
      intro within
      rcases List.mem_filterMap.mp within with ⟨message, there, named⟩
      exact Nat.lt_irrefl _ (traced.waiting message there _ named).1
    linked := by
      intro message there id up
      rcases List.mem_cons.mp there with rfl | before
      · exact known id up
      · exact traced.linked message before id up }

/-- A message without identifiers of its own is built. -/
theorem Traced.buildUnnamed
    (traced : Traced backend s) (trace : TraceId) :
    Traced backend { s with built := ⟨trace, none, none⟩ :: s.built } :=
  { traced with
    waiting := by
      intro message there id named
      rcases List.mem_cons.mp there with rfl | before
      · cases named
      · exact traced.waiting message before id named
    apart := traced.apart
    linked := by
      intro message there id up
      rcases List.mem_cons.mp there with rfl | before
      · cases up
      · exact traced.linked message before id up }

theorem Traced.originate
    (traced : Traced backend s) (origin : Origin) :
    Traced backend (s.originate origin) := by
  cases origin with
  | fresh => exact traced.skip.build (by simp)
  | header text => exact traced.build (by simp)
  | untraced => exact traced.build (by simp)
  | unnamed => exact traced.buildUnnamed _

theorem Traced.route
    (traced : Traced backend s) {index : Nat} {message : Message}
    (found : s.built[index]? = some message)
    (routed : step backend s (.route index) = some after) :
    Traced backend after := by
  rcases List.getElem?_eq_some_iff.mp found with ⟨inside, rfl⟩
  have member := List.getElem_mem inside
  have perm := List.getElem_cons_eraseIdx_perm inside
  have rest {other : Message} (there : other ∈ s.built.eraseIdx index) :
      other ∈ s.built := List.mem_of_mem_eraseIdx there
  have names := (perm.filterMap Message.span).nodup_iff.mpr traced.apart
  have taken : Traced backend
      { s with built := s.built.eraseIdx index } :=
    { traced with
      waiting := fun other there => traced.waiting other (rest there)
      apart := names.sublist
        (by rw [List.filterMap_cons]; split <;> simp)
      linked := fun other there => traced.linked other (rest there) }
  have known := traced.linked _ member
  have fresh : ∀ number, s.built[index].span = some number →
      number < s.next ∧ (∀ old ∈ s.spans, old.id ≠ some number) ∧
        ∀ other ∈ s.built.eraseIdx index, other.span ≠ some number := by
    intro number named
    rcases traced.waiting _ member number named with ⟨below, unused⟩
    refine ⟨below, unused, ?_⟩
    intro other there alike
    rw [List.filterMap_cons, named] at names
    exact (List.nodup_cons.mp names).1
      (List.mem_filterMap.mpr ⟨other, there, alike⟩)
  have started := taken.start known (fun _ => rfl) fresh
  simp only [step, found, Option.map_some, Option.some.injEq] at routed
  subst routed
  exact
    { started with
      routed := by
        intro other there id named
        rcases List.mem_cons.mp there with rfl | before
        · exact ⟨_, List.mem_cons_self, named, .inl rfl⟩
        · exact started.routed other before id named
      whole := by
        intro strict other there
        rcases List.mem_cons.mp there with rfl | before
        · rcases makeSpan_cases s.built[index].span traced known
              (fun _ => rfl) with
            ⟨lax, -⟩ | ⟨-, -, made⟩ | ⟨-, up, -, made⟩
          · rw [strict] at lax
            cases lax
          · simp [made]
          · simp [made]
        · exact started.whole strict other before }

/-- An agent starts to handle a message. -/
theorem Traced.handle
    (traced : Traced backend s) {message : Message} (agent : String)
    (known : ∀ id, message.span = some id →
      Known backend s.spans message.trace id)
    (whole : backend.lax = false → message ≠ posted → message.span ≠ none) :
    Traced backend (s.handle backend agent message) := by
  have started := traced.startSpan known
  refine
    { started with
      current := ?_
      handled := ?_ }
  · intro other shown on id named
    by_cases same : other = agent
    · subst same
      simp only [State.handle, Function.update_self, Option.some.injEq] at on
      subst on
      exact (known id named).cons _
    · simp only [State.handle, Function.update_of_ne same] at on
      exact started.current other shown on id named
  · intro other shown on apart id handling
    by_cases same : other = agent
    · subst same
      simp only [State.handle, Function.update_self, Option.some.injEq] at on
      subst on
      simp only [State.handle, Function.update_self] at handling
      refine ⟨_, List.mem_cons_self, handling, ?_⟩
      have later : Traced backend { s with next := s.next + 2 } :=
        traced.skip.skip
      exact makeSpan_trace (some s.next) later known
        (fun asked => if_neg asked)
        (fun strict => whole strict apart)
    · simp only [State.handle, Function.update_of_ne same] at on
      simp only [State.handle, Function.update_of_ne same] at handling
      exact started.handled other shown on apart id handling

theorem Traced.idle
    (traced : Traced backend s) (agent : String) :
    Traced backend
      { s with
        current := update s.current agent none
        handling := update s.handling agent none } :=
  { traced with
    current := by
      intro other message on
      by_cases same : other = agent
      · subst same
        simp only [Function.update_self] at on
        cases on
      · simp only [Function.update_of_ne same] at on
        exact traced.current other message on
    handled := by
      intro other message on
      by_cases same : other = agent
      · subst same
        simp only [Function.update_self] at on
        cases on
      · simp only [Function.update_of_ne same] at on ⊢
        exact traced.handled other message on }

/-- A step links what it starts and what it sends to what was started. -/
theorem Traced.step
    (traced : Traced backend s) {label : Label}
    (stepped : step backend s label = some after) : Traced backend after := by
  cases label with
  | originate origin =>
      cases stepped
      exact traced.originate origin
  | say agent =>
      cases on : s.current agent with
      | none =>
          simp only [TraceTree.step, on, Option.some.injEq] at stepped
          subst stepped
          exact traced.build (by simp)
      | some message =>
          simp only [TraceTree.step, on, Option.some.injEq] at stepped
          subst stepped
          exact traced.build (traced.current agent message on)
  | answer original =>
      rcases Option.map_eq_some_iff.mp stepped with ⟨message, found, rfl⟩
      exact traced.build
        (traced.routed message (List.mem_of_getElem? found))
  | reply agent =>
      rcases Option.map_eq_some_iff.mp stepped with ⟨message, on, rfl⟩
      exact traced.build (traced.current agent message on)
  | ack original =>
      rcases Option.map_eq_some_iff.mp stepped with ⟨message, -, rfl⟩
      exact traced.buildUnnamed _
  | route index =>
      rcases Option.map_eq_some_iff.mp stepped with ⟨message, found, -⟩
      exact traced.route found stepped
  | receive index =>
      rcases Option.map_eq_some_iff.mp stepped with ⟨message, found, rfl⟩
      apply traced.skip.start
        (traced.routed message (List.mem_of_getElem? found)) (fun _ => rfl)
      rintro number ⟨⟩
      refine ⟨Nat.lt_succ_self _, ?_, ?_⟩
      · exact fun old there named =>
          Nat.lt_irrefl _ (traced.old old there _ named)
      · exact fun other there named =>
          Nat.lt_irrefl _ (traced.waiting other there _ named).1
  | dispatch agent index =>
      cases on : s.current agent with
      | some message => simp [TraceTree.step, on] at stepped
      | none =>
          simp only [TraceTree.step, on] at stepped
          rcases Option.map_eq_some_iff.mp stepped with ⟨message, found, rfl⟩
          have member := List.mem_of_getElem? found
          exact traced.handle agent (traced.routed message member)
            (fun strict _ => traced.whole strict message member)
  | dispatchPosted agent =>
      cases on : s.current agent with
      | some message => simp [TraceTree.step, on] at stepped
      | none =>
          simp only [TraceTree.step, on, Option.some.injEq] at stepped
          subst stepped
          exact traced.handle agent (by simp [posted])
            (fun _ apart => absurd rfl apart)
  | inner agent =>
      cases on : s.current agent with
      | none =>
          simp only [TraceTree.step, on, Option.some.injEq] at stepped
          subst stepped
          exact traced.startSpan (by simp)
      | some message =>
          simp only [TraceTree.step, on] at stepped
          split_ifs at stepped with crash
          cases stepped
          apply traced.startSpan
          intro up parent
          cases handling : s.handling agent with
          | none =>
              rw [handling, Option.none_or] at parent
              exact traced.current agent message on up parent
          | some own =>
              rw [handling, Option.some_or] at parent
              cases parent
              exact traced.handled agent message on crash _ handling
  | retry agent =>
      rcases Option.map_eq_some_iff.mp stepped with ⟨message, -, rfl⟩
      exact traced.startSpan (by simp)
  | lifecycle =>
      cases stepped
      exact traced.startSpan (by simp)
  | finish agent =>
      cases stepped
      exact traced.idle agent

theorem traced_of_reaches
    (run : Reaches (step backend) (fun _ _ => True) init s) :
    Traced backend s :=
  run.invariant traced_init fun _ _ _ traced _ stepped => traced.step stepped

/-! ## Traces are trees -/

/-- With OpenTelemetry each trace is one tree, whatever was lost or repeated. -/
theorem otel_traces_are_trees
    {parse : String → Option Nat}
    (run : Reaches (step (.otel parse)) (fun _ _ => True) init s) :
    Forest.Grown Span.id Span.parent
        (fun child parent => parent.trace = child.trace) s.spans ∧
      ∀ first ∈ s.spans, ∀ second ∈ s.spans,
        first.trace = second.trace ↔
          Forest.root Span.id Span.parent s.spans first =
            Forest.root Span.id Span.parent s.spans second := by
  have traced := traced_of_reaches run
  have grown :
      Forest.Grown Span.id Span.parent
        (fun child parent => parent.trace = child.trace) s.spans := by
    apply traced.forest.mono
    rintro child parent (same | ⟨lax, -⟩)
    · exact same
    · cases lax
  refine ⟨grown, ?_⟩
  intro first one second other
  exact grown.label_eq_iff (fun _ _ same => same) (traced.roots rfl) one other

/-- The spans of a request, of an agent that asks another, and of a timer. -/
def askedRequest : List Label :=
  [.originate .fresh, .route 0, .receive 0, .dispatch "front" 0,
    .inner "front", .say "front", .route 0, .originate .untraced, .route 0,
    .dispatch "back" 1, .reply "back", .route 0, .finish "back"]

theorem otel_request_is_tree :
    ∃ s : State,
      s.spans.map Span.trace =
          [.minted 3, .minted 3, .minted 16, .minted 3, .minted 3, .minted 3,
            .minted 3, .minted 3] ∧
        Forest.Grown Span.id Span.parent
          (fun child parent => parent.trace = child.trace) s.spans ∧
        ∀ first ∈ s.spans, ∀ second ∈ s.spans,
          first.trace = second.trace ↔
            Forest.root Span.id Span.parent s.spans first =
              Forest.root Span.id Span.parent s.spans second := by
  have ran :
      ((runWhere (step (.otel fun _ => none)) (fun _ _ => True) init
        askedRequest).map fun s => s.spans.map Span.trace) =
          some
            [.minted 3, .minted 3, .minted 16, .minted 3, .minted 3,
              .minted 3, .minted 3, .minted 3] := by
    decide +kernel
  rcases exists_reaches_of_run ran with ⟨s, run, traces⟩
  exact ⟨s, traces, otel_traces_are_trees run⟩

/--
Without OpenTelemetry a parent is one span that was started earlier, and in
the same trace unless the child was asked to be in none.
-/
theorem queue_parents_are_started
    (run : Reaches (step .queue) (fun _ _ => True) init s)
    {later earlier : List Span} {child : Span} {id : Nat}
    (order : s.spans = later ++ child :: earlier)
    (up : child.parent = some id) :
    ∃ parent ∈ earlier, parent.id = some id ∧
      (child.asked ≠ .none → parent.trace = child.trace) ∧
        ∀ other ∈ s.spans, other.id = some id → other = parent := by
  have traced := traced_of_reaches run
  have grown := traced.forest
  rw [order] at grown
  rcases grown.joined_earlier up with ⟨parent, there, named, meets⟩
  refine ⟨parent, there, named, ?_, ?_⟩
  · intro asked
    rcases meets with same | ⟨-, untraced⟩
    · exact same
    · exact absurd untraced asked
  · intro other within alike
    exact traced.forest.name_inj within
      (by rw [order]; simp [there]) alike named

/-- A timer without a trace, and what its message makes an agent do. -/
def tickedAgent : List Label :=
  [.originate .untraced, .route 0, .dispatch "clock" 0, .inner "clock",
    .say "clock", .route 0]

/-- The handler of a message without a trace has a trace of its own. -/
theorem queue_parent_of_handler :
    ∃ (s : State) (parent child : Span) (rest : List Span),
      s.spans = rest ++ [child, parent] ∧ child.parent = some 0 ∧
        child.trace = .minted 2 ∧ parent.trace = .none ∧
        ∃ other ∈ [parent], other.id = some 0 ∧
          (child.asked ≠ .none → other.trace = child.trace) ∧
            ∀ third ∈ s.spans, third.id = some 0 → third = other := by
  have ran :
      ((runWhere (step .queue) (fun _ _ => True) init tickedAgent).map
        State.spans) =
          some
            ([⟨.none, some 5, some 0, .none⟩,
              ⟨.minted 4, some 3, some 1, .none⟩] ++
              [⟨.minted 2, some 1, some 0, .none⟩,
                ⟨.none, some 0, none, .none⟩]) := by
    decide +kernel
  rcases exists_reaches_of_run ran with ⟨s, run, spans⟩
  exact ⟨s, _, _, _, spans, rfl, rfl, rfl,
    queue_parents_are_started run spans rfl⟩

end Civitas.Observability.TraceTree
