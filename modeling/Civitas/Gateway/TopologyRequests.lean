import Civitas.Gateway.Introspection
import Civitas.Gateway.TopologyAgent

/-!
# Requests to the topology agent

`TopologyAgent.handle_call` of `topology_server.py` with all its operations:
the read operations answer with a view, the write operations put a message on
the bus.  The bus validates, resolves, serializes, publishes and audits, and
everything but a full mailbox, for which it waits, is reported by an exception.

`GenServer._do_call` lets an exception of `handle_call` through, and the agent
keeps the default `on_error`, which escalates: the supervisor has a crash to
deal with.
-/

namespace Civitas.Gateway

open Civitas.PyText
open Civitas.PyValue

/-! ## The agent and the bus -/

/-- How the transport takes a message for an address. -/
inductive Delivery where
  | taken
  | refused
  /-- The mailbox of the target is full and stays so. -/
  | waits
deriving DecidableEq

/-- The topology agent in the middle of the system, when a request comes. -/
structure Endpoint extends Introspection where
  str : StrFunction
  /-- `repr()` of a text. -/
  repr : String → String
  registered : String → Bool
  hasReplyAddress : String → Bool
  serializes : ControlWrite → Bool
  transport : ControlWrite → Delivery
  /-- The audit sink takes the record that `route` makes. -/
  recordsRoute : ControlWrite → Bool
  /-- The audit sink takes the record of an injected message. -/
  recordsInjection : ControlWrite → Bool

/-- A request: a JSON object. -/
structure CallRequest where
  payload : Dict
  json : (Value.dict payload).jsonable = true

/-- What becomes of a request. -/
inductive Answer where
  | replied (reply : Dict)
  | raised
  | waits

/-- The answer to a request, and what has come to the target of a write. -/
structure Served where
  answer : Answer
  delivered : Option ControlWrite := none

/-- The write operations of the agent; the views are served here. -/
def Endpoint.toAgent (here : Endpoint) : TopologyAgent where
  name := here.name
  str := here.str
  repr := here.repr
  wired := here.wired
  views _ := []

/-- `MessageBus.route` finds an address. -/
def Endpoint.addressed (here : Endpoint) (target : String) : Bool :=
  here.registered target || here.hasReplyAddress target ||
    startsWith target "_reply."

/-- `Message(...)`, `MessageBus.route` and the audit of an injection. -/
def Endpoint.deliver
    (here : Endpoint) (write : ControlWrite) (reply : Dict) : Served :=
  if !(Value.dict write.body).jsonable then { answer := .raised }
  else if unknownSystemType write.messageType then { answer := .raised }
  else if !here.addressed write.target then { answer := .raised }
  else if !here.serializes write then { answer := .raised }
  else
    match here.transport write with
    | .refused => { answer := .raised }
    | .waits => { answer := .waits }
    | .taken =>
        if here.recordsRoute write &&
            (write.audit.isNone || here.recordsInjection write)
        then { answer := .replied reply, delivered := some write }
        else { answer := .raised, delivered := some write }

/-- A write operation. -/
def Endpoint.write
    (here : Endpoint) (op : WriteOp) (payload : Dict) : Served :=
  match here.toAgent.write op payload with
  | none => { answer := .raised }
  | some (none, reply) => { answer := .replied reply }
  | some (some write, reply) => here.deliver write reply

/-- The name that a payload gives. -/
def Endpoint.target (here : Endpoint) (payload : Dict) : String :=
  here.toAgent.text payload "name" ""

/-- The answer to an operation that is not known. -/
def Endpoint.notFound (here : Endpoint) : Option Dict :=
  here.rawJson (.dict (dictOf [("error", .str "not found")])) 404

/-- The `agent_detail` operation. -/
def Endpoint.agentDetail (here : Endpoint) (name : String) : Option Dict :=
  match here.buildAgentDetail name with
  | none =>
      here.rawJson
        (.dict (dictOf
          [("error", .str ("agent '" ++ name ++ "' not found"))])) 404
  | some data => here.rawJson data 200

/-- The read operations; `none` when they raise. -/
def Endpoint.read
    (here : Endpoint) (name : String) (payload : Dict) : Option Dict :=
  if name = "health" then
    here.rawJson (.dict (dictOf [("status", .str "ok")])) 200
  else if name = "topology" then here.rawJson here.buildTopology 200
  else if name = "agents" then here.rawJson here.buildAgentsList 200
  else if name = "agent_detail" then here.agentDetail (here.target payload)
  else if name = "snapshot" then
    here.rawJson here.buildMetrics.1 here.buildMetrics.2
  else if name = "metrics" then
    let (body, status, contentType) := here.buildPrometheusMetrics
    some
      (dictOf
        [("__raw_body__", .str body), ("__content_type__", .str contentType),
          ("__status__", .int status)])
  else if name = "processes" then
    here.buildProcesses.bind (here.rawJson · 200)
  else if name = "mailbox_peek" then here.opMailboxPeek (here.target payload)
  else here.notFound

/-- The answer of a read operation. -/
def Served.ofRead : Option Dict → Served
  | some reply => { answer := .replied reply }
  | none => { answer := .raised }

/-- `handle_call`. -/
def Endpoint.handleCall (here : Endpoint) (payload : Dict) : Served :=
  match field? payload "__op__" with
  | some (.str name) =>
      match WriteOp.ofName name with
      | some op => here.write op payload
      | none => .ofRead (here.read name payload)
  | _ => .ofRead here.notFound

/-! ## The law and its condition -/

/-- The write operation that a payload selects. -/
def writeOf (payload : Dict) : Option WriteOp :=
  match field? payload "__op__" with
  | some (.str name) => WriteOp.ofName name
  | _ => none

/--
The request is answered with a dictionary; a write to a name without an
address is answered with an error and nothing has come to the target.
-/
def Endpoint.Answers (here : Endpoint) (request : CallRequest) : Prop :=
  ∃ reply, (here.handleCall request.payload).answer = .replied reply ∧
    ((writeOf request.payload).isSome = true →
      here.addressed (here.target request.payload) = false →
        (field? reply "error").isSome = true ∧
          (here.handleCall request.payload).delivered = none)

/-- The request crashes the agent. -/
def Endpoint.crashes (here : Endpoint) (request : CallRequest) : Bool :=
  match (here.handleCall request.payload).answer with
  | .raised => true
  | _ => false

/-- The crashes that a history of requests leaves to the supervisor. -/
def restartsUsed (history : List (Endpoint × CallRequest)) : Nat :=
  history.countP fun event => event.1.crashes event.2

/-- A write is not refused by the checks of its operation. -/
def Endpoint.proceeds
    (here : Endpoint) (op : WriteOp) (payload : Dict) : Bool :=
  let messageType := here.toAgent.text payload "type" ""
  here.target payload ≠ "" && here.wired &&
    (op ≠ .mailboxInject ||
      messageType ≠ "" && !startsWith messageType "_agency." &&
        !startsWith messageType "civitas.")

/-- The principal of the payload is false, missing or a dictionary. -/
def principalReadable (payload : Dict) : Bool :=
  match field? payload "__principal__" with
  | none | some (.dict _) => true
  | some principal => !principal.truthy

/-- The bus takes the message of a write. -/
structure Endpoint.Takes (here : Endpoint) (write : ControlWrite) : Prop where
  addressed : here.addressed write.target = true
  serializes : here.serializes write = true
  taken : here.transport write = .taken
  recorded : here.recordsRoute write = true
  audited : write.audit.isSome = true → here.recordsInjection write = true

/-- The message that a payload asks a write operation to send. -/
def Endpoint.AsksFor
    (here : Endpoint) (op : WriteOp) (payload : Dict)
    (write : ControlWrite) : Prop :=
  ∃ reply, here.toAgent.write op payload = some (some write, reply)

/-- A write that proceeds has a readable principal and a message to take. -/
def Endpoint.WriteMeets
    (here : Endpoint) (op : WriteOp) (payload : Dict) : Prop :=
  here.proceeds op payload = true →
    principalReadable payload = true ∧
      ∀ write, here.AsksFor op payload write → here.Takes write

/-- What a read operation shows is JSON. -/
def Endpoint.ReadMeets
    (here : Endpoint) (name : String) (payload : Dict) : Prop :=
  (name = "topology" → here.topologyJson = true) ∧
    (name = "agents" → here.agentsJson = true) ∧
    (name = "agent_detail" →
      ∀ record, here.findAgent (here.target payload) = some record →
        record.json = true) ∧
    (name = "processes" →
      ∀ channel ∈ here.distinctHealthChannels, here.WorkerReplies channel) ∧
    (name = "mailbox_peek" →
      ∀ record, here.findAgent (here.target payload) = some record →
        record.mailbox.all Waiting.json = true)

/-- The condition on a request in the state in which it comes. -/
def Endpoint.Meets (here : Endpoint) (request : CallRequest) : Prop :=
  match field? request.payload "__op__" with
  | some (.str name) =>
      match WriteOp.ofName name with
      | some op => here.WriteMeets op request.payload
      | none => here.ReadMeets name request.payload
  | _ => True

/-! ## Writes -/

section Writes

variable {here : Endpoint} {op : WriteOp} {payload : Dict}

theorem isSome_principalId (agent : TopologyAgent) (payload : Dict) :
    (agent.principalId payload).isSome = principalReadable payload := by
  unfold TopologyAgent.principalId principalReadable
  cases field? payload "__principal__" with
  | none => rfl
  | some principal =>
      cases principal with
      | dict entries =>
          dsimp only
          split <;> rfl
      | _ =>
          dsimp only
          cases Value.truthy _ <;> rfl

theorem Endpoint.write_of_not_proceeds
    (stopped : here.proceeds op payload = false) :
    ∃ error, here.toAgent.write op payload = some (refusal error) := by
  unfold TopologyAgent.write
  by_cases unnamed : here.toAgent.text payload "name" "" = ""
  · exact ⟨_, if_pos unnamed⟩
  · rw [if_neg unnamed]
    cases wired : here.wired with
    | false => exact ⟨_, if_pos (by rw [Endpoint.toAgent, wired]; rfl)⟩
    | true =>
        have connected : ¬ (!here.toAgent.wired) = true := by
          rw [Endpoint.toAgent, wired]
          exact Bool.false_ne_true
        rw [if_neg connected]
        have named : here.target payload ≠ "" := unnamed
        simp only [Endpoint.proceeds, named, wired, ne_eq,
          not_false_eq_true, decide_true, Bool.true_and] at stopped
        cases op with
        | mailboxInject =>
            simp only [not_true_eq_false, decide_false, Bool.false_or]
              at stopped
            dsimp only
            unfold TopologyAgent.opMailboxInject
            dsimp only
            by_cases untyped : here.toAgent.text payload "type" "" = ""
            · exact ⟨_, if_pos untyped⟩
            · rw [if_neg untyped]
              simp only [untyped, not_false_eq_true, decide_true,
                Bool.true_and, ← Bool.not_or, Bool.not_eq_false'] at stopped
              exact ⟨_, if_pos stopped⟩
        | suspend => contradiction
        | resume => contradiction
        | restart => contradiction

/-- The bus can take the message of a write, as far as it depends on it. -/
structure ControlWrite.Sendable
    (write : ControlWrite) (target : String) : Prop where
  target : write.target = target
  json : (Value.dict write.body).jsonable = true
  known : unknownSystemType write.messageType = false

theorem controlTypes_known :
    unknownSystemType "_agency.suspend" = false ∧
      unknownSystemType "_agency.resume" = false ∧
        unknownSystemType "_agency.force_restart" = false := by
  decide +kernel

theorem jsonable_injected
    (json : (Value.dict payload).jsonable = true) :
    (Value.dict
      (match field? payload "payload" with
        | some (.dict body) => body
        | _ => [])).jsonable = true := by
  split
  · next body found => exact jsonable_of_field? json found
  · rfl

/-- A write that proceeds makes a message of a readable principal. -/
theorem Endpoint.write_of_proceeds
    (proceeds : here.proceeds op payload = true)
    (json : (Value.dict payload).jsonable = true) :
    ∃ message : String → ControlWrite × Dict,
      here.toAgent.write op payload =
          (here.toAgent.principalId payload).map
            (fun actor => (some (message actor).1, (message actor).2)) ∧
        ∀ actor, (message actor).1.Sendable (here.target payload) := by
  simp only [Endpoint.proceeds, Bool.and_eq_true, decide_eq_true_eq]
    at proceeds
  rcases proceeds with ⟨⟨named, wired⟩, checked⟩
  have unnamed : ¬ here.toAgent.text payload "name" "" = "" := named
  have connected : ¬ (!here.toAgent.wired) = true := by
    rw [Endpoint.toAgent, wired]
    exact Bool.false_ne_true
  unfold TopologyAgent.write
  rw [if_neg unnamed, if_neg connected]
  cases op with
  | suspend =>
      refine ⟨fun actor => (_, _), rfl, fun actor => ⟨rfl, ?_, ?_⟩⟩
      · exact jsonable_dictOf _
      · exact controlTypes_known.1
  | resume =>
      refine ⟨fun actor => (_, _), rfl, fun actor => ⟨rfl, ?_, ?_⟩⟩
      · exact jsonable_dictOf _
      · exact controlTypes_known.2.1
  | restart =>
      refine ⟨fun actor => (_, _), rfl, fun actor => ⟨rfl, ?_, ?_⟩⟩
      · exact jsonable_dictOf _
      · exact controlTypes_known.2.2
  | mailboxInject =>
      simp only [ne_eq, not_true_eq_false, decide_false, Bool.false_or,
        Bool.and_eq_true, decide_eq_true_eq, Bool.not_eq_true'] at checked
      rcases checked with ⟨⟨typed, foreign⟩, outside⟩
      have plain :
          ¬ (startsWith (here.toAgent.text payload "type" "") "_agency." ||
            startsWith (here.toAgent.text payload "type" "") "civitas.") =
              true := by
        rw [foreign, outside]
        exact Bool.false_ne_true
      dsimp only
      unfold TopologyAgent.opMailboxInject
      dsimp only
      rw [if_neg typed, if_neg plain]
      refine ⟨fun actor => (_, _), rfl, fun actor => ⟨rfl, ?_, ?_⟩⟩
      · exact jsonable_injected json
      · change unknownSystemType (here.toAgent.text payload "type" "") = false
        rw [unknownSystemType, foreign, Bool.false_and]

/-- The message of a write is answered with its reply if it is taken. -/
theorem Endpoint.deliver_replied_iff
    {write : ControlWrite} {target : String} {reply answered : Dict}
    (sendable : write.Sendable target) :
    (here.deliver write reply).answer = .replied answered ↔
      here.Takes write ∧ answered = reply := by
  unfold Endpoint.deliver
  rw [sendable.json, sendable.known]
  cases addressed : here.addressed write.target with
  | false =>
      refine iff_of_false (by simp) ?_
      rintro ⟨takes, _⟩
      exact absurd (addressed.symm.trans takes.addressed) (by decide)
  | true =>
      cases serialized : here.serializes write with
      | false =>
          refine iff_of_false (by simp) ?_
          rintro ⟨takes, _⟩
          exact absurd (serialized.symm.trans takes.serializes) (by decide)
      | true =>
          cases transported : here.transport write with
          | refused =>
              refine iff_of_false (by simp) ?_
              rintro ⟨takes, _⟩
              exact absurd (transported.symm.trans takes.taken) (by decide)
          | waits =>
              refine iff_of_false (by simp) ?_
              rintro ⟨takes, _⟩
              exact absurd (transported.symm.trans takes.taken) (by decide)
          | taken =>
              simp only [Bool.not_true, Bool.false_eq_true, if_false]
              split
              · next recorded =>
                  rw [Bool.and_eq_true, Bool.or_eq_true] at recorded
                  constructor
                  · intro same
                    refine ⟨⟨addressed, serialized, transported, recorded.1,
                      ?_⟩, (Answer.replied.inj same).symm⟩
                    intro audited
                    rcases recorded.2 with absent | recorded
                    · rw [← Option.not_isSome, audited] at absent
                      contradiction
                    · exact recorded
                  · rintro ⟨_, same⟩
                    rw [same]
              · next unrecorded =>
                  refine iff_of_false (by simp) ?_
                  rintro ⟨takes, _⟩
                  apply unrecorded
                  rw [takes.recorded, Bool.true_and, Bool.or_eq_true]
                  cases audit : write.audit with
                  | none => exact .inl rfl
                  | some record =>
                      exact .inr (takes.audited (by rw [audit]; rfl))

theorem Endpoint.write_replied_iff
    (json : (Value.dict payload).jsonable = true) :
    (∃ reply, (here.write op payload).answer = .replied reply) ↔
      here.WriteMeets op payload := by
  unfold Endpoint.WriteMeets
  cases proceeds : here.proceeds op payload with
  | false =>
      refine iff_of_true ?_ (by simp)
      rcases here.write_of_not_proceeds proceeds with ⟨error, refused⟩
      refine ⟨dictOf [("error", .str error)], ?_⟩
      rw [Endpoint.write, refused]
      rfl
  | true =>
      rcases here.write_of_proceeds proceeds json with
        ⟨message, made, sendable⟩
      rw [imp_iff_right rfl, ← isSome_principalId here.toAgent]
      unfold Endpoint.AsksFor Endpoint.write
      rw [made]
      cases here.toAgent.principalId payload with
      | none =>
          refine iff_of_false ?_ ?_
          · rintro ⟨reply, replied⟩
            contradiction
          · rintro ⟨readable, _⟩
            contradiction
      | some actor =>
          simp only [Option.map_some, Option.isSome_some, true_and,
            here.deliver_replied_iff (sendable actor)]
          constructor
          · rintro ⟨reply, takes, _⟩ write ⟨answered, same⟩
            have equal := congrArg Prod.fst (Option.some.inj same)
            rw [← Option.some.inj equal]
            exact takes
          · intro all
            exact ⟨_, all _ ⟨_, rfl⟩, rfl⟩

/-- A write to a name without an address is refused, if it is answered. -/
theorem Endpoint.refused_of_unaddressed
    (json : (Value.dict payload).jsonable = true)
    (meets : here.WriteMeets op payload)
    (lost : here.addressed (here.target payload) = false) :
    ∃ error, here.write op payload =
      { answer := .replied (dictOf [("error", .str error)]) } := by
  have stopped : here.proceeds op payload = false := by
    cases proceeds : here.proceeds op payload with
    | false => rfl
    | true =>
        rcases here.write_of_proceeds proceeds json with
          ⟨message, made, sendable⟩
        rcases meets proceeds with ⟨readable, takes⟩
        rw [← isSome_principalId here.toAgent] at readable
        rcases Option.isSome_iff_exists.mp readable with ⟨actor, known⟩
        rw [known] at made
        have address := (takes _ ⟨_, made⟩).addressed
        rw [(sendable actor).target, lost] at address
        contradiction
  rcases here.write_of_not_proceeds stopped with ⟨error, refused⟩
  refine ⟨error, ?_⟩
  rw [Endpoint.write, refused]
  rfl

end Writes

/-! ## Reads -/

section Reads

variable {here : Endpoint} {payload : Dict}

/-- The detail of an agent is shown if what the agent declares is JSON. -/
theorem Endpoint.agentDetail_isSome_iff (name : String) :
    (here.agentDetail name).isSome = true ↔
      ∀ record, here.findAgent name = some record → record.json = true := by
  unfold Endpoint.agentDetail Introspection.buildAgentDetail
  cases here.findAgent name with
  | none =>
      refine iff_of_true ?_ (by simp)
      exact rawJson_isSome_iff here.toIntrospection _ _
  | some record =>
      simp only [Option.map_some, rawJson_isSome_iff, jsonable_describeAgent,
        Option.some.injEq, forall_eq']

theorem Endpoint.read_isSome_iff (name : String) :
    (here.read name payload).isSome = true ↔
      here.ReadMeets name payload := by
  unfold Endpoint.read Endpoint.ReadMeets
  by_cases health : name = "health"
  · subst health
    rw [if_pos rfl, rawJson_isSome_iff]
    exact iff_of_true rfl ⟨by simp, by simp, by simp, by simp, by simp⟩
  rw [if_neg health]
  by_cases topology : name = "topology"
  · subst topology
    rw [if_pos rfl, rawJson_isSome_iff, jsonable_buildTopology]
    exact ⟨fun json => ⟨fun _ => json, by simp, by simp, by simp, by simp⟩,
      fun meets => meets.1 rfl⟩
  rw [if_neg topology]
  by_cases agents : name = "agents"
  · subst agents
    rw [if_pos rfl, rawJson_isSome_iff, jsonable_buildAgentsList]
    exact ⟨fun json => ⟨by simp, fun _ => json, by simp, by simp, by simp⟩,
      fun meets => meets.2.1 rfl⟩
  rw [if_neg agents]
  by_cases detail : name = "agent_detail"
  · subst detail
    rw [if_pos rfl, here.agentDetail_isSome_iff]
    exact ⟨fun json => ⟨by simp, by simp, fun _ => json, by simp, by simp⟩,
      fun meets => meets.2.2.1 rfl⟩
  rw [if_neg detail]
  by_cases snapshot : name = "snapshot"
  · subst snapshot
    rw [if_pos rfl, rawJson_isSome_iff, jsonable_buildMetrics]
    exact iff_of_true rfl ⟨by simp, by simp, by simp, by simp, by simp⟩
  rw [if_neg snapshot]
  by_cases metrics : name = "metrics"
  · subst metrics
    rw [if_pos rfl]
    exact iff_of_true rfl ⟨by simp, by simp, by simp, by simp, by simp⟩
  rw [if_neg metrics]
  by_cases processes : name = "processes"
  · subst processes
    rw [if_pos rfl]
    have shown :
        (here.buildProcesses.bind (here.rawJson · 200)).isSome =
          here.buildProcesses.isSome := by
      cases built : here.buildProcesses with
      | none => rfl
      | some view =>
          rw [Option.bind_some, rawJson_isSome_iff,
            jsonable_buildProcesses here.toIntrospection built]
          rfl
    rw [shown, buildProcesses_isSome_iff]
    exact
      ⟨fun replies => ⟨by simp, by simp, by simp, fun _ => replies, by simp⟩,
      fun meets => meets.2.2.2.1 rfl⟩
  rw [if_neg processes]
  by_cases peek : name = "mailbox_peek"
  · subst peek
    rw [if_pos rfl, opMailboxPeek_isSome_iff]
    exact ⟨fun json => ⟨by simp, by simp, by simp, by simp, fun _ => json⟩,
      fun meets => meets.2.2.2.2 rfl⟩
  rw [if_neg peek, Endpoint.notFound, rawJson_isSome_iff]
  exact iff_of_true rfl
    ⟨fun same => absurd same topology, fun same => absurd same agents,
      fun same => absurd same detail, fun same => absurd same processes,
      fun same => absurd same peek⟩

theorem Served.ofRead_replied_iff (made : Option Dict) :
    (∃ reply, (Served.ofRead made).answer = .replied reply) ↔
      made.isSome = true := by
  cases made with
  | none => exact iff_of_false (by rintro ⟨_, ⟨⟩⟩) (by simp)
  | some reply => exact iff_of_true ⟨reply, rfl⟩ rfl

end Reads

/-! ## Requests -/

section Requests

variable {here : Endpoint} {request : CallRequest}

theorem Endpoint.answers_of_meets (meets : here.Meets request) :
    here.Answers request := by
  unfold Endpoint.Meets at meets
  unfold Endpoint.Answers Endpoint.handleCall writeOf
  split at meets
  · next name selected =>
      cases known : WriteOp.ofName name with
      | some op =>
          rw [known] at meets
          rcases (here.write_replied_iff request.json).mpr meets with
            ⟨reply, replied⟩
          refine ⟨reply, replied, fun _ lost => ?_⟩
          rcases here.refused_of_unaddressed request.json meets lost with
            ⟨error, refused⟩
          dsimp only at replied ⊢
          rw [refused] at replied ⊢
          rw [← Answer.replied.inj replied]
          exact ⟨rfl, rfl⟩
      | none =>
          rw [known] at meets
          rcases (Served.ofRead_replied_iff _).mpr
            ((here.read_isSome_iff name).mpr meets) with ⟨reply, replied⟩
          exact ⟨reply, replied, by simp⟩
  · rcases (Served.ofRead_replied_iff here.notFound).mpr
      (rawJson_isSome_iff here.toIntrospection _ _) with ⟨reply, replied⟩
    exact ⟨reply, replied, by simp⟩

theorem Endpoint.meets_of_answers (answers : here.Answers request) :
    here.Meets request := by
  rcases answers with ⟨reply, replied, _⟩
  unfold Endpoint.handleCall at replied
  unfold Endpoint.Meets
  split at replied
  · next name selected =>
      cases known : WriteOp.ofName name with
      | some op =>
          rw [known] at replied
          exact (here.write_replied_iff request.json).mp ⟨reply, replied⟩
      | none =>
          rw [known] at replied
          exact (here.read_isSome_iff name).mp
            ((Served.ofRead_replied_iff _).mp ⟨reply, replied⟩)
  · trivial

theorem Endpoint.not_crashes_of_answers (answers : here.Answers request) :
    here.crashes request = false := by
  rcases answers with ⟨reply, replied, _⟩
  rw [Endpoint.crashes, replied]

/--
Whatever happens to the system in between, a sequence of requests is answered
and leaves no crash to the supervisor precisely if every request meets the
condition in the state in which it comes.
-/
theorem requests_answered_iff (history : List (Endpoint × CallRequest)) :
    ((∀ event ∈ history, event.1.Answers event.2) ∧
        restartsUsed history = 0) ↔
      ∀ event ∈ history, event.1.Meets event.2 := by
  constructor
  · rintro ⟨answered, _⟩ event within
    exact Endpoint.meets_of_answers (answered event within)
  · intro meets
    have answered : ∀ event ∈ history, event.1.Answers event.2 :=
      fun event within => Endpoint.answers_of_meets (meets event within)
    refine ⟨answered, ?_⟩
    rw [restartsUsed, List.countP_eq_zero]
    intro event within
    rw [Endpoint.not_crashes_of_answers (answered event within)]
    exact Bool.false_ne_true

end Requests

/-- The topology agent of a system with no other agent. -/
def lonelyEndpoint : Endpoint where
  name := "topology"
  rootSupervisor := none
  agents := []
  channels := []
  metrics := none
  sample := none
  wired := true
  probe _ := .failed
  transportClass := "InProcessTransport"
  dumps _ := ""
  renderPrometheus _ := ""
  str := textOnly
  repr text := "'" ++ text ++ "'"
  registered name := name = "topology"
  hasReplyAddress _ := false
  serializes _ := true
  transport _ := .taken
  recordsRoute _ := true
  recordsInjection _ := true

/-- A request to suspend an agent that is not there. -/
def suspendGhost : CallRequest where
  payload :=
    dictOf [("__op__", .str "suspend"), ("name", .str "ghost")]
  json := by decide

/-- Suspending an unknown agent crashes the topology agent. -/
theorem unknown_agent_crashes_endpoint :
    ¬ lonelyEndpoint.Answers suspendGhost ∧
      lonelyEndpoint.crashes suspendGhost = true ∧
        restartsUsed [(lonelyEndpoint, suspendGhost)] = 1 := by
  have crashed : lonelyEndpoint.crashes suspendGhost = true := by
    decide +kernel
  refine ⟨?_, crashed, ?_⟩
  · intro answers
    rw [Endpoint.not_crashes_of_answers answers] at crashed
    contradiction
  · rw [restartsUsed, List.countP_cons, crashed]
    rfl

end Civitas.Gateway
