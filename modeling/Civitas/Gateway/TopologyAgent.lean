import Civitas.Gateway.Dispatch

/-!
# The topology agent

`TopologyAgent.handle_call` of `topology_server.py`: the operation is chosen
by the `__op__` key of the payload, and the acting principal is read from its
`__principal__` key.  The agent is a `GenServer`, so a message reaches
`handle_call` when it carries a reply address and its type is not interpreted
by the message loop.

The read operations render views of the runtime; they are a parameter.
-/

namespace Civitas.Gateway

open Civitas.PyText
open Civitas.PyValue

/-- The write operations of the control plane. -/
inductive WriteOp where
  | suspend
  | resume
  | restart
  | mailboxInject
deriving DecidableEq

/-- The operation a value of `__op__` selects, if it is a write. -/
def WriteOp.ofName (name : String) : Option WriteOp :=
  if name = "suspend" then some .suspend
  else if name = "resume" then some .resume
  else if name = "restart" then some .restart
  else if name = "mailbox_inject" then some .mailboxInject
  else none

/--
An executed write: the message routed to the target and, for an injected
message, the audit record.
-/
structure ControlWrite where
  op : WriteOp
  target : String
  messageType : String
  body : Dict
  audit : Option Dict := none

/-- The actor a write records: `initiated_by`, or the approver of a resume. -/
def ControlWrite.actor? (write : ControlWrite) : Option Value :=
  match write.op with
  | .suspend | .restart => field? write.body "initiated_by"
  | .resume => field? write.body "approver"
  | .mailboxInject => write.audit.bind (field? · "initiated_by")

/-- A topology agent; `views` renders the read operations. -/
structure TopologyAgent where
  name : String
  str : StrFunction
  /-- `repr()` of a text. -/
  repr : String → String
  wired : Bool
  views : Dict → Dict

/-- The reply of a call, and the write it executed. -/
abbrev CallOutcome := Option ControlWrite × Dict

/-- `_principal_id`; `none` when the principal is not a dictionary. -/
def TopologyAgent.principalId
    (agent : TopologyAgent) (payload : Dict) : Option String :=
  match field? payload "__principal__" with
  | none => some "unauthenticated"
  | some principal =>
      if principal.truthy then
        match principal with
        | .dict entries =>
            some (agent.str.render
              (field entries "id" (.str "unauthenticated")))
        | _ => none
      else some "unauthenticated"

/-- `str(payload.get(name, default))`. -/
def TopologyAgent.text
    (agent : TopologyAgent) (payload : Dict) (name default : String) :
    String :=
  agent.str.render (field payload name (.str default))

/-- A refusal of a write. -/
def refusal (error : String) : CallOutcome :=
  (none, dictOf [("error", .str error)])

/-- `_op_suspend` for a named target. -/
def TopologyAgent.opSuspend
    (agent : TopologyAgent) (payload : Dict) (target : String) :
    Option CallOutcome :=
  (agent.principalId payload).map fun actor =>
    (some
      { op := .suspend
        target := target
        messageType := "_agency.suspend"
        body :=
          dictOf
            [("reason", .str (agent.text payload "reason" "")),
              ("category", .str (agent.text payload "category" "other")),
              ("initiated_by", .str actor)] },
      dictOf
        [("status", .str "suspend_requested"), ("agent", .str target),
          ("initiated_by", .str actor)])

/-- `_op_resume` for a named target. -/
def TopologyAgent.opResume
    (agent : TopologyAgent) (payload : Dict) (target : String) :
    Option CallOutcome :=
  (agent.principalId payload).map fun actor =>
    (some
      { op := .resume
        target := target
        messageType := "_agency.resume"
        body := dictOf [("approver", .str actor)] },
      dictOf
        [("status", .str "resume_requested"), ("agent", .str target),
          ("approver", .str actor)])

/-- `_op_restart` for a named target. -/
def TopologyAgent.opRestart
    (agent : TopologyAgent) (payload : Dict) (target : String) :
    Option CallOutcome :=
  (agent.principalId payload).map fun actor =>
    (some
      { op := .restart
        target := target
        messageType := "_agency.force_restart"
        body :=
          dictOf
            [("reason", .str (agent.text payload "reason" "")),
              ("initiated_by", .str actor)] },
      dictOf
        [("status", .str "restart_requested"), ("agent", .str target),
          ("initiated_by", .str actor)])

/-- `_op_mailbox_inject` for a named target. -/
def TopologyAgent.opMailboxInject
    (agent : TopologyAgent) (payload : Dict) (target : String) :
    Option CallOutcome :=
  let messageType := agent.text payload "type" ""
  if messageType = "" then some (refusal "message 'type' required")
  else if startsWith messageType "_agency." ||
      startsWith messageType "civitas." then
    some (refusal
      ("cannot inject reserved/system message type " ++
        agent.repr messageType))
  else
    (agent.principalId payload).map fun actor =>
      (some
        { op := .mailboxInject
          target := target
          messageType := messageType
          body :=
            match field? payload "payload" with
            | some (.dict body) => body
            | _ => []
          audit :=
            some (dictOf
              [("target", .str target),
                ("message_type", .str messageType),
                ("initiated_by", .str actor)]) },
        dictOf
          [("status", .str "injected"), ("agent", .str target),
            ("message_type", .str messageType),
            ("initiated_by", .str actor)])

/-- The checks every write shares, then the write itself. -/
def TopologyAgent.write
    (agent : TopologyAgent) (op : WriteOp) (payload : Dict) :
    Option CallOutcome :=
  let target := agent.text payload "name" ""
  if target = "" then some (refusal "agent name required")
  else if !agent.wired then some (refusal "runtime not available")
  else
    match op with
    | .suspend => agent.opSuspend payload target
    | .resume => agent.opResume payload target
    | .restart => agent.opRestart payload target
    | .mailboxInject => agent.opMailboxInject payload target

/-- `handle_call`; `none` when it raises. -/
def TopologyAgent.handleCall
    (agent : TopologyAgent) (payload : Dict) : Option CallOutcome :=
  match field? payload "__op__" with
  | some (.str name) =>
      match WriteOp.ofName name with
      | some op => agent.write op payload
      | none => some (none, agent.views payload)
  | _ => some (none, agent.views payload)

/-- Types that the message loop handles before `GenServer.handle`. -/
def loopTypes : List String :=
  ["_agency.shutdown", "civitas.eval.halt", "_agency.heartbeat",
    "_agency.suspend", "_agency.resume", "_agency.force_restart",
    "civitas.dynamic.terminated", "civitas.eval.correction"]

/-- The write that a message on the bus makes the agent execute. -/
def TopologyAgent.executes
    (agent : TopologyAgent) (message : BusMessage) : Option ControlWrite :=
  if message.recipient = agent.name ∧ message.type ∉ loopTypes ∧
      message.replyTo.isSome then
    (agent.handleCall message.payload).bind (·.1)
  else none

/-! ## What an executed write records -/

/-- A write built from the principal of the payload records it. -/
theorem TopologyAgent.actor_of_map
    {agent : TopologyAgent} {payload : Dict}
    {record : String → CallOutcome}
    {write : ControlWrite} {reply : Dict}
    (faithful : ∀ actor written,
      (record actor).1 = some written →
        written.actor? = some (.str actor))
    (written :
      (agent.principalId payload).map record = some (some write, reply)) :
    write.actor? = (agent.principalId payload).map Value.str := by
  rcases Option.map_eq_some_iff.mp written with ⟨actor, named, made⟩
  rw [named]
  apply faithful actor write
  rw [made]

/-- A write records the principal of its payload as the actor. -/
theorem TopologyAgent.write_actor
    {agent : TopologyAgent} {op : WriteOp} {payload : Dict}
    {write : ControlWrite} {reply : Dict}
    (written : agent.write op payload = some (some write, reply)) :
    write.actor? = (agent.principalId payload).map Value.str := by
  simp only [TopologyAgent.write] at written
  split at written
  · cases written
  · split at written
    · cases written
    · cases op with
      | suspend =>
          apply actor_of_map _ written
          intro actor made same
          cases same
          rfl
      | resume =>
          apply actor_of_map _ written
          intro actor made same
          cases same
          rfl
      | restart =>
          apply actor_of_map _ written
          intro actor made same
          cases same
          rfl
      | mailboxInject =>
          simp only [opMailboxInject] at written
          split at written
          · cases written
          · split at written
            · cases written
            · apply actor_of_map _ written
              intro actor made same
              cases same
              rfl

/-- An executed write was selected by `__op__` and records its principal. -/
theorem TopologyAgent.executes_some
    {agent : TopologyAgent} {message : BusMessage} {write : ControlWrite}
    (executed : agent.executes message = some write) :
    (∃ name op,
        field? message.payload "__op__" = some (.str name) ∧
          WriteOp.ofName name = some op) ∧
      write.actor? =
        (agent.principalId message.payload).map Value.str := by
  unfold executes at executed
  split at executed
  · rcases Option.bind_eq_some_iff.mp executed with
      ⟨⟨written, reply⟩, handled, same⟩
    cases same
    unfold handleCall at handled
    split at handled
    · rename_i name selected
      split at handled
      · rename_i op known
        exact ⟨⟨name, op, selected, known⟩, write_actor handled⟩
      · cases handled
    · cases handled
  · cases executed

end Civitas.Gateway
