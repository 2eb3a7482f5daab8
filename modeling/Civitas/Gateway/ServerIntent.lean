import Civitas.Gateway.Surfaces
import Civitas.Gateway.TopologyAgent

/-!
# The intent of a request to a generic server

`GenServer.handle` of `genserver.py` decides between `handle_call`,
`handle_cast` and `handle_info` from two things: whether the message carries a
reply address, and whether its payload carries a true `__cast__` key, which it
takes out again.  The senders that mean a cast are `AgentProcess.cast` and
`Runtime.cast`, which write that key into the payload of the caller, and the
cast mode of the gateway, which does not.

The serializers carry the payloads that the senders accept unchanged, so a
message is received as it was put on the bus.
-/

namespace Civitas.Gateway

open Civitas.PyText
open Civitas.PyValue

/-! ## Senders -/

/-- The ways of making a request to a generic server. -/
inductive EntryPoint where
  | agentCall
  | runtimeCall
  | routeCall (msgType : String)
  | agentCast
  | runtimeCast
  | routeCast (msgType : String)
  | grpcCast (type : String)
  | sendAfter

/-- `{**payload, "__cast__": True}`. -/
def markCast (payload : Dict) : Dict :=
  merge payload (dictOf [("__cast__", .bool true)])

/-- What an entry point hands to `ask` or `send`. -/
def EntryPoint.dispatch
    (server : String) (payload : Dict) : EntryPoint → Dispatch
  | .agentCall | .runtimeCall =>
      { mode := .call
        recipient := server
        msgType := "message"
        payload := payload }
  | .routeCall msgType =>
      { mode := .call
        recipient := server
        msgType := msgType
        payload := payload }
  | .agentCast | .runtimeCast =>
      { mode := .cast
        recipient := server
        msgType := "message"
        payload := markCast payload }
  | .routeCast msgType =>
      { mode := .cast
        recipient := server
        msgType := msgType
        payload := payload }
  | .grpcCast type =>
      GrpcCall.dispatch
        { method := .cast
          recipient := server
          type := type
          payload := payload }
  | .sendAfter =>
      { mode := .cast
        recipient := server
        msgType := "genserver.info"
        payload := payload }

/-- The sender on the message: a timer is set by the server itself. -/
def EntryPoint.sender (caller server : String) : EntryPoint → String
  | .runtimeCall | .runtimeCast => "_runtime"
  | .sendAfter => server
  | _ => caller

/-! ## The server -/

/-- The callbacks of a generic server. -/
inductive Callback where
  | handleCall
  | handleCast
  | handleInfo
deriving DecidableEq

/-- A callback invoked with a payload; `handle_call` also gets the sender. -/
structure Invocation where
  callback : Callback
  payload : Dict
  sender : Option String := none

/-- `payload.get("__cast__")` is true. -/
def castMarked (payload : Dict) : Bool :=
  (field payload "__cast__" .none).truthy

/-- `{k: v for k, v in payload.items() if k != "__cast__"}`. -/
def unmarkCast (payload : Dict) : Dict :=
  payload.filter (·.1 ≠ .str "__cast__")

/-- `GenServer.handle` down to the callback of the server. -/
def genServerHandle (message : BusMessage) : Invocation :=
  if message.replyTo.isSome then
    { callback := .handleCall
      payload := message.payload
      sender := some message.sender }
  else if castMarked message.payload then
    { callback := .handleCast
      payload := unmarkCast message.payload }
  else
    { callback := .handleInfo
      payload := message.payload }

/-- What a server does with a message that its loop takes from the mailbox. -/
def serverReceives (message : BusMessage) : Option Invocation :=
  if message.type ∈ loopTypes then none
  else some (genServerHandle message)

/-! ## The law and its condition -/

/-- The callback that a request made through an entry point is meant for. -/
def EntryPoint.intent : EntryPoint → Callback
  | .agentCall | .runtimeCall | .routeCall _ => .handleCall
  | .agentCast | .runtimeCast | .routeCast _ | .grpcCast _ => .handleCast
  | .sendAfter => .handleInfo

/-- Two dictionaries with the same value under every key. -/
def SamePayload (given expected : Dict) : Prop :=
  ∀ key : MapKey, given.lookup key = expected.lookup key

/-- The intended callback is invoked with the payload of the caller. -/
def EntryPoint.Followed
    (entry : EntryPoint) (payload : Dict)
    (received : Option Invocation) : Prop :=
  ∃ invocation, received = some invocation ∧
    invocation.callback = entry.intent ∧
    SamePayload invocation.payload payload

/-- The marker and the message type do not get in the way of the intent. -/
def EntryPoint.Unambiguous
    (entry : EntryPoint) (payload : Dict) : Prop :=
  match entry with
  | .agentCall | .runtimeCall => True
  | .routeCall msgType => msgType ∉ loopTypes
  | .agentCast | .runtimeCast => field? payload "__cast__" = none
  | .routeCast _ | .grpcCast _ => False
  | .sendAfter => castMarked payload = false

/-! ## Payloads and the marker -/

theorem SamePayload.refl (payload : Dict) : SamePayload payload payload :=
  fun _ => rfl

theorem field?_unmarkCast (payload : Dict) :
    field? (unmarkCast payload) "__cast__" = none := by
  rw [field?, List.lookup_eq_none_iff]
  intro entry member
  have kept := (List.mem_filter.mp member).2
  rw [decide_eq_true_eq] at kept
  exact bne_iff_ne.mpr (Ne.symm kept)

/-- Taking the marker out leaves every other key alone. -/
theorem lookup_unmarkCast
    (payload : Dict) {key : MapKey} (other : key ≠ .str "__cast__") :
    (unmarkCast payload).lookup key = payload.lookup key := by
  induction payload with
  | nil => rfl
  | cons entry rest ih =>
      rcases entry with ⟨name, value⟩
      have tail :
          List.lookup key
              (rest.filter fun entry => entry.1 ≠ .str "__cast__") =
            rest.lookup key := ih
      by_cases marker : name = .str "__cast__"
      · have skipped : (key == name) = false := by
          rw [marker]
          exact beq_eq_false_iff_ne.mpr other
        simp only [unmarkCast, List.filter_cons, marker, ne_eq,
          not_true_eq_false, decide_false, Bool.false_eq_true, if_false]
        rw [tail, List.lookup_cons, ← marker, skipped]
      · simp only [unmarkCast, List.filter_cons, marker, ne_eq,
          not_false_eq_true, decide_true, if_true, List.lookup_cons]
        rw [tail]

/-- A payload survives losing the marker exactly when it never had one. -/
theorem samePayload_unmarkCast_iff (payload : Dict) :
    SamePayload (unmarkCast payload) payload ↔
      field? payload "__cast__" = none := by
  constructor
  · intro same
    rw [field?, ← same]
    exact field?_unmarkCast payload
  · intro unmarked key
    by_cases marker : key = .str "__cast__"
    · rw [marker]
      exact (field?_unmarkCast payload).trans unmarked.symm
    · exact lookup_unmarkCast payload marker

theorem castMarked_markCast (payload : Dict) :
    castMarked (markCast payload) = true := by
  simp [castMarked, markCast, field, field?, merge, dictOf, Value.truthy]

theorem unmarkCast_markCast (payload : Dict) :
    unmarkCast (markCast payload) = unmarkCast payload := by
  simp [unmarkCast, markCast, merge, dictOf]

/-- An unmarked payload is one whose marker is absent or false. -/
theorem field?_ne_none_of_castMarked
    {payload : Dict} (marked : castMarked payload = true) :
    field? payload "__cast__" ≠ none := by
  intro unmarked
  rw [castMarked, field, unmarked] at marked
  cases marked

/-! ## What a server receives -/

/-- The loop of the agent keeps the messages it interprets itself. -/
theorem serverReceives_interpreted
    {message : BusMessage} (interpreted : message.type ∈ loopTypes) :
    serverReceives message = none :=
  if_pos interpreted

/-- A message with a reply address is a call, whatever its payload says. -/
theorem serverReceives_call
    {message : BusMessage} (plain : message.type ∉ loopTypes)
    (asks : message.replyTo.isSome = true) :
    serverReceives message =
      some
        { callback := .handleCall
          payload := message.payload
          sender := some message.sender } := by
  rw [serverReceives, if_neg plain, genServerHandle, if_pos asks]

/-- Without a reply address, a marked payload is a cast. -/
theorem serverReceives_marked
    {message : BusMessage} (plain : message.type ∉ loopTypes)
    (quiet : message.replyTo.isSome = false)
    (marked : castMarked message.payload = true) :
    serverReceives message =
      some
        { callback := .handleCast
          payload := unmarkCast message.payload } := by
  rw [serverReceives, if_neg plain, genServerHandle, if_neg (by simp [quiet]),
    if_pos marked]

/-- Without a reply address, any other payload is an internal message. -/
theorem serverReceives_unmarked
    {message : BusMessage} (plain : message.type ∉ loopTypes)
    (quiet : message.replyTo.isSome = false)
    (unmarked : castMarked message.payload = false) :
    serverReceives message =
      some
        { callback := .handleInfo
          payload := message.payload } := by
  rw [serverReceives, if_neg plain, genServerHandle, if_neg (by simp [quiet]),
    if_neg (by simp [unmarked])]

/-- An unmarked cast is never received as the cast it was meant as. -/
theorem not_followed_of_unmarked_send
    {entry : EntryPoint} {message : BusMessage}
    (meant : entry.intent = .handleCast)
    (quiet : message.replyTo.isSome = false) :
    ¬ entry.Followed message.payload (serverReceives message) := by
  rintro ⟨invocation, received, callback, same⟩
  by_cases interpreted : message.type ∈ loopTypes
  · rw [serverReceives_interpreted interpreted] at received
    cases received
  · cases marked : castMarked message.payload with
    | true =>
        rw [serverReceives_marked interpreted quiet marked] at received
        cases received
        apply field?_ne_none_of_castMarked marked
        exact (samePayload_unmarkCast_iff _).mp same
    | false =>
        rw [serverReceives_unmarked interpreted quiet marked] at received
        cases received
        rw [meant] at callback
        cases callback

/-- A cast of an agent or of the runtime keeps a payload without marker. -/
theorem markedCast_followed_iff
    {entry : EntryPoint} {message : BusMessage} {payload : Dict}
    (meant : entry.intent = .handleCast)
    (plain : message.type ∉ loopTypes)
    (quiet : message.replyTo.isSome = false)
    (carries : message.payload = markCast payload) :
    entry.Followed payload (serverReceives message) ↔
      field? payload "__cast__" = none := by
  have marked : castMarked message.payload = true := by
    rw [carries]
    exact castMarked_markCast payload
  rw [serverReceives_marked plain quiet marked, carries,
    unmarkCast_markCast, ← samePayload_unmarkCast_iff]
  constructor
  · rintro ⟨_, received, _, same⟩
    cases received
    exact same
  · intro same
    exact ⟨_, rfl, meant.symm, same⟩

/-- A call reaches `handle_call` unless the loop interprets its type. -/
theorem call_followed_iff
    {entry : EntryPoint} {message : BusMessage}
    (meant : entry.intent = .handleCall)
    (asks : message.replyTo.isSome = true) :
    entry.Followed message.payload (serverReceives message) ↔
      message.type ∉ loopTypes := by
  constructor
  · rintro ⟨_, received, _, _⟩ interpreted
    rw [serverReceives_interpreted interpreted] at received
    cases received
  · intro plain
    rw [serverReceives_call plain asks]
    exact ⟨_, rfl, meant.symm, SamePayload.refl _⟩

/-- A timer reaches `handle_info` unless its payload is marked as a cast. -/
theorem timer_followed_iff
    {entry : EntryPoint} {message : BusMessage}
    (meant : entry.intent = .handleInfo)
    (plain : message.type ∉ loopTypes)
    (quiet : message.replyTo.isSome = false) :
    entry.Followed message.payload (serverReceives message) ↔
      castMarked message.payload = false := by
  cases marked : castMarked message.payload with
  | true =>
      refine iff_of_false ?_ Bool.noConfusion
      rintro ⟨_, received, callback, _⟩
      rw [serverReceives_marked plain quiet marked] at received
      cases received
      rw [meant] at callback
      cases callback
  | false =>
      rw [serverReceives_unmarked plain quiet marked]
      exact iff_of_true ⟨_, rfl, meant.symm, SamePayload.refl _⟩ rfl

/--
A request put on the bus reaches the callback that its entry point means, with
the payload of its caller, exactly when neither the message type nor a
`__cast__` key of the payload gets in the way.
-/
theorem intent_followed_iff
    {here : Surroundings} {entry : EntryPoint}
    {caller server : String} {payload : Dict} {message : BusMessage}
    (sent :
      here.attempt (entry.sender caller server)
        (entry.dispatch server payload) = .ok message) :
    entry.Followed payload (serverReceives message) ↔
      entry.Unambiguous payload := by
  have made := ((here.attempt_ok_iff _ _ _).mp sent).2.2
  have plain : "message" ∉ loopTypes ∧ "genserver.info" ∉ loopTypes := by
    decide
  subst made
  cases entry with
  | agentCall =>
      exact (call_followed_iff rfl rfl).trans (iff_true_intro plain.1)
  | runtimeCall =>
      exact (call_followed_iff rfl rfl).trans (iff_true_intro plain.1)
  | routeCall msgType => exact call_followed_iff rfl rfl
  | agentCast => exact markedCast_followed_iff rfl plain.1 rfl rfl
  | runtimeCast => exact markedCast_followed_iff rfl plain.1 rfl rfl
  | routeCast msgType =>
      exact iff_of_false (not_followed_of_unmarked_send rfl rfl) id
  | grpcCast type =>
      exact iff_of_false (not_followed_of_unmarked_send rfl rfl) id
  | sendAfter => exact timer_followed_iff rfl plain.2 rfl

/-- An agent calls a counter; the counter is registered. -/
theorem marked_payload_of_a_call_is_followed :
    EntryPoint.agentCall.Followed (dictOf [("__cast__", .bool true)])
      (serverReceives
        ((EntryPoint.agentCall.dispatch "counter"
          (dictOf [("__cast__", .bool true)])).message "caller")) := by
  have sent :
      ((openEdge fun _ => none).surroundings 0).attempt
          (EntryPoint.agentCall.sender "caller" "counter")
          (EntryPoint.agentCall.dispatch "counter"
            (dictOf [("__cast__", .bool true)])) =
        .ok ((EntryPoint.agentCall.dispatch "counter"
          (dictOf [("__cast__", .bool true)])).message "caller") := by
    rw [Surroundings.attempt_ok_iff]
    exact ⟨by decide +kernel, by decide +kernel, rfl⟩
  exact (intent_followed_iff sent).mpr trivial

/-- A cast through a route of the gateway reaches `handle_info` instead. -/
theorem routeCast_is_not_followed :
    ∃ message,
      ((openEdge fun _ => none).surroundings 0).attempt "gateway"
          ((EntryPoint.routeCast "http.request").dispatch "counter"
            (dictOf [("type", .str "reset")])) = .ok message ∧
        (serverReceives message).map (·.callback) = some .handleInfo ∧
        ¬ (EntryPoint.routeCast "http.request").Followed
          (dictOf [("type", .str "reset")]) (serverReceives message) := by
  refine
    ⟨((EntryPoint.routeCast "http.request").dispatch "counter"
        (dictOf [("type", .str "reset")])).message "gateway", ?_, ?_, ?_⟩
  · rw [Surroundings.attempt_ok_iff]
    exact ⟨by decide +kernel, by decide +kernel, rfl⟩
  · decide +kernel
  · exact not_followed_of_unmarked_send rfl rfl

end Civitas.Gateway
