import Civitas.Security.ShortWire
import Civitas.Transport.Replies

/-!
# The receiver loop of ZMQ

`ZMQTransport._receiver_loop` is the only reader of the socket of a process.
It decodes the topic of a frame, puts a reply into the queue of its request,
and calls the handler of every other address that is subscribed.  The loop
ends on `CancelledError` and on `ZMQError`; any other exception that the topic
or a handler raises ends its task.

The requests of the process and the tasks that publish to them are those of
the module on replies, and the loop is one of these publishers.
-/

namespace Civitas.Transport.ReceiverLoop

open Civitas.Transition
open Civitas.PyValue (Bytes)
open Civitas.Security

variable {σ : Type}

/-! ## Topics -/

/-- `_TOPIC_SEP`. -/
def topicSep : Bytes := [0]

/-- `str.encode`. -/
def encode (text : String) : Bytes :=
  text.toUTF8.data.toList

/-- `bytes.decode`; `none` when it raises. -/
def decode (data : Bytes) : Option String :=
  String.fromUTF8? ⟨data.toArray⟩

/-- `topic_raw.removesuffix(_TOPIC_SEP)`. -/
def removeSep (topic : Bytes) : Bytes :=
  if topic.getLast? = some 0 then topic.dropLast else topic

theorem decode_encode (text : String) : decode (encode text) = some text := by
  have same : (⟨(encode text).toArray⟩ : ByteArray) = text.toByteArray := by
    simp [encode]
  simp only [decode, same, String.fromUTF8?]
  exact dif_pos text.isValidUTF8

/-- The topic of an address names it. -/
theorem decode_removeSep (address : String) :
    decode (removeSep (encode address ++ topicSep)) = some address := by
  have stripped : removeSep (encode address ++ topicSep) = encode address := by
    simp [removeSep, topicSep]
  rw [stripped, decode_encode]

/-! ## Handlers -/

/-- What is raised while a message is handled. -/
inductive Raised where
  /-- `UnicodeDecodeError` of a topic. -/
  | unicode
  /-- An exception of `deserialize`. -/
  | payload (error : DeserializeError)
  /-- Another exception of a handler. -/
  | handler
deriving DecidableEq

/-- A subscribed handler, with the state of the process that it works on. -/
abbrev Handler (σ : Type) := σ → Bytes → σ × Option Raised

/--
`_on_message_received` of the bus.  `receive` is what `agent.receive` raises
for a message; the nonce cache is the one of the serializer.
-/
def onMessageReceived
    (signer : MessageSigner) (receive : MessageFields → Option Raised) :
    Handler NonceCache := fun cache data =>
  match signer.deserialize cache data with
  | (.ok message, cache) => (cache, receive message)
  | (.error error, cache) => (cache, some (.payload error))

/-- The handler of the bus raises unless it accepts the payload. -/
theorem onMessageReceived_returns_iff
    {signer : MessageSigner} {receive : MessageFields → Option Raised}
    {cache : NonceCache} {data : Bytes} :
    (onMessageReceived signer receive cache data).2 = none ↔
      ∃ message, (signer.deserialize cache data).1 = .ok message ∧
        receive message = none := by
  unfold onMessageReceived
  rcases signer.deserialize cache data with ⟨result, after⟩
  cases result with
  | ok message => simp
  | error error => simp

/-! ## State -/

/-- How the loop ends. -/
inductive Exit where
  | cancelled
  /-- `ZMQError` of the socket. -/
  | socketError
  /-- An exception that the loop does not catch. -/
  | raised (error : Raised)
deriving DecidableEq

/-- Where the loop stands. -/
inductive Loop (σ : Type) where
  /-- `await self._sub.recv_multipart()`. -/
  | receiving
  /-- `await self._reply_queues[address].put(data)`. -/
  | putting
  /-- `await handler(data)`. -/
  | handling (handler : Handler σ) (data : Bytes)
  | exited (reason : Exit)

/-- How the loop has ended. -/
def Loop.reason : Loop σ → Option Exit
  | .exited reason => some reason
  | _ => none

/-- A multipart message, with the subscriptions at its receipt. -/
structure Taken where
  frames : List Bytes
  subscribed : String → Bool

/-- A call of a handler, for the message at a position. -/
structure Handed where
  position : Nat
  address : String
  data : Bytes
deriving DecidableEq

/-- The process, its tables and the receiver loop. -/
structure State (σ : Type) where
  process : σ
  /-- `_reply_queues`, and the tasks at them. -/
  replies : Replies.State Bytes := {}
  /-- `_handlers`. -/
  handlers : String → Option (Handler σ) := fun _ => none
  loop : Loop σ := .receiving
  /-- The multipart messages that the socket holds. -/
  socket : List (List Bytes) := []
  /-- All that have come to the socket. -/
  arrivals : List (List Bytes) := []
  /-- Those that the loop has received. -/
  taken : List Taken := []
  handed : List Handed := []

namespace State

/-- `address in self._reply_queues`. -/
def awaits (s : State σ) (address : String) : Bool :=
  (s.replies.requests address).any Replies.Request.listed

/-- The loop goes on after a `put`, unless it has to wait. -/
def proceed (s : State σ) (replies : Replies.State Bytes) : State σ :=
  { s with
    replies := replies
    loop := if replies.blocked .receiver then .putting else .receiving }

/-- The put of the loop into a reply queue: what another process has published
arrives. -/
def reply (s : State σ) (address : String) (data : Bytes) :
    Option (State σ) :=
  (Replies.step .zmq s.replies (.remote address data)).bind fun sent =>
    (Replies.step .zmq sent (.arrive s.replies.wire.length)).map s.proceed

/-- A message goes to its reply queue, or to its handler. -/
def dispatch (s : State σ) (address : String) (data : Bytes) :
    Option (State σ) :=
  if s.awaits address then s.reply address data
  else
    match s.handlers address with
    | some handler =>
        some
          { s with
            handed := s.handed ++ [⟨s.taken.length - 1, address, data⟩]
            loop := .handling handler data }
    | none => some s

/-- One multipart message comes out of the socket. -/
def take (s : State σ) (frames : List Bytes) (rest : List (List Bytes)) :
    State σ :=
  { s with
    socket := rest
    taken := s.taken ++ [⟨frames, fun address => (s.handlers address).isSome⟩] }

/-- The round of the loop for one multipart message. -/
def round (s : State σ) (frames : List Bytes) : Option (State σ) :=
  match frames with
  | [topic, data] =>
      match decode (removeSep topic) with
      | none => some { s with loop := .exited (.raised .unicode) }
      | some address => s.dispatch address data
  | _ => some s

end State

/-! ## Steps -/

/-- What the socket, the loop and the tasks of the process do. -/
inductive Label (σ : Type) where
  /-- A multipart message comes to the socket. -/
  | arrive (frames : List Bytes)
  /-- The loop receives. -/
  | receive
  /-- The handler returns, or raises. -/
  | handled
  /-- The put of the loop goes on. -/
  | resumed
  /-- The task of the loop is cancelled. -/
  | cancel
  | socketError
  | subscribe (address : String) (handler : Handler σ)
  | unsubscribe (address : String)
  /-- A request, or a task that publishes to one. -/
  | tasks (label : Replies.Label Bytes)

/-- The label is of another task than the loop. -/
def ofTasks : Replies.Label Bytes → Bool
  | .remote _ _ | .arrive _ => false
  | .resume publisher | .abandon publisher => publisher ≠ .receiver
  | _ => true

/-- Reply addresses are not the addresses of agents. -/
def State.fresh (s : State σ) : Replies.Label Bytes → Bool
  | .opens address => (s.handlers address).isNone
  | _ => true

/-- One step of the process. -/
def step (s : State σ) : Label σ → Option (State σ)
  | .arrive frames =>
      some
        { s with
          socket := s.socket ++ [frames]
          arrivals := s.arrivals ++ [frames] }
  | .receive =>
      match s.loop, s.socket with
      | .receiving, frames :: rest => (s.take frames rest).round frames
      | _, _ => none
  | .handled =>
      match s.loop with
      | .handling handler data =>
          match handler s.process data with
          | (process, none) =>
              some { s with process := process, loop := .receiving }
          | (process, some error) =>
              some
                { s with
                  process := process
                  loop := .exited (.raised error) }
      | _ => none
  | .resumed =>
      match s.loop with
      | .putting =>
          (Replies.step .zmq s.replies (.resume .receiver)).map s.proceed
      | _ => none
  | .cancel =>
      match s.loop with
      | .exited _ => none
      | .putting =>
          (Replies.step .zmq s.replies (.abandon .receiver)).map fun replies =>
            { s with replies := replies, loop := .exited .cancelled }
      | _ => some { s with loop := .exited .cancelled }
  | .socketError =>
      match s.loop with
      | .receiving => some { s with loop := .exited .socketError }
      | _ => none
  | .subscribe address handler =>
      if (s.replies.requests address).isNone then
        some
          { s with
            handlers := Function.update s.handlers address (some handler) }
      else none
  | .unsubscribe address =>
      some { s with handlers := Function.update s.handlers address none }
  | .tasks label =>
      if ofTasks label && s.fresh label then
        (Replies.step .zmq s.replies label).map fun replies =>
          { s with replies := replies }
      else none

/-! ## The condition -/

/--
The topics can be decoded, no handler raises, and the publishers of replies,
the loop among them, are spared.
-/
def benign (s : State σ) : Label σ → Bool
  | .receive =>
      match s.socket with
      | [topic, _] :: _ =>
          match decode (removeSep topic) with
          | none => false
          | some address => s.replies.spare address
      | _ => true
  | .handled =>
      match s.loop with
      | .handling handler data => (handler s.process data).2.isNone
      | _ => true
  | .tasks label => Replies.spared s.replies label
  | _ => true

/-- The process hears what it is sent. -/
structure Attentive (s : State σ) : Prop where
  exits : ∀ reason, s.loop.reason = some reason →
    reason = .cancelled ∨ reason = .socketError
  /-- The loop receives in the order of arrival. -/
  order : s.arrivals = s.taken.map Taken.frames ++ s.socket
  /-- A message for a subscribed address has been handed to its handler. -/
  handed : ∀ position entry address data,
    s.taken[position]? = some entry →
      entry.frames = [encode address ++ topicSep, data] →
        entry.subscribed address = true →
          ⟨position, address, data⟩ ∈ s.handed
  /-- Once, and in the order of arrival. -/
  sorted : s.handed.Pairwise fun earlier later =>
    earlier.position < later.position
  /-- The loop can receive what the socket holds. -/
  receives : ∀ frames rest, s.loop = .receiving →
    s.socket = frames :: rest → (step s .receive).isSome = true
  /-- Nothing but a cancellation or an error of the socket ends it. -/
  continues : ∀ label after, benign s label = true →
    step s label = some after → s.loop.reason = none →
      after.loop.reason = none ∨ label = .cancel ∨ label = .socketError
  /-- It receives again when the handler that it has called returns. -/
  handles : ∀ handler data, s.loop = .handling handler data →
    (handler s.process data).2 = none →
      ∃ after, step s .handled = some after ∧ after.loop = .receiving
  /-- It receives again when there is room for the reply that it puts. -/
  resumes : s.loop = .putting →
    (∃ put ∈ s.replies.woken, put.publisher = .receiver) →
      ∃ after, step s .resumed = some after ∧ after.loop = .receiving
  /-- The loop waits only for a request that is going to read, or has read. -/
  waits : s.loop = .putting → ∃ put : Replies.Put Bytes,
    put.publisher = .receiver ∧ ∃ request,
      s.replies.requests put.reply.address = some request ∧
        (put ∈ s.replies.woken ∧ request.item = none ∨
          put ∈ s.replies.waiting ∧
            (request.phase = .preparing ∨ request.phase = .awaiting))

/-! ## The puts of the loop -/

section Blocked

variable {s after : Replies.State Bytes} {label : Replies.Label Bytes}

/-- The puts that the loop waits in. -/
def loopPuts (s : Replies.State Bytes) : Nat :=
  (s.waiting ++ s.woken).countP fun put => put.publisher = .receiver

theorem blocked_iff (s : Replies.State Bytes) :
    s.blocked .receiver = true ↔ 0 < loopPuts s := by
  simp only [Replies.State.blocked, loopPuts, List.any_eq_true,
    List.countP_pos_iff]

theorem blocked_eq_false_iff (s : Replies.State Bytes) :
    s.blocked .receiver = false ↔ loopPuts s = 0 := by
  rw [← Bool.not_eq_true, blocked_iff]
  omega

theorem loopPuts_put
    {publisher : Replies.Publisher} {reply : Replies.Reply Bytes}
    {request : Replies.Request Bytes}
    (other : publisher ≠ .receiver) :
    loopPuts (s.put publisher reply request) = loopPuts s := by
  unfold Replies.State.put
  split
  · rfl
  · simp [loopPuts, other]

/-- A put of the loop goes through, or waits. -/
theorem loopPuts_put_receiver
    (s : Replies.State Bytes) (reply : Replies.Reply Bytes)
    (request : Replies.Request Bytes) :
    loopPuts (s.put .receiver reply request) =
      if request.item.isSome then loopPuts s + 1 else loopPuts s := by
  unfold Replies.State.put
  cases request.item with
  | none => rfl
  | some item =>
      simp only [loopPuts, List.countP_append, List.countP_singleton]
      simp
      omega

theorem loopPuts_wake (address : String) :
    loopPuts (s.wake address) = loopPuts s := by
  unfold Replies.State.wake
  split
  · rfl
  · rename_i put found
    have same : (s.waiting.eraseP
          (fun put => put.reply.address = address) ++
            (s.woken ++ [put])).Perm
        (s.waiting ++ s.woken) := by
      rw [← List.append_assoc]
      refine (List.perm_append_singleton _ _).trans ?_
      exact ((Replies.perm_cons_eraseP_of_find found).append_right _).symm
    exact same.countP_eq _

theorem loopPuts_deliver
    {publisher : Replies.Publisher} {reply : Replies.Reply Bytes}
    (other : publisher ≠ .receiver)
    (delivered : s.deliver publisher reply = some after) :
    loopPuts after = loopPuts s := by
  unfold Replies.State.deliver at delivered
  split at delivered
  · split at delivered
    · cases delivered
      exact loopPuts_put other
    · cases delivered
  · cases delivered

/-- Another publisher is taken out of a list of puts. -/
theorem countP_receiver_eraseP
    {publisher : Replies.Publisher} (puts : List (Replies.Put Bytes))
    (other : publisher ≠ .receiver) :
    (puts.eraseP fun put => put.publisher = publisher).countP
        (fun put => put.publisher = .receiver) =
      puts.countP fun put => put.publisher = .receiver := by
  induction puts with
  | nil => rfl
  | cons put rest ih =>
      by_cases same : put.publisher = publisher
      · rw [List.eraseP_cons_of_pos (by simpa using same)]
        simp [same, other]
      · rw [List.eraseP_cons_of_neg (by simpa using same)]
        simp only [List.countP_cons, ih]

/-- The other tasks neither make the loop wait nor end its waiting. -/
theorem loopPuts_step
    (others : ofTasks label = true)
    (stepped : Replies.step .zmq s label = some after) :
    loopPuts after = loopPuts s := by
  cases Replies.effect_of_step stepped with
  | opens | prepared | fail | cancel | leave | unsubscribed => rfl
  | remote | arrive => cases others
  | fetch => exact loopPuts_wake _
  | publish elsewhere =>
      rename_i task address data other
      cases delivered :
          (s.record (s.next address data)).deliver (.task task)
            (s.next address data) with
      | none =>
          rcases elsewhere with rfl | rfl
          · rfl
          · rfl
      | some sent =>
          have kept :
              loopPuts sent =
                loopPuts (s.record (s.next address data)) := by
            refine loopPuts_deliver ?_ delivered
            simp
          exact kept
  | resume found held =>
      have other := of_decide_eq_true others
      rw [loopPuts_put other]
      simp only [loopPuts, List.countP_append,
        countP_receiver_eraseP s.woken other]
  | withdraw =>
      simp only [loopPuts, List.countP_append,
        countP_receiver_eraseP s.waiting (of_decide_eq_true others)]
  | abandon found held outcome =>
      rename_i publisher put request
      have left :
          loopPuts
              { s with
                woken :=
                  s.woken.eraseP fun put => put.publisher = publisher } =
            loopPuts s := by
        simp only [loopPuts, List.countP_append,
          countP_receiver_eraseP s.woken (of_decide_eq_true others)]
      rcases outcome with rfl | rfl
      · exact left
      · rw [loopPuts_wake, left]

/-- What arrives for the loop makes it wait in one put at most. -/
theorem loopPuts_arrive
    {position : Nat} (free : loopPuts s = 0)
    (stepped : Replies.step .zmq s (.arrive position) = some after) :
    loopPuts after ≤ 1 := by
  cases Replies.effect_of_step stepped with
  | arrive found =>
      rename_i reply
      have taken :
          loopPuts { s with wire := s.wire.eraseIdx position } = 0 := free
      unfold Replies.State.deliver
      split
      · split
        · rw [Option.getD_some]
          simp only [Replies.Kind.receiver]
          rw [loopPuts_put_receiver, taken]
          split <;> omega
        · exact taken.trans_le (Nat.zero_le 1)
      · exact taken.trans_le (Nat.zero_le 1)

/-- The one put of the loop leaves the woken ones. -/
theorem loopPuts_erase
    {put : Replies.Put Bytes} (alone : loopPuts s = 1)
    (member : put ∈ s.woken)
    (own : decide (put.publisher = .receiver) = true) :
    loopPuts
      { s with
        woken := s.woken.eraseP fun put => put.publisher = .receiver } =
      0 := by
  have fewer :
      (s.woken.eraseP fun put => put.publisher = .receiver).countP
          (fun put => put.publisher = .receiver) + 1 =
        s.woken.countP fun put => put.publisher = .receiver := by
    rcases List.exists_of_eraseP
        (p := fun put : Replies.Put Bytes => put.publisher = .receiver)
        member own with
      ⟨first, before, rest, none, found, shape, erased⟩
    rw [erased, shape]
    simp only [List.countP_append, List.countP_cons, found, if_true]
    omega
  simp only [loopPuts, List.countP_append] at alone ⊢
  omega

/-- A woken put of the loop runs, and there is one at most after it. -/
theorem loopPuts_resume
    (alone : loopPuts s = 1)
    (stepped : Replies.step .zmq s (.resume .receiver) = some after) :
    loopPuts after ≤ 1 := by
  cases Replies.effect_of_step stepped with
  | resume found held =>
      rename_i put request
      have own := List.find?_some found
      have left :
          loopPuts
            { s with
              woken :=
                s.woken.eraseP fun put => put.publisher = .receiver } =
            0 :=
        loopPuts_erase alone (List.mem_of_find?_eq_some found) own
      rw [loopPuts_put_receiver, left]
      split <;> omega

end Blocked

/-! ## Addresses without a request -/

section Unrequested

variable {s after : Replies.State Bytes} {label : Replies.Label Bytes}
  {address : String}

theorem unrequested_set
    {own : String} {found request : Replies.Request Bytes}
    (unrequested : s.requests address = none)
    (held : s.requests own = some found) :
    (s.set own request).requests address = none := by
  have other : address ≠ own := by
    rintro rfl
    cases held.symm.trans unrequested
  exact (Function.update_of_ne other ..).trans unrequested

theorem unrequested_put
    {publisher : Replies.Publisher} {reply : Replies.Reply Bytes}
    {request : Replies.Request Bytes}
    (unrequested : s.requests address = none)
    (held : s.requests reply.address = some request) :
    (s.put publisher reply request).requests address = none := by
  unfold Replies.State.put
  split
  · exact unrequested_set unrequested held
  · exact unrequested

theorem unrequested_deliver
    {publisher : Replies.Publisher} {reply : Replies.Reply Bytes}
    {elsewhere : Replies.State Bytes}
    (unrequested : s.requests address = none)
    (otherwise : elsewhere.requests address = none) :
    ((s.deliver publisher reply).getD elsewhere).requests address = none := by
  unfold Replies.State.deliver
  split
  · rename_i request held
    split
    · exact unrequested_put unrequested held
    · exact otherwise
  · exact otherwise

/-- Only `request` lists a reply address. -/
theorem unrequested_step
    (unrequested : s.requests address = none)
    (stepped : Replies.step .zmq s label = some after)
    (other : label ≠ .opens address) :
    after.requests address = none := by
  cases Replies.effect_of_step stepped with
  | opens fresh =>
      rename_i own
      have apart : address ≠ own := by
        rintro rfl
        exact other rfl
      exact (Function.update_of_ne apart ..).trans unrequested
  | prepared held | fail held | cancel held | leave held | unsubscribed held =>
      exact unrequested_set unrequested held
  | fetch held =>
      rename_i own request reply awaiting item
      have same := s.requests_wake own
      exact @unrequested_set (s.wake own) address own request _
        ((congrFun same address).trans unrequested)
        ((congrFun same own).trans held)
  | publish elsewhere =>
      refine unrequested_deliver unrequested ?_
      rcases elsewhere with rfl | rfl
      · exact unrequested
      · exact unrequested
  | remote => exact unrequested
  | arrive => exact unrequested_deliver unrequested unrequested
  | resume found held => exact unrequested_put unrequested held
  | withdraw => exact unrequested
  | abandon found held outcome =>
      rcases outcome with rfl | rfl
      · exact unrequested
      · rw [Replies.State.requests_wake]
        exact unrequested

end Unrequested

/-! ## The invariant -/

/-- What the logs say. -/
structure Logged (s : State σ) : Prop where
  order : s.arrivals = s.taken.map Taken.frames ++ s.socket
  handed : ∀ position entry address data,
    s.taken[position]? = some entry →
      entry.frames = [encode address ++ topicSep, data] →
        entry.subscribed address = true →
          ⟨position, address, data⟩ ∈ s.handed
  sorted : s.handed.Pairwise fun earlier later =>
    earlier.position < later.position
  positions : ∀ call ∈ s.handed, call.position < s.taken.length

/-- Where the loop is. -/
structure Placed (loop : Loop σ) (replies : Replies.State Bytes) : Prop where
  exits : ∀ reason, loop.reason = some reason →
    reason = .cancelled ∨ reason = .socketError
  receiving : loop = .receiving → loopPuts replies = 0
  handling : ∀ handler data, loop = .handling handler data →
    loopPuts replies = 0
  putting : loop = .putting → loopPuts replies = 1

/-- What holds in every run that meets the condition. -/
structure Serving (s : State σ) : Prop where
  sound : Replies.Sound s.replies
  apart : ∀ address, (s.handlers address).isSome = true →
    s.replies.requests address = none
  logged : Logged s
  placed : Placed s.loop s.replies

section Serving

variable {s after : State σ} {label : Label σ}

theorem serving_init (process : σ) : Serving { process := process } where
  sound := ⟨Replies.filed_init, Replies.roomy_init⟩
  apart := by simp
  logged := ⟨rfl, by simp, .nil, by simp⟩
  placed := ⟨by rintro _ ⟨⟩, fun _ => rfl, by simp, by simp⟩

/-- The logs are not touched by what else happens. -/
theorem Logged.other
    (logged : Logged s) {process : σ} {replies : Replies.State Bytes}
    {handlers : String → Option (Handler σ)} {loop : Loop σ} :
    Logged
      { s with
        process := process
        replies := replies
        handlers := handlers
        loop := loop } :=
  ⟨logged.order, logged.handed, logged.sorted, logged.positions⟩

/-- A message comes out of the socket that is for no subscribed address. -/
theorem Logged.take
    (logged : Logged s) {frames : List Bytes} {rest : List (List Bytes)}
    (held : s.socket = frames :: rest)
    (foreign : ∀ address data,
      frames = [encode address ++ topicSep, data] →
        (s.handlers address).isSome = false) :
    Logged (s.take frames rest) where
  order := by
    simp [State.take, logged.order, held]
  handed := by
    intro position entry address data found shape subscribed
    simp only [State.take] at found
    by_cases old : position < s.taken.length
    · rw [List.getElem?_append_left old] at found
      exact logged.handed position entry address data found shape subscribed
    · rw [List.getElem?_append_right (Nat.le_of_not_lt old)] at found
      have new : entry ∈ [_] := List.mem_of_getElem? found
      cases List.mem_singleton.mp new
      cases (foreign address data shape).symm.trans subscribed
  sorted := logged.sorted
  positions call within := by
    have earlier := logged.positions call within
    simp only [State.take, List.length_append, List.length_singleton]
    omega

/-- A message comes out of the socket and is handed to its handler. -/
theorem Logged.hand
    (logged : Logged s) {topic data : Bytes} {rest : List (List Bytes)}
    {address : String} {loop : Loop σ}
    (held : s.socket = [topic, data] :: rest)
    (named : decode (removeSep topic) = some address) :
    Logged
      { s.take [topic, data] rest with
        handed := s.handed ++ [⟨s.taken.length, address, data⟩]
        loop := loop } where
  order := by
    simp [State.take, logged.order, held]
  handed := by
    intro position entry other payload found shape subscribed
    simp only [State.take] at found
    refine List.mem_append.mpr ?_
    by_cases old : position < s.taken.length
    · rw [List.getElem?_append_left old] at found
      exact .inl
        (logged.handed position entry other payload found shape subscribed)
    · have last : position = s.taken.length := by
        have bound := (List.getElem?_eq_some_iff.mp found).1
        simp only [List.length_append, List.length_singleton] at bound
        omega
      subst last
      rw [List.getElem?_append_right (Nat.le_refl _), Nat.sub_self] at found
      cases found
      simp only [List.cons.injEq, and_true] at shape
      rcases shape with ⟨rfl, rfl⟩
      rw [decode_removeSep] at named
      cases named
      exact .inr (List.mem_singleton.mpr rfl)
  sorted := by
    refine List.pairwise_append.mpr
      ⟨logged.sorted, List.pairwise_singleton _ _, ?_⟩
    intro call within new same
    cases List.mem_singleton.mp same
    exact logged.positions call within
  positions := by
    intro call within
    simp only [State.take, List.length_append, List.length_singleton]
    rcases List.mem_append.mp within with earlier | new
    · have bound := logged.positions call earlier
      omega
    · cases List.mem_singleton.mp new
      exact Nat.lt_succ_self _

theorem placed_proceed
    {replies : Replies.State Bytes} (few : loopPuts replies ≤ 1) :
    Placed (s.proceed replies).loop replies := by
  unfold State.proceed
  cases blocked : replies.blocked .receiver with
  | true =>
      have one : loopPuts replies = 1 := by
        have some := (blocked_iff replies).mp blocked
        omega
      exact ⟨by rintro _ ⟨⟩, by simp, by simp, fun _ => one⟩
  | false =>
      have none := (blocked_eq_false_iff replies).mp blocked
      exact ⟨by rintro _ ⟨⟩, fun _ => none, by simp, by simp⟩

/-- The other tasks leave the loop where it is. -/
theorem Placed.same
    {loop : Loop σ} {before replies : Replies.State Bytes}
    (placed : Placed loop before)
    (kept : loopPuts replies = loopPuts before) :
    Placed loop replies where
  exits := placed.exits
  receiving at_ := kept.trans (placed.receiving at_)
  handling handler data at_ := kept.trans (placed.handling handler data at_)
  putting at_ := kept.trans (placed.putting at_)

/-- The state in which a reply has arrived for the loop. -/
theorem sound_reply
    {before sent replies : Replies.State Bytes} {address : String}
    {data : Bytes}
    (sound : Replies.Sound before) (spare : before.spare address = true)
    (published :
      Replies.step .zmq before (.remote address data) = some sent)
    (arrived :
      Replies.step .zmq sent (.arrive before.wire.length) = some replies) :
    Replies.Sound replies := by
  have known := sound.step rfl published
  refine known.step ?_ arrived
  cases published
  have last :
      (before.wire ++ [before.next address data])[before.wire.length]? =
        some (before.next address data) := by
    simp
  simp only [Replies.spared, last, Option.all_some]
  exact spare

/-- The loop puts, or waits to put, the reply that it has received. -/
theorem Serving.reply
    (serving : Serving s) (free : loopPuts s.replies = 0)
    {address : String} {data : Bytes}
    (spare : s.replies.spare address = true)
    (replied : s.reply address data = some after) : Serving after := by
  rcases Option.bind_eq_some_iff.mp replied with ⟨sent, published, went⟩
  rcases Option.map_eq_some_iff.mp went with ⟨replies, arrived, rfl⟩
  have between : loopPuts sent = 0 := by
    cases published
    exact free
  refine ⟨sound_reply serving.sound spare published arrived, ?_, ?_,
    placed_proceed (loopPuts_arrive between arrived)⟩
  · intro other subscribed
    have before := serving.apart other subscribed
    have between := unrequested_step before published (by simp)
    exact unrequested_step between arrived (by simp)
  · exact serving.logged.other

/-- No request awaits what comes for a subscribed address. -/
theorem Serving.unawaited
    (serving : Serving s) {address : String}
    (subscribed : (s.handlers address).isSome = true) :
    s.awaits address = false := by
  simp [State.awaits, serving.apart address subscribed]

/-- A message that the loop does not hand to a handler is received. -/
theorem Serving.take
    (serving : Serving s) {frames : List Bytes} {rest : List (List Bytes)}
    (held : s.socket = frames :: rest)
    (foreign : ∀ address data,
      frames = [encode address ++ topicSep, data] →
        (s.handlers address).isSome = false) :
    Serving (s.take frames rest) :=
  ⟨serving.sound, serving.apart, serving.logged.take held foreign,
    serving.placed⟩

/-- The round of the loop for a message whose topic can be decoded. -/
theorem Serving.dispatch
    (serving : Serving s) (receiving : s.loop = .receiving)
    {topic data : Bytes} {rest : List (List Bytes)} {address : String}
    (held : s.socket = [topic, data] :: rest)
    (named : decode (removeSep topic) = some address)
    (spare : s.replies.spare address = true)
    (dispatched :
      (s.take [topic, data] rest).dispatch address data = some after) :
    Serving after := by
  have names : ∀ other payload,
      [topic, data] = [encode other ++ topicSep, payload] →
        other = address := by
    intro other payload shape
    simp only [List.cons.injEq, and_true] at shape
    rw [shape.1, decode_removeSep] at named
    exact Option.some.inj named
  unfold State.dispatch at dispatched
  split at dispatched
  · rename_i awaited
    refine
      (serving.take held ?_).reply (serving.placed.receiving receiving) spare
        dispatched
    intro other payload shape
    cases names other payload shape
    cases subscribed : (s.handlers address).isSome with
    | false => rfl
    | true => cases (serving.unawaited subscribed).symm.trans awaited
  · split at dispatched
    · rename_i handler found
      cases dispatched
      refine ⟨serving.sound, serving.apart, ?_, ?_⟩
      · have handed :=
          @Logged.hand _ s serving.logged topic data rest address
            (.handling handler data) held named
        simpa [State.take] using handed
      · have free := serving.placed.receiving receiving
        exact ⟨by rintro _ ⟨⟩, by simp, fun _ _ _ => free, by simp⟩
    · rename_i none
      cases dispatched
      refine serving.take held ?_
      intro other payload shape
      cases names other payload shape
      exact Option.isSome_eq_false_iff.mpr
        (Option.isNone_iff_eq_none.mpr none)

theorem Serving.receive
    (serving : Serving s) (receiving : s.loop = .receiving)
    {frames : List Bytes} {rest : List (List Bytes)}
    (held : s.socket = frames :: rest)
    (permitted : benign s .receive = true)
    (received : (s.take frames rest).round frames = some after) :
    Serving after := by
  unfold State.round at received
  split at received
  · rename_i topic data
    simp only [benign, held] at permitted
    cases named : decode (removeSep topic) with
    | none =>
        rw [named] at permitted
        cases permitted
    | some address =>
        rw [named] at permitted received
        exact serving.dispatch receiving held named permitted received
  · rename_i other
    cases received
    refine serving.take held ?_
    intro address data shape
    exact absurd shape (other _ _)

theorem Serving.step
    (serving : Serving s) (permitted : benign s label = true)
    (stepped : step s label = some after) : Serving after := by
  rcases serving with ⟨sound, apart, logged, placed⟩
  cases label with
  | arrive frames =>
      cases stepped
      refine ⟨sound, apart, ⟨?_, ?_, ?_, ?_⟩, placed⟩
      · simp [logged.order]
      · exact logged.handed
      · exact logged.sorted
      · exact logged.positions
  | receive =>
      simp only [ReceiverLoop.step] at stepped
      split at stepped
      · rename_i frames rest receiving held
        have before : Serving s := ⟨sound, apart, logged, placed⟩
        exact before.receive receiving held permitted stepped
      · cases stepped
  | handled =>
      simp only [ReceiverLoop.step] at stepped
      split at stepped
      · rename_i handler data handling
        simp only [benign, handling, Option.isNone_iff_eq_none] at permitted
        split at stepped
        · cases stepped
          have free := placed.handling handler data handling
          refine
            ⟨sound, apart, ?_,
              ⟨by rintro _ ⟨⟩, fun _ => free, by simp, by simp⟩⟩
          exact logged.other
        · rename_i process error outcome
          rw [outcome] at permitted
          cases permitted
      · cases stepped
  | resumed =>
      simp only [ReceiverLoop.step] at stepped
      split at stepped
      · rcases Option.map_eq_some_iff.mp stepped with ⟨replies, went, rfl⟩
        refine ⟨sound.step rfl went, ?_, ?_,
          placed_proceed (loopPuts_resume (placed.putting ‹_›) went)⟩
        · intro address subscribed
          exact unrequested_step (apart address subscribed) went (by simp)
        · exact logged.other
      · cases stepped
  | cancel =>
      have left : ∀ replies,
          Placed (σ := σ) (.exited .cancelled) replies := by
        intro replies
        refine ⟨?_, by simp, by simp, by simp⟩
        intro reason exited
        cases exited
        exact .inl rfl
      simp only [ReceiverLoop.step] at stepped
      split at stepped
      · cases stepped
      · rcases Option.map_eq_some_iff.mp stepped with ⟨replies, went, rfl⟩
        refine ⟨sound.step rfl went, ?_, ?_, left replies⟩
        · intro address subscribed
          exact unrequested_step (apart address subscribed) went (by simp)
        · exact logged.other
      · cases stepped
        refine ⟨sound, apart, ?_, left s.replies⟩
        exact logged.other
  | socketError =>
      simp only [ReceiverLoop.step] at stepped
      split at stepped
      · cases stepped
        refine ⟨sound, apart, ?_, ?_, by simp, by simp, by simp⟩
        · exact logged.other
        · intro reason exited
          cases exited
          exact .inr rfl
      · cases stepped
  | subscribe address handler =>
      simp only [ReceiverLoop.step] at stepped
      split at stepped
      · rename_i unrequested
        cases stepped
        refine ⟨sound, ?_, ?_, placed⟩
        · intro other subscribed
          by_cases same : other = address
          · subst same
            exact Option.isNone_iff_eq_none.mp unrequested
          · simp only [Function.update_of_ne same] at subscribed
            exact apart other subscribed
        · exact logged.other
      · cases stepped
  | unsubscribe address =>
      cases stepped
      refine ⟨sound, ?_, ?_, placed⟩
      · intro other subscribed
        by_cases same : other = address
        · subst same
          simp at subscribed
        · simp only [Function.update_of_ne same] at subscribed
          exact apart other subscribed
      · exact logged.other
  | tasks label =>
      simp only [ReceiverLoop.step] at stepped
      split at stepped
      · rename_i guarded
        rw [Bool.and_eq_true] at guarded
        rcases Option.map_eq_some_iff.mp stepped with ⟨replies, went, rfl⟩
        refine ⟨sound.step permitted went, ?_, ?_,
          placed.same (loopPuts_step guarded.1 went)⟩
        · intro address subscribed
          refine unrequested_step (apart address subscribed) went ?_
          rintro rfl
          rw [State.fresh, Option.isNone_iff_eq_none] at guarded
          rw [guarded.2] at subscribed
          cases subscribed
        · exact logged.other
      · cases stepped

theorem reply_isSome
    (free : s.replies.blocked .receiver = false)
    (address : String) (data : Bytes) :
    (s.reply address data).isSome = true := by
  have unblocked :
      { s.replies.record (s.replies.next address data) with
        wire :=
          s.replies.wire ++ [s.replies.next address data] }.blocked
        .receiver = false := free
  simp [State.reply, Replies.step, Replies.Kind.receiver, unblocked]

theorem reason_proceed (s : State σ) (replies : Replies.State Bytes) :
    (s.proceed replies).loop.reason = none := by
  unfold State.proceed
  split <;> rfl

/-- A message for an address that can be decoded does not end the loop. -/
theorem reason_dispatch
    {address : String} {data : Bytes} (running : s.loop.reason = none)
    (dispatched : s.dispatch address data = some after) :
    after.loop.reason = none := by
  unfold State.dispatch at dispatched
  split at dispatched
  · rcases Option.bind_eq_some_iff.mp dispatched with ⟨sent, -, went⟩
    rcases Option.map_eq_some_iff.mp went with ⟨replies, -, rfl⟩
    exact reason_proceed s replies
  · split at dispatched
    · cases dispatched
      rfl
    · cases dispatched
      exact running

theorem reason_receive
    {frames : List Bytes} {rest : List (List Bytes)}
    (running : s.loop.reason = none) (held : s.socket = frames :: rest)
    (permitted : benign s .receive = true)
    (received : (s.take frames rest).round frames = some after) :
    after.loop.reason = none := by
  unfold State.round at received
  split at received
  · simp only [benign, held] at permitted
    split at received
    · rename_i undecodable
      rw [undecodable] at permitted
      cases permitted
    · exact @reason_dispatch _ (s.take _ rest) _ _ _ running received
  · cases received
    exact running

/-- The steps that meet the condition and end the loop. -/
theorem continues_step
    (running : s.loop.reason = none) (permitted : benign s label = true)
    (stepped : ReceiverLoop.step s label = some after) :
    after.loop.reason = none ∨ label = .cancel ∨ label = .socketError := by
  cases label with
  | cancel => exact .inr (.inl rfl)
  | socketError => exact .inr (.inr rfl)
  | arrive frames =>
      cases stepped
      exact .inl running
  | receive =>
      simp only [ReceiverLoop.step] at stepped
      split at stepped
      · rename_i frames rest receiving held
        exact .inl (reason_receive running held permitted stepped)
      · cases stepped
  | handled =>
      simp only [ReceiverLoop.step] at stepped
      split at stepped
      · rename_i handler data handling
        simp only [benign, handling, Option.isNone_iff_eq_none] at permitted
        split at stepped
        · cases stepped
          exact .inl rfl
        · rename_i process error outcome
          rw [outcome] at permitted
          cases permitted
      · cases stepped
  | resumed =>
      simp only [ReceiverLoop.step] at stepped
      split at stepped
      · rcases Option.map_eq_some_iff.mp stepped with ⟨replies, -, rfl⟩
        exact .inl (reason_proceed s replies)
      · cases stepped
  | subscribe address handler =>
      simp only [ReceiverLoop.step] at stepped
      split at stepped
      · cases stepped
        exact .inl running
      · cases stepped
  | unsubscribe address =>
      cases stepped
      exact .inl running
  | tasks label =>
      simp only [ReceiverLoop.step] at stepped
      split at stepped
      · rcases Option.map_eq_some_iff.mp stepped with ⟨replies, -, rfl⟩
        exact .inl running
      · cases stepped

/-- A put that has been woken goes through. -/
theorem Serving.resumes
    (serving : Serving s) (putting : s.loop = .putting)
    (woken : ∃ put ∈ s.replies.woken, put.publisher = .receiver) :
    ∃ after, ReceiverLoop.step s .resumed = some after ∧
      after.loop = .receiving := by
  rcases woken with ⟨first, member, own⟩
  cases found :
      s.replies.woken.find? fun put => put.publisher = .receiver with
  | none =>
      exact absurd own (by simpa using List.find?_eq_none.mp found first member)
  | some put =>
      have within := List.mem_of_find?_eq_some found
      have own := List.find?_some found
      rcases serving.sound.roomy.woken put within with
        ⟨request, held, -, empty⟩
      have left :=
        loopPuts_erase (serving.placed.putting putting) within own
      have free :
          Replies.State.blocked
              (Replies.State.put
                { s.replies with
                  woken :=
                    s.replies.woken.eraseP fun put =>
                      put.publisher = .receiver }
                .receiver put.reply request)
              .receiver = false := by
        rw [blocked_eq_false_iff, loopPuts_put_receiver, left, empty]
        rfl
      simp only [ReceiverLoop.step, putting, Replies.step, found,
        Option.bind_some, held, Option.map_some]
      refine ⟨_, rfl, ?_⟩
      unfold State.proceed
      exact if_neg (Bool.eq_false_iff.mp free)

theorem Serving.attentive (serving : Serving s) : Attentive s where
  exits := serving.placed.exits
  order := serving.logged.order
  handed := serving.logged.handed
  sorted := serving.logged.sorted
  continues := by
    intro label after permitted stepped running
    exact continues_step running permitted stepped
  handles := by
    intro handler data handling returns
    simp only [ReceiverLoop.step, handling]
    rcases outcome : handler s.process data with ⟨process, raised⟩
    rw [outcome] at returns
    cases returns
    exact ⟨_, rfl, rfl⟩
  resumes := serving.resumes
  receives := by
    intro frames rest receiving held
    have free := serving.placed.receiving receiving
    simp only [ReceiverLoop.step, receiving, held]
    unfold State.round
    split
    · split
      · rfl
      · unfold State.dispatch
        split
        · exact
            @reply_isSome _ (s.take _ rest)
              ((blocked_eq_false_iff _).mpr free) _ _
        · split
          · rfl
          · rfl
    · rfl
  waits := by
    intro putting
    have blocked : 0 < loopPuts s.replies := by
      rw [serving.placed.putting putting]
      exact Nat.one_pos
    rcases List.countP_pos_iff.mp blocked with ⟨put, within, own⟩
    have publisher : put.publisher = .receiver := of_decide_eq_true own
    rcases List.mem_append.mp within with waiting | woken
    · rcases serving.sound.roomy.waiting put waiting with
        ⟨request, found, reads⟩
      exact ⟨put, publisher, request, found, .inr ⟨waiting, reads⟩⟩
    · rcases serving.sound.roomy.woken put woken with
        ⟨request, found, -, empty⟩
      exact ⟨put, publisher, request, found, .inl ⟨woken, empty⟩⟩

/--
In every run in which the topics can be decoded, no handler raises and the
publishers of replies are spared, the process hears what it is sent.
-/
theorem attentive_in_every_run
    (process : σ)
    (reached :
      Reaches step (fun s label => benign s label = true)
        { process := process } s) :
    Attentive s := by
  have serving : Serving s := by
    refine reached.invariant (serving_init process) ?_
    intro before label after holds permitted stepped
    exact holds.step permitted stepped
  exact serving.attentive

end Serving

/-- A message of `admin`, signed. -/
def parcel : Civitas.PyValue.Dict :=
  sealedEnvelope "admin" "admin" (List.replicate 16 9)
    (Civitas.PyValue.dictOf
      [("type", .str "order"), ("sender", .str "admin"),
        ("recipient", .str "billing")])

/-- A parcel, packed. -/
def parcelBytes : Bytes :=
  (shortPackb (.dict parcel)).getD []

/-- The handler of an agent that takes every message. -/
def billing : Handler NonceCache :=
  onMessageReceived (strictReceiver [parcel] ["admin"]) fun _ => none

/-- The topic of `billing`. -/
def billingTopic : Bytes :=
  encode "billing" ++ topicSep

theorem parcel_heard :
    ∃ s : State NonceCache,
      Reaches step (fun s label => benign s label = true)
          { process := Civitas.BoundedCache.Cache.empty } s ∧
        Attentive s ∧ s.loop.reason = none ∧ s.socket = [] ∧
        s.handed = [⟨1, "billing", parcelBytes⟩] := by
  have ran :
      ((runWhere step (fun s label => benign s label = true)
          { process := Civitas.BoundedCache.Cache.empty }
          [.subscribe "billing" billing, .arrive [billingTopic],
            .arrive [billingTopic, parcelBytes], .receive, .receive,
            .handled]).map fun s =>
        decide (s.loop.reason = none ∧ s.socket = [] ∧
          s.handed = [⟨1, "billing", parcelBytes⟩])) =
        some true := by
    decide +kernel
  rcases exists_reaches_of_run ran with ⟨s, run, seen⟩
  exact ⟨s, run, attentive_in_every_run _ run, of_decide_eq_true seen⟩

/--
A payload that is no MessagePack ends the loop, and the parcel that follows
stays in the socket.
-/
theorem bad_payload_silences_process :
    ¬ ∀ s : State NonceCache,
      Reaches step (fun _ _ => True)
          { process := Civitas.BoundedCache.Cache.empty } s →
        Attentive s := by
  intro attentive
  have ran :
      ((runWhere step (fun _ _ => True)
          ({ process := Civitas.BoundedCache.Cache.empty } : State NonceCache)
          [.subscribe "billing" billing, .arrive [billingTopic, [0xc1]],
            .receive, .handled,
            .arrive [billingTopic, parcelBytes]]).map fun s =>
        decide (s.loop.reason = some (.raised (.payload .malformed)))) =
        some true := by
    decide +kernel
  rcases exists_reaches_of_run ran with ⟨s, run, seen⟩
  have exits := (attentive s run).exits _
    (of_decide_eq_true seen)
  rcases exits with cancelled | failed
  · cases cancelled
  · cases failed

end Civitas.Transport.ReceiverLoop
