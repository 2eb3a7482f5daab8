import Civitas.Transition
import Mathlib.Data.List.Nodup
import Mathlib.Logic.Function.Basic

/-!
# Requests and their replies

`request` and `publish` of the three transports.  A request waits for one item
in a reply queue of its own, which is listed under a fresh reply address in
`_reply_queues`.  A reply is put there by a task of this process, through
`publish`, or by the task that receives for the transport: the receiver loop
of ZMQ, or the callback of the subscription that NATS makes for the request.

The queue is an `asyncio.Queue` of `maxsize` one.  A `put` that finds it full
waits among its `_putters`.  A `get` wakes the first of them, and a putter that
is woken looks again whether the queue is full.  `request` calls `get` once.
-/

namespace Civitas.Transport.Replies

open Civitas.Transition

variable {δ : Type}

/-! ## State -/

/-- The transports. -/
inductive Kind where
  | inProcess
  | zmq
  | nats
deriving DecidableEq

/-- A task that puts into reply queues. -/
inductive Publisher where
  /-- A task of this process, in `publish`. -/
  | task (name : String)
  /-- The receiver loop of ZMQ. -/
  | receiver
  /-- The callback of the NATS subscription to a reply address. -/
  | callback (address : String)
deriving DecidableEq

/-- What is published to a reply address. -/
structure Reply (δ : Type) where
  /-- The number of the publication. -/
  id : Nat
  /-- The address that it has been published to. -/
  address : String
  data : δ
deriving DecidableEq

/-- A `put` that has found its reply queue full. -/
structure Put (δ : Type) where
  publisher : Publisher
  reply : Reply δ
deriving DecidableEq

/-- Where a request stands. -/
inductive Phase (δ : Type) where
  /-- The request has not come to `reply_queue.get()`. -/
  | preparing
  | awaiting
  /-- A timeout or a cancellation is on its way to the task. -/
  | leaving
  /-- NATS: `await sub.unsubscribe()`. -/
  | closing (result : Option (Reply δ))
  | finished (result : Option (Reply δ))
deriving DecidableEq

/-- The task has not left the `try` block of `request`. -/
def Phase.going : Phase δ → Bool
  | .preparing | .awaiting | .leaving => true
  | _ => false

/-- The reply that the request has read. -/
def Phase.result : Phase δ → Option (Reply δ)
  | .closing result | .finished result => result
  | _ => none

/-- A request and its reply queue. -/
structure Request (δ : Type) where
  phase : Phase δ := .preparing
  /-- The reply queue. -/
  item : Option (Reply δ) := none
  /-- The reply address is in `_reply_queues`. -/
  listed : Bool := true
deriving DecidableEq

/-- The requests of a process and the replies that are on their way. -/
structure State (δ : Type) where
  /-- The requests, by their reply addresses. -/
  requests : String → Option (Request δ) := fun _ => none
  /-- The `_putters` of the reply queues, in order. -/
  waiting : List (Put δ) := []
  /-- The putters that have been woken and have not run since. -/
  woken : List (Put δ) := []
  /-- What is on its way to this process. -/
  wire : List (Reply δ) := []
  published : List (Reply δ) := []
  /-- What the requests have returned. -/
  returned : List (String × Reply δ) := []

namespace State

/-- A request is entered under its reply address. -/
def set (s : State δ) (address : String) (request : Request δ) : State δ :=
  { s with requests := Function.update s.requests address (some request) }

/-- The task waits in a `put`. -/
def blocked (s : State δ) (publisher : Publisher) : Bool :=
  (s.waiting ++ s.woken).any fun put => put.publisher = publisher

/-- One round of `asyncio.Queue.put`. -/
def put
    (s : State δ) (publisher : Publisher) (reply : Reply δ)
    (request : Request δ) : State δ :=
  match request.item with
  | none => s.set reply.address { request with item := some reply }
  | some _ => { s with waiting := s.waiting ++ [⟨publisher, reply⟩] }

/-- `_wakeup_next(self._putters)` of one reply queue. -/
def wake (s : State δ) (address : String) : State δ :=
  match s.waiting.find? fun put => put.reply.address = address with
  | none => s
  | some put =>
      { s with
        waiting := s.waiting.eraseP fun put => put.reply.address = address
        woken := s.woken ++ [put] }

/-- `if address in self._reply_queues: await ....put(data)`. -/
def deliver
    (s : State δ) (publisher : Publisher) (reply : Reply δ) :
    Option (State δ) :=
  match s.requests reply.address with
  | some request =>
      if request.listed then some (s.put publisher reply request) else none
  | none => none

/-- What `publish` is called with the next time. -/
def next (s : State δ) (address : String) (data : δ) : Reply δ :=
  ⟨s.published.length, address, data⟩

/-- A publication is noted. -/
def record (s : State δ) (reply : Reply δ) : State δ :=
  { s with published := s.published ++ [reply] }

/-- `request` returns, or raises. -/
def finish
    (s : State δ) (address : String) (request : Request δ)
    (result : Option (Reply δ)) : State δ :=
  { s.set address { request with phase := .finished result } with
    returned :=
      s.returned ++ (result.map fun reply => (address, reply)).toList }

/-- The `finally` block of `request`. -/
def exit
    (s : State δ) (kind : Kind) (address : String) (request : Request δ)
    (result : Option (Reply δ)) : State δ :=
  match kind with
  | .nats =>
      s.set address { request with listed := false, phase := .closing result }
  | _ => s.finish address { request with listed := false } result

end State

/-! ## Steps -/

/-- What the requests, the publishers and the wire do. -/
inductive Label (δ : Type) where
  /-- `request` lists its reply queue. -/
  | opens (address : String)
  /-- The request has been published; `get` is called. -/
  | prepared (address : String)
  /-- An exception is raised before `get`. -/
  | fail (address : String)
  /-- The task of the request is cancelled, or its time is over. -/
  | cancel (address : String)
  /-- `CancelledError` leaves the `try` block. -/
  | leave (address : String)
  /-- `get` returns. -/
  | fetch (address : String)
  /-- NATS: `sub.unsubscribe()` is done, or it raises. -/
  | unsubscribed (address : String) (raised : Bool)
  /-- A task of this process publishes to a reply address. -/
  | publish (task address : String) (data : δ)
  /-- Another process publishes to a reply address. -/
  | remote (address : String) (data : δ)
  /-- The transport receives. -/
  | arrive (position : Nat)
  /-- A putter that has been woken runs. -/
  | resume (publisher : Publisher)
  /-- The task of a putter is cancelled. -/
  | abandon (publisher : Publisher)
deriving DecidableEq

/-- The task that receives from the wire. -/
def Kind.receiver (kind : Kind) (address : String) : Publisher :=
  match kind with
  | .nats => .callback address
  | _ => .receiver

/-- One step of the transport. -/
def step (kind : Kind) (s : State δ) : Label δ → Option (State δ)
  | .opens address =>
      match s.requests address with
      | none => some (s.set address {})
      | some _ => none
  | .prepared address =>
      (s.requests address).bind fun request =>
        match request.phase with
        | .preparing => some (s.set address { request with phase := .awaiting })
        | _ => none
  | .fail address =>
      (s.requests address).bind fun request =>
        match request.phase with
        | .preparing => some (s.exit kind address request none)
        | _ => none
  | .cancel address =>
      (s.requests address).bind fun request =>
        match request.phase with
        | .preparing | .awaiting =>
            some (s.set address { request with phase := .leaving })
        | _ => none
  | .leave address =>
      (s.requests address).bind fun request =>
        match request.phase with
        | .leaving => some (s.exit kind address request none)
        | _ => none
  | .fetch address =>
      (s.requests address).bind fun request =>
        match request.phase, request.item with
        | .awaiting, some reply =>
            some
              ((s.wake address).exit kind address { request with item := none }
                (some reply))
        | _, _ => none
  | .unsubscribed address raised =>
      (s.requests address).bind fun request =>
        match request.phase with
        | .closing result =>
            some
              (s.finish address request (if raised then none else result))
        | _ => none
  | .publish task address data =>
      if s.blocked (.task task) then none
      else
        let reply := s.next address data
        let sent := s.record reply
        some
          ((sent.deliver (.task task) reply).getD
            (match kind with
            | .inProcess => sent
            | _ => { sent with wire := sent.wire ++ [reply] }))
  | .remote address data =>
      match kind with
      | .inProcess => none
      | _ =>
          let reply := s.next address data
          some { s.record reply with wire := s.wire ++ [reply] }
  | .arrive position =>
      (s.wire[position]?).bind fun reply =>
        let publisher := kind.receiver reply.address
        if s.blocked publisher then none
        else
          let taken := { s with wire := s.wire.eraseIdx position }
          some ((taken.deliver publisher reply).getD taken)
  | .resume publisher =>
      (s.woken.find? fun put => put.publisher = publisher).bind fun put =>
        (s.requests put.reply.address).map fun request =>
          { s with
            woken := s.woken.eraseP fun put => put.publisher = publisher }.put
              publisher put.reply request
  | .abandon publisher =>
      match s.waiting.find? fun put => put.publisher = publisher with
      | some _ =>
          some
            { s with
              waiting :=
                s.waiting.eraseP fun put => put.publisher = publisher }
      | none =>
          (s.woken.find? fun put => put.publisher = publisher).bind fun put =>
            let left :=
              { s with
                woken := s.woken.eraseP fun put => put.publisher = publisher }
            (s.requests put.reply.address).map fun request =>
              match request.item with
              | none => left.wake put.reply.address
              | some _ => left

/-- What each step does. -/
inductive Effect (kind : Kind) (s : State δ) : Label δ → State δ → Prop where
  | opens {address : String} :
      s.requests address = none →
        Effect kind s (.opens address) (s.set address {})
  | prepared {address : String} {request : Request δ} :
      s.requests address = some request →
      request.phase = .preparing →
        Effect kind s (.prepared address)
          (s.set address { request with phase := .awaiting })
  | fail {address : String} {request : Request δ} :
      s.requests address = some request →
      request.phase = .preparing →
        Effect kind s (.fail address) (s.exit kind address request none)
  | cancel {address : String} {request : Request δ} :
      s.requests address = some request →
      request.phase = .preparing ∨ request.phase = .awaiting →
        Effect kind s (.cancel address)
          (s.set address { request with phase := .leaving })
  | leave {address : String} {request : Request δ} :
      s.requests address = some request →
      request.phase = .leaving →
        Effect kind s (.leave address) (s.exit kind address request none)
  | fetch {address : String} {request : Request δ} {reply : Reply δ} :
      s.requests address = some request →
      request.phase = .awaiting →
      request.item = some reply →
        Effect kind s (.fetch address)
          ((s.wake address).exit kind address { request with item := none }
            (some reply))
  | unsubscribed {address : String} {raised : Bool} {request : Request δ}
      {result : Option (Reply δ)} :
      s.requests address = some request →
      request.phase = .closing result →
        Effect kind s (.unsubscribed address raised)
          (s.finish address request (if raised then none else result))
  | publish {task address : String} {data : δ} {elsewhere : State δ} :
      elsewhere = s.record (s.next address data) ∨
        elsewhere =
          { s.record (s.next address data) with
            wire := s.wire ++ [s.next address data] } →
        Effect kind s (.publish task address data)
          (((s.record (s.next address data)).deliver (.task task)
            (s.next address data)).getD elsewhere)
  | remote {address : String} {data : δ} :
      Effect kind s (.remote address data)
        { s.record (s.next address data) with
          wire := s.wire ++ [s.next address data] }
  | arrive {position : Nat} {reply : Reply δ} :
      s.wire[position]? = some reply →
        Effect kind s (.arrive position)
          (({ s with wire := s.wire.eraseIdx position }.deliver
            (kind.receiver reply.address) reply).getD
              { s with wire := s.wire.eraseIdx position })
  | resume {publisher : Publisher} {put : Put δ} {request : Request δ} :
      s.woken.find? (fun put => put.publisher = publisher) = some put →
      s.requests put.reply.address = some request →
        Effect kind s (.resume publisher)
          ({ s with
              woken :=
                s.woken.eraseP fun put => put.publisher = publisher }.put
            publisher put.reply request)
  | withdraw {publisher : Publisher} :
      Effect kind s (.abandon publisher)
        { s with
          waiting := s.waiting.eraseP fun put => put.publisher = publisher }
  | abandon {publisher : Publisher} {put : Put δ} {request : Request δ}
      {after : State δ} :
      s.woken.find? (fun put => put.publisher = publisher) = some put →
      s.requests put.reply.address = some request →
      after =
          { s with
            woken := s.woken.eraseP fun put => put.publisher = publisher } ∨
        after =
          { s with
            woken :=
              s.woken.eraseP fun put => put.publisher = publisher }.wake
                put.reply.address →
        Effect kind s (.abandon publisher) after

theorem effect_of_step
    {kind : Kind} {s after : State δ} {label : Label δ}
    (stepped : step kind s label = some after) :
    Effect kind s label after := by
  cases label with
  | opens address =>
      simp only [step] at stepped
      split at stepped
      · rename_i fresh
        cases stepped
        exact .opens fresh
      · cases stepped
  | prepared address =>
      rcases Option.bind_eq_some_iff.mp stepped with ⟨request, found, went⟩
      split at went
      · rename_i preparing
        cases went
        exact .prepared found preparing
      · cases went
  | fail address =>
      rcases Option.bind_eq_some_iff.mp stepped with ⟨request, found, went⟩
      split at went
      · rename_i preparing
        cases went
        exact .fail found preparing
      · cases went
  | cancel address =>
      rcases Option.bind_eq_some_iff.mp stepped with ⟨request, found, went⟩
      split at went
      · rename_i preparing
        cases went
        exact .cancel found (.inl preparing)
      · rename_i awaiting
        cases went
        exact .cancel found (.inr awaiting)
      · cases went
  | leave address =>
      rcases Option.bind_eq_some_iff.mp stepped with ⟨request, found, went⟩
      split at went
      · rename_i leaving
        cases went
        exact .leave found leaving
      · cases went
  | fetch address =>
      rcases Option.bind_eq_some_iff.mp stepped with ⟨request, found, went⟩
      split at went
      · rename_i reply awaiting held
        cases went
        exact .fetch found awaiting held
      · cases went
  | unsubscribed address raised =>
      rcases Option.bind_eq_some_iff.mp stepped with ⟨request, found, went⟩
      split at went
      · rename_i result closing
        cases went
        exact .unsubscribed found closing
      · cases went
  | publish task address data =>
      simp only [step] at stepped
      split at stepped
      · cases stepped
      · cases stepped
        refine .publish ?_
        split
        · exact .inl rfl
        · exact .inr rfl
  | remote address data =>
      simp only [step] at stepped
      split at stepped
      · cases stepped
      · cases stepped
        exact .remote
  | arrive position =>
      rcases Option.bind_eq_some_iff.mp stepped with ⟨reply, found, went⟩
      dsimp only at went
      split at went
      · cases went
      · cases went
        exact .arrive found
  | resume publisher =>
      rcases Option.bind_eq_some_iff.mp stepped with ⟨put, found, went⟩
      rcases Option.map_eq_some_iff.mp went with ⟨request, held, rfl⟩
      exact .resume found held
  | abandon publisher =>
      simp only [step] at stepped
      split at stepped
      · cases stepped
        exact .withdraw
      · rcases Option.bind_eq_some_iff.mp stepped with ⟨put, found, went⟩
        rcases Option.map_eq_some_iff.mp went with ⟨request, held, rfl⟩
        refine .abandon found held ?_
        split
        · exact .inr rfl
        · exact .inl rfl

/-! ## The condition -/

/-- No publisher waits for room in the reply queue. -/
def State.idle (s : State δ) (address : String) : Bool :=
  !s.waiting.any fun put => put.reply.address = address

/--
A reply does not have to wait, or it is the only one that waits and the request
is going to read.
-/
def State.spare (s : State δ) (address : String) : Bool :=
  match s.requests address with
  | none => true
  | some request =>
      !request.listed || request.item.isNone ||
        (match request.phase with
        | .leaving => false
        | _ => s.idle address)

/--
No second publisher waits for a reply queue, none starts to wait for one whose
request has been cancelled, and no request fails or is cancelled while a
publisher waits.
-/
def spared (s : State δ) : Label δ → Bool
  | .publish _ address _ => s.spare address
  | .arrive position =>
      (s.wire[position]?).all fun reply => s.spare reply.address
  | .fail address | .cancel address => s.idle address
  | _ => true

/-- Replies and requests belong together, and no publisher is left behind. -/
structure Correlated (s : State δ) : Prop where
  /-- A request returns at most one reply. -/
  once : (s.returned.map Prod.fst).Nodup
  /-- It has been published to the address of the request. -/
  own : ∀ address reply, (address, reply) ∈ s.returned →
    reply ∈ s.published ∧ reply.address = address
  /-- No reply is returned by two requests. -/
  distinct : (s.returned.map fun entry => entry.2.id).Nodup
  /-- The address of a finished request has been removed. -/
  removed : ∀ address request result,
    s.requests address = some request →
      request.phase = .finished result → request.listed = false
  /-- No publisher waits for a finished request. -/
  released : ∀ address request result,
    s.requests address = some request →
      request.phase = .finished result →
        ∀ put ∈ s.waiting, put.reply.address ≠ address
  /-- A publisher that has been woken does not wait again. -/
  proceeds : ∀ address request result,
    s.requests address = some request →
      request.phase = .finished result →
        ∀ put ∈ s.woken, put.reply.address = address → request.item = none

/-! ## Correlation -/

/-- What the record of a request may hold. -/
structure Fits
    (published : List (Reply δ)) (address : String) (request : Request δ) :
    Prop where
  item : ∀ reply, request.item = some reply →
    reply ∈ published ∧ reply.address = address
  result : ∀ reply, request.phase.result = some reply →
    reply ∈ published ∧ reply.address = address
  listed : request.listed = request.phase.going

/-- What holds of the replies in every run. -/
structure Filed (s : State δ) : Prop where
  ids : s.published.map Reply.id = List.range s.published.length
  wire : ∀ reply ∈ s.wire, reply ∈ s.published
  waiting : ∀ put ∈ s.waiting, put.reply ∈ s.published
  woken : ∀ put ∈ s.woken, put.reply ∈ s.published
  fits : ∀ address request,
    s.requests address = some request → Fits s.published address request
  returned : ∀ address reply, (address, reply) ∈ s.returned →
    ∃ request, s.requests address = some request ∧
      request.phase = .finished (some reply)
  once : (s.returned.map Prod.fst).Nodup

section Filed

variable {s after : State δ} {kind : Kind} {label : Label δ}

theorem filed_init : Filed ({} : State δ) where
  ids := rfl
  wire := by simp
  waiting := by simp
  woken := by simp
  fits := by simp
  returned := by simp
  once := List.nodup_nil

theorem Fits.mono
    {address : String} {request : Request δ}
    {published : List (Reply δ)}
    (fits : Fits published address request) (reply : Reply δ) :
    Fits (published ++ [reply]) address request where
  item held own :=
    ⟨List.mem_append_left _ (fits.item held own).1, (fits.item held own).2⟩
  result held own :=
    ⟨List.mem_append_left _ (fits.result held own).1,
      (fits.result held own).2⟩
  listed := fits.listed

theorem Filed.record
    (filed : Filed s) (address : String) (data : δ) :
    Filed (s.record (s.next address data)) where
  ids := by
    simp only [State.record, State.next, List.map_append, List.map_cons,
      List.map_nil, List.length_append, List.length_singleton,
      List.range_succ, filed.ids]
  wire reply within := List.mem_append_left _ (filed.wire reply within)
  waiting put within := List.mem_append_left _ (filed.waiting put within)
  woken put within := List.mem_append_left _ (filed.woken put within)
  fits other request found := (filed.fits other request found).mono _
  returned := filed.returned
  once := filed.once

theorem mem_record (s : State δ) (reply : Reply δ) :
    reply ∈ (s.record reply).published :=
  List.mem_append_right _ (List.mem_singleton.mpr rfl)

/-- The record of a request that has not returned a reply is replaced. -/
theorem Filed.set
    (filed : Filed s) {address : String} {request : Request δ}
    (fits : Fits s.published address request)
    (unreturned : ∀ old reply, s.requests address = some old →
      old.phase = .finished (some reply) →
        request.phase = .finished (some reply)) :
    Filed (s.set address request) where
  ids := filed.ids
  wire := filed.wire
  waiting := filed.waiting
  woken := filed.woken
  fits := by
    intro other found held
    by_cases same : other = address
    · subst same
      simp only [State.set, Function.update_self, Option.some.injEq] at held
      subst held
      exact fits
    · simp only [State.set, Function.update_of_ne same] at held
      exact filed.fits other found held
  returned := by
    intro other reply within
    rcases filed.returned other reply within with ⟨old, held, finished⟩
    by_cases same : other = address
    · subst same
      exact
        ⟨request, Function.update_self ..,
          unreturned old reply held finished⟩
    · exact ⟨old, (Function.update_of_ne same ..).trans held, finished⟩
  once := filed.once

theorem Filed.put
    (filed : Filed s) {publisher : Publisher} {reply : Reply δ}
    {request : Request δ}
    (found : s.requests reply.address = some request)
    (published : reply ∈ s.published) :
    Filed (s.put publisher reply request) := by
  have fits := filed.fits reply.address request found
  unfold State.put
  cases request.item with
  | none =>
      refine filed.set ⟨?_, fits.result, fits.listed⟩ ?_
      · intro own held
        cases held
        exact ⟨published, rfl⟩
      · intro old own held finished
        cases held.symm.trans found
        exact finished
  | some _ =>
      refine { filed with waiting := ?_ }
      intro put within
      rcases List.mem_append.mp within with earlier | new
      · exact filed.waiting put earlier
      · cases List.mem_singleton.mp new
        exact published

theorem Filed.deliver
    (filed : Filed s) {publisher : Publisher} {reply : Reply δ}
    (published : reply ∈ s.published)
    (delivered : s.deliver publisher reply = some after) : Filed after := by
  unfold State.deliver at delivered
  split at delivered
  · rename_i request found
    split at delivered
    · cases delivered
      exact filed.put found published
    · cases delivered
  · cases delivered

theorem Filed.wired
    (filed : Filed s) {reply : Reply δ} (published : reply ∈ s.published) :
    Filed { s with wire := s.wire ++ [reply] } := by
  refine { filed with wire := ?_ }
  intro other within
  rcases List.mem_append.mp within with earlier | new
  · exact filed.wire other earlier
  · cases List.mem_singleton.mp new
    exact published

theorem Filed.taken (filed : Filed s) (position : Nat) :
    Filed { s with wire := s.wire.eraseIdx position } := by
  refine { filed with wire := ?_ }
  intro reply left
  exact filed.wire reply (List.mem_of_mem_eraseIdx left)

theorem Filed.unwoken (filed : Filed s) (publisher : Publisher) :
    Filed
      { s with
        woken := s.woken.eraseP fun put => put.publisher = publisher } := by
  refine { filed with woken := ?_ }
  intro put within
  exact filed.woken put (List.mem_of_mem_eraseP within)

/-- A reply is delivered, or it goes elsewhere. -/
theorem Filed.deliver_getD
    (filed : Filed s) {publisher : Publisher} {reply : Reply δ}
    (published : reply ∈ s.published) {elsewhere : State δ}
    (otherwise : Filed elsewhere) :
    Filed ((s.deliver publisher reply).getD elsewhere) := by
  cases delivered : s.deliver publisher reply with
  | none => exact otherwise
  | some after => exact filed.deliver published delivered

theorem Filed.wake (filed : Filed s) (address : String) :
    Filed (s.wake address) := by
  unfold State.wake
  split
  · exact filed
  · rename_i put found
    refine { filed with waiting := ?_, woken := ?_ }
    · intro other within
      exact filed.waiting other (List.mem_of_mem_eraseP within)
    · intro other within
      rcases List.mem_append.mp within with earlier | new
      · exact filed.woken other earlier
      · cases List.mem_singleton.mp new
        exact filed.waiting put (List.mem_of_find?_eq_some found)

/-- The request ends with what it has read. -/
theorem Filed.finish
    (filed : Filed s) {address : String} {old request : Request δ}
    {result : Option (Reply δ)}
    (found : s.requests address = some old)
    (unfinished : ∀ reply, old.phase ≠ .finished reply)
    (item : ∀ reply, request.item = some reply →
      reply ∈ s.published ∧ reply.address = address)
    (read : ∀ reply, result = some reply →
      reply ∈ s.published ∧ reply.address = address)
    (removed : request.listed = false) :
    Filed (s.finish address request result) := by
  have settled :
      Filed (s.set address { request with phase := .finished result }) := by
    refine filed.set ⟨item, read, removed⟩ ?_
    intro earlier reply held finished
    cases held.symm.trans found
    exact absurd finished (unfinished _)
  have unreturned : ∀ reply, (address, reply) ∉ s.returned := by
    intro reply within
    rcases filed.returned address reply within with ⟨earlier, held, finished⟩
    cases held.symm.trans found
    exact unfinished _ finished
  unfold State.finish
  cases result with
  | none => simpa [State.set] using settled
  | some reply =>
      refine { settled with returned := ?_, once := ?_ }
      · intro other own within
        rcases List.mem_append.mp within with earlier | new
        · exact settled.returned other own earlier
        · simp only [Option.map_some, Option.toList_some,
            List.mem_singleton, Prod.mk.injEq] at new
          rcases new with ⟨rfl, rfl⟩
          exact ⟨_, Function.update_self .., rfl⟩
      · simp only [Option.map_some, Option.toList_some, List.map_append,
          List.map_cons, List.map_nil]
        refine List.nodup_append.mpr
          ⟨filed.once, List.nodup_singleton _, ?_⟩
        intro other within last new
        cases List.mem_singleton.mp new
        rintro rfl
        rcases List.mem_map.mp within with ⟨⟨_, earlier⟩, returned, rfl⟩
        exact unreturned earlier returned

theorem Filed.exit
    (filed : Filed s) {address : String} {old request : Request δ}
    {result : Option (Reply δ)}
    (found : s.requests address = some old)
    (unfinished : ∀ reply, old.phase ≠ .finished reply)
    (item : ∀ reply, request.item = some reply →
      reply ∈ s.published ∧ reply.address = address)
    (read : ∀ reply, result = some reply →
      reply ∈ s.published ∧ reply.address = address) :
    Filed (s.exit kind address request result) := by
  unfold State.exit
  split
  · refine filed.set ⟨item, read, rfl⟩ ?_
    intro earlier reply held finished
    cases held.symm.trans found
    exact absurd finished (unfinished _)
  · exact filed.finish found unfinished item read rfl

theorem State.requests_wake (s : State δ) (address : String) :
    (s.wake address).requests = s.requests := by
  unfold State.wake
  split
  · rfl
  · rfl

theorem State.published_wake (s : State δ) (address : String) :
    (s.wake address).published = s.published := by
  unfold State.wake
  split
  · rfl
  · rfl

theorem Filed.step
    (filed : Filed s) (stepped : step kind s label = some after) :
    Filed after := by
  cases effect_of_step stepped with
  | opens fresh =>
      refine filed.set ⟨by rintro _ ⟨⟩, by rintro _ ⟨⟩, rfl⟩ ?_
      intro old reply held
      cases held.symm.trans fresh
  | prepared found preparing =>
      have fits := filed.fits _ _ found
      refine filed.set ⟨fits.item, by rintro _ ⟨⟩, ?_⟩ ?_
      · rw [fits.listed, preparing]
        rfl
      · intro old reply held finished
        cases held.symm.trans found
        cases preparing.symm.trans finished
  | fail found preparing =>
      refine filed.exit found ?_ (filed.fits _ _ found).item (by simp)
      intro reply finished
      cases preparing.symm.trans finished
  | cancel found going =>
      have fits := filed.fits _ _ found
      refine filed.set ⟨fits.item, by rintro _ ⟨⟩, ?_⟩ ?_
      · rw [fits.listed]
        rcases going with preparing | awaiting
        · rw [preparing]
          rfl
        · rw [awaiting]
          rfl
      · intro old reply held finished
        cases held.symm.trans found
        rcases going with preparing | awaiting
        · cases preparing.symm.trans finished
        · cases awaiting.symm.trans finished
  | leave found leaving =>
      refine filed.exit found ?_ (filed.fits _ _ found).item (by simp)
      intro reply finished
      cases leaving.symm.trans finished
  | fetch found awaiting held =>
      rename_i address request reply
      refine (filed.wake address).exit
        ((congrFun (s.requests_wake address) address).trans found) ?_
        (by simp) ?_
      · intro other finished
        cases awaiting.symm.trans finished
      · intro own read
        cases read
        rw [State.published_wake]
        exact (filed.fits _ _ found).item reply held
  | unsubscribed found closing =>
      rename_i address raised request result
      have fits := filed.fits _ _ found
      refine filed.finish found ?_ fits.item ?_ ?_
      · intro reply finished
        cases closing.symm.trans finished
      · intro reply read
        cases raised with
        | true => cases read
        | false =>
            refine fits.result reply ?_
            rw [closing]
            exact read
      · rw [fits.listed, closing]
        rfl
  | publish elsewhere =>
      rename_i task address data other
      have sent := filed.record address data
      have published := mem_record s (s.next address data)
      refine sent.deliver_getD published ?_
      rcases elsewhere with rfl | rfl
      · exact sent
      · exact sent.wired published
  | remote =>
      rename_i address data
      exact (filed.record address data).wired (mem_record s _)
  | arrive found =>
      rename_i position reply
      have taken := filed.taken position
      exact taken.deliver_getD (filed.wire _ (List.mem_of_getElem? found))
        taken
  | resume found held =>
      exact (filed.unwoken _).put held
        (filed.woken _ (List.mem_of_find?_eq_some found))
  | withdraw =>
      refine { filed with waiting := ?_ }
      intro put within
      exact filed.waiting put (List.mem_of_mem_eraseP within)
  | abandon found held left =>
      rcases left with rfl | rfl
      · exact filed.unwoken _
      · exact (filed.unwoken _).wake _

/-- The parts of `Correlated` that need no condition. -/
theorem Filed.own
    (filed : Filed s) {address : String} {reply : Reply δ}
    (returned : (address, reply) ∈ s.returned) :
    reply ∈ s.published ∧ reply.address = address := by
  rcases filed.returned address reply returned with ⟨request, found, finished⟩
  refine (filed.fits address request found).result reply ?_
  rw [finished]
  rfl

theorem Filed.distinct (filed : Filed s) :
    (s.returned.map fun entry => entry.2.id).Nodup := by
  refine List.Nodup.map_on ?_ (List.Nodup.of_map _ filed.once)
  rintro ⟨address, reply⟩ one ⟨other, again⟩ two same
  have ids : (s.published.map Reply.id).Nodup := by
    rw [filed.ids]
    exact List.nodup_range
  have equal : reply = again :=
    List.inj_on_of_nodup_map ids (filed.own one).1 (filed.own two).1 same
  subst equal
  rw [← (filed.own one).2, ← (filed.own two).2]

theorem Filed.unlisted
    (filed : Filed s) {address : String} {request : Request δ}
    {result : Option (Reply δ)}
    (found : s.requests address = some request)
    (finished : request.phase = .finished result) :
    request.listed = false := by
  rw [(filed.fits address request found).listed, finished]
  rfl

end Filed

/-! ## Publishers -/

/-- What holds of the publishers in every run that meets the condition. -/
structure Roomy (s : State δ) : Prop where
  /-- A request whose queue a publisher waits for is going to read it. -/
  waiting : ∀ put ∈ s.waiting, ∃ request,
    s.requests put.reply.address = some request ∧
      (request.phase = .preparing ∨ request.phase = .awaiting)
  single : (s.waiting.map fun put => put.reply.address).Nodup
  /-- A publisher that has been woken finds room. -/
  woken : ∀ put ∈ s.woken, ∃ request,
    s.requests put.reply.address = some request ∧
      request.phase.going = false ∧ request.item = none
  apart : (s.woken.map fun put => put.reply.address).Nodup

section Roomy

variable {s after : State δ} {kind : Kind} {label : Label δ}

theorem roomy_init : Roomy ({} : State δ) where
  waiting := by simp
  single := List.nodup_nil
  woken := by simp
  apart := List.nodup_nil

theorem perm_cons_eraseP_of_find
    {α : Type} {p : α → Bool} {items : List α} {item : α}
    (found : items.find? p = some item) :
    items.Perm (item :: items.eraseP p) := by
  induction items with
  | nil => cases found
  | cons first rest ih =>
      cases holds : p first with
      | true =>
          rw [List.find?_cons_of_pos holds] at found
          cases found
          rw [List.eraseP_cons_of_pos holds]
      | false =>
          have fails : ¬ p first = true := by
            rw [holds]
            simp
          rw [List.find?_cons_of_neg fails] at found
          rw [List.eraseP_cons_of_neg fails]
          exact ((ih found).cons first).trans (.swap _ _ _)

/-- The address of the put that is taken out does not occur any more. -/
theorem address_not_mem_eraseP
    {p : Put δ → Bool} {puts : List (Put δ)} {put : Put δ}
    (apart : (puts.map fun put => put.reply.address).Nodup)
    (found : puts.find? p = some put) :
    ∀ other ∈ puts.eraseP p, other.reply.address ≠ put.reply.address := by
  have ordered :=
    ((perm_cons_eraseP_of_find found).map
      fun put => put.reply.address).nodup_iff.mp apart
  intro other within same
  exact (List.nodup_cons.mp ordered).1
    (List.mem_map.mpr ⟨other, within, same⟩)

theorem State.idle_iff {address : String} :
    s.idle address = true ↔
      ∀ put ∈ s.waiting, put.reply.address ≠ address := by
  simp [State.idle]

/-- Nobody has been woken for a request that is going on. -/
theorem Roomy.unwoken
    (roomy : Roomy s) {address : String} {request : Request δ}
    (found : s.requests address = some request)
    (going : request.phase.going = true) :
    ∀ put ∈ s.woken, put.reply.address ≠ address := by
  rintro put within rfl
  rcases roomy.woken put within with ⟨other, held, gone, -⟩
  cases held.symm.trans found
  cases going.symm.trans gone

/-- Nobody waits for a request that is not going to read. -/
theorem Roomy.unwaited
    (roomy : Roomy s) {address : String} {request : Request δ}
    (found : s.requests address = some request)
    (unread : request.phase ≠ .preparing ∧ request.phase ≠ .awaiting) :
    ∀ put ∈ s.waiting, put.reply.address ≠ address := by
  rintro put within rfl
  rcases roomy.waiting put within with ⟨other, held, reads⟩
  cases held.symm.trans found
  rcases reads with preparing | awaiting
  · exact unread.1 preparing
  · exact unread.2 awaiting

/-- The record of a request is replaced. -/
theorem Roomy.set
    (roomy : Roomy s) {address : String} {request : Request δ}
    (waiting : (∀ put ∈ s.waiting, put.reply.address ≠ address) ∨
      request.phase = .preparing ∨ request.phase = .awaiting)
    (woken : (∀ put ∈ s.woken, put.reply.address ≠ address) ∨
      request.phase.going = false ∧ request.item = none) :
    Roomy (s.set address request) where
  waiting := by
    intro put within
    by_cases same : put.reply.address = address
    · subst same
      rcases waiting with none | reads
      · exact absurd rfl (none put within)
      · exact ⟨request, Function.update_self .., reads⟩
    · rcases roomy.waiting put within with ⟨other, held, reads⟩
      exact ⟨other, (Function.update_of_ne same ..).trans held, reads⟩
  single := roomy.single
  woken := by
    intro put within
    by_cases same : put.reply.address = address
    · subst same
      rcases woken with none | room
      · exact absurd rfl (none put within)
      · exact ⟨request, Function.update_self .., room⟩
    · rcases roomy.woken put within with ⟨other, held, room⟩
      exact ⟨other, (Function.update_of_ne same ..).trans held, room⟩
  apart := roomy.apart

/-- The request is left. -/
theorem Roomy.exit
    (roomy : Roomy s) {address : String} {request : Request δ}
    {result : Option (Reply δ)}
    (waiting : ∀ put ∈ s.waiting, put.reply.address ≠ address)
    (woken : (∀ put ∈ s.woken, put.reply.address ≠ address) ∨
      request.item = none) :
    Roomy (s.exit kind address request result) := by
  unfold State.exit
  split
  · refine roomy.set (.inl waiting) ?_
    rcases woken with none | room
    · exact .inl none
    · exact .inr ⟨rfl, room⟩
  · have settled :
        Roomy
          (s.set address
            { request with listed := false, phase := .finished result }) := by
      refine roomy.set (.inl waiting) ?_
      rcases woken with none | room
      · exact .inl none
      · exact .inr ⟨rfl, room⟩
    exact ⟨settled.waiting, settled.single, settled.woken, settled.apart⟩

/-- A reply is put where there is room, or is the first to wait. -/
theorem Roomy.put
    (roomy : Roomy s) {publisher : Publisher} {reply : Reply δ}
    {request : Request δ}
    (found : s.requests reply.address = some request)
    (woken : ∀ put ∈ s.woken, put.reply.address ≠ reply.address)
    (room : request.item = none ∨
      (request.phase = .preparing ∨ request.phase = .awaiting) ∧
        ∀ put ∈ s.waiting, put.reply.address ≠ reply.address) :
    Roomy (s.put publisher reply request) := by
  unfold State.put
  cases held : request.item with
  | none =>
      refine roomy.set ?_ (.inl woken)
      by_cases reads : request.phase = .preparing ∨ request.phase = .awaiting
      · exact .inr reads
      · exact .inl (roomy.unwaited found (not_or.mp reads))
  | some _ =>
      rcases room with empty | ⟨reads, first⟩
      · cases held.symm.trans empty
      · refine { roomy with waiting := ?_, single := ?_ }
        · intro put within
          rcases List.mem_append.mp within with earlier | new
          · exact roomy.waiting put earlier
          · cases List.mem_singleton.mp new
            exact ⟨request, found, reads⟩
        · rw [List.map_append]
          refine List.nodup_append.mpr
            ⟨roomy.single, List.nodup_singleton _, ?_⟩
          intro address within last new
          cases List.mem_singleton.mp new
          rintro rfl
          rcases List.mem_map.mp within with ⟨put, earlier, same⟩
          exact first put earlier same

/-- A reply is delivered to a request that spares it. -/
theorem Roomy.deliver
    (roomy : Roomy s) (filed : Filed s)
    {publisher : Publisher} {reply : Reply δ}
    (spare : s.spare reply.address = true)
    (delivered : s.deliver publisher reply = some after) : Roomy after := by
  unfold State.deliver at delivered
  split at delivered
  · rename_i request found
    split at delivered
    · rename_i listed
      cases delivered
      have going : request.phase.going = true :=
        (filed.fits _ request found).listed.symm.trans listed
      refine roomy.put found (roomy.unwoken found going) ?_
      simp only [State.spare, found, listed, Bool.not_true, Bool.false_or,
        Bool.or_eq_true, Option.isNone_iff_eq_none] at spare
      rcases spare with empty | reads
      · exact .inl empty
      · refine .inr ?_
        cases phase : request.phase with
        | preparing =>
            rw [phase] at reads
            exact ⟨.inl rfl, State.idle_iff.mp reads⟩
        | awaiting =>
            rw [phase] at reads
            exact ⟨.inr rfl, State.idle_iff.mp reads⟩
        | leaving =>
            rw [phase] at reads
            cases reads
        | closing result =>
            rw [phase] at going
            cases going
        | finished result =>
            rw [phase] at going
            cases going
    · cases delivered
  · cases delivered

theorem Roomy.deliver_getD
    (roomy : Roomy s) (filed : Filed s)
    {publisher : Publisher} {reply : Reply δ}
    (spare : s.spare reply.address = true) {elsewhere : State δ}
    (otherwise : Roomy elsewhere) :
    Roomy ((s.deliver publisher reply).getD elsewhere) := by
  cases delivered : s.deliver publisher reply with
  | none => exact otherwise
  | some after => exact roomy.deliver filed spare delivered

theorem State.wake_of_unwaited
    {address : String}
    (unwaited : ∀ put ∈ s.waiting, put.reply.address ≠ address) :
    s.wake address = s := by
  have none :
      s.waiting.find? (fun put => put.reply.address = address) = none := by
    simpa using unwaited
  simp only [State.wake, none]

/-- The waiting puts are fewer than before. -/
theorem Roomy.fewer
    (roomy : Roomy s) {waiting woken : List (Put δ)}
    (some : waiting.Sublist s.waiting) (others : woken.Sublist s.woken) :
    Roomy { s with waiting := waiting, woken := woken } where
  waiting put within := roomy.waiting put (some.subset within)
  single := roomy.single.sublist (some.map _)
  woken put within := roomy.woken put (others.subset within)
  apart := roomy.apart.sublist (others.map _)

/-- A putter is woken for a queue that has been emptied and left. -/
theorem Roomy.awake
    (roomy : Roomy s) {put : Put δ} {request : Request δ}
    (found : s.requests put.reply.address = some request)
    (gone : request.phase.going = false) (empty : request.item = none)
    (woken : ∀ other ∈ s.woken, other.reply.address ≠ put.reply.address) :
    Roomy { s with woken := s.woken ++ [put] } := by
  refine { roomy with woken := ?_, apart := ?_ }
  · intro other within
    rcases List.mem_append.mp within with earlier | new
    · exact roomy.woken other earlier
    · cases List.mem_singleton.mp new
      exact ⟨request, found, gone, empty⟩
  · rw [List.map_append]
    refine List.nodup_append.mpr ⟨roomy.apart, List.nodup_singleton _, ?_⟩
    intro address within last new
    cases List.mem_singleton.mp new
    rintro rfl
    rcases List.mem_map.mp within with ⟨other, earlier, same⟩
    exact woken other earlier same

theorem State.exit_woken
    (s : State δ) (kind : Kind) (address : String) (request : Request δ)
    (result : Option (Reply δ)) (woken : List (Put δ)) :
    { s with woken := woken }.exit kind address request result =
      { s.exit kind address request result with woken := woken } := by
  cases kind <;> rfl

theorem State.exit_keeps_woken
    (s : State δ) (address : String) (request : Request δ)
    (result : Option (Reply δ)) :
    (s.exit kind address request result).woken = s.woken := by
  cases kind <;> rfl

/-- What an exit leaves of the request. -/
theorem State.exit_requests
    (s : State δ) (address : String) (request : Request δ)
    (result : Option (Reply δ)) :
    ∃ left, (s.exit kind address request result).requests address =
        some left ∧
      left.phase.going = false ∧ left.item = request.item := by
  cases kind with
  | nats => exact ⟨_, Function.update_self .., rfl, rfl⟩
  | inProcess => exact ⟨_, Function.update_self .., rfl, rfl⟩
  | zmq => exact ⟨_, Function.update_self .., rfl, rfl⟩

/-- The request reads: the only publisher that waits is woken. -/
theorem Roomy.fetch
    (roomy : Roomy s) {address : String} {request : Request δ}
    {result : Option (Reply δ)}
    (found : s.requests address = some request)
    (going : request.phase.going = true) :
    Roomy
      ((s.wake address).exit kind address { request with item := none }
        result) := by
  have unwoken := roomy.unwoken found going
  unfold State.wake
  split
  · rename_i none
    refine roomy.exit ?_ (.inl unwoken)
    simpa using none
  · rename_i put first
    have own : put.reply.address = address := by
      simpa using List.find?_some first
    subst own
    let fewer : State δ :=
      { s with
        waiting :=
          s.waiting.eraseP fun other =>
            other.reply.address = put.reply.address }
    have left :
        Roomy
          (fewer.exit kind put.reply.address { request with item := none }
            result) := by
      refine (roomy.fewer List.eraseP_sublist (.refl _)).exit ?_ (.inr rfl)
      exact address_not_mem_eraseP roomy.single first
    rcases fewer.exit_requests put.reply.address
      { request with item := none } result with ⟨kept, held, gone, empty⟩
    have awake := left.awake held gone empty
    rw [State.exit_keeps_woken] at awake
    have shape :=
      fewer.exit_woken kind put.reply.address { request with item := none }
        result (s.woken ++ [put])
    exact shape ▸ awake unwoken

theorem Roomy.step
    (roomy : Roomy s) (filed : Filed s)
    (permitted : spared s label = true)
    (stepped : step kind s label = some after) :
    Roomy after := by
  cases effect_of_step stepped with
  | opens fresh =>
      refine roomy.set (.inr (.inl rfl)) (.inl ?_)
      rintro put within rfl
      rcases roomy.woken put within with ⟨request, held, -⟩
      cases held.symm.trans fresh
  | prepared found preparing =>
      refine roomy.set (.inr (.inr rfl)) (.inl (roomy.unwoken found ?_))
      rw [preparing]
      rfl
  | fail found preparing =>
      refine roomy.exit (State.idle_iff.mp permitted)
        (.inl (roomy.unwoken found ?_))
      rw [preparing]
      rfl
  | cancel found going =>
      refine roomy.set (.inl (State.idle_iff.mp permitted))
        (.inl (roomy.unwoken found ?_))
      rcases going with preparing | awaiting
      · rw [preparing]
        rfl
      · rw [awaiting]
        rfl
  | leave found leaving =>
      refine roomy.exit (roomy.unwaited found ?_)
        (.inl (roomy.unwoken found ?_))
      · rw [leaving]
        exact ⟨by simp, by simp⟩
      · rw [leaving]
        rfl
  | fetch found awaiting held =>
      refine roomy.fetch found ?_
      rw [awaiting]
      rfl
  | unsubscribed found closing =>
      rename_i address raised request result
      have settled :
          Roomy
            (s.set address
              { request with
                phase := .finished (if raised then none else result) }) := by
        refine roomy.set (.inl (roomy.unwaited found ?_)) ?_
        · rw [closing]
          exact ⟨by simp, by simp⟩
        · by_cases empty : request.item = none
          · exact .inr ⟨rfl, empty⟩
          · refine .inl ?_
            rintro put within rfl
            rcases roomy.woken put within with ⟨other, held, -, room⟩
            cases held.symm.trans found
            exact empty room
      exact ⟨settled.waiting, settled.single, settled.woken, settled.apart⟩
  | publish elsewhere =>
      rename_i task address data other
      have sent : Roomy (s.record (s.next address data)) :=
        ⟨roomy.waiting, roomy.single, roomy.woken, roomy.apart⟩
      have spare :
          (s.record (s.next address data)).spare
            (s.next address data).address = true := permitted
      refine sent.deliver_getD (filed.record address data) spare ?_
      rcases elsewhere with rfl | rfl
      · exact sent
      · exact ⟨sent.waiting, sent.single, sent.woken, sent.apart⟩
  | remote =>
      exact ⟨roomy.waiting, roomy.single, roomy.woken, roomy.apart⟩
  | arrive found =>
      rename_i position reply
      simp only [spared, found, Option.all_some] at permitted
      have taken : Roomy { s with wire := s.wire.eraseIdx position } :=
        ⟨roomy.waiting, roomy.single, roomy.woken, roomy.apart⟩
      exact taken.deliver_getD (filed.taken position) permitted taken
  | resume found held =>
      rcases roomy.woken _ (List.mem_of_find?_eq_some found) with
        ⟨same, known, -, empty⟩
      cases known.symm.trans held
      exact (roomy.fewer (.refl _) List.eraseP_sublist).put held
        (address_not_mem_eraseP roomy.apart found) (.inl empty)
  | withdraw =>
      exact roomy.fewer List.eraseP_sublist (.refl _)
  | abandon found held outcome =>
      rename_i publisher put request
      rcases roomy.woken _ (List.mem_of_find?_eq_some found) with
        ⟨same, known, gone, -⟩
      cases known.symm.trans held
      have left := roomy.fewer (.refl _)
        (@List.eraseP_sublist _ (fun put => put.publisher = publisher)
          s.woken)
      rcases outcome with rfl | rfl
      · exact left
      · rw [State.wake_of_unwaited]
        · exact left
        · refine left.unwaited held ⟨?_, ?_⟩
          · intro preparing
            rw [preparing] at gone
            cases gone
          · intro awaiting
            rw [awaiting] at gone
            cases gone

end Roomy

/-! ## Runs -/

theorem correlated_of_filed_of_roomy
    {s : State δ} (filed : Filed s) (roomy : Roomy s) : Correlated s where
  once := filed.once
  own _ _ returned := filed.own returned
  distinct := filed.distinct
  removed _ _ _ found finished := filed.unlisted found finished
  released := by
    intro address request result found finished
    refine roomy.unwaited found ?_
    rw [finished]
    exact ⟨by simp, by simp⟩
  proceeds := by
    rintro address request result found finished put within rfl
    rcases roomy.woken put within with ⟨other, held, -, room⟩
    cases held.symm.trans found
    exact room

/-- What holds in every run that meets the condition. -/
structure Sound (s : State δ) : Prop where
  filed : Filed s
  roomy : Roomy s

theorem Sound.step
    {kind : Kind} {s after : State δ} {label : Label δ}
    (sound : Sound s) (permitted : spared s label = true)
    (stepped : step kind s label = some after) : Sound after :=
  ⟨sound.filed.step stepped, sound.roomy.step sound.filed permitted stepped⟩

/--
In every run in which the publishers are spared, replies and requests belong
together, and no publisher waits for a request that has finished.
-/
theorem correlated_in_every_run
    {kind : Kind} {s : State δ}
    (reached :
      Reaches (step kind) (fun s label => spared s label = true) {} s) :
    Correlated s := by
  have sound : Sound s := by
    refine reached.invariant ⟨filed_init, roomy_init⟩ ?_
    intro before label after holds permitted stepped
    exact holds.step permitted stepped
  exact correlated_of_filed_of_roomy sound.filed sound.roomy

theorem second_reply_spared :
    ∃ s : State Nat,
      Reaches (step .zmq) (fun s label => spared s label = true) {} s ∧
        Correlated s ∧
        s.returned = [("_reply.a", ⟨0, "_reply.a", 10⟩)] ∧
        s.waiting = [] ∧ s.woken = [] := by
  have ran :
      ((runWhere (step .zmq) (fun s label => spared s label = true)
          ({} : State Nat)
          [.opens "_reply.a", .opens "_reply.b", .prepared "_reply.a",
            .publish "worker" "_reply.a" 10, .remote "_reply.a" 11,
            .arrive 0, .prepared "_reply.b", .cancel "_reply.b",
            .fetch "_reply.a", .leave "_reply.b", .resume .receiver,
            .remote "_reply.b" 12, .arrive 0]).map fun s =>
        decide (s.returned = [("_reply.a", ⟨0, "_reply.a", 10⟩)] ∧
          s.waiting = [] ∧ s.woken = [])) =
        some true := by
    decide +kernel
  rcases exists_reaches_of_run ran with ⟨s, run, seen⟩
  exact ⟨s, run, correlated_in_every_run run, of_decide_eq_true seen⟩

/--
The time of a request is over when two replies to it arrive.  The first goes
into the queue that nobody reads any more, and the receiver loop waits with the
second one after the request has been left.
-/
theorem receiver_left_behind :
    ¬ ∀ s : State Nat,
      Reaches (step .zmq) (fun _ _ => True) {} s → Correlated s := by
  intro correlated
  have ran :
      ((runWhere (step .zmq) (fun _ _ => True) ({} : State Nat)
          [.opens "_reply.a", .prepared "_reply.a", .remote "_reply.a" 10,
            .remote "_reply.a" 11, .cancel "_reply.a", .arrive 0, .arrive 0,
            .leave "_reply.a"]).map fun s =>
        decide (s.waiting = [⟨.receiver, ⟨1, "_reply.a", 11⟩⟩] ∧
          s.requests "_reply.a" =
            some ⟨.finished none, some ⟨0, "_reply.a", 10⟩, false⟩)) =
        some true := by
    decide +kernel
  rcases exists_reaches_of_run ran with ⟨s, run, seen⟩
  rcases of_decide_eq_true seen with ⟨waiting, left⟩
  have released :=
    (correlated s run).released
      "_reply.a" _ none left rfl
  rw [waiting] at released
  exact released _ (List.mem_singleton.mpr rfl) rfl

end Civitas.Transport.Replies
