import Civitas.Streaming.Frames
import Civitas.Transition

/-!
# The relay of a WebSocket session

`_handle_websocket` and `_ws_pump` of `gateway/asgi.py`, the sinks of
`HTTPGateway` in `gateway/core.py`, and the agent behind a session.

Every frame of the client becomes a request with the id of the session as its
correlation id, and the answers come back as stream frames into one sink.  The
gateway gives the sink no sequence numbers.  The sink closes at the first
terminator, and the pump ends with it; the session goes on.

The labels of the agent are those of its handler: it may register a
`stream_reply`, emit, terminate and return in any order.  The chunk that the
pump has taken and not yet sent is in its hand.
-/

namespace Civitas.Gateway.WebSocketRelay

open Civitas.Streaming
open Civitas.Transition
open Function (update update_self update_of_ne)

variable {π : Type}

/-! ## The session -/

/-- What a session is opened with. -/
structure Config where
  /-- The id of the session, the correlation id of its requests. -/
  session : String
  gateway : String
  agent : String
  /-- `stream_queue_maxsize`. -/
  maxsize : Nat

/-- `ws.message` and `ws.close`. -/
inductive Request (π : Type) where
  | message (payload : π)
  | close
deriving DecidableEq

/-- The session: the gateway, the agent and the two tasks of the relay. -/
structure State (π : Type) where
  /-- `_stream_sinks` of the gateway. -/
  sinks : String → Option (Sink π)
  producer : Streams π
  /-- The requests of the session that the agent has not taken. -/
  requests : List (Request π) := []
  /-- The agent is in its handler; its answer ends with a terminator. -/
  answering : Option Bool := none
  /-- The frames on their way to the handler of the gateway. -/
  mailbox : List (Frame π) := []
  /-- The task of `_ws_pump` is not over. -/
  pumping : Bool := true
  hand : Option π := none
  /-- The session is over. -/
  closed : Bool := false
  /-- What `websocket.send` has been called with. -/
  sent : List π := []
  /-- The chunks that agents have emitted for the session. -/
  emitted : List π := []
  /-- A terminator has been emitted for the session. -/
  terminated : Bool := false

/-- `_open_stream`, with whatever else the gateway and the agent stream. -/
def init
    (cfg : Config) (sinks : String → Option (Sink π))
    (producer : Streams π) : State π where
  sinks := update sinks cfg.session (some { maxsize := cfg.maxsize })
  producer := producer.drop cfg.session

/-- What `handle` of the gateway does with a frame that has a sink. -/
def relay (sink : Sink π) : Content π → Sink π
  | .chunk payload => sink.push payload none
  | .finish => sink.finish none
  | .error reason =>
      sink.fail (if reason = "" then "stream error" else reason)
  | .cancel | .other _ => sink

/-- `HTTPGateway.handle`. -/
def handle
    (sinks : String → Option (Sink π)) (frame : Frame π) :
    String → Option (Sink π) :=
  match sinks (frame.cid.getD "") with
  | none => sinks
  | some sink =>
      update sinks (frame.cid.getD "") (some (relay sink frame.content))

/-- The frame that `_emit_stream` of the agent makes. -/
def State.frameOf
    (cfg : Config) (s : State π) (content : Content π) : Frame π where
  sender := cfg.agent
  cid := some cfg.session
  content := content
  seq := s.producer.seqOf cfg.session content

/-- A frame is handed to `route`. -/
def State.route (s : State π) (frame : Frame π) (routed : Bool) : State π :=
  if routed then { s with mailbox := s.mailbox ++ [frame] } else s

/-- `_emit_stream` with a terminator. -/
def State.terminate
    (cfg : Config) (s : State π) (content : Content π) (routed : Bool) :
    State π :=
  if routed then
    { s.route (s.frameOf cfg content) true with
      producer := s.producer.drop cfg.session
      answering := s.answering.map fun _ => true
      terminated := true }
  else s

/-- The `finally` of `_handle_websocket`; `told` if `ws.close` is routed. -/
def State.hangUp (cfg : Config) (s : State π) (told : Bool) : State π :=
  { s with
    sinks := update s.sinks cfg.session none
    requests := s.requests ++ if told then [.close] else []
    pumping := false
    hand := none
    closed := true }

/-- `drain` takes the first item of the queue. -/
def State.pump (cfg : Config) (s : State π) : Option (State π) :=
  match s.sinks cfg.session with
  | none => none
  | some sink =>
      match sink.queue with
      | [] => none
      | .chunk payload :: rest =>
          some
            { s with
              sinks :=
                update s.sinks cfg.session
                  (some
                    { sink with
                      queue := rest
                      pending := sink.pending - 1 })
              hand := some payload }
      | .finish :: rest | .error _ :: rest =>
          some
            { s with
              sinks :=
                update s.sinks cfg.session (some { sink with queue := rest })
              pumping := false }

/-- What the client, the agent and the tasks of the relay do. -/
inductive Label (π : Type) where
  /-- A frame of the client; nothing if `_ws_parse` skips it. -/
  | receive (payload : Option π)
  /-- The request of a frame cannot be routed. -/
  | refuse (told : Bool)
  | disconnect (told : Bool)
  /-- The agent takes the next request. -/
  | take
  /-- `stream_reply` is entered. -/
  | register (maxFrames : Option Nat)
  /-- `emit`, or `send` of a `StreamReply`; whether `route` takes the frame. -/
  | chunk (payload : π) (routed : Bool)
  /-- `end_stream`, or the exit of `stream_reply`. -/
  | finish (routed : Bool)
  /-- The exit of `stream_reply` with an exception, or the teardown. -/
  | error (reason : String) (routed : Bool)
  /-- The `finally` of `stream_reply`. -/
  | drop
  /-- The handler of the agent returns. -/
  | returns
  /-- A frame of another stream is routed to the gateway. -/
  | foreign (frame : Frame π)
  /-- The gateway handles the next frame. -/
  | deliver
  /-- The pump takes the next item. -/
  | pump
  /-- The pump sends the chunk in its hand. -/
  | send
deriving DecidableEq

/-- One step of a session. -/
def step (cfg : Config) (s : State π) : Label π → Option (State π)
  | .receive payload =>
      if s.closed then none
      else
        some
          { s with
            requests :=
              s.requests ++ (payload.map Request.message).toList }
  | .refuse told | .disconnect told =>
      if s.closed then none else some (s.hangUp cfg told)
  | .take =>
      match s.answering, s.requests with
      | none, _ :: rest =>
          some { s with requests := rest, answering := some false }
      | _, _ => none
  | .register maxFrames =>
      if s.answering.isSome then
        some
          { s with producer := s.producer.register cfg.session maxFrames }
      else none
  | .chunk payload routed =>
      if s.answering.isSome then
        some
          { s.route (s.frameOf cfg (.chunk payload)) routed with
            producer := s.producer.count cfg.session cfg.gateway
            answering := some false
            emitted := s.emitted ++ if routed then [payload] else [] }
      else none
  | .finish routed => some (s.terminate cfg .finish routed)
  | .error reason routed => some (s.terminate cfg (.error reason) routed)
  | .drop => some { s with producer := s.producer.drop cfg.session }
  | .returns =>
      if s.answering.isSome then some { s with answering := none } else none
  | .foreign frame =>
      if frame.cid.getD "" = cfg.session then none
      else some { s with mailbox := s.mailbox ++ [frame] }
  | .deliver =>
      match s.mailbox with
      | [] => none
      | frame :: rest =>
          some { s with sinks := handle s.sinks frame, mailbox := rest }
  | .pump =>
      if s.pumping && s.hand.isNone then s.pump cfg else none
  | .send =>
      match s.hand with
      | none => none
      | some payload =>
          some { s with hand := none, sent := s.sent ++ [payload] }

/-! ## Premises, property and condition -/

/-- A frame carries a chunk of the session. -/
def Frame.chunkOf (session : String) (frame : Frame π) : Option π :=
  if frame.cid.getD "" = session then
    match frame.content with
    | .chunk payload => some payload
    | _ => none
  else none

/--
Every request is routed, every answer ends with a terminator, and fewer than
`stream_queue_maxsize` chunks wait when the next one comes.
-/
def promised (cfg : Config) (s : State π) : Label π → Bool
  | .refuse _ => false
  | .returns => s.answering == some true
  | .deliver =>
      match s.mailbox.head?, s.sinks cfg.session with
      | some frame, some sink =>
          (Frame.chunkOf cfg.session frame).isNone ||
            decide (sink.pending < sink.maxsize)
      | _, _ => true
  | _ => true

/-- The gateway's own steps. -/
def Label.isInternal : Label π → Bool
  | .deliver | .pump | .send => true
  | _ => false

/-- The gateway goes on by itself. -/
def Settles (cfg : Config) : State π → State π → Prop :=
  Reaches (step cfg)
    fun s label => label.isInternal = true ∧ promised cfg s label = true

/--
The client gets what was emitted, in order and nothing twice; and as long as
it is connected, the gateway can send it everything.
-/
structure Relayed (cfg : Config) (s : State π) : Prop where
  ordered : s.sent <+: s.emitted
  whole : s.closed = false → 0 < cfg.maxsize →
    ∃ after, Settles cfg s after ∧ after.sent = s.emitted

/-- No chunk is emitted once a terminator has been emitted. -/
def beforeTerminator (s : State π) : Label π → Bool
  | .chunk _ routed => !(routed && s.terminated)
  | _ => true

/-! ## Items on their way -/

/-- The chunk that an item of a sink is. -/
def Item.chunk? : Item π → Option π
  | .chunk payload => some payload
  | _ => none

/-- The chunks among the items. -/
def chunksOf (items : List (Item π)) : List π :=
  items.filterMap Item.chunk?

/-- The item that a frame puts into an open sink of the session. -/
def itemOf (session : String) (frame : Frame π) : Option (Item π) :=
  if frame.cid.getD "" = session then
    match frame.content with
    | .chunk payload => some (.chunk payload)
    | .finish => some .finish
    | .error reason =>
        some (.error (if reason = "" then "stream error" else reason))
    | _ => none
  else none

/-- The items that the frames put into an open sink of the session. -/
def itemsOf (session : String) (frames : List (Frame π)) : List (Item π) :=
  frames.filterMap (itemOf session)

/-- What the pump will find: the queue, and what is on its way to it. -/
def State.ahead (cfg : Config) (s : State π) (sink : Sink π) :
    List (Item π) :=
  sink.queue ++ itemsOf cfg.session s.mailbox

theorem chunksOf_append (front back : List (Item π)) :
    chunksOf (front ++ back) = chunksOf front ++ chunksOf back :=
  List.filterMap_append

theorem itemsOf_append (session : String) (front back : List (Frame π)) :
    itemsOf session (front ++ back) =
      itemsOf session front ++ itemsOf session back :=
  List.filterMap_append

theorem chunksOf_chunk (payload : π) (items : List (Item π)) :
    chunksOf (.chunk payload :: items) = payload :: chunksOf items :=
  rfl

theorem chunksOf_eq_nil {items : List (Item π)}
    (none : ∀ item ∈ items, Item.chunk? item = none) :
    chunksOf items = [] := by
  rw [chunksOf, List.filterMap_eq_nil_iff]
  exact none

/-- No chunk follows a terminator. -/
def Ordered (items : List (Item π)) : Prop :=
  items.Pairwise fun earlier later =>
    Item.chunk? earlier = none → Item.chunk? later = none

theorem Ordered.concat
    {items : List (Item π)} {item : Item π}
    (ordered : Ordered items)
    (last : Item.chunk? item = none ∨
      ∀ earlier ∈ items, Item.chunk? earlier ≠ none) :
    Ordered (items ++ [item]) := by
  refine List.pairwise_append.mpr ⟨ordered, List.pairwise_singleton _ _, ?_⟩
  intro earlier within _ same terminator
  rw [List.mem_singleton.mp same]
  rcases last with closes | chunks
  · exact closes
  · exact absurd terminator (chunks earlier within)

theorem Ordered.after_terminator
    {items : List (Item π)} {item : Item π}
    (ordered : Ordered (item :: items))
    (terminator : Item.chunk? item = none) :
    ∀ later ∈ items, Item.chunk? later = none :=
  fun _ within => List.rel_of_pairwise_cons ordered within terminator

/-! ## The invariant -/

/--
Everything emitted has been sent, is in the hand of the pump, or is ahead of
it, before the first terminator.
-/
structure Flows (cfg : Config) (s : State π) (sink : Sink π) : Prop where
  held : s.sinks cfg.session = some sink
  size : sink.maxsize = cfg.maxsize
  counted : sink.pending = (chunksOf sink.queue).length
  whole :
    s.emitted = s.sent ++ s.hand.toList ++ chunksOf (s.ahead cfg sink)
  ordered : Ordered (s.ahead cfg sink)
  /-- Before a terminator is emitted only chunks are ahead. -/
  begun : s.terminated = false →
    ∀ item ∈ s.ahead cfg sink, Item.chunk? item ≠ none
  /-- Once the sink is done, no chunk is on its way to it. -/
  done : sink.done = true →
    s.terminated = true ∧
      ∀ item ∈ itemsOf cfg.session s.mailbox, Item.chunk? item = none
  going : sink.done = false →
    s.pumping = true ∧ ∀ item ∈ sink.queue, Item.chunk? item ≠ none
  /-- Once the pump is over, it has taken every chunk. -/
  stopped : s.pumping = false →
    s.hand = none ∧ ∀ item ∈ s.ahead cfg sink, Item.chunk? item = none

/-- A session that is over sends nothing further. -/
structure Silent (s : State π) : Prop where
  ordered : s.sent <+: s.emitted
  pumping : s.pumping = false
  hand : s.hand = none

/-- What holds in every run that meets the condition. -/
structure Sound (cfg : Config) (s : State π) : Prop where
  silent : s.closed = true → Silent s
  flows : s.closed = false → ∃ sink, Flows cfg s sink

section Steps

variable {cfg : Config} {s after : State π} {sink : Sink π}

theorem sound_init
    (cfg : Config) (sinks : String → Option (Sink π)) (producer : Streams π) :
    Sound cfg (init cfg sinks producer) := by
  refine ⟨by rintro ⟨⟩, fun _ => ⟨{ maxsize := cfg.maxsize }, ?_⟩⟩
  constructor
  · exact update_self _ _ _
  · rfl
  · rfl
  · rfl
  · exact List.Pairwise.nil
  · intro _ item within
    contradiction
  · intro done
    contradiction
  · intro _
    refine ⟨rfl, fun item within => ?_⟩
    contradiction
  · intro stopped
    contradiction

/-- Only the gateway's part of the state and the two histories matter. -/
theorem Flows.congr
    (flows : Flows cfg s sink)
    (sinks : after.sinks = s.sinks) (mailbox : after.mailbox = s.mailbox)
    (pumping : after.pumping = s.pumping) (hand : after.hand = s.hand)
    (sent : after.sent = s.sent) (emitted : after.emitted = s.emitted)
    (terminated : after.terminated = s.terminated) :
    Flows cfg after sink := by
  have ahead : after.ahead cfg sink = s.ahead cfg sink := by
    rw [State.ahead, mailbox, State.ahead]
  constructor
  · rw [sinks]
    exact flows.held
  · exact flows.size
  · exact flows.counted
  · rw [emitted, sent, hand, ahead]
    exact flows.whole
  · rw [ahead]
    exact flows.ordered
  · rw [ahead, terminated]
    exact flows.begun
  · rw [terminated, mailbox]
    exact flows.done
  · rw [pumping]
    exact flows.going
  · rw [pumping, hand, ahead]
    exact flows.stopped

/-- The item of a frame that the agent makes. -/
theorem itemOf_frameOf (cfg : Config) (s : State π) (content : Content π) :
    itemOf cfg.session (s.frameOf cfg content) =
      match content with
      | .chunk payload => some (.chunk payload)
      | .finish => some .finish
      | .error reason =>
          some (.error (if reason = "" then "stream error" else reason))
      | _ => none := by
  exact if_pos rfl

/-- A frame at the end of the mailbox. -/
theorem ahead_concat
    {frame : Frame π} (mailbox : after.mailbox = s.mailbox ++ [frame]) :
    after.ahead cfg sink =
      s.ahead cfg sink ++ (itemOf cfg.session frame).toList := by
  rw [State.ahead, mailbox, itemsOf_append, ← List.append_assoc]
  cases item : itemOf cfg.session frame with
  | none => simp [itemsOf, item, State.ahead]
  | some value => simp [itemsOf, item, State.ahead]

/-- A chunk is emitted before the first terminator. -/
theorem Flows.chunk
    (flows : Flows cfg s sink) {payload : π} {frame : Frame π}
    (unterminated : s.terminated = false)
    (item : itemOf cfg.session frame = some (.chunk payload))
    (sinks : after.sinks = s.sinks)
    (mailbox : after.mailbox = s.mailbox ++ [frame])
    (pumping : after.pumping = s.pumping) (hand : after.hand = s.hand)
    (sent : after.sent = s.sent)
    (emitted : after.emitted = s.emitted ++ [payload]) :
    Flows cfg after sink := by
  have undone : sink.done = false := by
    cases done : sink.done with
    | false => rfl
    | true => exact absurd ((flows.done done).1) (by simp [unterminated])
  have ahead : after.ahead cfg sink =
      s.ahead cfg sink ++ [.chunk payload] := by
    rw [ahead_concat mailbox, item]
    rfl
  constructor
  · rw [sinks]
    exact flows.held
  · exact flows.size
  · exact flows.counted
  · rw [emitted, sent, hand, ahead, chunksOf_append, flows.whole]
    simp [chunksOf, Item.chunk?]
  · rw [ahead]
    exact flows.ordered.concat (.inr (flows.begun unterminated))
  · rw [ahead]
    intro _ earlier within
    rcases List.mem_append.mp within with before | last
    · exact flows.begun unterminated earlier before
    · rw [List.mem_singleton.mp last]
      exact Option.some_ne_none payload
  · intro done
    exact absurd (undone.symm.trans done) (by decide)
  · rw [pumping]
    exact flows.going
  · intro stopped
    have going := (flows.going undone).1
    rw [← pumping, stopped] at going
    contradiction

/-- A terminator is emitted. -/
theorem Flows.terminator
    (flows : Flows cfg s sink) {frame : Frame π} {last : Item π}
    (closes : Item.chunk? last = none)
    (item : itemOf cfg.session frame = some last)
    (sinks : after.sinks = s.sinks)
    (mailbox : after.mailbox = s.mailbox ++ [frame])
    (pumping : after.pumping = s.pumping) (hand : after.hand = s.hand)
    (sent : after.sent = s.sent) (emitted : after.emitted = s.emitted)
    (terminated : after.terminated = true) :
    Flows cfg after sink := by
  have ahead : after.ahead cfg sink = s.ahead cfg sink ++ [last] := by
    rw [ahead_concat mailbox, item]
    rfl
  have items :
      itemsOf cfg.session after.mailbox =
        itemsOf cfg.session s.mailbox ++ [last] := by
    rw [mailbox, itemsOf_append]
    simp [itemsOf, item]
  constructor
  · rw [sinks]
    exact flows.held
  · exact flows.size
  · exact flows.counted
  · rw [emitted, sent, hand, ahead, chunksOf_append, flows.whole]
    simp [chunksOf, closes]
  · rw [ahead]
    exact flows.ordered.concat (.inl closes)
  · intro unterminated
    rw [terminated] at unterminated
    contradiction
  · intro done
    refine ⟨terminated, ?_⟩
    rw [items]
    intro other within
    rcases List.mem_append.mp within with before | same
    · exact (flows.done done).2 other before
    · rw [List.mem_singleton.mp same]
      exact closes
  · rw [pumping]
    exact flows.going
  · rw [pumping, hand, ahead]
    intro stopped
    refine ⟨(flows.stopped stopped).1, ?_⟩
    intro other within
    rcases List.mem_append.mp within with before | same
    · exact (flows.stopped stopped).2 other before
    · rw [List.mem_singleton.mp same]
      exact closes

/-- A frame of another stream is routed to the gateway. -/
theorem Flows.foreign
    (flows : Flows cfg s sink) {frame : Frame π}
    (item : itemOf cfg.session frame = none) :
    Flows cfg { s with mailbox := s.mailbox ++ [frame] } sink := by
  have items :
      itemsOf cfg.session (s.mailbox ++ [frame]) =
        itemsOf cfg.session s.mailbox := by
    rw [itemsOf_append]
    simp [itemsOf, item]
  have ahead :
      ({ s with mailbox := s.mailbox ++ [frame] } : State π).ahead cfg sink =
        s.ahead cfg sink := by
    rw [State.ahead, items, State.ahead]
  constructor
  · exact flows.held
  · exact flows.size
  · exact flows.counted
  · rw [ahead]
    exact flows.whole
  · rw [ahead]
    exact flows.ordered
  · rw [ahead]
    exact flows.begun
  · rw [items]
    exact flows.done
  · exact flows.going
  · rw [ahead]
    exact flows.stopped

/-! ## The gateway -/

/-- A frame without an item for the session leaves its sink as it is. -/
theorem handle_of_no_item
    {sinks : String → Option (Sink π)} {frame : Frame π}
    (held : sinks cfg.session = some sink)
    (item : itemOf cfg.session frame = none) :
    handle sinks frame cfg.session = some sink := by
  unfold handle
  by_cases here : frame.cid.getD "" = cfg.session
  · rw [here, held]
    rw [itemOf, if_pos here] at item
    cases content : frame.content with
    | chunk payload => simp [content] at item
    | finish => simp [content] at item
    | error reason => simp [content] at item
    | cancel => simp [relay]
    | other payload => simp [relay]
  · cases other : sinks (frame.cid.getD "") with
    | none => exact held
    | some unrelated =>
        exact (update_of_ne (Ne.symm here) _ _).trans held

/-- A frame with an item for the session is relayed to its sink. -/
theorem handle_of_item
    {sinks : String → Option (Sink π)} {frame : Frame π} {item : Item π}
    (held : sinks cfg.session = some sink)
    (carries : itemOf cfg.session frame = some item) :
    handle sinks frame cfg.session = some (relay sink frame.content) := by
  have here : frame.cid.getD "" = cfg.session := by
    by_contra elsewhere
    rw [itemOf, if_neg elsewhere] at carries
    contradiction
  unfold handle
  rw [here, held]
  exact update_self _ _ _

/-- A sink that is done takes nothing. -/
theorem relay_of_done (done : sink.done = true) (content : Content π) :
    relay sink content = sink := by
  cases content with
  | chunk payload => simp [relay, Sink.push, done]
  | finish => simp [relay, Sink.finish, done]
  | error reason => simp [relay, Sink.fail, done]
  | cancel => rfl
  | other payload => rfl

/-- An open sink that is not full takes a chunk. -/
theorem relay_chunk
    (undone : sink.done = false) (free : sink.pending < sink.maxsize)
    (payload : π) :
    relay sink (.chunk payload) =
      { sink with
        pending := sink.pending + 1
        queue := sink.queue ++ [.chunk payload] } := by
  simp [relay, Sink.push, undone, Nat.not_le.mpr free]

/-- An open sink stops with the item of a terminator. -/
theorem relay_terminator
    {frame : Frame π} {item : Item π}
    (undone : sink.done = false)
    (carries : itemOf cfg.session frame = some item)
    (terminator : Item.chunk? item = none) :
    relay sink frame.content = sink.stop item := by
  unfold itemOf at carries
  split at carries
  · cases content : frame.content with
    | chunk payload =>
        rw [content] at carries
        cases carries
        contradiction
    | finish =>
        rw [content] at carries
        cases carries
        simp [relay, Sink.finish, undone]
    | error reason =>
        rw [content] at carries
        cases carries
        simp [relay, Sink.fail, undone]
    | cancel =>
        rw [content] at carries
        contradiction
    | other payload =>
        rw [content] at carries
        contradiction
  · contradiction

/-- The chunk of a frame is that of its item. -/
theorem content_of_chunk
    {frame : Frame π} {payload : π}
    (carries : itemOf cfg.session frame = some (.chunk payload)) :
    frame.content = .chunk payload ∧
      Frame.chunkOf cfg.session frame = some payload := by
  unfold itemOf at carries
  unfold Frame.chunkOf
  split at carries
  · next here =>
      cases content : frame.content with
      | chunk other =>
          rw [content] at carries
          cases carries
          exact ⟨rfl, by rw [if_pos here]⟩
      | _ =>
          rw [content] at carries
          cases carries
  · contradiction

/-- The gateway handles a frame. -/
theorem Flows.deliver
    (flows : Flows cfg s sink) {frame : Frame π} {rest : List (Frame π)}
    (mailbox : s.mailbox = frame :: rest)
    (free : (Frame.chunkOf cfg.session frame).isSome = true →
      sink.pending < sink.maxsize) :
    ∃ sink, Flows cfg
      { s with sinks := handle s.sinks frame, mailbox := rest } sink := by
  cases item : itemOf cfg.session frame with
  | none =>
      have items :
          itemsOf cfg.session s.mailbox = itemsOf cfg.session rest := by
        rw [mailbox]
        simp [itemsOf, item]
      refine ⟨sink, handle_of_no_item flows.held item, flows.size,
        flows.counted, ?_, ?_, ?_, ?_, flows.going, ?_⟩
      · rw [State.ahead, ← items]
        exact flows.whole
      · rw [State.ahead, ← items]
        exact flows.ordered
      · rw [State.ahead, ← items]
        exact flows.begun
      · rw [← items]
        exact flows.done
      · rw [State.ahead, ← items]
        exact flows.stopped
  | some value =>
      have items :
          itemsOf cfg.session s.mailbox =
            value :: itemsOf cfg.session rest := by
        rw [mailbox]
        simp [itemsOf, item]
      have ahead :
          s.ahead cfg sink =
            sink.queue ++ value :: itemsOf cfg.session rest := by
        rw [State.ahead, items]
      have held := handle_of_item flows.held item
      cases done : sink.done with
      | true =>
          have last := flows.done done
          rw [items] at last
          have part :
              (sink.queue ++ itemsOf cfg.session rest).Sublist
                (s.ahead cfg sink) := by
            rw [ahead]
            exact (List.sublist_cons_self _ _).append_left _
          have closes : Item.chunk? value = none :=
            last.2 value (List.mem_cons_self ..)
          refine ⟨sink, held.trans (by rw [relay_of_done done]), flows.size,
            flows.counted, ?_, flows.ordered.sublist part, ?_, ?_, ?_, ?_⟩
          · rw [flows.whole, ahead]
            simp [chunksOf, closes, State.ahead]
          · intro unterminated other within
            exact flows.begun unterminated other (part.subset within)
          · intro _
            exact ⟨last.1,
              fun other within => last.2 other (List.mem_cons_of_mem _ within)⟩
          · intro undone
            exact absurd (done.symm.trans undone) (by decide)
          · intro stopped
            exact ⟨(flows.stopped stopped).1, fun other within =>
              (flows.stopped stopped).2 other (part.subset within)⟩
      | false =>
          have going := flows.going done
          cases chunk : Item.chunk? value with
          | none =>
              have same :
                  (sink.stop value).queue ++ itemsOf cfg.session rest =
                    s.ahead cfg sink := by
                rw [ahead]
                simp [Sink.stop]
              have within : value ∈ s.ahead cfg sink := by
                rw [ahead]
                simp
              refine ⟨sink.stop value,
                held.trans (by rw [relay_terminator done item chunk]),
                flows.size, ?_, ?_, ?_, ?_, ?_, ?_, ?_⟩
              · rw [Sink.stop, chunksOf_append]
                simpa [chunksOf, chunk] using flows.counted
              · rw [State.ahead, same]
                exact flows.whole
              · rw [State.ahead, same]
                exact flows.ordered
              · rw [State.ahead, same]
                exact flows.begun
              · intro _
                constructor
                · by_contra unterminated
                  rw [Bool.not_eq_true] at unterminated
                  exact flows.begun unterminated value within chunk
                · have ordered := flows.ordered
                  rw [ahead] at ordered
                  exact Ordered.after_terminator
                    (List.pairwise_append.mp ordered).2.1 chunk
              · intro undone
                contradiction
              · rw [State.ahead, same]
                exact flows.stopped
          | some payload =>
              have isChunk : value = .chunk payload := by
                cases value with
                | chunk other => rw [Option.some.inj chunk]
                | finish => contradiction
                | error reason => contradiction
              subst isChunk
              rcases content_of_chunk item with ⟨content, carried⟩
              have room := free (by rw [carried]; rfl)
              rw [content, relay_chunk done room] at held
              have same :
                  (sink.queue ++ [.chunk payload]) ++
                      itemsOf cfg.session rest =
                    s.ahead cfg sink := by
                rw [ahead]
                simp
              refine ⟨_, held, flows.size, ?_, ?_, ?_, ?_, ?_, ?_, ?_⟩
              · rw [chunksOf_append, List.length_append, ← flows.counted]
                rfl
              · rw [State.ahead, same]
                exact flows.whole
              · rw [State.ahead, same]
                exact flows.ordered
              · rw [State.ahead, same]
                exact flows.begun
              · intro finished
                exact absurd (done.symm.trans finished) (by decide)
              · intro _
                refine ⟨going.1, ?_⟩
                intro other within
                rcases List.mem_append.mp within with before | last
                · exact going.2 other before
                · rw [List.mem_singleton.mp last]
                  exact Option.some_ne_none payload
              · rw [State.ahead, same]
                exact flows.stopped

/-- The pump takes a chunk. -/
theorem Flows.takeChunk
    (flows : Flows cfg s sink) (idle : s.hand = none)
    {payload : π} {rest : List (Item π)}
    (queue : sink.queue = .chunk payload :: rest) :
    Flows cfg
      { s with
        sinks :=
          update s.sinks cfg.session
            (some { sink with queue := rest, pending := sink.pending - 1 })
        hand := some payload }
      { sink with queue := rest, pending := sink.pending - 1 } := by
  have ahead :
      s.ahead cfg sink =
        .chunk payload :: (rest ++ itemsOf cfg.session s.mailbox) := by
    rw [State.ahead, queue]
    rfl
  have within : Item.chunk payload ∈ s.ahead cfg sink := by
    rw [ahead]
    exact List.mem_cons_self ..
  constructor
  · exact update_self _ _ _
  · exact flows.size
  · have counted := flows.counted
    rw [queue, chunksOf_chunk, List.length_cons] at counted
    exact Nat.sub_eq_of_eq_add counted
  · have whole := flows.whole
    rw [idle, ahead, chunksOf_chunk] at whole
    change s.emitted = s.sent ++ [payload] ++ chunksOf _
    rw [whole]
    simp [State.ahead]
  · have ordered := flows.ordered
    rw [ahead] at ordered
    exact ordered.of_cons
  · intro unterminated other later
    refine flows.begun unterminated other ?_
    rw [ahead]
    exact List.mem_cons_of_mem _ later
  · exact flows.done
  · intro undone
    refine ⟨(flows.going undone).1, fun other later => ?_⟩
    refine (flows.going undone).2 other ?_
    rw [queue]
    exact List.mem_cons_of_mem _ later
  · intro stopped
    have none := (flows.stopped stopped).2 _ within
    contradiction

/-- The pump takes a terminator and ends. -/
theorem Flows.takeTerminator
    (flows : Flows cfg s sink) (idle : s.hand = none)
    {item : Item π} {rest : List (Item π)}
    (terminator : Item.chunk? item = none)
    (queue : sink.queue = item :: rest) :
    Flows cfg
      { s with
        sinks :=
          update s.sinks cfg.session (some { sink with queue := rest })
        pumping := false }
      { sink with queue := rest } := by
  have ahead :
      s.ahead cfg sink =
        item :: (rest ++ itemsOf cfg.session s.mailbox) := by
    rw [State.ahead, queue]
    rfl
  have finished : sink.done = true := by
    by_contra undone
    rw [Bool.not_eq_true] at undone
    refine (flows.going undone).2 item ?_ terminator
    rw [queue]
    exact List.mem_cons_self ..
  have ordered := flows.ordered
  rw [ahead] at ordered
  constructor
  · exact update_self _ _ _
  · exact flows.size
  · have counted := flows.counted
    rw [queue, chunksOf, List.filterMap_cons_none terminator] at counted
    exact counted
  · rw [flows.whole, ahead, chunksOf, List.filterMap_cons_none terminator]
    rfl
  · exact ordered.of_cons
  · intro unterminated other later
    refine flows.begun unterminated other ?_
    rw [ahead]
    exact List.mem_cons_of_mem _ later
  · exact flows.done
  · intro undone
    exact absurd (finished.symm.trans undone) (by decide)
  · exact fun _ => ⟨idle, ordered.after_terminator terminator⟩

/-- The pump takes the next item. -/
theorem Flows.pump
    (flows : Flows cfg s sink) (idle : s.hand = none)
    (pumped : s.pump cfg = some after) :
    ∃ sink, Flows cfg after sink := by
  unfold State.pump at pumped
  rw [flows.held] at pumped
  dsimp only at pumped
  split at pumped
  · contradiction
  · next payload rest queue =>
      rw [← Option.some.inj pumped]
      exact ⟨_, flows.takeChunk idle queue⟩
  · next rest queue =>
      rw [← Option.some.inj pumped]
      exact ⟨_, flows.takeTerminator idle rfl queue⟩
  · next reason rest queue =>
      rw [← Option.some.inj pumped]
      exact ⟨_, flows.takeTerminator idle rfl queue⟩

/-- The pump sends what it has in its hand. -/
theorem Flows.send
    (flows : Flows cfg s sink) {payload : π}
    (holds : s.hand = some payload) :
    Flows cfg { s with hand := none, sent := s.sent ++ [payload] } sink := by
  refine ⟨flows.held, flows.size, flows.counted, ?_, flows.ordered,
    flows.begun, flows.done, flows.going, ?_⟩
  · rw [flows.whole, holds]
    simp [State.ahead]
  · intro stopped
    exact ⟨rfl, (flows.stopped stopped).2⟩

/-! ## Runs -/

/-- What has been sent is the beginning of what was emitted. -/
theorem Flows.sent_prefix (flows : Flows cfg s sink) :
    s.sent <+: s.emitted := by
  rw [flows.whole, List.append_assoc]
  exact List.prefix_append _ _

/-- The session ends. -/
theorem Sound.hangUp (sound : Sound cfg s) (told : Bool) :
    Sound cfg (s.hangUp cfg told) := by
  refine ⟨fun _ => ⟨?_, rfl, rfl⟩, by rintro ⟨⟩⟩
  cases closed : s.closed with
  | true => exact (sound.silent closed).ordered
  | false =>
      rcases sound.flows closed with ⟨sink, flows⟩
      exact flows.sent_prefix

/-- The pump does not close the session. -/
theorem State.closed_of_pump (pumped : s.pump cfg = some after) :
    after.closed = s.closed := by
  unfold State.pump at pumped
  split at pumped
  · contradiction
  · split at pumped
    · contradiction
    · rw [← Option.some.inj pumped]
    · rw [← Option.some.inj pumped]
    · rw [← Option.some.inj pumped]

/-- A step of the agent that routes nothing. -/
theorem Sound.congr
    (sound : Sound cfg s)
    (closed : after.closed = s.closed)
    (sinks : after.sinks = s.sinks) (mailbox : after.mailbox = s.mailbox)
    (pumping : after.pumping = s.pumping) (hand : after.hand = s.hand)
    (sent : after.sent = s.sent) (emitted : after.emitted = s.emitted)
    (terminated : after.terminated = s.terminated) :
    Sound cfg after := by
  constructor
  · rw [closed]
    intro isClosed
    have silent := sound.silent isClosed
    constructor
    · rw [sent, emitted]
      exact silent.ordered
    · rw [pumping]
      exact silent.pumping
    · rw [hand]
      exact silent.hand
  · rw [closed]
    intro isOpen
    rcases sound.flows isOpen with ⟨sink, flows⟩
    exact ⟨sink, flows.congr sinks mailbox pumping hand sent emitted
      terminated⟩

/-- A chunk is handed to `route`. -/
theorem Sound.chunk
    (sound : Sound cfg s) {payload : π} {routed : Bool}
    (permitted : beforeTerminator s (.chunk payload routed) = true) :
    Sound cfg
      { s.route (s.frameOf cfg (.chunk payload)) routed with
        producer := s.producer.count cfg.session cfg.gateway
        answering := some false
        emitted := s.emitted ++ if routed then [payload] else [] } := by
  cases routed with
  | false =>
      exact sound.congr rfl rfl rfl rfl rfl rfl (List.append_nil _) rfl
  | true =>
      constructor
      · intro isClosed
        have silent := sound.silent isClosed
        exact ⟨silent.ordered.trans (List.prefix_append _ _),
          silent.pumping, silent.hand⟩
      · intro isOpen
        rcases sound.flows isOpen with ⟨sink, flows⟩
        have unterminated : s.terminated = false := by
          simpa [beforeTerminator] using permitted
        exact ⟨sink, flows.chunk unterminated (itemOf_frameOf cfg s _)
          rfl rfl rfl rfl rfl rfl⟩

/-- A terminator is handed to `route`. -/
theorem Sound.terminate
    (sound : Sound cfg s) {content : Content π} {last : Item π}
    (closes : Item.chunk? last = none)
    (item : itemOf cfg.session (s.frameOf cfg content) = some last)
    (routed : Bool) :
    Sound cfg (s.terminate cfg content routed) := by
  cases routed with
  | false => exact sound
  | true =>
      constructor
      · intro isClosed
        have silent := sound.silent isClosed
        exact ⟨silent.ordered, silent.pumping, silent.hand⟩
      · intro isOpen
        rcases sound.flows isOpen with ⟨sink, flows⟩
        exact ⟨sink, flows.terminator closes item rfl rfl rfl rfl rfl rfl
          rfl⟩

/-- The gateway handles a frame of its mailbox. -/
theorem Sound.deliver
    (sound : Sound cfg s) {frame : Frame π} {rest : List (Frame π)}
    (mailbox : s.mailbox = frame :: rest)
    (promise : promised cfg s .deliver = true) :
    Sound cfg { s with sinks := handle s.sinks frame, mailbox := rest } := by
  constructor
  · intro isClosed
    have silent := sound.silent isClosed
    exact ⟨silent.ordered, silent.pumping, silent.hand⟩
  · intro isOpen
    rcases sound.flows isOpen with ⟨sink, flows⟩
    refine flows.deliver mailbox ?_
    intro carries
    simp only [promised, mailbox, List.head?_cons, flows.held] at promise
    rw [← Option.not_isSome, carries] at promise
    exact of_decide_eq_true promise

theorem Sound.step
    (sound : Sound cfg s) {label : Label π}
    (promise : promised cfg s label = true)
    (permitted : beforeTerminator s label = true)
    (stepped : step cfg s label = some after) :
    Sound cfg after := by
  cases label with
  | receive payload =>
      simp only [WebSocketRelay.step] at stepped
      split at stepped
      · contradiction
      · rw [← Option.some.inj stepped]
        exact sound.congr rfl rfl rfl rfl rfl rfl rfl rfl
  | refuse told =>
      contradiction
  | disconnect told =>
      simp only [WebSocketRelay.step] at stepped
      split at stepped
      · contradiction
      · rw [← Option.some.inj stepped]
        exact sound.hangUp told
  | take =>
      simp only [WebSocketRelay.step] at stepped
      split at stepped
      · rw [← Option.some.inj stepped]
        exact sound.congr rfl rfl rfl rfl rfl rfl rfl rfl
      · contradiction
  | register maxFrames =>
      simp only [WebSocketRelay.step] at stepped
      split at stepped
      · rw [← Option.some.inj stepped]
        exact sound.congr rfl rfl rfl rfl rfl rfl rfl rfl
      · contradiction
  | chunk payload routed =>
      simp only [WebSocketRelay.step] at stepped
      split at stepped
      · rw [← Option.some.inj stepped]
        exact sound.chunk permitted
      · contradiction
  | finish routed =>
      rw [← Option.some.inj stepped]
      exact sound.terminate rfl (itemOf_frameOf cfg s _) routed
  | error reason routed =>
      rw [← Option.some.inj stepped]
      exact sound.terminate rfl (itemOf_frameOf cfg s _) routed
  | drop =>
      rw [← Option.some.inj stepped]
      exact sound.congr rfl rfl rfl rfl rfl rfl rfl rfl
  | returns =>
      simp only [WebSocketRelay.step] at stepped
      split at stepped
      · rw [← Option.some.inj stepped]
        exact sound.congr rfl rfl rfl rfl rfl rfl rfl rfl
      · contradiction
  | foreign frame =>
      simp only [WebSocketRelay.step] at stepped
      split at stepped
      · contradiction
      · next elsewhere =>
          rw [← Option.some.inj stepped]
          constructor
          · intro isClosed
            have silent := sound.silent isClosed
            exact ⟨silent.ordered, silent.pumping, silent.hand⟩
          · intro isOpen
            rcases sound.flows isOpen with ⟨sink, flows⟩
            exact ⟨sink, flows.foreign (if_neg elsewhere)⟩
  | deliver =>
      simp only [WebSocketRelay.step] at stepped
      split at stepped
      · contradiction
      · next frame rest mailbox =>
          rw [← Option.some.inj stepped]
          exact sound.deliver mailbox promise
  | pump =>
      simp only [WebSocketRelay.step] at stepped
      split at stepped
      · next ready =>
          rw [Bool.and_eq_true, Option.isNone_iff_eq_none] at ready
          have isOpen : s.closed = false := by
            cases closed : s.closed with
            | false => rfl
            | true =>
                have ended := (sound.silent closed).pumping
                rw [ready.1] at ended
                contradiction
          rcases sound.flows isOpen with ⟨sink, flows⟩
          have kept : after.closed = s.closed := s.closed_of_pump stepped
          constructor
          · intro closed
            rw [kept, isOpen] at closed
            contradiction
          · exact fun _ => flows.pump ready.2 stepped
      · contradiction
  | send =>
      simp only [WebSocketRelay.step] at stepped
      split at stepped
      · contradiction
      · next payload holds =>
          rw [← Option.some.inj stepped]
          constructor
          · intro isClosed
            have idle := (sound.silent isClosed).hand
            rw [holds] at idle
            contradiction
          · intro isOpen
            rcases sound.flows isOpen with ⟨sink, flows⟩
            exact ⟨sink, flows.send holds⟩

/-! ## Progress -/

/-- How much of the stream the gateway has still to deal with. -/
def State.debt (s : State π) (sink : Sink π) : Nat :=
  3 * s.mailbox.length + 2 * sink.queue.length + s.hand.toList.length

/-- A frame adds at most one item to a sink. -/
theorem length_queue_relay (sink : Sink π) (content : Content π) :
    (relay sink content).queue.length ≤ sink.queue.length + 1 := by
  cases content with
  | chunk payload =>
      unfold relay Sink.push
      split_ifs <;> simp [Sink.stop]
  | finish =>
      unfold relay Sink.finish
      split_ifs <;> simp [Sink.stop]
  | error reason =>
      unfold relay Sink.fail
      split_ifs <;> simp [Sink.stop]
  | cancel => exact Nat.le_succ _
  | other payload => exact Nat.le_succ _

theorem length_queue_handle
    {sinks : String → Option (Sink π)} {frame : Frame π} {later : Sink π}
    (held : sinks cfg.session = some sink)
    (handled : handle sinks frame cfg.session = some later) :
    later.queue.length ≤ sink.queue.length + 1 := by
  unfold handle at handled
  by_cases here : frame.cid.getD "" = cfg.session
  · rw [here, held] at handled
    dsimp only at handled
    rw [update_self] at handled
    rw [← Option.some.inj handled]
    exact length_queue_relay sink frame.content
  · have same : sinks cfg.session = some later := by
      rw [← handled]
      cases sinks (frame.cid.getD "") with
      | none => rfl
      | some unrelated => exact (update_of_ne (Ne.symm here) _ _).symm
    rw [held] at same
    rw [Option.some.inj same]
    exact Nat.le_succ _

/-- An internal step that keeps the invariant and brings the stream on. -/
structure Progress
    (cfg : Config) (s : State π) (sink : Sink π) (after : State π) :
    Prop where
  taken : ∃ label : Label π, label.isInternal = true ∧
    promised cfg s label = true ∧ step cfg s label = some after
  opened : after.closed = s.closed
  emitted : after.emitted = s.emitted
  flows : ∃ later, Flows cfg after later ∧ after.debt later < s.debt sink

/-- The pump sends what it has in its hand. -/
theorem Flows.progress_send
    (flows : Flows cfg s sink) {payload : π}
    (holds : s.hand = some payload) :
    ∃ after, Progress cfg s sink after := by
  refine ⟨{ s with hand := none, sent := s.sent ++ [payload] },
    ⟨.send, rfl, rfl, ?_⟩, rfl, rfl, sink, flows.send holds, ?_⟩
  · simp only [WebSocketRelay.step, holds]
  · simp [State.debt, holds]

/-- The pump takes the next item. -/
theorem Flows.progress_pump
    (flows : Flows cfg s sink) (idle : s.hand = none)
    (pumping : s.pumping = true)
    {item : Item π} {rest : List (Item π)}
    (queue : sink.queue = item :: rest) :
    ∃ after, Progress cfg s sink after := by
  have ready : step cfg s .pump = s.pump cfg := by
    simp [WebSocketRelay.step, pumping, idle]
  have shorter (later : Sink π) (same : later.queue = rest) :
      3 * s.mailbox.length + 2 * later.queue.length + 1 < s.debt sink := by
    rw [State.debt, queue, same, idle, List.length_cons]
    simp only [Option.toList_none, List.length_nil]
    omega
  have stops (terminator : Item.chunk? item = none)
      (pumped : s.pump cfg =
        some
          { s with
            sinks :=
              update s.sinks cfg.session (some { sink with queue := rest })
            pumping := false }) :
      ∃ after, Progress cfg s sink after := by
    have kept := flows.takeTerminator idle terminator queue
    refine ⟨_, ⟨.pump, rfl, rfl, ready.trans pumped⟩, rfl, rfl, _, kept, ?_⟩
    refine Nat.lt_trans ?_ (shorter { sink with queue := rest } rfl)
    simp [State.debt, idle]
  cases item with
  | chunk payload =>
      have kept := flows.takeChunk idle queue
      have pumped :
          s.pump cfg =
            some
              { s with
                sinks :=
                  update s.sinks cfg.session
                    (some
                      { sink with
                        queue := rest
                        pending := sink.pending - 1 })
                hand := some payload } := by
        rw [State.pump, flows.held]
        simp only [queue]
      exact ⟨_, ⟨.pump, rfl, rfl, ready.trans pumped⟩, rfl, rfl, _, kept,
        shorter { sink with queue := rest } rfl⟩
  | finish =>
      refine stops rfl ?_
      rw [State.pump, flows.held]
      simp only [queue]
  | error reason =>
      refine stops rfl ?_
      rw [State.pump, flows.held]
      simp only [queue]

/-- With an empty queue, or after its end, the sink has room for a frame. -/
theorem Flows.room
    (flows : Flows cfg s sink) (positive : 0 < cfg.maxsize)
    {frame : Frame π} {rest : List (Frame π)}
    (mailbox : s.mailbox = frame :: rest)
    (drained : s.pumping = true → sink.queue = [])
    (carries : (Frame.chunkOf cfg.session frame).isSome = true) :
    sink.pending < sink.maxsize := by
  cases pumping : s.pumping with
  | true =>
      rw [flows.counted, drained pumping, flows.size]
      exact positive
  | false =>
      rcases Option.isSome_iff_exists.mp carries with ⟨payload, chunk⟩
      have item :
          itemOf cfg.session frame = some (.chunk payload) := by
        unfold Frame.chunkOf at chunk
        unfold itemOf
        split at chunk
        · next here =>
            rw [if_pos here]
            split at chunk
            · next content =>
                rw [content, Option.some.inj chunk]
            · contradiction
        · contradiction
      have within : Item.chunk payload ∈ s.ahead cfg sink := by
        rw [State.ahead, mailbox]
        simp [itemsOf, item]
      have none := (flows.stopped pumping).2 _ within
      contradiction

/-- The gateway handles a frame. -/
theorem Flows.progress_deliver
    (flows : Flows cfg s sink) (positive : 0 < cfg.maxsize)
    {frame : Frame π} {rest : List (Frame π)}
    (mailbox : s.mailbox = frame :: rest)
    (drained : s.pumping = true → sink.queue = []) :
    ∃ after, Progress cfg s sink after := by
  have room := flows.room positive mailbox drained
  rcases flows.deliver mailbox room with ⟨later, kept⟩
  refine ⟨{ s with sinks := handle s.sinks frame, mailbox := rest },
    ⟨.deliver, rfl, ?_, ?_⟩, rfl, rfl, later, kept, ?_⟩
  · simp only [promised, mailbox, List.head?_cons, flows.held]
    cases carried : Frame.chunkOf cfg.session frame with
    | none => rfl
    | some payload => simp [room (by rw [carried]; rfl)]
  · simp only [WebSocketRelay.step, mailbox]
  · have grown := length_queue_handle flows.held kept.held
    simp only [State.debt, mailbox, List.length_cons]
    omega

/-- Either everything has been sent, or the gateway can go on. -/
theorem Flows.progress
    (flows : Flows cfg s sink) (positive : 0 < cfg.maxsize) :
    s.sent = s.emitted ∨ ∃ after, Progress cfg s sink after := by
  cases holds : s.hand with
  | some payload => exact .inr (flows.progress_send holds)
  | none =>
      by_cases drained : s.pumping = true → sink.queue = []
      · cases mailbox : s.mailbox with
        | cons frame rest =>
            exact .inr (flows.progress_deliver positive mailbox drained)
        | nil =>
            left
            have ahead : chunksOf (s.ahead cfg sink) = [] := by
              cases pumping : s.pumping with
              | true =>
                  rw [State.ahead, mailbox, drained pumping]
                  rfl
              | false => exact chunksOf_eq_nil (flows.stopped pumping).2
            rw [flows.whole, holds, ahead]
            simp
      · rw [Classical.not_imp] at drained
        cases queue : sink.queue with
        | nil => exact absurd queue drained.2
        | cons item rest =>
            exact .inr (flows.progress_pump holds drained.1 queue)

/-- The gateway can send everything that has been emitted. -/
theorem Flows.settles
    (positive : 0 < cfg.maxsize) (flows : Flows cfg s sink) :
    ∃ after, Settles cfg s after ∧ after.sent = s.emitted := by
  induction owed : s.debt sink using Nat.strongRecOn
      generalizing s sink with
  | ind owed ih =>
      rcases flows.progress positive with sent | ⟨next, progress⟩
      · exact ⟨s, .start, sent⟩
      · rcases progress.flows with ⟨later, kept, less⟩
        rcases ih _ (owed ▸ less) kept rfl with ⟨after, settles, sent⟩
        rcases progress.taken with ⟨label, isInternal, promise, stepped⟩
        exact ⟨after,
          (Reaches.step .start ⟨isInternal, promise⟩ stepped).trans settles,
          sent.trans progress.emitted⟩

/-- What the invariant says about the client. -/
theorem Sound.relayed (sound : Sound cfg s) : Relayed cfg s := by
  constructor
  · cases closed : s.closed with
    | true => exact (sound.silent closed).ordered
    | false =>
        rcases sound.flows closed with ⟨sink, flows⟩
        exact flows.sent_prefix
  · intro isOpen positive
    rcases sound.flows isOpen with ⟨sink, flows⟩
    exact flows.settles positive

/--
In every run in which no chunk is emitted after the first terminator of the
session, the client gets every chunk, once and in order.
-/
theorem session_relayed_in_every_run
    (cfg : Config) (sinks : String → Option (Sink π)) (producer : Streams π)
    (reached :
      Reaches (step cfg)
        (fun s label => promised cfg s label = true ∧
          beforeTerminator s label = true)
        (init cfg sinks producer) s) :
    Relayed cfg s := by
  have sound : Sound cfg s := by
    refine reached.invariant (sound_init cfg sinks producer) ?_
    intro before label after holds permitted stepped
    exact holds.step permitted.1 permitted.2 stepped
  exact sound.relayed

end Steps

/-- A session with the agent `echo`. -/
def echo : Config where
  session := "0193"
  gateway := "web"
  agent := "echo"
  maxsize := 256

/-- The client sends a frame, and the agent answers it with two chunks. -/
def answered : List (Label Nat) :=
  [.receive (some 7), .take, .register none, .chunk 1 true, .chunk 2 true,
    .finish true, .drop, .returns, .deliver, .pump, .send]

theorem answered_relayed :
    ∃ s : State Nat,
      Reaches (step echo)
          (fun s label => promised echo s label = true ∧
            beforeTerminator s label = true)
          (init echo (fun _ => none) .none) s ∧
        Relayed echo s ∧ s.emitted = [1, 2] ∧ s.sent = [1] := by
  have ran :
      ((runWhere (step echo)
          (fun s label => promised echo s label = true ∧
            beforeTerminator s label = true)
          (init echo (fun _ => none) .none) answered).map fun s =>
        decide (s.emitted = [1, 2] ∧ s.sent = [1])) = some true := by
    decide +kernel
  rcases exists_reaches_of_run ran with ⟨s, run, seen⟩
  rcases of_decide_eq_true seen with ⟨emitted, sent⟩
  exact ⟨s, run, session_relayed_in_every_run echo _ .none run, emitted,
    sent⟩

/-- The client sends two frames, and each is answered with one chunk. -/
def twoAnswers : List (Label Nat) :=
  [.receive (some 7), .receive (some 8),
    .take, .register none, .chunk 1 true, .finish true, .drop, .returns,
    .take, .register none, .chunk 2 true, .finish true, .drop, .returns,
    .deliver, .deliver, .deliver, .deliver, .pump, .send, .pump]

/-- Nothing is left for the gateway to do. -/
theorem settled_of_idle
    {cfg : Config} {s after : State π}
    (mailbox : s.mailbox = []) (pumping : s.pumping = false)
    (hand : s.hand = none) (settles : Settles cfg s after) :
    after = s := by
  induction settles with
  | start => rfl
  | @step before after label _ permitted stepped same =>
      subst same
      cases label with
      | deliver => simp [step, mailbox] at stepped
      | pump => simp [step, pumping] at stepped
      | send => simp [step, hand] at stepped
      | _ => exact absurd permitted.1 Bool.false_ne_true

/-- The chunk of the second answer never comes to the client. -/
theorem second_answer_is_not_relayed :
    ¬ ∀ s : State Nat,
      Reaches (step echo) (fun s label => promised echo s label = true)
          (init echo (fun _ => none) .none) s →
        Relayed echo s := by
  intro relayed
  have ran :
      ((runWhere (step echo) (fun s label => promised echo s label = true)
          (init echo (fun _ => none) .none) twoAnswers).map fun s =>
        decide (s.closed = false ∧ s.mailbox = [] ∧ s.pumping = false ∧
          s.hand = none ∧ s.sent = [1] ∧ s.emitted = [1, 2])) =
        some true := by
    decide +kernel
  rcases exists_reaches_of_run ran with ⟨s, run, seen⟩
  rcases of_decide_eq_true seen with
    ⟨isOpen, mailbox, pumping, hand, sent, emitted⟩
  rcases (relayed s run).whole isOpen (by decide) with
    ⟨after, settles, everything⟩
  rw [settled_of_idle mailbox pumping hand settles, sent,
    emitted] at everything
  contradiction

end Civitas.Gateway.WebSocketRelay
