import Civitas.Streaming.Frames
import Civitas.Transition

/-!
# The integrity of a stream

One request of `stream`, the producer that answers it, and a network between
them that delivers what was sent in any order, any number of times or never,
next to frames of other senders and of other requests.

The producer answers by `stream_reply`, by `emit` and `end_stream`, or by a
plain reply, which the consumer takes for a stream of one item.  It stamps its
frames with the counter of the record that `_out_streams` has for the request.
A terminator removes the record, and the next chunk begins another one.
-/

namespace Civitas.Streaming.Integrity

open Civitas.Transition

variable {π : Type}

/-! ## The system -/

/-- The two ends of a stream. -/
structure Config where
  /-- The correlation id of the request. -/
  cid : String
  /-- The agent that the request is sent to. -/
  recipient : String
  /-- The agent that sends the request. -/
  consumer : String
  maxsize : Nat

/-- How the iteration of the consumer has ended. -/
inductive Outcome where
  | returned
  | raised
  /-- The consumer has left the iteration, or has timed out. -/
  | left
deriving DecidableEq

/-- The tables of both ends and the frames between them. -/
structure State (π : Type) where
  producer : Streams π
  consumer : Streams π
  /-- The frames of the producer that have come to the network. -/
  sent : List (Frame π) := []
  /-- The payloads that the producer has sent for the request. -/
  payloads : List π := []
  /-- The network has an end frame or a plain reply. -/
  closed : Bool := false
  /-- The network has a plain reply. -/
  plain : Bool := false
  yielded : List π := []
  outcome : Option Outcome := none

/-- `stream` has sent its request. -/
def init (cfg : Config) (producer consumer : Streams π) : State π where
  producer := producer.drop cfg.cid
  consumer := consumer.listen cfg.cid cfg.recipient cfg.maxsize

/-- The frame that `_emit_stream` makes. -/
def State.frameOf (cfg : Config) (s : State π) (content : Content π) :
    Frame π where
  sender := cfg.recipient
  cid := some cfg.cid
  content := content
  seq := s.producer.seqOf cfg.cid content

/-- What the two ends and the network do. -/
inductive Label (π : Type) where
  /-- `stream_reply` is entered. -/
  | register (maxFrames : Option Nat)
  /-- `emit`, or `send` of a `StreamReply`; whether `route` takes the frame. -/
  | chunk (payload : π) (routed : Bool)
  /-- `end_stream`, or the exit of `stream_reply`. -/
  | finish (routed : Bool)
  /-- The exit of `stream_reply` with an exception, or the teardown. -/
  | error (reason : String) (routed : Bool)
  /-- The `finally` of `stream_reply`. -/
  | drop
  /-- `handle` returns a reply. -/
  | reply (payload : π) (routed : Bool)
  /-- A frame comes to the consumer. -/
  | deliver (frame : Frame π)
  /-- `drain` takes the next item. -/
  | next
  /-- The agent of the consumer stops. -/
  | failLocal (reason : String)
  | leave
deriving DecidableEq

/-- The network may deliver the frame. -/
def State.delivers (cfg : Config) (s : State π) (frame : Frame π) : Prop :=
  frame ∈ s.sent ∨ frame.sender ≠ cfg.recipient ∨ frame.cid ≠ some cfg.cid

instance [DecidableEq π] (cfg : Config) (s : State π) (frame : Frame π) :
    Decidable (s.delivers cfg frame) :=
  inferInstanceAs (Decidable (_ ∨ _ ∨ _))

/-- A frame is handed to `route`. -/
def State.route (s : State π) (frame : Frame π) (routed : Bool) : State π :=
  if routed then { s with sent := s.sent ++ [frame] } else s

/-- The iteration ends. -/
def State.conclude (cfg : Config) (s : State π) (outcome : Outcome) : State π :=
  { s with
    consumer := s.consumer.leave cfg.cid
    outcome := some outcome }

/-- The sink of the request becomes another one. -/
def State.resink (cfg : Config) (s : State π) (sink : Sink π) : State π :=
  { s with
    consumer :=
      { s.consumer with
        pending := Function.update s.consumer.pending cfg.cid (some sink) } }

/-- One step of the two ends. -/
def step [DecidableEq π] (cfg : Config) (s : State π) :
    Label π → Option (State π)
  | .register maxFrames =>
      some { s with producer := s.producer.register cfg.cid maxFrames }
  | .chunk payload routed =>
      let routing := s.route (s.frameOf cfg (.chunk payload)) routed
      some
        { routing with
          producer := s.producer.count cfg.cid cfg.consumer
          payloads := s.payloads ++ [payload] }
  | .finish routed =>
      let routing := s.route (s.frameOf cfg .finish) routed
      some
        { routing with
          producer := if routed then s.producer.drop cfg.cid else s.producer
          closed := s.closed || routed }
  | .error reason routed =>
      let routing := s.route (s.frameOf cfg (.error reason)) routed
      some
        { routing with
          producer :=
            if routed then s.producer.drop cfg.cid else s.producer }
  | .drop => some { s with producer := s.producer.drop cfg.cid }
  | .reply payload routed =>
      let frame :=
        { s.frameOf cfg (.other payload) with seq := none }
      let routing := s.route frame routed
      some
        { routing with
          payloads := s.payloads ++ [payload]
          closed := s.closed || routed
          plain := s.plain || routed }
  | .deliver frame =>
      if s.delivers cfg frame then
        some { s with consumer := (s.consumer.consumeStreamFrame frame).1 }
      else none
  | .next =>
      match s.consumer.pending cfg.cid with
      | none => none
      | some sink =>
          match sink.queue with
          | [] => none
          | .chunk payload :: rest =>
              let drained :=
                s.resink cfg
                  { sink with queue := rest, pending := sink.pending - 1 }
              some { drained with yielded := s.yielded ++ [payload] }
          | .finish :: _ => some (s.conclude cfg .returned)
          | .error _ :: _ => some (s.conclude cfg .raised)
  | .failLocal reason =>
      match s.consumer.pending cfg.cid with
      | none => none
      | some sink => some (s.resink cfg (sink.fail reason))
  | .leave =>
      match s.consumer.pending cfg.cid with
      | none => none
      | some _ => some (s.conclude cfg .left)

/-! ## The condition -/

/-- The number that the next chunk would get. -/
def State.counter (cfg : Config) (s : State π) : Nat :=
  ((s.producer.out cfg.cid).map OutStream.seq).getD 0

/--
The producer answers the request with one stream: a chunk follows neither an
end frame nor a plain reply, chunks and end frames count on from the chunks
before them, and a plain reply is the only answer.
-/
def once (cfg : Config) (s : State π) : Label π → Bool
  | .chunk _ _ =>
      !s.closed && decide (s.counter cfg = s.payloads.length)
  | .finish _ =>
      !s.plain && decide (s.counter cfg = s.payloads.length)
  | .reply _ _ => !s.closed && s.payloads.isEmpty
  | _ => true

/-- What the consumer has of the stream. -/
structure Intact (cfg : Config) (s : State π) : Prop where
  /-- What is yielded is what was sent, from the start. -/
  ordered : s.yielded <+: s.payloads
  /-- An iteration without an exception has yielded everything. -/
  whole : s.outcome = some .returned → s.yielded = s.payloads
  /-- Frames of other senders do not touch the stream. -/
  foreign : ∀ frame : Frame π, frame.sender ≠ cfg.recipient →
    (s.consumer.consumeStreamFrame frame).1.pending cfg.cid =
      s.consumer.pending cfg.cid

/-! ## The sink -/

/--
The sink holds the chunks `queued`, and `last` once it is done.
-/
structure Fits
    (s : State π) (sink : Sink π) (queued : List π) (last : Option (Item π)) :
    Prop where
  queue : sink.queue = queued.map .chunk ++ last.toList
  done : sink.done = last.isSome
  ordered : s.yielded ++ queued <+: s.payloads
  counted : last = none → sink.nextSeq = (s.yielded ++ queued).length
  plain : s.plain = true → last = none → s.yielded ++ queued = []
  ended : last = some .finish →
    s.closed = true ∧ s.yielded ++ queued = s.payloads
  terminal : ∀ payload, last ≠ some (.chunk payload)

/-- What the network has of the request. -/
structure Carried (cfg : Config) (s : State π) (frame : Frame π) : Prop where
  cid : frame.cid = some cfg.cid
  sender : frame.sender = cfg.recipient
  chunk : ∀ payload, frame.content = .chunk payload →
    s.plain = false ∧
      ∃ index, frame.seq = some index ∧ s.payloads[index]? = some payload
  finish : frame.content = .finish →
    s.closed = true ∧ s.plain = false ∧
      (∀ total, frame.seq = some total → total = s.payloads.length) ∧
      (frame.seq = none → s.payloads = [])
  other : ∀ payload, frame.content = .other payload →
    s.plain = true ∧ s.payloads = [payload]

section Fits

variable {cfg : Config} {s : State π} {sink : Sink π} {queued : List π}
variable {last : Option (Item π)}

theorem prefix_concat
    {front whole : List π} {payload : π}
    (within : front <+: whole) (here : whole[front.length]? = some payload) :
    front ++ [payload] <+: whole := by
  rcases within with ⟨rest, rfl⟩
  rw [List.getElem?_append_right (Nat.le_refl _), Nat.sub_self] at here
  cases rest with
  | nil => cases here
  | cons first others =>
      cases here
      exact ⟨others, by rw [List.append_assoc, List.singleton_append]⟩

/-- A sink that is done takes nothing. -/
theorem accept_of_done
    (done : sink.done = true) (content : Content π) (seq : Option Nat) :
    sink.accept content seq = sink := by
  cases content <;>
    simp [Sink.accept, Sink.push, Sink.finish, Sink.fail, done]

/-- A sink stops with an error. -/
theorem Fits.stop
    (fits : Fits s sink queued none) (reason : String) :
    Fits s (sink.stop (.error reason)) queued (some (.error reason)) where
  queue := by simp [Sink.stop, fits.queue]
  done := rfl
  ordered := fits.ordered
  counted := by simp
  plain := by simp
  ended := by simp
  terminal := by simp

/-- The stream has come to its end. -/
theorem Fits.finish
    (fits : Fits s sink queued none) (closed : s.closed = true)
    (whole : s.yielded ++ queued = s.payloads) :
    Fits s (sink.stop .finish) queued (some .finish) where
  queue := by simp [Sink.stop, fits.queue]
  done := rfl
  ordered := fits.ordered
  counted := by simp
  plain := by simp
  ended := fun _ => ⟨closed, whole⟩
  terminal := by simp

/-- The next chunk of the stream, or an error. -/
theorem Fits.push
    (fits : Fits s sink queued none) {payload : π} {index : Nat}
    (sequenced : s.plain = false)
    (sent : s.payloads[index]? = some payload) :
    ∃ queued last, Fits s (sink.push payload (some index)) queued last := by
  have fresh : sink.done = false := fits.done
  unfold Sink.push
  rw [fresh]
  by_cases next : index = sink.nextSeq
  · have numbered := fits.counted rfl
    by_cases full : sink.maxsize ≤ sink.pending
    · simp only [Bool.false_eq_true, if_false, Option.any_some, next, ne_eq,
        not_true_eq_false, decide_false, full, if_true]
      exact ⟨_, _, fits.stop "slow_consumer"⟩
    · simp only [Bool.false_eq_true, if_false, Option.any_some, next, ne_eq,
        not_true_eq_false, decide_false, full, Option.isSome_some, if_true]
      rw [next, numbered] at sent
      refine ⟨queued ++ [payload], none, ?_⟩
      constructor
      · simp [fits.queue]
      · rfl
      · rw [← List.append_assoc]
        exact prefix_concat fits.ordered sent
      · intro _
        simp [numbered, Nat.add_assoc]
      · intro plain
        cases sequenced.symm.trans plain
      · rintro ⟨⟩
      · rintro _ ⟨⟩
  · have other : Option.any (· ≠ sink.nextSeq) (some index) = true := by
      simpa using next
    rw [if_neg (by simp), if_pos other]
    exact ⟨_, _, fits.stop "out_of_order"⟩

/-- A frame of the producer keeps the sink in order. -/
theorem Fits.accept
    (fits : Fits s sink queued last) {frame : Frame π}
    (carried : Carried cfg s frame)
    (closing : s.plain = true → s.closed = true) :
    ∃ queued last,
      Fits s (sink.accept frame.content frame.seq) queued last := by
  cases last with
  | some item =>
      rw [accept_of_done fits.done]
      exact ⟨queued, some item, fits⟩
  | none =>
      have fresh : sink.done = false := fits.done
      cases content : frame.content with
      | chunk payload =>
          rcases carried.chunk payload content with
            ⟨sequenced, index, seq, sent⟩
          rw [seq]
          exact fits.push sequenced sent
      | finish =>
          rcases carried.finish content with
            ⟨closed, -, totalled, empty⟩
          simp only [Sink.accept, Sink.finish, fresh, Bool.false_eq_true,
            if_false]
          split
          · exact ⟨_, _, fits.stop "truncated_stream"⟩
          · rename_i agrees
            refine ⟨_, _, fits.finish closed ?_⟩
            cases seq : frame.seq with
            | none =>
                have nothing := fits.ordered
                rw [empty seq] at nothing
                rw [List.prefix_nil.mp nothing, empty seq]
            | some total =>
                have same : total = sink.nextSeq := by
                  simpa [seq] using agrees
                refine fits.ordered.eq_of_length ?_
                rw [← fits.counted rfl, ← same, totalled total seq]
      | error reason =>
          simp only [Sink.accept, Sink.fail, fresh, Bool.false_eq_true,
            if_false]
          exact ⟨_, _, fits.stop _⟩
      | cancel => exact ⟨queued, none, fits⟩
      | other payload =>
          rcases carried.other payload content with ⟨plain, only⟩
          have nothing := fits.plain plain rfl
          simp only [Sink.accept]
          by_cases full : sink.maxsize ≤ sink.pending
          · have stopped :
                sink.push payload none =
                  sink.stop (.error "slow_consumer") := by
              simp [Sink.push, fresh, full]
            rw [stopped]
            have done :
                (sink.stop (.error "slow_consumer")).done = true := rfl
            simp only [Sink.finish, done, if_true]
            exact ⟨_, _, fits.stop "slow_consumer"⟩
          · have pushed :
                sink.push payload none =
                  { sink with
                    pending := sink.pending + 1
                    queue := sink.queue ++ [.chunk payload] } := by
              simp [Sink.push, fresh, full]
            have finished :
                (sink.push payload none).finish none =
                  Sink.stop
                    { sink with
                      pending := sink.pending + 1
                      queue := sink.queue ++ [.chunk payload] } .finish := by
              rw [pushed]
              simp [Sink.finish, fresh]
            have whole : s.yielded ++ (queued ++ [payload]) = s.payloads := by
              rw [← List.append_assoc, nothing, only]
              rfl
            rw [finished]
            refine ⟨queued ++ [payload], some .finish, ?_⟩
            constructor
            · simp [Sink.stop, fits.queue]
            · rfl
            · exact whole ▸ List.prefix_rfl
            · simp
            · simp
            · exact fun _ => ⟨closing plain, whole⟩
            · simp

end Fits

/-! ## Runs -/

/-- What holds in every run that meets the condition. -/
structure Sound (cfg : Config) (s : State π) : Prop where
  closing : s.plain = true → s.closed = true
  carried : ∀ frame ∈ s.sent, Carried cfg s frame
  listening : ∀ sink, s.consumer.pending cfg.cid = some sink →
    s.consumer.producers cfg.cid = some cfg.recipient ∧ s.outcome = none ∧
      ∃ queued last, Fits s sink queued last
  ordered : s.yielded <+: s.payloads
  whole : s.outcome = some .returned →
    s.closed = true ∧ s.yielded = s.payloads

section Sound

variable {cfg : Config} {s after : State π}

theorem sound_init (producer consumer : Streams π) :
    Sound cfg (init cfg producer consumer) where
  closing := by rintro ⟨⟩
  carried := by rintro _ ⟨⟩
  listening := by
    intro sink held
    simp only [init, Streams.listen, Function.update_self] at held ⊢
    cases held
    refine ⟨trivial, trivial, [], none, ?_⟩
    exact ⟨rfl, rfl, List.nil_prefix, fun _ => rfl, by simp, by simp, by simp⟩
  ordered := List.nil_prefix
  whole := by rintro ⟨⟩

theorem Sound.intact (sound : Sound cfg s) : Intact cfg s where
  ordered := sound.ordered
  whole := fun returned => (sound.whole returned).2
  foreign := by
    intro frame stranger
    cases held : s.consumer.pending cfg.cid with
    | none => exact Streams.consume_closed held
    | some sink =>
        rw [← held]
        refine Streams.consume_foreign (.inr ?_)
        rw [(sound.listening sink held).1]
        intro same
        exact stranger (Option.some.inj same).symm

/-- A frame is carried in states that agree on the stream. -/
theorem Carried.frame
    {frame : Frame π} (carried : Carried cfg s frame)
    (payloads : after.payloads = s.payloads)
    (closed : after.closed = s.closed) (plain : after.plain = s.plain) :
    Carried cfg after frame := by
  refine ⟨carried.cid, carried.sender, ?_, ?_, ?_⟩
  · rw [payloads, plain]
    exact carried.chunk
  · rw [payloads, plain, closed]
    exact carried.finish
  · rw [payloads, plain]
    exact carried.other

theorem Fits.frame
    {sink : Sink π} {queued : List π} {last : Option (Item π)}
    (fits : Fits s sink queued last) (yielded : after.yielded = s.yielded)
    (payloads : after.payloads = s.payloads)
    (closed : after.closed = s.closed) (plain : after.plain = s.plain) :
    Fits after sink queued last := by
  refine ⟨fits.queue, fits.done, ?_, ?_, ?_, ?_, fits.terminal⟩
  · rw [yielded, payloads]
    exact fits.ordered
  · rw [yielded]
    exact fits.counted
  · rw [yielded, plain]
    exact fits.plain
  · rw [yielded, payloads, closed]
    exact fits.ended

/-- The producer goes on; what it has closed does not grow. -/
theorem Sound.grow
    (sound : Sound cfg s) {extra : List π}
    (consumer : after.consumer = s.consumer)
    (outcome : after.outcome = s.outcome)
    (yielded : after.yielded = s.yielded)
    (payloads : after.payloads = s.payloads ++ extra)
    (closed : s.closed = true → after.closed = true ∧ extra = [])
    (plain : after.plain = true → s.plain = true ∨ s.payloads = [])
    (closing : after.plain = true → after.closed = true)
    (carried : ∀ frame ∈ after.sent, Carried cfg after frame) :
    Sound cfg after where
  closing := closing
  carried := carried
  listening := by
    intro sink held
    rw [consumer] at held ⊢
    rcases sound.listening sink held with
      ⟨expected, running, queued, last, fits⟩
    refine ⟨expected, outcome.trans running, queued, last, ?_⟩
    refine ⟨fits.queue, fits.done, ?_, ?_, ?_, ?_, fits.terminal⟩
    · rw [yielded, payloads]
      exact fits.ordered.trans (List.prefix_append _ _)
    · rw [yielded]
      exact fits.counted
    · intro isPlain undone
      rw [yielded]
      rcases plain isPlain with before | empty
      · exact fits.plain before undone
      · have within := fits.ordered
        rw [empty] at within
        exact List.prefix_nil.mp within
    · intro ended
      rcases fits.ended ended with ⟨isClosed, whole⟩
      rcases closed isClosed with ⟨still, rfl⟩
      rw [yielded, payloads, List.append_nil]
      exact ⟨still, whole⟩
  ordered := by
    rw [yielded, payloads]
    exact sound.ordered.trans (List.prefix_append _ _)
  whole := by
    intro returned
    rw [outcome] at returned
    rcases sound.whole returned with ⟨isClosed, whole⟩
    rcases closed isClosed with ⟨still, rfl⟩
    rw [yielded, payloads, List.append_nil]
    exact ⟨still, whole⟩

/-- A frame keeps its place while the stream grows. -/
theorem Carried.grow
    {frame : Frame π} (carried : Carried cfg s frame) {extra : List π}
    (payloads : after.payloads = s.payloads ++ extra)
    (closed : s.closed = true → after.closed = true ∧ extra = [])
    (plain : after.plain = s.plain)
    (closing : s.plain = true → s.closed = true) :
    Carried cfg after frame where
  cid := carried.cid
  sender := carried.sender
  chunk := by
    intro payload content
    rcases carried.chunk payload content with ⟨sequenced, index, seq, sent⟩
    refine ⟨plain.trans sequenced, index, seq, ?_⟩
    rcases List.getElem?_eq_some_iff.mp sent with ⟨below, -⟩
    rw [payloads, List.getElem?_append_left below]
    exact sent
  finish := by
    intro content
    rcases carried.finish content with ⟨isClosed, sequenced, total, empty⟩
    rcases closed isClosed with ⟨still, rfl⟩
    rw [payloads, List.append_nil]
    exact ⟨still, plain.trans sequenced, total, empty⟩
  other := by
    intro payload content
    rcases carried.other payload content with ⟨isPlain, only⟩
    rcases closed (closing isPlain) with ⟨-, rfl⟩
    rw [payloads, List.append_nil]
    exact ⟨plain.trans isPlain, only⟩

/-- The frames of the network after one more frame may have come to it. -/
theorem carried_route
    {frame : Frame π} {routed : Bool} {sent : List (Frame π)}
    (route : sent = (s.route frame routed).sent)
    (old : ∀ frame ∈ s.sent, Carried cfg after frame)
    (new : routed = true → Carried cfg after frame) :
    ∀ frame ∈ sent, Carried cfg after frame := by
  intro other within
  rw [route] at within
  cases routed with
  | false => exact old other within
  | true =>
      rcases List.mem_append.mp within with before | here
      · exact old other before
      · cases List.mem_singleton.mp here
        exact new rfl

@[simp]
theorem route_frame (s : State π) (frame : Frame π) (routed : Bool) :
    (s.route frame routed).consumer = s.consumer ∧
      (s.route frame routed).outcome = s.outcome ∧
      (s.route frame routed).yielded = s.yielded ∧
      (s.route frame routed).payloads = s.payloads ∧
      (s.route frame routed).closed = s.closed ∧
      (s.route frame routed).plain = s.plain := by
  cases routed <;> exact ⟨rfl, rfl, rfl, rfl, rfl, rfl⟩

/-- The record of the producer does not matter to the consumer. -/
theorem Sound.rerecord (sound : Sound cfg s) (producer : Streams π) :
    Sound cfg { s with producer := producer } where
  closing := sound.closing
  carried := fun frame within =>
    (sound.carried frame within).frame rfl rfl rfl
  listening := by
    intro sink held
    rcases sound.listening sink held with
      ⟨expected, running, queued, last, fits⟩
    exact ⟨expected, running, queued, last, fits.frame rfl rfl rfl rfl⟩
  ordered := sound.ordered
  whole := sound.whole

/-- The sink of the request takes a step of its own. -/
theorem Sound.resink
    (sound : Sound cfg s) {sink next : Sink π}
    (held : s.consumer.pending cfg.cid = some sink)
    (fits : ∃ queued last, Fits s next queued last) :
    Sound cfg (s.resink cfg next) where
  closing := sound.closing
  carried := fun frame within =>
    (sound.carried frame within).frame rfl rfl rfl
  listening := by
    intro other found
    simp only [State.resink, Function.update_self] at found
    cases found
    rcases sound.listening sink held with ⟨expected, running, -⟩
    rcases fits with ⟨queued, last, fits⟩
    exact ⟨expected, running, queued, last, fits.frame rfl rfl rfl rfl⟩
  ordered := sound.ordered
  whole := sound.whole

/-- The iteration ends, and has everything when it ends well. -/
theorem Sound.conclude
    (sound : Sound cfg s) (outcome : Outcome)
    (whole : outcome = .returned →
      s.closed = true ∧ s.yielded = s.payloads) :
    Sound cfg (s.conclude cfg outcome) where
  closing := sound.closing
  carried := fun frame within =>
    (sound.carried frame within).frame rfl rfl rfl
  listening := by
    intro sink held
    simp only [State.conclude, Streams.leave, Function.update_self] at held
    cases held
  ordered := sound.ordered
  whole := by
    intro returned
    cases Option.some.inj returned
    exact whole rfl

/-- `drain` takes the front of the queue. -/
theorem Sound.next [DecidableEq π]
    (sound : Sound cfg s) (stepped : step cfg s .next = some after) :
    Sound cfg after := by
  simp only [step] at stepped
  cases held : s.consumer.pending cfg.cid with
  | none =>
      simp only [held] at stepped
      cases stepped
  | some sink =>
      simp only [held] at stepped
      rcases sound.listening sink held with
        ⟨expected, running, queued, last, fits⟩
      cases queued with
      | nil =>
          cases last with
          | none =>
              simp only [fits.queue, List.map_nil, List.nil_append,
                Option.toList_none] at stepped
              cases stepped
          | some item =>
              simp only [fits.queue, List.map_nil, List.nil_append,
                Option.toList_some] at stepped
              cases item with
              | chunk payload => exact absurd rfl (fits.terminal payload)
              | finish =>
                  cases stepped
                  refine sound.conclude .returned fun _ => ?_
                  rcases fits.ended rfl with ⟨closed, whole⟩
                  rw [List.append_nil] at whole
                  exact ⟨closed, whole⟩
              | error reason =>
                  cases stepped
                  exact sound.conclude .raised (by simp)
      | cons payload rest =>
          simp only [fits.queue, List.map_cons, List.cons_append]
            at stepped
          cases stepped
          have moved :
              (s.yielded ++ [payload]) ++ rest =
                s.yielded ++ payload :: rest := by
            rw [List.append_assoc, List.singleton_append]
          refine ⟨sound.closing, ?_, ?_, ?_, ?_⟩
          · intro frame within
            exact (sound.carried frame within).frame rfl rfl rfl
          · intro other found
            simp only [State.resink, Function.update_self] at found
            cases found
            refine ⟨expected, running, rest, last, rfl, fits.done, ?_, ?_, ?_,
              ?_, fits.terminal⟩
            · simp only [State.resink]
              rw [moved]
              exact fits.ordered
            · intro undone
              simp only
              rw [moved]
              exact fits.counted undone
            · simp only [State.resink]
              rw [moved]
              exact fits.plain
            · simp only [State.resink]
              rw [moved]
              exact fits.ended
          · have within := fits.ordered
            rw [← moved] at within
            exact (List.prefix_append _ _).trans within
          · intro returned
            cases running.symm.trans returned

/-- A frame reaches the consumer. -/
theorem Sound.deliver
    (sound : Sound cfg s) {frame : Frame π}
    (delivered : s.delivers cfg frame) :
    Sound cfg
      { s with consumer := (s.consumer.consumeStreamFrame frame).1 } := by
  have same :
      (s.consumer.consumeStreamFrame frame).1.pending cfg.cid =
          s.consumer.pending cfg.cid ∨
        ∃ sink,
          s.consumer.pending cfg.cid = some sink ∧ frame ∈ s.sent ∧
            (s.consumer.consumeStreamFrame frame).1.pending cfg.cid =
              some (sink.accept frame.content frame.seq) := by
    cases held : s.consumer.pending cfg.cid with
    | none => exact .inl (Streams.consume_closed held)
    | some sink =>
        have expected := (sound.listening sink held).1
        rw [← held]
        rcases delivered with own | stranger | elsewhere
        · have carried := sound.carried frame own
          rw [← carried.sender] at expected
          exact .inr
            ⟨sink, held, own, Streams.consume_own carried.cid expected held⟩
        · refine .inl (Streams.consume_foreign (.inr ?_))
          rw [expected]
          intro equal
          exact stranger (Option.some.inj equal).symm
        · exact .inl (Streams.consume_foreign (.inl elsewhere))
  refine ⟨sound.closing, ?_, ?_, sound.ordered, sound.whole⟩
  · intro other within
    exact (sound.carried other within).frame rfl rfl rfl
  · intro sink found
    simp only [Streams.consume_producers]
    rcases same with unchanged | ⟨old, held, own, accepted⟩
    · rcases sound.listening sink (unchanged.symm.trans found) with
        ⟨expected, running, queued, last, fits⟩
      exact ⟨expected, running, queued, last, fits.frame rfl rfl rfl rfl⟩
    · cases accepted.symm.trans found
      rcases sound.listening old held with
        ⟨expected, running, queued, last, fits⟩
      rcases fits.accept (sound.carried frame own) sound.closing with
        ⟨queued, last, fits⟩
      exact ⟨expected, running, queued, last, fits.frame rfl rfl rfl rfl⟩

/-- The producer sends a chunk that counts on from those before it. -/
theorem Sound.chunk
    (sound : Sound cfg s) {payload : π} {routed : Bool}
    (permitted : once cfg s (.chunk payload routed) = true) :
    Sound cfg
      { s.route (s.frameOf cfg (.chunk payload)) routed with
        producer := s.producer.count cfg.cid cfg.consumer
        payloads := s.payloads ++ [payload] } := by
  simp only [once, Bool.and_eq_true, Bool.not_eq_true', decide_eq_true_eq]
    at permitted
  rcases permitted with ⟨unclosed, counted⟩
  have sequenced : s.plain = false := by
    cases plain : s.plain with
    | false => rfl
    | true => cases unclosed.symm.trans (sound.closing plain)
  rcases route_frame s (s.frameOf cfg (.chunk payload)) routed with
    ⟨consumer, outcome, yielded, -, closed, plain⟩
  have shut : s.closed = true →
      (s.route (s.frameOf cfg (.chunk payload)) routed).closed = true ∧
        [payload] = [] := by
    intro isClosed
    cases unclosed.symm.trans isClosed
  refine sound.grow consumer outcome yielded rfl shut ?_ ?_ ?_
  · intro isPlain
    exact .inl (plain.symm.trans isPlain)
  · intro isPlain
    cases sequenced.symm.trans (plain.symm.trans isPlain)
  · refine carried_route rfl ?_ ?_
    · intro frame within
      exact (sound.carried frame within).grow rfl shut plain sound.closing
    · intro _
      refine ⟨rfl, rfl, ?_, by rintro ⟨⟩, by rintro _ ⟨⟩⟩
      intro other content
      cases content
      refine ⟨plain.trans sequenced, s.payloads.length, ?_, ?_⟩
      · exact congrArg some counted
      · exact List.getElem?_concat_length

/-- The producer ends its stream. -/
theorem Sound.finish
    (sound : Sound cfg s) {routed : Bool}
    (permitted : once cfg s (.finish routed) = true) (producer : Streams π) :
    Sound cfg
      { s.route (s.frameOf cfg .finish) routed with
        producer := producer
        closed := s.closed || routed } := by
  simp only [once, Bool.and_eq_true, Bool.not_eq_true', decide_eq_true_eq]
    at permitted
  rcases permitted with ⟨sequenced, counted⟩
  rcases route_frame s (s.frameOf cfg .finish) routed with
    ⟨consumer, outcome, yielded, payloads, -, plain⟩
  have grown :
      (s.route (s.frameOf cfg .finish) routed).payloads =
        s.payloads ++ [] :=
    payloads.trans (List.append_nil _).symm
  have shut : s.closed = true →
      (s.closed || routed) = true ∧ ([] : List π) = [] := by
    intro isClosed
    rw [isClosed]
    exact ⟨rfl, rfl⟩
  refine sound.grow consumer outcome yielded grown shut ?_ ?_ ?_
  · intro isPlain
    exact .inl (plain.symm.trans isPlain)
  · intro isPlain
    exact (shut (sound.closing (plain.symm.trans isPlain))).1
  · refine carried_route rfl ?_ ?_
    · intro frame within
      exact (sound.carried frame within).grow grown shut plain sound.closing
    · rintro rfl
      refine ⟨rfl, rfl, by rintro _ ⟨⟩, ?_, by rintro _ ⟨⟩⟩
      intro _
      refine ⟨Bool.or_true _, plain.trans sequenced, ?_, ?_⟩
      · intro total seq
        have stamped :
            (s.producer.out cfg.cid).map OutStream.seq = some total := seq
        rw [State.counter, stamped] at counted
        exact counted
      · intro seq
        have unstamped :
            (s.producer.out cfg.cid).map OutStream.seq = none := seq
        rw [State.counter, unstamped] at counted
        exact List.length_eq_zero_iff.mp counted.symm

/-- An error frame says nothing about the chunks. -/
theorem Sound.error
    (sound : Sound cfg s) (reason : String) (routed : Bool)
    (producer : Streams π) :
    Sound cfg
      { s.route (s.frameOf cfg (.error reason)) routed with
        producer := producer } := by
  rcases route_frame s (s.frameOf cfg (.error reason)) routed with
    ⟨consumer, outcome, yielded, payloads, closed, plain⟩
  have grown :
      (s.route (s.frameOf cfg (.error reason)) routed).payloads =
        s.payloads ++ [] :=
    payloads.trans (List.append_nil _).symm
  have shut : s.closed = true →
      (s.route (s.frameOf cfg (.error reason)) routed).closed = true ∧
        ([] : List π) = [] := by
    intro isClosed
    exact ⟨closed.trans isClosed, rfl⟩
  refine sound.grow consumer outcome yielded grown shut ?_ ?_ ?_
  · intro isPlain
    exact .inl (plain.symm.trans isPlain)
  · intro isPlain
    exact closed.trans (sound.closing (plain.symm.trans isPlain))
  · refine carried_route rfl ?_ ?_
    · intro frame within
      exact (sound.carried frame within).grow grown shut plain sound.closing
    · intro _
      exact ⟨rfl, rfl, by rintro _ ⟨⟩, by rintro ⟨⟩, by rintro _ ⟨⟩⟩

/-- The producer answers with a plain reply and nothing else. -/
theorem Sound.reply
    (sound : Sound cfg s) {payload : π} {routed : Bool}
    (permitted : once cfg s (.reply payload routed) = true) :
    Sound cfg
      { s.route { s.frameOf cfg (.other payload) with seq := none } routed with
        payloads := s.payloads ++ [payload]
        closed := s.closed || routed
        plain := s.plain || routed } := by
  simp only [once, Bool.and_eq_true, Bool.not_eq_true',
    List.isEmpty_iff] at permitted
  rcases permitted with ⟨unclosed, empty⟩
  have sequenced : s.plain = false := by
    cases plain : s.plain with
    | false => rfl
    | true => cases unclosed.symm.trans (sound.closing plain)
  rcases route_frame s { s.frameOf cfg (.other payload) with seq := none }
      routed with ⟨consumer, outcome, yielded, -⟩
  have bare : ∀ frame ∈ s.sent, ∀ content,
      frame.content = content →
        (∀ payload, content ≠ .chunk payload) ∧ content ≠ .finish ∧
          ∀ payload, content ≠ .other payload := by
    intro frame within content same
    have carried := sound.carried frame within
    refine ⟨?_, ?_, ?_⟩
    · rintro other rfl
      rcases carried.chunk other same with ⟨-, index, -, sent⟩
      rw [empty] at sent
      cases sent
    · rintro rfl
      cases unclosed.symm.trans (carried.finish same).1
    · rintro other rfl
      cases sequenced.symm.trans (carried.other other same).1
  refine sound.grow consumer outcome yielded rfl ?_ ?_ ?_ ?_
  · intro isClosed
    cases unclosed.symm.trans isClosed
  · exact fun _ => .inr empty
  · intro isPlain
    rw [sequenced, Bool.false_or] at isPlain
    exact Bool.or_eq_true_iff.mpr (.inr isPlain)
  · refine carried_route rfl ?_ ?_
    · intro frame within
      have carried := sound.carried frame within
      refine ⟨carried.cid, carried.sender, ?_, ?_, ?_⟩
      · intro other content
        exact absurd rfl ((bare frame within _ content).1 other)
      · intro content
        exact absurd rfl (bare frame within _ content).2.1
      · intro other content
        exact absurd rfl ((bare frame within _ content).2.2 other)
    · rintro rfl
      refine ⟨rfl, rfl, by rintro _ ⟨⟩, by rintro ⟨⟩, ?_⟩
      intro other content
      cases content
      refine ⟨Bool.or_true _, ?_⟩
      rw [empty]
      rfl

theorem Sound.step [DecidableEq π]
    {label : Label π} (sound : Sound cfg s)
    (permitted : once cfg s label = true)
    (stepped : step cfg s label = some after) :
    Sound cfg after := by
  cases label with
  | register maxFrames =>
      cases stepped
      exact sound.rerecord _
  | chunk payload routed =>
      cases stepped
      exact sound.chunk permitted
  | finish routed =>
      cases stepped
      exact sound.finish permitted _
  | error reason routed =>
      cases stepped
      exact sound.error reason routed _
  | drop =>
      cases stepped
      exact sound.rerecord _
  | reply payload routed =>
      cases stepped
      exact sound.reply permitted
  | deliver frame =>
      simp only [Integrity.step] at stepped
      split at stepped
      · rename_i delivered
        cases stepped
        exact sound.deliver delivered
      · cases stepped
  | next => exact sound.next stepped
  | failLocal reason =>
      simp only [Integrity.step] at stepped
      split at stepped
      · cases stepped
      · rename_i sink held
        cases stepped
        rcases sound.listening sink held with
          ⟨-, -, queued, last, fits⟩
        refine sound.resink held ?_
        cases last with
        | none =>
            have undone : sink.done = false := fits.done
            simp only [Sink.fail, undone, Bool.false_eq_true, if_false]
            exact ⟨_, _, fits.stop reason⟩
        | some item =>
            have done : sink.done = true := fits.done
            simp only [Sink.fail, done, if_true]
            exact ⟨_, _, fits⟩
  | leave =>
      simp only [Integrity.step] at stepped
      split at stepped
      · cases stepped
      · cases stepped
        exact sound.conclude .left (by simp)

end Sound

/-- A request of `reader` to `writer`. -/
def letter : Config where
  cid := "0193"
  recipient := "writer"
  consumer := "reader"
  maxsize := 256

/-- A frame of `writer` for the request. -/
def fromWriter (content : Content Nat) (seq : Nat) : Frame Nat where
  sender := "writer"
  cid := some "0193"
  content := content
  seq := some seq

/-- `writer` sends two chunks; a frame of a stranger comes in between. -/
def dictation : List (Label Nat) :=
  [.register none, .chunk 1 true, .chunk 2 true, .finish true, .drop,
    .deliver (fromWriter (.chunk 1) 0),
    .deliver { fromWriter (.chunk 9) 1 with sender := "stranger" },
    .deliver (fromWriter (.chunk 2) 1), .deliver (fromWriter .finish 2),
    .next, .next, .next]

end Civitas.Streaming.Integrity
