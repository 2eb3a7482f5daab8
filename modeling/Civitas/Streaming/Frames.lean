import Mathlib.Data.List.Basic
import Mathlib.Logic.Function.Basic

/-!
# Stream frames

The frames of the bus-native streams and the two ends of a stream: the
`StreamSink` of a consumer, the `_OutStream` of a producer, and the tables
`_pending_streams`, `_stream_producers` and `_out_streams` in which an agent
finds them by the correlation id of a frame.

`_consume_stream_frame` runs on the receive path, before the mailbox.  Its
answer says whether it has consumed the frame.
-/

namespace Civitas.Streaming

open Function (update update_self update_of_ne)

variable {π : Type}

/-- The payload of a message, by its type. -/
inductive Content (π : Type) where
  /-- `civitas.stream.chunk`. -/
  | chunk (payload : π)
  /-- `civitas.stream.end`. -/
  | finish
  /-- `civitas.stream.error`. -/
  | error (reason : String)
  /-- `civitas.stream.cancel`. -/
  | cancel
  /-- Every other type. -/
  | other (payload : π)
deriving DecidableEq

/-- The type of the message is one of the four stream control types. -/
def Content.isControl : Content π → Bool
  | .other _ => false
  | _ => true

/-- `civitas.stream.end` or `civitas.stream.error`. -/
def Content.terminates : Content π → Bool
  | .finish | .error _ => true
  | _ => false

/-- What the streams read of a message. -/
structure Frame (π : Type) where
  sender : String
  /-- `correlation_id`. -/
  cid : Option String
  content : Content π
  seq : Option Nat
deriving DecidableEq

/-! ## The sink of a consumer -/

/-- What a consumer reads from a sink. -/
inductive Item (π : Type) where
  | chunk (payload : π)
  | finish
  | error (reason : String)
deriving DecidableEq

/-- `StreamSink`. -/
structure Sink (π : Type) where
  maxsize : Nat
  queue : List (Item π) := []
  pending : Nat := 0
  /-- `_done`. -/
  done : Bool := false
  nextSeq : Nat := 0
deriving DecidableEq

namespace Sink

/-- The sink takes nothing further than the item. -/
def stop (sink : Sink π) (item : Item π) : Sink π :=
  { sink with done := true, queue := sink.queue ++ [item] }

/-- `StreamSink.push`. -/
def push (sink : Sink π) (payload : π) (seq : Option Nat) : Sink π :=
  if sink.done then sink
  else if seq.any (· ≠ sink.nextSeq) then sink.stop (.error "out_of_order")
  else if sink.maxsize ≤ sink.pending then sink.stop (.error "slow_consumer")
  else
    { sink with
      nextSeq := if seq.isSome then sink.nextSeq + 1 else sink.nextSeq
      pending := sink.pending + 1
      queue := sink.queue ++ [.chunk payload] }

/-- `end`. -/
def finish (sink : Sink π) (total : Option Nat) : Sink π :=
  if sink.done then sink
  else if total.any (· ≠ sink.nextSeq)
  then sink.stop (.error "truncated_stream")
  else sink.stop .finish

/-- `StreamSink.fail`. -/
def fail (sink : Sink π) (reason : String) : Sink π :=
  if sink.done then sink else sink.stop (.error reason)

/-- What a frame of the expected producer does to the sink. -/
def accept (sink : Sink π) (content : Content π) (seq : Option Nat) :
    Sink π :=
  match content with
  | .chunk payload => sink.push payload seq
  | .finish => sink.finish seq
  | .error reason =>
      sink.fail (if reason = "" then "stream error" else reason)
  | .other payload => (sink.push payload none).finish none
  | .cancel => sink

end Sink

/-! ## The streams of an agent -/

/-- `_OutStream`; `maxDuration` has passed when `expired`. -/
structure OutStream where
  recipient : String := ""
  maxFrames : Option Nat := none
  expired : Bool := false
  seq : Nat := 0
  frames : Nat := 0
  cancelled : Bool := false
deriving DecidableEq

/-- The tables that an agent keeps of its streams. -/
structure Streams (π : Type) where
  /-- `_pending_streams`. -/
  pending : String → Option (Sink π)
  /-- `_stream_producers`. -/
  producers : String → Option String
  /-- `_out_streams`. -/
  out : String → Option OutStream

namespace Streams

/-- An agent without streams. -/
def none : Streams π where
  pending _ := .none
  producers _ := .none
  out _ := .none

/-- `_consume_stream_frame`. -/
def consumeStreamFrame (streams : Streams π) (frame : Frame π) :
    Streams π × Bool :=
  match frame.cid with
  | .none => (streams, false)
  | some cid =>
      match frame.content with
      | .cancel =>
          match streams.out cid with
          | some stream =>
              ({ streams with
                  out :=
                    update streams.out cid
                      (some { stream with cancelled := true }) }, true)
          | .none => (streams, false)
      | content =>
          match streams.pending cid with
          | .none => (streams, false)
          | some sink =>
              if streams.producers cid = some frame.sender then
                ({ streams with
                    pending :=
                      update streams.pending cid
                        (some (sink.accept content frame.seq)) }, true)
              else (streams, true)

/-- The part of `_emit_stream` before the frame is routed, for a chunk. -/
def count (streams : Streams π) (cid recipient : String) : Streams π :=
  let stream := (streams.out cid).getD { recipient := recipient }
  { streams with
    out :=
      update streams.out cid
        (some
          { stream with
            seq := stream.seq + 1
            frames := stream.frames + 1 }) }

/-- The sequence number that `_emit_stream` puts on a frame. -/
def seqOf (streams : Streams π) (cid : String) : Content π → Option Nat
  | .chunk _ => some (((streams.out cid).map OutStream.seq).getD 0)
  | _ => (streams.out cid).map OutStream.seq

/-- `_out_streams.pop(cid, None)`. -/
def drop (streams : Streams π) (cid : String) : Streams π :=
  { streams with out := update streams.out cid .none }

/-- `stream_reply` registers its stream. -/
def register
    (streams : Streams π) (cid : String) (maxFrames : Option Nat) :
    Streams π :=
  { streams with
    out := update streams.out cid (some { maxFrames := maxFrames }) }

/-- `stream` registers its sink. -/
def listen
    (streams : Streams π) (cid recipient : String) (maxsize : Nat) :
    Streams π :=
  { streams with
    pending := update streams.pending cid (some { maxsize := maxsize })
    producers := update streams.producers cid (some recipient) }

/-- The `finally` of `stream`. -/
def leave (streams : Streams π) (cid : String) : Streams π :=
  { streams with
    pending := update streams.pending cid .none
    producers := update streams.producers cid .none }

/-! ## What a frame does -/

section Consume

variable {streams : Streams π} {frame : Frame π} {cid : String}

/-- The record that `_consume_stream_frame` looks for. -/
def expects (streams : Streams π) (frame : Frame π) : Bool :=
  match frame.cid with
  | .none => false
  | some cid =>
      match frame.content with
      | .cancel => (streams.out cid).isSome
      | _ => (streams.pending cid).isSome

/-- A frame is consumed exactly when there is a record for it. -/
theorem consume_answer :
    (streams.consumeStreamFrame frame).2 = streams.expects frame := by
  unfold consumeStreamFrame expects
  cases frame.cid with
  | none => rfl
  | some cid =>
      cases frame.content with
      | cancel =>
          simp only
          cases streams.out cid <;> rfl
      | chunk _ | finish | error _ | other _ =>
          simp only
          cases streams.pending cid with
          | none => rfl
          | some sink =>
              simp only
              split <;> rfl

/-- A frame changes nothing, marks an outbound stream, or goes to a sink. -/
theorem consume_cases :
    (streams.consumeStreamFrame frame).1 = streams ∨
      (∃ cid stream,
        streams.out cid = some stream ∧
          (streams.consumeStreamFrame frame).1 =
            { streams with
              out :=
                update streams.out cid
                  (some { stream with cancelled := true }) }) ∨
      ∃ cid sink,
        frame.cid = some cid ∧ frame.content ≠ .cancel ∧
          streams.pending cid = some sink ∧
          streams.producers cid = some frame.sender ∧
          (streams.consumeStreamFrame frame).1 =
            { streams with
              pending :=
                update streams.pending cid
                  (some (sink.accept frame.content frame.seq)) } := by
  unfold consumeStreamFrame
  cases frame.cid with
  | none => exact .inl rfl
  | some cid =>
      cases frame.content with
      | cancel =>
          simp only
          cases held : streams.out cid with
          | none => exact .inl rfl
          | some stream => exact .inr (.inl ⟨cid, stream, held, rfl⟩)
      | chunk _ | finish | error _ | other _ =>
          simp only
          cases held : streams.pending cid with
          | none => exact .inl rfl
          | some sink =>
              simp only
              split
              · rename_i expected
                exact .inr (.inr
                  ⟨cid, sink, rfl, by simp, held, expected, rfl⟩)
              · exact .inl rfl

/-- `_consume_stream_frame` does not change who is expected to answer. -/
theorem consume_producers :
    (streams.consumeStreamFrame frame).1.producers = streams.producers := by
  rcases @consume_cases π streams frame with
    same | ⟨_, _, _, same⟩ | ⟨_, _, _, _, _, _, same⟩
  all_goals rw [same]

/-- A frame for another request, or of another sender, changes no sink. -/
theorem consume_foreign
    (foreign : frame.cid ≠ some cid ∨
      streams.producers cid ≠ some frame.sender) :
    (streams.consumeStreamFrame frame).1.pending cid =
      streams.pending cid := by
  rcases @consume_cases π streams frame with
    same | ⟨_, _, _, same⟩ | ⟨other, sink, named, _, _, expected, same⟩
  · rw [same]
  · rw [same]
  · rw [same]
    refine update_of_ne ?_ _ _
    rintro rfl
    rcases foreign with elsewhere | stranger
    · exact elsewhere named
    · exact stranger expected

/-- No frame opens a sink. -/
theorem consume_closed
    (closed : streams.pending cid = .none) :
    (streams.consumeStreamFrame frame).1.pending cid = .none := by
  rcases @consume_cases π streams frame with
    same | ⟨_, _, _, same⟩ | ⟨other, sink, _, _, held, _, same⟩
  · rw [same]
    exact closed
  · rw [same]
    exact closed
  · rw [same]
    have apart : cid ≠ other := by
      rintro rfl
      cases closed.symm.trans held
    exact (update_of_ne apart _ _).trans closed

/-- A frame of the expected producer goes to the sink. -/
theorem consume_own
    (named : frame.cid = some cid)
    (expected : streams.producers cid = some frame.sender)
    {sink : Sink π} (held : streams.pending cid = some sink) :
    (streams.consumeStreamFrame frame).1.pending cid =
      some (sink.accept frame.content frame.seq) := by
  unfold consumeStreamFrame
  rw [named]
  cases content : frame.content with
  | cancel =>
      simp only [Sink.accept]
      cases streams.out cid <;> exact held
  | chunk _ | finish | error _ | other _ =>
      simp only [held, expected, if_true, update_self]

end Consume

end Streams

end Civitas.Streaming
