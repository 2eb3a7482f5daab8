import Civitas.Streaming.Frames
import Civitas.Transition

/-!
# Control frames and the mailbox

An agent that consumes and produces streams, its mailbox, and the messages that
its loop passes to `handle`.  `receive` offers every message to
`_consume_stream_frame` first, and puts what is not consumed into the mailbox.

Whether a control frame is consumed depends on the tables alone.  A consumer
drops its sink before the producer has finished, a producer drops its record
before the cancel of the consumer arrives, and a fresh incarnation has neither.

The last part puts agents of this kind on a bus.  A frame that is sent to an
agent that has closed its end of the stream comes to its mailbox, whenever it
arrives.
-/

namespace Civitas.Streaming.ControlFrames

open Civitas.Transition

variable {π : Type}

/-- An agent, with its mailbox and its streams. -/
structure State (π : Type) where
  streams : Streams π := .none
  mailbox : List (Frame π) := []
  /-- The messages that were passed to `handle`. -/
  handled : List (Frame π) := []

/-- The agent has no stream. -/
def init : State π := {}

/-- `receive`. -/
def State.receive (s : State π) (frame : Frame π) : State π :=
  let consumed := s.streams.consumeStreamFrame frame
  if consumed.2 then { s with streams := consumed.1 }
  else
    { s with
      streams := consumed.1
      mailbox := s.mailbox ++ [frame] }

/-- What the agent receives, and what its code does. -/
inductive Label (π : Type) where
  | receive (frame : Frame π)
  /-- The loop takes a message from the mailbox. -/
  | dispatch
  /-- `stream` is called. -/
  | listen (cid recipient : String) (maxsize : Nat)
  /-- The consumer takes an item. -/
  | drain (cid : String)
  /-- `stream` is left: at its end, by a cancellation, or by a timeout. -/
  | leave (cid : String)
  /-- `stream_reply` is entered. -/
  | register (cid : String) (maxFrames : Option Nat)
  /-- A chunk is sent. -/
  | count (cid recipient : String)
  /-- A terminator is sent, or `stream_reply` is left. -/
  | drop (cid : String)
  /-- A fresh incarnation takes over the mailbox. -/
  | restart
deriving DecidableEq

/-- One step of an agent. -/
def step (s : State π) : Label π → Option (State π)
  | .receive frame => some (s.receive frame)
  | .dispatch =>
      match s.mailbox with
      | [] => none
      | frame :: rest =>
          some { s with mailbox := rest, handled := s.handled ++ [frame] }
  | .listen cid recipient maxsize =>
      some { s with streams := s.streams.listen cid recipient maxsize }
  | .drain cid =>
      match s.streams.pending cid with
      | none => none
      | some sink =>
          some
            { s with
              streams :=
                { s.streams with
                  pending :=
                    Function.update s.streams.pending cid
                      (some
                        { sink with
                          queue := sink.queue.tail
                          pending := sink.pending - 1 }) } }
  | .leave cid => some { s with streams := s.streams.leave cid }
  | .register cid maxFrames =>
      some { s with streams := s.streams.register cid maxFrames }
  | .count cid recipient =>
      some { s with streams := s.streams.count cid recipient }
  | .drop cid => some { s with streams := s.streams.drop cid }
  | .restart => some { s with streams := .none }

/--
A control frame arrives while the agent has its stream: a cancel while the
record of the outbound stream is there, another one while the sink is.
-/
def live (s : State π) : Label π → Bool
  | .receive frame => !frame.content.isControl || s.streams.expects frame
  | _ => true

/-- No control frame is in the mailbox, or was passed to `handle`. -/
def Clean (s : State π) : Prop :=
  ∀ frame ∈ s.mailbox ++ s.handled, frame.content.isControl = false

section Clean

variable {s after : State π} {label : Label π}

theorem mailbox_receive (frame : Frame π) :
    (s.receive frame).mailbox =
        (if s.streams.expects frame then s.mailbox
        else s.mailbox ++ [frame]) ∧
      (s.receive frame).handled = s.handled := by
  simp only [State.receive, Streams.consume_answer]
  cases s.streams.expects frame <;> exact ⟨rfl, rfl⟩

/-- What `receive` lets through. -/
theorem clean_receive_iff (clean : Clean s) (frame : Frame π) :
    Clean (s.receive frame) ↔ live s (.receive frame) = true := by
  rcases @mailbox_receive π s frame with ⟨mailbox, handled⟩
  unfold Clean
  rw [mailbox, handled]
  cases known : s.streams.expects frame with
  | true =>
      simp only [live, known, Bool.or_true, if_true, iff_true]
      exact clean
  | false =>
      simp only [live, known, Bool.or_false, Bool.false_eq_true, if_false,
        Bool.not_eq_true']
      constructor
      · intro still
        refine still frame ?_
        simp
      · intro business other within
        simp only [List.append_assoc, List.mem_append,
          List.mem_singleton] at within
        rcases within with old | rfl | old
        · exact clean other (List.mem_append_left _ old)
        · exact business
        · exact clean other (List.mem_append_right _ old)

theorem Clean.step
    (clean : Clean s) (permitted : live s label = true)
    (stepped : step s label = some after) :
    Clean after := by
  cases label with
  | receive frame =>
      cases stepped
      exact (clean_receive_iff clean frame).mpr permitted
  | dispatch =>
      simp only [ControlFrames.step] at stepped
      split at stepped
      · cases stepped
      · rename_i frame rest front
        cases stepped
        intro other within
        refine clean other ?_
        rw [front]
        simp only [List.mem_append, List.mem_cons, List.not_mem_nil,
          or_false] at within ⊢
        rcases within with waiting | old | rfl
        · exact .inl (.inr waiting)
        · exact .inr old
        · exact .inl (.inl rfl)
  | drain cid =>
      simp only [ControlFrames.step] at stepped
      split at stepped
      · cases stepped
      · cases stepped
        exact clean
  | listen cid recipient maxsize =>
      cases stepped
      exact clean
  | leave cid =>
      cases stepped
      exact clean
  | register cid maxFrames =>
      cases stepped
      exact clean
  | count cid recipient =>
      cases stepped
      exact clean
  | drop cid =>
      cases stepped
      exact clean
  | restart =>
      cases stepped
      exact clean

/--
In every run in which control frames arrive while their streams are there, none
of them comes to the mailbox or to `handle`.
-/
theorem control_frames_stay_out
    (reached :
      Reaches ControlFrames.step (fun s label => live s label = true) init
        s) :
    Clean s := by
  refine reached.invariant (by rintro _ ⟨⟩) ?_
  intro before label after clean permitted stepped
  exact clean.step permitted stepped

end Clean

/-- A frame of the stream `0193`. -/
def framed (content : Content Nat) : Frame Nat where
  sender := "writer"
  cid := some "0193"
  content := content
  seq := none

theorem stream_stays_out :
    ∃ s : State Nat,
      Reaches step (fun s label => live s label = true) init s ∧
        Clean s ∧ s.handled = [framed (.other 7)] := by
  have ran :
      ((runWhere step (fun s label => live s label = true) init
          [.receive (framed (.other 7)), .dispatch,
            .listen "0193" "writer" 256, .receive (framed (.chunk 1)),
            .receive (framed .finish), .drain "0193",
            .leave "0193"]).map fun s =>
        decide (s.handled = [framed (.other 7)])) =
        some true := by
    decide +kernel
  rcases exists_reaches_of_run ran with ⟨s, run, seen⟩
  exact ⟨s, run, control_frames_stay_out run, of_decide_eq_true seen⟩

/--
The consumer of a finished stream sends its cancel; the producer, which has no
record any more, handles it like a message.
-/
theorem late_cancel_handled :
    ¬ ∀ s : State Nat,
      Reaches step (fun _ _ => True) init s → Clean s := by
  intro clean
  have ran :
      ((runWhere step (fun _ _ => True) init
          [.register "0193" none, .count "0193" "reader", .drop "0193",
            .receive { framed .cancel with sender := "reader" },
            .dispatch]).map fun s =>
        decide (s.handled = [{ framed .cancel with sender := "reader" }])) =
        some true := by
    decide +kernel
  rcases exists_reaches_of_run ran with ⟨s, run, seen⟩
  have kept := clean s run
    { framed .cancel with sender := "reader" } (by
      rw [of_decide_eq_true seen]
      simp)
  cases kept

/-! ## Both ends -/

/-- Agents that stream to each other, and what they have put on the bus. -/
structure System (π : Type) where
  agents : String → State π := fun _ => init
  /-- The frames of streams, each with its recipient. -/
  posted : List (String × Frame π) := []

/-- The agent receives a message. -/
def Label.receives : Label π → Bool
  | .receive _ => true
  | _ => false

/--
What an agent does before it sends a frame: a chunk is counted, and the sink is
gone when the cancel is sent.  The record of a terminator is dropped later.
-/
def State.prepare (s : State π) (recipient cid : String) :
    Content π → State π
  | .chunk _ => { s with streams := s.streams.count cid recipient }
  | .cancel => { s with streams := s.streams.leave cid }
  | _ => s

/-- What the agents and the bus do. -/
inductive Turn (π : Type) where
  /-- The code of an agent, which sends nothing. -/
  | inside (name : String) (label : Label π)
  /-- An agent sends a frame of a stream. -/
  | send (name recipient cid : String) (content : Content π)
  /-- The bus delivers a frame that was sent, or another message. -/
  | deliver (name : String) (frame : Frame π)

namespace System

variable [DecidableEq π]

/-- An agent becomes another. -/
def set (s : System π) (name : String) (agent : State π) : System π :=
  { s with agents := Function.update s.agents name agent }

/-- The frame that an agent puts on the bus. -/
def frameOf (s : System π) (name cid : String) (content : Content π) :
    Frame π where
  sender := name
  cid := some cid
  content := content
  seq :=
    match content with
    | .cancel => none
    | _ => (s.agents name).streams.seqOf cid content

/-- One step of the agents and the bus. -/
def step (s : System π) : Turn π → Option (System π)
  | .inside name label =>
      if label.receives then none
      else (ControlFrames.step (s.agents name) label).map (s.set name)
  | .send name recipient cid content =>
      if content.isControl then
        some
          { s.set name ((s.agents name).prepare recipient cid content) with
            posted := s.posted ++ [(recipient, s.frameOf name cid content)] }
      else none
  | .deliver name frame =>
      if (name, frame) ∈ s.posted ∨ frame.content.isControl = false then
        some (s.set name ((s.agents name).receive frame))
      else none

/-- The frame finds the stream of its recipient. -/
def live (s : System π) : Turn π → Bool
  | .deliver name frame =>
      ControlFrames.live (s.agents name) (.receive frame)
  | _ => true

end System

/-- What a turn is for the agent of a name. -/
def Turn.label? (name : String) : Turn π → Option (Label π)
  | .inside other label => if other = name then some label else none
  | .send other recipient cid content =>
      if other = name then
        match content with
        | .chunk _ => some (.count cid recipient)
        | .cancel => some (.leave cid)
        | _ => none
      else none
  | .deliver other frame => if other = name then some (.receive frame) else none

/-- The agent opens its end of the stream that the frame belongs to. -/
def Label.opens (frame : Frame π) : Label π → Bool
  | .listen cid _ _ =>
      frame.cid = some cid &&
        match frame.content with
        | .cancel => false
        | _ => true
  | .register cid _ | .count cid _ =>
      frame.cid = some cid &&
        match frame.content with
        | .cancel => true
        | _ => false
  | _ => false

section Closed

variable {streams others : Streams π} {frame : Frame π}

/-- A table that stays without the stream of a frame does not find it. -/
theorem expects_of_tables
    (closed : streams.expects frame = false)
    (sinks : ∀ cid, frame.cid = some cid → frame.content ≠ .cancel →
      streams.pending cid = none → others.pending cid = none)
    (records : ∀ cid, frame.cid = some cid → frame.content = .cancel →
      streams.out cid = none → others.out cid = none) :
    others.expects frame = false := by
  unfold Streams.expects at closed ⊢
  cases named : frame.cid with
  | none => rfl
  | some cid =>
      rw [named] at closed
      cases content : frame.content with
      | cancel =>
          rw [content] at closed
          simp only [Option.isSome_eq_false_iff, Option.isNone_iff_eq_none]
            at closed ⊢
          exact records cid named content closed
      | chunk _ | finish | error _ | other _ =>
          rw [content] at closed
          simp only [Option.isSome_eq_false_iff, Option.isNone_iff_eq_none]
            at closed ⊢
          exact sinks cid named (by simp [content]) closed

/-- The receive path opens no end of a stream. -/
theorem expects_consume
    {other : Frame π} (closed : streams.expects frame = false) :
    (streams.consumeStreamFrame other).1.expects frame = false := by
  rcases @Streams.consume_cases π streams other with
    same | ⟨cid, stream, held, same⟩ | ⟨cid, sink, _, _, held, _, same⟩
  · rw [same]
    exact closed
  · rw [same]
    refine expects_of_tables closed (fun _ _ _ gone => gone) ?_
    intro own _ _ gone
    have apart : own ≠ cid := by
      rintro rfl
      cases gone.symm.trans held
    exact (Function.update_of_ne apart _ _).trans gone
  · rw [same]
    refine expects_of_tables closed ?_ (fun _ _ _ gone => gone)
    intro own _ _ gone
    have apart : own ≠ cid := by
      rintro rfl
      cases gone.symm.trans held
    exact (Function.update_of_ne apart _ _).trans gone

/-- An agent that has closed its end keeps it closed. -/
theorem closed_of_step
    {agent next : State π} {label : Label π}
    (closed : agent.streams.expects frame = false)
    (shut : label.opens frame = false)
    (stepped : ControlFrames.step agent label = some next) :
    next.streams.expects frame = false := by
  cases label with
  | receive other =>
      cases stepped
      simp only [State.receive]
      split
      · exact expects_consume closed
      · exact expects_consume closed
  | dispatch =>
      simp only [ControlFrames.step] at stepped
      split at stepped
      · cases stepped
      · cases stepped
        exact closed
  | listen cid recipient maxsize =>
      cases stepped
      refine expects_of_tables closed ?_ (fun _ _ _ gone => gone)
      intro own named sends gone
      have apart : own ≠ cid := by
        rintro rfl
        simp [Label.opens, named] at shut
      exact (Function.update_of_ne apart _ _).trans gone
  | drain cid =>
      simp only [ControlFrames.step] at stepped
      split at stepped
      · cases stepped
      · rename_i sink held
        cases stepped
        refine expects_of_tables closed ?_ (fun _ _ _ gone => gone)
        intro own _ _ gone
        have apart : own ≠ cid := by
          rintro rfl
          cases gone.symm.trans held
        exact (Function.update_of_ne apart _ _).trans gone
  | leave cid =>
      cases stepped
      refine expects_of_tables closed ?_ (fun _ _ _ gone => gone)
      intro own _ _ gone
      simp [Streams.leave, Function.update_apply, gone]
  | register cid maxFrames =>
      cases stepped
      refine expects_of_tables closed (fun _ _ _ gone => gone) ?_
      intro own named cancels gone
      have apart : own ≠ cid := by
        rintro rfl
        simp [Label.opens, named, cancels] at shut
      exact (Function.update_of_ne apart _ _).trans gone
  | count cid recipient =>
      cases stepped
      refine expects_of_tables closed (fun _ _ _ gone => gone) ?_
      intro own named cancels gone
      have apart : own ≠ cid := by
        rintro rfl
        simp [Label.opens, named, cancels] at shut
      exact (Function.update_of_ne apart _ _).trans gone
  | drop cid =>
      cases stepped
      refine expects_of_tables closed (fun _ _ _ gone => gone) ?_
      intro own _ _ gone
      simp [Streams.drop, Function.update_apply, gone]
  | restart =>
      cases stepped
      exact
        expects_of_tables closed (fun _ _ _ _ => rfl) (fun _ _ _ _ => rfl)

end Closed

section Both

variable [DecidableEq π] {s after : System π} {turn : Turn π} {name : String}

/-- An agent that has no part in a turn stays as it is. -/
theorem agent_untouched
    (stepped : s.step turn = some after) (idle : turn.label? name = none) :
    after.agents name = s.agents name := by
  cases turn with
  | inside other label =>
      have apart : name ≠ other := by
        rintro rfl
        simp [Turn.label?] at idle
      simp only [System.step] at stepped
      split_ifs at stepped
      rcases Option.map_eq_some_iff.mp stepped with ⟨agent, _, rfl⟩
      exact Function.update_of_ne apart _ _
  | send other recipient cid content =>
      simp only [System.step] at stepped
      split_ifs at stepped
      cases stepped
      by_cases same : name = other
      · subst same
        have kept :
            (s.agents name).prepare recipient cid content = s.agents name := by
          cases content <;> first | rfl | simp [Turn.label?] at idle
        simp [System.set, kept]
      · exact Function.update_of_ne same _ _
  | deliver other frame =>
      have apart : name ≠ other := by
        rintro rfl
        simp [Turn.label?] at idle
      simp only [System.step] at stepped
      split_ifs at stepped
      cases stepped
      exact Function.update_of_ne apart _ _

/-- A turn is a step of each agent that has a part in it. -/
theorem agent_moved
    (stepped : s.step turn = some after) {label : Label π}
    (part : turn.label? name = some label) :
    ControlFrames.step (s.agents name) label = some (after.agents name) := by
  cases turn with
  | inside other own =>
      simp only [Turn.label?] at part
      split_ifs at part with same
      subst same
      cases part
      simp only [System.step] at stepped
      split_ifs at stepped
      rcases Option.map_eq_some_iff.mp stepped with ⟨agent, moved, rfl⟩
      simp [System.set, moved]
  | send other recipient cid content =>
      simp only [Turn.label?] at part
      split_ifs at part with same
      subst same
      simp only [System.step] at stepped
      split_ifs at stepped
      cases stepped
      cases content with
      | chunk payload =>
          cases part
          simp [System.set, ControlFrames.step, State.prepare]
      | cancel =>
          cases part
          simp [System.set, ControlFrames.step, State.prepare]
      | finish | error _ | other _ => cases part
  | deliver other frame =>
      simp only [Turn.label?] at part
      split_ifs at part with same
      subst same
      cases part
      simp only [System.step] at stepped
      split_ifs at stepped
      cases stepped
      simp [System.set, ControlFrames.step]

/-- A delivery in time is a step in time for its recipient. -/
theorem live_of_live
    (stepped : s.step turn = some after) (permitted : s.live turn = true)
    {label : Label π} (part : turn.label? name = some label) :
    ControlFrames.live (s.agents name) label = true := by
  cases turn with
  | inside other own =>
      simp only [Turn.label?] at part
      split_ifs at part
      cases part
      simp only [System.step] at stepped
      split_ifs at stepped with receives
      cases label with
      | receive frame => exact absurd rfl receives
      | dispatch | listen | drain | leave | register | count | drop
      | restart => rfl
  | send other recipient cid content =>
      simp only [Turn.label?] at part
      split_ifs at part
      cases content <;> cases part <;> rfl
  | deliver other frame =>
      simp only [Turn.label?] at part
      split_ifs at part with same
      subst same
      cases part
      exact permitted

/--
In every run in which frames arrive while their recipients have the streams,
every agent is clean.
-/
theorem agents_stay_clean
    (reached :
      Reaches System.step (fun s turn => s.live turn = true)
        ({} : System π) s) (name : String) :
    Clean (s.agents name) := by
  have clean : ∀ name, Clean (s.agents name) := by
    apply reached.invariant
    · rintro name _ ⟨⟩
    · intro before turn after clean permitted stepped name
      cases part : turn.label? name with
      | none =>
          rw [agent_untouched stepped part]
          exact clean name
      | some label =>
          exact
            (clean name).step (live_of_live stepped permitted part)
              (agent_moved stepped part)
  exact clean name

/-- A closed end stays closed in a turn in which its agent does not open it. -/
theorem closed_of_turn
    {frame : Frame π}
    (closed : (s.agents name).streams.expects frame = false)
    (shut : (turn.label? name).any (Label.opens frame) = false)
    (stepped : s.step turn = some after) :
    (after.agents name).streams.expects frame = false := by
  cases part : turn.label? name with
  | none =>
      rw [agent_untouched stepped part]
      exact closed
  | some label =>
      rw [part] at shut
      exact closed_of_step closed shut (agent_moved stepped part)

/-- What is on the bus stays there. -/
theorem posted_of_step
    {entry : String × Frame π} (posted : entry ∈ s.posted)
    (stepped : s.step turn = some after) : entry ∈ after.posted := by
  cases turn with
  | inside other label =>
      simp only [System.step] at stepped
      split_ifs at stepped
      rcases Option.map_eq_some_iff.mp stepped with ⟨agent, _, rfl⟩
      exact posted
  | send other recipient cid content =>
      simp only [System.step] at stepped
      split_ifs at stepped
      cases stepped
      exact List.mem_append_left _ posted
  | deliver other frame =>
      simp only [System.step] at stepped
      split_ifs at stepped
      cases stepped
      exact posted

/--
Once an agent has closed its end of a stream and does not open it again, every
frame of that stream that is sent to it soils its mailbox when it arrives.
-/
theorem late_frame_soils
    {frame : Frame π} (control : frame.content.isControl = true)
    (closed : (s.agents name).streams.expects frame = false)
    (reached :
      Reaches System.step
        (fun _ turn =>
          (turn.label? name).any (Label.opens frame) = false) s after)
    (posted : (name, frame) ∈ after.posted) :
    ∃ soiled, after.step (.deliver name frame) = some soiled ∧
      ¬ Clean (soiled.agents name) := by
  have still : (after.agents name).streams.expects frame = false := by
    apply reached.invariant
    · exact closed
    · intro before turn next closed shut stepped
      exact closed_of_turn closed shut stepped
  refine ⟨_, if_pos (.inl posted), ?_⟩
  intro clean
  have kept := clean frame (by
    simp [System.set, mailbox_receive, still])
  rw [control] at kept
  cases kept

/--
The cancel of a consumer that leaves after the producer has dropped its record
soils the mailbox of the producer, however long it is on the way.
-/
theorem cancel_after_end_soils
    {consumer cid : String} {left : System π}
    (ended : (s.agents name).streams.out cid = none)
    (leaves : s.step (.send consumer name cid .cancel) = some left)
    (reached :
      Reaches System.step
        (fun _ turn =>
          (turn.label? name).any
            (Label.opens (s.frameOf consumer cid .cancel)) = false)
        left after) :
    ∃ soiled,
      after.step (.deliver name (s.frameOf consumer cid .cancel)) =
          some soiled ∧
        ¬ Clean (soiled.agents name) := by
  have closed :
      (left.agents name).streams.expects (s.frameOf consumer cid .cancel) =
        false := by
    refine closed_of_turn ?_ ?_ leaves
    · simp [Streams.expects, System.frameOf, ended]
    · simp only [Turn.label?]
      split <;> rfl
  refine late_frame_soils rfl closed reached ?_
  apply reached.invariant
  · cases leaves
    exact List.mem_append_right _ (List.mem_singleton.mpr rfl)
  · intro before turn next posted _ stepped
    exact posted_of_step posted stepped

end Both

end Civitas.Streaming.ControlFrames
