import Civitas.Streaming.Frames
import Civitas.Transition

/-!
# The terminator of a stream

The handler of a request that opens an outbound stream, by `stream_reply` or by
`emit`, and every way in which the handler and its agent end.  The bus routes
what it is given.

`stream_reply` sends a terminator when its block is left normally, by
`_StreamStop`, or by another exception; a cancellation only removes the record.
A handler that uses `emit` has to call `end_stream` itself.  The teardown of
the loop sends an error for every record that names a recipient, which are
those that `emit` has made.

A frame is published by the transport some time after `_emit_stream` has been
called, and `route` returns some time after that, when the audit sink has the
event.  A terminator takes the record away only then, so that a cancellation in
between leaves the record of a stream that has been ended.
-/

namespace Civitas.Streaming.Terminators

open Civitas.Transition

variable {π : Type}

/-! ## State -/

/-- What the handler knows of its request. -/
structure Config where
  /-- The correlation id of the request. -/
  cid : String
  /-- `reply_to or sender` of the request. -/
  recipient : String
  named : recipient ≠ ""

/-- What the handler is doing. -/
inductive Mode where
  | running
  /-- An exception is on its way out. -/
  | raising
  /-- `_StreamStop` is on its way out. -/
  | stopping
  /-- `CancelledError` is on its way out. -/
  | cancelling
deriving DecidableEq

/-- How far the loop has come with the request. -/
inductive Phase where
  | handling
  /-- The request has been dealt with, and the loop goes on. -/
  | settled
  /-- The loop is left, and its consumers are told. -/
  | tearing
  /-- The consumer of the stream has had its turn. -/
  | told
  /-- The loop has been torn down. -/
  | ended
deriving DecidableEq

/-- A frame between the call of `_emit_stream` and its end. -/
structure Transfer (π : Type) where
  content : Content π
  /-- The transport has published the frame, and `route` has not returned. -/
  published : Bool := false
  /-- It is the terminator of a block of `stream_reply`. -/
  leaving : Bool := false
deriving DecidableEq

/-- The handler, its loop, and what the consumer has been sent. -/
structure State (π : Type) where
  streams : Streams π
  /-- The blocks of `stream_reply` that the handler is inside of. -/
  blocks : Nat := 0
  mode : Mode := .running
  phase : Phase := .handling
  /-- The frame that the task is sending. -/
  sending : Option (Transfer π) := none
  /-- The frames sent for the request. -/
  frames : List (Content π) := []
  /-- A stream has been opened for the request. -/
  opened : Bool := false

/-- The handler is called. -/
def init (cfg : Config) (streams : Streams π) : State π where
  streams := streams.drop cfg.cid

/-- `_emit_stream` is called for a chunk. -/
def State.chunk (cfg : Config) (s : State π) (payload : π) : State π :=
  { s with
    streams := s.streams.count cfg.cid cfg.recipient
    sending := some { content := .chunk payload }
    opened := true }

/-- `_raise_if_stream_stopped` raises. -/
def OutStream.stopped (stream : OutStream) : Bool :=
  stream.cancelled || stream.maxFrames.any (· ≤ stream.frames) ||
    stream.expired

/-- The `finally` of `stream_reply`. -/
def State.leave (cfg : Config) (s : State π) : State π :=
  { s with
    streams := s.streams.drop cfg.cid
    blocks := s.blocks - 1 }

/-- The body of a block of `stream_reply` is left. -/
def State.exit (cfg : Config) (s : State π) (reason : String) : State π :=
  match s.mode with
  | .running | .stopping =>
      { s with sending := some { content := .finish, leaving := true } }
  | .raising =>
      { s with
        sending := some { content := .error reason, leaving := true } }
  | .cancelling => s.leave cfg

/-- `_emit_stream` returns to the code that has called it. -/
def State.delivered (cfg : Config) (s : State π) (transfer : Transfer π) :
    State π :=
  match s.phase with
  | .tearing => { s with sending := none, phase := .told }
  | _ =>
      if transfer.content.terminates then
        let ended :=
          { s with streams := s.streams.drop cfg.cid, sending := none }
        if transfer.leaving then
          { ended.leave cfg with
            mode := if s.mode = .stopping then .running else s.mode }
        else ended
      else { s with sending := none }

/-- `CancelledError` is raised where the task waits. -/
def State.interrupted (cfg : Config) (s : State π) : State π :=
  match s.phase with
  | .handling =>
      let stopped := { s with sending := none, mode := .cancelling }
      if s.sending.any Transfer.leaving then stopped.leave cfg else stopped
  | _ => { s with sending := none, phase := .ended }

/-! ## Steps -/

/-- What the handler, its loop, its supervisor and the consumer can do. -/
inductive Label (π : Type) where
  /-- `stream_reply` is entered. -/
  | enter (maxFrames : Option Nat)
  /-- `send` of the `StreamReply`. -/
  | send (payload : π)
  | emit (payload : π)
  | endStream
  /-- The body of a block of `stream_reply` is left. -/
  | exit (reason : String)
  /-- The transport publishes the frame. -/
  | publish
  /-- `route` returns. -/
  | routed
  /-- The code of the handler raises. -/
  | raises
  /-- The code of the handler catches what is on its way out. -/
  | catches
  /-- The task is cancelled, or the time for the handler is over. -/
  | cancel
  /-- The time was over: the cancellation turns into `TimeoutError`. -/
  | timeout
  /-- The handler returns. -/
  | returns
  /-- `on_error` answers `SKIP`. -/
  | skip
  /-- `on_error` answers `RETRY`. -/
  | retry
  /-- The loop is left. -/
  | teardown
  /-- `_interrupt_out_streams` comes to the stream. -/
  | interrupt
  /-- `_out_streams` is cleared. -/
  | clear
  /-- A frame of the consumer arrives. -/
  | receive (frame : Frame π)
  /-- `max_duration` is over. -/
  | expire
deriving DecidableEq

/-- The handler executes, and is not sending a frame. -/
def State.handles (s : State π) : Bool :=
  decide (s.phase = .handling) && s.sending.isNone

/-- The handler runs its own code. -/
def State.runs (s : State π) : Bool :=
  s.handles && decide (s.mode = .running)

/-- An exception has come to `_dispatch`. -/
def State.failed (s : State π) : Bool :=
  s.handles && decide (s.blocks = 0) &&
    (decide (s.mode = .raising) || decide (s.mode = .stopping))

/-- The loop can be left: it waits, or an exception has come to it. -/
def State.leavable (s : State π) : Bool :=
  match s.phase with
  | .settled => true
  | _ => s.handles && decide (s.blocks = 0) && !decide (s.mode = .running)

/-- One step of the agent that answers, or of what it is told. -/
def step (cfg : Config) (s : State π) : Label π → Option (State π)
  | .enter maxFrames =>
      if s.runs then
        some
          { s with
            streams := s.streams.register cfg.cid maxFrames
            blocks := s.blocks + 1
            opened := true }
      else none
  | .send payload =>
      if s.runs && decide (0 < s.blocks) then
        if (s.streams.out cfg.cid).any OutStream.stopped
        then some { s with mode := .stopping }
        else some (s.chunk cfg payload)
      else none
  | .emit payload =>
      if s.runs then
        if (s.streams.out cfg.cid).any OutStream.cancelled then some s
        else some (s.chunk cfg payload)
      else none
  | .endStream =>
      if s.runs then some { s with sending := some { content := .finish } }
      else none
  | .exit reason =>
      if s.handles && decide (0 < s.blocks) then some (s.exit cfg reason)
      else none
  | .publish =>
      match s.sending with
      | some ⟨content, false, leaving⟩ =>
          some
            { s with
              sending := some ⟨content, true, leaving⟩
              frames := s.frames ++ [content] }
      | _ => none
  | .routed =>
      match s.sending with
      | some ⟨content, true, leaving⟩ =>
          some (s.delivered cfg ⟨content, true, leaving⟩)
      | _ => none
  | .raises => if s.runs then some { s with mode := .raising } else none
  | .catches => if s.handles then some { s with mode := .running } else none
  | .cancel =>
      match s.phase with
      | .settled | .ended => none
      | _ => some (s.interrupted cfg)
  | .timeout =>
      if s.handles && decide (s.blocks = 0) && decide (s.mode = .cancelling)
      then some { s with mode := .raising }
      else none
  | .returns =>
      if s.runs && decide (s.blocks = 0)
      then some { s with phase := .settled }
      else none
  | .skip => if s.failed then some { s with phase := .settled } else none
  | .retry => if s.failed then some { s with mode := .running } else none
  | .teardown =>
      if s.leavable then some { s with phase := .tearing } else none
  | .interrupt =>
      if s.phase = .tearing ∧ s.sending = none then
        if (s.streams.out cfg.cid).any (·.recipient ≠ "")
        then
          some
            { s with
              sending := some { content := .error "producer_stopped" } }
        else some { s with phase := .told }
      else none
  | .clear =>
      if s.phase = .told then
        some
          { s with
            streams := s.streams.drop cfg.cid
            phase := .ended }
      else none
  | .receive frame =>
      some { s with streams := (s.streams.consumeStreamFrame frame).1 }
  | .expire =>
      match s.streams.out cfg.cid with
      | none => none
      | some stream =>
          some
            { s with
              streams :=
                { s.streams with
                  out :=
                    Function.update s.streams.out cfg.cid
                      (some { stream with expired := true }) } }

/-! ## The condition -/

/-- A terminator has been sent. -/
def State.terminated (s : State π) : Bool :=
  s.frames.any Content.terminates

/-- The task is sending a terminator. -/
def State.ending (s : State π) : Bool :=
  s.sending.any (·.content.terminates)

/--
The handler opens one stream and says nothing after its terminator; inside a
block of `stream_reply` it neither opens nor ends another stream and is not
cancelled; it does not leave the record of a stream behind when the loop goes
on; and neither the sending of a terminator nor the teardown is cancelled.
-/
def orderly (cfg : Config) (s : State π) : Label π → Bool
  | .enter _ => !s.terminated && decide (s.blocks = 0)
  | .send _ | .emit _ => !s.terminated
  | .endStream => !s.terminated && decide (s.blocks = 0)
  | .cancel =>
      decide (s.phase = .handling) && decide (s.blocks = 0) && !s.ending
  | .returns | .skip => (s.streams.out cfg.cid).isNone
  | _ => true

/-- The stream of the request has come to its end, once. -/
structure Ended (cfg : Config) (s : State π) : Prop where
  /-- One terminator has been sent, and nothing after it. -/
  last : ∃ body terminator,
    s.frames = body ++ [terminator] ∧ terminator.terminates = true ∧
      ∀ content ∈ body, content.terminates = false
  /-- No record of the stream is left. -/
  record : s.streams.out cfg.cid = none

/-- The loop is done with the request, or has been torn down. -/
def State.done (s : State π) : Bool :=
  decide (s.phase = .settled) || decide (s.phase = .ended)

/-- When the handler is done, so is the stream that it has opened. -/
def Terminates (cfg : Config) (s : State π) : Prop :=
  s.opened = true → s.done = true → Ended cfg s

/-! ## The invariant -/

/-- The stream has not been ended. -/
structure Unfinished (cfg : Config) (s : State π) : Prop where
  opened : s.opened = (s.streams.out cfg.cid).isSome
  blocks : s.blocks ≤ 1
  inside : 0 < s.blocks → (s.streams.out cfg.cid).isSome = true
  /-- Outside of a block, the record is one that `emit` has made. -/
  addressed : s.blocks = 0 → ∀ stream,
    s.streams.out cfg.cid = some stream → stream.recipient ≠ ""

/-- What is known of a frame that is being sent. -/
structure Carried (s : State π) (transfer : Transfer π) : Prop where
  chunk : transfer.content.terminates = false →
    s.terminated = false ∧ transfer.leaving = false
  terminator : transfer.content.terminates = true →
    transfer.published = s.terminated ∧
      s.blocks = if transfer.leaving then 1 else 0
  phase : s.phase = .handling ∨
    (s.phase = .tearing ∧ transfer.content.terminates = true)

/-- What holds in every run that meets the condition. -/
structure Sound (cfg : Config) (s : State π) : Prop where
  unfinished : s.terminated = false → Unfinished cfg s
  last : s.terminated = true → ∃ body terminator,
    s.frames = body ++ [terminator] ∧ terminator.terminates = true ∧
      ∀ content ∈ body, content.terminates = false
  /-- The sending of a terminator ends with the record. -/
  closed : s.terminated = true → s.sending = none → s.phase ≠ .told →
    s.streams.out cfg.cid = none
  outside : s.terminated = true → s.sending = none → s.blocks = 0
  cancelling : s.mode = .cancelling → s.blocks = 0
  settled : s.phase ≠ .handling → s.phase ≠ .tearing → s.opened = true →
    s.terminated = true
  /-- The handler has left its blocks when it is done. -/
  left : s.phase ≠ .handling → s.blocks = 0
  carried : ∀ transfer, s.sending = some transfer → Carried s transfer

section Sound

variable {cfg : Config} {s after : State π} {label : Label π}

theorem State.handles_iff :
    s.handles = true ↔ s.phase = .handling ∧ s.sending = none := by
  simp [State.handles]

theorem State.runs_iff :
    s.runs = true ↔
      (s.phase = .handling ∧ s.sending = none) ∧ s.mode = .running := by
  simp [State.runs, State.handles_iff]

theorem State.failed_iff :
    s.failed = true ↔
      ((s.phase = .handling ∧ s.sending = none) ∧ s.blocks = 0) ∧
        (s.mode = .raising ∨ s.mode = .stopping) := by
  simp [State.failed, State.handles_iff]

theorem sound_init (streams : Streams π) : Sound cfg (init cfg streams) where
  unfinished := by
    intro _
    refine ⟨?_, Nat.zero_le _, by rintro ⟨⟩, ?_⟩
    · simp [init, Streams.drop]
    · intro _ stream held
      simp [init, Streams.drop] at held
  last := by rintro ⟨⟩
  closed := by rintro ⟨⟩
  outside := by rintro ⟨⟩
  cancelling := by rintro ⟨⟩
  settled := fun handled => absurd rfl handled
  left := fun _ => rfl
  carried := by rintro _ ⟨⟩

theorem Sound.terminates (sound : Sound cfg s) : Terminates cfg s := by
  intro opened done
  have phase : s.phase = .settled ∨ s.phase = .ended := by
    simpa [State.done] using done
  have sent : s.terminated = true := by
    refine sound.settled ?_ ?_ opened
    all_goals rcases phase with phase | phase <;> simp [phase]
  have idle : s.sending = none := by
    cases sending : s.sending with
    | none => rfl
    | some transfer =>
        have carried := (sound.carried transfer sending).phase
        rcases phase with phase | phase <;> simp [phase] at carried
  refine ⟨sound.last sent, sound.closed sent idle ?_⟩
  rcases phase with phase | phase <;> simp [phase]

/-- The stream that an idle handler is inside of has not been ended. -/
theorem Sound.unterminated
    (sound : Sound cfg s) (idle : s.sending = none) (inside : 0 < s.blocks) :
    s.terminated = false := by
  cases sent : s.terminated with
  | false => rfl
  | true =>
      have none := sound.outside sent idle
      omega

/-! ### The handler -/

/-- Modes and phases change freely, as long as a settled stream is ended. -/
theorem Sound.remode
    (sound : Sound cfg s) (idle : s.sending = none) (untold : s.phase ≠ .told)
    {mode : Mode} {phase : Phase}
    (cancelling : mode = .cancelling → s.blocks = 0)
    (settled : phase ≠ .handling → phase ≠ .tearing → s.opened = true →
      s.terminated = true)
    (left : phase ≠ .handling → s.blocks = 0) :
    Sound cfg { s with mode := mode, phase := phase } where
  unfinished := fun going => by
    rcases sound.unfinished going with ⟨a, b, c, d⟩
    exact ⟨a, b, c, d⟩
  last := sound.last
  closed := fun sent idle _ => sound.closed sent idle untold
  outside := sound.outside
  cancelling := cancelling
  settled := settled
  left := left
  carried := by
    intro transfer sending
    cases idle.symm.trans sending

/-- The mode of a handler changes. -/
theorem Sound.turn
    (sound : Sound cfg s) (handles : s.phase = .handling ∧ s.sending = none)
    {mode : Mode} (other : mode ≠ .cancelling) :
    Sound cfg { s with mode := mode } := by
  have turned := @Sound.remode π cfg s sound handles.2 (by simp [handles.1])
    mode s.phase (fun same => absurd same other) sound.settled sound.left
  exact turned

/-- A block is entered on an unfinished stream. -/
theorem Sound.enter
    (sound : Sound cfg s) (handles : s.phase = .handling ∧ s.sending = none)
    (unfinished : s.terminated = false) (outside : s.blocks = 0)
    (running : s.mode = .running) (maxFrames : Option Nat) :
    Sound cfg
      { s with
        streams := s.streams.register cfg.cid maxFrames
        blocks := s.blocks + 1
        opened := true } where
  unfinished := by
    intro _
    refine ⟨?_, ?_, ?_, by simp⟩
    · simp [Streams.register]
    · exact Nat.le_of_eq (congrArg Nat.succ outside)
    · simp [Streams.register]
  last := sound.last
  closed := by
    intro sent
    cases unfinished.symm.trans sent
  outside := by
    intro sent
    cases unfinished.symm.trans sent
  cancelling := by
    intro cancelled
    cases running.symm.trans cancelled
  settled := fun handled => absurd handles.1 handled
  left := fun handled => absurd handles.1 handled
  carried := by
    intro transfer sending
    cases handles.2.symm.trans sending

/-- A chunk is sent on an unfinished stream. -/
theorem Sound.chunk
    (sound : Sound cfg s) (handles : s.phase = .handling ∧ s.sending = none)
    (unfinished : s.terminated = false) (payload : π) :
    Sound cfg (s.chunk cfg payload) where
  unfinished := by
    intro _
    have before := sound.unfinished unfinished
    refine ⟨?_, before.blocks, ?_, ?_⟩
    · simp [State.chunk, Streams.count]
    · simp [State.chunk, Streams.count]
    · intro outside stream held
      simp only [State.chunk, Streams.count, Function.update_self] at held
      cases held
      cases found : s.streams.out cfg.cid with
      | none => exact cfg.named
      | some old => exact before.addressed outside old found
  last := sound.last
  closed := by rintro _ ⟨⟩
  outside := by rintro _ ⟨⟩
  cancelling := sound.cancelling
  settled := fun handled => absurd handles.1 handled
  left := sound.left
  carried := by
    rintro _ ⟨⟩
    refine ⟨fun _ => ⟨unfinished, rfl⟩, ?_, .inl handles.1⟩
    rintro ⟨⟩

/-! ### Sending -/

/-- The sending of a terminator begins, on an unfinished stream. -/
theorem Sound.transmit
    (sound : Sound cfg s) (unfinished : s.terminated = false)
    {content : Content π} (terminator : content.terminates = true)
    {leaving : Bool} (blocks : s.blocks = if leaving then 1 else 0)
    (phase : s.phase = .handling ∨ s.phase = .tearing) :
    Sound cfg
      { s with
        sending := some { content := content, leaving := leaving } } where
  unfinished := fun going => by
    rcases sound.unfinished going with ⟨a, b, c, d⟩
    exact ⟨a, b, c, d⟩
  last := sound.last
  closed := by rintro _ ⟨⟩
  outside := by rintro _ ⟨⟩
  cancelling := sound.cancelling
  settled := sound.settled
  left := sound.left
  carried := by
    rintro _ ⟨⟩
    refine ⟨?_, fun _ => ⟨unfinished.symm, blocks⟩, ?_⟩
    · intro goes
      cases terminator.symm.trans goes
    · exact phase.imp_right fun tearing => ⟨tearing, terminator⟩

/-- The frame is published. -/
theorem Sound.publish
    (sound : Sound cfg s) {content : Content π} {leaving : Bool}
    (sending : s.sending = some ⟨content, false, leaving⟩) :
    Sound cfg
      { s with
        sending := some ⟨content, true, leaving⟩
        frames := s.frames ++ [content] } := by
  have carried := sound.carried _ sending
  have unfinished : s.terminated = false := by
    cases terminator : content.terminates with
    | false => exact (carried.chunk terminator).1
    | true => exact (carried.terminator terminator).1.symm
  have grown :
      State.terminated
          { s with
            sending := some ⟨content, true, leaving⟩
            frames := s.frames ++ [content] } =
        content.terminates := by
    have none : s.frames.any Content.terminates = false := unfinished
    simp [State.terminated, List.any_append, none]
  refine ⟨?_, ?_, ?_, ?_, sound.cancelling, ?_, sound.left, ?_⟩
  · intro _
    rcases sound.unfinished unfinished with ⟨a, b, c, d⟩
    exact ⟨a, b, c, d⟩
  · intro sent
    refine ⟨s.frames, content, rfl, grown.symm.trans sent, ?_⟩
    intro earlier within
    exact Bool.eq_false_iff.mpr
      (List.any_eq_false.mp unfinished earlier within)
  · rintro _ ⟨⟩
  · rintro _ ⟨⟩
  · intro handled untorn
    rcases carried.phase with handling | ⟨tearing, -⟩
    · exact absurd handling handled
    · exact absurd tearing untorn
  · rintro _ ⟨⟩
    refine ⟨?_, ?_, carried.phase⟩
    · intro goes
      exact ⟨grown.trans goes, (carried.chunk goes).2⟩
    · intro terminator
      exact ⟨(grown.trans terminator).symm, (carried.terminator terminator).2⟩

/-- A chunk has been routed. -/
theorem Sound.routed_chunk
    (sound : Sound cfg s) {transfer : Transfer π}
    (sending : s.sending = some transfer)
    (goes : transfer.content.terminates = false) :
    Sound cfg { s with sending := none } := by
  have carried := sound.carried _ sending
  have unfinished := (carried.chunk goes).1
  refine ⟨?_, sound.last, ?_, ?_, sound.cancelling, sound.settled, sound.left,
    by rintro _ ⟨⟩⟩
  · intro _
    rcases sound.unfinished unfinished with ⟨a, b, c, d⟩
    exact ⟨a, b, c, d⟩
  · intro sent
    cases unfinished.symm.trans sent
  · intro sent
    cases unfinished.symm.trans sent

/-- A terminator has been routed, and its record is dropped. -/
theorem Sound.routed_terminator
    (sound : Sound cfg s) (sent : s.terminated = true)
    (handling : s.phase = .handling) (mode : Mode) :
    Sound cfg
      { s with
        streams := s.streams.drop cfg.cid
        sending := none
        blocks := 0
        mode := mode } where
  unfinished := by
    intro going
    cases sent.symm.trans going
  last := sound.last
  closed := by simp [Streams.drop]
  outside := fun _ _ => rfl
  cancelling := fun _ => rfl
  settled := fun handled => absurd handling handled
  left := fun _ => rfl
  carried := by rintro _ ⟨⟩

/-- The teardown has sent its error. -/
theorem Sound.routed_tearing
    (sound : Sound cfg s) (sent : s.terminated = true)
    (tearing : s.phase = .tearing) :
    Sound cfg { s with sending := none, phase := .told } where
  unfinished := by
    intro going
    cases sent.symm.trans going
  last := sound.last
  closed := fun _ _ untold => absurd rfl untold
  outside := fun _ _ => sound.left (by simp [tearing])
  cancelling := sound.cancelling
  settled := fun _ _ _ => sent
  left := fun _ => sound.left (by simp [tearing])
  carried := by rintro _ ⟨⟩

theorem Sound.routed
    (sound : Sound cfg s) {content : Content π} {leaving : Bool}
    (sending : s.sending = some ⟨content, true, leaving⟩) :
    Sound cfg (s.delivered cfg ⟨content, true, leaving⟩) := by
  have carried := sound.carried _ sending
  rcases carried.phase with handling | ⟨tearing, terminator⟩
  · simp only [State.delivered, handling]
    cases terminator : content.terminates with
    | false =>
        simpa [handling] using
          sound.routed_chunk sending terminator
    | true =>
        rcases carried.terminator terminator with ⟨sent, blocks⟩
        cases leaving with
        | false =>
            have left :=
              @Sound.routed_terminator π cfg s sound sent.symm handling s.mode
            simpa [← handling, (show s.blocks = 0 from blocks)] using left
        | true =>
            have left :=
              @Sound.routed_terminator π cfg s sound sent.symm handling
                (if s.mode = .stopping then .running else s.mode)
            have single : s.blocks - 1 = 0 := by
              simp [(show s.blocks = 1 from blocks)]
            simpa [State.leave, Streams.drop, ← handling, single] using left
  · simp only [State.delivered, tearing]
    have sent := (carried.terminator terminator).1
    simpa using sound.routed_tearing sent.symm tearing

/-! ### The ends of the handler and of its loop -/

/-- The body of a block is left. -/
theorem Sound.exit
    (sound : Sound cfg s) (handles : s.phase = .handling ∧ s.sending = none)
    (inside : 0 < s.blocks) (reason : String) :
    Sound cfg (s.exit cfg reason) := by
  have unfinished := sound.unterminated handles.2 inside
  have single : s.blocks = 1 := by
    have atMost := (sound.unfinished unfinished).blocks
    omega
  have leaves : ∀ {content : Content π}, content.terminates = true →
      Sound cfg
        { s with
          sending := some { content := content, leaving := true } } := by
    intro content terminator
    exact sound.transmit unfinished terminator single (.inl handles.1)
  unfold State.exit
  cases mode : s.mode with
  | running => simpa [← mode] using @leaves .finish rfl
  | stopping => simpa [← mode] using @leaves .finish rfl
  | raising => simpa [← mode] using @leaves (.error reason) rfl
  | cancelling => cases single.symm.trans (sound.cancelling mode)

/-- The task is cancelled outside of the blocks, and sends at most a chunk. -/
theorem Sound.interrupted
    (sound : Sound cfg s) (handling : s.phase = .handling)
    (outside : s.blocks = 0) (goes : s.ending = false) :
    Sound cfg (s.interrupted cfg) := by
  have staying : s.sending.any Transfer.leaving = false := by
    cases sending : s.sending with
    | none => rfl
    | some transfer =>
        have chunk : transfer.content.terminates = false := by
          simpa [State.ending, sending] using goes
        exact ((sound.carried transfer sending).chunk chunk).2
  have stopped : Sound cfg { s with sending := none } := by
    cases sending : s.sending with
    | none => simpa [← sending] using sound
    | some transfer =>
        have chunk : transfer.content.terminates = false := by
          simpa [State.ending, sending] using goes
        exact sound.routed_chunk sending chunk
  simp only [State.interrupted, handling, staying]
  have cancelled :=
    @Sound.remode π cfg { s with sending := none } stopped rfl
      (by simp [handling]) .cancelling s.phase (fun _ => outside)
      stopped.settled stopped.left
  simpa [← handling] using cancelled

/-- A handler that leaves no record behind has ended its stream. -/
theorem Sound.ended
    (sound : Sound cfg s) (gone : s.streams.out cfg.cid = none)
    (opened : s.opened = true) : s.terminated = true := by
  cases sent : s.terminated with
  | true => rfl
  | false =>
      have present := (sound.unfinished sent).opened
      rw [gone, opened] at present
      cases present

/-- The loop goes on after a handler that leaves no record behind. -/
theorem Sound.settle
    (sound : Sound cfg s) (handles : s.phase = .handling ∧ s.sending = none)
    (gone : (s.streams.out cfg.cid).isNone = true) (outside : s.blocks = 0) :
    Sound cfg { s with phase := .settled } := by
  refine sound.remode handles.2 (by simp [handles.1]) sound.cancelling ?_
    (fun _ => outside)
  intro _ _ opened
  exact sound.ended (Option.isNone_iff_eq_none.mp gone) opened

/-- The loop is left. -/
theorem Sound.teardown
    (sound : Sound cfg s) (leavable : s.leavable = true) :
    Sound cfg { s with phase := .tearing } := by
  have ready : s.sending = none ∧ s.phase ≠ .told ∧ s.blocks = 0 := by
    cases phase : s.phase with
    | settled =>
        refine ⟨?_, by simp, sound.left (by simp [phase])⟩
        cases sending : s.sending with
        | none => rfl
        | some transfer =>
            have carried := (sound.carried transfer sending).phase
            simp [phase] at carried
    | handling | tearing | told | ended =>
        simp [State.leavable, phase, State.handles_iff] at leavable <;>
          simp [leavable]
  exact sound.remode ready.1 ready.2.1 sound.cancelling
    (fun _ untorn => absurd rfl untorn) (fun _ => ready.2.2)

/-- The consumer of the stream has its turn in the teardown. -/
theorem Sound.interrupt
    (sound : Sound cfg s) (tearing : s.phase = .tearing)
    (idle : s.sending = none) :
    if (s.streams.out cfg.cid).any (·.recipient ≠ "")
    then
      Sound cfg
        { s with sending := some { content := .error "producer_stopped" } }
    else Sound cfg { s with phase := .told } := by
  have outside := sound.left (by simp [tearing])
  cases held : s.streams.out cfg.cid with
  | none =>
      refine sound.remode idle (by simp [tearing]) sound.cancelling ?_
        (fun _ => outside)
      exact fun _ _ opened => sound.ended held opened
  | some stream =>
      have unfinished : s.terminated = false := by
        cases sent : s.terminated with
        | false => rfl
        | true =>
            have gone := sound.closed sent idle (by simp [tearing])
            cases held.symm.trans gone
      have named :=
        (sound.unfinished unfinished).addressed outside stream held
      rw [if_pos (by simp [named])]
      exact sound.transmit unfinished rfl outside (.inr tearing)

/-- The records are cleared. -/
theorem Sound.clear
    (sound : Sound cfg s) (told : s.phase = .told) :
    Sound cfg
      { s with
        streams := s.streams.drop cfg.cid
        phase := .ended } := by
  have finished : s.opened = true → s.terminated = true :=
    sound.settled (by simp [told]) (by simp [told])
  have outside := sound.left (by simp [told])
  refine ⟨?_, sound.last, ?_, fun _ _ => outside, sound.cancelling,
    fun _ _ => finished, fun _ => outside, ?_⟩
  · intro going
    have unopened : s.opened = false := by
      cases opened : s.opened with
      | false => rfl
      | true => cases (finished opened).symm.trans going
    refine ⟨?_, Nat.le_trans (Nat.le_of_eq outside) (Nat.zero_le 1), ?_, ?_⟩
    · simp [Streams.drop, unopened]
    · intro inside
      exact absurd inside (by simp [outside])
    · intro _ stream held
      simp [Streams.drop] at held
  · simp [Streams.drop]
  · intro transfer sending
    have carried := (sound.carried transfer sending).phase
    simp [told] at carried

/-- The record of the stream is marked, but stays whose it is. -/
theorem Sound.remark
    (sound : Sound cfg s) {streams : Streams π}
    (same : (streams.out cfg.cid).map OutStream.recipient =
      (s.streams.out cfg.cid).map OutStream.recipient) :
    Sound cfg { s with streams := streams } where
  unfinished := by
    intro going
    have before := sound.unfinished going
    have present : (streams.out cfg.cid).isSome =
        (s.streams.out cfg.cid).isSome := by
      have mapped := congrArg Option.isSome same
      simpa using mapped
    refine ⟨before.opened.trans present.symm, before.blocks, ?_, ?_⟩
    · intro inside
      exact present.trans (before.inside inside)
    · intro outside stream held
      have named : (s.streams.out cfg.cid).map OutStream.recipient =
          some stream.recipient := by
        rw [← same]
        exact congrArg (Option.map OutStream.recipient) held
      rcases Option.map_eq_some_iff.mp named with ⟨old, found, equal⟩
      rw [← equal]
      exact before.addressed outside old found
  last := sound.last
  closed := by
    intro sent idle untold
    have gone := same
    rw [sound.closed sent idle untold] at gone
    exact Option.map_eq_none_iff.mp gone
  outside := sound.outside
  cancelling := sound.cancelling
  settled := sound.settled
  left := sound.left
  carried := by
    intro transfer sending
    rcases sound.carried transfer sending with ⟨a, b, c⟩
    exact ⟨a, b, c⟩

/-- A frame of the consumer marks the record at most. -/
theorem Sound.receive (sound : Sound cfg s) (frame : Frame π) :
    Sound cfg
      { s with streams := (s.streams.consumeStreamFrame frame).1 } := by
  refine sound.remark ?_
  rcases @Streams.consume_cases π s.streams frame with
    same | ⟨cid, stream, held, same⟩ | ⟨_, _, _, _, _, _, same⟩
  · rw [same]
  · rw [same]
    by_cases own : cfg.cid = cid
    · subst own
      simp [held]
    · simp [Function.update_of_ne own]
  · rw [same]

/-! ### Runs -/

theorem Sound.step
    (sound : Sound cfg s) (permitted : orderly cfg s label = true)
    (stepped : step cfg s label = some after) :
    Sound cfg after := by
  cases label with
  | enter maxFrames =>
      simp only [orderly, Bool.and_eq_true, Bool.not_eq_true',
        decide_eq_true_eq] at permitted
      rcases Option.ite_none_right_eq_some.mp stepped with ⟨runs, ⟨⟩⟩
      rcases State.runs_iff.mp runs with ⟨handles, running⟩
      exact sound.enter handles permitted.1 permitted.2 running maxFrames
  | send payload =>
      have unfinished : s.terminated = false := by
        simpa [orderly] using permitted
      rcases Option.ite_none_right_eq_some.mp stepped with ⟨inside, sends⟩
      have handles :=
        (State.runs_iff.mp (Bool.and_eq_true_iff.mp inside).1).1
      split at sends
      · cases sends
        exact sound.turn handles (by simp)
      · cases sends
        exact sound.chunk handles unfinished payload
  | emit payload =>
      have unfinished : s.terminated = false := by
        simpa [orderly] using permitted
      rcases Option.ite_none_right_eq_some.mp stepped with ⟨runs, sends⟩
      split at sends
      · cases sends
        exact sound
      · cases sends
        exact sound.chunk (State.runs_iff.mp runs).1 unfinished payload
  | endStream =>
      simp only [orderly, Bool.and_eq_true, Bool.not_eq_true',
        decide_eq_true_eq] at permitted
      rcases Option.ite_none_right_eq_some.mp stepped with ⟨runs, ⟨⟩⟩
      have handles := (State.runs_iff.mp runs).1
      exact sound.transmit permitted.1 rfl permitted.2 (.inl handles.1)
  | exit reason =>
      rcases Option.ite_none_right_eq_some.mp stepped with ⟨leaves, ⟨⟩⟩
      simp only [Bool.and_eq_true, decide_eq_true_eq] at leaves
      exact sound.exit (State.handles_iff.mp leaves.1) leaves.2 reason
  | publish =>
      simp only [Terminators.step] at stepped
      split at stepped
      · rename_i content leaving sending
        cases stepped
        exact sound.publish sending
      · cases stepped
  | routed =>
      simp only [Terminators.step] at stepped
      split at stepped
      · rename_i content leaving sending
        cases stepped
        exact sound.routed sending
      · cases stepped
  | raises =>
      rcases Option.ite_none_right_eq_some.mp stepped with ⟨runs, ⟨⟩⟩
      exact sound.turn (State.runs_iff.mp runs).1 (by simp)
  | catches =>
      rcases Option.ite_none_right_eq_some.mp stepped with ⟨handles, ⟨⟩⟩
      exact sound.turn (State.handles_iff.mp handles) (by simp)
  | cancel =>
      simp only [orderly, Bool.and_eq_true, Bool.not_eq_true',
        decide_eq_true_eq] at permitted
      rcases permitted with ⟨⟨handling, outside⟩, goes⟩
      simp only [Terminators.step, handling] at stepped
      cases stepped
      exact sound.interrupted handling outside goes
  | timeout =>
      rcases Option.ite_none_right_eq_some.mp stepped with ⟨due, ⟨⟩⟩
      simp only [Bool.and_eq_true] at due
      exact sound.turn (State.handles_iff.mp due.1.1) (by simp)
  | returns =>
      rcases Option.ite_none_right_eq_some.mp stepped with ⟨due, ⟨⟩⟩
      simp only [Bool.and_eq_true, decide_eq_true_eq] at due
      exact sound.settle (State.runs_iff.mp due.1).1 permitted due.2
  | skip =>
      rcases Option.ite_none_right_eq_some.mp stepped with ⟨failed, ⟨⟩⟩
      rcases State.failed_iff.mp failed with ⟨⟨handles, outside⟩, -⟩
      exact sound.settle handles permitted outside
  | retry =>
      rcases Option.ite_none_right_eq_some.mp stepped with ⟨failed, ⟨⟩⟩
      exact sound.turn (State.failed_iff.mp failed).1.1 (by simp)
  | teardown =>
      rcases Option.ite_none_right_eq_some.mp stepped with ⟨leavable, ⟨⟩⟩
      exact sound.teardown leavable
  | interrupt =>
      rcases Option.ite_none_right_eq_some.mp stepped with ⟨turn, told⟩
      have kept := sound.interrupt turn.1 turn.2
      split at told
      · rename_i named
        cases told
        rwa [if_pos named] at kept
      · rename_i unnamed
        cases told
        rwa [if_neg unnamed] at kept
  | clear =>
      rcases Option.ite_none_right_eq_some.mp stepped with ⟨told, ⟨⟩⟩
      exact sound.clear told
  | receive frame =>
      cases stepped
      exact sound.receive frame
  | expire =>
      simp only [Terminators.step] at stepped
      split at stepped
      · cases stepped
      · rename_i stream held
        cases stepped
        exact sound.remark (by simp [held])

/--
In every run of an orderly handler, the stream that it has opened is ended once
when the handler is done.
-/
theorem one_terminator_in_every_run
    (cfg : Config) (streams : Streams π)
    (reached :
      Reaches (Terminators.step cfg)
        (fun s label => orderly cfg s label = true) (init cfg streams) s) :
    Terminates cfg s := by
  have sound : Sound cfg s := by
    refine reached.invariant (sound_init streams) ?_
    intro before label after holds permitted stepped
    exact holds.step permitted stepped
  exact sound.terminates

end Sound

/-- A request of `reader`. -/
def letter : Config where
  cid := "0193"
  recipient := "reader"
  named := by decide

theorem orderly_stream_terminated :
    ∃ s : State Nat,
      Reaches (step letter) (fun s label => orderly letter s label = true)
          (init letter .none) s ∧
        Terminates letter s ∧ s.opened = true ∧ s.phase = .settled ∧
        s.frames = [.chunk 1, .error "boom"] := by
  have ran :
      ((runWhere (step letter)
          (fun s label => orderly letter s label = true)
          (init letter .none)
          [.enter none, .send 1, .publish, .routed, .raises, .exit "boom",
            .publish, .routed, .skip]).map fun s =>
        decide (s.opened = true ∧ s.phase = .settled ∧
          s.frames = [.chunk 1, .error "boom"])) =
        some true := by
    decide +kernel
  rcases exists_reaches_of_run ran with ⟨s, run, seen⟩
  have done := of_decide_eq_true seen
  exact ⟨s, run, one_terminator_in_every_run letter .none run, done⟩

/--
A handler is cancelled inside the block of `stream_reply`: the record goes, and
no terminator is sent, neither by the block nor by the teardown.
-/
theorem cancelled_stream_unterminated :
    ¬ ∀ s : State Nat,
      Reaches (step letter) (fun _ _ => True) (init letter .none) s →
        Terminates letter s := by
  intro terminates
  have ran :
      ((runWhere (step letter) (fun _ _ => True) (init letter .none)
          [.enter none, .send 1, .publish, .routed, .cancel, .exit "",
            .teardown, .interrupt, .clear]).map fun s =>
        decide (s.opened = true ∧ s.done = true ∧
          s.frames = [.chunk 1])) =
        some true := by
    decide +kernel
  rcases exists_reaches_of_run ran with ⟨s, run, seen⟩
  rcases of_decide_eq_true seen with ⟨opened, done, frames⟩
  have ended := terminates s run opened done
  rcases ended.last with ⟨body, terminator, split, last, -⟩
  rw [frames] at split
  cases body with
  | nil =>
      cases split
      cases last
  | cons first rest =>
      rcases List.cons.inj split with ⟨-, short⟩
      simp at short

end Civitas.Streaming.Terminators
