import Civitas.Streaming.Frames
import Civitas.Transition
import Mathlib.Algebra.Order.Group.Int
import Mathlib.Tactic.Cases

/-!
# The discipline of a stream sink

`StreamSink` of `streaming.py` between the calls that feed it and the consumer
that drains it.  The counters of the sink, its queue and its flag are compared
with what has been observed of it: the pushes that it accepted, the items that
it ever queued, and the first call that it answered with a terminal item.

Numbers are integers here, as in the source; `Sink` of the module on frames is
the sink with natural numbers that an agent makes.
-/

namespace Civitas.Streaming.SinkDiscipline

open Civitas.Transition

variable {π : Type}

/-! ## The sink -/

/-- `StreamSink`. -/
structure StreamSink (π : Type) where
  maxsize : Int
  queue : List (Item π) := []
  pending : Int := 0
  done : Bool := false
  nextSeq : Int := 0

/-- The calls of producers. -/
inductive Call (π : Type) where
  | push (payload : π) (seq : Option Int)
  | finish (total : Option Int)
  | fail (error : String)
deriving DecidableEq

namespace StreamSink

/-- The stream is done, with a last item. -/
def stop (sink : StreamSink π) (item : Item π) : StreamSink π :=
  { sink with done := true, queue := sink.queue ++ [item] }

/-- `push`. -/
def push
    (sink : StreamSink π) (payload : π) (seq : Option Int) : StreamSink π :=
  if sink.done then sink
  else if seq.any (· ≠ sink.nextSeq) then sink.stop (.error "out_of_order")
  else if sink.maxsize ≤ sink.pending then sink.stop (.error "slow_consumer")
  else
    { sink with
      nextSeq := if seq.isSome then sink.nextSeq + 1 else sink.nextSeq
      pending := sink.pending + 1
      queue := sink.queue ++ [.chunk payload] }

/-- `end`. -/
def finish (sink : StreamSink π) (total : Option Int) : StreamSink π :=
  if sink.done then sink
  else if total.any (· ≠ sink.nextSeq)
  then sink.stop (.error "truncated_stream")
  else sink.stop .finish

/-- `fail`. -/
def fail (sink : StreamSink π) (error : String) : StreamSink π :=
  if sink.done then sink else sink.stop (.error error)

/-- One call of a method of the sink. -/
def call (sink : StreamSink π) : Call π → StreamSink π
  | .push payload seq => sink.push payload seq
  | .finish total => sink.finish total
  | .fail error => sink.fail error

/-- The sink of an agent. -/
def ofSink (sink : Sink π) : StreamSink π where
  maxsize := sink.maxsize
  queue := sink.queue
  pending := sink.pending
  done := sink.done
  nextSeq := sink.nextSeq

theorem any_cast (seq : Option Nat) (next : Nat) :
    (seq.map Int.ofNat).any (· ≠ (next : Int)) = seq.any (· ≠ next) := by
  cases seq with
  | none => rfl
  | some number => exact decide_eq_decide.mpr (not_congr Int.ofNat_inj)

theorem ofSink_push (sink : Sink π) (payload : π) (seq : Option Nat) :
    ofSink (sink.push payload seq) =
      (ofSink sink).push payload (seq.map Int.ofNat) := by
  unfold Sink.push push
  rw [show (ofSink sink).nextSeq = (sink.nextSeq : Int) from rfl, any_cast,
    show (ofSink sink).done = sink.done from rfl]
  by_cases done : sink.done = true
  · simp [done]
  · by_cases broken : seq.any (· ≠ sink.nextSeq) = true
    · simp only [done, broken]
      rfl
    · have bound :
          (ofSink sink).maxsize ≤ (ofSink sink).pending ↔
            sink.maxsize ≤ sink.pending := Int.ofNat_le
      by_cases full : sink.maxsize ≤ sink.pending
      · simp only [done, broken, full, bound.mpr full]
        rfl
      · rw [if_neg done, if_neg broken, if_neg full, if_neg done,
          if_neg broken, if_neg (mt bound.mp full)]
        cases seq <;> simp [ofSink]

theorem ofSink_finish (sink : Sink π) (total : Option Nat) :
    ofSink (sink.finish total) =
      (ofSink sink).finish (total.map Int.ofNat) := by
  unfold Sink.finish finish
  rw [show (ofSink sink).nextSeq = (sink.nextSeq : Int) from rfl, any_cast,
    show (ofSink sink).done = sink.done from rfl]
  split_ifs <;> rfl

theorem ofSink_fail (sink : Sink π) (error : String) :
    ofSink (sink.fail error) = (ofSink sink).fail error := by
  unfold Sink.fail fail
  rw [show (ofSink sink).done = sink.done from rfl]
  split_ifs <;> rfl

end StreamSink

/-- What a call does to a sink. -/
inductive Effect (sink : StreamSink π) : Call π → StreamSink π → Prop where
  | late (call : Call π) : sink.done = true → Effect sink call sink
  | accepts (payload : π) (seq : Option Int) :
      sink.done = false →
      (∀ number ∈ seq, number = sink.nextSeq) →
      sink.pending < sink.maxsize →
        Effect sink (.push payload seq)
          { sink with
            nextSeq := if seq.isSome then sink.nextSeq + 1 else sink.nextSeq
            pending := sink.pending + 1
            queue := sink.queue ++ [.chunk payload] }
  | disorders (payload : π) (number : Int) :
      sink.done = false →
      number ≠ sink.nextSeq →
        Effect sink (.push payload (some number))
          (sink.stop (.error "out_of_order"))
  | overflows (payload : π) (seq : Option Int) :
      sink.done = false →
      (∀ number ∈ seq, number = sink.nextSeq) →
      sink.maxsize ≤ sink.pending →
        Effect sink (.push payload seq)
          (sink.stop (.error "slow_consumer"))
  | ends (total : Option Int) :
      sink.done = false →
      (∀ number ∈ total, number = sink.nextSeq) →
        Effect sink (.finish total) (sink.stop .finish)
  | truncates (total : Int) :
      sink.done = false →
      total ≠ sink.nextSeq →
        Effect sink (.finish (some total))
          (sink.stop (.error "truncated_stream"))
  | fails (error : String) :
      sink.done = false →
        Effect sink (.fail error) (sink.stop (.error error))

theorem effect_of_call (sink : StreamSink π) (call : Call π) :
    Effect sink call (sink.call call) := by
  by_cases done : sink.done = true
  · have late : sink.call call = sink := by
      cases call <;>
        simp [StreamSink.call, StreamSink.push, StreamSink.finish,
          StreamSink.fail, done]
    rw [late]
    exact .late call done
  · have going : sink.done = false := by simpa using done
    cases call with
    | push payload seq =>
        rw [StreamSink.call, StreamSink.push, if_neg done]
        by_cases broken : seq.any (· ≠ sink.nextSeq) = true
        · rw [if_pos broken]
          cases seq with
          | none => cases broken
          | some number =>
              exact .disorders payload number going (by simpa using broken)
        · have numbered : ∀ number ∈ seq, number = sink.nextSeq := by
            rintro number rfl
            simpa using broken
          rw [if_neg broken]
          by_cases full : sink.maxsize ≤ sink.pending
          · rw [if_pos full]
            exact .overflows payload seq going numbered full
          · rw [if_neg full]
            exact .accepts payload seq going numbered (not_le.mp full)
    | finish total =>
        rw [StreamSink.call, StreamSink.finish, if_neg done]
        by_cases wrong : total.any (· ≠ sink.nextSeq) = true
        · rw [if_pos wrong]
          cases total with
          | none => cases wrong
          | some number =>
              exact .truncates number going (by simpa using wrong)
        · rw [if_neg wrong]
          refine .ends total going ?_
          rintro number rfl
          simpa using wrong
    | fail error =>
        rw [StreamSink.call, StreamSink.fail, if_neg done]
        exact .fails error going

/-! ## Sessions -/

/-- How `drain` stands; it is concluded when it has taken a terminal item. -/
inductive Drain where
  | going
  | returned
  | closed (reason : String)
  | timedOut
deriving DecidableEq

/-- `drain` has yielded its last item, or was closed. -/
def Drain.concluded : Drain → Bool
  | .returned | .closed _ => true
  | _ => false

/-- The item ends the stream. -/
def terminal : Item π → Bool
  | .chunk _ => false
  | _ => true

/-- A sink, its consumer, and what was observed of both. -/
structure Session (π : Type) where
  sink : StreamSink π
  drain : Drain := .going
  yielded : List π := []
  accepted : List (π × Option Int) := []
  queued : List (Item π) := []
  /-- The first call that was answered with a terminal item. -/
  ended : Option (Call π) := none

/-- What happens to a sink. -/
inductive Label (π : Type) where
  | call (call : Call π)
  /-- `drain` takes the next item. -/
  | next
  /-- `idle_timeout`, `first_timeout` or `max_duration` is over. -/
  | timeOut
deriving DecidableEq

namespace Session

/-- A sink that has just been made. -/
def start (maxsize : Int) : Session π where
  sink := { maxsize := maxsize }

/-- The items that a call queues. -/
def queuesNow (s : Session π) (call : Call π) : List (Item π) :=
  (s.sink.call call).queue.drop s.sink.queue.length

/-- The sink answers a call, which is noted. -/
def receive (s : Session π) (call : Call π) : Session π :=
  { s with
    sink := s.sink.call call
    queued := s.queued ++ s.queuesNow call
    accepted :=
      match call, s.queuesNow call with
      | .push payload seq, [.chunk _] => s.accepted ++ [(payload, seq)]
      | _, _ => s.accepted
    ended :=
      s.ended.or
        (if (s.queuesNow call).any terminal then some call else none) }

/-- `drain` handles an item. -/
def take (s : Session π) (item : Item π) (rest : List (Item π)) : Session π :=
  match item with
  | .chunk payload =>
      { s with
        sink := { s.sink with queue := rest, pending := s.sink.pending - 1 }
        yielded := s.yielded ++ [payload] }
  | .finish =>
      { s with sink := { s.sink with queue := rest }, drain := .returned }
  | .error reason =>
      { s with
        sink := { s.sink with queue := rest }
        drain :=
          .closed (if reason = "" then "stream error" else reason) }

end Session

/-- The successor of a state; `none` when the step is not enabled. -/
def step (s : Session π) : Label π → Option (Session π)
  | .call call => some (s.receive call)
  | .next =>
      match s.drain, s.sink.queue with
      | .going, item :: rest => some (s.take item rest)
      | _, _ => none
  | .timeOut =>
      match s.drain with
      | .going => some { s with drain := .timedOut }
      | _ => none

/-! ## What is expected -/

/-- The number of accepted chunks that carried a sequence number. -/
def Session.sequenced (s : Session π) : Nat :=
  (s.accepted.filterMap Prod.snd).length

/-- The chunks among items. -/
def chunks (items : List (Item π)) : List π :=
  items.filterMap fun
    | .chunk payload => some payload
    | _ => none

/--
The call ends a stream that has not been ended before: an end, a failure, a
push that is out of order, or a push while as many accepted chunks as fit have
not been yielded.
-/
def Session.terminates (maxsize : Int) (s : Session π) : Call π → Bool
  | .push _ seq =>
      seq.any (· ≠ (s.sequenced : Int)) ||
        decide (maxsize + s.yielded.length ≤ (s.accepted.length : Int))
  | .finish _ | .fail _ => true

/-- The sink keeps its discipline. -/
structure Disciplined (maxsize : Int) (s : Session π) : Prop where
  /-- A terminating call ends a stream that has not been ended. -/
  first : s.ended = none → ∀ call,
    (s.receive call).ended =
      if s.terminates maxsize call then some call else none
  /-- Every other push is accepted. -/
  accepts : s.ended = none → ∀ payload seq,
    (s.receive (.push payload seq)).accepted =
      if s.terminates maxsize (.push payload seq) then s.accepted
      else s.accepted ++ [(payload, seq)]
  yields : s.yielded ++ chunks s.sink.queue = s.accepted.map Prod.fst
  complete : s.drain.concluded = true →
    s.yielded = s.accepted.map Prod.fst
  numbered :
    s.accepted.filterMap Prod.snd =
      (List.range s.sequenced).map Int.ofNat
  disorder : ∀ payload number,
    s.ended = some (.push payload (some number)) →
      number ≠ (s.sequenced : Int) → s.drain.concluded = true →
        s.drain = .closed "out_of_order"
  normal : s.drain.concluded = true →
    (s.drain = .returned ↔
      ∃ total, s.ended = some (.finish total) ∧
        ∀ number ∈ total, number = (s.sequenced : Int))
  failed : ∀ error, s.ended = some (.fail error) →
    s.drain.concluded = true →
      s.drain = .closed (if error = "" then "stream error" else error)
  /-- The drain can go on while there is something to take. -/
  proceeds :
    s.ended.isSome = true ∨ s.yielded.length < s.accepted.length →
      s.drain = .going → ∃ after, step s .next = some after
  single :
    (s.queued.filter terminal).length =
      if s.ended.isSome then 1 else 0
  last : s.ended.isSome = true → ∀ call,
    (s.receive call).queued = s.queued
  pending : s.sink.pending = (chunks s.sink.queue).length
  bounded : s.sink.pending ≤ max maxsize 0

/-! ## The invariant -/

/-- The item that answers the first terminating call. -/
def lastItem (count : Nat) : Call π → Item π
  | .push _ seq =>
      if seq.any (· ≠ (count : Int)) then .error "out_of_order"
      else .error "slow_consumer"
  | .finish total =>
      if total.any (· ≠ (count : Int)) then .error "truncated_stream"
      else .finish
  | .fail error => .error error

/-- How `drain` ends when it takes a terminal item. -/
def conclusion : Item π → Drain
  | .error reason => .closed (if reason = "" then "stream error" else reason)
  | _ => .returned

/-- The accepted chunks, as items. -/
def Session.accepts (s : Session π) : List (Item π) :=
  s.accepted.map fun push => .chunk push.1

/-- What the parts of a session have to do with each other. -/
structure Kept (maxsize : Int) (s : Session π) : Prop where
  size : s.sink.maxsize = maxsize
  numbered :
    s.accepted.filterMap Prod.snd = (List.range s.sequenced).map Int.ofNat
  nextSeq : s.sink.nextSeq = s.sequenced
  done : s.sink.done = s.ended.isSome
  queued :
    s.queued =
      s.accepts ++ (s.ended.map (lastItem s.sequenced)).toList
  taken : s.drain.concluded = false →
    s.queued = s.yielded.map Item.chunk ++ s.sink.queue
  concluded : s.drain.concluded = true →
    s.sink.queue = [] ∧
      ∃ call, s.ended = some call ∧
        s.drain = conclusion (lastItem s.sequenced call) ∧
        s.yielded = s.accepted.map Prod.fst
  pending : s.sink.pending = (chunks s.sink.queue).length
  bounded : s.sink.pending ≤ max maxsize 0

theorem terminal_lastItem (count : Nat) (call : Call π) :
    terminal (lastItem count call) = true := by
  cases call <;> simp only [lastItem]
  · split <;> rfl
  · split <;> rfl
  · rfl

theorem chunks_append (left right : List (Item π)) :
    chunks (left ++ right) = chunks left ++ chunks right :=
  List.filterMap_append

theorem chunks_terminal {item : Item π} (last : terminal item = true) :
    chunks [item] = [] := by
  cases item <;> first | rfl | cases last

theorem chunks_map (payloads : List π) :
    chunks (payloads.map Item.chunk) = payloads := by
  induction payloads with
  | nil => rfl
  | cons payload rest ih =>
      rw [List.map_cons, ← List.singleton_append, chunks_append, ih]
      rfl

theorem kept_start (maxsize : Int) :
    Kept maxsize (Session.start maxsize : Session π) where
  size := rfl
  numbered := rfl
  nextSeq := rfl
  done := rfl
  queued := rfl
  taken := fun _ => rfl
  concluded := by rintro ⟨⟩
  pending := rfl
  bounded := le_max_right _ _

section Kept

variable {maxsize : Int} {s after : Session π}

theorem queuesNow_of_append
    {call : Call π} {items : List (Item π)}
    (queue : (s.sink.call call).queue = s.sink.queue ++ items) :
    s.queuesNow call = items := by
  rw [Session.queuesNow, queue, List.drop_left]

/-- A sink that takes calls has not been ended. -/
theorem Kept.unended (kept : Kept maxsize s) (going : s.sink.done = false) :
    s.ended = none := by
  have same := kept.done
  rw [going] at same
  exact Option.not_isSome_iff_eq_none.mp (by rw [← same]; simp)

/-- A drain is not concluded before the stream is ended. -/
theorem Kept.going (kept : Kept maxsize s) (unended : s.ended = none) :
    s.drain.concluded = false := by
  by_contra closed
  rw [Bool.not_eq_false] at closed
  rcases (kept.concluded closed).2 with ⟨_, ended, _⟩
  rw [unended] at ended
  cases ended

theorem not_any_of_forall
    {numbers : Option Int} {count : Int}
    (equal : ∀ number ∈ numbers, number = count) :
    ¬numbers.any (· ≠ count) = true := by
  cases numbers with
  | none => exact Bool.false_ne_true
  | some number => simpa using equal number rfl

theorem filter_terminal_map (payloads : List π) :
    (payloads.map Item.chunk).filter terminal = [] := by
  apply List.filter_eq_nil_iff.mpr
  rintro item within
  rcases List.mem_map.mp within with ⟨payload, _, rfl⟩
  exact Bool.false_ne_true

theorem accepts_eq_map (s : Session π) :
    s.accepts = (s.accepted.map Prod.fst).map Item.chunk := by
  simp [Session.accepts]

/-- Chunks and one last item can be told apart in one way only. -/
theorem chunks_then_last
    {left right : List π} {item last : Item π} {rest : List (Item π)}
    (ends : terminal item = true)
    (same : left.map Item.chunk ++ item :: rest =
      right.map Item.chunk ++ [last]) :
    left = right ∧ item = last ∧ rest = [] := by
  induction left generalizing right with
  | nil =>
      cases right with
      | nil =>
          cases same
          exact ⟨rfl, rfl, rfl⟩
      | cons payload more =>
          rcases List.cons.inj same with ⟨rfl, _⟩
          cases ends
  | cons payload more ih =>
      cases right with
      | nil =>
          rcases List.cons.inj same with ⟨_, nothing⟩
          simp at nothing
      | cons other others =>
          rcases List.cons.inj same with ⟨first, tails⟩
          rcases ih tails with ⟨rfl, rfl, rfl⟩
          cases first
          exact ⟨rfl, rfl, rfl⟩

/-- The only terminal item is the last one ever queued. -/
theorem terminal_last
    {item : Item π} {rest : List (Item π)} (kept : Kept maxsize s)
    (split : s.queued = s.yielded.map Item.chunk ++ item :: rest)
    (last : terminal item = true) :
    ∃ call, s.ended = some call ∧ item = lastItem s.sequenced call ∧
      rest = [] ∧ s.yielded = s.accepted.map Prod.fst := by
  have queued := kept.queued
  rw [split, accepts_eq_map] at queued
  cases ended : s.ended with
  | none =>
      rw [ended] at queued
      have found := congrArg (List.filter terminal) queued
      rw [List.filter_append, filter_terminal_map,
        List.filter_cons_of_pos last, List.filter_append,
        filter_terminal_map] at found
      cases found
  | some call =>
      rw [ended] at queued
      rcases chunks_then_last last queued with ⟨yielded, rfl, rfl⟩
      exact ⟨call, rfl, rfl, rfl, yielded⟩

/-- A call after the end changes nothing. -/
theorem receive_late
    {call : Call π} (kept : Kept maxsize s)
    (unchanged : s.sink.call call = s.sink)
    (done : s.sink.done = true) :
    s.receive call = s := by
  have nothing : s.queuesNow call = [] :=
    queuesNow_of_append (by rw [unchanged, List.append_nil])
  have settled : s.ended.isSome = true := kept.done ▸ done
  rcases Option.isSome_iff_exists.mp settled with ⟨first, ended⟩
  cases s with
  | mk sink drain yielded accepted queued ended' =>
      simp only at ended
      subst ended
      simp only [Session.receive, nothing, List.append_nil]
      congr 1

/-- A call that ends the stream. -/
theorem kept_stop
    {call : Call π} (kept : Kept maxsize s)
    (going : s.sink.done = false)
    (stopped : s.sink.call call =
      s.sink.stop (lastItem s.sequenced call)) :
    Kept maxsize (s.receive call) ∧
      (s.receive call).ended = some call ∧
      (s.receive call).accepted = s.accepted := by
  have ends := terminal_lastItem s.sequenced call
  have now : s.queuesNow call = [lastItem s.sequenced call] :=
    queuesNow_of_append (by rw [stopped]; rfl)
  have unended := kept.unended going
  have same : (s.receive call).accepted = s.accepted := by
    simp only [Session.receive, now]
    generalize lastItem s.sequenced call = item at ends
    cases call <;> cases item <;> first | rfl | cases ends
  have first : (s.receive call).ended = some call := by
    simp [Session.receive, now, ends, unended]
  have count : (s.receive call).sequenced = s.sequenced := by
    rw [Session.sequenced, same, Session.sequenced]
  have open_ := kept.going unended
  have chunks' :
      chunks (s.sink.call call).queue = chunks s.sink.queue := by
    rw [stopped, StreamSink.stop, chunks_append, chunks_terminal ends,
      List.append_nil]
  refine ⟨?_, first, same⟩
  constructor
  · show (s.sink.call call).maxsize = maxsize
    rw [stopped]
    exact kept.size
  · rw [same, count]
    exact kept.numbered
  · rw [count]
    show (s.sink.call call).nextSeq = _
    rw [stopped]
    exact kept.nextSeq
  · rw [first]
    show (s.sink.call call).done = true
    rw [stopped]
    rfl
  · rw [first, count, Session.accepts, same]
    have before := kept.queued
    rw [unended] at before
    show s.queued ++ s.queuesNow call = _
    rw [now, before]
    simp [Session.accepts]
  · intro _
    show s.queued ++ s.queuesNow call =
      s.yielded.map Item.chunk ++ (s.sink.call call).queue
    rw [now, kept.taken open_, stopped, StreamSink.stop, List.append_assoc]
  · intro closed
    have still : s.drain.concluded = true := closed
    rw [open_] at still
    cases still
  · show (s.sink.call call).pending = (chunks (s.sink.call call).queue).length
    rw [chunks', stopped]
    exact kept.pending
  · show (s.sink.call call).pending ≤ _
    rw [stopped]
    exact kept.bounded

/-- A call that the sink accepts. -/
theorem kept_accept
    {payload : π} {seq : Option Int} (kept : Kept maxsize s)
    (going : s.sink.done = false)
    (numbered : ∀ number ∈ seq, number = s.sink.nextSeq)
    (room : s.sink.pending < s.sink.maxsize)
    (called : s.sink.call (.push payload seq) =
      { s.sink with
        nextSeq :=
          if seq.isSome then s.sink.nextSeq + 1 else s.sink.nextSeq
        pending := s.sink.pending + 1
        queue := s.sink.queue ++ [.chunk payload] }) :
    Kept maxsize (s.receive (.push payload seq)) := by
  have now : s.queuesNow (.push payload seq) = [.chunk payload] :=
    queuesNow_of_append (by rw [called])
  have unended := kept.unended going
  have open_ := kept.going unended
  have longer :
      (s.receive (.push payload seq)).accepted =
        s.accepted ++ [(payload, seq)] := by
    simp only [Session.receive, now]
  have still : (s.receive (.push payload seq)).ended = none := by
    simp [Session.receive, now, terminal, unended]
  have numbers :
      (s.receive (.push payload seq)).accepted.filterMap Prod.snd =
        s.accepted.filterMap Prod.snd ++ seq.toList := by
    rw [longer, List.filterMap_append]
    cases seq <;> rfl
  have count :
      (s.receive (.push payload seq)).sequenced =
        s.sequenced + seq.toList.length := by
    rw [Session.sequenced, numbers, List.length_append, Session.sequenced]
  constructor
  · show (s.sink.call (.push payload seq)).maxsize = maxsize
    rw [called]
    exact kept.size
  · rw [numbers, count, kept.numbered]
    cases seq with
    | none => simp
    | some number =>
        have next : number = (s.sequenced : Int) :=
          (numbered number rfl).trans kept.nextSeq
        simp [List.range_succ, next]
  · rw [count]
    show (s.sink.call (.push payload seq)).nextSeq = _
    rw [called]
    have next := kept.nextSeq
    cases seq with
    | none => simpa using next
    | some number => simp [next]
  · rw [still]
    show (s.sink.call (.push payload seq)).done = false
    rw [called]
    exact going
  · have before := kept.queued
    rw [unended] at before
    rw [still, Session.accepts, longer]
    show s.queued ++ s.queuesNow (.push payload seq) = _
    rw [now, before]
    simp [Session.accepts]
  · intro _
    show s.queued ++ s.queuesNow (.push payload seq) =
      s.yielded.map Item.chunk ++ (s.sink.call (.push payload seq)).queue
    rw [now, kept.taken open_, called, List.append_assoc]
  · intro closed
    have concluded : s.drain.concluded = true := closed
    rw [open_] at concluded
    cases concluded
  · show (s.sink.call (.push payload seq)).pending =
      (chunks (s.sink.call (.push payload seq)).queue).length
    rw [called]
    simp only [chunks_append, List.length_append, kept.pending]
    simp [chunks]
  · show (s.sink.call (.push payload seq)).pending ≤ _
    rw [called]
    have size := kept.size
    simp only
    omega

theorem kept_receive (call : Call π) (kept : Kept maxsize s) :
    Kept maxsize (s.receive call) := by
  have next := kept.nextSeq
  have effect := effect_of_call s.sink call
  generalize called : s.sink.call call = sink at effect
  cases effect with
  | late _ done => rwa [receive_late kept called done]
  | accepts payload seq going numbered room =>
      exact kept_accept kept going numbered room called
  | disorders payload number going wrong =>
      refine (kept_stop kept going ?_).1
      rw [next] at wrong
      simpa [lastItem, wrong] using called
  | overflows payload seq going numbered full =>
      refine (kept_stop kept going ?_).1
      rw [called, lastItem, if_neg (not_any_of_forall (next ▸ numbered))]
  | ends total going numbered =>
      refine (kept_stop kept going ?_).1
      rw [called, lastItem, if_neg (not_any_of_forall (next ▸ numbered))]
  | truncates total going wrong =>
      refine (kept_stop kept going ?_).1
      rw [next] at wrong
      simpa [lastItem, wrong] using called
  | fails error going => exact (kept_stop kept going called).1

/-- The item that `drain` takes next. -/
theorem kept_take
    {item : Item π} {rest : List (Item π)} (kept : Kept maxsize s)
    (going : s.drain = .going) (queue : s.sink.queue = item :: rest) :
    Kept maxsize (s.take item rest) := by
  have open_ : s.drain.concluded = false := by rw [going]; rfl
  have split : s.queued = s.yielded.map Item.chunk ++ item :: rest := by
    rw [kept.taken open_, queue]
  have pending := kept.pending
  rw [queue] at pending
  cases last : terminal item with
  | false =>
      cases item with
      | finish => cases last
      | error reason => cases last
      | chunk payload =>
          have counted : s.sink.pending = (chunks rest).length + 1 := by
            rw [pending]
            rfl
          constructor
          · exact kept.size
          · exact kept.numbered
          · exact kept.nextSeq
          · exact kept.done
          · exact kept.queued
          · intro _
            show s.queued = (s.yielded ++ [payload]).map Item.chunk ++ rest
            simp [split]
          · intro closed
            have concluded : s.drain.concluded = true := closed
            rw [open_] at concluded
            cases concluded
          · show s.sink.pending - 1 = (chunks rest).length
            omega
          · show s.sink.pending - 1 ≤ max maxsize 0
            have bound := kept.bounded
            omega
  | true =>
      rcases terminal_last kept split last with
        ⟨call, ended, rfl, rfl, yielded⟩
      have drained : s.take (lastItem s.sequenced call) [] =
          { s with
            sink := { s.sink with queue := [] }
            drain := conclusion (lastItem s.sequenced call) } := by
        generalize lastItem s.sequenced call = item at last
        cases item with
        | chunk payload => cases last
        | finish => rfl
        | error reason => rfl
      have shut : (conclusion (lastItem s.sequenced call)).concluded =
          true := by
        generalize lastItem s.sequenced call = item
        cases item <;> rfl
      rw [drained]
      constructor
      · exact kept.size
      · exact kept.numbered
      · exact kept.nextSeq
      · exact kept.done
      · exact kept.queued
      · intro open'
        rw [shut] at open'
        cases open'
      · intro _
        exact ⟨rfl, call, ended, rfl, yielded⟩
      · show s.sink.pending = 0
        rw [pending, chunks_terminal last]
        rfl
      · exact kept.bounded

theorem step_kept
    {label : Label π} (kept : Kept maxsize s)
    (stepped : step s label = some after) : Kept maxsize after := by
  cases label with
  | call call =>
      cases stepped
      exact kept_receive call kept
  | next =>
      simp only [step] at stepped
      split at stepped
      · rename_i going queue
        cases stepped
        exact kept_take kept going queue
      · cases stepped
  | timeOut =>
      simp only [step] at stepped
      split at stepped
      · rename_i going
        cases stepped
        have open_ : s.drain.concluded = false := by rw [going]; rfl
        exact
          ⟨kept.size, kept.numbered, kept.nextSeq, kept.done, kept.queued,
            fun _ => kept.taken open_, by rintro ⟨⟩, kept.pending, kept.bounded⟩
      · cases stepped

end Kept

/-! ## The discipline -/

theorem Kept.yields
    {maxsize : Int} {s : Session π} (kept : Kept maxsize s) :
    s.yielded ++ chunks s.sink.queue = s.accepted.map Prod.fst := by
  cases open_ : s.drain.concluded with
  | true =>
      rcases kept.concluded open_ with ⟨empty, _, _, _, yielded⟩
      rw [empty, yielded]
      exact List.append_nil _
  | false =>
      have both := congrArg chunks ((kept.taken open_).symm.trans kept.queued)
      rw [chunks_append, chunks_map, chunks_append, accepts_eq_map,
        chunks_map] at both
      rw [both]
      cases s.ended with
      | none => exact List.append_nil _
      | some call =>
          have none := chunks_terminal (terminal_lastItem s.sequenced call)
          rw [show (Option.map (lastItem s.sequenced) (some call)).toList =
            [lastItem s.sequenced call] from rfl, none, List.append_nil]

theorem Kept.pending_eq
    {maxsize : Int} {s : Session π} (kept : Kept maxsize s) :
    s.sink.pending + s.yielded.length = (s.accepted.length : Int) := by
  have lengths := congrArg List.length kept.yields
  rw [List.length_append, List.length_map] at lengths
  rw [kept.pending]
  omega

/-- A call to a sink that has not been ended. -/
theorem Kept.answers
    {maxsize : Int} {s : Session π} (kept : Kept maxsize s)
    (unended : s.ended = none) (call : Call π) :
    (s.terminates maxsize call = true →
      (s.receive call).ended = some call ∧
        (s.receive call).accepted = s.accepted) ∧
    (s.terminates maxsize call = false →
      (s.receive call).ended = none ∧
        ∀ payload seq, call = .push payload seq →
          (s.receive call).accepted = s.accepted ++ [(payload, seq)]) := by
  have open_ : s.sink.done = false := by
    rw [kept.done, unended]
    rfl
  have next := kept.nextSeq
  have held := kept.pending_eq
  have size := kept.size
  have effect := effect_of_call s.sink call
  generalize called : s.sink.call call = sink at effect
  cases effect with
  | late _ done => simp [done] at open_
  | accepts payload seq going numbered room =>
      have matched := not_any_of_forall (next ▸ numbered)
      have free :
          ¬maxsize + s.yielded.length ≤ (s.accepted.length : Int) := by
        omega
      have quiet : s.terminates maxsize (.push payload seq) = false := by
        simp only [Session.terminates, free, decide_false, Bool.or_false]
        simpa using matched
      have now : s.queuesNow (.push payload seq) = [.chunk payload] :=
        queuesNow_of_append (by rw [called])
      refine ⟨fun ends => by simp [quiet] at ends, fun _ => ⟨?_, ?_⟩⟩
      · simp [Session.receive, now, terminal, unended]
      · rintro _ _ ⟨⟩
        simp only [Session.receive, now]
  | disorders payload number going wrong =>
      rw [next] at wrong
      have stops :
          s.sink.call (.push payload (some number)) =
            s.sink.stop
              (lastItem s.sequenced (.push payload (some number))) := by
        simpa [lastItem, wrong] using called
      refine ⟨fun _ => (kept_stop kept going stops).2, fun quiet => ?_⟩
      simp [Session.terminates, wrong] at quiet
  | overflows payload seq going numbered full =>
      have stops :
          s.sink.call (.push payload seq) =
            s.sink.stop (lastItem s.sequenced (.push payload seq)) := by
        rw [called, lastItem, if_neg (not_any_of_forall (next ▸ numbered))]
      have crowded :
          maxsize + s.yielded.length ≤ (s.accepted.length : Int) := by
        omega
      refine ⟨fun _ => (kept_stop kept going stops).2, fun quiet => ?_⟩
      simp [Session.terminates, crowded] at quiet
  | ends total going numbered =>
      have stops :
          s.sink.call (.finish total) =
            s.sink.stop (lastItem s.sequenced (.finish total)) := by
        rw [called, lastItem, if_neg (not_any_of_forall (next ▸ numbered))]
      refine ⟨fun _ => (kept_stop kept going stops).2, fun quiet => ?_⟩
      simp [Session.terminates] at quiet
  | truncates total going wrong =>
      rw [next] at wrong
      have stops :
          s.sink.call (.finish (some total)) =
            s.sink.stop (lastItem s.sequenced (.finish (some total))) := by
        simpa [lastItem, wrong] using called
      refine ⟨fun _ => (kept_stop kept going stops).2, fun quiet => ?_⟩
      simp [Session.terminates] at quiet
  | fails error going =>
      refine ⟨fun _ => (kept_stop kept going called).2, fun quiet => ?_⟩
      simp [Session.terminates] at quiet

/-- A concluded drain says how the stream was ended. -/
theorem Kept.disciplined
    {maxsize : Int} {s : Session π} (kept : Kept maxsize s) :
    Disciplined maxsize s where
  first := by
    intro unended call
    have answers := kept.answers unended call
    cases ends : s.terminates maxsize call with
    | true => exact (answers.1 ends).1
    | false => exact (answers.2 ends).1
  accepts := by
    intro unended payload seq
    have answers := kept.answers unended (.push payload seq)
    cases ends : s.terminates maxsize (.push payload seq) with
    | true => exact (answers.1 ends).2
    | false => exact (answers.2 ends).2 payload seq rfl
  yields := kept.yields
  complete := by
    intro concluded
    rcases kept.concluded concluded with ⟨_, _, _, _, yielded⟩
    exact yielded
  numbered := kept.numbered
  disorder := by
    intro payload number ended wrong concluded
    rcases kept.concluded concluded with ⟨_, call, first, drained, _⟩
    rw [ended] at first
    cases first
    rw [drained]
    simp [lastItem, wrong, conclusion]
  normal := by
    intro concluded
    rcases kept.concluded concluded with ⟨_, call, ended, drained, _⟩
    rw [drained, ended]
    cases call with
    | push payload seq =>
        simp only [lastItem]
        split <;> simp [conclusion]
    | finish total =>
        cases total with
        | none => simp [lastItem, conclusion]
        | some number =>
            by_cases same : number = (s.sequenced : Int)
            · simp [lastItem, conclusion, same]
            · simp [lastItem, conclusion, same]
    | fail error => simp [lastItem, conclusion]
  failed := by
    intro error ended concluded
    rcases kept.concluded concluded with ⟨_, call, first, drained, _⟩
    rw [ended] at first
    cases first
    exact drained
  proceeds := by
    intro something going
    have open_ : s.drain.concluded = false := by rw [going]; rfl
    cases queue : s.sink.queue with
    | cons item rest => exact ⟨s.take item rest, by simp [step, going, queue]⟩
    | nil =>
        have nothing : ¬s.yielded.length < s.accepted.length := by
          have held := congrArg List.length kept.yields
          rw [queue, List.length_append, List.length_map] at held
          have empty : (chunks ([] : List (Item π))).length = 0 := rfl
          omega
        have ended := something.resolve_right nothing
        rcases Option.isSome_iff_exists.mp ended with ⟨call, first⟩
        have queued := kept.queued
        rw [kept.taken open_, queue, first] at queued
        have found := congrArg (List.filter terminal) queued
        rw [List.append_nil, filter_terminal_map, accepts_eq_map,
          List.filter_append, filter_terminal_map, List.nil_append] at found
        simp [terminal_lastItem] at found
  single := by
    rw [kept.queued, List.filter_append, accepts_eq_map,
      filter_terminal_map, List.nil_append]
    cases s.ended with
    | none => rfl
    | some call => simp [terminal_lastItem]
  last := by
    intro ended call
    have done : s.sink.done = true := by rw [kept.done, ended]
    have effect := effect_of_call s.sink call
    generalize called : s.sink.call call = sink at effect
    cases effect with
    | late _ _ => rw [receive_late kept called done]
    | accepts _ _ going _ _ => simp [done] at going
    | disorders _ _ going _ => simp [done] at going
    | overflows _ _ going _ _ => simp [done] at going
    | ends _ going _ => simp [done] at going
    | truncates _ going _ => simp [done] at going
    | fails _ going => simp [done] at going
  pending := kept.pending
  bounded := kept.bounded

/-- Whatever is called and however the consumer drains. -/
theorem sink_disciplined_in_every_run
    (maxsize : Int) {s : Session π}
    (reached :
      Reaches step (fun _ _ => True) (Session.start maxsize) s) :
    Disciplined maxsize s := by
  apply Kept.disciplined
  apply reached.invariant (kept_start maxsize)
  intro before label after kept _ stepped
  exact step_kept kept stepped

/-- Two chunks, a matching end, and a drain that takes all of it. -/
def shortStream : List (Label Nat) :=
  [.call (.push 7 (some 0)), .next, .call (.push 8 (some 1)),
    .call (.finish (some 2)), .call (.push 9 (some 2)), .next, .next]

theorem short_stream_disciplined :
    ∃ s : Session Nat, s.drain = .returned ∧ s.yielded = [7, 8] ∧
      Disciplined 1 s := by
  have run :
      (runWhere step (fun _ _ => True) (Session.start 1) shortStream).map
        (fun s => decide (s.drain = .returned ∧ s.yielded = [7, 8])) =
      some true := by
    decide +kernel
  rcases Option.map_eq_some_iff.mp run with ⟨s, ran, found⟩
  rcases of_decide_eq_true found with ⟨returned, yielded⟩
  exact
    ⟨s, returned, yielded,
      sink_disciplined_in_every_run 1 (reaches_of_runWhere .start ran)⟩

/--
The stream is ended in order, and the time of the drain is over before it has
taken the end; and a sink of size minus one holds more than its size.
-/
theorem timed_out_drain_of_ended_stream :
    ∃ s : Session Nat,
      Reaches step (fun _ _ => True) (Session.start (-1)) s ∧
        s.ended = some (.finish none) ∧ s.drain ≠ .going ∧
        s.drain ≠ .returned ∧ ¬s.sink.pending ≤ -1 := by
  have run :
      (runWhere step (fun _ _ => True) (Session.start (-1) : Session Nat)
        [.call (.finish none), .timeOut]).map
        (fun s => decide (s.ended = some (.finish none) ∧
          s.drain ≠ .going ∧ s.drain ≠ .returned ∧
          ¬s.sink.pending ≤ -1)) =
      some true := by
    decide +kernel
  rcases Option.map_eq_some_iff.mp run with ⟨s, ran, found⟩
  exact ⟨s, reaches_of_runWhere .start ran, of_decide_eq_true found⟩

end Civitas.Streaming.SinkDiscipline
