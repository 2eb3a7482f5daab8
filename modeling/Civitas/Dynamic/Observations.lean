import Civitas.Dynamic.Step
import Mathlib.Tactic.SplitIfs

/-!
# What a step lets the outside world observe

The log grows by what the awaits of a step have sent.  `Emits` says which
events a step can add; each is determined by the state and the label, and is
added at most once.
-/

namespace Civitas.Dynamic

open Civitas.PyValue

/-- The event can be added to the log by the step. -/
inductive Emits (s : State) : Label → Event → Prop where
  | raised (label : Label) : Emits s label .raised
  | tookRemoval (message : Message) :
      message.correlated = true →
      message.kind = .despawn ∨ message.kind = .stop →
        Emits s (.take message) (.tookRemoval s.requests)
  | spawned (spawn : SpawnRequest) (agent : Nat) (spawner : Key) :
      s.loop = .auditing spawn agent →
      spawn.spawner.key? = some spawner →
        Emits s (.loop .returned)
          (.spawned agent spawn.name spawn.sender spawner)
  | replied (request : Request) (answer : Answer) :
      s.loop = .replying request answer →
      request.correlated = true →
        Emits s (.loop .returned) (.answered request.id answer)
  | settled (record : Nat) (ok : Bool) :
      s.continuation record = .replying ok →
        Emits s (.continuation record .returned)
          (.answered (s.spawnRequest record).id
            (if ok then .ok else .startFailed))
  | notified (agent now : Nat) (constructs : Bool) (spawner : Key) :
      s.exit agent = .notifying spawner →
        Emits s (.exit agent .returned now constructs)
          (.notified agent (s.agentName agent) spawner)

/-- The log grows by events of the step, each at most once. -/
def Logs (s : State) (label : Label) (log : List Event) : Prop :=
  ∃ new, log = new ++ s.log ∧ new.Nodup ∧ ∀ event ∈ new, Emits s label event

section

variable {s : State} {label : Label}

theorem Logs.same : Logs s label s.log :=
  ⟨[], rfl, List.nodup_nil, by simp⟩

theorem Logs.one {event : Event} (emits : Emits s label event) :
    Logs s label (event :: s.log) := by
  refine ⟨[event], rfl, List.nodup_singleton event, ?_⟩
  intro other member
  rw [List.mem_singleton.mp member]
  exact emits

/-- The log after a message has been received, and a handler has raised. -/
theorem logs_take
    {message : Message} {log : List Event}
    (grown : log = (s.receive message).log ∨
      log = .raised :: (s.receive message).log) :
    Logs s (.take message) log := by
  unfold State.receive at grown
  simp only at grown
  split_ifs at grown with removal
  · simp only [Bool.and_eq_true, Bool.or_eq_true, beq_iff_eq] at removal
    have took : Emits s (.take message) (.tookRemoval s.requests) :=
      .tookRemoval message removal.1 removal.2
    rcases grown with rfl | rfl
    · exact .one took
    · refine ⟨[.raised, .tookRemoval s.requests], rfl, by simp, ?_⟩
      intro event member
      simp only [List.mem_cons, List.not_mem_nil, or_false] at member
      rcases member with rfl | rfl
      · exact .raised _
      · exact took
  · rcases grown with rfl | rfl
    · exact .same
    · exact .one (.raised _)

end

/-! ## The handlers of the loop -/

theorem log_takeSpawn
    (cfg : Config) (s : State) (request : Request) (message : Message) :
    (s.takeSpawn cfg request message).log = s.log ∨
      (s.takeSpawn cfg request message).log = .raised :: s.log := by
  unfold State.takeSpawn
  split
  · exact .inl rfl
  · exact .inr rfl
  · exact .inl rfl

theorem log_takeDespawn
    (s : State) (request : Request) (payload : Dict) :
    (s.takeDespawn request payload).log = s.log ∨
      (s.takeDespawn request payload).log = .raised :: s.log := by
  unfold State.takeDespawn
  split
  · exact .inr rfl
  · split
    · exact .inl rfl
    · simp only
      split
      · split_ifs
        · exact .inl rfl
        · exact .inl rfl
      · exact .inl rfl

theorem log_afterStop (s : State) (stop : StopRequest) :
    (s.afterStop stop).log = s.log := by
  unfold State.afterStop
  split
  · split_ifs
    · rfl
    · rfl
  · rfl

theorem log_takeStop
    (cfg : Config) (s : State) (request : Request) (payload : Dict) :
    (s.takeStop cfg request payload).log = s.log ∨
      (s.takeStop cfg request payload).log = .raised :: s.log := by
  unfold State.takeStop
  split_ifs
  · exact .inr rfl
  · split
    · exact .inr rfl
    · split
      · exact .inl rfl
      · simp only
        split_ifs
        · exact .inl rfl
        · exact .inl (log_afterStop _ _)

theorem log_takeMessage (cfg : Config) (s : State) (message : Message) :
    (s.takeMessage cfg message).log = (s.receive message).log ∨
      (s.takeMessage cfg message).log =
        .raised :: (s.receive message).log := by
  unfold State.takeMessage
  simp only
  cases message.kind with
  | shutdown => exact .inl rfl
  | spawn => exact log_takeSpawn cfg _ _ message
  | despawn => exact log_takeDespawn _ _ _
  | stop => exact log_takeStop cfg _ _ _
  | other => exact .inl rfl

theorem logs_enroll
    {s : State} {spawn : SpawnRequest} {agent : Nat}
    (auditing : s.loop = .auditing spawn agent) :
    Logs s (.loop .returned) (s.enroll spawn agent).log := by
  unfold State.enroll
  split
  · exact .one (.raised _)
  · rename_i spawner hashed
    exact .one (.spawned spawn agent spawner auditing hashed)

theorem logs_answer
    {s : State} {request : Request} {answer : Answer}
    (replying : s.loop = .replying request answer) :
    Logs s (.loop .returned) (s.answer request answer).log := by
  unfold State.answer
  simp only
  split_ifs with correlated
  · exact .one (.replied request answer replying correlated)
  · exact .same

theorem logs_resumeLoop
    {s after : State} {resumption : Resumption}
    (resumed : s.resumeLoop resumption = some after) :
    Logs s (.loop resumption) after.log := by
  unfold State.resumeLoop at resumed
  repeat' split at resumed
  all_goals cases resumed
  all_goals
    first
    | exact Logs.same
    | exact Logs.one (.raised _)
    | exact logs_enroll (by assumption)
    | exact logs_answer (by assumption)
    | (rw [log_afterStop]; exact Logs.same)

/-! ## Handlers, continuations and every step -/

theorem log_beginExit
    (cfg : Config) (s : State) (agent : Nat) (crashed : Bool) (now : Nat)
    (constructs : Bool) :
    (s.beginExit cfg agent crashed now constructs).log = s.log := by
  unfold State.beginExit
  split
  · rfl
  · simp only
    split_ifs
    all_goals rfl

theorem logs_resumeExit
    {cfg : Config} {s after : State} {agent now : Nat}
    {resumption : Resumption} {constructs : Bool}
    (resumed :
      s.resumeExit cfg agent resumption now constructs = some after) :
    Logs s (.exit agent resumption now constructs) after.log := by
  unfold State.resumeExit at resumed
  simp only at resumed
  repeat' split at resumed
  all_goals cases resumed
  all_goals
    first
    | exact Logs.same
    | (rw [log_beginExit]; exact Logs.same)
    | exact Logs.one (.notified _ _ _ _ (by assumption))

theorem logs_resumeContinuation
    {s after : State} {record : Nat} {resumption : Resumption}
    (resumed : s.resumeContinuation record resumption = some after) :
    Logs s (.continuation record resumption) after.log := by
  unfold State.resumeContinuation at resumed
  simp only at resumed
  split at resumed
  case h_10 ok stage =>
    cases resumed
    exact Logs.one (.settled record ok stage)
  all_goals repeat' split at resumed
  all_goals cases resumed
  all_goals exact Logs.same

theorem step_logs
    {cfg : Config} {s after : State} {label : Label}
    (stepped : step cfg s label = some after) :
    Logs s label after.log := by
  cases label with
  | take message =>
      cases loop : s.loop with
      | idle =>
          simp only [step, loop, Option.some.injEq] at stepped
          subst stepped
          exact logs_take (log_takeMessage cfg s message)
      | _ => simp [step, loop] at stepped
  | consulted approved constructs =>
      cases loop : s.loop with
      | consulting spawn =>
          simp only [step, loop, Option.some.injEq] at stepped
          subst stepped
          unfold State.resumeConsulting
          split_ifs
          · exact Logs.same
          · exact Logs.one (.raised _)
          · exact Logs.same
          · exact Logs.same
      | _ => simp [step, loop] at stepped
  | loop resumption => exact logs_resumeLoop stepped
  | exit agent resumption now constructs => exact logs_resumeExit stepped
  | continuation record resumption =>
      exact logs_resumeContinuation stepped
  | child agent event =>
      simp only [step, State.childStep] at stepped
      repeat' split at stepped
      all_goals cases stepped
      all_goals exact Logs.same
  | foreign name joins =>
      simp only [step, State.foreignStep] at stepped
      split at stepped
      all_goals cases stepped
      all_goals exact Logs.same

/-- A notice is sent by the exit handler of the incarnation it is about. -/
theorem notified_of_step
    {cfg : Config} {s after : State} {label : Label} {about : Nat}
    {child : Name} {spawner : Key}
    (stepped : step cfg s label = some after)
    (sent : Event.notified about child spawner ∈ after.log) :
    Event.notified about child spawner ∈ s.log ∨
      ∃ now constructs, label = .exit about .returned now constructs ∧
        child = s.agentName about ∧ s.exit about = .notifying spawner := by
  rcases step_logs stepped with ⟨new, grown, _, emitted⟩
  rw [grown] at sent
  rcases List.mem_append.mp sent with added | old
  · right
    cases emitted _ added with
    | notified agent now constructs spawner stage =>
        exact ⟨now, constructs, rfl, rfl, stage⟩
  · exact .inl old

end Civitas.Dynamic
