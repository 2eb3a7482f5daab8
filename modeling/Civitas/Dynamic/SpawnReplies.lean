import Civitas.Dynamic.Removals

/-!
# Every spawn is answered once

`_handle_spawn` runs about ten steps that can fail, and for a spawn that
waits the reply comes from a task of its own.  In the runs considered here the
payload can be read, the hook and the constructor return, the subscription
and the audit succeed, and a continuation is not cancelled.  Then a spawn is
with the loop or with one continuation until it is answered, each of their
steps brings the answer nearer, and none of them ends the loop.
-/

namespace Civitas.Dynamic

open Civitas.CountTable
open Civitas.PyValue
open Civitas.Transition
open Function (update)

/-! ## Runs in which spawns behave -/

/-- The continuation has a reply to send. -/
def SpawnStage.pending : SpawnStage → Bool
  | .absent | .finished => false
  | _ => true

/-- A continuation has a reply to send. -/
def State.awaitsStart (s : State) : Bool :=
  (List.range s.next).any fun record => (s.continuation record).pending

/-- A spawner that can be counted, and no subscription left under the name. -/
def State.admissible (s : State) (spawn : SpawnRequest) : Bool :=
  spawn.spawner.key?.isSome && (s.handlers spawn.name).isNone

/-- What a spawn runs returns. -/
def spawnsInFull (cfg : Config) (s : State) (label : Label) : Bool :=
  match label with
  | .take message => message.kind ≠ .spawn || !s.endedBy cfg message
  | .consulted approved constructs =>
      match s.loop with
      | .consulting spawn =>
          !approved ||
            (constructs &&
              ((s.registry spawn.name).isSome || s.admissible spawn))
      | _ => true
  | .loop resumption => s.loop.spawns?.isNone || resumption = .returned
  | .continuation _ resumption => resumption = .returned
  | _ => true

/-- The steps of runs in which spawns behave. -/
def sound (cfg : Config) (s : State) (label : Label) : Bool :=
  orderly s label && spawnsInFull cfg s label &&
    (!s.gathers cfg label || !s.awaitsStart)

theorem orderly_of_sound
    {cfg : Config} {s : State} {label : Label}
    (permitted : sound cfg s label = true) : orderly s label = true := by
  simp only [sound, Bool.and_eq_true] at permitted
  exact permitted.1.1

theorem spawnsInFull_of_sound
    {cfg : Config} {s : State} {label : Label}
    (permitted : sound cfg s label = true) :
    spawnsInFull cfg s label = true := by
  simp only [sound, Bool.and_eq_true] at permitted
  exact permitted.1.2

/-! ## What the loop does for a spawn -/

/-- A step of the loop that brings a spawn forward. -/
inductive Handles (s : State) (request : Request) :
    Label → State → Prop where
  | denies (spawn : SpawnRequest) (approved constructs : Bool)
      (reason : Refusal) :
      s.loop = .consulting spawn →
      spawn.request = request →
      reason ≠ .noDynamicAgent →
        Handles s request (.consulted approved constructs)
          (State.respond { s with currentSpawner := none } request
            (.error reason))
  | claims (spawn : SpawnRequest) :
      s.loop = .consulting spawn →
      spawn.request = request →
      s.registry spawn.name = none →
      s.admissible spawn = true →
        Handles s request (.consulted true true)
          (State.claim { s with currentSpawner := none } spawn)
  | subscribes (spawn : SpawnRequest) (agent : Nat) :
      s.loop = .subscribing spawn agent →
      spawn.request = request →
        Handles s request (.loop .returned)
          { s with
            handlers := update s.handlers spawn.name (some agent)
            loop := .auditing spawn agent }
  | admits (spawn : SpawnRequest) (agent : Nat) (spawner : Key) :
      s.loop = .auditing spawn agent →
      spawn.request = request →
      spawn.spawner.key? = some spawner →
        Handles s request (.loop .returned) (s.enroll spawn agent)
  | replies (answer : Answer) :
      s.loop = .replying request answer →
      answer.ofRemoval = false →
        Handles s request (.loop .returned) (s.answer request answer)

/-- The spawner of a claimed name can be counted. -/
def Keyed (s : State) : Prop :=
  ∀ spawn agent,
    s.loop = .subscribing spawn agent ∨ s.loop = .auditing spawn agent →
      spawn.spawner.key?.isSome = true

section Handles

variable {cfg : Config} {s after : State} {label : Label}

theorem handles_of_consulted
    {spawn : SpawnRequest} {approved constructs : Bool}
    (permitted :
      spawnsInFull cfg s (.consulted approved constructs) = true)
    (loop : s.loop = .consulting spawn) :
    Handles s spawn.request (.consulted approved constructs)
      (s.resumeConsulting spawn approved constructs) := by
  simp only [spawnsInFull, loop, Bool.or_eq_true, Bool.not_eq_true',
    Bool.and_eq_true] at permitted
  unfold State.resumeConsulting
  rcases permitted with rfl | ⟨rfl, taken | admissible⟩
  · exact .denies spawn false constructs .deniedByGovernance loop rfl (by simp)
  · cases approved with
    | false =>
        exact .denies spawn false true .deniedByGovernance loop rfl (by simp)
    | true =>
        simp only [Bool.not_true, Bool.false_eq_true, if_false, taken,
          if_true]
        exact .denies spawn true true .alreadyRegistered loop rfl (by simp)
  · cases approved with
    | false =>
        exact .denies spawn false true .deniedByGovernance loop rfl (by simp)
    | true =>
        cases taken : s.registry spawn.name with
        | some owner =>
            simp only [Bool.not_true, Bool.false_eq_true, if_false,
              Option.isSome_some, if_true]
            exact .denies spawn true true .alreadyRegistered loop rfl (by simp)
        | none =>
            simp only [Bool.not_true, Bool.false_eq_true, if_false,
              Option.isSome_none]
            exact .claims spawn loop rfl taken admissible

/-- In these runs the loop brings a spawn forward. -/
theorem handles_of_step
    {request : Request} (keyed : Keyed s)
    (permitted : spawnsInFull cfg s label = true)
    (stepped : step cfg s label = some after)
    (own : label.ofLoop = true) (spawns : s.loop.spawns? = some request) :
    Handles s request label after := by
  cases label with
  | take message =>
      cases loop : s.loop with
      | idle =>
          rw [loop] at spawns
          cases spawns
      | _ => simp [step, loop] at stepped
  | consulted approved constructs =>
      cases loop : s.loop with
      | consulting spawn =>
          simp only [step, loop, Option.some.injEq] at stepped
          subst stepped
          rw [loop] at spawns
          cases spawns
          exact handles_of_consulted permitted loop
      | _ => simp [step, loop] at stepped
  | loop resumption =>
      have returned : resumption = .returned := by
        simpa [spawnsInFull, spawns] using permitted
      subst returned
      cases loop : s.loop with
      | consulting spawn => simp [step, State.resumeLoop, loop] at stepped
      | subscribing spawn agent =>
          simp only [step, State.resumeLoop, loop, Option.some.injEq]
            at stepped
          subst stepped
          rw [loop] at spawns
          cases spawns
          exact .subscribes spawn agent loop rfl
      | auditing spawn agent =>
          simp only [step, State.resumeLoop, loop, Option.some.injEq]
            at stepped
          subst stepped
          rw [loop] at spawns
          cases spawns
          rcases Option.isSome_iff_exists.mp
              (keyed spawn agent (.inr loop)) with ⟨spawner, key⟩
          exact .admits spawn agent spawner loop rfl key
      | replying other answer =>
          simp only [step, State.resumeLoop, loop, Option.some.injEq]
            at stepped
          subst stepped
          simp only [loop, LoopStage.spawns?] at spawns
          split_ifs at spawns with removal
          cases spawns
          exact .replies answer loop (Bool.eq_false_iff.mpr removal)
      | _ =>
          rw [loop] at spawns
          cases spawns
  | _ => cases own

theorem step_keyed
    (keyed : Keyed s) (permitted : spawnsInFull cfg s label = true)
    (stepped : step cfg s label = some after) : Keyed after := by
  cases own : label.ofLoop with
  | false =>
      unfold Keyed
      rw [(loopRests_of_step stepped own).loop]
      exact keyed
  | true =>
      intro spawn agent stage
      have moves := stage_of_step stepped own
      rcases stage with stage | stage
      · rw [stage] at moves
        cases moves with
        | claims _ _ loop =>
            rename_i approved constructs
            have consulting := loop
            simp only [step, loop, Option.some.injEq] at stepped
            have handled := handles_of_consulted permitted consulting
            rw [stepped] at handled
            generalize reached : after = b at handled
            cases handled with
            | denies => rw [reached] at stage; cases stage
            | claims other loop' _ _ admissible =>
                rw [consulting] at loop'
                cases loop'
                simp only [State.admissible, Bool.and_eq_true] at admissible
                exact admissible.1
        | begins _ _ _ serves => cases serves
        | goesOn _ _ _ _ serves => cases serves
        | halts _ halted => cases halted
      · rw [stage] at moves
        cases moves with
        | subscribes _ _ loop => exact keyed spawn agent (.inl loop)
        | begins _ _ _ serves => cases serves
        | goesOn _ _ _ _ serves => cases serves
        | halts _ halted => cases halted

end Handles

/-! ## Continuations -/

/-- The steps that a continuation has ahead of it. -/
def SpawnStage.ahead : SpawnStage → Nat
  | .waiting => 5
  | .unsubscribing => 4
  | .draining => 3
  | .announcing | .leaving => 2
  | .replying _ => 1
  | .absent | .finished => 0

/-- A continuation sends its reply or comes nearer to it. -/
theorem continuation_advances
    {cfg : Config} {s after : State} {record : Nat}
    (unreached : tearsUnreached s (.continuation record .returned) = true)
    (stepped :
      step cfg s (.continuation record .returned) = some after) :
    (∃ ok, s.continuation record = .replying ok ∧
      after.continuation record = .finished ∧
      after.log =
        .answered (s.spawnRequest record).id
          (if ok then .ok else .startFailed) :: s.log) ∨
    ((after.continuation record).pending = true ∧ after.log = s.log ∧
      (after.continuation record).ahead < (s.continuation record).ahead) := by
  cases stage : s.continuation record with
  | waiting =>
      simp only [step, State.resumeContinuation, stage] at stepped
      right
      split_ifs at stepped with unsettled ready
      · cases stepped
        simp [State.setContinuation, SpawnStage.pending, SpawnStage.ahead]
      · have idle : s.reachedLoop record = false := by
          simpa [tearsUnreached, stage, ready] using unreached
        simp only [State.startSettled, idle, Bool.false_or,
          Bool.not_eq_true', Bool.not_eq_false] at unsettled
        split at stepped
        · cases stepped
          simp [State.setContinuation, State.deregister,
            SpawnStage.pending, SpawnStage.ahead]
        · rename_i undone
          split at unsettled
          · exact absurd ‹_› (undone _)
          · cases unsettled
  | announcing =>
      simp only [step, State.resumeContinuation, stage,
        Option.some.injEq] at stepped
      subst stepped
      right
      simp [State.setContinuation, SpawnStage.pending, SpawnStage.ahead]
  | unsubscribing =>
      simp only [step, State.resumeContinuation, stage,
        Option.some.injEq] at stepped
      subst stepped
      right
      simp [State.setContinuation, SpawnStage.pending, SpawnStage.ahead]
  | draining =>
      simp only [step, State.resumeContinuation, stage,
        Option.some.injEq] at stepped
      subst stepped
      right
      simp [State.setContinuation, State.removeChild, SpawnStage.pending,
        SpawnStage.ahead]
  | leaving =>
      simp only [step, State.resumeContinuation, stage,
        Option.some.injEq] at stepped
      subst stepped
      right
      simp [State.setContinuation, SpawnStage.pending, SpawnStage.ahead]
  | replying ok =>
      simp only [step, State.resumeContinuation, stage,
        Option.some.injEq] at stepped
      subst stepped
      left
      exact ⟨ok, rfl, Function.update_self .., rfl⟩
  | absent => simp [step, State.resumeContinuation, stage] at stepped
  | finished => simp [step, State.resumeContinuation, stage] at stepped

/-- Only a continuation that is pending can resume. -/
theorem pending_of_own
    {cfg : Config} {s after : State} {record : Nat} {resumption : Resumption}
    (stepped : step cfg s (.continuation record resumption) = some after) :
    (s.continuation record).pending = true := by
  cases stage : s.continuation record with
  | absent => simp [step, State.resumeContinuation, stage] at stepped
  | finished => simp [step, State.resumeContinuation, stage] at stepped
  | _ => rfl

/-- Outside the loop no continuation becomes pending. -/
theorem pending_of_aside
    {cfg : Config} {s after : State} {label : Label} {record : Nat}
    (stepped : step cfg s label = some after)
    (other : label.ofLoop = false)
    (pending : (after.continuation record).pending = true) :
    (s.continuation record).pending = true := by
  by_cases own : ∃ resumption, label = .continuation record resumption
  · rcases own with ⟨resumption, rfl⟩
    exact pending_of_own stepped
  · rw [← continuation_of_aside stepped other (not_exists.mp own)]
    exact pending

/-! ## Where a spawn is -/

/-- The loop works on no such request. -/
def Elsewhere (id : Nat) (s : State) : Prop :=
  ∀ request,
    s.loop.spawns? = some request ∨ s.loop.serves? = some request →
      request.id ≠ id

/-- No continuation has a reply to send to the request. -/
def Unclaimed (id : Nat) (s : State) : Prop :=
  ∀ record, (s.continuation record).pending = true →
    (s.spawnRequest record).id ≠ id

/-- A spawn is with the loop, with one continuation, or answered once. -/
inductive Account (id : Nat) (s : State) : Prop where
  | loop :
      s.loop.spawns? = some ⟨id, true⟩ →
      Unclaimed id s →
      s.log.filter (Event.answers id) = [] →
        Account id s
  | task (record : Nat) :
      Elsewhere id s →
      (s.continuation record).pending = true →
      s.spawnRequest record = ⟨id, true⟩ →
      (∀ other, (s.continuation other).pending = true →
        (s.spawnRequest other).id = id → other = record) →
      s.log.filter (Event.answers id) = [] →
        Account id s
  | settled :
      Elsewhere id s →
      Unclaimed id s →
      (s.log.filter (Event.answers id)).length = 1 →
        Account id s

section Account

variable {cfg : Config} {s after : State} {label : Label} {id : Nat}

theorem pending_ne_absent
    {stage : SpawnStage} (pending : stage.pending = true) :
    stage ≠ .absent := by
  rintro rfl
  cases pending

/-- The continuation of a record that is not admitted yet is absent. -/
theorem absent_of_auditing
    {spawn : SpawnRequest} {agent : Nat} (kept : s.roster.Kept)
    (loop : s.loop = .auditing spawn agent) :
    s.continuation agent = .absent := by
  have claimed : s.roster.errand = .claimed spawn.name agent := by
    simp only [State.roster, loop, LoopStage.errand]
  exact (kept.claimed _ _ claimed).2.2.2.2.2.2.1

theorem awaitsStart_of_pending
    {record : Nat} (kept : s.roster.Kept)
    (pending : (s.continuation record).pending = true) :
    s.awaitsStart = true := by
  have born : record < s.next := by
    by_contra unborn
    have blank := kept.numbered.blank record (Nat.le_of_not_lt unborn)
    exact pending_ne_absent pending blank.2.2.1
  exact List.any_eq_true.mpr ⟨record, List.mem_range.mpr born, pending⟩

theorem elsewhere_of_step
    (older : id < s.requests) (elsewhere : Elsewhere id s)
    (stepped : step cfg s label = some after) : Elsewhere id after := by
  rintro request (spawns | serves)
  · rcases spawns_of_step stepped spawns with before | ⟨_, _, _, rfl⟩
    · exact elsewhere request (.inl before)
    · exact Nat.ne_of_gt older
  · rcases serves_of_step stepped serves with before | ⟨_, _, _, rfl⟩
    · exact elsewhere request (.inr before)
    · exact Nat.ne_of_gt older

/-- Nobody but the loop and continuations answers. -/
theorem answers_of_step
    (stepped : step cfg s label = some after)
    (loop : label = .loop .returned → Elsewhere id s)
    (task : ∀ record, label = .continuation record .returned →
      (s.spawnRequest record).id ≠ id) :
    after.log.filter (Event.answers id) =
      s.log.filter (Event.answers id) := by
  rcases step_logs stepped with ⟨new, grown, _, emitted⟩
  have none : new.filter (Event.answers id) = [] := by
    rw [List.filter_eq_nil_iff]
    intro event added answers
    cases emitted _ added with
    | replied request answer replying _ =>
        have number : request.id = id := by
          simpa [Event.answers] using answers
        have works :
            s.loop.spawns? = some request ∨
              s.loop.serves? = some request := by
          rw [replying]
          cases kind : answer.ofRemoval with
          | true => exact .inr (by simp [LoopStage.serves?, kind])
          | false => exact .inl (by simp [LoopStage.spawns?, kind])
        exact loop rfl request works number
    | settled record ok _ =>
        have number : (s.spawnRequest record).id = id := by
          simpa [Event.answers] using answers
        exact task record rfl number
    | tookRemoval => cases answers
    | raised => cases answers
    | spawned => cases answers
    | notified => cases answers
  rw [grown, List.filter_append, none, List.nil_append]

/-- A step of the loop on another request claims nothing. -/
theorem unclaimed_of_loop
    (kept : s.roster.Kept) (elsewhere : Elsewhere id s)
    (unclaimed : Unclaimed id s)
    (stepped : step cfg s label = some after) (own : label.ofLoop = true) :
    Unclaimed id after := by
  intro record pending
  rcases continues_of_loop stepped own with
    continues | ⟨spawn, agent, spawner, loop, _, key, rfl⟩
  · have before : (s.continuation record).pending = true := by
      rcases continues with same | ⟨_, _, cancelled⟩
      · rwa [same] at pending
      · rw [cancelled] at pending
        dsimp only at pending
        cases stage : s.continuation record <;> rw [stage] at pending <;>
          cases pending
    rcases frame_of_step stepped own with
      frame | ⟨spawn, agent, spawner, loop, _, key, rfl⟩
    · rw [frame.spawnRequest]
      exact unclaimed record before
    · have apart : record ≠ agent := by
        rintro rfl
        exact pending_ne_absent before (absent_of_auditing kept loop)
      simp only [State.enroll, key, Function.update_of_ne apart]
      exact unclaimed record before
  · simp only [State.enroll, key] at pending ⊢
    by_cases same : record = agent
    · subst same
      rw [Function.update_self]
      exact elsewhere spawn.request (.inl (by rw [loop]; rfl))
    · rw [Function.update_of_ne same]
      apply unclaimed record
      split_ifs at pending
      · rwa [Function.update_of_ne same] at pending
      · exact pending

theorem account_of_handles
    (kept : s.roster.Kept) (unclaimed : Unclaimed id s)
    (unanswered : s.log.filter (Event.answers id) = [])
    (handled : Handles s ⟨id, true⟩ label after) : Account id after := by
  cases handled with
  | denies spawn approved constructs reason _ _ other =>
      refine .loop ?_ unclaimed unanswered
      cases reason <;> first | rfl | exact absurd rfl other
  | claims spawn _ same =>
      exact .loop (congrArg some same) unclaimed unanswered
  | subscribes spawn agent _ same =>
      exact .loop (congrArg some same) unclaimed unanswered
  | admits spawn agent spawner loop same key =>
      have blank := absent_of_auditing kept loop
      cases waits : spawn.wait with
      | true =>
          refine .task agent ?_ ?_ ?_ ?_ ?_
          · simp only [State.enroll, key, waits, if_true]
            rintro request (spawns | serves)
            · cases spawns
            · cases serves
          · simp [State.enroll, key, waits, SpawnStage.pending]
          · simp [State.enroll, key, same]
          · simp only [State.enroll, key, waits, if_true]
            intro other pending number
            by_contra apart
            rw [Function.update_of_ne apart] at pending number
            exact unclaimed other pending number
          · simpa [State.enroll, key, Event.answers] using unanswered
      | false =>
          refine .loop ?_ ?_ ?_
          · simpa [State.enroll, key, waits, LoopStage.spawns?,
              Answer.ofRemoval] using same
          · simp only [State.enroll, key, waits, Bool.false_eq_true, if_false]
            intro record pending
            have apart : record ≠ agent := by
              rintro rfl
              exact pending_ne_absent pending blank
            dsimp only
            rw [Function.update_of_ne apart]
            exact unclaimed record pending
          · simpa [State.enroll, key, Event.answers] using unanswered
  | replies answer _ _ =>
      refine .settled ?_ unclaimed ?_
      · rintro request (spawns | serves)
        · cases spawns
        · cases serves
      · simp [State.answer, Event.answers, unanswered]

/-- A step of another task keeps a spawn where it is, or answers it. -/
theorem account_of_aside
    (account : Account id s) (permitted : sound cfg s label = true)
    (stepped : step cfg s label = some after)
    (other : label.ofLoop = false) : Account id after := by
  have rests := loopRests_of_step stepped other
  have away (elsewhere : Elsewhere id s) : Elsewhere id after := by
    unfold Elsewhere
    rw [rests.loop]
    exact elsewhere
  have free (unclaimed : Unclaimed id s) : Unclaimed id after := by
    intro record pending
    rw [rests.spawnRequest]
    exact unclaimed record (pending_of_aside stepped other pending)
  have quiet (unclaimed : Unclaimed id s) :
      after.log.filter (Event.answers id) =
        s.log.filter (Event.answers id) := by
    refine answers_of_step stepped ?_ ?_
    · rintro rfl
      cases other
    · rintro record rfl
      exact unclaimed record (pending_of_own stepped)
  cases account with
  | loop spawns unclaimed unanswered =>
      refine .loop ?_ (free unclaimed) ?_
      · rw [rests.loop]
        exact spawns
      · rw [quiet unclaimed]
        exact unanswered
  | settled elsewhere unclaimed answered =>
      refine .settled (away elsewhere) (free unclaimed) ?_
      rw [quiet unclaimed]
      exact answered
  | task record elsewhere pending made sole unanswered =>
      by_cases own : ∃ resumption, label = .continuation record resumption
      · rcases own with ⟨resumption, rfl⟩
        have returned : resumption = .returned := by
          simpa [spawnsInFull] using spawnsInFull_of_sound permitted
        subst returned
        have unreached := (Bool.and_eq_true_iff.mp
          (orderly_of_sound permitted)).2
        rcases continuation_advances unreached stepped with
          ⟨ok, _, finished, log⟩ | ⟨still, log, _⟩
        · refine .settled (away elsewhere) ?_ ?_
          · intro next ready number
            rw [rests.spawnRequest] at number
            have same :=
              sole next (pending_of_aside stepped other ready) number
            rw [same, finished] at ready
            cases ready
          · rw [log, made]
            simp [Event.answers, unanswered]
        · refine .task record (away elsewhere) still ?_ ?_ ?_
          · rw [rests.spawnRequest]
            exact made
          · intro next ready number
            rw [rests.spawnRequest] at number
            exact sole next (pending_of_aside stepped other ready) number
          · rw [log]
            exact unanswered
      · refine .task record (away elsewhere) ?_ ?_ ?_ ?_
        · rw [continuation_of_aside stepped other (not_exists.mp own)]
          exact pending
        · rw [rests.spawnRequest]
          exact made
        · intro next ready number
          rw [rests.spawnRequest] at number
          exact sole next (pending_of_aside stepped other ready) number
        · rw [answers_of_step stepped ?_ ?_]
          · exact unanswered
          · rintro rfl
            cases other
          · rintro next rfl number
            have same := sole next (pending_of_own stepped) number
            exact own ⟨.returned, by rw [same]⟩

/-- A step of the loop on something else keeps a spawn where it is. -/
theorem account_of_task
    {record : Nat} (kept : s.roster.Kept) (older : id < s.requests)
    (elsewhere : Elsewhere id s)
    (pending : (s.continuation record).pending = true)
    (made : s.spawnRequest record = ⟨id, true⟩)
    (sole : ∀ other, (s.continuation other).pending = true →
      (s.spawnRequest other).id = id → other = record)
    (unanswered : s.log.filter (Event.answers id) = [])
    (permitted : sound cfg s label = true)
    (stepped : step cfg s label = some after) (own : label.ofLoop = true) :
    Account id after := by
  have calm : s.gathers cfg label = false := by
    have awaits := awaitsStart_of_pending kept pending
    simp only [sound, awaits, Bool.and_eq_true, Bool.or_eq_true,
      Bool.not_eq_true', Bool.true_eq_false, or_false] at permitted
    exact permitted.2
  have quiet :
      after.log.filter (Event.answers id) = [] := by
    rw [answers_of_step stepped (fun _ => elsewhere) ?_]
    · exact unanswered
    · rintro other rfl
      cases own
  have away := elsewhere_of_step older elsewhere stepped
  rcases frame_of_step stepped own with
    frame | ⟨spawn, agent, spawner, loop, _, key, rfl⟩
  · rcases continues_of_loop stepped own with
      continues | ⟨spawn, agent, spawner, loop, _, key, rfl⟩
    · have same : after.continuation = s.continuation := by
        rcases continues with same | ⟨gathers, _⟩
        · exact same
        · rw [calm] at gathers
          cases gathers
      refine .task record away ?_ ?_ ?_ quiet
      · rw [same]
        exact pending
      · rw [frame.spawnRequest]
        exact made
      · intro other ready number
        rw [same] at ready
        rw [frame.spawnRequest] at number
        exact sole other ready number
    · have live : s.task agent = .live := by
        rw [← frame.task]
        simp [State.enroll, key]
      have claimed : s.roster.errand = .claimed spawn.name agent := by
        simp only [State.roster, loop, LoopStage.errand]
      have idle : s.task agent = .notStarted :=
        (kept.claimed _ _ claimed).2.2.2.2.1
      rw [idle] at live
      cases live
  · have apart : record ≠ agent := by
      rintro rfl
      exact pending_ne_absent pending (absent_of_auditing kept loop)
    have foreign : spawn.request.id ≠ id :=
      elsewhere spawn.request (.inl (by rw [loop]; rfl))
    have still (other : Nat) (ready :
        ((s.enroll spawn agent).continuation other).pending = true)
        (number : ((s.enroll spawn agent).spawnRequest other).id = id) :
        other = record := by
      simp only [State.enroll, key] at ready number
      by_cases same : other = agent
      · subst same
        rw [Function.update_self] at number
        exact absurd number foreign
      · rw [Function.update_of_ne same] at number
        refine sole other ?_ number
        split_ifs at ready
        · rwa [Function.update_of_ne same] at ready
        · exact ready
    refine .task record away ?_ ?_ still quiet
    · simp only [State.enroll, key]
      split_ifs
      · rw [Function.update_of_ne apart]
        exact pending
      · exact pending
    · simp only [State.enroll, key, Function.update_of_ne apart]
      exact made

theorem account_of_step
    (kept : s.roster.Kept) (keyed : Keyed s) (older : id < s.requests)
    (account : Account id s) (permitted : sound cfg s label = true)
    (stepped : step cfg s label = some after) : Account id after := by
  cases own : label.ofLoop with
  | false => exact account_of_aside account permitted stepped own
  | true =>
      cases account with
      | loop spawns unclaimed unanswered =>
          exact
            account_of_handles kept unclaimed unanswered
              (handles_of_step keyed (spawnsInFull_of_sound permitted)
                stepped own spawns)
      | task record elsewhere pending made sole unanswered =>
          exact
            account_of_task kept older elsewhere pending made sole
              unanswered permitted stepped own
      | settled elsewhere unclaimed answered =>
          refine
            .settled (elsewhere_of_step older elsewhere stepped)
              (unclaimed_of_loop kept elsewhere unclaimed stepped own) ?_
          rw [answers_of_step stepped (fun _ => elsewhere) ?_]
          · exact answered
          · rintro record rfl
            cases own

/-- A spawn that is taken is with the loop. -/
theorem account_of_take
    {message : Message} (filed : Filed s)
    (permitted : sound cfg s (.take message) = true)
    (kind : message.kind = .spawn) (correlated : message.correlated = true)
    (stepped : step cfg s (.take message) = some after) :
    Account s.requests after := by
  have unanswered := unanswered_of_take filed stepped
  have reads :
      s.spawnDecision cfg message.payload (spawnerOf message.payload) ≠
        .raise := by
    have full := spawnsInFull_of_sound permitted
    simpa [spawnsInFull, State.endedBy, kind] using full
  cases loop : s.loop with
  | idle =>
      simp only [step, loop, Option.some.injEq, State.takeMessage, kind]
        at stepped
      have unclaimed : Unclaimed s.requests s := by
        intro record pending
        exact
          Nat.ne_of_lt (filed.waiting record (pending_ne_absent pending))
      have same :
          (s.receive message).spawnDecision cfg message.payload
              (spawnerOf message.payload) =
            s.spawnDecision cfg message.payload
              (spawnerOf message.payload) :=
        rfl
      unfold State.takeSpawn at stepped
      rw [same] at stepped
      split at stepped
      · rename_i answer decided
        subst stepped
        refine .loop ?_ unclaimed unanswered
        simp [State.respond, LoopStage.spawns?, spawnDecision_answer decided,
          correlated]
      · exact absurd ‹_› reads
      · subst stepped
        refine .loop ?_ unclaimed unanswered
        simp [State.consult, LoopStage.spawns?, correlated]
  | _ => simp [step, loop] at stepped

end Account

/-! ## What is expected of a spawn -/

/-- The steps of the loop that a spawn has ahead of it. -/
def LoopStage.spawnAhead : LoopStage → Nat
  | .consulting _ => 4
  | .subscribing _ _ => 3
  | .auditing _ _ => 2
  | .replying _ _ => 1
  | _ => 0

/-- The loop or a continuation works on the request. -/
def State.Pending (s : State) (id : Nat) : Prop :=
  s.loop.spawns? = some ⟨id, true⟩ ∨
    ∃ record, (s.continuation record).pending = true ∧
      s.spawnRequest record = ⟨id, true⟩

/-- A continuation that waits can tell how the start went. -/
def State.startKnown (s : State) (record : Nat) : Prop :=
  s.continuation record = .waiting →
    s.startSettled record = true ∧
      ((s.status record).ready = true ∨ s.reachedLoop record = false)

/-- The spawn is answered once and does not end the loop. -/
structure SpawnServed
    (cfg : Config) (permits : State → Label → Prop) (id : Nat)
    (s : State) : Prop where
  once :
    (s.Pending id ∧ s.log.filter (Event.answers id) = []) ∨
      (¬s.Pending id ∧ (s.log.filter (Event.answers id)).length = 1)
  survives : ∀ label after, permits s label →
    step cfg s label = some after → label.ofLoop = true →
    s.loop.spawns? = some ⟨id, true⟩ →
      after.loop.halted = false ∧
        after.log.filter (· = .raised) = s.log.filter (· = .raised)
  proceeds :
    (s.loop.spawns? = some ⟨id, true⟩ →
      ∃ label, label.ofLoop = true ∧ permits s label ∧
        (step cfg s label).isSome = true) ∧
    ∀ record, (s.continuation record).pending = true →
      s.spawnRequest record = ⟨id, true⟩ → s.startKnown record →
        permits s (.continuation record .returned) ∧
          (step cfg s (.continuation record .returned)).isSome = true
  advances :
    (∀ label after, permits s label → step cfg s label = some after →
      label.ofLoop = true → s.loop.spawns? = some ⟨id, true⟩ →
        (after.loop.spawns? = some ⟨id, true⟩ ∧
            after.loop.spawnAhead < s.loop.spawnAhead) ∨
          (∃ record, after.continuation record = .waiting ∧
            after.spawnRequest record = ⟨id, true⟩) ∨
          ∃ answer, after = s.answer ⟨id, true⟩ answer) ∧
    ∀ record resumption after,
      permits s (.continuation record resumption) →
      step cfg s (.continuation record resumption) = some after →
        (after.continuation record).ahead < (s.continuation record).ahead

section Served

variable {cfg : Config} {s after : State} {label : Label} {id : Nat}

theorem Account.once (account : Account id s) :
    (s.Pending id ∧ s.log.filter (Event.answers id) = []) ∨
      (¬s.Pending id ∧ (s.log.filter (Event.answers id)).length = 1) := by
  cases account with
  | loop spawns _ unanswered => exact .inl ⟨.inl spawns, unanswered⟩
  | task record _ pending made _ unanswered =>
      exact .inl ⟨.inr ⟨record, pending, made⟩, unanswered⟩
  | settled elsewhere unclaimed answered =>
      refine .inr ⟨?_, answered⟩
      rintro (spawns | ⟨record, pending, made⟩)
      · exact elsewhere _ (.inl spawns) rfl
      · exact unclaimed record pending (by rw [made])

theorem survives_of_handles
    {request : Request} (handled : Handles s request label after) :
    after.loop.halted = false ∧
      after.log.filter (· = .raised) = s.log.filter (· = .raised) := by
  cases handled with
  | denies => exact ⟨rfl, rfl⟩
  | claims => exact ⟨rfl, rfl⟩
  | subscribes => exact ⟨rfl, rfl⟩
  | admits spawn agent spawner _ _ key =>
      constructor
      · cases waits : spawn.wait <;>
          simp [State.enroll, key, waits, LoopStage.halted]
      · simp [State.enroll, key]
  | replies answer =>
      constructor
      · rfl
      · unfold State.answer
        simp only
        split_ifs
        · rfl
        · rfl

theorem advances_of_handles
    (handled : Handles s ⟨id, true⟩ label after) :
    (after.loop.spawns? = some ⟨id, true⟩ ∧
        after.loop.spawnAhead < s.loop.spawnAhead) ∨
      (∃ record, after.continuation record = .waiting ∧
        after.spawnRequest record = ⟨id, true⟩) ∨
      ∃ answer, after = s.answer ⟨id, true⟩ answer := by
  cases handled with
  | denies spawn approved constructs reason loop _ other =>
      left
      rw [loop]
      refine ⟨?_, by simp [State.respond, LoopStage.spawnAhead]⟩
      cases reason <;> first | rfl | exact absurd rfl other
  | claims spawn loop same =>
      left
      rw [loop]
      exact
        ⟨congrArg some same, by simp [State.claim, LoopStage.spawnAhead]⟩
  | subscribes spawn agent loop same =>
      left
      rw [loop]
      exact ⟨congrArg some same, by simp [LoopStage.spawnAhead]⟩
  | admits spawn agent spawner loop same key =>
      cases waits : spawn.wait with
      | true =>
          right
          left
          exact ⟨agent, by simp [State.enroll, key, waits, same]⟩
      | false =>
          left
          rw [loop]
          simp [State.enroll, key, waits, same, LoopStage.spawns?,
            Answer.ofRemoval, LoopStage.spawnAhead]
  | replies answer => exact .inr (.inr ⟨answer, rfl⟩)

/-- The loop can go on with a spawn. -/
theorem loop_proceeds
    {request : Request} (keyed : Keyed s)
    (spawns : s.loop.spawns? = some request) :
    ∃ label, label.ofLoop = true ∧ sound cfg s label = true ∧
      (step cfg s label).isSome = true := by
  cases loop : s.loop with
  | consulting spawn =>
      refine ⟨.consulted false true, rfl, ?_, ?_⟩
      · simp [sound, orderly, claimsFreeName, tearsUnreached, spawnsInFull,
          State.gathers, State.ends, loop]
      · simp [step, loop]
  | subscribing spawn agent =>
      refine ⟨.loop .returned, rfl, ?_, ?_⟩
      · simp [sound, orderly, claimsFreeName, tearsUnreached, spawnsInFull,
          State.gathers, State.ends, State.escapes, loop]
      · simp [step, State.resumeLoop, loop]
  | auditing spawn agent =>
      have key := keyed spawn agent (.inr loop)
      refine ⟨.loop .returned, rfl, ?_, ?_⟩
      · simp [sound, orderly, claimsFreeName, tearsUnreached, spawnsInFull,
          State.gathers, State.ends, State.escapes, loop, key]
      · simp [step, State.resumeLoop, loop]
  | replying other answer =>
      refine ⟨.loop .returned, rfl, ?_, ?_⟩
      · simp [sound, orderly, claimsFreeName, tearsUnreached, spawnsInFull,
          State.gathers, State.ends, State.escapes, loop]
      · simp [step, State.resumeLoop, loop]
  | _ =>
      rw [loop] at spawns
      cases spawns

/-- A continuation can go on when it knows how the start went. -/
theorem continuation_proceeds
    {record : Nat} (pending : (s.continuation record).pending = true)
    (known : s.startKnown record) :
    sound cfg s (.continuation record .returned) = true ∧
      (step cfg s (.continuation record .returned)).isSome = true := by
  have permitted (stage : s.continuation record ≠ .waiting ∨
      (s.status record).ready = true ∨ s.reachedLoop record = false) :
      sound cfg s (.continuation record .returned) = true := by
    have unreached :
        tearsUnreached s (.continuation record .returned) = true := by
      simpa [tearsUnreached, or_assoc] using stage
    simp [sound, orderly, claimsFreeName, unreached, spawnsInFull,
      State.gathers, State.ends]
  cases stage : s.continuation record with
  | waiting =>
      rcases known stage with ⟨settled, outcome⟩
      refine ⟨permitted (.inr outcome), ?_⟩
      simp only [step, State.resumeContinuation, stage, settled,
        Bool.not_true, Bool.false_eq_true, if_false]
      split_ifs
      · rfl
      · split
        · rfl
        · rfl
  | absent =>
      rw [stage] at pending
      cases pending
  | finished =>
      rw [stage] at pending
      cases pending
  | _ =>
      refine ⟨permitted (.inl (by rw [stage]; simp)), ?_⟩
      simp [step, State.resumeContinuation, stage]

/-- What is expected holds where a spawn is accounted for. -/
theorem served_of_account
    (keyed : Keyed s) (account : Account id s) :
    SpawnServed cfg (sound cfg · ·) id s where
  once := account.once
  survives := by
    intro label after permitted stepped own spawns
    exact
      survives_of_handles
        (handles_of_step keyed (spawnsInFull_of_sound permitted) stepped
          own spawns)
  proceeds := by
    constructor
    · intro spawns
      exact loop_proceeds keyed spawns
    · intro record pending _ known
      exact continuation_proceeds pending known
  advances := by
    constructor
    · intro label after permitted stepped own spawns
      exact
        advances_of_handles
          (handles_of_step keyed (spawnsInFull_of_sound permitted) stepped
            own spawns)
    · intro record resumption after permitted stepped
      have returned : resumption = .returned := by
        simpa [spawnsInFull] using spawnsInFull_of_sound permitted
      subst returned
      have unreached := (Bool.and_eq_true_iff.mp
        (orderly_of_sound permitted)).2
      rcases continuation_advances unreached stepped with
        ⟨ok, stage, finished, _⟩ | ⟨_, _, nearer⟩
      · rw [stage, finished]
        exact Nat.zero_lt_one
      · exact nearer

end Served

end Civitas.Dynamic
