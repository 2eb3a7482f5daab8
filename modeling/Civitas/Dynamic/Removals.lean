import Civitas.Dynamic.Finality

/-!
# Removals in every run

What is left to show of the runs in which removals are final: that a name
whose removal is answered is vacant, that requests are numbered and answered
one by one, and that the loop survives the ends of the children it waits for.
-/

namespace Civitas.Dynamic

open Civitas.PyValue
open Civitas.Transition
open Function (update)

/-! ## Names that are removed -/

/-- Names whose removal is answered, or about to be, are vacant. -/
structure Emptied (s : State) : Prop where
  closed : ∀ name, closed name s.log = true → Vacant s name
  removing : ∀ request name, s.loop = .removing request name → Vacant s name
  confirming : ∀ name, s.loop.confirms? = some name → Vacant s name

theorem emptied_init : Emptied init :=
  ⟨by rintro _ ⟨⟩, by rintro _ _ ⟨⟩, by rintro _ ⟨⟩⟩

section Emptied

variable {cfg : Config} {s after : State} {label : Label} {name : Name}

/-- A name is closed by an answer to its removal. -/
theorem closed_of_append {new log : List Event}
    (found : closed name (new ++ log) = true) :
    closed name log = true ∨ ∃ id, Event.answered id (.removed name) ∈ new := by
  induction new with
  | nil => exact .inl found
  | cons event rest ih =>
      have deeper (inner : closed name (rest ++ log) = true) :
          closed name log = true ∨
            ∃ id, Event.answered id (.removed name) ∈ event :: rest := by
        rcases ih inner with older | ⟨id, within⟩
        · exact .inl older
        · exact .inr ⟨id, List.mem_cons_of_mem _ within⟩
      cases event with
      | answered id answer =>
          cases answer with
          | removed removed =>
              simp only [List.cons_append, closed, Bool.or_eq_true,
                decide_eq_true_eq] at found
              rcases found with same | inner
              · subst same
                exact .inr ⟨id, List.mem_cons_self⟩
              · exact deeper inner
          | ok => exact deeper found
          | startFailed => exact deeper found
          | error reason => exact deeper found
      | spawned record spawned sender spawner =>
          simp only [List.cons_append, closed, Bool.and_eq_true] at found
          exact deeper found.2
      | tookRemoval id => exact deeper found
      | notified about child spawner => exact deeper found
      | raised => exact deeper found

theorem confirms_of_spawn {answer : Answer} (request : Request)
    (other : answer.ofRemoval = false) :
    (LoopStage.replying request answer).confirms? = none := by
  cases answer with
  | removed name => cases other
  | _ => rfl

/-- What a step closes was about to be confirmed. -/
theorem closed_of_step
    (stepped : step cfg s label = some after)
    (found : closed name after.log = true) :
    closed name s.log = true ∨ s.loop.confirms? = some name := by
  rcases step_logs stepped with ⟨new, grown, _, emitted⟩
  rw [grown] at found
  rcases closed_of_append found with older | ⟨id, within⟩
  · exact .inl older
  · right
    generalize added : Event.answered id (.removed name) = event at within
    cases emitted _ within with
    | replied request answer replying _ =>
        cases added
        rw [replying]
        rfl
    | settled record ok _ => cases ok <;> cases added
    | raised => cases added
    | tookRemoval => cases added
    | spawned => cases added
    | notified => cases added

/-- A vacant name that is not spawned in a step stays vacant. -/
theorem Vacant.keep
    (kept : s.roster.Kept) (vacant : Vacant s name)
    (stepped : step cfg s label = some after)
    (unspawned : closed name after.log = true ∨
      ∀ spawn agent, s.loop ≠ .auditing spawn agent) :
    Vacant after name := by
  refine vacant.of_step kept stepped ?_
  intro spawn agent spawner loop _ keyed admitted same
  rcases unspawned with shut | never
  · rw [admitted] at shut
    simp [State.enroll, keyed, closed, same] at shut
  · exact never spawn agent loop

theorem step_emptied
    (ordered : s.roster.Orderly) (calm : Calm s) (held : OnRecord s)
    (emptied : Emptied s)
    (apart : separate cfg s label = true)
    (serves : servesInFull cfg s label = true)
    (stepped : step cfg s label = some after) :
    Emptied after := by
  have kept := ordered.kept
  have unmoved (own : label.ofLoop = false) : after.loop = s.loop :=
    (loopRests_of_step stepped own).loop
  constructor
  · intro name shut
    have vacant : Vacant s name := by
      rcases closed_of_step stepped shut with older | confirms
      · exact emptied.closed name older
      · exact emptied.confirming name confirms
    exact vacant.keep kept stepped (.inl shut)
  · intro request name removing
    cases own : label.ofLoop with
    | true =>
        exact vacant_of_removing ordered calm held apart serves stepped own
          removing
    | false =>
        rw [unmoved own] at removing
        refine (emptied.removing request name removing).keep kept stepped
          (.inr ?_)
        intro spawn agent loop
        rw [removing] at loop
        cases loop
  · intro name confirms
    cases own : label.ofLoop with
    | true =>
        have moves := stage_of_step stepped own
        generalize after.loop = stage at moves confirms
        cases moves with
        | goesOn resumption request stage _ _ _ _ confirmed =>
            have removing := confirmed name confirms
            refine (emptied.removing request name removing).keep kept stepped
              (.inr ?_)
            intro spawn agent loop
            rw [removing] at loop
            cases loop
        | halts _ halted => cases stage <;> cases halted <;> cases confirms
        | ignores => cases confirms
        | consults => cases confirms
        | refuses message answer _ other =>
            rw [confirms_of_spawn _ other] at confirms
            cases confirms
        | denies spawn answer _ other =>
            rw [confirms_of_spawn _ other] at confirms
            cases confirms
        | claims => cases confirms
        | subscribes => cases confirms
        | admits => cases confirms
        | acknowledges => cases confirms
        | begins message stage _ _ _ never =>
            rw [never] at confirms
            cases confirms
        | replies => cases confirms
    | false =>
        rw [unmoved own] at confirms
        refine (emptied.confirming name confirms).keep kept stepped
          (.inr ?_)
        intro spawn agent loop
        rw [loop] at confirms
        cases confirms

end Emptied

/-! ## Children that end while a removal waits -/

/-- The loop does not wait for a task whose end it would not survive. -/
def Unupset (s : State) : Prop :=
  ∀ agent outcome, s.task agent = .done outcome →
    s.upsets agent outcome = false

theorem unupset_init : Unupset init := by rintro _ _ ⟨⟩

section Unupset

variable {cfg : Config} {s after : State} {label : Label}

theorem halted_of_serving
    {stage : LoopStage} (serving : stage.serves?.isSome = true) :
    stage.halted = false := by
  cases stage <;> first | rfl | cases serving

/-- An await that does not break a removal off does not end the loop. -/
theorem escapes_of_serving
    {resumption : Resumption} (unupset : Unupset s)
    (serving : s.loop.serves?.isSome = true)
    (unbroken : s.breaksOff resumption = false) :
    s.escapes resumption = false := by
  cases loop : s.loop with
  | stopAgentWaiting stop =>
      cases resumption with
      | returned =>
          have calm : s.task stop.agent ≠ .done .raised := by
            intro raised
            have quiet := unupset stop.agent .raised raised
            simp [State.upsets, LoopStage.upsetBy, loop] at quiet
          simpa [State.escapes, loop] using calm
      | _ => simp [State.escapes, loop]
  | stopWaiting stop task =>
      cases resumption with
      | returned =>
          have calm : s.task task ≠ .done .raised := by
            intro raised
            have quiet := unupset task .raised raised
            simp [State.upsets, LoopStage.upsetBy, loop] at quiet
          have kept : s.task task ≠ .done .cancelled := by
            intro cancelled
            have quiet := unupset task .cancelled cancelled
            simp [State.upsets, LoopStage.upsetBy, loop] at quiet
          simp [State.escapes, loop, calm, kept]
      | raised => simp [State.breaksOff, loop, LoopStage.serves?] at unbroken
      | cancelled =>
          simp [State.breaksOff, loop, LoopStage.serves?] at unbroken
      | timedOut => simp [State.escapes, loop]
  | stopAgentCancelled stop =>
      cases resumption with
      | returned =>
          have calm : s.task stop.agent ≠ .done .raised := by
            intro raised
            have quiet := unupset stop.agent .raised raised
            simp [State.upsets, LoopStage.upsetBy, loop] at quiet
          simpa [State.escapes, loop] using calm
      | _ => simp [State.escapes, loop]
  | stopCancelled stop task =>
      cases resumption with
      | returned =>
          have calm : s.task task ≠ .done .raised := by
            intro raised
            have quiet := unupset task .raised raised
            simp [State.upsets, LoopStage.upsetBy, loop] at quiet
          simpa [State.escapes, loop] using calm
      | cancelled =>
          simp [State.breaksOff, loop, LoopStage.serves?] at unbroken
      | _ => simp [State.escapes, loop]
  | idle => simp [loop, LoopStage.serves?] at serving
  | consulting spawn => simp [loop, LoopStage.serves?] at serving
  | subscribing spawn agent => simp [loop, LoopStage.serves?] at serving
  | auditing spawn agent => simp [loop, LoopStage.serves?] at serving
  | stopping remaining task => simp [loop, LoopStage.serves?] at serving
  | gathering => simp [loop, LoopStage.serves?] at serving
  | ended => simp [loop, LoopStage.serves?] at serving
  | _ =>
      rw [loop] at serving
      cases resumption with
      | returned => simp [State.escapes, loop]
      | timedOut => simp [State.escapes, loop]
      | raised =>
          simp only [State.breaksOff, loop, serving] at unbroken
          cases unbroken
      | cancelled =>
          simp only [State.breaksOff, loop, serving] at unbroken
          cases unbroken

/-- The loop does not end in a step that takes or serves a removal. -/
theorem unended_of_step
    (unupset : Unupset s) (serves : servesInFull cfg s label = true)
    (stepped : step cfg s label = some after) (own : label.ofLoop = true)
    (removal : label.takesRemoval = true ∨ s.loop.serves?.isSome = true) :
    s.ends cfg label = false ∧ s.loop.halted = false := by
  cases label with
  | take message =>
      cases loop : s.loop with
      | idle =>
          have takes : (message.kind = .despawn || message.kind = .stop) =
              true := by
            rcases removal with takes | serving
            · exact takes
            · rw [loop] at serving
              cases serving
          refine ⟨?_, rfl⟩
          simp only [servesInFull, takes, Bool.not_true, Bool.false_or,
            Bool.not_eq_true'] at serves
          exact serves
      | _ => simp [step, loop] at stepped
  | consulted approved constructs =>
      rcases removal with takes | serving
      · cases takes
      · cases loop : s.loop with
        | consulting spawn =>
            rw [loop] at serving
            cases serving
        | _ => simp [step, loop] at stepped
  | loop resumption =>
      have serving : s.loop.serves?.isSome = true := by
        rcases removal with takes | serving
        · cases takes
        · exact serving
      simp only [servesInFull, Bool.not_eq_true'] at serves
      exact ⟨escapes_of_serving unupset serving serves,
        halted_of_serving serving⟩
  | exit agent resumption now constructs => cases own
  | continuation record resumption => cases own
  | child agent event => cases own
  | foreign name joins => cases own

/-- A finished task was finished before, or finishes in the step. -/
theorem outcome_of_step
    {agent : Nat} {outcome : TaskOutcome}
    (stepped : step cfg s label = some after)
    (other : label.ofLoop = false)
    (done : after.task agent = .done outcome) :
    s.task agent = .done outcome ∨
      ∃ status, label = .child agent (.finish outcome status) := by
  cases label with
  | take message => cases other
  | consulted approved constructs => cases other
  | loop resumption => cases other
  | exit handler resumption now constructs =>
      left
      simp only [step, State.resumeExit] at stepped
      repeat' split at stepped
      all_goals cases stepped
      all_goals first
        | exact done
        | skip
      · unfold State.beginExit at done
        simp only at done
        repeat' split at done
        all_goals exact done
      · rename_i fresh _
        by_cases same : agent = fresh
        · simp only [State.startFresh, same, Function.update_self] at done
          cases done
        · simpa only [State.startFresh, Function.update_of_ne same] using done
  | continuation record resumption =>
      left
      simp only [step, State.resumeContinuation] at stepped
      repeat' split at stepped
      all_goals cases stepped
      all_goals exact done
  | child own event =>
      simp only [step, State.childStep] at stepped
      split at stepped
      · cases stepped
      cases event with
      | reach suspended =>
          simp only at stepped
          split at stepped
          · cases stepped
          · cases stepped
            exact .inl done
      | change status marker =>
          simp only at stepped
          split at stepped
          · cases stepped
            exact .inl done
          · cases stepped
      | finish ending status =>
          simp only at stepped
          split at stepped
          · cases stepped
          · cases stepped
            by_cases same : agent = own
            · subst same
              simp only [Function.update_self, TaskState.done.injEq] at done
              subst done
              exact .inr ⟨status, rfl⟩
            · left
              simpa only [Function.update_of_ne same] using done
  | foreign name joins =>
      left
      simp only [step, State.foreignStep] at stepped
      split at stepped
      all_goals cases stepped
      all_goals exact done

/-- What would upset the loop after a step of its own has not happened. -/
theorem undisturbed_of_step
    (stepped : step cfg s label = some after)
    (own : label.ofLoop = true) : Undisturbed s after.loop := by
  have moves := stage_of_step stepped own
  generalize after.loop = stage at moves
  cases moves with
  | begins message stage _ _ undisturbed => exact undisturbed
  | goesOn resumption request stage _ _ _ undisturbed => exact undisturbed
  | halts _ halted =>
      apply undisturbed_of_never
      intro agent outcome
      cases stage <;> first | rfl | cases halted
  | _ => exact undisturbed_of_never fun _ _ => rfl

theorem step_unupset
    (unupset : Unupset s) (serves : servesInFull cfg s label = true)
    (stepped : step cfg s label = some after) : Unupset after := by
  intro agent outcome done
  cases own : label.ofLoop with
  | true =>
      rw [Bool.eq_false_iff]
      intro upsets
      have before : s.task agent = .done outcome := by
        rcases frame_of_step stepped own with
          frame | ⟨spawn, child, spawner, _, _, keyed, rfl⟩
        · rw [← frame.task]
          exact done
        · simp only [State.enroll, keyed, Function.update_apply] at done
          split_ifs at done
          exact done
      rcases undisturbed_of_step stepped own agent outcome upsets with
        live | upset
      · rw [live] at before
        cases before
      · rw [unupset agent outcome before] at upset
        cases upset
  | false =>
      have same : after.upsets agent outcome = s.upsets agent outcome := by
        unfold State.upsets
        rw [(loopRests_of_step stepped own).loop]
      rw [same]
      rcases outcome_of_step stepped own done with before | ⟨status, rfl⟩
      · exact unupset agent outcome before
      · simpa only [servesInFull, Bool.not_eq_true'] using serves

end Unupset

/-! ## Requests and their answers -/

/-- The request that an event is about. -/
def Event.request? : Event → Option Nat
  | .tookRemoval id | .answered id _ => some id
  | _ => none

/-- Every request that is worked on has been taken. -/
structure Filed (s : State) : Prop where
  known : ∀ event ∈ s.log, ∀ id, event.request? = some id → id < s.requests
  serving : ∀ request, s.loop.serves? = some request →
    request.id < s.requests
  spawning : ∀ request, s.loop.spawns? = some request →
    request.id < s.requests
  waiting : ∀ record, s.continuation record ≠ .absent →
    (s.spawnRequest record).id < s.requests

/-- Requests are numbered as they come, and answered one by one. -/
structure Counted (s : State) : Prop where
  known : ∀ event ∈ s.log, ∀ id, event.request? = some id → id < s.requests
  serving : ∀ request, s.loop.serves? = some request →
    request.id < s.requests
  spawning : ∀ request, s.loop.spawns? = some request →
    request.id < s.requests ∧ Event.tookRemoval request.id ∉ s.log
  waiting : ∀ record, s.continuation record ≠ .absent →
    (s.spawnRequest record).id < s.requests ∧
      Event.tookRemoval (s.spawnRequest record).id ∉ s.log
  took : ∀ id, s.loop.serves? = some ⟨id, true⟩ →
    Event.tookRemoval id ∈ s.log
  unanswered : ∀ id, s.loop.serves? = some ⟨id, true⟩ →
    s.log.filter (Event.answers id) = []
  answered : ∀ id, Event.tookRemoval id ∈ s.log →
    s.loop.serves? ≠ some ⟨id, true⟩ →
      (s.log.filter (Event.answers id)).length = 1

theorem Counted.filed {s : State} (counted : Counted s) : Filed s where
  known := counted.known
  serving := counted.serving
  spawning := fun request spawns => (counted.spawning request spawns).1
  waiting := fun record present => (counted.waiting record present).1

theorem counted_init : Counted init := by
  constructor
  · intro event within
    cases within
  · intro request serves
    cases serves
  · intro request spawns
    cases spawns
  · intro record present
    exact absurd rfl present
  · intro id serves
    cases serves
  · intro id serves
    cases serves
  · intro id within
    cases within

section Counted

variable {cfg : Config} {s after : State} {label : Label}

theorem requests_takeMessage (cfg : Config) (s : State) (message : Message) :
    (s.takeMessage cfg message).requests = s.requests + 1 := by
  have stops (before : State) (stop : StopRequest) :
      (before.afterStop stop).requests = before.requests := by
    rcases afterStop_cases before stop with finished | ⟨_, _, _, waiting⟩
    · rw [finished]
      rfl
    · rw [waiting]
  unfold State.takeMessage
  simp only
  split
  · rfl
  · unfold State.takeSpawn
    split
    all_goals rfl
  · unfold State.takeDespawn
    split
    · rfl
    · split
      · rfl
      · simp only
        split
        · split_ifs
          all_goals rfl
        · rfl
  · unfold State.takeStop
    split_ifs
    · rfl
    · split
      · rfl
      · split
        · rfl
        · simp only
          split_ifs
          · rfl
          · rw [stops]
            rfl
  · rfl

theorem requests_resumeLoop
    {resumption : Resumption}
    (resumed : s.resumeLoop resumption = some after) :
    after.requests = s.requests := by
  unfold State.resumeLoop at resumed
  split at resumed
  all_goals repeat' split at resumed
  all_goals cases resumed
  all_goals first
    | rfl
    | skip
  · unfold State.enroll
    split
    all_goals rfl
  all_goals
    unfold State.afterStop
    split
    · split_ifs
      all_goals rfl
    · rfl

/-- The number of requests grows with the messages taken. -/
theorem requests_of_step (stepped : step cfg s label = some after) :
    (∃ message, label = .take message ∧ after.requests = s.requests + 1) ∨
      (∀ message, label ≠ .take message) ∧ after.requests = s.requests := by
  cases label with
  | take message =>
      left
      cases loop : s.loop with
      | idle =>
          simp only [step, loop, Option.some.injEq] at stepped
          rw [← stepped]
          exact ⟨message, rfl, requests_takeMessage cfg s message⟩
      | _ => simp [step, loop] at stepped
  | consulted approved constructs =>
      right
      refine ⟨by simp, ?_⟩
      cases loop : s.loop with
      | consulting spawn =>
          simp only [step, loop, Option.some.injEq] at stepped
          rw [← stepped]
          unfold State.resumeConsulting
          split_ifs
          all_goals rfl
      | _ => simp [step, loop] at stepped
  | loop resumption => exact .inr ⟨by simp, requests_resumeLoop stepped⟩
  | _ =>
      right
      exact ⟨by simp, (loopRests_of_step stepped rfl).requests⟩

/-- Outside the loop only its own steps move a continuation. -/
theorem continuation_of_other
    (record : Nat) (stepped : step cfg s label = some after)
    (other : label.ofLoop = false) :
    after.continuation record = s.continuation record ∨
      s.continuation record ≠ .absent := by
  by_cases mine : ∃ resumption, label = .continuation record resumption
  · rcases mine with ⟨resumption, rfl⟩
    right
    intro absent
    simp [step, State.resumeContinuation, absent] at stepped
  · exact .inl (continuation_of_aside stepped other (not_exists.mp mine))

/-- A step of the loop that leaves the children alone starts no other task. -/
theorem continuation_of_frame
    {record : Nat} (kept : s.roster.Kept) (frame : Frame s after)
    (stepped : step cfg s label = some after)
    (present : after.continuation record ≠ .absent) :
    s.continuation record ≠ .absent := by
  intro absent
  have motion := step_motion stepped
  have blank : s.roster.continuation record = .absent := absent
  have task : after.roster.task = s.roster.task := frame.task
  apply present
  change after.roster.continuation record = .absent
  generalize after.roster = b at motion task
  cases motion with
  | quiet quiet => exact (quiet.continuation record).absent blank
  | claim => exact blank
  | enroll origin waits claimed =>
      rcases kept.claimed _ _ claimed with ⟨_, _, _, _, idle, _⟩
      have started : s.roster.task origin.record = .live := by
        rw [← task]
        exact Function.update_self ..
      rw [idle] at started
      cases started
  | build => exact blank
  | start => exact blank
  | publish => exact blank

/-- A continuation comes from a spawn that is admitted. -/
theorem present_of_step
    {record : Nat} (kept : s.roster.Kept)
    (stepped : step cfg s label = some after)
    (present : after.continuation record ≠ .absent) :
    (s.continuation record ≠ .absent ∧
        after.spawnRequest record = s.spawnRequest record) ∨
      ∃ spawn, s.loop = .auditing spawn record ∧
        after.spawnRequest record = spawn.request := by
  cases own : label.ofLoop with
  | false =>
      left
      rw [(loopRests_of_step stepped own).spawnRequest]
      rcases continuation_of_other record stepped own with same | before
      · rw [same] at present
        exact ⟨present, rfl⟩
      · exact ⟨before, rfl⟩
  | true =>
      rcases frame_of_step stepped own with
        frame | ⟨spawn, agent, spawner, loop, _, keyed, rfl⟩
      · left
        rw [frame.spawnRequest]
        exact ⟨continuation_of_frame kept frame stepped present, rfl⟩
      · simp only [State.enroll, keyed] at present ⊢
        by_cases same : record = agent
        · subst same
          exact .inr ⟨spawn, loop, Function.update_self ..⟩
        · left
          refine ⟨?_, Function.update_of_ne same ..⟩
          split_ifs at present
          · rwa [Function.update_of_ne same] at present
          · exact present

theorem requests_le (stepped : step cfg s label = some after) :
    s.requests ≤ after.requests := by
  rcases requests_of_step stepped with ⟨_, _, more⟩ | ⟨_, same⟩
  · omega
  · omega

theorem spawns_of_serves
    {stage : LoopStage} {request : Request}
    (serves : stage.serves? = some request) : stage.spawns? = none := by
  cases stage with
  | replying other answer =>
      simp only [LoopStage.serves?] at serves
      simp only [LoopStage.spawns?]
      split_ifs at serves ⊢
      rfl
  | _ => first | rfl | cases serves

theorem serves_of_spawn
    {answer : Answer} (request : Request) (other : answer.ofRemoval = false) :
    (LoopStage.replying request answer).serves? = none := by
  simp [LoopStage.serves?, other]

/-- The loop serves what it served before, or a removal just taken. -/
theorem serves_of_step
    {request : Request} (stepped : step cfg s label = some after)
    (serves : after.loop.serves? = some request) :
    s.loop.serves? = some request ∨
      ∃ message, label = .take message ∧
        (message.kind = .despawn ∨ message.kind = .stop) ∧
        request = ⟨s.requests, message.correlated⟩ := by
  cases own : label.ofLoop with
  | false =>
      rw [(loopRests_of_step stepped own).loop] at serves
      exact .inl serves
  | true =>
      have moves := stage_of_step stepped own
      generalize after.loop = stage at moves serves
      cases moves with
      | goesOn resumption earlier stage before stays =>
          rw [stays] at serves
          cases serves
          exact .inl before
      | begins message stage removal begun =>
          rw [begun] at serves
          cases serves
          exact .inr ⟨message, rfl, removal, rfl⟩
      | halts _ halted => cases stage <;> cases halted <;> cases serves
      | refuses message answer _ other =>
          rw [serves_of_spawn _ other] at serves
          cases serves
      | denies spawn answer _ other =>
          rw [serves_of_spawn _ other] at serves
          cases serves
      | ignores => cases serves
      | consults => cases serves
      | claims => cases serves
      | subscribes => cases serves
      | admits => cases serves
      | acknowledges => cases serves
      | replies => cases serves

/-- The loop works on the spawn it worked on before, or on one just taken. -/
theorem spawns_of_step
    {request : Request} (stepped : step cfg s label = some after)
    (spawns : after.loop.spawns? = some request) :
    s.loop.spawns? = some request ∨
      ∃ message, label = .take message ∧ message.kind = .spawn ∧
        request = ⟨s.requests, message.correlated⟩ := by
  cases own : label.ofLoop with
  | false =>
      rw [(loopRests_of_step stepped own).loop] at spawns
      exact .inl spawns
  | true =>
      have moves := stage_of_step stepped own
      generalize after.loop = stage at moves spawns
      have replied {other : Request} {answer : Answer}
          (found : (LoopStage.replying other answer).spawns? =
            some request) : other = request := by
        simp only [LoopStage.spawns?] at found
        split_ifs at found
        exact Option.some.inj found
      cases moves with
      | goesOn resumption earlier stage before stays =>
          rw [spawns_of_serves stays] at spawns
          cases spawns
      | begins message stage removal begun =>
          rw [spawns_of_serves begun] at spawns
          cases spawns
      | halts _ halted => cases stage <;> cases halted <;> cases spawns
      | consults message spawn kind asked =>
          cases spawns
          exact .inr ⟨message, rfl, kind, asked⟩
      | refuses message answer kind _ =>
          exact .inr ⟨message, rfl, kind, (replied spawns).symm⟩
      | denies spawn answer consulting _ =>
          left
          rw [consulting, ← replied spawns]
          rfl
      | claims spawn agent consulting =>
          left
          rw [consulting]
          exact spawns
      | subscribes spawn agent subscribing =>
          left
          rw [subscribing]
          exact spawns
      | acknowledges spawn agent auditing =>
          left
          rw [auditing, ← replied spawns]
          rfl
      | ignores => cases spawns
      | admits => cases spawns
      | replies => cases spawns

/-- A request that was no removal does not become one. -/
theorem untook_of_step
    {id : Nat} (stepped : step cfg s label = some after)
    (older : id < s.requests) (never : Event.tookRemoval id ∉ s.log) :
    Event.tookRemoval id ∉ after.log := by
  intro took
  rcases step_logs stepped with ⟨new, grown, _, emitted⟩
  rw [grown] at took
  rcases List.mem_append.mp took with added | old
  · generalize event : Event.tookRemoval id = found at added
    cases emitted _ added with
    | tookRemoval message _ _ =>
        cases event
        exact Nat.lt_irrefl _ older
    | raised => cases event
    | spawned => cases event
    | replied => cases event
    | settled record ok _ => cases event
    | notified => cases event
  · exact never old

/-- The events that a step adds are about requests it knows. -/
theorem known_of_step
    (filed : Filed s) (stepped : step cfg s label = some after)
    {event : Event} (within : event ∈ after.log) {id : Nat}
    (about : event.request? = some id) : id < after.requests := by
  have grows := requests_le stepped
  rcases step_logs stepped with ⟨new, grown, _, emitted⟩
  rw [grown] at within
  rcases List.mem_append.mp within with added | old
  · cases emitted _ added with
    | tookRemoval message _ _ =>
        cases about
        rcases requests_of_step stepped with ⟨_, _, more⟩ | ⟨never, _⟩
        · omega
        · exact absurd rfl (never message)
    | replied request answer replying _ =>
        cases about
        have below : request.id < s.requests := by
          cases kind : answer.ofRemoval with
          | true =>
              apply filed.serving request
              simp [replying, LoopStage.serves?, kind]
          | false =>
              refine filed.spawning request ?_
              simp [replying, LoopStage.spawns?, kind]
        omega
    | settled record ok replying =>
        cases about
        have below := filed.waiting record (by rw [replying]; simp)
        omega
    | raised => cases about
    | spawned => cases about
    | notified => cases about
  · have below := filed.known event old id about
    omega

/-- Other steps do not answer a removal. -/
theorem unanswered_of_step
    (counted : Counted s) (stepped : step cfg s label = some after)
    {id : Nat} (took : Event.tookRemoval id ∈ s.log)
    (quiet : label = .loop .returned → ∀ answer,
      s.loop = .replying ⟨id, true⟩ answer → answer.ofRemoval = false) :
    after.log.filter (Event.answers id) =
      s.log.filter (Event.answers id) := by
  rcases step_logs stepped with ⟨new, grown, _, emitted⟩
  have none : new.filter (Event.answers id) = [] := by
    rw [List.filter_eq_nil_iff]
    intro event added answers
    cases emitted _ added with
    | replied request answer replying correlated =>
        have same : request = ⟨id, true⟩ := by
          have number : request.id = id := by
            simpa [Event.answers] using answers
          cases request
          simp_all
        subst same
        have spawn := quiet rfl answer replying
        refine (counted.spawning ⟨id, true⟩ ?_).2 took
        simp [replying, LoopStage.spawns?, spawn]
    | settled record ok replying =>
        have number : (s.spawnRequest record).id = id := by
          simpa [Event.answers] using answers
        refine (counted.waiting record (by rw [replying]; simp)).2 ?_
        rw [number]
        exact took
    | tookRemoval => cases answers
    | raised => cases answers
    | spawned => cases answers
    | notified => cases answers
  rw [grown, List.filter_append, none, List.nil_append]

/-- The log keeps the removal that has been taken. -/
theorem took_of_take
    {message : Message} (stepped : step cfg s (.take message) = some after)
    (correlated : message.correlated = true)
    (removal : message.kind = .despawn ∨ message.kind = .stop) :
    Event.tookRemoval s.requests ∈ after.log := by
  have received : Event.tookRemoval s.requests ∈ (s.receive message).log := by
    rcases removal with kind | kind
    · simp [State.receive, correlated, kind]
    · simp [State.receive, correlated, kind]
  cases loop : s.loop with
  | idle =>
      simp only [step, loop, Option.some.injEq] at stepped
      subst stepped
      rcases log_takeMessage cfg s message with same | raised
      · rw [same]
        exact received
      · rw [raised]
        exact List.mem_cons_of_mem _ received
  | _ => simp [step, loop] at stepped

/-- The loop goes on to serve a removal that it takes. -/
theorem serves_of_take
    {message : Message}
    (unupset : Unupset s) (serves : servesInFull cfg s (.take message) = true)
    (stepped : step cfg s (.take message) = some after)
    (removal : message.kind = .despawn ∨ message.kind = .stop) :
    after.loop.serves? = some ⟨s.requests, message.correlated⟩ := by
  have takes : (Label.take message).takesRemoval = true := by
    rcases removal with kind | kind
    · simp [Label.takesRemoval, kind]
    · simp [Label.takesRemoval, kind]
  have alive := unended_of_step unupset serves stepped rfl (.inl takes)
  have moves := stage_of_step stepped rfl
  generalize after.loop = stage at moves
  cases moves with
  | begins _ stage _ begun => exact begun
  | halts ends _ =>
      rcases ends with ends | halted
      · rw [alive.1] at ends
        cases ends
      · rw [alive.2] at halted
        cases halted
  | ignores _ kind => rcases removal with other | other <;> simp [kind] at other
  | consults _ spawn kind =>
      rcases removal with other | other <;> simp [kind] at other
  | refuses _ answer kind =>
      rcases removal with other | other <;> simp [kind] at other

/-- A step of the loop goes on with the removal it serves, or answers it. -/
theorem served_of_step
    {request : Request}
    (unupset : Unupset s) (full : servesInFull cfg s label = true)
    (stepped : step cfg s label = some after)
    (own : label.ofLoop = true) (serves : s.loop.serves? = some request) :
    after.loop.ahead < s.loop.ahead ∧
      (after.loop.serves? = some request ∨
        ∃ answer, s.loop = .replying request answer ∧
          label = .loop .returned ∧ after = s.answer request answer) := by
  have serving : s.loop.serves?.isSome = true := by simp [serves]
  have alive := unended_of_step unupset full stepped own (.inr serving)
  have moves := stage_of_step stepped own
  generalize stays : after.loop = stage at moves
  cases label with
  | take message =>
      cases loop : s.loop with
      | idle =>
          rw [loop] at serves
          cases serves
      | _ => simp [step, loop] at stepped
  | consulted approved constructs =>
      cases loop : s.loop with
      | consulting spawn =>
          rw [loop] at serves
          cases serves
      | _ => simp [step, loop] at stepped
  | loop resumption =>
      cases moves with
      | goesOn _ earlier _ before still nearer =>
          rw [before] at serves
          cases serves
          exact ⟨nearer, .inl still⟩
      | replies earlier answer replying =>
          have answers : answer.ofRemoval = true ∧ earlier = request := by
            rw [replying] at serves
            simp only [LoopStage.serves?] at serves
            split_ifs at serves with removal
            exact ⟨removal, Option.some.inj serves⟩
          rw [answers.2] at replying
          have answered : after = s.answer request answer := by
            simp only [step, State.resumeLoop, replying,
              Option.some.injEq] at stepped
            exact stepped.symm
          refine ⟨?_, .inr ⟨answer, replying, rfl, answered⟩⟩
          rw [replying]
          exact Nat.zero_lt_one
      | halts ends _ =>
          rcases ends with ends | halted
          · rw [alive.1] at ends
            cases ends
          · rw [alive.2] at halted
            cases halted
      | subscribes _ _ loop =>
          rw [loop] at serves
          cases serves
      | admits _ _ loop =>
          rw [loop] at serves
          cases serves
      | acknowledges _ _ loop =>
          rw [loop] at serves
          cases serves
  | exit agent resumption now constructs => cases own
  | continuation record resumption => cases own
  | child agent event => cases own
  | foreign name joins => cases own

/-- Nothing answers a request that has just been taken. -/
theorem unanswered_of_take
    {message : Message} (filed : Filed s)
    (stepped : step cfg s (.take message) = some after) :
    after.log.filter (Event.answers s.requests) = [] := by
  rcases step_logs stepped with ⟨new, grown, _, emitted⟩
  rw [grown, List.filter_eq_nil_iff]
  intro event within answers
  rcases List.mem_append.mp within with added | old
  · cases emitted _ added with
    | tookRemoval => cases answers
    | raised => cases answers
  · have about : event.request? = some s.requests := by
      cases event with
      | answered id answer =>
          simp only [Event.answers, decide_eq_true_eq] at answers
          rw [answers]
          rfl
      | _ => cases answers
    exact Nat.lt_irrefl _ (filed.known event old s.requests about)

/-- A removal that the loop no longer serves is answered once. -/
theorem answered_of_step
    {id : Nat} (unupset : Unupset s) (counted : Counted s)
    (full : servesInFull cfg s label = true)
    (stepped : step cfg s label = some after)
    (took : Event.tookRemoval id ∈ s.log)
    (pending : after.loop.serves? ≠ some ⟨id, true⟩) :
    (after.log.filter (Event.answers id)).length = 1 := by
  by_cases serves : s.loop.serves? = some ⟨id, true⟩
  · cases own : label.ofLoop with
    | false =>
        rw [(loopRests_of_step stepped own).loop] at pending
        exact absurd serves pending
    | true =>
        rcases (served_of_step unupset full stepped own serves).2 with
          still | ⟨answer, _, _, rfl⟩
        · exact absurd still pending
        · have none := counted.unanswered id serves
          simp [State.answer, Event.answers, none]
  · rw [unanswered_of_step counted stepped took ?_]
    · exact counted.answered id took serves
    · intro _ answer replying
      rw [Bool.eq_false_iff]
      intro removal
      apply serves
      simp [replying, LoopStage.serves?, removal]

theorem step_filed
    (kept : s.roster.Kept) (filed : Filed s)
    (stepped : step cfg s label = some after) : Filed after := by
  have grows := requests_le stepped
  have fresh {message : Message} (taken : label = .take message) :
      after.requests = s.requests + 1 := by
    rcases requests_of_step stepped with ⟨_, _, more⟩ | ⟨never, _⟩
    · exact more
    · exact absurd taken (never message)
  constructor
  · intro event within id about
    exact known_of_step filed stepped within about
  · intro request serves
    rcases serves_of_step stepped serves with
      before | ⟨message, taken, _, rfl⟩
    · have below := filed.serving request before
      omega
    · have more := fresh taken
      dsimp only
      omega
  · intro request spawns
    rcases spawns_of_step stepped spawns with
      before | ⟨message, taken, _, rfl⟩
    · have below := filed.spawning request before
      omega
    · have more := fresh taken
      dsimp only
      omega
  · intro record present
    rcases present_of_step kept stepped present with
      ⟨before, same⟩ | ⟨spawn, loop, same⟩
    · have below := filed.waiting record before
      rw [same]
      omega
    · have below := filed.spawning spawn.request (by rw [loop]; rfl)
      rw [same]
      omega

theorem step_counted
    (kept : s.roster.Kept) (unupset : Unupset s) (counted : Counted s)
    (full : servesInFull cfg s label = true)
    (stepped : step cfg s label = some after) : Counted after := by
  have filed := step_filed kept counted.filed stepped
  rcases step_logs stepped with ⟨new, grown, _, emitted⟩
  have older {event : Event} (within : event ∈ s.log) : event ∈ after.log := by
    rw [grown]
    exact List.mem_append_right _ within
  constructor
  · exact filed.known
  · exact filed.serving
  · intro request spawns
    refine ⟨filed.spawning request spawns, ?_⟩
    rcases spawns_of_step stepped spawns with
      before | ⟨message, taken, kind, rfl⟩
    · rcases counted.spawning request before with ⟨below, never⟩
      exact untook_of_step stepped below never
    · intro took
      rw [grown] at took
      rcases List.mem_append.mp took with added | old
      · subst taken
        generalize event : Event.tookRemoval s.requests = found at added
        cases emitted _ added with
        | tookRemoval _ _ removal =>
            rcases removal with other | other <;> simp [kind] at other
        | raised => cases event
      · have below := counted.known _ old s.requests rfl
        exact Nat.lt_irrefl _ below
  · intro record present
    refine ⟨filed.waiting record present, ?_⟩
    rcases present_of_step kept stepped present with
      ⟨before, same⟩ | ⟨spawn, loop, same⟩
    · rcases counted.waiting record before with ⟨below, never⟩
      rw [same]
      exact untook_of_step stepped below never
    · rcases counted.spawning spawn.request (by rw [loop]; rfl) with
        ⟨below, never⟩
      rw [same]
      exact untook_of_step stepped below never
  · intro id serves
    rcases serves_of_step stepped serves with
      before | ⟨message, taken, removal, request⟩
    · exact older (counted.took id before)
    · subst taken
      simp only [Request.mk.injEq] at request
      rw [request.1]
      exact took_of_take stepped request.2.symm removal
  · intro id serves
    rcases serves_of_step stepped serves with
      before | ⟨message, taken, _, request⟩
    · rw [unanswered_of_step counted stepped (counted.took id before) ?_]
      · exact counted.unanswered id before
      · rintro rfl answer replying
        have answered : after.loop = .idle := by
          simp only [step, State.resumeLoop, replying,
            Option.some.injEq] at stepped
          rw [← stepped]
          rfl
        rw [answered] at serves
        cases serves
    · subst taken
      simp only [Request.mk.injEq] at request
      rw [request.1]
      exact unanswered_of_take counted.filed stepped
  · intro id took pending
    rw [grown] at took
    rcases List.mem_append.mp took with added | old
    · exfalso
      generalize event : Event.tookRemoval id = found at added
      cases emitted _ added with
      | tookRemoval message correlated removal =>
          cases event
          apply pending
          rw [serves_of_take unupset full stepped removal, correlated]
      | raised => cases event
      | spawned => cases event
      | replied => cases event
      | settled record ok _ => cases event
      | notified => cases event
    · exact answered_of_step unupset counted full stepped old pending

end Counted

/-! ## What is off record -/

/-- Exactly a start under way runs a task that is not on record. -/
theorem tasksRecorded_iff
    {s : State} (kept : s.roster.Kept) (held : OnRecord s) :
    TasksRecorded s ↔ s.offRecord = false := by
  constructor
  · intro recorded
    rw [Bool.eq_false_iff]
    intro off
    rcases List.any_eq_true.mp off with ⟨handler, _, found⟩
    split at found
    · rename_i record fresh starting
      have live := of_decide_eq_true found
      rcases kept.staged.starting handler record fresh starting with
        ⟨_, _, _, _, _, _, _, unwatched, _⟩
      exact held.watched _ fresh (recorded fresh live).2.2 unwatched
    · cases found
  · intro quiet agent live
    rcases held.recorded agent live with
      ⟨tasks, tracked⟩ | ⟨handler, record, starting⟩
    · exact ⟨held.entered agent live, tracked, tasks⟩
    · rw [offRecord_of_starting kept starting live] at quiet
      cases quiet

/-! ## Every run -/

/-- All that is kept along the runs in which removals are final. -/
structure Removed (s : State) : Prop where
  ordered : s.roster.Orderly
  descended : s.roster.Descended
  calm : Calm s
  onRecord : OnRecord s
  emptied : Emptied s
  unupset : Unupset s
  counted : Counted s

theorem removed_init : Removed init where
  ordered := ⟨kept_init, by rintro _ ⟨⟩⟩
  descended := fun _ later => absurd rfl later
  calm := calm_init
  onRecord := onRecord_init
  emptied := emptied_init
  unupset := unupset_init
  counted := counted_init

section Removed

variable {cfg : Config} {s after : State} {label : Label}

theorem step_removed
    (held : Removed s) (permitted : final cfg s label = true)
    (stepped : step cfg s label = some after) : Removed after := by
  simp only [final, steady, Bool.and_eq_true, Bool.or_eq_true,
    Bool.not_eq_true'] at permitted
  rcases permitted with ⟨⟨⟨orders, apart⟩, serves⟩, gathers⟩
  have quiet : s.gathers cfg label = true → s.offRecord = false := by
    intro stops
    rcases gathers with never | off
    · rw [never] at stops
      cases stops
    · exact off
  have kept := held.ordered.kept
  constructor
  · exact step_orderly held.ordered orders stepped
  · exact (step_motion stepped).descended kept held.descended
  · exact step_calm held.ordered held.calm apart stepped
  · exact step_onRecord held.ordered held.descended held.calm held.onRecord
      apart serves quiet stepped
  · exact step_emptied held.ordered held.calm held.onRecord held.emptied
      apart serves stepped
  · exact step_unupset held.unupset serves stepped
  · exact step_counted kept held.unupset held.counted serves stepped

theorem servesInFull_of_final
    (permitted : final cfg s label = true) :
    servesInFull cfg s label = true := by
  simp only [final, Bool.and_eq_true] at permitted
  exact permitted.1.2

theorem Removed.survives
    (held : Removed s) (permitted : final cfg s label = true)
    (stepped : step cfg s label = some after)
    (removal : label.takesRemoval = true ∨ s.loop.serves?.isSome = true) :
    after.loop.halted = false := by
  have full := servesInFull_of_final permitted
  cases own : label.ofLoop with
  | false =>
      rw [(loopRests_of_step stepped own).loop]
      rcases removal with takes | serving
      · cases label <;> first | cases takes | cases own
      · exact halted_of_serving serving
  | true =>
      have alive := unended_of_step held.unupset full stepped own removal
      have moves := stage_of_step stepped own
      generalize after.loop = stage at moves
      cases moves with
      | halts ends _ =>
          rcases ends with ends | halted
          · rw [alive.1] at ends
            cases ends
          · rw [alive.2] at halted
            cases halted
      | begins message stage _ begun =>
          exact halted_of_serving (by simp [begun])
      | goesOn resumption request stage _ stays =>
          exact halted_of_serving (by simp [stays])
      | _ => rfl

/-- A removal whose await is over goes on. -/
theorem Removed.proceeds
    (held : Removed s) (serving : s.loop.serves?.isSome = true)
    (ended : ∀ task, s.loop.awaits? = some task →
      ∃ outcome, s.task task = .done outcome) :
    final cfg s (.loop .returned) = true ∧
      (step cfg s (.loop .returned)).isSome = true := by
  have unbroken : s.breaksOff .returned = false := by
    unfold State.breaksOff
    split <;> first | rfl | contradiction
  have unended := escapes_of_serving held.unupset serving unbroken
  have ungathered : s.gathers cfg (.loop .returned) = false := by
    unfold State.gathers
    split
    · rename_i loop
      rw [loop] at serving
      cases serving
    · simp [State.ends, unended]
  constructor
  · simp [final, steady, orderly, claimsFreeName, tearsUnreached, separate,
      servesInFull, unbroken, ungathered]
  · cases loop : s.loop with
    | despawnWaiting request name task =>
        rcases ended task (by rw [loop]; rfl) with ⟨outcome, done⟩
        simp [step, State.resumeLoop, loop, done]
    | stopPosting stop =>
        simp only [step, State.resumeLoop, loop]
        split_ifs <;> rfl
    | stopAgentWaiting stop =>
        rcases ended stop.agent (by rw [loop]; rfl) with ⟨outcome, done⟩
        cases outcome <;> simp [step, State.resumeLoop, loop, done]
    | stopAgentCancelled stop =>
        rcases ended stop.agent (by rw [loop]; rfl) with ⟨outcome, done⟩
        cases outcome <;> simp [step, State.resumeLoop, loop, done]
    | stopWaiting stop task =>
        rcases ended task (by rw [loop]; rfl) with ⟨outcome, done⟩
        cases outcome <;> simp [step, State.resumeLoop, loop, done]
    | stopCancelled stop task =>
        rcases ended task (by rw [loop]; rfl) with ⟨outcome, done⟩
        cases outcome <;> simp [step, State.resumeLoop, loop, done]
    | despawnClearing request name => simp [step, State.resumeLoop, loop]
    | removing request name => simp [step, State.resumeLoop, loop]
    | replying request answer => simp [step, State.resumeLoop, loop]
    | _ =>
        rw [loop] at serving
        cases serving

theorem Removed.served
    (held : Removed s) : RemovalsServed cfg (final cfg · ·) s where
  unanswered := held.counted.unanswered
  answered := held.counted.answered
  survives := by
    intro label after permitted stepped removal
    exact held.survives permitted stepped removal
  proceeds := held.proceeds
  advances := by
    intro request label after permitted stepped own serves
    have full := servesInFull_of_final permitted
    rcases served_of_step held.unupset full stepped own serves with
      ⟨nearer, still | ⟨answer, _, _, answered⟩⟩
    · exact ⟨nearer, .inl still⟩
    · exact ⟨nearer, .inr ⟨answer, answered⟩⟩

end Removed

/--
In every run in which removals and restarts of one name do not overlap, removals
are served to their ends and the supervisor does not give up a restart whose new
incarnation runs: nothing runs under a name whose removal was answered, until
the name is spawned again; every removal is answered once and the loop survives
it; and a task runs off record exactly while the handler of an exit waits for
its start.
-/
theorem removals_final_in_every_run
    (cfg : Config) {s : State}
    (reached : Reaches (step cfg) (final cfg · ·) init s) :
    RemovalsFinal s ∧ RemovalsServed cfg (final cfg · ·) s ∧
      (TasksRecorded s ↔ s.offRecord = false) := by
  have held : Removed s := by
    apply reached.invariant
    · exact removed_init
    · intro before label after held permitted stepped
      exact step_removed held permitted stepped
  refine ⟨?_, held.served, tasksRecorded_iff held.ordered.kept held.onRecord⟩
  intro name shut agent named
  exact (held.emptied.closed name shut).idle agent named

/-- A running child is despawned and spawned no more. -/
def despawnRun : List Label :=
  spawnQuickly (spawnInto "planner" "app.Worker" "w1" false "1") ++
    [Label.child 0 (.reach false), .take (despawn "planner" "w1"),
      .child 0 (.finish .cancelled .stopped), .loop .returned,
      .loop .returned, .loop .returned, .loop .returned]

theorem despawned_child_stays_away :
    ∃ s : State, closed (.str "w1") s.log = true ∧ RemovalsFinal s ∧
      RemovalsServed openConfig (final openConfig · ·) s ∧
      (TasksRecorded s ↔ s.offRecord = false) := by
  have run :
      ((runWhere (step openConfig) (final openConfig · ·) init
        despawnRun).map fun s => closed (.str "w1") s.log) = some true := by
    decide +kernel
  rcases Option.map_eq_some_iff.mp run with ⟨s, ran, shut⟩
  exact ⟨s, shut,
    removals_final_in_every_run openConfig (reaches_of_runWhere .start ran)⟩

/--
A despawn that is taken while the handler of an exit waits for the start of the
next incarnation finds the old task, which has ended: it is answered with ok,
and the new incarnation runs on.
-/
theorem despawn_misses_restart :
    ∃ s : State,
      Reaches (step openConfig) (fun _ _ => True) init s ∧
        ¬ RemovalsFinal s := by
  have run :
      ((runWhere (step openConfig) (fun _ _ => True) init
        (crashAndRestart ++
          [Label.take (despawn "planner" "w1"), .loop .returned,
            .loop .returned, .loop .returned])).map fun s =>
              decide (closed (.str "w1") s.log = true ∧
                s.agentName 1 = .str "w1" ∧ s.task 1 = .live)) =
        some true := by
    decide +kernel
  rcases Option.map_eq_some_iff.mp run with ⟨s, ran, held⟩
  rcases of_decide_eq_true held with ⟨shut, named, live⟩
  refine ⟨s, reaches_of_runWhere .start ran, ?_⟩
  intro removals
  exact removals _ shut 1 named live

end Civitas.Dynamic
