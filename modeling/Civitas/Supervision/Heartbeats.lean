import Civitas.Transition
import Mathlib.Algebra.BigOperators.Group.List.Basic
import Mathlib.Algebra.GroupWithZero.Nat
import Mathlib.Data.List.Nodup
import Mathlib.Logic.Function.Basic

/-!
# Heartbeats of remote children

One round of `Supervisor._heartbeat_loop` after another.  A round groups the
remote children by the health channel that the registry has for them at that
moment, probes every channel once, and pings the children without a channel
one by one.  Only `TimeoutError` counts as a miss.  The counters of
`_missed_heartbeats` are under the name of the channel for a probe and under
the name of the child for a ping; the threshold of a channel is the least of
the children that it covers in this round.
-/

namespace Civitas.Supervision.Heartbeats

open Civitas.Transition
open Function (update)

/-! ## Rounds -/

/-- The remote children, in the order of the set, with their thresholds. -/
structure Config where
  children : List String
  distinct : children.Nodup
  threshold : String → Int
  hasBus : Bool

/-- How a probe fails. -/
inductive Failure where
  | timeout
  /-- `MessageRoutingError`, a signing error, or any other exception. -/
  | error
deriving DecidableEq

/-- What the acknowledgement of a worker says about a child. -/
inductive Report where
  | absent
  | alive
  /-- `task_alive` is false, or the status is `CRASHED`. -/
  | dead
  /-- Looking the child up raises. -/
  | broken
deriving DecidableEq

/-- What becomes of a probe. -/
inductive Outcome where
  | acked (report : String → Report)
  | failed (why : Failure)

/-- What a round meets. -/
structure Tick where
  /-- `entry.health_channel` of a child, or the empty string. -/
  channel : String → String
  /-- The outcome of the probe of a channel. -/
  probe : String → Outcome
  /-- The outcome of the ping of a child; there is no report to read. -/
  ping : String → Outcome

/-- The counters, and the crash events enqueued in this round. -/
structure Round where
  missed : String → Nat
  events : List String := []

/-- The channels of `by_channel`, each where it came first. -/
def firstSeen : List String → List String → List String
  | seen, [] => seen
  | seen, channel :: rest =>
      firstSeen (if channel ∈ seen then seen else seen ++ [channel]) rest

variable (config : Config) (tick : Tick)

/-- The channels of `_group_by_health_channel`. -/
def channels : List String :=
  firstSeen []
    ((config.children.filter fun child => tick.channel child ≠ "").map
      tick.channel)

/-- `by_channel[channel]`. -/
def group (channel : String) : List String :=
  config.children.filter fun child => tick.channel child = channel

/-- The children that are probed one by one. -/
def legacy : List String :=
  config.children.filter fun child => tick.channel child = ""

/-- The threshold of a channel. -/
def channelThreshold (channel : String) : Int :=
  ((group config tick channel).map config.threshold).min?.getD 3

/-- The children that the acknowledgement reports as crashed. -/
def crashed (report : String → Report) : List String → List String
  | [] => []
  | child :: rest =>
      match report child with
      | .broken => []
      | .dead => child :: crashed report rest
      | _ => crashed report rest

/-- A miss under a key, with a crash event for each of `victims`. -/
def miss (round : Round) (key : String) (threshold : Int)
    (victims : List String) : Round :=
  let missed := round.missed key + 1
  if threshold ≤ (missed : Int) then
    { missed := update round.missed key 0
      events := round.events ++ victims }
  else { round with missed := update round.missed key missed }

/-- `_probe_health_channel`. -/
def probeHealthChannel (round : Round) (channel : String) : Round :=
  match tick.probe channel with
  | .failed .timeout =>
      miss round channel (channelThreshold config tick channel)
        (group config tick channel)
  | .failed .error => round
  | .acked report =>
      { missed := update round.missed channel 0
        events :=
          round.events ++ crashed report (group config tick channel) }

/-- The ping of a child without a channel. -/
def pingChild (round : Round) (child : String) : Round :=
  match tick.ping child with
  | .failed .timeout => miss round child (config.threshold child) [child]
  | .failed .error => round
  | .acked _ => { round with missed := update round.missed child 0 }

/-- One round of `_heartbeat_loop`. -/
def heartbeat (missed : String → Nat) : Round :=
  if config.hasBus then
    (legacy config tick).foldl (pingChild config tick)
      ((channels config tick).foldl (probeHealthChannel config tick)
        { missed := missed })
  else { missed := missed }

/-! ## Runs -/

/-- A round that has been made. -/
structure Beat where
  tick : Tick
  events : List String

/-- The missed beats of each child, and the rounds so far. -/
structure State where
  missed : String → Nat := fun _ => 0
  /-- The rounds so far, the latest first. -/
  history : List Beat := []

/-- No beat has been missed. -/
def init : State := {}

/-- One round. -/
def step (s : State) (tick : Tick) : Option State :=
  let round := heartbeat config tick s.missed
  some
    { missed := round.missed
      history := ⟨tick, round.events⟩ :: s.history }

/-! ## What is promised of a child -/

namespace Tick

/-- The key of the counter that the child is counted under. -/
def key (tick : Tick) (child : String) : String :=
  if tick.channel child = "" then child else tick.channel child

/-- The outcome of the probe that covers the child. -/
def outcome (tick : Tick) (child : String) : Outcome :=
  if tick.channel child = "" then tick.ping child
  else tick.probe (tick.channel child)

/-- The child did not answer. -/
def unacked (tick : Tick) (child : String) : Bool :=
  match tick.outcome child with
  | .acked _ => false
  | .failed _ => true

/-- The probe of the child has timed out. -/
def timedOut (tick : Tick) (child : String) : Bool :=
  match tick.outcome child with
  | .failed .timeout => true
  | _ => false

/-- The probe was acknowledged and does not say that the child is dead. -/
def reportsAlive (tick : Tick) (child : String) : Bool :=
  match tick.outcome child with
  | .acked report => tick.channel child = "" || report child = .alive
  | .failed _ => false

end Tick

/-- The child did not answer in this round. -/
def Beat.unacked (child : String) (beat : Beat) : Bool :=
  beat.tick.unacked child

/-- The number of crash events for the child. -/
def raised (child : String) (beats : List Beat) : Nat :=
  (beats.map fun beat => beat.events.count child).sum

/-- The unacknowledged rounds at the head of a history. -/
def streak (child : String) (beats : List Beat) : List Beat :=
  beats.takeWhile (Beat.unacked child)

/--
A child that is not acknowledged is detected within its threshold, one that is
reported alive is spared, and a run of unacknowledged rounds raises no more
events than its length allows.
-/
structure Watched (child : String) (s : State) : Prop where
  detected :
    ∀ later block earlier, s.history = later ++ (block ++ earlier) →
      (∀ beat ∈ block, beat.unacked child = true) →
        block ≠ [] → config.threshold child ≤ (block.length : Int) →
          ∃ beat ∈ block, child ∈ beat.events
  spared :
    ∀ beat ∈ s.history, beat.tick.reportsAlive child = true →
      child ∉ beat.events
  bounded :
    ∀ later block earlier, s.history = later ++ (block ++ earlier) →
      (∀ beat ∈ earlier.head?, beat.unacked child = false) →
        (∀ beat ∈ block, beat.unacked child = true) →
          (raised child block : Int) ≤
            (block.length : Int) / config.threshold child

/-- No other probe of the round counts under the key of the child. -/
def sole (child : String) : Bool :=
  if tick.channel child = "" then child ∉ channels config tick
  else tick.channel child ∉ legacy config tick

/-- The threshold that a miss of the child is compared with. -/
def inForce (child : String) : Int :=
  if tick.channel child = "" then config.threshold child
  else channelThreshold config tick (tick.channel child)

/-- The run of misses goes on under its key, or begins at zero. -/
def continues (child : String) (s : State) (tick : Tick) : Bool :=
  match s.history with
  | beat :: _ =>
      if beat.unacked child then beat.tick.key child = tick.key child
      else s.missed (tick.key child) = 0
  | [] => s.missed (tick.key child) = 0

/--
An unacknowledged round is a timeout, with the threshold of the child itself
in force, under a counter of its own that it has had since the run of
unacknowledged rounds began, at zero.
-/
def steady (child : String) (s : State) (tick : Tick) : Prop :=
  config.hasBus = true ∧ 1 ≤ config.threshold child ∧
    (tick.unacked child = true →
      tick.timedOut child = true ∧
        inForce config tick child = config.threshold child ∧
        sole config tick child = true ∧
        continues child s tick = true)

instance (child : String) (s : State) (tick : Tick) :
    Decidable (steady config child s tick) := by
  unfold steady
  infer_instance

/-! ## One round -/

variable {config tick} {child key : String} {missed : String → Nat}

/-- What a loop over probes leaves alone. -/
theorem foldl_same
    {β : Type} (read : Round → β) (visit : Round → String → Round)
    {names : List String}
    (same : ∀ round, ∀ name ∈ names, read (visit round name) = read round)
    (round : Round) : read (names.foldl visit round) = read round := by
  induction names generalizing round with
  | nil => rfl
  | cons name rest ih =>
      rw [List.foldl_cons,
        ih (fun round other later =>
          same round other (List.mem_cons_of_mem _ later)),
        same round name List.mem_cons_self]

/-- A loop over probes of which one alone matters. -/
theorem foldl_one
    {β : Type} (read : Round → β) (visit : Round → String → Round)
    {names : List String} {chosen : String}
    (distinct : names.Nodup) (member : chosen ∈ names)
    (same : ∀ round, ∀ name ∈ names, name ≠ chosen →
      read (visit round name) = read round) (round : Round) :
    ∃ before, read before = read round ∧
      read (names.foldl visit round) = read (visit before chosen) := by
  rcases List.append_of_mem member with ⟨front, back, rfl⟩
  have apart := List.nodup_append.mp distinct
  refine ⟨front.foldl visit round, ?_, ?_⟩
  · refine foldl_same read visit (fun state name early => ?_) round
    refine same state name (List.mem_append_left _ early) ?_
    exact apart.2.2 name early chosen List.mem_cons_self
  · rw [List.foldl_append, List.foldl_cons]
    refine foldl_same read visit (fun state name late => ?_) _
    refine same state name
      (List.mem_append_right _ (List.mem_cons_of_mem _ late)) ?_
    rintro rfl
    exact (List.nodup_cons.mp apart.2.1).1 late

theorem mem_firstSeen
    {seen names : List String} {name : String} :
    name ∈ firstSeen seen names ↔ name ∈ seen ∨ name ∈ names := by
  induction names generalizing seen with
  | nil => simp [firstSeen]
  | cons first rest ih =>
      rw [firstSeen, ih, List.mem_cons]
      split
      · rename_i known
        constructor
        · exact fun either => either.imp_right .inr
        · rintro (old | rfl | later)
          · exact .inl old
          · exact .inl known
          · exact .inr later
      · rw [List.mem_append, List.mem_singleton, or_assoc]

theorem nodup_firstSeen
    {seen : List String} (distinct : seen.Nodup) (names : List String) :
    (firstSeen seen names).Nodup := by
  induction names generalizing seen with
  | nil => exact distinct
  | cons first rest ih =>
      rw [firstSeen]
      split
      · exact ih distinct
      · rename_i new
        refine ih (List.nodup_append.mpr
          ⟨distinct, List.nodup_singleton _, ?_⟩)
        intro name old other single
        cases List.mem_singleton.mp single
        rintro rfl
        exact new old

theorem nodup_channels (config : Config) (tick : Tick) :
    (channels config tick).Nodup :=
  nodup_firstSeen List.nodup_nil _

theorem mem_channels_iff {channel : String} :
    channel ∈ channels config tick ↔
      ∃ other ∈ config.children,
        tick.channel other ≠ "" ∧ tick.channel other = channel := by
  simp [channels, mem_firstSeen, and_assoc]

theorem mem_group_iff {channel : String} :
    child ∈ group config tick channel ↔
      child ∈ config.children ∧ tick.channel child = channel := by
  simp [group]

theorem mem_legacy_iff :
    child ∈ legacy config tick ↔
      child ∈ config.children ∧ tick.channel child = "" := by
  simp [legacy]

theorem count_group
    (hosted : child ∈ config.children) :
    (group config tick (tick.channel child)).count child = 1 := by
  unfold group
  rw [List.count_filter (by simp)]
  exact List.count_eq_one_of_mem config.distinct hosted

theorem mem_of_crashed
    {report : String → Report} {names : List String}
    (member : child ∈ crashed report names) :
    child ∈ names ∧ report child = .dead := by
  induction names with
  | nil => cases member
  | cons first rest ih =>
      unfold crashed at member
      split at member
      · cases member
      · rename_i dead
        rcases List.mem_cons.mp member with rfl | later
        · exact ⟨List.mem_cons_self, dead⟩
        · exact ⟨List.mem_cons_of_mem _ (ih later).1, (ih later).2⟩
      · exact ⟨List.mem_cons_of_mem _ (ih member).1, (ih member).2⟩

/-- The probe of a channel raises nothing for a child that is not on it. -/
theorem count_probe
    {round : Round} {channel : String}
    (elsewhere : tick.channel child ≠ channel) :
    (probeHealthChannel config tick round channel).events.count child =
      round.events.count child := by
  have absent : child ∉ group config tick channel :=
    fun member => elsewhere (mem_group_iff.mp member).2
  unfold probeHealthChannel
  split
  · unfold miss
    simp only
    split
    · rw [List.count_append, List.count_eq_zero.mpr absent, Nat.add_zero]
    · rfl
  · rfl
  · rename_i report _
    have none : child ∉ crashed report (group config tick channel) :=
      fun member => absent (mem_of_crashed member).1
    rw [List.count_append, List.count_eq_zero.mpr none, Nat.add_zero]

theorem missed_probe
    {round : Round} {channel : String} (other : key ≠ channel) :
    (probeHealthChannel config tick round channel).missed key =
      round.missed key := by
  unfold probeHealthChannel
  split
  · unfold miss
    simp only
    split <;> exact Function.update_of_ne other _ _
  · rfl
  · exact Function.update_of_ne other _ _

theorem count_ping
    {round : Round} {name : String} (other : child ≠ name) :
    (pingChild config tick round name).events.count child =
      round.events.count child := by
  unfold pingChild
  split
  · unfold miss
    simp only
    split
    · have none : child ∉ [name] := by simpa using other
      rw [List.count_append, List.count_eq_zero.mpr none, Nat.add_zero]
    · rfl
  · rfl
  · rfl

theorem missed_ping
    {round : Round} {name : String} (other : key ≠ name) :
    (pingChild config tick round name).missed key = round.missed key := by
  unfold pingChild
  split
  · unfold miss
    simp only
    split <;> exact Function.update_of_ne other _ _
  · rfl
  · exact Function.update_of_ne other _ _

/-- The loop over the pings does not concern a child with a channel. -/
theorem count_pings
    (hosted : tick.channel child ≠ "") (round : Round) :
    ((legacy config tick).foldl (pingChild config tick) round).events.count
        child = round.events.count child := by
  refine foldl_same (fun round => round.events.count child) _ ?_ round
  intro state name member
  refine count_ping ?_
  rintro rfl
  exact hosted (mem_legacy_iff.mp member).2

theorem count_probes
    (without : tick.channel child = "") (round : Round) :
    ((channels config tick).foldl (probeHealthChannel config tick)
        round).events.count child = round.events.count child := by
  refine foldl_same (fun round => round.events.count child) _ ?_ round
  intro state channel member
  refine count_probe ?_
  rcases mem_channels_iff.mp member with ⟨_, _, named, same⟩
  rw [without]
  rintro rfl
  exact named same

/-- A child that is reported alive gets no crash event. -/
theorem heartbeat_spares
    (hosted : child ∈ config.children)
    (alive : tick.reportsAlive child = true) :
    child ∉ (heartbeat config tick missed).events := by
  apply List.count_eq_zero.mp
  unfold heartbeat
  split
  · by_cases without : tick.channel child = ""
    · rcases foldl_one (fun round => round.events.count child)
          (pingChild config tick) (config.distinct.filter _)
          (mem_legacy_iff.mpr ⟨hosted, without⟩)
          (fun state name _ other => count_ping (Ne.symm other))
          ((channels config tick).foldl (probeHealthChannel config tick)
            { missed := missed }) with ⟨before, nothing, final⟩
      refine final.trans ?_
      rw [count_probes without] at nothing
      unfold Tick.reportsAlive Tick.outcome at alive
      rw [if_pos without] at alive
      unfold pingChild
      cases answer : tick.ping child with
      | acked report => exact nothing
      | failed why => simp [answer] at alive
    · rw [count_pings without]
      have member : tick.channel child ∈ channels config tick :=
        mem_channels_iff.mpr ⟨child, hosted, without, rfl⟩
      rcases foldl_one (fun round => round.events.count child)
          (probeHealthChannel config tick) (nodup_channels config tick)
          member
          (fun state name _ other => count_probe (Ne.symm other))
          { missed := missed } with ⟨before, nothing, final⟩
      refine final.trans ?_
      unfold Tick.reportsAlive Tick.outcome at alive
      rw [if_neg without] at alive
      unfold probeHealthChannel
      cases answer : tick.probe (tick.channel child) with
      | failed why => simp [answer] at alive
      | acked report =>
          have living : report child = .alive := by
            simpa [answer, without] using alive
          have none : child ∉ crashed report
              (group config tick (tick.channel child)) := by
            intro member
            have dead := (mem_of_crashed member).2
            rw [living] at dead
            cases dead
          simp only [List.count_append, List.count_eq_zero.mpr none]
          exact nothing
  · rfl

/-- What the counter of the child is after a miss. -/
def counted (threshold : Int) (before : Nat) : Nat :=
  if threshold ≤ ((before + 1 : Nat) : Int) then 0 else before + 1

/-- How many events a miss raises for the child. -/
def charged (threshold : Int) (before : Nat) : Nat :=
  if threshold ≤ ((before + 1 : Nat) : Int) then 1 else 0

theorem miss_own
    (round : Round) (key : String) (threshold : Int)
    {victims : List String} (once : victims.count child = 1) :
    (miss round key threshold victims).missed key =
        counted threshold (round.missed key) ∧
      (miss round key threshold victims).events.count child =
        round.events.count child +
          charged threshold (round.missed key) := by
  unfold miss counted charged
  simp only
  split
  · rw [List.count_append, once]
    exact ⟨Function.update_self _ _ _, rfl⟩
  · exact ⟨Function.update_self _ _ _, rfl⟩

/-- A timeout under a counter of its own. -/
theorem heartbeat_timeout
    (missed : String → Nat) (hosted : child ∈ config.children)
    (bus : config.hasBus = true)
    (timeout : tick.timedOut child = true)
    (alone : sole config tick child = true) :
    (heartbeat config tick missed).missed (tick.key child) =
        counted (inForce config tick child) (missed (tick.key child)) ∧
      (heartbeat config tick missed).events.count child =
        charged (inForce config tick child) (missed (tick.key child)) := by
  unfold heartbeat
  rw [if_pos bus]
  unfold Tick.timedOut Tick.outcome at timeout
  unfold sole at alone
  by_cases without : tick.channel child = ""
  · have own : tick.key child = child := if_pos without
    rw [if_pos without] at timeout alone
    have free : child ∉ channels config tick := of_decide_eq_true alone
    have probes := foldl_same
      (fun round => (round.missed child, round.events.count child))
      (probeHealthChannel config tick)
      (by
        intro state channel (member : channel ∈ channels config tick)
        have other : child ≠ channel := by
          rintro rfl
          exact free member
        refine Prod.ext (missed_probe other) (count_probe ?_)
        rcases mem_channels_iff.mp member with ⟨_, _, named, same⟩
        rw [without]
        rintro rfl
        exact named same)
      { missed := missed }
    rcases foldl_one
        (fun round => (round.missed child, round.events.count child))
        (pingChild config tick) (config.distinct.filter _)
        (mem_legacy_iff.mpr ⟨hosted, without⟩)
        (fun state name _ other => Prod.ext (missed_ping (Ne.symm other))
          (count_ping (Ne.symm other)))
        ((channels config tick).foldl (probeHealthChannel config tick)
          { missed := missed }) with ⟨before, same, final⟩
    have start := Prod.ext_iff.mp (same.trans probes)
    have finish := Prod.ext_iff.mp final
    have force : inForce config tick child = config.threshold child :=
      if_pos without
    have visit : pingChild config tick before child =
        miss before child (config.threshold child) [child] := by
      unfold pingChild
      cases answer : tick.ping child with
      | acked report => simp [answer] at timeout
      | failed why =>
          cases why with
          | timeout => rfl
          | error => simp [answer] at timeout
    have once : [child].count child = 1 := by simp
    have result := miss_own before child (config.threshold child) once
    rw [own, force]
    simp only [visit] at finish
    simp only at start
    rw [start.1, start.2] at result
    refine ⟨finish.1.trans result.1, finish.2.trans ?_⟩
    simpa using result.2
  · have own : tick.key child = tick.channel child := if_neg without
    rw [if_neg without] at timeout alone
    have free : tick.channel child ∉ legacy config tick :=
      of_decide_eq_true alone
    have member : tick.channel child ∈ channels config tick :=
      mem_channels_iff.mpr ⟨child, hosted, without, rfl⟩
    rcases foldl_one
        (fun round =>
          (round.missed (tick.channel child), round.events.count child))
        (probeHealthChannel config tick) (nodup_channels config tick) member
        (fun state name _ other => Prod.ext (missed_probe (Ne.symm other))
          (count_probe (Ne.symm other)))
        { missed := missed } with ⟨before, same, probed⟩
    have pings := foldl_same
      (fun round =>
        (round.missed (tick.channel child), round.events.count child))
      (pingChild config tick)
      (by
        intro state name (among : name ∈ legacy config tick)
        refine Prod.ext (missed_ping ?_) (count_ping ?_)
        · rintro rfl
          exact free among
        · rintro rfl
          exact without (mem_legacy_iff.mp among).2)
      ((channels config tick).foldl (probeHealthChannel config tick)
        { missed := missed })
    have start := Prod.ext_iff.mp same
    have finish := Prod.ext_iff.mp (pings.trans probed)
    have force : inForce config tick child =
        channelThreshold config tick (tick.channel child) :=
      if_neg without
    have visit : probeHealthChannel config tick before
          (tick.channel child) =
        miss before (tick.channel child)
          (channelThreshold config tick (tick.channel child))
          (group config tick (tick.channel child)) := by
      unfold probeHealthChannel
      cases answer : tick.probe (tick.channel child) with
      | acked report => simp [answer] at timeout
      | failed why =>
          cases why with
          | timeout => rfl
          | error => simp [answer] at timeout
    have once : (group config tick (tick.channel child)).count child = 1 :=
      count_group hosted
    have result := miss_own before (tick.channel child)
      (channelThreshold config tick (tick.channel child)) once
    rw [own, force]
    simp only [visit] at finish
    simp only at start
    rw [start.1, start.2] at result
    refine ⟨finish.1.trans result.1, finish.2.trans ?_⟩
    simpa using result.2

/-! ## Counting over a run -/

/-- A counter that starts again at its limit counts modulo the limit. -/
theorem miss_div_mod
    {limit : Nat} (count : Nat) (positive : 1 ≤ limit) :
    counted limit (count % limit) = (count + 1) % limit ∧
      charged limit (count % limit) + count / limit =
        (count + 1) / limit := by
  have below : count % limit < limit := Nat.mod_lt _ positive
  have split := Nat.div_add_mod count limit
  unfold counted charged
  by_cases full : limit ≤ count % limit + 1
  · rw [if_pos (by exact_mod_cast full), if_pos (by exact_mod_cast full)]
    have next : count + 1 = limit * (count / limit + 1) := by
      rw [Nat.mul_add]
      omega
    rw [next, Nat.mul_mod_right, Nat.mul_div_cancel_left _ positive]
    exact ⟨rfl, Nat.add_comm _ _⟩
  · rw [if_neg (by exact_mod_cast full), if_neg (by exact_mod_cast full)]
    have small : count % limit + 1 < limit := by omega
    have next :
        count + 1 = limit * (count / limit) + (count % limit + 1) := by
      omega
    constructor
    · rw [Nat.add_mod, Nat.mod_eq_of_lt (show 1 < limit by omega),
        Nat.mod_eq_of_lt small]
    · calc
        0 + count / limit =
            count / limit + (count % limit + 1) / limit := by
          rw [Nat.div_eq_of_lt small, Nat.zero_add, Nat.add_zero]
        _ = (limit * (count / limit) + (count % limit + 1)) / limit := by
          rw [Nat.mul_add_div positive]
        _ = (count + 1) / limit := by rw [← next]

/-- The limit of the child as a number of rounds. -/
def Config.limit (config : Config) (child : String) : Nat :=
  (config.threshold child).toNat

/-- Events and counter of the child follow the length of its run of misses. -/
structure Counted
    (config : Config) (child : String) (s : State) : Prop where
  events :
    ∀ later rest, s.history = later ++ rest →
      raised child (streak child rest) =
        (streak child rest).length / config.limit child
  counter :
    ∀ beat rest, s.history = beat :: rest → beat.unacked child = true →
      s.missed (beat.tick.key child) =
        (streak child s.history).length % config.limit child

theorem counted_init (config : Config) (child : String) :
    Counted config child init := by
  refine ⟨?_, by rintro _ _ ⟨⟩⟩
  intro later rest whole
  rw [(List.append_eq_nil_iff.mp whole.symm).2]
  exact (Nat.zero_div _).symm

variable {s t : State}

/-- The counter before a miss that continues the run. -/
theorem Counted.before
    (invariant : Counted config child s)
    (goes : continues child s tick = true) :
    s.missed (tick.key child) =
      (streak child s.history).length % config.limit child := by
  unfold continues at goes
  split at goes
  · rename_i beat rest whole
    split at goes
    · rename_i unacked
      rw [← of_decide_eq_true goes]
      exact invariant.counter beat rest whole unacked
    · rename_i acked
      rw [of_decide_eq_true goes, whole, streak,
        List.takeWhile_cons_of_neg acked]
      rfl
  · rename_i whole
    rw [of_decide_eq_true goes, whole]
    rfl

theorem Counted.step
    (hosted : child ∈ config.children)
    (invariant : Counted config child s)
    (permitted : steady config child s tick)
    (stepped : step config s tick = some t) : Counted config child t := by
  cases stepped
  rcases permitted with ⟨bus, positive, missing⟩
  cases unacked : tick.unacked child with
  | false =>
      have acked : ¬ Beat.unacked child
          ⟨tick, (heartbeat config tick s.missed).events⟩ = true := by
        rw [Beat.unacked, unacked]
        exact Bool.false_ne_true
      constructor
      · intro later rest whole
        cases later with
        | nil =>
            cases whole
            rw [streak, List.takeWhile_cons_of_neg acked]
            exact (Nat.zero_div _).symm
        | cons beat later =>
            exact invariant.events later rest (List.cons.inj whole).2
      · intro beat rest whole missed
        cases whole
        exact absurd missed acked
  | true =>
      rcases missing unacked with ⟨timeout, force, alone, goes⟩
      have known :
          ((config.limit child : Nat) : Int) = config.threshold child :=
        Int.toNat_of_nonneg (by omega)
      have limit : 1 ≤ config.limit child := by omega
      have before := invariant.before goes
      have effect := heartbeat_timeout s.missed hosted bus timeout alone
      rw [force, before, ← known] at effect
      have arithmetic :=
        miss_div_mod (streak child s.history).length limit
      have grown : ∀ events, streak child (⟨tick, events⟩ :: s.history) =
          ⟨tick, events⟩ :: streak child s.history := by
        intro events
        exact List.takeWhile_cons_of_pos unacked
      constructor
      · intro later rest whole
        cases later with
        | nil =>
            cases whole
            have settled := invariant.events [] s.history rfl
            rw [grown, raised, List.map_cons, List.sum_cons, effect.2,
              List.length_cons, ← arithmetic.2]
            exact congrArg _ settled
        | cons beat later =>
            exact invariant.events later rest (List.cons.inj whole).2
      · intro beat rest whole _
        cases whole
        rw [grown, List.length_cons, ← arithmetic.1]
        exact effect.1

/-- Every round spares the children that it hears to be alive. -/
theorem spared_in_every_run
    (hosted : child ∈ config.children)
    {permits : State → Tick → Prop}
    (run : Reaches (step config) permits init s) :
    ∀ beat ∈ s.history, beat.tick.reportsAlive child = true →
      child ∉ beat.events := by
  induction run with
  | start => rintro _ ⟨⟩
  | step _ _ stepped ih =>
      cases stepped
      intro beat member alive
      rcases List.mem_cons.mp member with rfl | earlier
      · exact heartbeat_spares hosted alive
      · exact ih beat earlier alive

theorem streak_append
    {block earlier : List Beat}
    (unacked : ∀ beat ∈ block, beat.unacked child = true) :
    streak child (block ++ earlier) = block ++ streak child earlier :=
  List.takeWhile_append_of_pos unacked

theorem raised_append (child : String) (left right : List Beat) :
    raised child (left ++ right) = raised child left + raised child right := by
  simp [raised]

theorem exists_event_of_raised
    {block : List Beat} (some : 0 < raised child block) :
    ∃ beat ∈ block, child ∈ beat.events := by
  by_contra none
  have zero : raised child block = 0 := by
    apply List.sum_eq_zero
    intro count member
    rcases List.mem_map.mp member with ⟨beat, among, rfl⟩
    exact List.count_eq_zero.mpr fun event => none ⟨beat, among, event⟩
  omega

/-- `limit` rounds without an acknowledgement contain an event. -/
theorem Counted.detects
    (invariant : Counted config child s) (positive : 1 ≤ config.limit child)
    {later block earlier : List Beat}
    (whole : s.history = later ++ (block ++ earlier))
    (unacked : ∀ beat ∈ block, beat.unacked child = true)
    (long : config.limit child ≤ block.length) :
    ∃ beat ∈ block, child ∈ beat.events := by
  have after := invariant.events later (block ++ earlier) whole
  have before := invariant.events (later ++ block) earlier
    (by rw [whole, List.append_assoc])
  rw [streak_append unacked, raised_append, List.length_append,
    before] at after
  have more :
      (config.limit child + (streak child earlier).length) /
          config.limit child ≤
        (block.length + (streak child earlier).length) /
          config.limit child :=
    Nat.div_le_div_right (Nat.add_le_add_right long _)
  rw [Nat.add_div_left _ positive] at more
  exact exists_event_of_raised (by omega)

theorem Counted.bounds
    (invariant : Counted config child s)
    {later block earlier : List Beat}
    (whole : s.history = later ++ (block ++ earlier))
    (fresh : ∀ beat ∈ earlier.head?, beat.unacked child = false)
    (unacked : ∀ beat ∈ block, beat.unacked child = true) :
    raised child block = block.length / config.limit child := by
  have count := invariant.events later (block ++ earlier) whole
  have none : streak child earlier = [] := by
    cases earlier with
    | nil => rfl
    | cons beat rest =>
        apply List.takeWhile_cons_of_neg
        rw [fresh beat rfl]
        exact Bool.false_ne_true
  rw [streak_append unacked, none, List.append_nil] at count
  exact count

/--
In every run of rounds that are steady for a remote child, the child is
detected within its threshold, spared when it is reported alive, and charged
no more often than its misses allow.
-/
theorem watched_of_steady
    (config : Config) (child : String) (hosted : child ∈ config.children)
    (run : Reaches (step config) (steady config child) init s) :
    Watched config child s := by
  have invariant : Counted config child s :=
    run.invariant (counted_init config child)
      fun _ _ _ kept permitted stepped =>
        kept.step hosted permitted stepped
  have spared := spared_in_every_run hosted run
  cases run with
  | start =>
      have nothing : ∀ later block earlier : List Beat,
          init.history = later ++ (block ++ earlier) → block = [] := by
        intro later block earlier whole
        have empty := List.append_eq_nil_iff.mp whole.symm
        exact (List.append_eq_nil_iff.mp empty.2).1
      refine ⟨?_, spared, ?_⟩
      · intro later block earlier whole _ some _
        exact absurd (nothing later block earlier whole) some
      · intro later block earlier whole _ _
        rw [nothing later block earlier whole]
        simp [raised]
  | step earlier permitted stepped =>
      have positive := permitted.2.1
      have known :
          ((config.limit child : Nat) : Int) = config.threshold child :=
        Int.toNat_of_nonneg (by omega)
      have limit : 1 ≤ config.limit child := by omega
      refine ⟨?_, spared, ?_⟩
      · intro later block earlier whole unacked _ long
        exact invariant.detects limit whole unacked (by omega)
      · intro later block earlier whole fresh unacked
        rw [invariant.bounds whole fresh unacked, ← known]
        exact Int.le_of_eq (Int.natCast_div _ _)

/-- One remote child that is pinged, with the default threshold. -/
def onePinged : Config where
  children := ["remote"]
  distinct := List.nodup_singleton _
  threshold := fun _ => 3
  hasBus := true

/-- A round in which the child has no health channel. -/
def pinged (answer : Outcome) : Tick where
  channel := fun _ => ""
  probe := fun _ => .failed .error
  ping := fun _ => answer

/-- Three timeouts after an acknowledgement: one event. -/
theorem three_timeouts_watched :
    "remote" ∈ onePinged.children ∧
      ∃ s, Reaches (step onePinged) (steady onePinged "remote") init s ∧
        Watched onePinged "remote" s ∧ raised "remote" s.history = 1 := by
  have ran :
      ((runWhere (step onePinged) (steady onePinged "remote") init
        [pinged (.acked fun _ => .absent), pinged (.failed .timeout),
          pinged (.failed .timeout), pinged (.failed .timeout)]).map
        fun s => raised "remote" s.history) = some 1 := by
    decide +kernel
  rcases exists_reaches_of_run ran with ⟨s, run, seen⟩
  have hosted : "remote" ∈ onePinged.children := by decide
  exact ⟨hosted, s, run, watched_of_steady onePinged "remote" hosted run,
    seen⟩

/-- Three rounds with a routing error pass without an event. -/
theorem routing_errors_unnoticed :
    ¬ ∀ (config : Config) (child : String) (s : State),
      child ∈ config.children →
        Reaches (step config) (fun _ _ => True) init s →
          Watched config child s := by
  intro claim
  have ran :
      ((runWhere (step onePinged) (fun _ _ => True) init
        [pinged (.failed .error), pinged (.failed .error),
          pinged (.failed .error)]).map fun s =>
        decide (s.history.length = 3 ∧ ∀ beat ∈ s.history,
          beat.unacked "remote" = true ∧ beat.events = [])) =
        some true := by
    decide +kernel
  rcases exists_reaches_of_run ran with ⟨s, run, seen⟩
  rcases of_decide_eq_true seen with ⟨length, quiet⟩
  have watched := claim onePinged "remote" s (by decide) run
  rcases watched.detected [] s.history [] (by simp)
      (fun beat member => (quiet beat member).1)
      (by rintro none; rw [none] at length; cases length)
      (by rw [length]; decide) with ⟨beat, member, event⟩
  rw [(quiet beat member).2] at event
  cases event

end Civitas.Supervision.Heartbeats
