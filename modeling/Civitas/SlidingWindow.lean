import Mathlib.Algebra.Order.Ring.Int
import Mathlib.Data.List.Induction

/-!
# Sliding windows

A limiter remembers the times at which it granted something, and grants again
when fewer than a limit of them still count.  What has ceased to count is
forgotten whenever it is asked.

A `Window` says which earlier times count at a given time, and that what counts
later counts now.  Because of that, forgetting loses nothing: at any later time
the remembered times and all granted times count alike.  No set of times of
which the later count the earlier holds more grants than the limit.
-/

namespace Civitas.SlidingWindow

variable {Time : Type*} [LinearOrder Time]

/-- Which earlier times count at a given time. -/
structure Window (Time : Type*) [LinearOrder Time] where
  counts : Time → Time → Bool
  antitone : ∀ {now later earlier},
    now ≤ later → counts later earlier = true → counts now earlier = true

variable (window : Window Time) (limit : Int)

/-- The remembered times that still count. -/
def Window.prune (now : Time) (kept : List Time) : List Time :=
  kept.filter (window.counts now)

/-- There is room for another grant. -/
def Window.admits (now : Time) (kept : List Time) : Bool :=
  ((window.prune now kept).length : Int) < limit

/-- What is remembered after a request. -/
def Window.request (now : Time) (kept : List Time) : List Time :=
  if window.admits limit now kept
  then window.prune now kept ++ [now]
  else window.prune now kept

/-- All times granted, after a request. -/
def Window.grant
    (now : Time) (kept granted : List Time) : List Time :=
  if window.admits limit now kept then granted ++ [now] else granted

variable {window limit}

theorem Window.prune_append
    (now : Time) (first second : List Time) :
    window.prune now (first ++ second) =
      window.prune now first ++ window.prune now second :=
  List.filter_append first second

/-- What counts later is found among what counts now. -/
theorem Window.prune_prune
    {now later : Time} (order : now ≤ later) (kept : List Time) :
    window.prune later (window.prune now kept) = window.prune later kept := by
  unfold Window.prune
  rw [List.filter_filter]
  apply List.filter_congr
  intro time _
  cases counted : window.counts later time with
  | false => rfl
  | true => rw [window.antitone order counted, Bool.and_self]

/-! ## Forgetting loses nothing -/

/-- From a time on, two lists of times count alike. -/
def Window.Agree
    (window : Window Time) (since : Time) (kept granted : List Time) : Prop :=
  ∀ later, since ≤ later →
    window.prune later kept = window.prune later granted

theorem Window.Agree.refl (since : Time) (times : List Time) :
    window.Agree since times times :=
  fun _ _ => rfl

theorem Window.Agree.mono
    {since later : Time} {kept granted : List Time}
    (agree : window.Agree since kept granted) (order : since ≤ later) :
    window.Agree later kept granted :=
  fun time after => agree time (order.trans after)

theorem Window.Agree.trans
    {since : Time} {first second third : List Time}
    (left : window.Agree since first second)
    (right : window.Agree since second third) :
    window.Agree since first third :=
  fun later order => (left later order).trans (right later order)

/-- What is forgotten at a time never counts again. -/
theorem Window.agree_prune (now : Time) (kept : List Time) :
    window.Agree now (window.prune now kept) kept :=
  fun _ order => window.prune_prune order kept

theorem Window.Agree.append
    {since : Time} {kept granted : List Time}
    (agree : window.Agree since kept granted) (times : List Time) :
    window.Agree since (kept ++ times) (granted ++ times) := by
  intro later order
  rw [Window.prune_append, Window.prune_append, agree later order]

theorem Window.Agree.admits_eq
    {since now : Time} {kept granted : List Time}
    (agree : window.Agree since kept granted) (order : since ≤ now) :
    window.admits limit now kept = window.admits limit now granted := by
  unfold Window.admits
  rw [agree now order]

/-- A request answered from memory is answered from all that was granted. -/
theorem Window.Agree.request
    {since now : Time} {kept granted : List Time}
    (agree : window.Agree since kept granted) (order : since ≤ now) :
    window.Agree now (window.request limit now kept)
      (window.grant limit now kept granted) := by
  have pruned : window.Agree now (window.prune now kept) granted :=
    (window.agree_prune now kept).trans (agree.mono order)
  unfold Window.request Window.grant
  split
  · exact pruned.append [now]
  · exact pruned

/-- A request that is refused changes nothing that counts. -/
theorem Window.agree_request_of_refused
    {now : Time} {kept : List Time}
    (refused : window.admits limit now kept = false) :
    window.Agree now (window.request limit now kept) kept := by
  unfold Window.request
  rw [refused]
  exact window.agree_prune now kept

/-! ## The number of grants -/

/-- Every grant found room among the grants before it. -/
def Window.Orderly
    (window : Window Time) (limit : Int) (granted : List Time) : Prop :=
  ∀ earlier now later, granted = earlier ++ now :: later →
    (∀ time ∈ earlier, time ≤ now) ∧
      window.admits limit now earlier = true

theorem Window.Orderly.nil : window.Orderly limit [] := by
  intro earlier now later split
  simp at split

theorem Window.Orderly.grant
    {since now : Time} {kept granted : List Time}
    (orderly : window.Orderly limit granted)
    (past : ∀ time ∈ granted, time ≤ now)
    (agree : window.Agree since kept granted) (order : since ≤ now) :
    window.Orderly limit (window.grant limit now kept granted) := by
  unfold Window.grant
  split
  · rename_i admitted
    intro earlier time later split
    rcases List.append_eq_append_iff.mp split with
      ⟨middle, first, second⟩ | ⟨middle, first, second⟩
    · cases middle with
      | nil =>
          rw [List.append_nil] at first
          rcases List.cons.inj second with ⟨same, -⟩
          rw [first, ← same]
          exact ⟨past, by rw [← agree.admits_eq order, admitted]⟩
      | cons head tail => simp at second
    · cases middle with
      | nil =>
          rw [List.append_nil] at first
          rcases List.cons.inj second with ⟨same, -⟩
          rw [← first, same]
          exact ⟨past, by rw [← agree.admits_eq order, admitted]⟩
      | cons head tail =>
          rcases List.cons.inj second with ⟨same, -⟩
          rw [← same] at first
          exact orderly earlier time tail first
  · exact orderly

/-- Fewer grants leave more room. -/
theorem Window.Orderly.sublist
    {fewer granted : List Time}
    (orderly : window.Orderly limit granted)
    (sublist : fewer.Sublist granted) :
    window.Orderly limit fewer := by
  intro earlier now later split
  rw [split] at sublist
  rcases List.append_sublist_iff.mp sublist with
    ⟨first, second, parts, before, after⟩
  rcases List.append_of_mem (after.subset List.mem_cons_self) with
    ⟨middle, rest, last⟩
  have whole : granted = (first ++ middle) ++ now :: rest := by
    rw [parts, last, List.append_assoc]
  have among : earlier.Sublist (first ++ middle) :=
    before.trans (List.sublist_append_left first middle)
  rcases orderly _ _ _ whole with ⟨past, admitted⟩
  have room : ((window.prune now (first ++ middle)).length : Int) < limit :=
    of_decide_eq_true admitted
  have fewer : (window.prune now earlier).length ≤
      (window.prune now (first ++ middle)).length :=
    (among.filter (window.counts now)).length_le
  refine ⟨fun time member => past time (among.subset member), ?_⟩
  exact decide_eq_true (by omega)

/-- Of the times of a span, the later count the earlier. -/
def Window.Spans (window : Window Time) (span : Time → Bool) : Prop :=
  ∀ earlier later, span earlier = true → span later = true →
    earlier ≤ later → window.counts later earlier = true

/-- A span holds no more grants than the limit. -/
theorem Window.Orderly.count_le
    {granted : List Time} {span : Time → Bool}
    (orderly : window.Orderly limit granted) (spans : window.Spans span) :
    ((granted.countP span : Nat) : Int) ≤ max 0 limit := by
  induction granted using List.reverseRecOn with
  | nil => exact le_max_left 0 limit
  | append_singleton earlier now ih =>
      rcases orderly earlier now [] rfl with ⟨past, admitted⟩
      by_cases last : span now = true
      · have counted :
            earlier.countP span ≤ (window.prune now earlier).length := by
          unfold Window.prune
          rw [← List.countP_eq_length_filter]
          apply List.countP_mono_left
          intro time member inside
          exact spans time now inside last (past time member)
        have room : ((window.prune now earlier).length : Int) < limit :=
          of_decide_eq_true admitted
        rw [List.countP_append, List.countP_singleton, if_pos last]
        omega
      · rw [List.countP_append, List.countP_singleton, if_neg last]
        apply ih
        intro before time later split
        exact orderly before time (later ++ [now]) (by rw [split]; simp)

end Civitas.SlidingWindow
