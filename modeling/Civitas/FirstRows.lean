import Mathlib.Data.List.Sort

/-!
# The first rows of a table

A table is read in the order of a key and cut after its first rows.  Rows with
equal keys may come in any order.  The table decides which rows are read
unless the cut falls between two different rows with equal keys.
-/

namespace Civitas.FirstRows

variable {α K : Type*} [LinearOrder K] {key : α → K}

/-- The rows in the order of their keys, equal keys in any order. -/
structure Arranged (key : α → K) (rows arranged : List α) : Prop where
  perm : arranged.Perm rows
  sorted : arranged.Pairwise fun first second => key first ≤ key second

theorem mergeSort_arranged (key : α → K) (rows : List α) :
    Arranged key rows
      (rows.mergeSort fun first second => key first ≤ key second) where
  perm := List.mergeSort_perm rows _
  sorted := by
    have sorted :=
      @List.pairwise_mergeSort α
        (fun first second => decide (key first ≤ key second))
        (fun first second third => by simpa using le_trans)
        (fun first second => by simpa using le_total _ _) rows
    exact sorted.imp fun ordered => of_decide_eq_true ordered

theorem Arranged.of_perm
    {rows others arranged : List α} (same : rows.Perm others)
    (rowsArranged : Arranged key rows arranged) :
    Arranged key others arranged :=
  ⟨rowsArranged.perm.trans same, rowsArranged.sorted⟩

/-! ## The rows around a key -/

/-- The rows whose key is below a bound. -/
def before (key : α → K) (bound : K) (rows : List α) : List α :=
  rows.filter fun row => key row < bound

/-- The rows whose key is the bound. -/
def level (key : α → K) (bound : K) (rows : List α) : List α :=
  rows.filter fun row => key row = bound

/-- The rows whose key is above a bound. -/
def beyond (key : α → K) (bound : K) (rows : List α) : List α :=
  rows.filter fun row => bound < key row

/-- Sorted rows come before, at and after a key. -/
theorem sorted_split
    (bound : K) {rows : List α}
    (sorted : rows.Pairwise fun first second => key first ≤ key second) :
    rows = before key bound rows ++
      (level key bound rows ++ beyond key bound rows) := by
  induction rows with
  | nil => rfl
  | cons row rest ih =>
      rw [List.pairwise_cons] at sorted
      have later := ih sorted.2
      unfold before level beyond at later ⊢
      rcases lt_trichotomy (key row) bound with low | same | high
      · rw [List.filter_cons_of_pos (by simpa using low),
          List.filter_cons_of_neg (by simpa using low.ne),
          List.filter_cons_of_neg (by simpa using low.le), List.cons_append,
          ← later]
      · have none_before : before key bound rest = [] := by
          rw [before, List.filter_eq_nil_iff]
          intro other member
          simpa [← same] using sorted.1 other member
        rw [before] at none_before
        rw [List.filter_cons_of_neg (by simp [same]),
          List.filter_cons_of_pos (by simpa using same),
          List.filter_cons_of_neg (by simp [same])]
        rw [none_before, List.nil_append] at later ⊢
        rw [List.cons_append, ← later]
      · have none_before : before key bound rest = [] := by
          rw [before, List.filter_eq_nil_iff]
          intro other member
          simpa using high.le.trans (sorted.1 other member)
        have none_level : level key bound rest = [] := by
          rw [level, List.filter_eq_nil_iff]
          intro other member
          simpa using (high.trans_le (sorted.1 other member)).ne'
        rw [before] at none_before
        rw [level] at none_level
        rw [List.filter_cons_of_neg (by simpa using high.le),
          List.filter_cons_of_neg (by simpa using high.ne'),
          List.filter_cons_of_pos (by simpa using high)]
        rw [none_before, none_level, List.nil_append, List.nil_append]
          at later ⊢
        rw [← later]

section Counting

variable [DecidableEq α]

theorem count_before (row : α) (rows : List α) :
    (before key (key row) rows).count row = 0 := by
  simp [List.count_eq_zero, before]

theorem count_beyond (row : α) (rows : List α) :
    (beyond key (key row) rows).count row = 0 := by
  simp [List.count_eq_zero, beyond]

theorem count_level (row : α) (rows : List α) :
    (level key (key row) rows).count row = rows.count row := by
  rw [level, List.count_filter]
  simp

/-- How often a row is read: its key leaves it so many places. -/
theorem count_take
    (row : α) (limit : Nat) {rows arranged : List α}
    (rowsArranged : Arranged key rows arranged) :
    (arranged.take limit).count row =
      ((level key (key row) arranged).take
        (limit - (before key (key row) rows).length)).count row := by
  have places : (before key (key row) arranged).length =
      (before key (key row) rows).length :=
    (rowsArranged.perm.filter _).length_eq
  have front : ((before key (key row) arranged).take limit).count row = 0 :=
    Nat.le_zero.mp
      ((List.take_sublist ..).count_le row |>.trans (count_before ..).le)
  have back (number : Nat) :
      ((beyond key (key row) arranged).take number).count row = 0 :=
    Nat.le_zero.mp
      ((List.take_sublist ..).count_le row |>.trans (count_beyond ..).le)
  conv_lhs => rw [sorted_split (key row) rowsArranged.sorted]
  rw [List.take_append, List.take_append, List.count_append,
    List.count_append, front, back, places, Nat.zero_add, Nat.add_zero]

/-- Beside a row there is room for another one with its key. -/
theorem count_lt_level
    {row twin : α} {rows : List α} (other : twin ∈ rows)
    (different : row ≠ twin) (tied : key row = key twin) :
    rows.count row < (level key (key row) rows).length := by
  have own : (level key (key row) rows).count row = rows.count row :=
    count_level row rows
  rw [← own]
  refine lt_of_le_of_ne List.count_le_length fun full => ?_
  have member : twin ∈ level key (key row) rows :=
    List.mem_filter.mpr ⟨other, by simpa using tied.symm⟩
  exact different (List.count_eq_length.mp full twin member)

/-- The cut falls between two different rows with equal keys. -/
def CutsTies (key : α → K) (limit : Nat) (rows : List α) : Prop :=
  ∃ row ∈ rows, ∃ twin ∈ rows, row ≠ twin ∧ key row = key twin ∧
    (before key (key row) rows).length < limit ∧
    limit < (before key (key row) rows).length +
      (level key (key row) rows).length

instance (key : α → K) (limit : Nat) (rows : List α) :
    Decidable (CutsTies key limit rows) :=
  inferInstanceAs (Decidable (∃ row ∈ rows, ∃ twin ∈ rows, _ ∧ _))

omit [DecidableEq α] in
theorem CutsTies.of_perm
    {limit : Nat} {rows others : List α} (cut : CutsTies key limit rows)
    (same : rows.Perm others) : CutsTies key limit others := by
  rcases cut with ⟨row, occurs, twin, other, different, tied, low, high⟩
  have front : (before key (key row) rows).length =
      (before key (key row) others).length :=
    (same.filter _).length_eq
  have size : (level key (key row) rows).length =
      (level key (key row) others).length :=
    (same.filter _).length_eq
  exact
    ⟨row, same.mem_iff.mp occurs, twin, same.mem_iff.mp other, different, tied,
      front ▸ low, by omega⟩

/-- Where no ties are cut, the same rows are read from every arrangement. -/
theorem take_perm
    {limit : Nat} {rows left right : List α}
    (uncut : ¬CutsTies key limit rows)
    (leftArranged : Arranged key rows left)
    (rightArranged : Arranged key rows right) :
    (left.take limit).Perm (right.take limit) := by
  rw [List.perm_iff_count]
  intro row
  rw [count_take row limit leftArranged, count_take row limit rightArranged]
  have ties : (level key (key row) left).Perm (level key (key row) right) :=
    (leftArranged.perm.trans rightArranged.perm.symm).filter _
  have size : (level key (key row) left).length =
      (level key (key row) rows).length :=
    (leftArranged.perm.filter _).length_eq
  by_cases reached : limit ≤ (before key (key row) rows).length
  · rw [Nat.sub_eq_zero_of_le reached, List.take_zero, List.take_zero]
  by_cases whole : (before key (key row) rows).length +
      (level key (key row) rows).length ≤ limit
  · rw [List.take_of_length_le (by omega),
      List.take_of_length_le (by rw [← ties.length_eq]; omega),
      ties.count_eq]
  · by_cases occurs : row ∈ rows
    · have alone : ∀ other ∈ level key (key row) left, other = row := by
        intro other member
        have found := (leftArranged.perm.filter _).mem_iff.mp member
        rw [List.mem_filter, decide_eq_true_eq] at found
        by_contra different
        exact uncut
          ⟨row, occurs, other, found.1, fun same => different same.symm,
            found.2.symm, by omega, by omega⟩
      have replicas := List.eq_replicate_iff.mpr ⟨rfl, alone⟩
      have others := List.eq_replicate_iff.mpr
        ⟨ties.length_eq.symm, fun other member =>
          alone other (ties.mem_iff.mpr member)⟩
      rw [others, ← replicas]
    · have missing (arranged : List α) (same : arranged.Perm rows)
          (number : Nat) :
          ((level key (key row) arranged).take number).count row = 0 := by
        rw [List.count_eq_zero]
        intro member
        have found := List.mem_of_mem_take member
        rw [level, List.mem_filter, same.mem_iff] at found
        exact occurs found.1
      rw [missing left leftArranged.perm, missing right rightArranged.perm]

/-! ## Rows that are favoured -/

/-- The copies of one row before all others. -/
def favour (chosen : α) (ties : List α) : List α :=
  ties.filter (· = chosen) ++ ties.filter (· ≠ chosen)

/-- The copies of one row after all others. -/
def disfavour (chosen : α) (ties : List α) : List α :=
  ties.filter (· ≠ chosen) ++ ties.filter (· = chosen)

theorem favour_perm (chosen : α) (ties : List α) :
    (favour chosen ties).Perm ties := by
  simpa [favour] using List.filter_append_perm (· = chosen) ties

theorem disfavour_perm (chosen : α) (ties : List α) :
    (disfavour chosen ties).Perm ties :=
  List.perm_append_comm.trans (favour_perm chosen ties)

theorem count_take_filter_ne (chosen : α) (number : Nat) (ties : List α) :
    ((ties.filter (· ≠ chosen)).take number).count chosen = 0 := by
  rw [List.count_eq_zero]
  intro member
  have found := List.mem_filter.mp (List.mem_of_mem_take member)
  simpa using found.2

theorem filter_eq_chosen (chosen : α) (ties : List α) :
    ties.filter (· = chosen) = List.replicate (ties.count chosen) chosen := by
  rw [← List.filter_beq]
  rfl

theorem count_take_favour (chosen : α) (number : Nat) (ties : List α) :
    ((favour chosen ties).take number).count chosen =
      min number (ties.count chosen) := by
  rw [favour, filter_eq_chosen, List.take_append, List.count_append,
    count_take_filter_ne, List.take_replicate, List.count_replicate_self,
    Nat.add_zero]

theorem count_take_disfavour (chosen : α) (number : Nat) (ties : List α) :
    ((disfavour chosen ties).take number).count chosen =
      min (number - (ties.length - ties.count chosen))
        (ties.count chosen) := by
  have others : (ties.filter (· ≠ chosen)).length =
      ties.length - ties.count chosen := by
    have whole := (favour_perm chosen ties).length_eq
    rw [favour, List.length_append, filter_eq_chosen, List.length_replicate]
      at whole
    omega
  rw [disfavour, filter_eq_chosen, List.take_append, List.count_append,
    count_take_filter_ne, List.take_replicate, List.count_replicate_self,
    others, Nat.zero_add]

end Counting

/-- An arrangement with the rows of one key in a chosen order. -/
def arrange
    (key : α → K) (bound : K) (choose : List α → List α) (rows : List α) :
    List α :=
  let sorted := rows.mergeSort fun first second => key first ≤ key second
  before key bound sorted ++
    (choose (level key bound sorted) ++ beyond key bound sorted)

theorem arrange_arranged
    (key : α → K) (bound : K) {choose : List α → List α}
    (chosen : ∀ ties, (choose ties).Perm ties) (rows : List α) :
    Arranged key rows (arrange key bound choose rows) := by
  have arranged := mergeSort_arranged key rows
  have split := sorted_split bound arranged.sorted
  refine ⟨?_, ?_⟩
  · refine ((chosen _).append_right _ |>.append_left _).trans ?_
    rw [← split]
    exact arranged.perm
  · have low {row : α} {sorted : List α}
        (member : row ∈ before key bound sorted) : key row < bound := by
      simpa using (List.mem_filter.mp member).2
    have same {row : α} {sorted : List α}
        (member : row ∈ choose (level key bound sorted)) :
        key row = bound := by
      simpa using (List.mem_filter.mp ((chosen _).mem_iff.mp member)).2
    have high {row : α} {sorted : List α}
        (member : row ∈ beyond key bound sorted) : bound < key row := by
      simpa using (List.mem_filter.mp member).2
    unfold arrange
    refine List.pairwise_append.mpr
      ⟨arranged.sorted.filter _, List.pairwise_append.mpr
        ⟨List.pairwise_of_forall_mem_list fun first one second two => ?_,
          arranged.sorted.filter _, fun first one second two => ?_⟩,
        fun first one second two => ?_⟩
    · rw [same one, same two]
    · rw [same one]
      exact (high two).le
    · rcases List.mem_append.mp two with tie | late
      · rw [same tie]
        exact (low one).le
      · exact ((low one).trans (high late)).le

theorem level_arrange
    (key : α → K) (bound : K) {choose : List α → List α}
    (chosen : ∀ ties, (choose ties).Perm ties) (rows : List α) :
    level key bound (arrange key bound choose rows) =
      choose (level key bound
        (rows.mergeSort fun first second => key first ≤ key second)) := by
  have front (sorted : List α) :
      level key bound (before key bound sorted) = [] := by
    simp +contextual [level, before, List.filter_eq_nil_iff]
  have back (sorted : List α) :
      level key bound (beyond key bound sorted) = [] := by
    simp +contextual [level, beyond, List.filter_eq_nil_iff]
  have middle (sorted : List α) :
      level key bound (choose (level key bound sorted)) =
        choose (level key bound sorted) := by
    refine List.filter_eq_self.mpr fun row member => ?_
    exact (List.mem_filter.mp ((chosen _).mem_iff.mp member)).2
  unfold arrange
  conv_lhs => rw [level, List.filter_append, List.filter_append]
  simp only [level] at front back middle ⊢
  rw [front, back, middle, List.nil_append, List.append_nil]

/-- Where ties are cut, what is read depends on the arrangement. -/
theorem exists_take_not_perm
    [DecidableEq α] {limit : Nat} {rows : List α}
    (cut : CutsTies key limit rows) :
    ∃ chosen, ¬((arrange key (key chosen) (favour chosen) rows).take
        limit).Perm
      ((arrange key (key chosen) (disfavour chosen) rows).take limit) := by
  rcases cut with ⟨row, occurs, twin, other, different, tied, low, high⟩
  refine ⟨row, fun same => ?_⟩
  have counts := same.count_eq row
  have arranged := mergeSort_arranged key rows
  rw [count_take row limit (arrange_arranged key _ (favour_perm row) rows),
    count_take row limit (arrange_arranged key _ (disfavour_perm row) rows),
    level_arrange key _ (favour_perm row),
    level_arrange key _ (disfavour_perm row), count_take_favour,
    count_take_disfavour, count_level] at counts
  have size := (arranged.perm.filter fun other => key other = key row).length_eq
  have occurrences := arranged.perm.count_eq row
  have fewer := count_lt_level other different tied
  have present : 0 < rows.count row := List.count_pos_iff.mpr occurs
  rw [occurrences] at counts
  unfold level at counts fewer high
  omega

end Civitas.FirstRows
