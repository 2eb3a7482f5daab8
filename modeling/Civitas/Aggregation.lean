import Mathlib.Algebra.BigOperators.Group.List.Basic
import Mathlib.Data.List.Dedup
import Mathlib.Data.List.Induction
import Mathlib.Data.List.Perm.Basic

/-!
# Groups and their sums

Rows are grouped by a key.  `groupRows` gives each key that occurs with its
rows, `groupSums` with the sum of a value over its rows.  A table that is kept
in parts can be grouped part by part and once more over the groups of all
parts, and a dictionary can be filled row by row: both give the groups of the
whole table, up to their order.
-/

namespace Civitas.Aggregation

variable {α κ M : Type*} [DecidableEq κ]

section Groups

/-- Each key that occurs, with its rows. -/
def groupRows (key : α → κ) (rows : List α) : List (κ × List α) :=
  (rows.map key).dedup.map fun k => (k, rows.filter fun row => key row = k)

theorem filter_key_eq_nil
    {key : α → κ} {rows : List α} {k : κ} (absent : k ∉ rows.map key) :
    (rows.filter fun row => key row = k) = [] := by
  rw [List.filter_eq_nil_iff]
  intro row within
  have apart : key row ≠ k := fun same =>
    absent (List.mem_map.mpr ⟨row, within, same⟩)
  simpa using apart

variable [AddCommMonoid M]

/-- Each key that occurs, with the sum over its rows. -/
def groupSums (key : α → κ) (value : α → M) (rows : List α) : List (κ × M) :=
  (groupRows key rows).map fun group => (group.1, (group.2.map value).sum)

theorem groupRows_keys (key : α → κ) (rows : List α) :
    (groupRows key rows).map Prod.fst = (rows.map key).dedup := by
  simp [groupRows, Function.comp_def]

theorem mem_groupRows
    {key : α → κ} {rows : List α} {k : κ} {group : List α} :
    (k, group) ∈ groupRows key rows ↔
      k ∈ rows.map key ∧ group = rows.filter fun row => key row = k := by
  simp only [groupRows, List.mem_map, List.mem_dedup, Prod.mk.injEq]
  constructor
  · rintro ⟨own, occurs, rfl, rfl⟩
    exact ⟨occurs, rfl⟩
  · rintro ⟨occurs, rfl⟩
    exact ⟨k, occurs, rfl, rfl⟩

theorem groupSums_keys (key : α → κ) (value : α → M) (rows : List α) :
    (groupSums key value rows).map Prod.fst = (rows.map key).dedup := by
  rw [groupSums, List.map_map, ← groupRows_keys]
  rfl

theorem mem_groupSums
    {key : α → κ} {value : α → M} {rows : List α} {k : κ} {sum : M} :
    (k, sum) ∈ groupSums key value rows ↔
      k ∈ rows.map key ∧
        sum = ((rows.filter fun row => key row = k).map value).sum := by
  unfold groupSums
  rw [List.mem_map]
  constructor
  · rintro ⟨⟨own, group⟩, within, same⟩
    cases same
    rcases mem_groupRows.mp within with ⟨occurs, rfl⟩
    exact ⟨occurs, rfl⟩
  · rintro ⟨occurs, rfl⟩
    exact ⟨(k, _), mem_groupRows.mpr ⟨occurs, rfl⟩, rfl⟩

omit [DecidableEq κ] [AddCommMonoid M] in
/-- A list with distinct keys is known by its members. -/
theorem perm_of_distinct_keys
    {left right : List (κ × M)} (leftKeys : (left.map Prod.fst).Nodup)
    (rightKeys : (right.map Prod.fst).Nodup)
    (same : ∀ k sum, (k, sum) ∈ left ↔ (k, sum) ∈ right) :
    left.Perm right := by
  rw [List.perm_ext_iff_of_nodup leftKeys.of_map rightKeys.of_map]
  rintro ⟨k, sum⟩
  exact same k sum

theorem groupSums_keys_nodup (key : α → κ) (value : α → M) (rows : List α) :
    ((groupSums key value rows).map Prod.fst).Nodup := by
  rw [groupSums_keys]
  exact List.nodup_dedup _

/-- The order of the rows does not matter. -/
theorem groupSums_perm
    {left right : List α} (key : α → κ) (value : α → M)
    (same : left.Perm right) :
    (groupSums key value left).Perm (groupSums key value right) := by
  apply perm_of_distinct_keys (groupSums_keys_nodup ..)
    (groupSums_keys_nodup ..)
  intro k sum
  have sums : ((left.filter fun row => key row = k).map value).sum =
      ((right.filter fun row => key row = k).map value).sum :=
    ((same.filter _).map value).sum_eq
  rw [mem_groupSums, mem_groupSums, sums, (same.map key).mem_iff]

end Groups

/-! ## Groups of groups -/

section Regrouping

variable {β γ : Type*} [AddCommMonoid M]

/-- The groups of every part. -/
def partGroups
    (key : α → κ) (aggregate : List α → β) (parts : List (List α)) :
    List (κ × β) :=
  parts.flatMap fun rows =>
    (groupRows key rows).map fun group => (group.1, aggregate group.2)

/-- The groups of all parts, grouped once more. -/
def regroup
    (key : α → κ) (aggregate : List α → β) (again : List β → γ)
    (parts : List (List α)) : List (κ × γ) :=
  (groupRows Prod.fst (partGroups key aggregate parts)).map fun group =>
    (group.1, again (group.2.map Prod.snd))

theorem mem_partGroups_keys
    {key : α → κ} {aggregate : List α → β} {parts : List (List α)} {k : κ} :
    k ∈ (partGroups key aggregate parts).map Prod.fst ↔
      k ∈ parts.flatten.map key := by
  induction parts with
  | nil => simp [partGroups]
  | cons rows rest ih =>
      have keys :
          ((groupRows key rows).map fun group =>
            (group.1, aggregate group.2)).map Prod.fst =
            (rows.map key).dedup := by
        rw [List.map_map, ← groupRows_keys]
        rfl
      have split : partGroups key aggregate (rows :: rest) =
          ((groupRows key rows).map fun group =>
            (group.1, aggregate group.2)) ++
            partGroups key aggregate rest := rfl
      rw [split, List.map_append, List.mem_append, keys, List.mem_dedup, ih,
        List.flatten_cons, List.map_append, List.mem_append]

/-- One part has at most one group of a key. -/
theorem sum_part
    (key : α → κ) {value : α → M} {aggregate : List α → β} {number : β → M}
    (inner : ∀ group, number (aggregate group) = (group.map value).sum)
    (rows : List α) (k : κ) :
    (((((groupRows key rows).map fun group =>
        (group.1, aggregate group.2)).filter fun group =>
          group.1 = k).map fun group => number group.2).sum) =
      ((rows.filter fun row => key row = k).map value).sum := by
  have distinct := groupRows_keys key rows
  by_cases occurs : k ∈ rows.map key
  · have only :
        ((rows.map key).dedup.filter fun own => own = k) = [k] := by
      rw [List.filter_eq, List.count_eq_one_of_mem (List.nodup_dedup _)
        (List.mem_dedup.mpr occurs)]
      rfl
    simp only [groupRows, List.map_map, List.filter_map, Function.comp_def,
      only, List.map_cons, List.map_nil, List.sum_cons, List.sum_nil,
      add_zero, inner]
  · have noKey :
        ((rows.map key).dedup.filter fun own => own = k) = [] := by
      rw [List.filter_eq_nil_iff]
      intro own within
      have apart : own ≠ k := fun same =>
        occurs (same ▸ List.mem_dedup.mp within)
      simpa using apart
    have noRow := filter_key_eq_nil occurs
    simp only [groupRows, List.map_map, List.filter_map, Function.comp_def,
      noKey, noRow, List.map_nil, List.sum_nil]

theorem sum_partGroups
    (key : α → κ) {value : α → M} {aggregate : List α → β} {number : β → M}
    (inner : ∀ group, number (aggregate group) = (group.map value).sum)
    (parts : List (List α)) (k : κ) :
    (((partGroups key aggregate parts).filter fun group =>
        group.1 = k).map fun group => number group.2).sum =
      ((parts.flatten.filter fun row => key row = k).map value).sum := by
  induction parts with
  | nil => rfl
  | cons rows rest ih =>
      have split : partGroups key aggregate (rows :: rest) =
          ((groupRows key rows).map fun group =>
            (group.1, aggregate group.2)) ++
            partGroups key aggregate rest := rfl
      rw [split, List.filter_append, List.map_append, List.sum_append,
        sum_part key inner, ih, List.flatten_cons, List.filter_append,
        List.map_append, List.sum_append]

/-- Grouping the parts and then the groups is grouping all rows. -/
theorem regroup_perm
    {key : α → κ} {value : α → M} {aggregate : List α → β} {number : β → M}
    {again : List β → γ} {result : γ → M}
    (inner : ∀ group, number (aggregate group) = (group.map value).sum)
    (outer : ∀ numbers, result (again numbers) = (numbers.map number).sum)
    (parts : List (List α)) :
    ((regroup key aggregate again parts).map fun group =>
        (group.1, result group.2)).Perm
      (groupSums key value parts.flatten) := by
  have keys :
      ((regroup key aggregate again parts).map fun group =>
        (group.1, result group.2)).map Prod.fst =
        ((partGroups key aggregate parts).map Prod.fst).dedup := by
    rw [regroup, List.map_map, List.map_map, ← groupRows_keys]
    rfl
  apply perm_of_distinct_keys
  · rw [keys]
    exact List.nodup_dedup _
  · exact groupSums_keys_nodup ..
  intro k sum
  have whole := sum_partGroups key inner parts k
  have known : k ∈ (partGroups key aggregate parts).map Prod.fst ↔
      k ∈ parts.flatten.map key := mem_partGroups_keys
  have total (group : List (κ × β)) :
      result (again (group.map Prod.snd)) =
        (group.map fun part => number part.2).sum := by
    rw [outer, List.map_map]
    rfl
  rw [mem_groupSums, ← known, ← whole, regroup, List.map_map, List.mem_map]
  constructor
  · rintro ⟨⟨own, group⟩, within, same⟩
    cases same
    rcases mem_groupRows.mp within with ⟨occurs, rfl⟩
    exact ⟨occurs, total _⟩
  · rintro ⟨occurs, rfl⟩
    refine ⟨(k, _), mem_groupRows.mpr ⟨occurs, rfl⟩, ?_⟩
    simp only [Function.comp_apply, total]

end Regrouping

/-! ## Filling a dictionary -/

section Upserting

variable {β : Type*}

/-- Change the entry of a key, or make one. -/
def upsert (k : κ) (initial : β) (change : β → β) :
    List (κ × β) → List (κ × β)
  | [] => [(k, initial)]
  | (own, value) :: rest =>
      if own = k then (own, change value) :: rest
      else (own, value) :: upsert k initial change rest

theorem upsert_keys
    (k : κ) (initial : β) (change : β → β) (entries : List (κ × β)) :
    (upsert k initial change entries).map Prod.fst =
      if k ∈ entries.map Prod.fst then entries.map Prod.fst
      else entries.map Prod.fst ++ [k] := by
  induction entries with
  | nil => rfl
  | cons entry rest ih =>
      rcases entry with ⟨own, value⟩
      by_cases same : own = k
      · simp [upsert, same]
      · have other : ¬k = own := fun equal => same equal.symm
        simp only [upsert, if_neg same, List.map_cons, ih, List.mem_cons,
          other, false_or]
        split_ifs <;> rfl

theorem upsert_keys_nodup
    {k : κ} {initial : β} {change : β → β} {entries : List (κ × β)}
    (distinct : (entries.map Prod.fst).Nodup) :
    ((upsert k initial change entries).map Prod.fst).Nodup := by
  rw [upsert_keys]
  split_ifs with occurs
  · exact distinct
  · refine List.nodup_append.mpr ⟨distinct, List.nodup_singleton _, ?_⟩
    intro own within last lastly same
    rw [List.mem_singleton.mp lastly] at same
    exact occurs (same ▸ within)

end Upserting

section Accumulating

variable [AddCommMonoid M]

/-- `entries[k] = entries.get(k, 0) + amount`. -/
def addTo (k : κ) (amount : M) : List (κ × M) → List (κ × M) :=
  upsert k amount (· + amount)

/-- The dictionary after all rows, beginning with an empty one. -/
def accumulate (key : α → κ) (value : α → M) (rows : List α) : List (κ × M) :=
  rows.foldl (fun entries row => addTo (key row) (value row) entries) []

theorem addTo_lookup
    (k other : κ) (amount : M) (entries : List (κ × M)) :
    (addTo k amount entries).lookup other =
      if other = k then some ((entries.lookup k).getD 0 + amount)
      else entries.lookup other := by
  induction entries with
  | nil =>
      by_cases same : other = k
      · simp [addTo, upsert, same]
      · simp [addTo, upsert, List.lookup_cons, same, beq_false_of_ne same]
  | cons entry rest ih =>
      rcases entry with ⟨own, total⟩
      by_cases here : own = k
      · subst here
        by_cases same : other = own
        · simp [addTo, upsert, same]
        · simp [addTo, upsert, List.lookup_cons, same, beq_false_of_ne same]
      · have apart : (k == own) = false :=
          beq_false_of_ne fun equal => here equal.symm
        by_cases own' : other = own
        · subst own'
          simp [addTo, upsert, here]
        · unfold addTo at ih ⊢
          simp only [upsert, if_neg here, List.lookup_cons, apart,
            beq_false_of_ne own', ih]

/-- What the dictionary holds. -/
theorem accumulate_spec (key : α → κ) (value : α → M) (rows : List α) :
    ((accumulate key value rows).map Prod.fst).Nodup ∧
      ∀ k, (accumulate key value rows).lookup k =
        if k ∈ rows.map key
        then some ((rows.filter fun row => key row = k).map value).sum
        else none := by
  induction rows using List.reverseRecOn with
  | nil => exact ⟨List.nodup_nil, fun _ => rfl⟩
  | append_singleton rows row ih =>
      have next : accumulate key value (rows ++ [row]) =
          addTo (key row) (value row) (accumulate key value rows) := by
        simp [accumulate]
      rw [next]
      constructor
      · exact upsert_keys_nodup ih.1
      · intro k
        rw [addTo_lookup, ih.2, ih.2]
        by_cases same : k = key row
        · subst same
          have last : ([row].filter fun other => key other = key row) =
              [row] := by
            simp
          have member : key row ∈ (rows ++ [row]).map key := by simp
          rw [if_pos rfl, if_pos member, List.filter_append, last,
            List.map_append, List.sum_append]
          split_ifs with occurs
          · simp
          · have noRow := filter_key_eq_nil occurs
            simp [noRow]
        · have other : ¬key row = k := fun equal => same equal.symm
          simp [same, other]

omit [AddCommMonoid M] in
theorem mem_iff_lookup_of_distinct
    {entries : List (κ × M)} (distinct : (entries.map Prod.fst).Nodup)
    (k : κ) (amount : M) :
    (k, amount) ∈ entries ↔ entries.lookup k = some amount := by
  induction entries with
  | nil => simp
  | cons entry rest ih =>
      rcases entry with ⟨own, total⟩
      rw [List.map_cons, List.nodup_cons] at distinct
      by_cases same : k = own
      · subst same
        have absent : (k, amount) ∉ rest := fun within =>
          distinct.1 (List.mem_map.mpr ⟨_, within, rfl⟩)
        simp [absent, eq_comm]
      · simp [List.lookup_cons, same, beq_false_of_ne same, ih distinct.2]

theorem accumulate_perm (key : α → κ) (value : α → M) (rows : List α) :
    (accumulate key value rows).Perm (groupSums key value rows) := by
  rcases accumulate_spec key value rows with ⟨distinct, lookups⟩
  apply perm_of_distinct_keys distinct (groupSums_keys_nodup ..)
  intro k sum
  rw [mem_iff_lookup_of_distinct distinct, lookups, mem_groupSums]
  split_ifs with occurs
  · simp [occurs, eq_comm]
  · simp [occurs]

end Accumulating

/-! ## Filing rows -/

section Filing

/-- Append rows under a key. -/
def file (k : κ) (rows : List α) : List (κ × List α) → List (κ × List α) :=
  upsert k rows (· ++ rows)

/-- Filing loses and repeats nothing. -/
theorem file_perm (k : κ) (rows : List α) (entries : List (κ × List α)) :
    ((file k rows entries).flatMap Prod.snd).Perm
      (entries.flatMap Prod.snd ++ rows) := by
  unfold file
  induction entries with
  | nil => simp [upsert]
  | cons entry rest ih =>
      rcases entry with ⟨own, filed⟩
      by_cases same : own = k
      · simp only [upsert, if_pos same, List.flatMap_cons, List.append_assoc]
        exact List.perm_append_comm.append_left filed
      · simp only [upsert, if_neg same, List.flatMap_cons, List.append_assoc]
        exact ih.append_left filed

/-- What is filed under a key was there before, or is new. -/
theorem of_mem_file
    {k own : κ} {rows filed : List α} {entries : List (κ × List α)}
    (within : (own, filed) ∈ file k rows entries) :
    (own, filed) ∈ entries ∨
      own = k ∧ ∃ old, filed = old ++ rows ∧
        (old = [] ∨ (own, old) ∈ entries) := by
  unfold file at within
  induction entries with
  | nil =>
      rw [upsert, List.mem_singleton] at within
      cases within
      exact .inr ⟨rfl, [], rfl, .inl rfl⟩
  | cons entry rest ih =>
      rcases entry with ⟨first, before⟩
      by_cases same : first = k
      · rw [upsert, if_pos same, List.mem_cons] at within
        rcases within with here | later
        · cases here
          exact
            .inr ⟨same, before, rfl, .inr (List.mem_cons_self ..)⟩
        · exact .inl (List.mem_cons_of_mem _ later)
      · rw [upsert, if_neg same, List.mem_cons] at within
        rcases within with here | later
        · cases here
          exact .inl (List.mem_cons_self ..)
        · rcases ih later with old | ⟨equal, old, filed, known⟩
          · exact .inl (List.mem_cons_of_mem _ old)
          · exact
              .inr ⟨equal, old, filed,
                known.imp_right (List.mem_cons_of_mem _)⟩

end Filing

end Civitas.Aggregation
