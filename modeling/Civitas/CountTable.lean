import Mathlib.Algebra.BigOperators.Group.List.Basic
import Mathlib.Algebra.GroupWithZero.Nat
import Mathlib.Data.List.AList

/-!
# Counting over dictionaries

Facts about Python dictionaries, modelled by association lists without
duplicate keys: how many keys satisfy a predicate, and the sum of a dictionary
of counters.
-/

namespace Civitas.CountTable

variable {Key : Type*} [DecidableEq Key]

/-- A dictionary. -/
abbrev Table (Key Item : Type*) := AList fun _ : Key => Item

/-- The number of keys that satisfy a predicate. -/
def countKeys {Item : Type*}
    (table : Table Key Item) (counted : Key → Bool) : Nat :=
  table.keys.countP counted

theorem length_keys_erase_le {Item : Type*}
    (table : Table Key Item) (key : Key) :
    (table.erase key).keys.length ≤ table.keys.length := by
  rw [AList.keys_erase]
  exact List.length_erase_le

theorem countKeys_erase_le {Item : Type*}
    (table : Table Key Item) (key : Key) (counted : Key → Bool) :
    countKeys (table.erase key) counted ≤ countKeys table counted := by
  rw [countKeys, AList.keys_erase]
  exact List.Sublist.countP_le List.erase_sublist

theorem keys_insert_of_fresh {Item : Type*}
    {table : Table Key Item} {key : Key} (item : Item)
    (fresh : table.lookup key = none) :
    (table.insert key item).keys = key :: table.keys := by
  rw [AList.lookup_eq_none] at fresh
  rw [AList.keys_insert, List.erase_of_not_mem fresh]

/-- The value of a counter; absent counters are zero. -/
def count (table : Table Key Nat) (key : Key) : Nat :=
  (table.lookup key).getD 0

/-- `table[key] = table.get(key, 0) + 1`. -/
def bump (table : Table Key Nat) (key : Key) : Table Key Nat :=
  table.insert key (count table key + 1)

/-- The sum of all counters. -/
def total (table : Table Key Nat) : Nat :=
  (table.entries.map Sigma.snd).sum

@[simp]
theorem count_bump_self (table : Table Key Nat) (key : Key) :
    count (bump table key) key = count table key + 1 := by
  simp [count, bump]

@[simp]
theorem count_bump_of_ne
    (table : Table Key Nat) {key other : Key} (apart : other ≠ key) :
    count (bump table key) other = count table other := by
  simp [count, bump, AList.lookup_insert_ne apart]

/-- Removing a counter from a list of entries takes its value off the sum. -/
theorem sum_kerase
    (entries : List (Sigma fun _ : Key => Nat)) (key : Key) :
    ((entries.kerase key).map Sigma.snd).sum +
        (entries.dlookup key).getD 0 =
      (entries.map Sigma.snd).sum := by
  induction entries with
  | nil => simp
  | cons entry rest ih =>
      rcases entry with ⟨head, value⟩
      by_cases same : head = key
      · subst same
        simp [Nat.add_comm]
      · rw [List.kerase_cons_ne (Ne.symm same), List.dlookup_cons_ne]
        · simp only [List.map_cons, List.sum_cons, Nat.add_assoc, ih]
        · exact Ne.symm same

/-- Bumping one counter adds one to the sum. -/
theorem total_bump (table : Table Key Nat) (key : Key) :
    total (bump table key) = total table + 1 := by
  have removed := sum_kerase table.entries key
  rw [total, total, bump, AList.entries_insert]
  simp only [List.map_cons, List.sum_cons, count, AList.lookup]
  omega

end Civitas.CountTable
