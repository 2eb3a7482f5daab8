import Mathlib.Data.List.Nodup

/-!
# Bounded first-in first-out sets

A duplicate-free list of at most `capacity` elements, in order of insertion.
Offering an element that is present changes nothing and is answered `false`;
offering a new one appends it, drops the oldest element when the capacity is
exceeded, and is answered `true`.

The invariant is carried by the structure, so no later proof has to show
again that a cache is duplicate-free or within its capacity.
-/

namespace Civitas.BoundedCache

variable {Element : Type}

/-- A set of at most `capacity` elements that remembers insertion order. -/
structure Cache (Element : Type) (capacity : Nat) where
  entries : List Element
  nodup : entries.Nodup
  bounded : entries.length ≤ capacity

namespace Cache

variable {capacity : Nat}

/-- The cache without elements. -/
def empty : Cache Element capacity where
  entries := []
  nodup := List.nodup_nil
  bounded := Nat.zero_le capacity

/-- The element has been offered and not been dropped since. -/
def Contains (cache : Cache Element capacity) (element : Element) : Prop :=
  element ∈ cache.entries

/-- Append a new element and drop the oldest one beyond the capacity. -/
def append
    (cache : Cache Element capacity) (element : Element)
    (fresh : ¬ cache.Contains element) :
    Cache Element capacity where
  entries :=
    if cache.entries.length + 1 ≤ capacity
    then cache.entries ++ [element]
    else (cache.entries ++ [element]).tail
  nodup := by
    have extended : (cache.entries ++ [element]).Nodup := by
      rw [List.nodup_append]
      refine ⟨cache.nodup, List.nodup_singleton element, ?_⟩
      intro old oldMember new newMember same
      rw [List.mem_singleton.mp newMember] at same
      exact fresh (same ▸ oldMember)
    split
    · exact extended
    · exact extended.sublist (List.tail_sublist _)
  bounded := by
    have bound := cache.bounded
    split
    · simpa using ‹_›
    · simpa using bound

/-- Below the capacity nothing is dropped. -/
theorem append_entries
    {cache : Cache Element capacity} {element : Element}
    (fresh : ¬ cache.Contains element)
    (room : cache.entries.length < capacity) :
    (cache.append element fresh).entries =
      cache.entries ++ [element] := by
  simp [append, Nat.succ_le_of_lt room]

/-- A cache with a positive capacity holds what it was offered last. -/
theorem contains_append
    (cache : Cache Element capacity) (element : Element)
    (fresh : ¬ cache.Contains element)
    (positive : 0 < capacity) :
    (cache.append element fresh).Contains element := by
  rcases Nat.lt_or_ge cache.entries.length capacity with room | full
  · simp [Contains, append_entries fresh room]
  · have nonempty : cache.entries ≠ [] := by
      intro isEmpty
      simp [isEmpty] at full
      omega
    have beyond : ¬ cache.entries.length + 1 ≤ capacity := by
      omega
    simp [Contains, append, beyond, List.tail_append_of_ne_nil nonempty]

/-- Remembering a new element changes the cache. -/
theorem append_ne_self
    (cache : Cache Element capacity) (element : Element)
    (fresh : ¬ cache.Contains element)
    (positive : 0 < capacity) :
    cache.append element fresh ≠ cache := by
  intro same
  have present := cache.contains_append element fresh positive
  rw [same] at present
  exact fresh present

variable [DecidableEq Element]

instance (cache : Cache Element capacity) (element : Element) :
    Decidable (cache.Contains element) :=
  inferInstanceAs (Decidable (element ∈ cache.entries))

/-- Answer whether the element is new, and remember it. -/
def offer
    (cache : Cache Element capacity) (element : Element) :
    Bool × Cache Element capacity :=
  if fresh : ¬ cache.Contains element
  then (true, cache.append element fresh)
  else (false, cache)

theorem offer_of_contains
    {cache : Cache Element capacity} {element : Element}
    (present : cache.Contains element) :
    cache.offer element = (false, cache) := by
  simp [offer, present]

theorem offer_of_fresh
    {cache : Cache Element capacity} {element : Element}
    (fresh : ¬ cache.Contains element) :
    cache.offer element = (true, cache.append element fresh) := by
  simp [offer, fresh]

end Cache

end Civitas.BoundedCache
