import Mathlib.Data.List.Basic

/-!
# Writes in flight

A cell whose writes take effect some time after they were issued, in an order
of their own.  Each write carries what it writes, taken when it was issued, and
who waits for it.

`settled` is what the cell is going to hold when the writes in flight have
landed in the order of issue.  A write that lands before every other write that
it differs from keeps it.
-/

namespace Civitas.Flights

/-- A cell and the writes to it that have not landed. -/
structure Cell (ω α : Type*) where
  value : α
  flights : List (ω × α) := []

namespace Cell

variable {ω α : Type*}

/-- A write is issued. -/
def issue (cell : Cell ω α) (owner : ω) (value : α) : Cell ω α :=
  { cell with flights := cell.flights ++ [(owner, value)] }

/-- A write in flight lands, or fails. -/
def land (cell : Cell ω α) (position : Nat) (stores : Bool) :
    Option (Cell ω α) :=
  (cell.flights[position]?).map fun flight =>
    { value := if stores then flight.2 else cell.value
      flights := cell.flights.eraseIdx position }

/-- Someone waits for a write of its own. -/
def waits [DecidableEq ω] (cell : Cell ω α) (owner : ω) : Bool :=
  cell.flights.any fun flight => flight.1 = owner

/-- What the cell holds once its writes have landed in the order of issue. -/
def settled (cell : Cell ω α) : α :=
  (cell.flights.getLast?.map Prod.snd).getD cell.value

/-- No write that was issued earlier and writes something else is in flight. -/
def inOrder [DecidableEq α] (cell : Cell ω α) (position : Nat) : Bool :=
  (cell.flights[position]?).all fun flight =>
    (cell.flights.take position).all fun earlier => earlier.2 = flight.2

@[simp]
theorem settled_issue (cell : Cell ω α) (owner : ω) (value : α) :
    (cell.issue owner value).settled = value := by
  simp [settled, issue]

theorem settled_of_flights_nil
    {cell : Cell ω α} (drained : cell.flights = []) :
    cell.settled = cell.value := by
  simp [settled, drained]

/-- The last of a list in which one item has been left out. -/
theorem getLast?_eraseIdx
    {items : List α} {position : Nat} (earlier : position + 1 < items.length) :
    (items.eraseIdx position).getLast? = items.getLast? := by
  have inside : position < items.length := by omega
  have later : items.drop (position + 1) ≠ [] := by
    intro none
    have short := List.drop_eq_nil_iff.mp none
    omega
  rw [List.eraseIdx_eq_take_drop_succ, List.getLast?_append_of_ne_nil _ later]
  conv_rhs => rw [← List.take_append_drop (position + 1) items]
  rw [List.getLast?_append_of_ne_nil _ later]

/-- A write that lands in order and does not fail keeps what is to come. -/
theorem settled_land
    [DecidableEq α] {cell after : Cell ω α} {position : Nat}
    (ordered : cell.inOrder position = true)
    (landed : cell.land position true = some after) :
    after.settled = cell.settled := by
  rcases Option.map_eq_some_iff.mp landed with ⟨flight, found, rfl⟩
  have inside := (List.getElem?_eq_some_iff.mp found).1
  by_cases earlier : position + 1 < cell.flights.length
  · simp only [settled, if_true, getLast?_eraseIdx earlier]
    cases last : cell.flights.getLast? with
    | none =>
        rw [List.getLast?_eq_none_iff.mp last] at inside
        cases inside
    | some item => rfl
  · have final : cell.flights = cell.flights.take position ++ [flight] := by
      have tail : cell.flights.drop position = [flight] := by
        rw [List.drop_eq_getElem_cons inside,
          (List.getElem?_eq_some_iff.mp found).2,
          List.drop_eq_nil_iff.mpr (by omega)]
      rw [← tail, List.take_append_drop]
    have kept : cell.flights.eraseIdx position =
        cell.flights.take position := by
      rw [List.eraseIdx_eq_take_drop_succ,
        List.drop_eq_nil_iff.mpr (by omega), List.append_nil]
    have last : cell.settled = flight.2 := by
      rw [settled, final, List.getLast?_append]
      simp
    rw [last]
    simp only [settled, kept, if_true]
    cases before : (cell.flights.take position).getLast? with
    | none => rfl
    | some item =>
        simp only [inOrder, found, Option.all_some, List.all_eq_true,
          decide_eq_true_eq] at ordered
        exact ordered item (List.mem_of_getLast? before)

/-- No write appears when one lands. -/
theorem flights_land_subset
    {cell after : Cell ω α} {position : Nat} {stores : Bool}
    (landed : cell.land position stores = some after) :
    after.flights ⊆ cell.flights := by
  rcases Option.map_eq_some_iff.mp landed with ⟨flight, _, rfl⟩
  exact (List.eraseIdx_sublist _ _).subset

end Cell

end Civitas.Flights
