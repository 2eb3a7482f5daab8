import Civitas.Decimal

/-!
# The Gregorian calendar

Dates of the proleptic Gregorian calendar by their ordinals, the first day of
the year one being day one, and the format `%Y-%m-%d`.  A date is found from
its ordinal by dividing out cycles of 400, 100, 4 and one years.

An ordinal is recovered from its date, and a date from its text, so that the
texts of different days differ.
-/

namespace Civitas.Calendar

open Civitas.Decimal (Letter Text digit padded number)

/-- A year, a month and a day, not checked. -/
structure Date where
  year : Nat
  month : Nat
  day : Nat
deriving DecidableEq

/-! ## Ordinals -/

/-- The year has 366 days. -/
def isLeap (year : Nat) : Bool :=
  year % 4 = 0 && (year % 100 ≠ 0 || year % 400 = 0)

/-- The days of the years before. -/
def daysBeforeYear (year : Nat) : Nat :=
  (year - 1) * 365 + (year - 1) / 4 - (year - 1) / 100 + (year - 1) / 400

/-- The days of a month, in a leap year or not. -/
def daysInMonth (leap : Bool) (month : Nat) : Nat :=
  if month = 2 then if leap then 29 else 28
  else if month = 4 ∨ month = 6 ∨ month = 9 ∨ month = 11 then 30
  else 31

/-- The days before a month of the year. -/
def daysBeforeMonth (leap : Bool) (month : Nat) : Nat :=
  [0, 0, 31, 59, 90, 120, 151, 181, 212, 243, 273, 304, 334].getD month 0 +
    if 2 < month ∧ leap then 1 else 0

/-- The number of a day, counted from the first one. -/
def ordinal (date : Date) : Nat :=
  daysBeforeYear date.year + daysBeforeMonth (isLeap date.year) date.month +
    date.day

/-- The month of a day of the year, counted from zero, and the day in it. -/
def monthOf (leap : Bool) (day : Nat) : Nat × Nat :=
  let month := (day + 50) / 32
  if day < daysBeforeMonth leap month then
    (month - 1, day - daysBeforeMonth leap (month - 1) + 1)
  else (month, day - daysBeforeMonth leap month + 1)

/--
The date that is a number of cycles of 400, 100, 4 and one years, and then
some days, after the first one.  A fifth cycle is the last day of the one
before.
-/
def ofCycles (n400 n100 n4 n1 days : Nat) : Date :=
  let year := n400 * 400 + 1 + n100 * 100 + n4 * 4 + n1
  if n1 = 4 ∨ n100 = 4 then ⟨year - 1, 12, 31⟩
  else
    let leap := n1 = 3 && (n4 ≠ 24 || n100 = 3)
    let place := monthOf leap days
    ⟨year, place.1, place.2⟩

/-- The date of an ordinal. -/
def ofOrdinal (ordinal : Nat) : Date :=
  let n := ordinal - 1
  let r400 := n % 146097
  let r100 := r400 % 36524
  let r4 := r100 % 1461
  ofCycles (n / 146097) (r400 / 36524) (r100 / 1461) (r4 / 365) (r4 % 365)

/-- The date exists. -/
def Date.Valid (date : Date) : Prop :=
  1 ≤ date.year ∧ (1 ≤ date.month ∧ date.month ≤ 12) ∧
    1 ≤ date.day ∧ date.day ≤ daysInMonth (isLeap date.year) date.month

instance (date : Date) : Decidable date.Valid :=
  inferInstanceAs (Decidable (_ ∧ _))

/-- The last ordinal with a year of four digits. -/
def maxOrdinal : Nat := 3652059

/-! ## Dates and ordinals -/

/-- The days of a year lie in their months. -/
theorem monthOf_spec (leap : Bool) {day : Nat} (inYear : day < 365) :
    (1 ≤ (monthOf leap day).1 ∧ (monthOf leap day).1 ≤ 12) ∧
      (1 ≤ (monthOf leap day).2 ∧
        (monthOf leap day).2 ≤ daysInMonth leap (monthOf leap day).1) ∧
      daysBeforeMonth leap (monthOf leap day).1 + (monthOf leap day).2 =
        day + 1 := by
  have all : ∀ leap : Bool, ∀ day : Fin 365,
      (1 ≤ (monthOf leap day).1 ∧ (monthOf leap day).1 ≤ 12) ∧
        (1 ≤ (monthOf leap day).2 ∧
          (monthOf leap day).2 ≤ daysInMonth leap (monthOf leap day).1) ∧
        daysBeforeMonth leap (monthOf leap day).1 + (monthOf leap day).2 =
          day + 1 := by
    decide +kernel
  exact all leap ⟨day, inYear⟩

/-- A year by its place in the cycles of the calendar. -/
theorem daysBeforeYear_cycles
    {n400 n100 n4 n1 : Nat} (centuries : n100 ≤ 3) (leaps : n4 ≤ 24)
    (years : n1 ≤ 3) :
    daysBeforeYear (n400 * 400 + 1 + n100 * 100 + n4 * 4 + n1) =
      146097 * n400 + 36524 * n100 + 1461 * n4 + 365 * n1 := by
  unfold daysBeforeYear
  omega

theorem isLeap_cycles
    {n400 n100 n4 n1 : Nat} (centuries : n100 ≤ 3) (leaps : n4 ≤ 24)
    (years : n1 ≤ 3) :
    isLeap (n400 * 400 + 1 + n100 * 100 + n4 * 4 + n1) =
      (n1 = 3 && (n4 ≠ 24 || n100 = 3) : Bool) := by
  rw [Bool.eq_iff_iff]
  simp only [isLeap, Bool.and_eq_true, Bool.or_eq_true, decide_eq_true_eq]
  omega

theorem ofCycles_spec
    {n400 n100 n4 n1 days : Nat} (centuries : n100 ≤ 3) (leaps : n4 ≤ 24)
    (years : n1 ≤ 3) (inYear : days < 365) :
    (ofCycles n400 n100 n4 n1 days).Valid ∧
      ordinal (ofCycles n400 n100 n4 n1 days) =
        146097 * n400 + 36524 * n100 + 1461 * n4 + 365 * n1 + days + 1 := by
  have leap := @isLeap_cycles n400 n100 n4 n1 centuries leaps years
  have before := @daysBeforeYear_cycles n400 n100 n4 n1 centuries leaps years
  have month := monthOf_spec (n1 = 3 && (n4 ≠ 24 || n100 = 3)) inYear
  have inner : ¬ (n1 = 4 ∨ n100 = 4) := by omega
  simp only [ofCycles, if_neg inner]
  refine ⟨⟨by dsimp only; omega, month.1, ?_⟩, ?_⟩
  · dsimp only
    rw [leap]
    exact month.2.1
  · simp only [ordinal]
    rw [leap, before, Nat.add_assoc, month.2.2]
    rfl

/-- The last day of a leap year, and that of a cycle of 400 years. -/
theorem ofCycles_last
    {n400 n100 n4 n1 : Nat}
    (last :
      (n1 = 4 ∧ n100 ≤ 3 ∧ n4 ≤ 23) ∨ (n100 = 4 ∧ n4 = 0 ∧ n1 = 0)) :
    (ofCycles n400 n100 n4 n1 0).Valid ∧
      ordinal (ofCycles n400 n100 n4 n1 0) =
        146097 * n400 + 36524 * n100 + 1461 * n4 + 365 * n1 + 1 := by
  have outer : n1 = 4 ∨ n100 = 4 := by omega
  have leap : isLeap (n400 * 400 + n100 * 100 + n4 * 4 + n1) = true := by
    simp only [isLeap, Bool.and_eq_true, Bool.or_eq_true, decide_eq_true_eq]
    omega
  have year : n400 * 400 + 1 + n100 * 100 + n4 * 4 + n1 - 1 =
      n400 * 400 + n100 * 100 + n4 * 4 + n1 := by
    omega
  simp only [ofCycles, if_pos outer, year]
  constructor
  · refine ⟨by dsimp only; omega, by dsimp only; omega, ?_⟩
    dsimp only
    rw [leap]
    decide
  · simp only [ordinal]
    rw [leap]
    have december : daysBeforeMonth true 12 = 335 := by decide
    rw [december]
    unfold daysBeforeYear
    omega

/-- The date of an ordinal exists, and has this ordinal. -/
theorem ofOrdinal_spec {n : Nat} (positive : 1 ≤ n) :
    (ofOrdinal n).Valid ∧ ordinal (ofOrdinal n) = n := by
  obtain ⟨m, rfl⟩ : ∃ m, n = m + 1 := ⟨n - 1, by omega⟩
  simp only [ofOrdinal, Nat.add_sub_cancel]
  generalize place400 : m / 146097 = n400
  generalize rest400 : m % 146097 = r400
  generalize place100 : r400 / 36524 = n100
  generalize rest100 : r400 % 36524 = r100
  generalize place4 : r100 / 1461 = n4
  generalize rest4 : r100 % 1461 = r4
  generalize place1 : r4 / 365 = n1
  generalize rest1 : r4 % 365 = days
  by_cases outer : n1 = 4 ∨ n100 = 4
  · have ended : days = 0 := by omega
    have last :
        (n1 = 4 ∧ n100 ≤ 3 ∧ n4 ≤ 23) ∨ (n100 = 4 ∧ n4 = 0 ∧ n1 = 0) := by
      omega
    subst ended
    have spec := @ofCycles_last n400 n100 n4 n1 last
    refine ⟨spec.1, spec.2.trans ?_⟩
    omega
  · have spec := @ofCycles_spec n400 n100 n4 n1 days (by omega) (by omega)
      (by omega) (by omega)
    refine ⟨spec.1, spec.2.trans ?_⟩
    omega

theorem year_le_of_ordinal_le
    {date : Date} (valid : date.Valid) (early : ordinal date ≤ maxOrdinal) :
    date.year ≤ 9999 := by
  by_contra late
  have days : maxOrdinal ≤ daysBeforeYear date.year := by
    unfold daysBeforeYear maxOrdinal
    omega
  have day := valid.2.2.1
  unfold ordinal at early
  omega

/-! ## Texts -/

/-- `-` -/
def hyphen : Letter := 45

/-- `0` -/
def zero : Letter := 48

/-- The decimal digits of all scripts, as `\d` matches and `int` reads them. -/
structure Digits where
  value : Letter → Option Nat
  value_digit : ∀ number, value (digit number) = some (number % 10)

/-- `strftime("%Y-%m-%d")`. -/
def format (date : Date) : Text :=
  padded 4 date.year ++ hyphen :: (padded 2 date.month ++
    hyphen :: padded 2 date.day)

variable (digits : Digits)

/-- `(?P<Y>\d\d\d\d)` -/
def readYear (text : Text) : Option Nat :=
  (text.mapM digits.value).map
    (List.foldl (fun year value => 10 * year + value) 0)

/-- `[1-9]` -/
def isPositive (letter : Letter) : Bool :=
  Decimal.isDigit letter && letter ≠ zero

/-- `(?P<m>1[0-2]|0[1-9]|[1-9])` -/
def readMonth : Text → Option Nat
  | [ones] => if isPositive ones then some (ones.val - 48) else none
  | [tens, ones] =>
      if tens = 49 && Decimal.isDigit ones && ones.val ≤ 50 then
        some (10 + (ones.val - 48))
      else if tens = zero && isPositive ones then some (ones.val - 48)
      else none
  | _ => none

/-- `(?P<d>3[0-1]|[1-2]\d|0[1-9]|[1-9]| [1-9])` -/
def readDay : Text → Option Nat
  | [ones] => if isPositive ones then some (ones.val - 48) else none
  | [tens, ones] =>
      if tens = 51 && (ones = 48 || ones = 49) then
        some (30 + (ones.val - 48))
      else if tens = 49 || tens = 50 then
        (digits.value ones).map fun value => 10 * (tens.val - 48) + value
      else if (tens = zero || tens = 32) && isPositive ones then
        some (ones.val - 48)
      else none
  | _ => none

/--
`strptime(text, "%Y-%m-%d")`; `none` is a `ValueError`.  Of the pattern only
the month and the day vary in length, so that each is what its hyphen or the
end of the text leaves it.
-/
def parse (text : Text) : Option Date :=
  match text.drop 4 with
  | [] => none
  | sign :: rest =>
      match rest.dropWhile (· ≠ hyphen) with
      | [] => none
      | _ :: last => do
          let year ← readYear digits (text.take 4)
          let month ← readMonth (rest.takeWhile (· ≠ hyphen))
          let day ← readDay digits last
          let date : Date := ⟨year, month, day⟩
          if sign = hyphen ∧ date.Valid then some date else none

variable {digits}

theorem readYear_padded {year : Nat} (short : year ≤ 9999) :
    readYear digits (padded 4 year) = some year := by
  have written :
      padded 4 year =
        [digit (year / 10 / 10 / 10), digit (year / 10 / 10),
          digit (year / 10), digit year] :=
    rfl
  rw [readYear, written]
  simp only [List.mapM_cons, List.mapM_nil, digits.value_digit,
    Option.pure_def, Option.bind_eq_bind, Option.bind_some, Option.map_some,
    List.foldl_cons, List.foldl_nil]
  congr 1
  omega

theorem readMonth_padded
    {month : Nat} (bounds : 1 ≤ month ∧ month ≤ 12) :
    readMonth (padded 2 month) = some month := by
  have all : ∀ month : Fin 13, 1 ≤ month.val →
      readMonth (padded 2 month) = some month.val := by
    decide
  exact all ⟨month, by omega⟩ bounds.1

theorem isPositive_digit {value : Nat} (positive : value % 10 ≠ 0) :
    isPositive (digit value) = true := by
  have apart : digit value ≠ zero := by
    intro same
    have values : 48 + value % 10 = 48 := congrArg Fin.val same
    omega
  rw [isPositive, Decimal.isDigit_digit, decide_eq_true apart]
  rfl

theorem readDay_padded
    {day : Nat} (bounds : 1 ≤ day ∧ day ≤ 31) :
    readDay digits (padded 2 day) = some day := by
  have written : padded 2 day = [digit (day / 10), digit day] := rfl
  have ones : (digit day).val - 48 = day % 10 := by
    change 48 + day % 10 - 48 = day % 10
    omega
  have places : day / 10 = 0 ∨ day / 10 = 1 ∨ day / 10 = 2 ∨
      day = 30 ∨ day = 31 := by
    omega
  rcases places with tens | tens | tens | rfl | rfl
  · have first : digit 0 = zero := rfl
    have positive : isPositive (digit day) = true :=
      isPositive_digit (by omega)
    have apart : zero ≠ 51 ∧ zero ≠ 49 ∧ zero ≠ 50 := by decide
    rw [written, tens, first, readDay]
    simp only [apart.1, apart.2.1, apart.2.2, positive, decide_false,
      decide_true, Bool.false_and, Bool.or_false, Bool.true_or,
      Bool.and_true, Bool.false_eq_true, if_false, if_true, ones]
    congr 1
    omega
  · have other : digit 1 ≠ 51 := by decide
    have known : (decide (digit 1 = 49) || decide (digit 1 = 50)) = true := rfl
    rw [written, tens, readDay, decide_eq_false other, Bool.false_and,
      if_neg Bool.false_ne_true, if_pos known, digits.value_digit,
      Option.map_some]
    congr 1
    change 10 * 1 + day % 10 = day
    omega
  · have other : digit 2 ≠ 51 := by decide
    have known : (decide (digit 2 = 49) || decide (digit 2 = 50)) = true := rfl
    rw [written, tens, readDay, decide_eq_false other, Bool.false_and,
      if_neg Bool.false_ne_true, if_pos known, digits.value_digit,
      Option.map_some]
    congr 1
    change 10 * 2 + day % 10 = day
    omega
  · rfl
  · rfl

theorem hyphen_notMem_padded (width value : Nat) :
    ∀ letter ∈ padded width value, letter ≠ hyphen := by
  rintro letter member rfl
  have numeral :=
    List.all_eq_true.mp (Decimal.all_isDigit_padded width value) hyphen member
  exact absurd numeral (by decide)

/-- A date is read back from its text. -/
theorem parse_format
    {date : Date} (valid : date.Valid) (short : date.year ≤ 9999) :
    parse digits (format date) = some date := by
  have months := valid.2.1
  have days : 1 ≤ date.day ∧ date.day ≤ 31 := by
    have last : daysInMonth (isLeap date.year) date.month ≤ 31 := by
      unfold daysInMonth
      split
      · split
        · decide
        · decide
      · split
        · decide
        · decide
    exact ⟨valid.2.2.1, Nat.le_trans valid.2.2.2 last⟩
  have width := Decimal.length_padded 4 date.year
  have front : (format date).take 4 = padded 4 date.year := by
    rw [format, List.take_append_of_le_length (Nat.le_of_eq width.symm),
      List.take_of_length_le (Nat.le_of_eq width)]
  have back : (format date).drop 4 =
      hyphen :: (padded 2 date.month ++ hyphen :: padded 2 date.day) := by
    rw [format, List.drop_append_of_le_length (Nat.le_of_eq width.symm),
      List.drop_of_length_le (Nat.le_of_eq width), List.nil_append]
  have free : ∀ letter ∈ padded 2 date.month,
      decide (letter ≠ hyphen) = true :=
    fun letter member =>
      decide_eq_true (hyphen_notMem_padded 2 date.month letter member)
  have month :
      (padded 2 date.month ++ hyphen :: padded 2 date.day).takeWhile
          (· ≠ hyphen) =
        padded 2 date.month := by
    rw [List.takeWhile_append_of_pos free]
    exact List.append_nil _
  have day :
      (padded 2 date.month ++ hyphen :: padded 2 date.day).dropWhile
          (· ≠ hyphen) =
        hyphen :: padded 2 date.day :=
    List.dropWhile_append_of_pos free
  rw [parse, back]
  simp only [month, day, front, readYear_padded short,
    readMonth_padded months, readDay_padded days, Option.bind_eq_bind,
    Option.bind_some]
  exact if_pos (And.intro True.intro valid)

/-- Every day with a year of four digits is read back from its text. -/
theorem ordinal_of_parse_format
    {n : Nat} (positive : 1 ≤ n) (early : n ≤ maxOrdinal) :
    (parse digits (format (ofOrdinal n))).map ordinal = some n := by
  have spec := ofOrdinal_spec positive
  have short := year_le_of_ordinal_le spec.1 (spec.2.symm ▸ early)
  rw [parse_format spec.1 short, Option.map_some, spec.2]

end Civitas.Calendar
