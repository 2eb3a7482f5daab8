import Mathlib.Algebra.Group.Nat.Defs
import Mathlib.Algebra.GroupWithZero.Nat
import Mathlib.Data.List.Basic

/-!
# Decimal numerals

Numerals as lists of code points: the shortest numeral of an integer, the
numeral of a given number of digits, and the number that digits stand for.
Reading undoes the shortest numeral.
-/

namespace Civitas.Decimal

/-- A Unicode code point. -/
abbrev Letter := Fin 0x110000

/-- A text by its code points. -/
abbrev Text := List Letter

/-- Numerals of letters read below the number of code points. -/
instance neZero_letters : NeZero 0x110000 :=
  ⟨by decide⟩

/-- `-` -/
def minus : Letter := 45

/-- `[0-9]` -/
def isDigit (letter : Letter) : Bool :=
  48 ≤ letter.val && letter.val ≤ 57

/-- The number that digits stand for, after a number already read. -/
def numberFrom (before : Nat) (digits : Text) : Nat :=
  digits.foldl (fun value letter => 10 * value + (letter.val - 48)) before

/-- The number that digits write. -/
def number (digits : Text) : Nat :=
  numberFrom 0 digits

/-- The digit of a number below ten. -/
def digit (value : Nat) : Letter :=
  ⟨48 + value % 10, by omega⟩

/-- The last digits of a number, as many as asked for. -/
def padded : Nat → Nat → Text
  | 0, _ => []
  | width + 1, value => padded width (value / 10) ++ [digit value]

section Equations

-- The equations of `padded` are derived here, for all that unfold it.
attribute [local simp] padded

end Equations

/-- The letters of characters. -/
def letters (characters : List Char) : Text :=
  characters.map fun character => Fin.ofNat 0x110000 character.toNat

/-- The shortest numeral of a natural number. -/
def natural (value : Nat) : Text :=
  letters (Nat.toDigits 10 value)

/-- The shortest numeral of an integer. -/
def integer (value : Int) : Text :=
  if value < 0 then minus :: natural value.natAbs else natural value.natAbs

/-- A whole number; `none` when the text is no numeral. -/
def readInteger : Text → Option Int
  | [] => none
  | first :: rest =>
      if first = minus then
        if rest ≠ [] && rest.all isDigit then some (-(number rest : Int))
        else none
      else if (first :: rest).all isDigit then
        some (number (first :: rest) : Int)
      else none

/-! ## Digits of a given width -/

@[simp]
theorem isDigit_digit (value : Nat) : isDigit (digit value) = true := by
  rw [isDigit, Bool.and_eq_true, decide_eq_true_eq, decide_eq_true_eq]
  change 48 ≤ 48 + value % 10 ∧ 48 + value % 10 ≤ 57
  omega

@[simp]
theorem length_padded (width value : Nat) :
    (padded width value).length = width := by
  induction width generalizing value with
  | zero => rfl
  | succ width ih => simp [padded, ih]

theorem all_isDigit_padded (width value : Nat) :
    (padded width value).all isDigit = true := by
  induction width generalizing value with
  | zero => rfl
  | succ width ih => simp [padded, ih]

/-! ## Shortest numerals -/

theorem isDigit_letters
    {characters : List Char}
    (digits : ∀ character ∈ characters, character.isDigit = true) :
    (letters characters).all isDigit = true := by
  rw [letters, List.all_map, List.all_eq_true]
  intro character member
  have bounds := Char.isDigit_iff_toNat.mp (digits character member)
  have low : 48 ≤ character.toNat := bounds.1
  have high : character.toNat ≤ 57 := bounds.2
  have small : character.toNat % 0x110000 = character.toNat :=
    Nat.mod_eq_of_lt (by omega)
  simp [isDigit, small, low, high]

theorem all_isDigit_natural (value : Nat) :
    (natural value).all isDigit = true :=
  isDigit_letters fun _ member =>
    Nat.isDigit_of_mem_toDigits (by decide) (by decide) member

theorem natural_ne_nil (value : Nat) : natural value ≠ [] := by
  rw [natural, letters, ne_eq, List.map_eq_nil_iff]
  exact Nat.toDigits_ne_nil

/-- The shortest numeral stands for its number. -/
theorem number_natural (value : Nat) : number (natural value) = value := by
  have same :
      number (natural value) =
        Nat.ofDigitChars 10 (Nat.toDigits 10 value) 0 := by
    rw [number, natural, letters, numberFrom, List.foldl_map,
      Nat.ofDigitChars]
    refine List.foldl_ext _ _ _ fun before character member => ?_
    have valid : character.toNat < 0x110000 := by
      rcases character.valid with small | ⟨-, large⟩
      · exact Nat.lt_trans small (by decide)
      · exact large
    rw [Fin.val_ofNat, Nat.mod_eq_of_lt valid]
    rfl
  rw [same, Nat.ofDigitChars_ten_toDigits]

theorem readInteger_of_digits
    {digits : Text} (given : digits ≠ [])
    (all : digits.all isDigit = true) :
    readInteger digits = some (number digits : Int) := by
  cases digits with
  | nil => exact absurd rfl given
  | cons first rest =>
      have unsigned : first ≠ minus := by
        rintro rfl
        rw [List.all_cons] at all
        cases all
      rw [readInteger, if_neg unsigned, if_pos all]

/-- The numeral of an integer is read back. -/
theorem readInteger_integer (value : Int) :
    readInteger (integer value) = some value := by
  have digits := all_isDigit_natural value.natAbs
  have given := natural_ne_nil value.natAbs
  have read := number_natural value.natAbs
  unfold integer
  split
  · rename_i negative
    rw [readInteger, if_pos rfl, if_pos (by simp [given, digits]), read]
    congr 1
    omega
  · rename_i positive
    rw [readInteger_of_digits given digits, read]
    congr 1
    omega

/-- The text of an integer is its shortest numeral. -/
theorem letters_toString (value : Int) :
    letters (toString value).toList = integer value := by
  cases value with
  | ofNat magnitude =>
      have positive : ¬ Int.ofNat magnitude < 0 := by simp
      rw [integer, if_neg positive]
      change letters (Nat.repr magnitude).toList = natural magnitude
      simp [Nat.repr, natural]
  | negSucc magnitude =>
      rw [integer, if_pos (Int.negSucc_lt_zero _)]
      change
        letters ("-" ++ Nat.repr (magnitude + 1)).toList =
          minus :: natural (magnitude + 1)
      simp [Nat.repr, natural, letters]
      decide

/-- Different integers have different texts. -/
theorem eq_of_toString
    {first second : Int} (same : toString first = toString second) :
    first = second := by
  have read := congrArg (fun text => readInteger (letters text.toList)) same
  simpa only [letters_toString, readInteger_integer, Option.some.injEq]
    using read

/-- The letters of a numeral are digits and a sign. -/
theorem mem_integer
    {value : Int} {letter : Letter} (member : letter ∈ integer value) :
    letter = minus ∨ isDigit letter = true := by
  have digits := List.all_eq_true.mp (all_isDigit_natural value.natAbs)
  unfold integer at member
  split at member
  · rcases List.mem_cons.mp member with sign | inside
    · exact .inl sign
    · exact .inr (digits letter inside)
  · exact .inr (digits letter member)

end Civitas.Decimal
