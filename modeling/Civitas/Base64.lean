import Civitas.PyText

/-!
# Base64, written and read back

`base64.b64encode`, and that `binascii.a2b_base64` reads back what it writes.
-/

namespace Civitas.PyText

/-- The character of the Base64 alphabet with the given value. -/
def base64Letter (digit : Nat) : Char :=
  if digit < 26 then Char.ofNat (digit + 65)
  else if digit < 52 then Char.ofNat (digit + 71)
  else if digit < 62 then Char.ofNat (digit - 4)
  else if digit = 62 then '+'
  else '/'

/-- `base64.b64encode`: three bytes are four digits of six bits. -/
def b64encode : List UInt8 → List Char
  | first :: second :: third :: rest =>
      base64Letter (first.toNat / 4) ::
      base64Letter (first.toNat % 4 * 16 + second.toNat / 16) ::
      base64Letter (second.toNat % 16 * 4 + third.toNat / 64) ::
      base64Letter (third.toNat % 64) :: b64encode rest
  | [first, second] =>
      [base64Letter (first.toNat / 4),
        base64Letter (first.toNat % 4 * 16 + second.toNat / 16),
        base64Letter (second.toNat % 16 * 4), '=']
  | [first] =>
      [base64Letter (first.toNat / 4), base64Letter (first.toNat % 4 * 16),
        '=', '=']
  | [] => []

theorem base64Digit_base64Letter :
    ∀ digit < 64, base64Digit (base64Letter digit) = some digit ∧
      base64Letter digit ≠ '=' ∧ (base64Letter digit).toNat < 128 := by
  decide

section Equations

-- The equations of `a2bBase64` are derived here, for all that unfold it.
attribute [local simp] a2bBase64

end Equations

section Reading

variable {digit left pads : Nat} {rest : List Char} {written : List UInt8}

theorem a2bBase64_first (small : digit < 64) :
    a2bBase64 (base64Letter digit :: rest) 0 left pads written =
      a2bBase64 rest 1 digit 0 written := by
  rcases base64Digit_base64Letter digit small with ⟨value, letter, _⟩
  simp [a2bBase64, value, letter]

theorem a2bBase64_second (small : digit < 64) :
    a2bBase64 (base64Letter digit :: rest) 1 left pads written =
      a2bBase64 rest 2 (digit % 16) 0
        (UInt8.ofNat (left * 4 + digit / 16) :: written) := by
  rcases base64Digit_base64Letter digit small with ⟨value, letter, _⟩
  simp [a2bBase64, value, letter]

theorem a2bBase64_third (small : digit < 64) :
    a2bBase64 (base64Letter digit :: rest) 2 left pads written =
      a2bBase64 rest 3 (digit % 4) 0
        (UInt8.ofNat (left * 16 + digit / 4) :: written) := by
  rcases base64Digit_base64Letter digit small with ⟨value, letter, _⟩
  simp [a2bBase64, value, letter]

theorem a2bBase64_fourth (small : digit < 64) :
    a2bBase64 (base64Letter digit :: rest) 3 left pads written =
      a2bBase64 rest 0 0 0 (UInt8.ofNat (left * 64 + digit) :: written) := by
  rcases base64Digit_base64Letter digit small with ⟨value, letter, _⟩
  simp [a2bBase64, value, letter]

end Reading

theorem ofNat_eq_of_toNat_eq
    {number : Nat} {byte : UInt8} (same : number = byte.toNat) :
    UInt8.ofNat number = byte := by
  rw [same]
  exact UInt8.ofNat_toNat

theorem a2bBase64_b64encode (data written : List UInt8) :
    a2bBase64 (b64encode data) 0 0 0 written =
      some (written.reverse ++ data) := by
  induction data using b64encode.induct generalizing written with
  | case1 first second third rest ih =>
      have firstBound := first.toNat_lt
      have secondBound := second.toNat_lt
      have thirdBound := third.toNat_lt
      have one : UInt8.ofNat (first.toNat / 4 * 4 +
          (first.toNat % 4 * 16 + second.toNat / 16) / 16) = first :=
        ofNat_eq_of_toNat_eq (by omega)
      have two : UInt8.ofNat
          ((first.toNat % 4 * 16 + second.toNat / 16) % 16 * 16 +
            (second.toNat % 16 * 4 + third.toNat / 64) / 4) = second :=
        ofNat_eq_of_toNat_eq (by omega)
      have three : UInt8.ofNat
          ((second.toNat % 16 * 4 + third.toNat / 64) % 4 * 64 +
            third.toNat % 64) = third :=
        ofNat_eq_of_toNat_eq (by omega)
      rw [b64encode, a2bBase64_first (by omega), a2bBase64_second (by omega),
        a2bBase64_third (by omega), a2bBase64_fourth (by omega), one, two,
        three, ih]
      simp
  | case2 first second =>
      have firstBound := first.toNat_lt
      have secondBound := second.toNat_lt
      have one : UInt8.ofNat (first.toNat / 4 * 4 +
          (first.toNat % 4 * 16 + second.toNat / 16) / 16) = first :=
        ofNat_eq_of_toNat_eq (by omega)
      have two : UInt8.ofNat
          ((first.toNat % 4 * 16 + second.toNat / 16) % 16 * 16 +
            second.toNat % 16 * 4 / 4) = second :=
        ofNat_eq_of_toNat_eq (by omega)
      rw [b64encode, a2bBase64_first (by omega), a2bBase64_second (by omega),
        a2bBase64_third (by omega), one, two]
      simp [a2bBase64]
  | case3 first =>
      have firstBound := first.toNat_lt
      have one : UInt8.ofNat (first.toNat / 4 * 4 +
          first.toNat % 4 * 16 / 16) = first :=
        ofNat_eq_of_toNat_eq (by omega)
      rw [b64encode, a2bBase64_first (by omega), a2bBase64_second (by omega),
        one]
      simp [a2bBase64]
  | case4 => simp [b64encode, a2bBase64]

/-- What `b64encode` writes is ASCII. -/
theorem ascii_of_mem_b64encode
    {data : List UInt8} {letter : Char} (within : letter ∈ b64encode data) :
    letter.toNat < 128 := by
  induction data using b64encode.induct with
  | case1 first second third rest ih =>
      have firstBound := first.toNat_lt
      have secondBound := second.toNat_lt
      have thirdBound := third.toNat_lt
      simp only [b64encode, List.mem_cons] at within
      rcases within with rfl | rfl | rfl | rfl | later
      · exact (base64Digit_base64Letter _ (by omega)).2.2
      · exact (base64Digit_base64Letter _ (by omega)).2.2
      · exact (base64Digit_base64Letter _ (by omega)).2.2
      · exact (base64Digit_base64Letter _ (by omega)).2.2
      · exact ih later
  | case2 first second =>
      have firstBound := first.toNat_lt
      have secondBound := second.toNat_lt
      simp only [b64encode, List.mem_cons, List.not_mem_nil, or_false] at within
      rcases within with rfl | rfl | rfl | rfl
      · exact (base64Digit_base64Letter _ (by omega)).2.2
      · exact (base64Digit_base64Letter _ (by omega)).2.2
      · exact (base64Digit_base64Letter _ (by omega)).2.2
      · decide
  | case3 first =>
      have firstBound := first.toNat_lt
      simp only [b64encode, List.mem_cons, List.not_mem_nil, or_false] at within
      rcases within with rfl | rfl | rfl | rfl
      · exact (base64Digit_base64Letter _ (by omega)).2.2
      · exact (base64Digit_base64Letter _ (by omega)).2.2
      · decide
      · decide
  | case4 => cases within

example : b64encode [104, 105] = ['a', 'G', 'k', '='] := by decide +kernel

end Civitas.PyText
