import Mathlib.Data.List.Basic

/-!
# Text operations of the language

The string methods the gateway and the supervisor apply to paths and message
types, on the character lists of Lean strings so that they compute.

`upper` maps ASCII letters only; it is applied to HTTP methods, which are
ASCII tokens.
-/

namespace Civitas.PyText

/-- `text.startswith(start)`. -/
def startsWith (text start : String) : Bool :=
  start.toList.isPrefixOf text.toList

/-- `text.endswith(ending)`. -/
def endsWith (text ending : String) : Bool :=
  ending.toList.isSuffixOf text.toList

/-- `text.upper()` on ASCII text. -/
def upper (text : String) : String :=
  String.ofList (text.toList.map Char.toUpper)

/-- `text.rstrip(letter)`. -/
def rstrip (text : String) (letter : Char) : String :=
  String.ofList
    (text.toList.reverse.dropWhile (· == letter)).reverse

/-- `text.strip(letter)`. -/
def strip (text : String) (letter : Char) : String :=
  rstrip (String.ofList (text.toList.dropWhile (· == letter))) letter

/-- `text.split(letter)`. -/
def split (text : String) (letter : Char) : List String :=
  (text.toList.splitOn letter).map String.ofList

/-- `text[1:-1]`. -/
def inner (text : String) : String :=
  String.ofList text.toList.tail.dropLast

/-- The first part of `text.rpartition(letter)`. -/
def beforeLast (text : String) (letter : Char) : String :=
  String.ofList
    (text.toList.reverse.dropWhile (· != letter)).tail.reverse

/-! ## Base64 -/

/-- The value of a character of the Base64 alphabet. -/
def base64Digit (letter : Char) : Option Nat :=
  if letter.isUpper then some (letter.toNat - 65)
  else if letter.isLower then some (letter.toNat - 71)
  else if letter.isDigit then some (letter.toNat + 4)
  else if letter = '+' then some 62
  else if letter = '/' then some 63
  else none

/--
The loop of `binascii.a2b_base64`: `position` counts the digits of the current
group, `left` holds the bits not yet written and `pads` the padding seen.
Characters outside the alphabet are skipped, and complete padding ends the
data.
-/
def a2bBase64 :
    List Char → (position left pads : Nat) → List UInt8 →
      Option (List UInt8)
  | [], position, _, _, written =>
      if position = 0 then some written.reverse else none
  | letter :: rest, position, left, pads, written =>
      if letter = '=' then
        if position < 2 then a2bBase64 rest position left pads written
        else if 4 ≤ position + (pads + 1) then some written.reverse
        else a2bBase64 rest position left (pads + 1) written
      else
        match base64Digit letter with
        | none => a2bBase64 rest position left pads written
        | some digit =>
            match position with
            | 0 => a2bBase64 rest 1 digit 0 written
            | 1 =>
                a2bBase64 rest 2 (digit % 16) 0
                  (UInt8.ofNat (left * 4 + digit / 16) :: written)
            | 2 =>
                a2bBase64 rest 3 (digit % 4) 0
                  (UInt8.ofNat (left * 16 + digit / 4) :: written)
            | _ =>
                a2bBase64 rest 0 0 0
                  (UInt8.ofNat (left * 64 + digit) :: written)

/-- `base64.b64decode(text)`; `none` when it raises. -/
def b64decode (text : String) : Option (List UInt8) :=
  if text.toList.all fun letter => letter.toNat < 128
  then a2bBase64 text.toList 0 0 0 []
  else none

example : b64decode "aGk=" = some [104, 105] := by decide +kernel

end Civitas.PyText
