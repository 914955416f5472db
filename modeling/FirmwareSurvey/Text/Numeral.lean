

/-!
# Numerals

Unsigned numerals in base ten and sixteen. A numeral may open with a plus sign, has at least one
digit, and is read only when its value lies below a limit; no blank, underscore or other sign is
part of one. Hexadecimal numerals are written with capital digits.
-/

namespace FirmwareSurvey.Text

/-- One more than the greatest number of a 64-bit word. -/
def wordLimit : Nat := 0x10000000000000000

/-- The value of a digit of the base, in either letter case. -/
def digitValue? (base : Nat) (c : Char) : Option Nat :=
  let n := c.toNat
  let v :=
    if 48 ≤ n && n ≤ 57 then n - 48
    else if 97 ≤ n && n ≤ 122 then n - 87
    else if 65 ≤ n && n ≤ 90 then n - 55
    else base
  if v < base then some v else none

/-- The value of a row of digits, most significant first, continuing from `acc`. -/
def digitsValue? (base : Nat) (acc : Nat) : List Char → Option Nat
  | [] => some acc
  | c :: cs =>
    match digitValue? base c with
    | some v => digitsValue? base (base * acc + v) cs
    | none => none

/-- The digits of a numeral, after the plus sign it may open with. -/
def dropPlus : List Char → List Char
  | '+' :: cs => cs
  | cs => cs

/-- Reads an unsigned numeral whose value lies below `limit`. -/
def unsigned? (base limit : Nat) (cs : List Char) : Option Nat :=
  match dropPlus cs with
  | [] => none
  | c :: r =>
    match digitsValue? base 0 (c :: r) with
    | some n => if n < limit then some n else none
    | none => none

/-- Reads a decimal numeral of a 64-bit word. -/
def decimal? (cs : List Char) : Option Nat := unsigned? 10 wordLimit cs

/-- The digits of a number in base ten. -/
def decimalChars (n : Nat) : List Char := Nat.toDigits 10 n

/-- The hexadecimal digits of a number, in capitals. -/
def upperHexChars (n : Nat) : List Char := (Nat.toDigits 16 n).map Char.toUpper

/-- The hexadecimal digits of a number, in capitals. -/
def upperHex (n : Nat) : String := String.ofList (upperHexChars n)

/-- A text filled up with zeros on the left to a width. -/
def padZeros (width : Nat) (cs : List Char) : List Char :=
  List.replicate (width - cs.length) '0' ++ cs

theorem digitsValue?_append (base acc : Nat) (a b : List Char) :
    digitsValue? base acc (a ++ b) =
      (digitsValue? base acc a).bind fun n => digitsValue? base n b := by
  induction a generalizing acc with
  | nil => rfl
  | cons c cs ih =>
    simp only [List.cons_append, digitsValue?]
    cases digitValue? base c with
    | none => rfl
    | some v => exact ih _

end FirmwareSurvey.Text
