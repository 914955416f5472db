import FirmwareSurvey.Decimal.Binary64

/-!
# Numbers with a given number of digits

A magnitude is a quotient of natural numbers. It is written with a number of digits behind the point,
rounded to the nearest such decimal, ties going to the even one: plainly, in scientific form with one
digit before the point, or in whichever of the two suits its size.
-/

namespace FirmwareSurvey.Decimal

open Binary64 (roundQuotient)

/-- A number that is not negative, as a quotient of naturals. -/
structure Magnitude where
  /-- What is divided. -/
  num : Nat
  /-- What it is divided by. -/
  den : Nat
deriving DecidableEq

namespace Magnitude

/-- The magnitude `digits · 10 ^ scale`. -/
def ofDecimal (digits : Nat) (scale : Int) : Magnitude :=
  if 0 ≤ scale then ⟨digits * Nat.pow 10 scale.toNat, 1⟩ else ⟨digits, Nat.pow 10 (-scale).toNat⟩

/-- The magnitude `m · 2 ^ e`. -/
def ofBinary (m : Nat) (e : Int) : Magnitude :=
  if 0 ≤ e then ⟨m * Nat.pow 2 e.toNat, 1⟩ else ⟨m, Nat.pow 2 (-e).toNat⟩

/-- The magnitude of a finite double. -/
def ofBinary64 (x : Binary64) : Magnitude := ofBinary x.significand x.exponent

/-- The nearest magnitude with a significand of so many bits. -/
def toBits (bits : Nat) (x : Magnitude) : Magnitude :=
  if x.num = 0 then x
  else
    let e : Int := (Nat.log2 x.num : Int) - (Nat.log2 x.den : Int) - (bits : Int)
    let scaled (e : Int) : Nat × Nat :=
      if 0 ≤ e then (x.num, x.den * Nat.pow 2 e.toNat) else (x.num * Nat.pow 2 (-e).toNat, x.den)
    let (a, b) := scaled e
    let e := if a / b < Nat.pow 2 bits then e else e + 1
    let (a, b) := scaled e
    ofBinary (roundQuotient a b) e

/-- The power of ten of the first digit; zero has none and is taken to have the last one. -/
def exponent (x : Magnitude) : Int :=
  if x.num = 0 then 0
  else
    let guess : Int := (Nat.toDigits 10 x.num).length - (Nat.toDigits 10 x.den).length
    let reaches (e : Int) : Bool :=
      if 0 ≤ e then x.den * Nat.pow 10 e.toNat ≤ x.num else x.den ≤ x.num * Nat.pow 10 (-e).toNat
    if reaches guess then guess else guess - 1

/-- The magnitude times a power of ten, rounded to a natural. -/
def shifted (x : Magnitude) (places : Int) : Nat :=
  if 0 ≤ places then roundQuotient (x.num * Nat.pow 10 places.toNat) x.den
  else roundQuotient x.num (x.den * Nat.pow 10 (-places).toNat)

/-- The digits of a natural with a point before the last so many of them. -/
def pointed (digits places : Nat) : List Char :=
  let ds := Nat.toDigits 10 digits
  let ds := List.replicate (places + 1 - ds.length) '0' ++ ds
  if places = 0 then ds else ds.take (ds.length - places) ++ '.' :: ds.drop (ds.length - places)

/-- Written plainly. -/
def plain (x : Magnitude) (places : Nat) : List Char := pointed (x.shifted places) places

/-- The exponent of a scientific form: a sign and at least two digits. -/
def exponentText (e : Int) : List Char :=
  let ds := Nat.toDigits 10 e.natAbs
  (if e < 0 then '-' else '+') :: (if ds.length < 2 then '0' :: ds else ds)

/-- The digits and the exponent of the scientific form. -/
def scientificParts (x : Magnitude) (places : Nat) : Nat × Int :=
  let e := x.exponent
  let digits := x.shifted ((places : Int) - e)
  if Nat.pow 10 (places + 1) ≤ digits then (digits / 10, e + 1) else (digits, e)

/-- Written in scientific form. -/
def scientific (x : Magnitude) (places : Nat) : List Char :=
  let (digits, e) := x.scientificParts places
  pointed digits places ++ 'e' :: exponentText e

/-- A text without the zeros at its end, if it has a point, and without the point before them. -/
def dropZeros (cs : List Char) : List Char :=
  if cs.contains '.' then
    let cs := (cs.reverse.dropWhile (· = '0')).reverse
    if cs.getLast? == some '.' then cs.dropLast else cs
  else cs

/-- Written with so many digits in all, without zeros at the end unless they are kept: in scientific
form when the number is small or has more digits before the point. -/
def general (x : Magnitude) (digits : Nat) (keepsZeros : Bool) : List Char :=
  let digits := max digits 1
  let (ds, e) := x.scientificParts (digits - 1)
  let trim (cs : List Char) := if keepsZeros then cs else dropZeros cs
  if e < -4 || (digits : Int) ≤ e then trim (pointed ds (digits - 1)) ++ 'e' :: exponentText e
  else trim (x.plain ((digits : Int) - 1 - e).toNat)

end Magnitude

end FirmwareSurvey.Decimal
