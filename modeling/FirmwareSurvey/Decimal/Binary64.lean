

/-!
# Binary floating-point numbers

A `Binary64` is a double-precision number given by its bit pattern, so that two numbers are equal
exactly when their bits are. A finite one stands for `± m · 2 ^ q` with a natural significand `m`
below `2 ^ 53`.
-/

namespace FirmwareSurvey

/-- A double-precision binary number, by its bits. -/
structure Binary64 where
  /-- The sign, the biased exponent and the fraction. -/
  bits : UInt64
deriving DecidableEq, Repr

namespace Binary64

/-- The number the hardware computes with. -/
def toFloat (x : Binary64) : Float := Float.ofBits x.bits

/-- The bits of a number the hardware computed. -/
def ofFloat (x : Float) : Binary64 := ⟨x.toBits⟩

/-- Whether the sign bit is set. -/
def isNegative (x : Binary64) : Bool := x.bits >>> 63 == 1

/-- The biased exponent. -/
def biasedExponent (x : Binary64) : Nat := ((x.bits >>> 52) &&& 0x7FF).toNat

/-- The value of the highest bit of a significand, which is not written. -/
def hiddenBit : Nat := 0x10000000000000

/-- The fraction bits. -/
def fraction (x : Binary64) : Nat := (x.bits &&& 0xFFFFFFFFFFFFF).toNat

/-- Whether the number is neither infinite nor undefined. -/
def isFinite (x : Binary64) : Bool := x.biasedExponent != 0x7FF

/-- Whether the number is undefined. -/
def isUndefined (x : Binary64) : Bool := x.biasedExponent == 0x7FF && x.fraction != 0

/-- Whether the number is one of the two zeros. -/
def isZero (x : Binary64) : Bool := x.biasedExponent == 0 && x.fraction == 0

/-- The natural significand of a finite number. -/
def significand (x : Binary64) : Nat :=
  if x.biasedExponent == 0 then x.fraction else hiddenBit + x.fraction

/-- The power of two the significand of a finite number is multiplied by. -/
def exponent (x : Binary64) : Int :=
  if x.biasedExponent == 0 then -1074 else (x.biasedExponent : Int) - 1075

/-- The number with the other sign. -/
def neg (x : Binary64) : Binary64 := ⟨x.bits ^^^ 0x8000000000000000⟩

/-- The number with sign, biased exponent and fraction as given. -/
def ofParts (negative : Bool) (biased fraction : Nat) : Binary64 :=
  let sign : UInt64 := if negative then 0x8000000000000000 else 0
  ⟨sign ||| (UInt64.ofNat biased <<< 52) ||| UInt64.ofNat fraction⟩

/-- Infinity. -/
def infinity (negative : Bool) : Binary64 := ofParts negative 0x7FF 0

/-- An undefined number. -/
def undefined (negative : Bool) : Binary64 := ofParts negative 0x7FF 0x8000000000000

/-- Zero. -/
def zero (negative : Bool) : Binary64 := ofParts negative 0 0

end Binary64

end FirmwareSurvey

/-!
## Reading decimals

`nearest` gives the double-precision number nearest to a decimal `digits · 10 ^ scale`, ties going
to the even significand. The decimal is first written as a quotient of natural numbers; the
quotient is brought to 53 bits by a power of two, and its rest decides the rounding.
-/

namespace FirmwareSurvey.Binary64

/-- A quotient of naturals rounded to the nearest natural, ties to even. -/
def roundQuotient (num den : Nat) : Nat :=
  let q := num / den
  let r := num % den
  if 2 * r < den then q
  else if den < 2 * r then q + 1
  else if q % 2 == 0 then q else q + 1

/-- The double nearest to the positive quotient `num / den`. -/
def nearestQuotient (negative : Bool) (num den : Nat) : Binary64 :=
  -- the exponent for which the quotient has 53 bits, corrected by one where the estimate is low
  let estimate : Int := (Nat.log2 num : Int) - (Nat.log2 den : Int) - 52
  let scaled (e : Int) : Nat × Nat :=
    if e < 0 then (num * Nat.pow 2 (-e).toNat, den) else (num, den * Nat.pow 2 e.toNat)
  let e :=
    let (a, b) := scaled estimate
    if a / b < hiddenBit then estimate - 1 else estimate
  let e := if e < -1074 then -1074 else e
  let (a, b) := scaled e
  let m := roundQuotient a b
  -- rounding up may reach the next power of two
  let (m, e) := if m == 2 * hiddenBit then (hiddenBit, e + 1) else (m, e)
  if m < hiddenBit then ofParts negative 0 m
  else if 971 < e then infinity negative
  else ofParts negative (e + 1075).toNat (m - hiddenBit)

/-- The double nearest to `digits · 10 ^ scale`. -/
def nearest (negative : Bool) (digits : Nat) (scale : Int) : Binary64 :=
  if digits == 0 then zero negative
  else
    -- beyond these bounds the answer does not depend on the digits
    let magnitude := scale + (Nat.toDigits 10 digits).length
    if 310 < magnitude then infinity negative
    else if magnitude < -330 then zero negative
    else if scale < 0 then nearestQuotient negative digits (Nat.pow 10 (-scale).toNat)
    else nearestQuotient negative (digits * Nat.pow 10 scale.toNat) 1

end FirmwareSurvey.Binary64

/-!
## Computing with doubles

A finite double is a quotient of whole numbers, and that decides how it compares with other numbers
and what a division leaves over. The other operations are those of the hardware.
-/

namespace FirmwareSurvey.Binary64

/-- The double nearest to a whole number. -/
def ofInt (n : Int) : Binary64 :=
  if n = 0 then .zero false else nearestQuotient (n < 0) n.natAbs 1

/-- A finite double as a fraction of whole numbers, the second a power of two. -/
def asQuotient (x : Binary64) : Int × Nat :=
  let m : Int := if x.isNegative then -(x.significand : Int) else x.significand
  if 0 ≤ x.exponent then (m * (Nat.pow 2 x.exponent.toNat : Nat), 1)
  else (m, Nat.pow 2 (-x.exponent).toNat)

/-- The whole number that a double is, if it is one. -/
def whole? (x : Binary64) : Option Int :=
  if x.isFinite then
    let (m, d) := asQuotient x
    if m % d = 0 then some (m / d) else none
  else none

/-- The place of an infinite or undefined double in the order of all numbers, from the negative
undefined ones to the positive ones; the finite ones lie between. -/
def boundlessRank (x : Binary64) : Int :=
  let n : Int := if x.isFinite then 0 else if x.isUndefined then 2 else 1
  if x.isNegative then -n else n

/-- The order of two doubles. The two zeros are equal. -/
def order (x y : Binary64) : Ordering :=
  (compare (boundlessRank x) (boundlessRank y)).then
    (if x.isFinite && y.isFinite then
      let (m, d) := asQuotient x
      let (n, e) := asQuotient y
      compare (m * e) (n * d)
    else .eq)

/-- The order of a whole number and a double. -/
def orderInt (n : Int) (x : Binary64) : Ordering :=
  (compare 0 (boundlessRank x)).then
    (let (m, d) := asQuotient x
    compare (n * d) m)

/-- An operation of the hardware on doubles. -/
def hardware (f : Float → Float → Float) (x y : Binary64) : Binary64 :=
  .ofFloat (f x.toFloat y.toFloat)

/-- What the division of a double by another leaves over, with the sign of the first. -/
def remainder (x y : Binary64) : Binary64 :=
  if !x.isFinite || y.isUndefined || y.isZero then .undefined false
  else if !y.isFinite then x
  else
    let e := min x.exponent y.exponent
    let r :=
      x.significand * Nat.pow 2 (x.exponent - e).toNat %
        (y.significand * Nat.pow 2 (y.exponent - e).toNat)
    if r = 0 then .zero x.isNegative
    else if 0 ≤ e then nearestQuotient x.isNegative (r * Nat.pow 2 e.toNat) 1
    else nearestQuotient x.isNegative r (Nat.pow 2 (-e).toNat)

/-- The whole quotient of doubles. -/
def wholeQuotient (x y : Binary64) : Binary64 :=
  let q := x.toFloat / y.toFloat
  let q := if q < 0 then q.ceil else q.floor
  let r := remainder x y
  .ofFloat (if r.isNegative && !r.isZero then (if y.isNegative then q + 1 else q - 1) else q)

end FirmwareSurvey.Binary64
