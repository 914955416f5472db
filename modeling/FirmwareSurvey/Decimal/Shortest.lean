import FirmwareSurvey.Decimal.Binary64

/-!
# Shortest decimals

The decimal written for a finite number is the one with the fewest digits among those that read
back as the number, and among these the one nearest to it. On the grid of decimals with a given
exponent only the two neighbours of the number need a look: if any point of the grid reads back,
one of them does.

A number is compared with grid points as a fraction over a common denominator, so every step is
arithmetic on naturals.
-/

namespace FirmwareSurvey.Binary64

/-- A decimal `digits · 10 ^ scale`. -/
structure Decimal where
  /-- The digits, read as a natural number. -/
  digits : Nat
  /-- The power of ten. -/
  scale : Int
deriving DecidableEq, Repr

/-- A finite nonzero magnitude, four times its significand, with the half-way points to its
neighbours as multiples of the same unit `2 ^ (exponent - 2)`. -/
structure Interval where
  /-- The number itself. -/
  value : Nat
  /-- The half-way point below. -/
  low : Nat
  /-- The half-way point above. -/
  high : Nat
  /-- Whether the half-way points themselves read back as the number. -/
  closed : Bool
  /-- The unit is this power of two. -/
  unit : Int

/-- The reals that round to a number. The gap below a power of two is half the gap above. -/
def interval (x : Binary64) : Interval :=
  let m := x.significand
  let narrow := x.fraction == 0 && 1 < x.biasedExponent
  { value := 4 * m
    low := if narrow then 4 * m - 1 else 4 * m - 2
    high := 4 * m + 2
    closed := m % 2 == 0
    unit := x.exponent - 2 }

/-- The grid point for one number of digits that reads back, if a neighbour does. The grid has the
step `10 ^ scale`; `num` and `den` turn units of the interval into grid steps. -/
def Interval.neighbour? (i : Interval) (num den : Nat) : Option Nat :=
  let below := i.value * num / den
  let above := below + 1
  let inside (g : Nat) : Bool :=
    if i.closed then i.low * num ≤ g * den && g * den ≤ i.high * num
    else i.low * num < g * den && g * den < i.high * num
  let lowOk := inside below && below != 0
  let highOk := inside above
  if lowOk && highOk then
    let down := i.value * num - below * den
    let up := above * den - i.value * num
    if down < up then some below
    else if up < down then some above
    else if below % 2 == 0 then some below else some above
  else if lowOk then some below
  else if highOk then some above
  else none

/-- Factors that turn units of `2 ^ unit` into steps of `10 ^ scale`. -/
def gridFactors (unit scale : Int) : Nat × Nat :=
  let num := (if 0 ≤ unit then Nat.pow 2 unit.toNat else 1) *
    (if scale < 0 then Nat.pow 10 (-scale).toNat else 1)
  let den := (if unit < 0 then Nat.pow 2 (-unit).toNat else 1) *
    (if 0 ≤ scale then Nat.pow 10 scale.toNat else 1)
  (num, den)

/-- Drops the zeros that end a decimal's digits; `fuel` bounds their number. -/
def Decimal.stripZeros : Nat → Decimal → Decimal
  | 0, d => d
  | fuel + 1, d =>
    if d.digits != 0 && d.digits % 10 == 0 then stripZeros fuel ⟨d.digits / 10, d.scale + 1⟩ else d

/-- The number of decimal digits before the point of a positive magnitude: the power `k` with
`10 ^ (k - 1) ≤ value < 10 ^ k`. -/
def Interval.magnitude (i : Interval) : Int :=
  let (num, den) := gridFactors i.unit 0
  let a := i.value * num
  if den ≤ a then (Nat.toDigits 10 (a / den)).length
  else
    -- zeros after the point of a fraction below one
    let zeros := (Nat.toDigits 10 (den / a)).length
    if den ≤ a * Nat.pow 10 (zeros - 1) then 2 - (zeros : Int) else 1 - (zeros : Int)

/-- The shortest decimal of a finite nonzero magnitude, trying `digits`, `digits + 1`, … digits. -/
def Interval.shortest (i : Interval) (magnitude : Int) : Nat → Nat → Decimal
  | 0, digits => ⟨0, digits⟩
  | fuel + 1, digits =>
    let scale := magnitude - digits
    let (num, den) := gridFactors i.unit scale
    match i.neighbour? num den with
    | some g => Decimal.stripZeros 20 ⟨g, scale⟩
    | none => i.shortest magnitude fuel (digits + 1)

/-- The shortest decimal that reads back as the magnitude of a finite number. -/
def shortest (x : Binary64) : Decimal :=
  if x.isZero then ⟨0, 0⟩
  else
    let i := x.interval
    i.shortest i.magnitude 18 1

/-! ### Two written forms -/

/-- The digits of a decimal with a point, never with an exponent, and at least one digit on either
side of the point. -/
def Decimal.positional (d : Decimal) : List Char :=
  let ds := Nat.toDigits 10 d.digits
  if 0 ≤ d.scale then
    (if d.digits == 0 then ds else ds ++ List.replicate d.scale.toNat '0') ++ ['.', '0']
  else
    let places := (-d.scale).toNat
    let ds := List.replicate (places + 1 - ds.length) '0' ++ ds
    ds.take (ds.length - places) ++ '.' :: ds.drop (ds.length - places)

/-- The digits of a decimal in scientific form: one digit before the point, and the exponent with
its sign. -/
def Decimal.scientific (d : Decimal) : List Char :=
  let ds := Nat.toDigits 10 d.digits
  let e : Int := d.scale + ds.length - 1
  let sign := if e < 0 then '-' else '+'
  let mantissa := match ds with
    | [] => []
    | [c] => [c]
    | c :: cs => c :: '.' :: cs
  mantissa ++ 'e' :: sign :: Nat.toDigits 10 e.natAbs

/-- The number as a plain decimal. -/
def plainText (x : Binary64) : List Char :=
  (if x.isNegative then ['-'] else []) ++ x.shortest.positional

/-- The number as a decimal that turns scientific from `10 ^ 16` on and below `10 ^ -5`. -/
def compactText (x : Binary64) : List Char :=
  let d := x.shortest
  let magnitude : Int := d.scale + (Nat.toDigits 10 d.digits).length
  (if x.isNegative then ['-'] else []) ++
    if d.digits == 0 || (-5 < magnitude && magnitude ≤ 16) then d.positional else d.scientific

end FirmwareSurvey.Binary64
