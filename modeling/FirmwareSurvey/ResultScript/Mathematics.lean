import FirmwareSurvey.ResultScript.Function

/-!
# Functions of numbers

Functions of whole numbers are exact however large these are; those of doubles give the nearest double
where that is told, and complain where there is no answer.
-/

namespace FirmwareSurvey.ResultScript

/-- The product of the numbers of a range, both ends included. -/
def rangeProduct (first : Nat) : Nat → Nat
  | 0 => 1
  | count + 1 => rangeProduct first count * (first + count)

/-- The whole part of the square root of a number, from above by steps. -/
def wholeRoot (n : Nat) : Nat :=
  let rec go : Nat → Nat → Nat
    | 0, x => x
    | fuel + 1, x =>
      let y := (x + n / x) / 2
      if x ≤ y then x else go fuel y
  if n = 0 then 0 else go (Nat.log2 n + 8) (Nat.pow 2 (Nat.log2 n / 2 + 1))

namespace Run

variable (ev : Evaluator)

/-- The double of an argument. -/
def realArgument (v : Value) : Run Binary64 := do
  match v.real? with
  | some x =>
    if x.isFinite || v.whole?.isNone then return x
    else fail "OverflowError" "int too large to convert to float"
  | none =>
    match ← special? v "__float__" with
    | some f => return ((← ev.call f [v] []).real?).getD (.zero false)
    | none => misfit s!"must be real number, not {← kindName v}"

/-- The whole number of an argument that is no double. -/
def wholeArgument (v : Value) : Run Int := do
  match ← place? ev v with
  | some n => return n
  | none => misfit s!"'{← kindName v}' object cannot be interpreted as an integer"

/-- Whether a double lies on or beyond no bounds of the domain of a function. -/
def outsideDomain (name : String) (x : Float) : Bool :=
  match name with
  | "sqrt" => x < 0
  | "log" => x ≤ 0
  | "log2" => x ≤ 0
  | "log10" => x ≤ 0
  | "log1p" => x ≤ -1
  | "acos" => x < -1 || 1 < x
  | "asin" => x < -1 || 1 < x
  | "sin" => x.isInf
  | "cos" => x.isInf
  | "tan" => x.isInf
  | _ => false

/-- The number that halves a turn. -/
def halfTurn : Float := Float.ofBits 0x400921FB54442D18

/-- A function of one double. -/
def realFunction? : String → Option (Float → Float)
  | "sqrt" => some Float.sqrt
  | "exp" => some Float.exp
  | "log1p" => some fun x => Float.log (1 + x)
  | "sin" => some Float.sin
  | "cos" => some Float.cos
  | "tan" => some Float.tan
  | "asin" => some Float.asin
  | "acos" => some Float.acos
  | "atan" => some Float.atan
  | "sinh" => some Float.sinh
  | "cosh" => some Float.cosh
  | "tanh" => some Float.tanh
  | "fabs" => some Float.abs
  | "degrees" => some fun x => x * (180 / halfTurn)
  | "radians" => some fun x => x * (halfTurn / 180)
  | _ => none

/-- The logarithm of a number of any size. -/
def logarithm (log : Float → Float) (v : Value) : Run Float := do
  let refuse : Run Float := unfit "math domain error"
  match v.whole? with
  | some n =>
    if n ≤ 0 then refuse
    else
      -- a number that is too large for a double is halved as often as needed
      let bits := Nat.log2 n.natAbs
      if bits < 1000 then return log (Binary64.ofInt n).toFloat
      else
        let shift := bits - 60
        let rest := n.natAbs / Nat.pow 2 shift
        return log (Float.ofNat rest) + Float.ofNat shift * log 2.0
  | none => do
    let x := (← realArgument ev v).toFloat
    if x ≤ 0 then refuse else return log x

/-- A double rounded by a function to a whole number. -/
def roundedTo (question : String) (up : Bool) (v : Value) : Run Value := do
  match v.whole? with
  | some n => return .number n
  | none =>
    match v with
    | .real x =>
      if x.isUndefined then unfit "cannot convert float NaN to integer"
      else if !x.isFinite then fail "OverflowError" "cannot convert float infinity to integer"
      else
        let (m, d) := Binary64.asQuotient x
        return .number (if up then -(Int.fdiv (-m) d) else Int.fdiv m d)
    | v =>
      match ← special? v question with
      | some f => ev.call f [v] []
      | none => misfit s!"must be real number, not {← kindName v}"

/-- What a function of numbers does; none when there is no such function. -/
def callMathematics (name : String) (given : List Value) (named : Members Value) :
    Run (Option Value) := do
  let whole (n : Int) : Run (Option Value) := return some (.number n)
  let real (x : Float) : Run (Option Value) := return some (.real (.ofFloat x))
  let test (p : Binary64 → Bool) (v : Value) : Run (Option Value) := do
    return some (.truth (p (← realArgument ev v)))
  match name, given with
  | "floor", [v] => return some (← roundedTo ev "__floor__" false v)
  | "ceil", [v] => return some (← roundedTo ev "__ceil__" true v)
  | "trunc", [v] =>
    match v with
    | .real x => whole (← wholeOfReal x)
    | v => whole (← wholeArgument ev v)
  | "isqrt", [v] => do
    let n ← wholeArgument ev v
    if n < 0 then unfit "isqrt() argument must be nonnegative" else whole (wholeRoot n.toNat)
  | "gcd", vs => do
    let ns ← vs.mapM (wholeArgument ev)
    whole (ns.foldl (fun a n => Nat.gcd a n.natAbs) 0 : Nat)
  | "lcm", vs => do
    let ns ← vs.mapM (wholeArgument ev)
    whole (ns.foldl (fun a n => Nat.lcm a n.natAbs) 1 : Nat)
  | "factorial", [v] => do
    match v with
    | .real _ => misfit "'float' object cannot be interpreted as an integer"
    | v => do
      let n ← wholeArgument ev v
      if n < 0 then unfit "factorial() not defined for negative values"
      else whole (rangeProduct 1 n.toNat : Nat)
  | "comb", [v, w] => do
    let n ← wholeArgument ev v
    let k ← wholeArgument ev w
    if n < 0 then unfit "n must be a non-negative integer"
    else if k < 0 then unfit "k must be a non-negative integer"
    else if n < k then whole 0
    else whole (rangeProduct (n - k + 1).toNat k.toNat / rangeProduct 1 k.toNat : Nat)
  | "perm", v :: rest => do
    let n ← wholeArgument ev v
    let k ← match rest with
      | w :: _ => wholeArgument ev w
      | [] => pure n
    if n < k then whole 0 else whole (rangeProduct (n - k + 1).toNat k.toNat : Nat)
  | "prod", [v] => do
    let start := (Members.get? named "start").getD (.number 1)
    let items ← itemsOf ev v
    return some (← items.foldlM (fun a b => operate ev (percent ev) "*" "*" a b) start)
  | "fsum", [v] => do
    let xs ← (← itemsOf ev v).mapM (realArgument ev)
    return some (.real (sumReals (.zero false) xs))
  | "isnan", [v] => test Binary64.isUndefined v
  | "isinf", [v] => test (fun x => !x.isFinite && !x.isUndefined) v
  | "isfinite", [v] => test Binary64.isFinite v
  | "isclose", [v, w] => do
    let a := (← realArgument ev v).toFloat
    let b := (← realArgument ev w).toFloat
    let bound (name : String) (usual : Float) : Run Float := do
      match Members.get? named name with
      | some v => return (← realArgument ev v).toFloat
      | none => return usual
    let relative ← bound "rel_tol" (Float.ofScientific 1 true 9)
    let absolute ← bound "abs_tol" 0
    let distance := (a - b).abs
    return some (.truth (a == b || distance ≤ relative * b.abs || distance ≤ relative * a.abs ||
      distance ≤ absolute))
  | "pow", [v, w] => do
    let x := (← realArgument ev v).toFloat
    let y := (← realArgument ev w).toFloat
    let z := Float.pow x y
    if z.isNaN && !x.isNaN && !y.isNaN then unfit "math domain error"
    else if z.isInf && !x.isInf && !y.isInf then
      if x == 0 then unfit "math domain error" else fail "OverflowError" "math range error"
    else real z
  | "fmod", [v, w] => do
    let x ← realArgument ev v
    let y ← realArgument ev w
    if y.isZero || (!x.isFinite && !x.isUndefined) then unfit "math domain error"
    else return some (.real (Binary64.remainder x y))
  | "copysign", [v, w] => do
    let x ← realArgument ev v
    let y ← realArgument ev w
    return some (.real (if x.isNegative = y.isNegative then x else x.neg))
  | "atan2", [v, w] => do
    real (Float.atan2 (← realArgument ev v).toFloat (← realArgument ev w).toFloat)
  | "hypot", vs => do
    let xs ← vs.mapM (realArgument ev)
    real (Float.sqrt (xs.foldl (fun a x => a + x.toFloat * x.toFloat) 0))
  | "modf", [v] => do
    let x := (← realArgument ev v).toFloat
    let n := if x < 0 then x.ceil else x.floor
    return some (.tuple [.real (.ofFloat (if x.isInf then 0 else x - n)), .real (.ofFloat n)])
  | "ldexp", [v, w] => do
    let x ← realArgument ev v
    let n ← wholeArgument ev w
    real (x.toFloat.scaleB n)
  | "log", [v] => do real (← logarithm ev Float.log v)
  | "log", [v, w] => do
    let below ← logarithm ev Float.log w
    if below == 0 then zeroDivision "division by zero"
    else real ((← logarithm ev Float.log v) / below)
  | "log2", [v] => do real (← logarithm ev Float.log2 v)
  | "log10", [v] => do real (← logarithm ev Float.log10 v)
  | name, [v] =>
    match realFunction? name with
    | none => return none
    | some f => do
      let x := (← realArgument ev v).toFloat
      if outsideDomain name x then unfit "math domain error"
      else
        let y := f x
        if y.isInf && !x.isInf then fail "OverflowError" "math range error" else real y
  | _, _ => return none

end Run

end FirmwareSurvey.ResultScript
