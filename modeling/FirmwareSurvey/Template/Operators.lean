import FirmwareSurvey.Template.Expression
import FirmwareSurvey.Template.Value

/-!
# Operators of a template

Whole numbers are computed with exactly, within the range of signed 128-bit words; two literals
beyond that range stand for the words of the same bits. With a double on either side the operation is
that on doubles. Division always gives a double; the whole quotient and the remainder are such that
the remainder is never negative. Texts and lists are put one behind the other by a sum and repeated
by a product; lists become runs thereby. Every other combination fails.
-/

namespace FirmwareSurvey.Template

open Value

/-- The least number beyond the range computed in. -/
def signedLimit : Int := (Nat.pow 2 127 : Nat)

/-- A whole number within the range computed in. -/
def bounded? (n : Int) : Option Value :=
  if -signedLimit ≤ n ∧ n < signedLimit then some (.int n) else none

/-- Whether a whole number may be a literal beyond the words of 64 bits. -/
def isWide (n : Int) : Bool := Text.wordLimit ≤ n

/-- The signed word of the bits of an unsigned one. -/
def signedWord (n : Int) : Int := if n < signedLimit then n else n - 2 * signedLimit

/-- Two whole numbers as words to compute with. -/
def words? (m n : Int) : Option (Int × Int) :=
  if isWide m && isWide n then some (signedWord m, signedWord n)
  else if m < signedLimit && n < signedLimit then some (m, n)
  else none

/-- An operation on two numbers, given on whole numbers and on doubles. -/
def onNumbers? (whole : Int → Int → Option Value) (float : Binary64 → Binary64 → Binary64)
    (a b : Value) : Option Value :=
  match a.whole?, b.whole? with
  | some m, some n => (words? m n).bind fun (m, n) => whole m n
  | _, _ =>
    match a.float?, b.float? with
    | some x, some y => some (.float (float x y))
    | _, _ => none

/-- A text or a list repeated as often as a number tells. -/
def repeated? (v count : Value) : Option Value :=
  match count.place? with
  | none => none
  | some n =>
    if n < 0 ∨ (Text.wordLimit : Int) ≤ n then none
    else
      match v with
      | .text s => some (.text (String.join (List.replicate n.toNat s)))
      | v => v.sequence?.map fun items => .run (List.replicate n.toNat items).flatten

/-- Whether a value is a text or holds a list. -/
def isRepeatable (v : Value) : Bool :=
  match v with
  | .text _ => true
  | v => v.sequence?.isSome

/-- The power of whole numbers. -/
def power? (m n : Int) : Option Value :=
  if n < 0 then none
  else if 128 ≤ n && 2 ≤ m.natAbs then none
  else if m.natAbs < 2 then
    bounded? (if m = -1 && n % 2 = 0 then 1 else if n = 0 then 1 else m)
  else bounded? (Int.pow m n.toNat)

/-- The value of an operator with one operand. -/
def unary? : UnaryOp → Value → Option Value
  | .negation, v => some (.bool !v.isTrue)
  | .minus, .int n => bounded? (-n)
  | .minus, .float x => some (.float x.neg)
  | .minus, _ => none

/-- Whether a comparison of two values holds. -/
def compares? (c : Comparison) (a b : Value) : Option Bool :=
  match c with
  | .equal => some (a.same b)
  | .different => some !(a.same b)
  | .less => some (a.order b == .lt)
  | .atMost => some (a.order b != .gt)
  | .greater => some (a.order b == .gt)
  | .atLeast => some (a.order b != .lt)
  | .element => a.isIn? b
  | .noElement => (a.isIn? b).map (!·)

/-- The value of an operator with two operands. -/
def binary? (op : BinaryOp) (a b : Value) : Option Value :=
  match op with
  | .concatenation => some (.text (a.written ++ b.written))
  | .sum =>
    match a.sequence?, b.sequence? with
    | some as, some bs => some (.run (as ++ bs))
    | _, _ =>
      match a, b with
      | .text s, .text t => some (.text (s ++ t))
      | _, _ => onNumbers? (fun m n => bounded? (m + n)) (Binary64.hardware (· + ·)) a b
  | .difference => onNumbers? (fun m n => bounded? (m - n)) (Binary64.hardware (· - ·)) a b
  | .product =>
    if isRepeatable a then repeated? a b
    else if isRepeatable b then repeated? b a
    else onNumbers? (fun m n => bounded? (m * n)) (Binary64.hardware (· * ·)) a b
  | .quotient =>
    match a.float?, b.float? with
    | some x, some y => some (.float (Binary64.hardware (· / ·) x y))
    | _, _ => none
  | .wholeQuotient =>
    onNumbers? (fun m n => if n = 0 then none else bounded? (m / n)) Binary64.wholeQuotient a b
  | .remainder =>
    onNumbers? (fun m n => if n = 0 then none else some (.int (m % n))) Binary64.remainder a b
  | .power => onNumbers? power? (Binary64.hardware Float.pow) a b

/-! ### Parts of lists and texts -/

/-- The places from one on, by a step of at least one, before another. -/
def placesUp (start stop step : Nat) : List Nat :=
  (List.range ((stop - start + (step - 1)) / step)).map fun i => start + i * step

/-- The places of a part of `size` items. Bounds that are negative count from the end, and those
beyond an end stand for it. A negative step runs backwards. -/
def placesOf (size : Nat) (start stop : Option Int) (step : Int) : List Nat :=
  let clip (low high : Int) (n : Int) : Int :=
    max low (min high (if n < 0 then n + size else n))
  if 0 < step then
    let first := (start.map (clip 0 size)).getD 0
    let last := (stop.map (clip 0 size)).getD size
    placesUp first.toNat last.toNat step.toNat
  else
    let first := (start.map (clip (-1) (size - 1))).getD (size - 1)
    let last := (stop.map (clip (-1) (size - 1))).getD (-1)
    -- counted from the end, a part that runs backwards runs forwards
    (placesUp (size - 1 - first).toNat (size - 1 - last).toNat step.natAbs).map (size - 1 - ·)

/-- A bound of a part. None when the value is no place. -/
def sliceEnd? (v : Value) : Option (Option Int) :=
  match v with
  | .nothing => some none
  | v => v.place?.map some

/-- A part of a value. -/
def part? (v start stop step : Value) : Option Value := do
  let start ← sliceEnd? start
  let stop ← sliceEnd? stop
  let step := (← sliceEnd? step).getD 1
  if step = 0 then none
  else
    match v with
    | .undefined => some (.list [])
    | .nothing => some (.list [])
    | .text s =>
      let cs := s.toList
      some (.text (String.ofList ((placesOf cs.length start stop step).filterMap (cs[·]?))))
    | v => do
      let items ← v.sequence?
      some (.run ((placesOf items.length start stop step).filterMap (items[·]?)))

end FirmwareSurvey.Template
