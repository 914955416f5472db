import FirmwareSurvey.ResultScript.Row
import FirmwareSurvey.Text.Lines
import FirmwareSurvey.Text.Search

/-!
# Names of paths in scripts

A path is a text of names with slashes between them. It is joined and cut without a look at storage:
into what stands before the last slash and behind it, and a name into its stem and its ending.
-/

namespace FirmwareSurvey.ResultScript.PathName

/-- Joins paths; one that starts with a slash starts anew. -/
def join (a b : List Char) : List Char :=
  if b.head? = some '/' then b
  else if a.isEmpty || a.getLast? = some '/' then a ++ b
  else a ++ '/' :: b

/-- What stands behind the last slash. -/
def base (p : List Char) : List Char := (p.reverse.takeWhile (· != '/')).reverse

/-- What stands before the last slash, without slashes at its end unless it has only these. -/
def directory (p : List Char) : List Char :=
  let head := p.take (p.length - (base p).length)
  if head.all (· = '/') then head else Text.dropEndWhile (· = '/') head

/-- A path without its ending, and the ending with its point; points at the start of a name start no
ending. -/
def splitEnding (p : List Char) : List Char × List Char :=
  let name := base p
  let points := name.takeWhile (· = '.')
  let rest := name.drop points.length
  let ending := rest.reverse.takeWhile (· != '.')
  if ending.length = rest.length then (p, [])
  else (p.take (p.length - ending.length - 1), '.' :: ending.reverse)

/-- The names of a path, with those taken back that two points take back. -/
def settled (isAbsolute : Bool) : List (List Char) → List (List Char) → List (List Char)
  | done, [] => done.reverse
  | done, name :: names =>
    if name.isEmpty || name = ['.'] then settled isAbsolute done names
    else if name = ['.', '.'] then
      match done with
      | [] => settled isAbsolute (if isAbsolute then [] else [name]) names
      | last :: before =>
        if last = ['.', '.'] then settled isAbsolute (name :: done) names
        else settled isAbsolute before names
    else settled isAbsolute (name :: done) names

/-- Joins names with slashes. -/
def joinNames (names : List (List Char)) : List Char := Text.joinWith '/' names

/-- A path without steps that lead nowhere. -/
def normal (p : List Char) : List Char :=
  if p.isEmpty then ['.']
  else
    let slashes := p.takeWhile (· = '/')
    let start : List Char := if slashes.length = 2 then ['/', '/'] else slashes.take 1
    let names := settled (!start.isEmpty) [] (Text.cut '/' p)
    let all := start ++ joinNames names
    if all.isEmpty then ['.'] else all

/-- The way from one path without steps that lead nowhere to another one. -/
def relative (p start : List Char) : List Char :=
  let names (p : List Char) := (Text.cut '/' p).filter fun n => !n.isEmpty
  let rec common : List (List Char) → List (List Char) → Nat
    | a :: as, b :: bs => if a = b then common as bs + 1 else 0
    | _, _ => 0
  let a := names p
  let b := names start
  let n := common a b
  let all := List.replicate (b.length - n) ['.', '.'] ++ a.drop n
  if all.isEmpty then ['.'] else joinNames all

/-- A path without empty steps, steps that stay, and slashes at its end. -/
def tidy (p : List Char) : List Char :=
  let start : List Char := if p.head? = some '/' then ['/'] else []
  let names := (Text.cut '/' p).filter fun n => !n.isEmpty && n != ['.']
  let all := start ++ joinNames names
  if all.isEmpty then ['.'] else all

/-- The parts of a tidy path: a slash at its start, and the names. -/
def parts (p : List Char) : List (List Char) :=
  let names := (Text.cut '/' p).filter fun n => !n.isEmpty && n != ['.']
  if p.head? = some '/' then ['/'] :: names else names

/-- The name of a tidy path; none for the root and for a path without steps. -/
def name (p : List Char) : List Char := if p = ['.'] || p = ['/'] then [] else base p

/-- The ending of a name with its point; a name that starts or ends with its only point has none. -/
def ending (name : List Char) : List Char :=
  let after := name.reverse.takeWhile (· != '.')
  let before := name.length - after.length - 1
  if after.length = name.length || after.isEmpty || before = 0 then []
  else '.' :: after.reverse

/-- The tidy path above another one. -/
def above (p : List Char) : List Char :=
  if p = ['/'] || p = ['.'] then p
  else
    match directory p with
    | [] => ['.']
    | d => d

end FirmwareSurvey.ResultScript.PathName

/-!
## Operations

Whole numbers have no bounds; division rounds down, and what it leaves over has the sign of the
divisor. Rows are put together and repeated, sets are joined and cut. A kind that a script makes may
answer for its values, also when they stand on the right.
-/

namespace FirmwareSurvey.ResultScript

/-! ### Bits of whole numbers -/

/-- The bits that two whole numbers share; negative ones have infinitely many. -/
def bitsAnd (a b : Int) : Int :=
  match a, b with
  | .ofNat m, .ofNat n => (m &&& n : Nat)
  | .ofNat m, .negSucc n => (m - (m &&& n) : Nat)
  | .negSucc m, .ofNat n => (n - (n &&& m) : Nat)
  | .negSucc m, .negSucc n => .negSucc (m ||| n)

/-- The bits that are not set. -/
def bitsNot (a : Int) : Int := -a - 1

/-- The bits of either of two whole numbers. -/
def bitsOr (a b : Int) : Int := bitsNot (bitsAnd (bitsNot a) (bitsNot b))

/-- The bits of one of two whole numbers but not of both. -/
def bitsXor (a b : Int) : Int := bitsOr a b - bitsAnd a b

/-! ### Doubles -/

/-- The double nearest to a quotient of whole numbers. -/
def quotientReal (a b : Int) : Binary64 :=
  if a = 0 then .zero (b < 0)
  else Binary64.nearestQuotient ((a < 0) != (b < 0)) a.natAbs b.natAbs

/-- What the division of a double by another leaves over, with the sign of the divisor. -/
def realRemainder (x y : Binary64) : Binary64 :=
  let r := Binary64.remainder x y
  if r.isUndefined then r
  else if r.isZero then .zero y.isNegative
  else if r.isNegative != y.isNegative then Binary64.hardware (· + ·) r y
  else r

/-- The quotient of doubles, rounded down. -/
def realQuotient (x y : Binary64) : Binary64 :=
  if !x.isFinite || !y.isFinite then .ofFloat (x.toFloat / y.toFloat).floor
  else
    -- the quotient without what is left over is a whole number but for its last bits
    let exact := Binary64.hardware (fun a b => (a - (realRemainder x y).toFloat) / b) x y
    let near := exact.toFloat.round
    if exact.isZero then .zero (x.isNegative != y.isNegative) else .ofFloat near

namespace Run

variable (ev : Evaluator)

/-- How many characters or items a repetition may have. -/
def repetitionLimit : Int := 50000000

/-- A row that is repeated. -/
def repeated {α : Type} (items : List α) (n : Int) : Run (List α) := do
  if repetitionLimit < n * items.length then fail "MemoryError" ""
  else return (List.replicate n.toNat items).flatten

/-- Fails because two values cannot be worked on together. -/
def noOperation {α : Type} (sign : String) (a b : Value) : Run α := do
  let sign := if sign == "**" then "** or pow()" else sign
  misfit s!"unsupported operand type(s) for {sign}: '{← kindName a}' and '{← kindName b}'"

/-- Fails because of a division by zero. -/
def zeroDivision {α : Type} (reason : String) : Run α := fail "ZeroDivisionError" reason

/-- The power of whole numbers. -/
def wholePower (a b : Int) : Run Value := do
  if 0 ≤ b then
    if 1 < a.natAbs && 10000000 < (Nat.log2 a.natAbs : Int) * b then fail "MemoryError" ""
    else return .number (Int.pow a b.toNat)
  else if a = 0 then zeroDivision "0.0 cannot be raised to a negative power"
  else return .real (Binary64.hardware Float.pow (Binary64.ofInt a) (Binary64.ofInt b))

/-- The power of doubles. -/
def realPower (x y : Binary64) : Run Value := do
  if x.isZero && y.isNegative && !y.isZero && !y.isUndefined then
    zeroDivision "0.0 cannot be raised to a negative power"
  else
    let r := Binary64.hardware Float.pow x y
    if x.isFinite && y.isFinite && !r.isFinite && !r.isUndefined then
      raise (← makeFailure "OverflowError"
        [.number 34, .ofString "Numerical result out of range"])
    else return .real r

/-- An operation on whole numbers. -/
def wholeOperation (sign : String) (a b : Int) : Run (Option Value) := do
  match sign with
  | "+" => return some (.number (a + b))
  | "-" => return some (.number (a - b))
  | "*" => return some (.number (a * b))
  | "/" =>
    if b = 0 then zeroDivision "division by zero"
    else
      let q := quotientReal a b
      if q.isFinite then return some (.real q)
      else fail "OverflowError" "integer division result too large for a float"
  | "//" =>
    if b = 0 then zeroDivision "integer division or modulo by zero"
    else return some (.number (Int.fdiv a b))
  | "%" =>
    if b = 0 then zeroDivision "integer modulo by zero" else return some (.number (Int.fmod a b))
  | "**" => return some (← wholePower a b)
  | "&" => return some (.number (bitsAnd a b))
  | "|" => return some (.number (bitsOr a b))
  | "^" => return some (.number (bitsXor a b))
  | "<<" =>
    if b < 0 then unfit "negative shift count"
    else if a != 0 && 10000000 < b then fail "MemoryError" ""
    else return some (.number (a * (Nat.pow 2 b.toNat : Nat)))
  | ">>" =>
    if b < 0 then unfit "negative shift count"
    else if 10000000 < b then return some (.number (if a < 0 then -1 else 0))
    else return some (.number (Int.fdiv a (Nat.pow 2 b.toNat : Nat)))
  | _ => return none

/-- An operation on doubles. -/
def realOperation (sign : String) (x y : Binary64) : Run (Option Value) := do
  match sign with
  | "+" => return some (.real (Binary64.hardware (· + ·) x y))
  | "-" => return some (.real (Binary64.hardware (· - ·) x y))
  | "*" => return some (.real (Binary64.hardware (· * ·) x y))
  | "/" =>
    if y.isZero then zeroDivision "float division by zero"
    else return some (.real (Binary64.hardware (· / ·) x y))
  | "//" =>
    if y.isZero then zeroDivision "float floor division by zero"
    else return some (.real (realQuotient x y))
  | "%" =>
    if y.isZero then zeroDivision "float modulo" else return some (.real (realRemainder x y))
  | "**" => return some (← realPower x y)
  | _ => return none

/-- The items that two rows have in common, and the like. -/
def setOperation (sign : String) (as bs : List Value) : Option (List Value) :=
  let has (items : List Value) (v : Value) := items.any (sameKey · v)
  if sign == "|" then some (bs.foldl addKey as)
  else if sign == "&" then some (as.filter (has bs))
  else if sign == "-" then some (as.filter fun v => !has bs v)
  else if sign == "^" then
    some (as.filter (fun v => !has bs v) ++ bs.filter fun v => !has as v)
  else none

/-- What is counted in two tables together. -/
def countsTogether (sign : String) (as bs : List (Value × Value)) : Option (List (Value × Value)) :=
  let count (ms : List (Value × Value)) (k : Value) : Int :=
    ((keyed? ms k).bind Value.whole?).getD 0
  let keys := bs.foldl (fun ks m => addKey ks m.1) (as.map (·.1))
  let combined? : Option (Int → Int → Int) :=
    if sign == "+" then some (· + ·)
    else if sign == "-" then some (· - ·)
    else if sign == "&" then some min
    else if sign == "|" then some max
    else none
  combined?.map fun f =>
    (keys.map fun k => (k, f (count as k) (count bs k))).filterMap fun (k, n) =>
      if 0 < n then some (k, .number n) else none

/-- An operation on things. -/
def thingOperation? (sign : String) (a b : Value) : Run (Option Value) := do
  match ← thing? a, ← thing? b with
  | some (.list as), some (.list bs) =>
    if sign == "+" then return some (← make (.list (as ++ bs))) else return none
  | some (.deque as most), some (.deque bs _) =>
    if sign == "+" then return some (← make (.deque (as ++ bs) most)) else return none
  | some (.table kind _ as), some (.table kind' _ bs) =>
    if kind == "collections.Counter" && kind' == kind then
      match countsTogether sign as bs with
      | some members => return some (← make (.table kind .nothing members))
      | none => return none
    else if sign == "|" then
      return some (← make (.table kind .nothing (bs.foldl (fun ms m => putKey m.1 m.2 ms) as)))
    else return none
  | some (.plain (.known "pathlib.PosixPath") as), other =>
    if sign == "/" then
      let right? := match b, other with
        | .text cs, _ => some cs
        | _, some (.plain (.known "pathlib.PosixPath") bs) =>
          match Members.get? bs "__text__" with
          | some (.text cs) => some cs
          | _ => none
        | _, _ => none
      match Members.get? as "__text__", right? with
      | some (.text cs), some right =>
        return some (← make (.plain (.known "pathlib.PosixPath")
          [("__text__", .text (PathName.tidy (PathName.join cs right)))]))
      | _, _ => return none
    else return none
  | left, right =>
    match ← setItems? a, ← setItems? b with
    | some as, some bs =>
      let isFixed := match left, right with
        | some (.set f _), _ => f
        | _, _ => false
      match setOperation sign as bs with
      | some items => return some (← make (.set isFixed items))
      | none => return none
    | _, _ =>
      match left, a, b.whole? with
      | some (.list as), _, some n =>
        if sign == "*" then return some (← makeList (← repeated as.toList n)) else return none
      | _, _, _ =>
        match right, a.whole? with
        | some (.list bs), some n =>
          if sign == "*" then return some (← makeList (← repeated bs.toList n)) else return none
        | _, _ => return none

/-- An operation on values that need no kind to answer for them. -/
def plainOperation? (sign : String) (a b : Value) : Run (Option Value) := do
  match a, b with
  | .truth x, .truth y =>
    if sign == "&" then return some (.truth (x && y))
    else if sign == "|" then return some (.truth (x || y))
    else if sign == "^" then return some (.truth (x != y))
    else wholeOperation sign (if x then 1 else 0) (if y then 1 else 0)
  | .text x, .text y => return if sign == "+" then some (.text (x ++ y)) else none
  | .octets x, .octets y => return if sign == "+" then some (.octets (x ++ y)) else none
  | .tuple x, .tuple y => return if sign == "+" then some (.tuple (x ++ y)) else none
  | a, b =>
    match a.whole?, b.whole? with
    | some m, some n => wholeOperation sign m n
    | _, _ =>
      match a.real?, b.real? with
      | some x, some y => realOperation sign x y
      | _, _ =>
        if sign == "*" then
          match a, b.whole?, b, a.whole? with
          | .text x, some n, _, _ => return some (.text (← repeated x n))
          | .octets x, some n, _, _ => return some (.octets (← repeated x n))
          | .tuple x, some n, _, _ => return some (.tuple (← repeated x n))
          | _, _, .text x, some n => return some (.text (← repeated x n))
          | _, _, .octets x, some n => return some (.octets (← repeated x n))
          | _, _, .tuple x, some n => return some (.tuple (← repeated x n))
          | a, _, b, _ => thingOperation? sign a b
        else thingOperation? sign a b

/-- What a kind is asked for a sign. -/
def questionFor : String → String
  | "+" => "add__"
  | "-" => "sub__"
  | "*" => "mul__"
  | "/" => "truediv__"
  | "//" => "floordiv__"
  | "%" => "mod__"
  | "**" => "pow__"
  | "&" => "and__"
  | "|" => "or__"
  | "^" => "xor__"
  | "<<" => "lshift__"
  | ">>" => "rshift__"
  | _ => "matmul__"

/-- Whether a value is a row to which others are added. -/
def isRow (v : Value) : Run Bool := do
  match v with
  | .text _ => return true
  | .octets _ => return true
  | .tuple _ => return true
  | v =>
    match ← thing? v with
    | some (.list _) => return true
    | some (.deque _ _) => return true
    | _ => return false

/-- Fails because an operation is not there; `sign` may be one that changes a value. -/
def refuseOperation (sign changing : String) (a b : Value) : Run Value := do
  let kind ← kindName a
  let other ← kindName b
  if sign == "+" && (← isRow a) then
    match a with
    | .octets _ => misfit s!"can't concat {other} to bytes"
    | _ => misfit s!"can only concatenate {kind} (not \"{other}\") to {kind}"
  else if sign == "*" && (← isRow a) then
    misfit s!"can't multiply sequence by non-int of type '{other}'"
  else if sign == "*" && (← isRow b) then
    misfit s!"can't multiply sequence by non-int of type '{kind}'"
  else noOperation changing a b

/-- The result of an operation on two values; `changing` is its sign in a complaint. -/
def operate (percent : List Char → Value → Run (List Char)) (sign changing : String)
    (a b : Value) : Run Value := do
  match a with
  | .text cs =>
    if sign == "%" then return .text (← percent cs b)
  | .octets bytes =>
    if sign == "%" then
      let text ← percent (bytes.map fun b => Char.ofNat b.toNat) b
      return .octets (text.map fun c => c.toNat.toUInt8)
  | _ => pure ()
  match ← plainOperation? sign a b with
  | some v => return v
  | none =>
    match ← answer? ev ("__" ++ questionFor sign) a b with
    | some v => return v
    | none =>
      match ← answer? ev ("__r" ++ questionFor sign) b a with
      | some v => return v
      | none => refuseOperation sign changing a b

/-- The result of an operation that changes its first value, if that is possible. -/
def changeInPlace (percent : List Char → Value → Run (List Char)) (sign : String) (a b : Value) :
    Run Value := do
  let changing := (if sign == "**" then "** or pow()" else sign) ++ "="
  let usual : Run Value := operate ev percent sign changing a b
  match a with
  | .thing place =>
    match (← get).things[place]? with
    | some (.list items) =>
      if sign == "+" then
        let more ← itemsOf ev b
        -- what goes through the items may have changed the list
        match (← get).things[place]? with
        | some (.list items) => change place (.list (items ++ more.toArray))
        | _ => change place (.list (items ++ more.toArray))
        return a
      else if sign == "*" then
        match b.whole? with
        | some n => do
          change place (.list (← repeated items.toList n).toArray)
          return a
        | none => usual
      else usual
    | some (.set false items) =>
      match ← setItems? b with
      | some others =>
        match setOperation sign items others with
        | some items => do
          change place (.set false items)
          return a
        | none => usual
      | none => usual
    | some (.table kind maker members) =>
      match ← thing? b with
      | some (.table kind' _ others) =>
        if kind == "collections.Counter" && kind' == kind then
          match countsTogether sign members others with
          | some members => do
            change place (.table kind maker members)
            return a
          | none => usual
        else if sign == "|" then
          change place (.table kind maker (others.foldl (fun ms m => putKey m.1 m.2 ms) members))
          return a
        else usual
      | _ => usual
    | _ =>
      match ← answer? ev ("__i" ++ questionFor sign) a b with
      | some v => return v
      | none => usual
  | _ => usual

/-- A sign before a value. -/
def signed (sign : String) (v : Value) : Run Value := do
  let refuse : Run Value := do misfit s!"bad operand type for unary {sign}: '{← kindName v}'"
  match v.whole? with
  | some n =>
    return .number (if sign == "-" then -n else if sign == "~" then bitsNot n else n)
  | none =>
    match v with
    | .real x =>
      if sign == "-" then return .real x.neg else if sign == "+" then return v else refuse
    | v =>
      let question := if sign == "-" then "__neg__" else if sign == "+" then "__pos__"
        else "__invert__"
      match ← special? v question with
      | some f => ev.call f [v] []
      | none => refuse

end Run

end FirmwareSurvey.ResultScript
