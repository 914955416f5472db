import FirmwareSurvey.Decimal.Places
import FirmwareSurvey.ResultScript.Operation
import FirmwareSurvey.ResultScript.Print

/-!
# Formats

A format says how a value is laid out: how wide, on which side and filled with what, with which sign
and how many digits, and in which form. Formats stand behind a colon in a text with values in it;
older ones stand behind a percent sign.
-/

namespace FirmwareSurvey.ResultScript

open Decimal (Magnitude)

/-- A format. -/
structure Format where
  /-- What it is filled with. -/
  fill : Char := ' '
  /-- The side: left, right, both, or behind the sign. -/
  align : Option Char := none
  /-- What stands before numbers that are not negative. -/
  sign : Char := '-'
  /-- Whether a zero has no sign. -/
  isPlainZero : Bool := false
  /-- Whether the form is told. -/
  isAlternate : Bool := false
  /-- The least width. -/
  width : Nat := 0
  /-- What stands between groups of digits. -/
  grouping : Option Char := none
  /-- How many digits. -/
  precision : Option Nat := none
  /-- The form. -/
  form : Option Char := none

namespace Format

/-- Whether a character tells a side. -/
def isAlign (c : Char) : Bool := c = '<' || c = '>' || c = '=' || c = '^'

/-- Reads a natural number. -/
def number? (cs : List Char) : Option Nat × List Char :=
  let ds := cs.takeWhile Char.isDigit
  (if ds.isEmpty then none else Text.digitsValue? 10 0 ds, cs.drop ds.length)

/-- Reads a format. -/
def ofChars? (cs : List Char) : Option Format :=
  let (f, cs) : Format × List Char := match cs with
    | fill :: a :: rest =>
      if isAlign a then ({ fill, align := some a }, rest)
      else if isAlign fill then ({ align := some fill }, a :: rest)
      else ({}, cs)
    | [a] => if isAlign a then ({ align := some a }, []) else ({}, cs)
    | [] => ({}, [])
  let (f, cs) : Format × List Char := match cs with
    | c :: rest => if c = '+' || c = '-' || c = ' ' then ({ f with sign := c }, rest) else (f, cs)
    | [] => (f, cs)
  let (f, cs) : Format × List Char := match cs with
    | 'z' :: rest => ({ f with isPlainZero := true }, rest)
    | cs => (f, cs)
  let (f, cs) : Format × List Char := match cs with
    | '#' :: rest => ({ f with isAlternate := true }, rest)
    | cs => (f, cs)
  let (f, cs) : Format × List Char := match cs with
    | '0' :: rest =>
      if f.align.isNone then ({ f with fill := '0', align := some '=' }, rest)
      else ({ f with fill := if f.fill = ' ' then '0' else f.fill }, rest)
    | cs => (f, cs)
  let (width, cs) := number? cs
  let f := { f with width := width.getD 0 }
  let (f, cs) : Format × List Char := match cs with
    | c :: rest => if c = ',' || c = '_' then ({ f with grouping := some c }, rest) else (f, cs)
    | [] => (f, cs)
  let (f, cs) : Option Format × List Char := match cs with
    | '.' :: rest =>
      match number? rest with
      | (some n, rest) => (some { f with precision := some n }, rest)
      | (none, rest) => (none, rest)
    | cs => (some f, cs)
  f.bind fun f =>
    match cs with
    | [] => some f
    | [c] => some { f with form := some c }
    | _ => none

/-- Digits in groups. -/
def grouped (mark : Char) (size : Nat) (ds : List Char) : List Char :=
  let (rest, _) := ds.foldr (fun c (done, n) =>
    if n = size then (c :: mark :: done, 1) else (c :: done, n + 1)) (([], 0) : List Char × Nat)
  rest

/-- Digits in groups with as many zeros before them as a width wants. -/
def groupedTo (mark : Char) (size width : Nat) : Nat → List Char → List Char
  | 0, ds => grouped mark size ds
  | fuel + 1, ds =>
    let text := grouped mark size ds
    if width ≤ text.length then text else groupedTo mark size width fuel ('0' :: ds)

/-- A text laid out; `start` is what stands before a number, which may be apart from its digits. -/
def laidOut (f : Format) (usual : Char) (start body : List Char) : List Char :=
  let missing := f.width - (start.length + body.length)
  let filling (n : Nat) := List.replicate n f.fill
  match f.align.getD usual with
  | '<' => start ++ body ++ filling missing
  | '^' => filling (missing / 2) ++ start ++ body ++ filling (missing - missing / 2)
  | '=' => start ++ filling missing ++ body
  | _ => filling missing ++ start ++ body

/-- A number laid out: its sign, what tells its form, its whole digits in groups, and what follows. -/
def numeral (f : Format) (isNegative : Bool) (mark whole rest : List Char) (size : Nat) :
    List Char :=
  let sign : List Char := if isNegative then ['-'] else if f.sign = '-' then [] else [f.sign]
  let start := sign ++ mark
  let digits := match f.grouping with
    | none => whole
    | some c =>
      if f.fill = '0' && f.align = some '=' then
        groupedTo c size (f.width - start.length - rest.length) f.width whole
      else grouped c size whole
  f.laidOut '>' start (digits ++ rest)

/-- The digits of a double in a form: those before the point, and the rest. -/
def realDigits (f : Format) (x : Binary64) : List Char × List Char :=
  let m := Magnitude.ofBinary64 x
  let precision := f.precision.getD 6
  let isUpper := f.form.any Char.isUpper
  let text : List Char :=
    if x.isUndefined then "nan".toList
    else if !x.isFinite then "inf".toList
    else
      match f.form.map Char.toLower with
      | some 'e' => m.scientific precision
      | some 'f' => m.plain precision
      | some '%' => (Magnitude.mk (m.num * 100) m.den).plain precision ++ ['%']
      | some _ => m.general precision f.isAlternate
      | none =>
        match f.precision with
        | none => (realText x).dropWhile (· = '-')
        | some p =>
          let cs := m.general p f.isAlternate
          if cs.contains '.' || cs.contains 'e' then cs else cs ++ ['.', '0']
  let text := if isUpper then text.map Char.toUpper else text
  (text.takeWhile Char.isDigit, text.dropWhile Char.isDigit)

end Format

namespace Run

variable (ev : Evaluator)

/-- Fails because a form does not suit a value. -/
def unknownForm {α : Type} (c : Char) (v : Value) : Run α := do
  let kind ← kindName v
  let code := if c.toNat < 128 && c.toNat > 32 then String.singleton c
    else "\\x" ++ String.ofList (Nat.toDigits 16 c.toNat)
  unfit s!"Unknown format code '{code}' for object of type '{kind}'"

/-- A double laid out. -/
def formatReal (f : Format) (x : Binary64) : Run (List Char) := do
  match f.form with
  | some c =>
    if !"eEfFgGn%".toList.contains c then unknownForm c (.real x)
  | none => pure ()
  let (whole, rest) := f.realDigits x
  let isZero := (whole ++ rest).all fun c => !('1' ≤ c && c ≤ '9') && !c.isAlpha
  return f.numeral (x.isNegative && !x.isUndefined && !(f.isPlainZero && isZero)) [] whole rest 3

/-- A whole number laid out. -/
def formatWhole (f : Format) (n : Int) : Run (List Char) := do
  let size := n.natAbs
  let plain (base : Nat) (mark : List Char) (group : Nat) : List Char :=
    f.numeral (n < 0) (if f.isAlternate then mark else []) (Nat.toDigits base size) [] group
  if f.precision.isSome && (f.form.all fun c => "bcdoxXn".toList.contains c) then
    unfit "Precision not allowed in integer format specifier"
  match f.form with
  | none => return plain 10 [] 3
  | some 'd' => return plain 10 [] 3
  | some 'n' => return plain 10 [] 3
  | some 'b' => return plain 2 ['0', 'b'] 4
  | some 'o' => return plain 8 ['0', 'o'] 4
  | some 'x' => return plain 16 ['0', 'x'] 4
  | some 'X' =>
    return f.numeral (n < 0) (if f.isAlternate then ['0', 'X'] else [])
      ((Nat.toDigits 16 size).map Char.toUpper) [] 4
  | some 'c' =>
    if n < 0 || 0x110000 ≤ n then fail "OverflowError" "%c arg not in range(0x110000)"
    else return f.laidOut '<' [] [Char.ofNat n.toNat]
  | some c =>
    if "eEfFgG%".toList.contains c then formatReal f (Binary64.ofInt n)
    else unknownForm c (.number n)

/-- A text laid out. -/
def formatText (f : Format) (cs : List Char) : Run (List Char) := do
  match f.form with
  | some c => if c != 's' then unknownForm c (.text cs)
  | none => pure ()
  if f.sign != '-' then unfit "Sign not allowed in string format specifier"
  if f.isAlternate then unfit "Alternate form (#) not allowed in string format specifier"
  if f.align = some '=' && f.fill != '0' then
    unfit "'=' alignment not allowed in string format specifier"
  let f := if f.align = some '=' then { f with align := some '<' } else f
  let cs := match f.precision with
    | some n => cs.take n
    | none => cs
  return f.laidOut '<' [] cs

/-- A value in a format. -/
def formatted (v : Value) (spec : List Char) : Run (List Char) := do
  match ← special? v "__format__" with
  | some f =>
    match ← ev.call f [v, .text spec] [] with
    | .text cs => return cs
    | other => misfit s!"__format__ must return a str, not {← kindName other}"
  | none =>
    if spec.isEmpty then printed ev v
    else
      let kind ← kindName v
      let known (perform : Format → Run (List Char)) : Run (List Char) := do
        match Format.ofChars? spec with
        | some f => perform f
        | none =>
          unfit s!"Invalid format specifier '{String.ofList spec}' for object of type '{kind}'"
      match v with
      | .text cs => known fun f => formatText f cs
      | .real x => known fun f => formatReal f x
      | v =>
        match v.whole? with
        | some n => known fun f => formatWhole f n
        | none =>
          match ← thing? v with
          | some (.plain (.known "pathlib.PosixPath") _) => do
            let text ← printed ev v
            known fun f => formatText f text
          | _ => misfit s!"unsupported format string passed to {kind}.__format__"

/-- Turns a value into a text as a letter says. -/
def turned (turn : Option Char) (v : Value) : Run Value := do
  match turn with
  | none => return v
  | some 'r' => return .text (← shown ev v)
  | some 'a' =>
    return .text ((← shown ev v).flatMap fun c => if c.toNat < 128 then [c] else codeEscape c)
  | some _ => return .text (← printed ev v)

/-! ### Formats behind percent signs -/

/-- What stands behind a percent sign. -/
structure PercentForm where
  /-- The key. -/
  key : Option (List Char) := none
  /-- The flags. -/
  flags : List Char := []
  /-- The width; none inside when it is one of the values. -/
  width : Option (Option Nat) := none
  /-- How many digits or characters; none inside when it is one of the values. -/
  precision : Option (Option Nat) := none

/-- Reads a width or a precision. -/
def percentCount (cs : List Char) : Option (Option Nat) × List Char :=
  match cs with
  | '*' :: rest => (some none, rest)
  | cs =>
    match Format.number? cs with
    | (some n, rest) => (some (some n), rest)
    | (none, rest) => (none, rest)

/-- Reads what stands between a percent sign and the letter of its form. -/
def percentForm? (cs : List Char) : Option (PercentForm × List Char) :=
  let (key?, cs) : Option (Option (List Char)) × List Char := match cs with
    | '(' :: rest =>
      match Text.cutAt? [')'] rest with
      | some (key, rest) => (some (some key), rest)
      | none => (none, cs)
    | cs => (some none, cs)
  key?.map fun key =>
    let flags := cs.takeWhile fun c => "#0- +".toList.contains c
    let (width, cs) := percentCount (cs.drop flags.length)
    let (precision, cs) : Option (Option Nat) × List Char := match cs with
      | '.' :: rest =>
        match percentCount rest with
        | (none, rest) => (some (some 0), rest)
        | r => r
      | cs => (none, cs)
    let cs := cs.dropWhile fun c => c = 'l' || c = 'h' || c = 'L'
    ({ key, flags, width, precision }, cs)

/-- The whole number behind a percent sign. -/
def percentWhole (c : Char) (v : Value) : Run Int := do
  match v.whole?, v with
  | some n, _ => return n
  | none, .real x =>
    if "xXo".toList.contains c then misfit s!"%{c} format: an integer is required, not float"
    else if x.isUndefined then unfit "cannot convert float NaN to integer"
    else if !x.isFinite then fail "OverflowError" "cannot convert float infinity to integer"
    else
      let (m, d) := Binary64.asQuotient x
      return Int.tdiv m d
  | none, v => do
    let kind ← kindName v
    if "xXo".toList.contains c then misfit s!"%{c} format: an integer is required, not {kind}"
    else misfit s!"%{c} format: a real number is required, not {kind}"

/-- A value behind a percent sign. -/
def percentValue (form : PercentForm) (width : Nat) (precision : Option Nat) (index : Nat) (c : Char)
    (v : Value) : Run (List Char) := do
  let isLeft := form.flags.contains '-'
  let sign := if form.flags.contains '+' then '+' else if form.flags.contains ' ' then ' ' else '-'
  let isZero := form.flags.contains '0' && !isLeft
  let f : Format := {
    width, sign, precision
    align := some (if isLeft then '<' else if isZero then '=' else '>')
    fill := if isZero then '0' else ' '
    isAlternate := form.flags.contains '#' }
  let text (cs : List Char) : List Char :=
    let cs := match precision with
      | some n => cs.take n
      | none => cs
    { f with fill := ' ', align := some (if isLeft then '<' else '>') : Format }.laidOut '>' [] cs
  let whole (base : Nat) (mark : List Char) : Run (List Char) := do
    let n ← percentWhole c v
    let digits := Nat.toDigits base n.natAbs
    let digits := match precision with
      | some p => Text.padZeros p digits
      | none => digits
    let mark := if f.isAlternate then mark else []
    return f.numeral (n < 0) mark digits [] 3
  match c with
  | 's' => return text (← printed ev v)
  | 'r' => return text (← shown ev v)
  | 'a' =>
    return text ((← shown ev v).flatMap fun c => if c.toNat < 128 then [c] else codeEscape c)
  | 'c' =>
    match v with
    | .text [c] => return text [c]
    | v =>
      match v.whole? with
      | some n =>
        if n < 0 || 0x110000 ≤ n then fail "OverflowError" "%c arg not in range(0x110000)"
        else return text [Char.ofNat n.toNat]
      | none => misfit s!"%c requires int or char"
  | 'd' => whole 10 []
  | 'i' => whole 10 []
  | 'u' => whole 10 []
  | 'o' => whole 8 ['0', 'o']
  | 'x' => whole 16 ['0', 'x']
  | 'X' => return (← whole 16 ['0', 'x']).map Char.toUpper
  | c =>
    if "eEfFgG".toList.contains c then
      match v.real? with
      | some x => formatReal { f with form := some c } x
      | none => misfit s!"must be real number, not {← kindName v}"
    else
      let digits := String.ofList (Nat.toDigits 16 c.toNat)
      unfit s!"unsupported format character '{c}' (0x{digits}) at index {index}"

/-- Values for what stands behind percent signs, taken in turn; `index` counts the characters before.
`fuel` bounds their number. -/
def percentFrom (given : Value) :
    Nat → Nat → List Value → List Char → Run (List Char × List Value)
  | 0, _, _, _ => throw .spent
  | _ + 1, _, values, [] => return ([], values)
  | fuel + 1, index, values, '%' :: '%' :: cs => do
    let (rest, values) ← percentFrom given fuel (index + 2) values cs
    return ('%' :: rest, values)
  | fuel + 1, index, values, '%' :: cs => do
    match percentForm? cs with
    | none => unfit "incomplete format key"
    | some (form, after) =>
      match after with
      | [] => unfit "incomplete format"
      | c :: after => do
        let take (values : List Value) : Run (Value × List Value) :=
          match values with
          | v :: rest => return (v, rest)
          | [] => misfit "not enough arguments for format string"
        let count (o : Option (Option Nat)) (values : List Value) :
            Run (Option Int × List Value) := do
          match o with
          | none => return (none, values)
          | some (some n) => return (some n, values)
          | some none => do
            let (v, values) ← take values
            match v.whole? with
            | some n => return (some n, values)
            | none => misfit "* wants int"
        let place := index + (cs.length - after.length)
        let (width, values) ← count form.width values
        let (precision, values) ← count form.precision values
        let form := if width.any (· < 0) then { form with flags := '-' :: form.flags } else form
        let (v, values) ← match form.key with
          | none => if c = '%' then pure (.nothing, values) else take values
          | some key =>
            match ← thing? given with
            | some (.table _ _ _) => do pure (← itemOf ev given (.text key), values)
            | _ => misfit "format requires a mapping"
        let text ← if c = '%' then pure ['%'] else
          percentValue ev form ((width.getD 0).natAbs) (precision.map Int.toNat) place c v
        let (rest, values) ← percentFrom given fuel (place + 1) values after
        return (text ++ rest, values)
  | fuel + 1, index, values, c :: cs => do
    let (rest, values) ← percentFrom given fuel (index + 1) values cs
    return (c :: rest, values)

/-- A text with values for what stands behind percent signs. -/
def percent (cs : List Char) (given : Value) : Run (List Char) := do
  let values := match given with
    | .tuple items => items
    | v => [v]
  let (text, left) ← percentFrom ev given (cs.length + 1) 0 values cs
  let isMapping ← match given with
    | .tuple _ => pure false
    | .text _ => pure false
    | v => do
      match ← thing? v with
      | some (.table _ _ _) => pure true
      | some (.list _) => pure true
      | _ => pure false
  if left.isEmpty || isMapping then return text
  else misfit "not all arguments converted during string formatting"

/-! ### Fields in braces -/

/-- The length of a field up to the brace that closes it. -/
def braceLength? : Nat → Nat → List Char → Option Nat
  | 0, _, _ => none
  | _ + 1, _, [] => none
  | fuel + 1, depth, c :: cs =>
    if c = '\x7b' then (braceLength? fuel (depth + 1) cs).map (· + 1)
    else if c = '\x7d' then
      (if depth = 0 then some 0 else (braceLength? fuel (depth - 1) cs).map (· + 1))
    else (braceLength? fuel depth cs).map (· + 1)

/-- What values a text with fields is given. -/
structure FieldValues where
  /-- The values by their places. -/
  places : List Value
  /-- The values by their names. -/
  names : Members Value
  /-- All values in one, if they are. -/
  table : Option Value := none
  /-- How a member of a value is found. -/
  member : Value → String → Run Value

/-- Goes on from a value to what its field names behind it. `fuel` bounds how far. -/
def fieldTail (given : FieldValues) : Nat → Value → List Char → Run Value
  | 0, v, _ => return v
  | _ + 1, v, [] => return v
  | fuel + 1, v, '.' :: cs => do
    let name := cs.takeWhile fun c => c != '.' && c != '['
    fieldTail given fuel (← given.member v (String.ofList name)) (cs.drop name.length)
  | fuel + 1, v, '[' :: cs => do
    match Text.cutAt? [']'] cs with
    | some (key, rest) => do
      let place : Value := match Text.digitsValue? 10 0 key with
        | some n => if key.isEmpty then .text key else .ofNat n
        | none => .text key
      fieldTail given fuel (← itemOf ev v place) rest
    | none => unfit "Missing ']' in format string"
  | _ + 1, _, _ => unfit "Only '.' or '[' may follow ']' in format field specifier"

/-- The value of a field, and the number of the next one without a name. -/
def fieldValue (given : FieldValues) (auto : Option Nat) (name : List Char) :
    Run (Value × Option Nat) := do
  let first := name.takeWhile fun c => c != '.' && c != '['
  let rest := name.drop first.length
  let numbered (n : Nat) : Run Value :=
    match given.places[n]? with
    | some v => return v
    | none => fail "IndexError" s!"Replacement index {n} out of range for positional args tuple"
  let (v, auto) ← if first.isEmpty then
      match auto with
      | some n => do pure (← numbered n, some (n + 1))
      | none =>
        unfit "cannot switch from manual field specification to automatic field numbering"
    else
      match Text.digitsValue? 10 0 first with
      | some n =>
        if auto.any (0 < ·) then
          unfit "cannot switch from automatic field numbering to manual field specification"
        else do pure (← numbered n, none)
      | none =>
        match given.table, Members.get? given.names (String.ofList first) with
        | some table, _ => do pure (← itemOf ev table (.text first), auto)
        | none, some v => pure (v, auto)
        | none, none => missing (.text first)
  return (← fieldTail ev given (name.length + 1) v rest, auto)

/-- A text with values for its fields. `fuel` bounds its length and how deep fields are. -/
def fieldsFrom (given : FieldValues) :
    Nat → Option Nat → List Char → Run (List Char × Option Nat)
  | 0, auto, _ => return ([], auto)
  | _ + 1, auto, [] => return ([], auto)
  | fuel + 1, auto, '\x7b' :: '\x7b' :: cs => do
    let (rest, auto) ← fieldsFrom given fuel auto cs
    return ('\x7b' :: rest, auto)
  | fuel + 1, auto, '\x7d' :: '\x7d' :: cs => do
    let (rest, auto) ← fieldsFrom given fuel auto cs
    return ('\x7d' :: rest, auto)
  | _ + 1, _, '\x7d' :: _ => unfit "Single '\x7d' encountered in format string"
  | fuel + 1, auto, '\x7b' :: cs => do
    match braceLength? (cs.length + 1) 0 cs with
    | none =>
      if cs.isEmpty then unfit "Single '\x7b' encountered in format string"
      else unfit "expected '\x7d' before end of string"
    | some n => do
      let field := cs.take n
      let name := field.takeWhile fun c => c != '!' && c != ':'
      let after := field.drop name.length
      let (turn, after) ← match after with
        | '!' :: c :: more =>
          if c = 'r' || c = 's' || c = 'a' then pure (some c, more)
          else unfit s!"Unknown conversion specifier {c}"
        | more => pure (none, more)
      let (v, auto) ← fieldValue ev given auto name
      let (spec, auto) ← fieldsFrom given fuel auto (after.drop 1)
      let text ← formatted ev (← turned ev turn v) spec
      let (rest, auto) ← fieldsFrom given fuel auto (cs.drop (n + 1))
      return (text ++ rest, auto)
  | fuel + 1, auto, c :: cs => do
    let (rest, auto) ← fieldsFrom given fuel auto cs
    return (c :: rest, auto)

/-- A text with values for its fields. -/
def withFields (given : FieldValues) (cs : List Char) : Run (List Char) :=
  return (← fieldsFrom ev given (2 * cs.length + 2) (some 0) cs).1

end Run

end FirmwareSurvey.ResultScript
