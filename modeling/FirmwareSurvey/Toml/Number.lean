import FirmwareSurvey.Decimal.Binary64
import FirmwareSurvey.Text.Numeral
import FirmwareSurvey.Text.Word
import FirmwareSurvey.Toml.Basic

/-!
# Reading TOML numbers

Integers come in base ten with an optional sign and no needless zeros, or in base sixteen, eight or
two under a mark; doubles have a fraction, an exponent or both, or are one of two words. Single
underscores may stand between digits. An integer has to fit a signed 64-bit word, and a double that
grows beyond all bounds upwards is refused.

A reader takes the longest number a text starts with, and answers with it and the rest.
-/

namespace FirmwareSurvey.Toml

/-- The digits a text starts with, single underscores between them left out, and the rest. An
underscore without a digit on either side is refused. -/
def digitRun? (isDigit : Char → Bool) : List Char → Option (List Char × List Char)
  | [] => none
  | c :: cs =>
    if isDigit c then
      match cs with
      | '_' :: rest => (digitRun? isDigit rest).map fun (ds, r) => (c :: ds, r)
      | [] => some ([c], [])
      | d :: rest =>
        if isDigit d then (digitRun? isDigit (d :: rest)).map fun (ds, r) => (c :: ds, r)
        else some ([c], d :: rest)
    else none

/-- A decimal integer a text starts with: its sign, its digits and the rest. A zero is a whole
integer. -/
def decimalRun? (cs : List Char) : Option (Bool × List Char × List Char) :=
  let (negative, cs) := match cs with
    | '-' :: r => (true, r)
    | '+' :: r => (false, r)
    | _ => (false, cs)
  match cs with
  | '0' :: r => some (negative, ['0'], r)
  | _ => (digitRun? Text.isAsciiDigit cs).map fun (ds, r) => (negative, ds, r)

/-- The integer of a row of digits, when it fits. -/
def wordOf? (negative : Bool) (base : Nat) (digits : List Char) : Option Toml :=
  match Text.digitsValue? base 0 digits with
  | none => none
  | some n =>
    let i : Int := if negative then -(n : Int) else n
    if IsWord i then some (.int i) else none

/-- Whether a character is a digit of a base. -/
def isDigitOf (base : Nat) (c : Char) : Bool := (Text.digitValue? base c).isSome

/-- An integer a text starts with. -/
def integer? (cs : List Char) : Option (Toml × List Char) :=
  let based (base : Nat) (r : List Char) : Option (Toml × List Char) :=
    match digitRun? (isDigitOf base) r with
    | some (ds, rest) => (wordOf? false base ds).map (·, rest)
    | none => none
  match cs with
  | '0' :: 'x' :: r => based 16 r
  | '0' :: 'o' :: r => based 8 r
  | '0' :: 'b' :: r => based 2 r
  | _ =>
    match decimalRun? cs with
    | some (negative, ds, rest) => (wordOf? negative 10 ds).map (·, rest)
    | none => none

/-- The exponent a text starts with. -/
def exponentRun? : List Char → Option (Int × List Char)
  | c :: cs =>
    if c == 'e' || c == 'E' then
      let (negative, cs) := match cs with
        | '-' :: r => (true, r)
        | '+' :: r => (false, r)
        | _ => (false, cs)
      match digitRun? Text.isAsciiDigit cs with
      | some (ds, rest) =>
        let n := (Text.digitsValue? 10 0 ds).getD 0
        some (if negative then -(n : Int) else n, rest)
      | none => none
    else none
  | [] => none

/-- Whether a text starts like an exponent. -/
def startsExponent : List Char → Bool
  | c :: _ => c == 'e' || c == 'E'
  | [] => false

/-- The double of a sign, a row of digits and a power of ten; none when it is beyond all bounds
upwards. -/
def double? (negative : Bool) (digits : List Char) (scale : Int) (rest : List Char) :
    Option (Toml × List Char) :=
  let x := Binary64.nearest negative ((Text.digitsValue? 10 0 digits).getD 0) scale
  if x == Binary64.infinity false then none else some (.float x, rest)

/-- Whether a text starts with a number that has a fraction or an exponent. -/
def startsDouble (cs : List Char) : Bool :=
  match decimalRun? cs with
  | some (_, _, '.' :: _) => true
  | some (_, _, rest) => startsExponent rest
  | none => false

/-- A double written with digits. -/
def decimalDouble? (cs : List Char) : Option (Toml × List Char) :=
  match decimalRun? cs with
  | none => none
  | some (negative, whole, '.' :: rest) =>
    match digitRun? Text.isAsciiDigit rest with
    | none => none
    | some (fraction, rest) =>
      if startsExponent rest then
        match exponentRun? rest with
        | some (e, rest) => double? negative (whole ++ fraction) (e - fraction.length) rest
        | none => none
      else double? negative (whole ++ fraction) (-(fraction.length : Int)) rest
  | some (negative, whole, rest) =>
    match exponentRun? rest with
    | some (e, rest) => double? negative whole e rest
    | none => none

/-- A double written as a word. -/
def wordDouble? (cs : List Char) : Option (Toml × List Char) :=
  let (negative, cs) := match cs with
    | '-' :: r => (true, r)
    | '+' :: r => (false, r)
    | _ => (false, cs)
  match cs with
  | 'i' :: 'n' :: 'f' :: rest => some (.float (Binary64.infinity negative), rest)
  | 'n' :: 'a' :: 'n' :: rest => some (.float (Binary64.undefined negative), rest)
  | _ => none

/-- A number a text starts with. -/
def number? (cs : List Char) : Option (Toml × List Char) :=
  match wordDouble? cs with
  | some r => some r
  | none => if startsDouble cs then decimalDouble? cs else integer? cs

end FirmwareSurvey.Toml

/-!
## Reading TOML moments

A moment is a date, a time of day, or both with an optional distance from universal time. Its normal
spelling has a capital `T` between date and time, a capital `Z` for universal time, and a fraction
of a second of at most nine digits without zeros at its end.
-/

namespace FirmwareSurvey.Toml

/-- A number of exactly `width` digits a text starts with, within bounds. -/
def fixedNumber? (width least greatest : Nat) (cs : List Char) : Option (Nat × List Char) :=
  let ds := cs.take width
  if ds.length == width && ds.all Text.isAsciiDigit then
    let n := (Text.digitsValue? 10 0 ds).getD 0
    if least ≤ n && n ≤ greatest then some (n, cs.drop width) else none
  else none

/-- The rest of a text after a character it has to start with. -/
def after? (c : Char) : List Char → Option (List Char)
  | d :: cs => if d = c then some cs else none
  | [] => none

/-- Whether a year has a leap day. -/
def isLeap (year : Nat) : Bool := year % 4 == 0 && (year % 100 != 0 || year % 400 == 0)

/-- The number of days of a month. -/
def daysOf (year month : Nat) : Nat :=
  if month == 2 then (if isLeap year then 29 else 28)
  else if month == 4 || month == 6 || month == 9 || month == 11 then 30
  else 31

/-- The digits of a number, filled up to a width. -/
def paddedNumber (width n : Nat) : String :=
  String.ofList (Text.padZeros width (Text.decimalChars n))

/-- A date a text starts with, in its normal spelling. -/
def date? (cs : List Char) : Option (String × List Char) := do
  let (year, cs) ← fixedNumber? 4 0 9999 cs
  let cs ← after? '-' cs
  let (month, cs) ← fixedNumber? 2 1 12 cs
  let cs ← after? '-' cs
  let (day, cs) ← fixedNumber? 2 1 (daysOf year month) cs
  return (paddedNumber 4 year ++ "-" ++ paddedNumber 2 month ++ "-" ++ paddedNumber 2 day, cs)

/-- The fraction of a second in its normal spelling: nine digits at most, no zeros at the end. -/
def fractionText (ds : List Char) : String :=
  let kept := ((ds.take 9).reverse.dropWhile (· == '0')).reverse
  if kept.isEmpty then "" else "." ++ String.ofList kept

/-- A time of day a text starts with, in its normal spelling. -/
def time? (cs : List Char) : Option (String × List Char) := do
  let (hour, cs) ← fixedNumber? 2 0 23 cs
  let cs ← after? ':' cs
  let (minute, cs) ← fixedNumber? 2 0 59 cs
  let cs ← after? ':' cs
  let (second, cs) ← fixedNumber? 2 0 60 cs
  let base := paddedNumber 2 hour ++ ":" ++ paddedNumber 2 minute ++ ":" ++ paddedNumber 2 second
  match cs with
  | '.' :: rest =>
    let ds := rest.takeWhile Text.isAsciiDigit
    if ds.isEmpty then none
    else return (base ++ fractionText ds, rest.dropWhile Text.isAsciiDigit)
  | _ => return (base, cs)

/-- A distance from universal time a text starts with, in its normal spelling. -/
def distance? : List Char → Option (String × List Char)
  | c :: cs =>
    if c == 'Z' || c == 'z' then some ("Z", cs)
    else if c == '+' || c == '-' then do
      let (hour, cs) ← fixedNumber? 2 0 23 cs
      let cs ← after? ':' cs
      let (minute, cs) ← fixedNumber? 2 0 59 cs
      return (c.toString ++ paddedNumber 2 hour ++ ":" ++ paddedNumber 2 minute, cs)
    else none
  | [] => none

/-- A moment a text starts with. -/
def moment? (cs : List Char) : Option (Toml × List Char) :=
  match date? cs with
  | none => (time? cs).map fun (t, rest) => (.moment t, rest)
  | some (d, rest) =>
    match rest with
    | c :: r =>
      if c == 'T' || c == 't' || c == ' ' then
        match time? r with
        | none => some (.moment d, rest)
        | some (t, rest) =>
          match distance? rest with
          | some (z, rest) => some (.moment (d ++ "T" ++ t ++ z), rest)
          | none => some (.moment (d ++ "T" ++ t), rest)
      else some (.moment d, rest)
    | [] => some (.moment d, rest)

end FirmwareSurvey.Toml
