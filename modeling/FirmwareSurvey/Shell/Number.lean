import FirmwareSurvey.Decimal.Places
import FirmwareSurvey.Text.Numeral

/-!
# Numbers in arguments

A number at the start of an argument may stand behind blanks and a sign. A whole number with a zero
before it is octal, and with a zero and an x hexadecimal; it is kept within the numbers of a word of
64 bits.
-/

namespace FirmwareSurvey.Shell

/-- Whether a character is blank to a reader of numbers. -/
def isBlank (c : Char) : Bool := c = ' ' || ('\t' ≤ c && c ≤ '\r')

/-- A sign at the start, if there is one, and whether it is negative. -/
def readSign : List Char → Bool × List Char
  | '-' :: cs => (true, cs)
  | '+' :: cs => (false, cs)
  | cs => (false, cs)

/-- Reads digits of a base: their value, when there are any, and the rest. -/
def readDigits (base : Nat) (cs : List Char) : Option Nat × List Char :=
  let digits := cs.takeWhile fun c => (Text.digitValue? base c).isSome
  (if digits.isEmpty then none else Text.digitsValue? base 0 digits, cs.drop digits.length)

/-- Reads a natural number, whose first characters tell its base. -/
def readNatural (cs : List Char) : Option Nat × List Char :=
  let hexadecimal (rest fallback : List Char) : Option Nat × List Char :=
    match readDigits 16 rest with
    | (some n, rest) => (some n, rest)
    | (none, _) => (some 0, fallback)
  match cs with
  | '0' :: 'x' :: rest => hexadecimal rest ('x' :: rest)
  | '0' :: 'X' :: rest => hexadecimal rest ('X' :: rest)
  | '0' :: _ => readDigits 8 cs
  | _ => readDigits 10 cs

/-- Reads a whole number: its value, when there is one, and the rest. -/
def readWhole (cs : List Char) : Option Int × List Char :=
  let (negative, digits) := readSign (cs.dropWhile isBlank)
  match readNatural digits with
  | (some n, rest) => (some (if negative then -(n : Int) else (n : Int)), rest)
  | (none, _) => (none, cs)

/-- Reads a whole number in base ten that is all there is, blanks apart. -/
def decimal? (cs : List Char) : Option Int :=
  let (negative, digits) := readSign (cs.dropWhile isBlank)
  match readDigits 10 digits with
  | (some n, rest) =>
    if rest.all isBlank then some (if negative then -(n : Int) else (n : Int)) else none
  | (none, _) => none

/-- One more than the greatest number with a sign. -/
def signedLimit : Int := 0x8000000000000000

/-- How many numbers a word has. -/
def wordSize : Int := 0x10000000000000000

/-- The number of a word that is congruent to a number. -/
def wrap (n : Int) : Int := Int.bmod n 0x10000000000000000

/-- A number with a fractional part. -/
inductive Real where
  /-- A finite number. -/
  | finite (negative : Bool) (x : Decimal.Magnitude)
  /-- Infinity. -/
  | infinite (negative : Bool)
  /-- No number. -/
  | undefined (negative : Bool)

/-- Reads the digits of a number with a fractional part: their value, how many stand behind the point,
and the rest. -/
def readFraction (base : Nat) (cs : List Char) : Option (Nat × Nat) × List Char :=
  let isDigit (c : Char) := (Text.digitValue? base c).isSome
  let whole := cs.takeWhile isDigit
  let rest := cs.drop whole.length
  let (part, rest) := match rest with
    | '.' :: r => (r.takeWhile isDigit, r.dropWhile isDigit)
    | _ => ([], rest)
  if whole.isEmpty && part.isEmpty then (none, cs)
  else ((Text.digitsValue? base 0 (whole ++ part)).map fun n => (n, part.length), rest)

/-- Reads an exponent behind one of two letters. -/
def readExponent (small capital : Char) (cs : List Char) : Int × List Char :=
  match cs with
  | c :: r =>
    if c = small || c = capital then
      let (negative, digits) := readSign r
      match readDigits 10 digits with
      | (some n, rest) => (if negative then -(n : Int) else (n : Int), rest)
      | (none, _) => (0, cs)
    else (0, cs)
  | [] => (0, [])

/-- Whether a text starts with a word, capital or small. -/
def startsWith (word : String) (cs : List Char) : Bool :=
  word.toList.isPrefixOf (cs.map Char.toLower)

/-- Reads a number with a fractional part: its value, when there is one, and the rest. -/
def readReal (cs : List Char) : Option Real × List Char :=
  let (negative, body) := readSign (cs.dropWhile isBlank)
  let decimal : Option Real × List Char :=
    match readFraction 10 body with
    | (some (n, places), rest) =>
      let (e, rest) := readExponent 'e' 'E' rest
      -- no number that is wanted lies beyond these bounds
      if 20000 < e.natAbs then (some (.finite negative ⟨0, 1⟩), rest)
      else (some (.finite negative (.ofDecimal n (e - places))), rest)
    | (none, _) => (none, cs)
  if startsWith "infinity" body then (some (.infinite negative), body.drop 8)
  else if startsWith "inf" body then (some (.infinite negative), body.drop 3)
  else if startsWith "nan" body then (some (.undefined negative), body.drop 3)
  else if startsWith "0x" body then
    match readFraction 16 (body.drop 2) with
    | (some (n, places), rest) =>
      let (e, rest) := readExponent 'p' 'P' rest
      if 20000 < e.natAbs then (some (.finite negative ⟨0, 1⟩), rest)
      else (some (.finite negative (.ofBinary n (e - 4 * places))), rest)
    | (none, _) => decimal
  else decimal

end FirmwareSurvey.Shell
