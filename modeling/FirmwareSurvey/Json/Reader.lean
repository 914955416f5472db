import FirmwareSurvey.Decimal.Binary64
import FirmwareSurvey.Json.Basic
import FirmwareSurvey.Text.Numeral
import FirmwareSurvey.Text.Word

/-!
# Reading JSON

Numbers have rules of their own; a text is read token by token.
-/

/-!
## Numbers

A number is a sign, an integer part without needless zeros, a fraction and an exponent. Written
with neither fraction nor exponent, it is an integer when a 64-bit word holds it; a negative zero
is the double of that name.

Any other number is read as a double in floating arithmetic: as many leading digits as an unsigned
word holds make up the significand, later digits of the integer part only raise the exponent, later
digits of the fraction are dropped, and the significand is then scaled by one power of ten. A
number too great for a double is refused.
-/

namespace FirmwareSurvey.Json

/-- The parts of a numeral that is well formed. -/
structure Numeral where
  /-- Whether a minus sign stands in front. -/
  negative : Bool
  /-- The digits before the point. -/
  whole : List Char
  /-- The digits after the point, if there is one. -/
  fraction : Option (List Char)
  /-- The sign of the exponent and its digits, if there is one. -/
  exponent : Option (Bool × List Char)

/-- Reads the exponent of a numeral, up to its end. -/
def Numeral.exponent? : List Char → Option (Bool × List Char)
  | '+' :: ds => if !ds.isEmpty && ds.all Text.isAsciiDigit then some (false, ds) else none
  | '-' :: ds => if !ds.isEmpty && ds.all Text.isAsciiDigit then some (true, ds) else none
  | ds => if !ds.isEmpty && ds.all Text.isAsciiDigit then some (false, ds) else none

/-- Reads what follows the integer part of a numeral, up to its end. -/
def Numeral.tail? (negative : Bool) (whole : List Char) (rest : List Char) : Option Numeral :=
  let (fraction, rest) := match rest with
    | '.' :: r => (some (r.takeWhile Text.isAsciiDigit), r.dropWhile Text.isAsciiDigit)
    | _ => (none, rest)
  if fraction == some [] then none
  else match rest with
    | [] => some ⟨negative, whole, fraction, none⟩
    | c :: r =>
      if c == 'e' || c == 'E' then
        (Numeral.exponent? r).map fun e => ⟨negative, whole, fraction, some e⟩
      else none

/-- Takes a numeral apart; the whole text has to be one. -/
def Numeral.ofChars? (cs : List Char) : Option Numeral :=
  let (negative, cs) := match cs with
    | '-' :: r => (true, r)
    | _ => (false, cs)
  match cs with
  | '0' :: r => Numeral.tail? negative ['0'] r
  | _ =>
    let whole := cs.takeWhile Text.isAsciiDigit
    if whole.isEmpty then none
    else Numeral.tail? negative whole (cs.dropWhile Text.isAsciiDigit)

/-- Adds digits to a significand while an unsigned word holds it; the digits left over come second. -/
def extendSignificand (significand : Nat) : List Char → Nat × List Char
  | [] => (significand, [])
  | c :: cs =>
    let next := 10 * significand + (c.toNat - 48)
    if next < Text.wordLimit then extendSignificand next cs else (significand, c :: cs)

/-- A float scaled by a power of ten in one step; none when it leaves the range of a double. A power
beyond `10 ^ 308` is divided off first, which ends at zero after three rounds at the latest. -/
def scaled? : Nat → Float → Int → Option Float
  | 0, f, _ => some f
  | rounds + 1, f, e =>
    let power (n : Nat) : Float := (Binary64.nearest false 1 n).toFloat
    if e.natAbs ≤ 308 then
      if 0 ≤ e then
        let g := f * power e.natAbs
        if g.isInf then none else some g
      else some (f / power e.natAbs)
    else if f == 0.0 then some f
    else if 0 ≤ e then none
    else scaled? rounds (f / power 308) (e + 308)

/-- The greatest exponent that is read as a number. -/
def exponentLimit : Nat := 0x80000000

/-- The number a numeral stands for. -/
def Numeral.value? (n : Numeral) : Option Json :=
  let (significand, extra) := extendSignificand 0 n.whole
  let signed (f : Float) : Json := .float (Binary64.ofFloat (if n.negative then -f else f))
  match n.fraction, n.exponent, extra with
  | none, none, [] =>
    if !n.negative then some (.int significand)
    else if significand == 0 || 0x8000000000000000 < significand then
      some (signed (UInt64.ofNat significand).toFloat)
    else some (.int (-(significand : Int)))
  | fraction, exponent, extra =>
    let digits := fraction.getD []
    let (significand, dropped) := extendSignificand significand digits
    let scale : Int := (extra.length : Int) - (digits.length - dropped.length : Nat)
    let f := (UInt64.ofNat significand).toFloat
    match exponent with
    | none => (scaled? 4 f scale).map signed
    | some (down, ds) =>
      let e := (Text.digitsValue? 10 0 ds).getD 0
      if exponentLimit ≤ e then
        if significand != 0 && !down then none else some (signed 0.0)
      else (scaled? 4 f (if down then scale - e else scale + e)).map signed

/-- Reads a number; the whole text has to be one. -/
def number? (cs : List Char) : Option Json := (Numeral.ofChars? cs).bind Numeral.value?

end FirmwareSurvey.Json

/-!
## Texts

A text is read in two passes, each of which looks at its input once from left to right: a scanner
turns characters into tokens, and a pushdown machine builds the value from the tokens, with a frame
for every list or object that is still open. A repeated member name keeps its first place and its
last value. Lists and objects nest less than 128 deep.
-/

namespace FirmwareSurvey.Json

/-- A token of a JSON text. -/
inductive Token where
  /-- An opening bracket. -/
  | openList
  /-- A closing bracket. -/
  | closeList
  /-- An opening brace. -/
  | openObject
  /-- A closing brace. -/
  | closeObject
  /-- A colon. -/
  | colon
  /-- A comma. -/
  | comma
  /-- A text, its escapes resolved. -/
  | text (s : String)
  /-- A value without parts that is no text: a number, a truth value or null. -/
  | atom (v : Json)

/-! ### From characters to tokens -/

/-- What the scanner is in the middle of. Characters already read stand in reverse. -/
inductive Scan where
  /-- Between tokens. -/
  | between
  /-- In a number or a word. -/
  | word (read : List Char)
  /-- In a text. -/
  | text (read : List Char)
  /-- Right after a backslash in a text. -/
  | escape (read : List Char)
  /-- In the four digits of a code unit: the digits so far, their number, and the high surrogate
  that the unit has to complete. -/
  | unit (read : List Char) (value : Nat) (digits : Nat) (high : Option Nat)
  /-- After a high surrogate: the backslash of its partner comes next. -/
  | partner (read : List Char) (high : Nat)
  /-- After a high surrogate and a backslash: the letter of its partner comes next. -/
  | partnerUnit (read : List Char) (high : Nat)

/-- The scanner: its tokens in reverse, and what it is in the middle of. -/
structure Scanner where
  /-- The tokens already complete, the last one first. -/
  tokens : List Token
  /-- What is being read. -/
  scan : Scan

/-- The value of a word outside texts. -/
def wordValue? (cs : List Char) : Option Json :=
  if cs == ['t', 'r', 'u', 'e'] then some (.bool true)
  else if cs == ['f', 'a', 'l', 's', 'e'] then some (.bool false)
  else if cs == ['n', 'u', 'l', 'l'] then some .null
  else number? cs

/-- Characters of numbers and of the three words. -/
def isWordChar (c : Char) : Bool :=
  Text.isAsciiDigit c || Text.isAsciiLetter c || c == '+' || c == '-' || c == '.'

/-- Reads a character between tokens. -/
def scanBetween? (tokens : List Token) (c : Char) : Option Scanner :=
  if c == ' ' || c == '\n' || c == '\t' || c == '\r' then some ⟨tokens, .between⟩
  else if c == '"' then some ⟨tokens, .text []⟩
  else if c == '[' then some ⟨.openList :: tokens, .between⟩
  else if c == ']' then some ⟨.closeList :: tokens, .between⟩
  else if c == '\x7b' then some ⟨.openObject :: tokens, .between⟩
  else if c == '\x7d' then some ⟨.closeObject :: tokens, .between⟩
  else if c == ':' then some ⟨.colon :: tokens, .between⟩
  else if c == ',' then some ⟨.comma :: tokens, .between⟩
  else if isWordChar c then some ⟨tokens, .word [c]⟩
  else none

/-- The character a one-letter escape stands for. -/
def shortEscape? (c : Char) : Option Char :=
  if c == '"' || c == '\\' || c == '/' then some c
  else if c == 'b' then some '\x08'
  else if c == 'f' then some '\x0c'
  else if c == 'n' then some '\n'
  else if c == 'r' then some '\r'
  else if c == 't' then some '\t'
  else none

/-- Ends the four digits of a code unit. A high surrogate waits for its partner; a low one has to
complete one. -/
def endUnit? (read : List Char) (unit : Nat) : Option Nat → Option Scan
  | some high =>
    if 0xDC00 ≤ unit && unit ≤ 0xDFFF then
      some (.text (Char.ofNat (0x10000 + (high - 0xD800) * 0x400 + (unit - 0xDC00)) :: read))
    else none
  | none =>
    if 0xD800 ≤ unit && unit ≤ 0xDBFF then some (.partner read unit)
    else if 0xDC00 ≤ unit && unit ≤ 0xDFFF then none
    else some (.text (Char.ofNat unit :: read))

/-- Reads one character. -/
def Scanner.step? (s : Scanner) (c : Char) : Option Scanner :=
  match s.scan with
  | .between => scanBetween? s.tokens c
  | .word read =>
    if isWordChar c then some ⟨s.tokens, .word (c :: read)⟩
    else (wordValue? read.reverse).bind fun v => scanBetween? (.atom v :: s.tokens) c
  | .text read =>
    if c == '"' then some ⟨.text (String.ofList read.reverse) :: s.tokens, .between⟩
    else if c == '\\' then some ⟨s.tokens, .escape read⟩
    else if c.toNat < 0x20 then none
    else some ⟨s.tokens, .text (c :: read)⟩
  | .escape read =>
    if c == 'u' then some ⟨s.tokens, .unit read 0 0 none⟩
    else (shortEscape? c).map fun e => ⟨s.tokens, .text (e :: read)⟩
  | .unit read value digits high =>
    (Text.digitValue? 16 c).bind fun d =>
      let value := 16 * value + d
      if digits == 3 then (endUnit? read value high).map (⟨s.tokens, ·⟩)
      else some ⟨s.tokens, .unit read value (digits + 1) high⟩
  | .partner read high =>
    if c == '\\' then some ⟨s.tokens, .partnerUnit read high⟩ else none
  | .partnerUnit read high =>
    if c == 'u' then some ⟨s.tokens, .unit read 0 0 (some high)⟩ else none

/-- Ends the text: no token may be left open. -/
def Scanner.finish? (s : Scanner) : Option (List Token) :=
  match s.scan with
  | .between => some s.tokens.reverse
  | .word read => (wordValue? read.reverse).map fun v => (.atom v :: s.tokens).reverse
  | _ => none

/-- The tokens of a text. -/
def tokens? (cs : List Char) : Option (List Token) :=
  (cs.foldlM Scanner.step? ⟨[], .between⟩).bind Scanner.finish?

/-! ### From tokens to a value -/

/-- A list or object that is still open. -/
inductive Frame where
  /-- A list with its items so far, the last one first. -/
  | list (items : List Json)
  /-- An object with its members so far, and the name of the member being read. -/
  | object (members : List (String × Json)) (name : String)

/-- What may come next. -/
inductive Expect where
  /-- A value. -/
  | value
  /-- The first item of a list, or its end. -/
  | firstItem
  /-- The first member of an object, or its end. -/
  | firstMember (members : List (String × Json))
  /-- A member of an object. -/
  | member (members : List (String × Json))
  /-- The colon after a member's name. -/
  | colon
  /-- A comma or the end, after a complete value. -/
  | next (v : Json)

/-- The machine: the open lists and objects, innermost first, and what it expects. -/
structure Builder where
  /-- The open lists and objects. -/
  frames : List Frame
  /-- What may come next. -/
  expect : Expect

/-- The greatest number of open lists and objects. -/
def nestingLimit : Nat := 127

/-- Opens a list or an object or takes an atom, where a value is expected. -/
def Builder.value? (frames : List Frame) : Token → Option Builder
  | .atom v => some ⟨frames, .next v⟩
  | .text s => some ⟨frames, .next (.str s)⟩
  | .openList =>
    if frames.length < nestingLimit then some ⟨.list [] :: frames, .firstItem⟩ else none
  | .openObject =>
    if frames.length < nestingLimit then some ⟨frames, .firstMember []⟩ else none
  | _ => none

/-- Reads a member's name. -/
def Builder.name? (frames : List Frame) (members : List (String × Json)) : Token → Option Builder
  | .text s => some ⟨.object members s :: frames, .colon⟩
  | _ => none

/-- Reads one token. -/
def Builder.step? (b : Builder) (t : Token) : Option Builder :=
  match b.expect with
  | .value => Builder.value? b.frames t
  | .firstItem =>
    match t, b.frames with
    | .closeList, _ :: frames => some ⟨frames, .next (.arr [])⟩
    | _, _ => Builder.value? b.frames t
  | .firstMember members =>
    match t with
    | .closeObject => some ⟨b.frames, .next (.obj members)⟩
    | _ => Builder.name? b.frames members t
  | .member members => Builder.name? b.frames members t
  | .colon =>
    match t with
    | .colon => some ⟨b.frames, .value⟩
    | _ => none
  | .next v =>
    match t, b.frames with
    | .comma, .list items :: frames => some ⟨.list (v :: items) :: frames, .value⟩
    | .closeList, .list items :: frames => some ⟨frames, .next (.arr (v :: items).reverse)⟩
    | .comma, .object members name :: frames => some ⟨frames, .member (Members.put members name v)⟩
    | .closeObject, .object members name :: frames =>
      some ⟨frames, .next (.obj (Members.put members name v))⟩
    | _, _ => none

/-- Ends the text: one complete value, and nothing open. -/
def Builder.finish? (b : Builder) : Option Json :=
  match b.expect, b.frames with
  | .next v, [] => some v
  | _, _ => none

/-- The value of a row of tokens. -/
def ofTokens? (ts : List Token) : Option Json :=
  (ts.foldlM Builder.step? ⟨[], .value⟩).bind Builder.finish?

/-- Reads a JSON text. -/
def ofChars? (cs : List Char) : Option Json := (tokens? cs).bind ofTokens?

/-- Reads a JSON text. -/
def parse? (s : String) : Option Json := ofChars? s.toList

end FirmwareSurvey.Json
