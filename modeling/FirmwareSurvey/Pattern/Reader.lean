import FirmwareSurvey.Pattern.Basic
import FirmwareSurvey.Text.Lines
import FirmwareSurvey.Text.Numeral

/-!
# Reading a regular expression

The extended notation: a bar between alternatives, parentheses around groups, a star, a plus sign, a
question mark or a number of times in braces behind a piece, classes of characters in brackets, a dot
for any character, a caret and a dollar sign for the ends of a line. A backslash before some
characters names a class, an edge or what a group took; before others it takes their special meaning.

A sign of repetition with nothing before it repeats the empty piece, braces that give no number of
times stand for themselves, and so does a closing parenthesis without an opening one. The lines of a
text are alternatives.
-/

namespace FirmwareSurvey.Pattern

/-! ### Repetition -/

/-- The greatest number of times. -/
def timesLimit : Nat := 32767

/-- Reads a number of times behind its opening brace: the least number, and the greatest one if
there is one. -/
def readTimes? (cs : List Char) : Option ((Nat × Option Nat) × List Char) :=
  let low := cs.takeWhile Char.isDigit
  let least := (Text.digitsValue? 10 0 low).getD 0
  match cs.dropWhile Char.isDigit with
  | '\x7d' :: rest => if low.isEmpty then none else some ((least, some least), rest)
  | ',' :: more =>
    let high := more.takeWhile Char.isDigit
    let greatest := if high.isEmpty then none else Text.digitsValue? 10 0 high
    match more.dropWhile Char.isDigit with
    | '\x7d' :: rest => some ((least, greatest), rest)
    | _ => none
  | _ => none

/-- A piece a number of times. -/
def repeated (p : Pattern) (least : Nat) : Option Nat → Pattern
  | none => .sequence (p.times least) (.many p)
  | some greatest => .sequence (p.times least) (p.upTo (greatest - least))

/-- Reads the signs of repetition behind a piece. A greatest number of times below the least one is a
flaw, except behind an edge, where the braces stand for themselves. `fuel` bounds the number of
signs. -/
def readRepetition : Nat → Pattern → List Char → Option (Pattern × List Char)
  | 0, _, _ => none
  | fuel + 1, p, cs =>
    match cs with
    | '*' :: rest => readRepetition fuel (.many p) rest
    | '+' :: rest => readRepetition fuel (.sequence p (.many p)) rest
    | '?' :: rest => readRepetition fuel (.choice .empty p) rest
    | '\x7b' :: more =>
      match readTimes? more with
      | some ((least, greatest), rest) =>
        if least ≤ greatest.getD least && greatest.getD least ≤ timesLimit then
          readRepetition fuel (p.repeated least greatest) rest
        else if p matches .edge _ && greatest.getD least < least then some (p, cs)
        else none
      | none => some (p, cs)
    | _ => some (p, cs)

/-- Whether a sign of repetition comes next. -/
def startsRepetition (cs : List Char) : Bool :=
  match cs with
  | '*' :: _ => true
  | '+' :: _ => true
  | '?' :: _ => true
  | '\x7b' :: more =>
    match readTimes? more with
    | some ((least, greatest), _) => least ≤ greatest.getD least
    | none => false
  | _ => false

/-- Whether only signs of repetition stand before a closing parenthesis, which then closes no
group. -/
def leavesGroupOpen (cs : List Char) : Bool :=
  (cs.dropWhile fun c => c = '*' || c = '+' || c = '?').head? == some ')'

/-! ### Patterns -/

/-- The blank characters. -/
def spaceRanges : List (Char × Char) := [(' ', ' '), ('\t', '\r')]

/-- The pattern of a character behind a backslash that refers to no group. -/
def escaped (c : Char) : Pattern :=
  match c with
  | 'w' => .one CharClass.word
  | 'W' => .one ⟨CharClass.word.ranges, true⟩
  | 's' => .one ⟨spaceRanges, false⟩
  | 'S' => .one ⟨spaceRanges, true⟩
  | 'b' => .edge .word
  | 'B' => .edge .noWord
  | '<' => .edge .wordStart
  | '>' => .edge .wordEnd
  | '\x60' => .edge .lineStart
  | '\'' => .edge .lineEnd
  | c => .char c

/-- What is known of groups at a place: how many started before it, and which of them ended. -/
structure Groups where
  /-- How many started. -/
  started : Nat := 0
  /-- The numbers of those that ended. -/
  ended : List Nat := []

/-- What was read, what is known of groups behind it, and the rest. -/
abbrev Found := Pattern × Groups × List Char

mutual

/-- Reads alternatives up to the end, or inside a group up to its closing parenthesis. -/
def readChoice : Nat → Bool → Groups → List Char → Option Found
  | 0, _, _, _ => none
  | fuel + 1, inGroup, groups, cs => do
    let (p, groups, rest) ← readSequence fuel inGroup true groups cs
    match rest with
    | '|' :: rest =>
      let (q, groups, rest) ← readChoice fuel inGroup groups rest
      some (.choice p q, groups, rest)
    | rest => some (p, groups, rest)

/-- Reads pieces up to a bar, the closing parenthesis of a group or the end. -/
def readSequence : Nat → Bool → Bool → Groups → List Char → Option Found
  | 0, _, _, _, _ => none
  | fuel + 1, inGroup, isFirst, groups, cs =>
    match cs with
    | [] => some (.empty, groups, [])
    | '|' :: _ => some (.empty, groups, cs)
    | c :: _ =>
      if inGroup && c = ')' then some (.empty, groups, cs)
      else do
        let idle := isFirst && startsRepetition cs
        let (p, groups, rest) ← if idle then some (.empty, groups, cs) else readPiece fuel groups cs
        let (p, rest) ← readRepetition (rest.length + 1) p rest
        if inGroup && idle && leavesGroupOpen cs then none
        else
          let (q, groups, rest) ← readSequence fuel inGroup false groups rest
          some (.sequence p q, groups, rest)

/-- Reads one piece. -/
def readPiece : Nat → Groups → List Char → Option Found
  | 0, _, _ => none
  | fuel + 1, groups, cs =>
    match cs with
    | [] => none
    | '(' :: rest => do
      let number := groups.started + 1
      match ← readChoice fuel true { groups with started := number } rest with
      | (p, groups, ')' :: rest) =>
        some (.group number [] p, { groups with ended := number :: groups.ended }, rest)
      | _ => none
    | '[' :: rest => do
      let (k, rest) ← readClass? rest
      some (.one k, groups, rest)
    | '.' :: rest => some (.any, groups, rest)
    | '^' :: rest => some (.edge .lineStart, groups, rest)
    | '$' :: rest => some (.edge .lineEnd, groups, rest)
    | '\\' :: c :: rest =>
      let number := c.toNat - '0'.toNat
      if c.isDigit && c != '0' then
        if groups.ended.contains number then some (.again number, groups, rest) else none
      else some (escaped c, groups, rest)
    | '\\' :: [] => none
    | c :: rest => some (.char c, groups, rest)

end

/-- The pattern of a line, with all its groups. -/
def withGroups? (cs : List Char) : Option Pattern :=
  match readChoice (3 * (cs.length + 1)) false {} cs with
  | some (p, _, []) => some p
  | _ => none

/-- The pattern of a line. -/
def ofLine? (cs : List Char) : Option Pattern :=
  (withGroups? cs).map fun p => p.keeping p.refersTo

/-- The pattern of a text, whose lines are alternatives; none when a line is no pattern. -/
def ofText? (cs : List Char) : Option Pattern := do
  match ← (Text.cut '\n' cs).mapM ofLine? with
  | [] => some .empty
  | p :: ps => some (ps.foldl .choice p)

end FirmwareSurvey.Pattern
