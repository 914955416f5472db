import FirmwareSurvey.Decimal.Shortest
import FirmwareSurvey.Json.Basic
import FirmwareSurvey.Text.Numeral

/-!
# Writing JSON

Two layouts of the same text: compact, with no blank at all, and laid out, with one member or item
a line, indented by two spaces a level, and an empty list or object closed at once. Texts escape
the quote, the backslash and the controls below the space; all else stands as it is.
-/

namespace FirmwareSurvey.Json

/-- A character inside a quoted text. -/
def escapedChar (c : Char) : List Char :=
  if c == '"' then ['\\', '"']
  else if c == '\\' then ['\\', '\\']
  else if c == '\n' then ['\\', 'n']
  else if c == '\t' then ['\\', 't']
  else if c == '\r' then ['\\', 'r']
  else if c == '\x08' then ['\\', 'b']
  else if c == '\x0c' then ['\\', 'f']
  else if c.toNat < 0x20 then
    ['\\', 'u'] ++ Text.padZeros 4 (Nat.toDigits 16 c.toNat)
  else [c]

/-- A quoted text. -/
def quotedText (s : String) : String :=
  String.ofList ('"' :: s.toList.flatMap escapedChar ++ ['"'])

/-- The text of an integer. -/
def intText (n : Int) : String :=
  if n < 0 then "-" ++ String.ofList (Nat.toDigits 10 n.natAbs)
  else String.ofList (Nat.toDigits 10 n.natAbs)

/-- The text of a double; one that is not finite has none and is written as null. -/
def floatText (x : Binary64) : String :=
  if x.isFinite then String.ofList x.compactText else "null"

mutual

/-- A value without blanks. -/
def compact : Json → String
  | .null => "null"
  | .bool b => if b then "true" else "false"
  | .int n => intText n
  | .float x => floatText x
  | .str s => quotedText s
  | .arr items => "[" ++ ",".intercalate (compactItems items) ++ "]"
  | .obj members => "\x7b" ++ ",".intercalate (compactMembers members) ++ "\x7d"

/-- The items of a list, each without blanks. -/
def compactItems : List Json → List String
  | [] => []
  | v :: vs => compact v :: compactItems vs

/-- The members of an object, each without blanks. -/
def compactMembers : List (String × Json) → List String
  | [] => []
  | (k, v) :: ms => (quotedText k ++ ":" ++ compact v) :: compactMembers ms

end

/-- The start of a line at a level of nesting. -/
def indentation (level : Nat) : String := "\n" ++ String.ofList (List.replicate (2 * level) ' ')

mutual

/-- A value laid out over lines, its first line at `level`. -/
def laidOut (level : Nat) : Json → String
  | .null => "null"
  | .bool b => if b then "true" else "false"
  | .int n => intText n
  | .float x => floatText x
  | .str s => quotedText s
  | .arr [] => "[]"
  | .arr (v :: vs) =>
    "[" ++ ",".intercalate (laidOutItems (level + 1) (v :: vs)) ++ indentation level ++ "]"
  | .obj [] => "\x7b\x7d"
  | .obj (m :: ms) =>
    "\x7b" ++ ",".intercalate (laidOutMembers (level + 1) (m :: ms)) ++ indentation level ++ "\x7d"

/-- The items of a list, each on lines of its own. -/
def laidOutItems (level : Nat) : List Json → List String
  | [] => []
  | v :: vs => (indentation level ++ laidOut level v) :: laidOutItems level vs

/-- The members of an object, each on lines of its own. -/
def laidOutMembers (level : Nat) : List (String × Json) → List String
  | [] => []
  | (k, v) :: ms =>
    (indentation level ++ quotedText k ++ ": " ++ laidOut level v) :: laidOutMembers level ms

end

/-- A value laid out over lines. -/
def pretty (v : Json) : String := laidOut 0 v

end FirmwareSurvey.Json
