import FirmwareSurvey.Shell.Syntax
import FirmwareSurvey.Text.Lines

/-!
# Reading from left to right

A reader of a part of a script starts at a cursor, which holds what is left to read and the number of
the line, and leaves one behind that part. It fails with a flaw when the script goes on with something
else.

A text that starts on the next line but belongs to a word of this one is taken out of the script as
soon as the word is read; the cursor remembers how many lines that left out.
-/

namespace FirmwareSurvey.Shell

/-- What stands at a place of a script. -/
inductive Token where
  /-- Nothing more. -/
  | nothing
  /-- The end of a line. -/
  | lineEnd
  /-- A word. -/
  | word (text : List Char)
  /-- A word with a meaning of its own, or a sign. -/
  | sign (text : List Char)
  /-- A redirection. -/
  | redirection (text : List Char)
deriving DecidableEq

/-- What is wrong with a script. -/
inductive Flaw where
  /-- Something stands where it does not belong; what was expected there. -/
  | unexpected (token : Token) (expected : Option String)
  /-- What a sign opens is not closed; the sign that is missing, and the line of the first one. -/
  | unclosed (sign : String) (line : Nat)
  /-- A value is used in a way that there is not. -/
  | badUse (text : List Char)
  /-- The name in a loop is none. -/
  | badName (text : List Char)
deriving DecidableEq

/-- Where a reader stands. -/
structure Cursor where
  /-- What is left to read. -/
  rest : List Char
  /-- The number of the line. -/
  line : Nat := 1
  /-- How many lines were taken out behind this one. -/
  leftOut : Nat := 0
  /-- The manner of the script. -/
  dialect : Dialect := .plain

/-- Why a part of a script cannot be read, and in which line. -/
abbrev Failure := Flaw × Nat

/-- A reader of a part of a script. -/
abbrev Reader (α : Type) := StateT Cursor (Except Failure) α

/-- The cursor behind a number of characters. -/
def Cursor.advance (c : Cursor) (n : Nat) : Cursor :=
  let ends := ((c.rest.take n).filter (· = '\n')).length
  if ends = 0 then { c with rest := c.rest.drop n }
  else { c with rest := c.rest.drop n, line := c.line + ends + c.leftOut, leftOut := 0 }

/-! ### Characters -/

/-- Whether a character separates words on a line. -/
def isSpace (c : Char) : Bool := c = ' ' || c = '\t'

/-- Whether a character ends a word. -/
def endsWord (c : Char) : Bool :=
  isSpace c || c = '\n' || c = ';' || c = '&' || c = '|' || c = '<' || c = '>' || c = '(' || c = ')'

/-- Whether a character may start a name. -/
def startsName (c : Char) : Bool := c.isAlpha || c = '_'

/-- Whether a character may be part of a name. -/
def isNamePart (c : Char) : Bool := startsName c || c.isDigit

/-- Whether a text is a name. -/
def isName (cs : List Char) : Bool :=
  match cs with
  | [] => false
  | c :: cs => startsName c && cs.all isNamePart

/-- The words that have a meaning of their own where a command may start. -/
def keywords : List String :=
  ["!", "case", "do", "done", "elif", "else", "esac", "fi", "for", "if", "in", "then", "until",
    "while", "\x7b", "\x7d"]

/-- The signs of several characters, the longer first. -/
def longSigns : List String := ["<<-", "<<", ">>", "<&", ">&", "<>", ">|", "&&", "||", ";;"]

namespace Reader

/-- What is left to read. -/
def rest : Reader (List Char) := return (← get).rest

/-- Whether the script is in the extended manner. -/
def isExtended : Reader Bool := return (← get).dialect = .extended

/-- Leaves a number of characters behind. -/
def skip (n : Nat) : Reader Unit := modify (·.advance n)

/-- Fails with a flaw. -/
def fail {α : Type} (flaw : Flaw) : Reader α := do throw (flaw, (← get).line)

/-- Reads characters of a class. -/
def span (p : Char → Bool) : Reader (List Char) := do
  let cs := (← rest).takeWhile p
  skip cs.length
  return cs

/-- Whether a text comes next. -/
def sees (text : String) : Reader Bool := return text.toList.isPrefixOf (← rest)

/-- Reads a text if it comes next. -/
def accept (text : String) : Reader Bool := do
  if ← sees text then
    skip text.length
    return true
  else return false

/-- Leaves blanks, joined lines and a comment behind. -/
def skipSpaces : Nat → Reader Unit
  | 0 => return ()
  | fuel + 1 => do
    match ← rest with
    | '\\' :: '\n' :: _ => do
      skip 2
      skipSpaces fuel
    | '#' :: _ => do
      let _ ← span (· != '\n')
    | c :: _ =>
      if isSpace c then do
        skip 1
        skipSpaces fuel
      else return ()
    | [] => return ()

/-- Leaves blanks, ends of lines and comments behind. -/
def skipLines : Nat → Reader Unit
  | 0 => return ()
  | fuel + 1 => do
    skipSpaces fuel
    match ← rest with
    | '\n' :: _ => do
      skip 1
      skipLines fuel
    | _ => return ()

/-- The characters of the word that comes next, as they stand. -/
def upcoming : Reader String := return String.ofList ((← rest).takeWhile (!endsWord ·))

/-- What stands here. -/
def token (fuel : Nat) : Reader Token := do
  skipSpaces fuel
  let cs ← rest
  match cs with
  | [] => return .nothing
  | '\n' :: _ => return .lineEnd
  | c :: _ =>
    if endsWord c then
      let text := ((longSigns.find? fun s => s.toList.isPrefixOf cs).map String.toList).getD [c]
      return if c = '<' || c = '>' then .redirection text else .sign text
    else
      let text := cs.takeWhile (!endsWord ·)
      return if keywords.contains (String.ofList text) then .sign text else .word text

/-- Fails because something does not belong here. -/
def unexpected {α : Type} (fuel : Nat) (expected : Option String := none) : Reader α := do
  fail (.unexpected (← token fuel) expected)

/-- Reads a word with a meaning of its own that has to come next. -/
def expectWord (fuel : Nat) (text : String) : Reader Unit := do
  skipLines fuel
  if (← upcoming) = text then skip text.length else unexpected fuel (some s!"\"{text}\"")

/-- Reads a sign that has to come next. -/
def expectSign (fuel : Nat) (text : String) : Reader Unit := do
  skipLines fuel
  if ← accept text then return () else unexpected fuel (some s!"\"{text}\"")

end Reader

/-! ### The wording of flaws -/

/-- The wording of what stands at a place. -/
def Token.text : Token → String
  | .nothing => "end of file"
  | .lineEnd => "newline"
  | .word _ => "word"
  | .sign cs => s!"\"{String.ofList cs}\""
  | .redirection _ => "redirection"

/-- The characters of what stands at a place. -/
def Token.shown : Token → String
  | .nothing => "end of file"
  | .lineEnd => "newline"
  | .word cs => String.ofList cs
  | .sign cs => String.ofList cs
  | .redirection cs => String.ofList cs

/-- The wording of a flaw in the plain manner, and its line when it was found in one. -/
def Flaw.plainText (line : Nat) : Flaw → String × Nat
  | .unexpected .lineEnd _ => ("Syntax error: newline unexpected", line + 1)
  | .unexpected token (some expected) =>
    (s!"Syntax error: {token.text} unexpected (expecting {expected})", line)
  | .unexpected token none => (s!"Syntax error: {token.text} unexpected", line)
  | .unclosed "\x60" _ => ("Syntax error: EOF in backquote substitution", line)
  | .unclosed "\x7d" _ => ("Syntax error: Missing '\x7d'", line)
  | .unclosed "))" _ => ("Syntax error: Missing '))'", line)
  | .unclosed ")" _ => ("Syntax error: end of file unexpected (expecting \")\")", line)
  | .unclosed _ _ => ("Syntax error: Unterminated quoted string", line)
  | .badUse _ => ("Bad substitution", line)
  | .badName _ => ("Syntax error: Bad for loop variable", line)

/-- The wording of a flaw in the extended manner, its line when it was found in one, and whether the
line itself is shown behind it. -/
def Flaw.extendedText (line : Nat) : Flaw → String × Nat × Bool
  | .unexpected .nothing _ => ("syntax error: unexpected end of file", line, false)
  | .unexpected token _ => (s!"syntax error near unexpected token \x60{token.shown}'", line, true)
  | .unclosed "))" first => ("unexpected EOF while looking for matching \x60)'", first, false)
  | .unclosed ")" _ => ("unexpected EOF while looking for matching \x60)'", line, false)
  | .unclosed sign first => (s!"unexpected EOF while looking for matching \x60{sign}'", first, false)
  | .badUse text => (s!"{String.ofList text}: bad substitution", line, false)
  | .badName text => (s!"\x60{String.ofList text}': not a valid identifier", line, false)

end FirmwareSurvey.Shell
