import FirmwareSurvey.ResultScript.Syntax
import FirmwareSurvey.Text.Numeral

/-!
# Why a script cannot be read

A flaw is a defect together with the part of the script that shows it. Some defects lie in how a script
is cut into tokens: they are told first, wherever they stand, unless the script only ends too early.
-/

namespace FirmwareSurvey.ResultScript

/-- What is wrong with a script that cannot be read. -/
inductive Defect where
  /-- Something does not belong where it stands. -/
  | misplaced
  /-- A comma may be missing between two expressions. -/
  | missingComma
  /-- A single equals sign stands where two are meant. -/
  | singleEquals
  /-- An argument has an equals sign behind something that is no name. -/
  | equalsInArgument
  /-- Nothing of this sort can be given a value or be taken away. -/
  | noTarget (deed sort : String)
  /-- Nothing of this sort can be given a value; two equals signs may be meant. -/
  | noTargetHere (sort : String)
  /-- Nothing of this sort can be changed. -/
  | notChangeable (sort : String)
  /-- Nothing of this sort can have a note. -/
  | notNoted (sort : Option String)
  /-- A choice has no second value. -/
  | noAlternative
  /-- A sign is missing. -/
  | noSign (sign : Char)
  /-- Statements should stand below the head of one that starts in a line. -/
  | noBlock (head : String) (line : Nat)
  /-- Nothing is done about failures. -/
  | noHandler
  /-- Kinds of failures stand in a row without brackets. -/
  | bareKinds
  /-- What deals with all failures is not the last to do so. -/
  | earlyHandler
  /-- A function is not called with brackets. -/
  | notCalled (name : String)
  /-- A plain argument stands behind one with a name, or behind a table of them. -/
  | lateArgument (isTable : Bool)
  /-- A row of values stands among other arguments. -/
  | bareRow
  /-- An argument is given twice. -/
  | repeatedArgument (name : String)
  /-- A parameter is there twice. -/
  | repeatedParameter (name : String)
  /-- A parameter without a value of its own stands behind one with a value. -/
  | lateParameter
  /-- No parameter follows the star that asks for names. -/
  | bareStar
  /-- There are two stars among the parameters. -/
  | secondStar
  /-- A parameter stands behind the one for all names. -/
  | afterNames
  /-- Names end with a comma that brackets should be around. -/
  | lastComma
  /-- The members of a table have a name without a colon, or a colon without a value. -/
  | halfMember (hasColon : Bool)
  /-- The next line is indented. -/
  | indented
  /-- No line before is indented like this one. -/
  | unindented
  /-- Tabs and blanks are mixed so that the depth is not clear. -/
  | mixedIndentation
  /-- A bracket is open at the end. -/
  | unclosed (bracket : Char)
  /-- A bracket closes nothing. -/
  | unmatched (bracket : Char)
  /-- A bracket closes one of another sort, which may stand in another line. -/
  | mismatched (closing opening : Char) (line : Option Nat)
  /-- A text has no end, up to a line. -/
  | openText (isLong isJoined : Bool) (line : Nat)
  /-- A character has no meaning. -/
  | strangeCharacter (c : Char)
  /-- A number of a sort goes on with something else. -/
  | badNumber (sort : String)
  /-- A digit is too large. -/
  | badDigit (digit : Char) (sort : String)
  /-- A number starts with a zero. -/
  | leadingZeros
  /-- Something stands behind the sign that a line goes on. -/
  | afterContinuation
  /-- The script ends where a line should go on. -/
  | cutOff
  /-- An escape of a text lacks digits, or stands for no character. -/
  | badEscape (start stop : Nat) (reason : String)
  /-- There are other characters in bytes. -/
  | notOctets
  /-- Something is wrong with a field of a text. -/
  | badField (reason : String)
  /-- A statement stands outside of what it belongs to. -/
  | outside (what place : String)
  /-- A loop is asked to go on where there is none. -/
  | outsideLoop
  /-- A name is said to belong to a function around where there is none. -/
  | outermost
deriving DecidableEq

/-- A part of a script with what is wrong there. -/
structure Flaw where
  /-- What is wrong. -/
  defect : Defect
  /-- The part. -/
  span : Span
  /-- Whether the part can be shown. -/
  isShown : Bool := true
deriving DecidableEq

namespace Defect

/-- Whether a character can be seen. -/
def isVisible (c : Char) : Bool :=
  let n := c.toNat
  !(n < 0xa1 || n = 0xad || n = 0x3000 || n = 0x2028 || n = 0x2029 || n = 0xfeff || n = 0x202f ||
    (0x2000 ≤ n && n ≤ 0x200f) || (0x202a ≤ n && n ≤ 0x202e) || (0x205f ≤ n && n ≤ 0x206f))

/-- The wording. -/
def message : Defect → String
  | .misplaced => "invalid syntax"
  | .missingComma => "invalid syntax. Perhaps you forgot a comma?"
  | .singleEquals => "invalid syntax. Maybe you meant '==' or ':=' instead of '='?"
  | .equalsInArgument => "expression cannot contain assignment, perhaps you meant \"==\"?"
  | .noTarget deed sort => s!"cannot {deed} {sort}"
  | .noTargetHere sort => s!"cannot assign to {sort} here. Maybe you meant '==' instead of '='?"
  | .notChangeable sort => s!"'{sort}' is an illegal expression for augmented assignment"
  | .notNoted none => "illegal target for annotation"
  | .notNoted (some sort) => s!"only single target (not {sort}) can be annotated"
  | .noAlternative => "expected 'else' after 'if' expression"
  | .noSign sign => s!"expected '{sign}'"
  | .noBlock head line => s!"expected an indented block after {head} on line {line}"
  | .noHandler => "expected 'except' or 'finally' block"
  | .bareKinds => "multiple exception types must be parenthesized"
  | .earlyHandler => "default 'except:' must be last"
  | .notCalled name => s!"Missing parentheses in call to '{name}'. Did you mean {name}(...)?"
  | .lateArgument isTable =>
    "positional argument follows keyword argument" ++ if isTable then " unpacking" else ""
  | .bareRow => "Generator expression must be parenthesized"
  | .repeatedArgument name => s!"keyword argument repeated: {name}"
  | .repeatedParameter name => s!"duplicate argument '{name}' in function definition"
  | .lateParameter => "parameter without a default follows parameter with a default"
  | .bareStar => "named arguments must follow bare *"
  | .secondStar => "* argument may appear only once"
  | .afterNames => "arguments cannot follow var-keyword argument"
  | .lastComma => "trailing comma not allowed without surrounding parentheses"
  | .halfMember hasColon =>
    if hasColon then "expression expected after dictionary key and ':'"
    else "':' expected after dictionary key"
  | .indented => "unexpected indent"
  | .unindented => "unindent does not match any outer indentation level"
  | .mixedIndentation => "inconsistent use of tabs and spaces in indentation"
  | .unclosed bracket => s!"'{bracket}' was never closed"
  | .unmatched bracket => s!"unmatched '{bracket}'"
  | .mismatched closing opening line =>
    let place := match line with
      | some n => s!" on line {n}"
      | none => ""
    s!"closing parenthesis '{closing}' does not match opening parenthesis '{opening}'{place}"
  | .openText isLong isJoined line =>
    let long := if isLong then "triple-quoted " else ""
    let sort := if isJoined then "f-string" else "string"
    s!"unterminated {long}{sort} literal (detected at line {line})"
  | .strangeCharacter c =>
    let number := String.ofList (Text.padZeros 4 ((Nat.toDigits 16 c.toNat).map Char.toUpper))
    if isVisible c then s!"invalid character '{c}' (U+{number})"
    else s!"invalid non-printable character U+{number}"
  | .badNumber sort => s!"invalid {sort} literal"
  | .badDigit digit sort => s!"invalid digit '{digit}' in {sort} literal"
  | .leadingZeros => "leading zeros in decimal integer literals are not permitted; " ++
      "use an 0o prefix for octal integers"
  | .afterContinuation => "unexpected character after line continuation character"
  | .cutOff => "unexpected EOF while parsing"
  | .badEscape start stop reason =>
    s!"(unicode error) 'unicodeescape' codec can't decode bytes in position {start}-{stop}: {reason}"
  | .notOctets => "bytes can only contain ASCII literal characters"
  | .badField reason => s!"f-string: {reason}"
  | .outside what place => s!"'{what}' outside {place}"
  | .outsideLoop => "'continue' not properly in loop"
  | .outermost => "nonlocal declaration not allowed at module level"

/-- The kind of failure that a defect is. -/
def kind : Defect → String
  | .noBlock _ _ => "IndentationError"
  | .indented => "IndentationError"
  | .unindented => "IndentationError"
  | .mixedIndentation => "TabError"
  | _ => "SyntaxError"

/-- Whether a script has a defect because of the tokens it is cut into. -/
def isOfTokens : Defect → Bool
  | .unindented => true
  | .mixedIndentation => true
  | .unclosed _ => true
  | .unmatched _ => true
  | .mismatched _ _ _ => true
  | .openText _ _ _ => true
  | .strangeCharacter _ => true
  | .badNumber _ => true
  | .badDigit _ _ => true
  | .leadingZeros => true
  | .afterContinuation => true
  | .cutOff => true
  | _ => false

/-- Whether a defect of the tokens is told even when something before it is wrong as well. -/
def isPressing : Defect → Bool
  | .unindented => false
  | .mixedIndentation => false
  | .unclosed _ => false
  | .cutOff => false
  | d => d.isOfTokens

end Defect

/-- The lines that tell a flaw of a script in a file. -/
def Flaw.lines (flaw : Flaw) (file : String) (script : Array (List Char)) : List String :=
  let head := s!"  File \"{file}\", line {flaw.span.line}"
  let last := s!"{flaw.defect.kind}: {flaw.defect.message}"
  match script[flaw.span.line - 1]? with
  | none => [head, last]
  | some line =>
    let blanks := line.takeWhile fun c => c = ' ' || c = '\t' || c = '\x0c'
    let text := line.drop blanks.length
    let column := min (flaw.span.column - blanks.length) text.length
    let width := max 1 (flaw.span.endColumn - flaw.span.column)
    let marks := List.replicate column ' ' ++ List.replicate width '^'
    let isShown := flaw.isShown && blanks.length ≤ flaw.span.column
    [head, "    " ++ String.ofList text] ++
      (if isShown then ["    " ++ String.ofList marks] else []) ++ [last]

end FirmwareSurvey.ResultScript
