import FirmwareSurvey.Decimal.Binary64
import FirmwareSurvey.Json.Reader
import FirmwareSurvey.Template.References
import FirmwareSurvey.Text.Numeral
import FirmwareSurvey.Text.Search

/-!
# Tokens of a template

A template is text with tags in it. An output tag stands between `{{` and `}}`, a statement between
`{%` and `%}`, a comment between `{#` and `#}`. A minus sign at either end of a tag takes away the
blanks of the text on that side, a plus sign leaves them as they are. What stands between the tags
`raw` and `endraw` is text, whatever it looks like.

Inside a tag, a token is a name, a quoted text, a number or a mark; blanks separate tokens and mean
nothing else. A tag does not end while a parenthesis, bracket or brace is open in it. A point is part
of a number only before a digit.
-/

namespace FirmwareSurvey.Template

/-- The two kinds of tags with an inside. -/
inductive TagKind where
  /-- A tag that writes a value. -/
  | output
  /-- A tag that holds a statement. -/
  | statement
deriving DecidableEq, Repr

/-- A token of a template. -/
inductive Token where
  /-- Text outside of tags. -/
  | plain (text : String)
  /-- The start of a tag. -/
  | opening (kind : TagKind)
  /-- The end of a tag. -/
  | closing (kind : TagKind)
  /-- A name. -/
  | name (name : String)
  /-- A quoted text. -/
  | text (text : String)
  /-- A whole number. -/
  | int (n : Nat)
  /-- Any other number. -/
  | float (x : Binary64)
  /-- An operator or a delimiter. -/
  | mark (mark : String)
deriving DecidableEq

namespace Token

/-- A blank inside of a tag. -/
def isTagBlank (c : Char) : Bool :=
  c == ' ' || c == '\t' || c == '\n' || c == '\r' || c == '\x0c'

/-! ### Blanks around tags -/

/-- What a tag does to the blanks on one of its sides. -/
inductive Side where
  /-- Leaves them. -/
  | keep
  /-- Takes them away. -/
  | trim
deriving DecidableEq, Repr

/-- The sign at the end of a tag and what comes after it. -/
def dropSign : List Char → Side × List Char
  | '-' :: cs => (.trim, cs)
  | '+' :: cs => (.keep, cs)
  | cs => (.keep, cs)

/-- A text without the blanks at its start, when the tag before asks for it. -/
def Side.trimStart : Side → List Char → List Char
  | .trim, cs => Text.skipBlanks cs
  | .keep, cs => cs

/-- A text without the blanks at its end, when the tag after asks for it. -/
def Side.trimEnd : Side → List Char → List Char
  | .trim, cs => Text.trimEndChars cs
  | .keep, cs => cs

/-! ### Starts and ends of tags -/

/-- What a pair of braces starts. -/
inductive Opener where
  /-- A tag with an inside. -/
  | tag (kind : TagKind)
  /-- A comment. -/
  | comment
deriving DecidableEq, Repr

/-- What the character after a brace starts with it. -/
def Opener.ofChar? : Char → Option Opener
  | '{' => some (.tag .output)
  | '%' => some (.tag .statement)
  | '#' => some .comment
  | _ => none

/-- The character that ends a tag, before the closing brace. -/
def closer : TagKind → Char
  | .output => '}'
  | .statement => '%'

/-- The text up to the first start of a tag or comment, what starts there, and what comes after its
two characters. -/
def plainRun : List Char → List Char × Option (Opener × List Char)
  | [] => ([], none)
  | [c] => ([c], none)
  | c :: d :: rest =>
    match if c = '{' then Opener.ofChar? d else none with
    | some opener => ([], some (opener, rest))
    | none =>
      let (before, found) := plainRun (d :: rest)
      (c :: before, found)

/-- What comes after a tag's end that stands right here. -/
def end? (kind : TagKind) : List Char → Option (Side × List Char)
  | cs =>
    let (side, rest) := dropSign cs
    match rest with
    | c :: '}' :: after => if c = closer kind then some (side, after) else none
    | _ => none

/-- What comes after a comment, and what its end does to the blanks behind it. `sign` tells whether
the character read last asks for them to be trimmed. -/
def afterComment? (sign : Side) : List Char → Option (Side × List Char)
  | '#' :: '}' :: rest => some (sign, rest)
  | c :: rest => afterComment? (if c = '-' then .trim else .keep) rest
  | [] => none

/-! ### Text that looks like tags -/

/-- A statement that consists of one word only, read behind its start: what comes after it. -/
def wordTag? (word : String) (cs : List Char) : Option (Side × List Char) :=
  match Text.dropWord? word.toList (cs.dropWhile isTagBlank) with
  | some rest => end? .statement (rest.dropWhile isTagBlank)
  | none => none

/-- What stands before the end of raw text, what its end does to the blanks there, and what comes
after it with what it does to the blanks behind. -/
def rawText? : List Char → Option (List Char × Side × Side × List Char)
  | [] => none
  | c :: cs =>
    let here : Option (List Char × Side × Side × List Char) :=
      match c, cs with
      | '{', '%' :: inner =>
        let (side, inner) := dropSign inner
        (wordTag? "endraw" inner).map fun found => ([], side, found.1, found.2)
      | _, _ => none
    match here with
    | some found => some found
    | none => (rawText? cs).map fun found => (c :: found.1, found.2)

/-! ### Quoted texts -/

/-- A quoted text up to its closing quote, escapes kept, and what comes after it. -/
def quotedRun? (quote : Char) : List Char → Option (List Char × List Char)
  | [] => none
  | '\\' :: c :: rest => (quotedRun? quote rest).map fun (run, after) => ('\\' :: c :: run, after)
  | c :: rest =>
    if c = quote then some ([], rest)
    else (quotedRun? quote rest).map fun (run, after) => (c :: run, after)

/-- The character that a character behind a backslash stands for. -/
def escaped? : Char → Option Char
  | '"' => some '"'
  | '\\' => some '\\'
  | '/' => some '/'
  | '\'' => some '\''
  | 'b' => some '\x08'
  | 'f' => some '\x0c'
  | 'n' => some '\n'
  | 'r' => some '\r'
  | 't' => some '\t'
  | _ => none

/-- The number of a row of digits, of which there have to be exactly so many at the start of a text,
and what comes after them. -/
def digitsOf? (base count : Nat) (cs : List Char) : Option (Nat × List Char) :=
  let digits := cs.take count
  if digits.length = count then
    (Text.digitsValue? base 0 digits).map fun n => (n, cs.drop count)
  else none

/-- Whether a number is the first half of a character written in two. -/
def isFirstHalf (n : Nat) : Bool := 0xD800 ≤ n && n < 0xDC00

/-- Whether a number is the second half of a character written in two. -/
def isSecondHalf (n : Nat) : Bool := 0xDC00 ≤ n && n < 0xE000

/-- The character that the escape of four digits at the start of a text stands for, and what comes
after it. The halves of a character stand one behind the other; a half on its own is refused. -/
def unit? (cs : List Char) : Option (Char × List Char) :=
  match digitsOf? 16 4 cs with
  | none => none
  | some (n, rest) =>
    if isSecondHalf n then none
    else if isFirstHalf n then
      match rest with
      | '\\' :: 'u' :: more =>
        match digitsOf? 16 4 more with
        | some (m, rest) =>
          if isSecondHalf m then
            some (Char.ofNat (0x10000 + (n - 0xD800) * 0x400 + (m - 0xDC00)), rest)
          else none
        | none => none
      | _ => none
    else some (Char.ofNat n, rest)

/-- A digit to base eight. -/
def isOctalDigit (c : Char) : Bool := '0' ≤ c && c ≤ '7'

/-- What stands behind a backslash resolved, and what comes after it. A letter that is no escape
stands for itself and the backslash. -/
def escape? (c : Char) (cs : List Char) : Option (List Char × List Char) :=
  match escaped? c with
  | some d => some ([d], cs)
  | none =>
    if c = 'u' then (unit? cs).map fun (d, rest) => ([d], rest)
    else if c = 'x' then (digitsOf? 16 2 cs).map fun (n, rest) => ([Char.ofNat n], rest)
    else if isOctalDigit c then
      let digits := c :: (cs.take 2).takeWhile isOctalDigit
      match Text.digitsValue? 8 0 digits with
      | some n => if n < 0x100 then some ([Char.ofNat n], cs.drop (digits.length - 1)) else none
      | none => none
    else some (['\\', c], cs)

/-- A text with its escapes resolved. `fuel` bounds the number of its characters. -/
def unescapeFrom? : Nat → List Char → Option (List Char)
  | _, [] => some []
  | 0, _ :: _ => none
  | fuel + 1, c :: cs =>
    if c = '\\' then
      match cs with
      | [] => none
      | d :: cs => do
        let (out, rest) ← escape? d cs
        let more ← unescapeFrom? fuel rest
        some (out ++ more)
    else (unescapeFrom? fuel cs).map (c :: ·)

/-- A text with its escapes resolved. -/
def unescape? (cs : List Char) : Option (List Char) := unescapeFrom? cs.length cs

/-! ### Numbers -/

/-- One more than the greatest whole number that may be written. -/
def intLimit : Nat := Nat.pow 2 128

/-- Where in a number a character stands. -/
inductive Place where
  /-- Before the point. -/
  | whole
  /-- After the point. -/
  | fraction
  /-- Right after the letter of the exponent. -/
  | mark
  /-- In the exponent. -/
  | exponent
deriving DecidableEq, Repr

/-- The place after a character, if the number goes on with it; the character after that one is
told, too. -/
def Place.next? (c : Char) (after : Option Char) : Place → Option Place
  | .whole =>
    if c = '.' then if after.any Text.isAsciiDigit then some .fraction else none
    else if c = 'e' || c = 'E' then some .mark
    else if Text.isAsciiDigit c || c = '_' then some .whole else none
  | .fraction =>
    if c = 'e' || c = 'E' then some .mark
    else if Text.isAsciiDigit c || c = '_' then some .fraction else none
  | .mark =>
    if c = '+' || c = '-' || Text.isAsciiDigit c then some .exponent
    else if c = '_' then some .mark else none
  | .exponent => if Text.isAsciiDigit c || c = '_' then some .exponent else none

/-- The characters of a number, the place it ends in, and what comes after it. -/
def numberRun (place : Place) : List Char → List Char × Place × List Char
  | [] => ([], place, [])
  | c :: cs =>
    match place.next? c cs.head? with
    | some place =>
      let (run, last, rest) := numberRun place cs
      (c :: run, last, rest)
    | none => ([], place, c :: cs)

/-- The digits of a number in a base. -/
def int? (base : Nat) (run : List Char) : Option Token :=
  if run.getLast? == some '_' then none
  else (Text.unsigned? base intLimit (run.filter (· != '_'))).map .int

/-- A number with a point or an exponent. -/
def float? (run : List Char) : Option Token :=
  if run.getLast? == some '_' then none
  else
    let run := run.filter (· != '_')
    let mantissa := run.takeWhile fun c => c != 'e' && c != 'E'
    let power := (run.drop mantissa.length).drop 1
    let whole := mantissa.takeWhile (· != '.')
    let fraction := (mantissa.drop whole.length).drop 1
    let (negative, power) := match power with
      | '-' :: ds => (true, ds)
      | '+' :: ds => (false, ds)
      | ds => (false, ds)
    if power.isEmpty && mantissa.length < run.length then none
    else
      match Text.digitsValue? 10 0 (whole ++ fraction), Text.digitsValue? 10 0 power with
      | some digits, some n =>
        let exponent : Int := if negative then -(n : Int) else n
        some (.float (Binary64.nearest false digits (exponent - fraction.length)))
      | _, _ => none

/-- A number at the start of a text, and what comes after it. -/
def number? (cs : List Char) : Option (Token × List Char) :=
  let based (base : Nat) (rest : List Char) : Option (Token × List Char) :=
    let p (c : Char) : Bool := c == '_' || (Text.digitValue? base c).isSome
    (int? base (rest.takeWhile p)).map fun t => (t, rest.dropWhile p)
  match cs with
  | '0' :: 'x' :: rest | '0' :: 'X' :: rest => based 16 rest
  | '0' :: 'o' :: rest | '0' :: 'O' :: rest => based 8 rest
  | '0' :: 'b' :: rest | '0' :: 'B' :: rest => based 2 rest
  | _ =>
    let (run, last, rest) := numberRun .whole cs
    (if last = .whole then int? 10 run else float? run).map fun t => (t, rest)

/-! ### Inside a tag -/

/-- The marks of two characters. -/
def doubleMarks : List String := ["//", "**", "==", "!=", ">=", "<="]

/-- The marks of one character. -/
def singleMarks : List Char := "+-*/%.,:~|=><()[]\x7b\x7d".toList

/-- The token at the start of the inside of a tag, blanks passed, and what comes after it. -/
def inner? : List Char → Option (Token × List Char)
  | [] => none
  | c :: cs =>
    match cs with
    | d :: rest =>
      if String.ofList [c, d] ∈ doubleMarks then some (.mark (String.ofList [c, d]), rest)
      else first c cs
    | [] => first c cs
where
  /-- A token that is no mark of two characters. -/
  first (c : Char) (cs : List Char) : Option (Token × List Char) :=
    if c ∈ singleMarks then some (.mark (String.ofList [c]), cs)
    else if c = '"' || c = '\'' then
      match quotedRun? c cs with
      | some (run, rest) => (unescape? run).map fun t => (.text (String.ofList t), rest)
      | none => none
    else if Text.isAsciiDigit c then number? (c :: cs)
    else if isNameStart c then
      some (.name (String.ofList ((c :: cs).takeWhile isNameChar)), cs.dropWhile isNameChar)
    else none

/-! ### The tokens of a text -/

/-- Where a scan stands. -/
inductive Mode where
  /-- Outside of tags; the tag before asks for the blanks here to go or not. -/
  | outside (before : Side)
  /-- Inside a tag, with so many parentheses, brackets and braces open. -/
  | inside (kind : TagKind) (depth : Int)

/-- How many parentheses, brackets and braces a token opens; those that it closes count against
it. -/
def depthChange : Token → Int
  | .mark m =>
    if m == "(" || m == "[" || m == "\x7b" then 1
    else if m == ")" || m == "]" || m == "\x7d" then -1
    else 0
  | _ => 0

/-- The token of a text, unless that is empty. -/
def plainToken (cs : List Char) : List Token :=
  if cs.isEmpty then [] else [.plain (String.ofList cs)]

/-- The tokens of a template from where a scan stands; none when it is no template. `fuel` bounds
the number of steps; each step but the one into a tag reads a character. -/
def scan? : Nat → Mode → List Char → Option (List Token)
  | 0, _, _ => none
  | fuel + 1, .outside before, cs =>
    let (run, found) := plainRun (before.trimStart cs)
    match found with
    | none => some (plainToken run)
    | some (opener, rest) =>
      let (side, inner) := dropSign rest
      let lead := plainToken (side.trimEnd run)
      match opener with
      | .comment =>
        match afterComment? .keep inner with
        | some (behind, rest) => (scan? fuel (.outside behind) rest).map (lead ++ ·)
        | none => none
      | .tag .output =>
        (scan? fuel (.inside .output 0) inner).map fun ts => lead ++ .opening .output :: ts
      | .tag .statement =>
        match wordTag? "raw" inner with
        | some (first, inner) =>
          match rawText? inner with
          | some (body, last, behind, rest) =>
            (scan? fuel (.outside behind) rest).map fun ts =>
              lead ++ .plain (String.ofList (last.trimEnd (first.trimStart body))) :: ts
          | none => none
        | none =>
          (scan? fuel (.inside .statement 0) inner).map fun ts => lead ++ .opening .statement :: ts
  | fuel + 1, .inside kind depth, cs =>
    let cs := cs.dropWhile isTagBlank
    match if depth = 0 then end? kind cs else none with
    | some (side, rest) => (scan? fuel (.outside side) rest).map (.closing kind :: ·)
    | none =>
      match inner? cs with
      | some (t, rest) =>
        (scan? fuel (.inside kind (depth + depthChange t)) rest).map (t :: ·)
      | none => none

/-- The tokens of a template; none when it is no template. -/
def ofText? (template : String) : Option (List Token) :=
  scan? (2 * template.toList.length + 2) (.outside .keep) template.toList

end Token

end FirmwareSurvey.Template
