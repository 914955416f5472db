import FirmwareSurvey.Text.Lines
import FirmwareSurvey.Text.Word

/-!
# The lines of a device tree source

A decompiled device tree has each node's opening, each node's end and each property on a line of
its own. A line is told by its shape alone:

* an *opening* is an optional label with a colon, a name with an optional unit address behind an at
  sign, and an opening brace;
* a *closing* is a closing brace and a semicolon;
* a *property* is a key, an optional value behind an equals sign, and a semicolon; the value runs to
  the last semicolon of the line.

Blanks may stand between the parts. All other lines say nothing.
-/

namespace FirmwareSurvey.DeviceTree

/-- What a line says. -/
inductive Line where
  /-- A node begins. -/
  | opening (label : Option String) (name : String) (unit : Option String)
  /-- A node ends. -/
  | closing
  /-- A property of the node around; the value is kept as written. -/
  | property (key : String) (value : Option String)
  /-- Nothing. -/
  | other
deriving DecidableEq

/-! ### Character classes -/

/-- An ASCII letter or digit. -/
def isAlphanumeric (c : Char) : Bool := Text.isAsciiLetter c || Text.isAsciiDigit c

/-- A character of a node's name. -/
def isNameChar (c : Char) : Bool :=
  isAlphanumeric c || c == '_' || c == ',' || c == '.' || c == '+' || c == '-'

/-- A character of a property's key. -/
def isKeyChar (c : Char) : Bool := isNameChar c || c == '#' || c == '?'

/-- A character that a label may start with. -/
def isLabelStart (c : Char) : Bool := Text.isAsciiLetter c || c == '_'

/-- A character of a label after its first. -/
def isLabelChar (c : Char) : Bool := Text.isWord c || c == '-'

/-- A hexadecimal digit in either letter case. -/
def isHexDigit (c : Char) : Bool :=
  Text.isAsciiDigit c || ('a' ≤ c && c ≤ 'f') || ('A' ≤ c && c ≤ 'F')

/-- A character of a unit address. -/
def isUnitChar (c : Char) : Bool := isHexDigit c || c == ','

/-! ### Openings -/

/-- The label a line starts with, when a colon follows it, and the rest after the colon. -/
def label? (cs : List Char) : Option (List Char × List Char) :=
  match cs with
  | c :: rest =>
    if isLabelStart c then
      match Text.skipBlanks (rest.dropWhile isLabelChar) with
      | ':' :: after => some (c :: rest.takeWhile isLabelChar, Text.skipBlanks after)
      | _ => none
    else none
  | [] => none

/-- The name a line starts with and the rest: a slash, or a run of name characters that an
ampersand may precede. -/
def name? (cs : List Char) : Option (List Char × List Char) :=
  match cs with
  | '/' :: rest => some (['/'], rest)
  | '&' :: rest =>
    let run := rest.takeWhile isNameChar
    if run.isEmpty then none else some ('&' :: run, rest.dropWhile isNameChar)
  | _ =>
    let run := cs.takeWhile isNameChar
    if run.isEmpty then none else some (run, cs.dropWhile isNameChar)

/-- The unit address behind a name, and the rest; a sign without an address is left in place. -/
def unit? (cs : List Char) : Option (List Char) × List Char :=
  match cs with
  | '@' :: rest =>
    let run := rest.takeWhile isUnitChar
    if run.isEmpty then (none, cs) else (some run, rest.dropWhile isUnitChar)
  | _ => (none, cs)

/-- Whether what is left of a line is the given mark between blanks. -/
def endsIn (mark : Char) (cs : List Char) : Bool :=
  match Text.skipBlanks cs with
  | c :: rest => c == mark && Text.allBlank rest
  | [] => false

/-- The opening that stands on a line. -/
def opening? (cs : List Char) : Option Line :=
  let start := Text.skipBlanks cs
  let (label, start) := match label? start with
    | some (l, rest) => (some (String.ofList l), rest)
    | none => (none, start)
  match name? start with
  | none => none
  | some (name, rest) =>
    let (unit, rest) := unit? rest
    if endsIn '\x7b' rest then some (.opening label (String.ofList name) (unit.map String.ofList))
    else none

/-! ### Closings and properties -/

/-- Whether a line ends a node. -/
def isClosing (cs : List Char) : Bool :=
  match Text.skipBlanks cs with
  | '\x7d' :: rest => endsIn ';' rest
  | _ => false

/-- What stands before the semicolon that a line ends in, blanks after it apart. -/
def beforeSemicolon? (cs : List Char) : Option (List Char) :=
  match (cs.reverse.dropWhile Text.isBlank) with
  | ';' :: rest => some rest.reverse
  | _ => none

/-- The property that stands on a line. -/
def property? (cs : List Char) : Option Line :=
  let start := Text.skipBlanks cs
  let key := start.takeWhile isKeyChar
  if key.isEmpty then none
  else
    match Text.skipBlanks (start.dropWhile isKeyChar) with
    | '=' :: rest =>
      (beforeSemicolon? rest).map fun value =>
        .property (String.ofList key) (some (String.ofList (Text.trimChars value)))
    | rest => if endsIn ';' rest then some (.property (String.ofList key) none) else none

/-- What a line says. An opening goes before a closing, and both before a property. -/
def Line.ofChars (cs : List Char) : Line :=
  match opening? cs with
  | some l => l
  | none => if isClosing cs then .closing else (property? cs).getD .other

end FirmwareSurvey.DeviceTree
