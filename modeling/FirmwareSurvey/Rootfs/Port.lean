import FirmwareSurvey.Json.Basic
import FirmwareSurvey.Text.Lines
import FirmwareSurvey.Text.Numeral
import FirmwareSurvey.Text.Search
import FirmwareSurvey.Text.Word

/-!
# Ports in configuration files

A line of a configuration file sets a port when it has the form of one of five directives. The first
directive whose number is a port decides; a port is told once for a file, by the first line that
sets it, and never zero.
-/

namespace FirmwareSurvey.Rootfs

/-- A port that a configuration file sets. -/
structure Port where
  /-- The number. -/
  number : Nat
  /-- The file. -/
  file : String
  /-- The line, without the blanks at its ends. -/
  directive : String
deriving DecidableEq

/-! ### Directives -/

/-- One to five digits up to what is no word character. -/
def wholeNumber? (cs : List Char) : Option (List Char) :=
  let run := cs.takeWhile Text.isDigit
  if run.isEmpty || 5 < run.length || (cs.drop run.length).head?.any Text.isWord then none
  else some run

/-- Up to five digits, whatever follows. -/
def leadingNumber? (cs : List Char) : Option (List Char) :=
  let run := (cs.takeWhile Text.isDigit).take 5
  if run.isEmpty then none else some run

/-- One to five digits with nothing but blanks behind. -/
def lastNumber? (cs : List Char) : Option (List Char) :=
  let run := cs.takeWhile Text.isDigit
  if run.isEmpty || 5 < run.length || !Text.allBlank (cs.drop run.length) then none else some run

/-- What follows a run of characters of a class and a colon. -/
def afterHost? (p : Char → Bool) (cs : List Char) : Option (List Char) :=
  match Text.someRun? p cs with
  | some (_, ':' :: rest) => some rest
  | _ => none

/-- What follows an address in square brackets and a colon. -/
def afterBracketed? : List Char → Option (List Char)
  | '[' :: cs =>
    let inside (c : Char) : Bool := (Text.digitValue? 16 c).isSome || c == ':'
    match Text.someRun? inside cs with
    | some (_, ']' :: ':' :: rest) => some rest
    | _ => none
  | _ => none

/-- What follows a word and at least one blank. -/
def afterWord? (word : String) (cs : List Char) : Option (List Char) :=
  (Text.dropWord? word.toList cs).bind fun rest => (Text.someRun? Text.isBlank rest).map (·.2)

/-- What follows a word and an equals sign, with blanks around the sign. -/
def afterKey? (word : String) (cs : List Char) : Option (List Char) :=
  (Text.dropWord? word.toList cs).bind fun rest =>
    match Text.skipBlanks rest with
    | '=' :: value => some (Text.skipBlanks value)
    | _ => none

/-- The number of a directive that names a host or none. -/
def listenNumber? (cs : List Char) : Option (List Char) := do
  let rest ← afterWord? "listen" cs
  let host (c : Char) : Bool := Text.isWord c || c == '.' || c == '-'
  (((afterHost? host rest).or (afterBracketed? rest)).bind wholeNumber?).or (wholeNumber? rest)

/-- The number of a directive that stands alone on its line. -/
def portNumber? (cs : List Char) : Option (List Char) := (afterWord? "Port" cs).bind lastNumber?

/-- The number of a server's port. -/
def serverNumber? (cs : List Char) : Option (List Char) :=
  (afterKey? "server.port" cs).bind wholeNumber?

/-- The number of an option, with an address or a quote before it or none. -/
def optionNumber? (cs : List Char) : Option (List Char) := do
  let rest ← afterWord? "option" cs
  let rest ← (afterWord? "listen_https" rest).or
    ((afterWord? "listen_http" rest).or (afterWord? "port" rest))
  let rest := (Text.dropWord? ['\''] rest).getD rest
  let address (c : Char) : Bool := Text.isDigit c || c == '.'
  ((afterHost? address rest).bind leadingNumber?).or (leadingNumber? rest)

/-- The number of an assignment. -/
def assignedNumber? (cs : List Char) : Option (List Char) :=
  ((afterKey? "http_port" cs).or (afterKey? "port" cs)).bind wholeNumber?

/-- The directives, in the order in which they are tried. -/
def directives : List (List Char → Option (List Char)) :=
  [listenNumber?, portNumber?, serverNumber?, optionNumber?, assignedNumber?]

/-- One more than the greatest port. -/
def portLimit : Nat := 0x10000

/-- The port that a line sets: that of the first directive with a number that is one. -/
def portOf? (line : List Char) : Option Nat :=
  directives.findSome? fun d => (d (Text.skipBlanks line)).bind (Text.unsigned? 10 portLimit)

/-! ### Files -/

/-- Adds the port of a line, unless it is zero or known. -/
def addPort (file : String) (known : List Port) (line : List Char) : List Port :=
  match portOf? line with
  | some n =>
    if n ≠ 0 ∧ !known.any (·.number == n) then
      known ++ [⟨n, file, String.ofList (Text.trimChars line)⟩]
    else known
  | none => known

/-- The ports that a file's text sets. -/
def ports (text file : String) : List Port :=
  (Text.lineChars text.toList).foldl (addPort file) []

/-- The record of a port. -/
def Port.toJson (p : Port) : Json :=
  .obj [("port", .ofNat p.number), ("file", .str p.file), ("directive", .str p.directive)]

end FirmwareSurvey.Rootfs
