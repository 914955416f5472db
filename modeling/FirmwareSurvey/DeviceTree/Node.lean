import FirmwareSurvey.DeviceTree.Line
import FirmwareSurvey.Members
import FirmwareSurvey.Text.Numeral

/-!
# The values of properties

A value is kept as written. Two readings of it matter: the quoted texts in it, with their escapes
verbatim, and the cells between its first pair of angle brackets.
-/

namespace FirmwareSurvey.DeviceTree

/-! ### Quoted texts -/

/-- A text up to the quote that closes it, escapes verbatim, and the rest. A backslash escapes any
character but a line feed. -/
def quotedBody? (read : List Char) : List Char → Option (List Char × List Char)
  | [] => none
  | '"' :: rest => some (read.reverse, rest)
  | '\\' :: c :: rest => if c = '\n' then none else quotedBody? (c :: '\\' :: read) rest
  | '\\' :: [] => none
  | c :: rest => quotedBody? (c :: read) rest

/-- The quoted texts in a value, in order, when a number of characters of the last one are still to
come. A quote that is never closed is passed over. -/
def quotedTextsFrom (skip : Nat) : List Char → List (List Char)
  | [] => []
  | c :: rest =>
    match skip with
    | skip + 1 => quotedTextsFrom skip rest
    | 0 =>
      if c = '"' then
        match quotedBody? [] rest with
        | some (body, _) => body :: quotedTextsFrom (body.length + 1) rest
        | none => quotedTextsFrom 0 rest
      else quotedTextsFrom 0 rest

/-- The quoted texts in a value, in order. -/
def quotedTexts (cs : List Char) : List (List Char) := quotedTextsFrom 0 cs

/-! ### Cells -/

/-- The hexadecimal digits behind a mark that a text starts with. -/
def markedDigits : List Char → List Char
  | '0' :: 'x' :: digits => digits.takeWhile isHexDigit
  | _ => []

/-- The decimal numeral a text starts with: digits up to what is no word character. -/
def plainDigits (cs : List Char) : List Char :=
  if ((cs.dropWhile Text.isDigit).head?.map Text.isWord).getD false then []
  else cs.takeWhile Text.isDigit

/-- The numerals in a text, in order: a mark with hexadecimal digits wherever it stands, or digits
that neither follow nor precede a word character. `inWord` tells whether a word character stands
before the text, and `skip` how many characters of the last numeral are still to come. -/
def numerals (inWord : Bool) (skip : Nat) : List Char → List (List Char)
  | [] => []
  | c :: rest =>
    match skip with
    | skip + 1 => numerals true skip rest
    | 0 =>
      let hex := markedDigits (c :: rest)
      let plain := if inWord then [] else plainDigits (c :: rest)
      if !hex.isEmpty then ('0' :: 'x' :: hex) :: numerals true (hex.length + 1) rest
      else if !plain.isEmpty then plain :: numerals true (plain.length - 1) rest
      else numerals (Text.isWord c) 0 rest

/-- The number of a numeral, when it fits a 64-bit word. -/
def numeralValue? : List Char → Option Nat
  | '0' :: 'x' :: digits => Text.unsigned? 16 Text.wordLimit digits
  | cs => Text.decimal? cs

/-- What stands between the first opening angle bracket of a value and the next closing one, or the
end. -/
def bracketed? (cs : List Char) : Option (List Char) :=
  match cs.dropWhile (· != '<') with
  | [] => none
  | _ :: rest => some (rest.takeWhile (· != '>'))

/-- The cells of a value. -/
def cells (cs : List Char) : List Nat :=
  match bracketed? cs with
  | some body => (numerals false 0 body).filterMap numeralValue?
  | none => []

end FirmwareSurvey.DeviceTree

/-!
## The nodes of a device tree

A node has a path, a name, perhaps a unit address and a label, and its properties in source order.
The first property of a key counts.
-/

namespace FirmwareSurvey.DeviceTree

/-- A node. -/
structure Node where
  /-- The path from the root. -/
  path : String
  /-- The name, without the unit address. -/
  name : String
  /-- The unit address. -/
  unit : Option String := none
  /-- The label. -/
  label : Option String := none
  /-- The properties in source order; the value of one is kept as written. -/
  properties : List (String × Option String) := []
deriving DecidableEq

namespace Node

/-- The value of a property, as written. -/
def raw? (n : Node) (key : String) : Option String := (Members.get? n.properties key).join

/-- Whether a node has a property. -/
def has (n : Node) (key : String) : Bool := Members.has n.properties key

/-- The quoted texts of a property. -/
def texts (n : Node) (key : String) : List String :=
  match n.raw? key with
  | some v => (quotedTexts v.toList).map String.ofList
  | none => []

/-- The first quoted text of a property. -/
def text? (n : Node) (key : String) : Option String := (n.texts key).head?

/-- The texts that tell which drivers fit a node. -/
def compatible (n : Node) : List String := n.texts "compatible"

/-- Whether a node is in use: it has no status, or one that says so. -/
def isEnabled (n : Node) : Bool :=
  match n.text? "status" with
  | some status => status == "okay" || status == "ok"
  | none => true

/-- The cells of a property. -/
def cellsOf (n : Node) (key : String) : List Nat :=
  match n.raw? key with
  | some v => cells v.toList
  | none => []

/-- The path of the node around; the root for a path without a second slash. -/
def parentPath (n : Node) : String :=
  match n.path.toList.reverse.dropWhile (· != '/') with
  | [] => "/"
  | [_] => "/"
  | _ :: above => String.ofList above.reverse

end Node

/-- The first node at a path. -/
def nodeAt? (nodes : List Node) (path : String) : Option Node := nodes.find? (·.path == path)

/-- The nodes directly below a path, in order. -/
def children (nodes : List Node) (parent : String) : List Node :=
  nodes.filter fun n => n.path != "/" && n.parentPath == parent

/-- Whether a node lies below a path. -/
def Node.isBelow (n : Node) (path : String) : Bool :=
  (path.toList ++ ['/']).isPrefixOf n.path.toList

/-- Whether a node's name starts with a word. -/
def Node.isNamed (n : Node) (word : String) : Bool := word.toList.isPrefixOf n.name.toList

end FirmwareSurvey.DeviceTree

/-!
## Reading the nodes of a device tree

The lines of a text are taken in order. An opening adds a node inside the innermost open one, a
closing closes that one, and a property goes to it. A closing or a property with nothing open is
dropped, so that a damaged text still gives its nodes.
-/

namespace FirmwareSurvey.DeviceTree

/-- The nodes read so far and those still open. -/
structure Scan where
  /-- The nodes read so far, in the order of their openings. -/
  nodes : Array Node := #[]
  /-- The number and the path of every open node, the innermost first. -/
  stack : List (Nat × String) := []

namespace Scan

/-- The name of a node with its unit address. -/
def fullName (name : String) (unit : Option String) : String :=
  match unit with
  | some u => name ++ "@" ++ u
  | none => name

/-- The path of a node inside another. A node named by a slash is a root wherever it stands. -/
def childPath (parent : Option String) (name : String) (unit : Option String) : String :=
  if name = "/" then "/"
  else
    match parent with
    | none => fullName name unit
    | some p => (if p = "/" then "" else p) ++ "/" ++ fullName name unit

/-- The path of the innermost open node. -/
def innermost? (s : Scan) : Option String := s.stack.head?.map (·.2)

/-- Takes one line. -/
def step (s : Scan) : Line → Scan
  | .opening label name unit =>
    let path := childPath s.innermost? name unit
    { nodes := s.nodes.push { path, name, unit, label }
      stack := (s.nodes.size, path) :: s.stack }
  | .closing => { s with stack := s.stack.tail }
  | .property key value =>
    match s.stack with
    | (i, _) :: _ =>
      { s with
        nodes := s.nodes.modify i fun n => { n with properties := n.properties ++ [(key, value)] } }
    | [] => s
  | .other => s

/-- Takes lines in order. -/
def run (s : Scan) (lines : List Line) : Scan := lines.foldl step s

end Scan

/-- The lines of a text. -/
def lines (text : String) : List Line := (Text.lineChars text.toList).map Line.ofChars

/-- The nodes of a text, in the order of their openings. -/
def nodes (text : String) : List Node := (Scan.run {} (lines text)).nodes.toList

end FirmwareSurvey.DeviceTree
