import FirmwareSurvey.DeviceTree.Node

/-!
# Looking a property up in a text

Some properties are looked for in the whole text, without regard to nodes: the first place where a
line, blanks before it skipped, starts with the key, an equals sign and a value of the wanted form.
Blanks may run over line ends.
-/

namespace FirmwareSurvey.DeviceTree

/-- What is left of a text at the start of each of its lines. -/
def lineStarts (cs : List Char) : List (List Char) :=
  cs :: (cs.foldr (fun c (acc : List Char × List (List Char)) =>
    (c :: acc.1, if c = '\n' then acc.1 :: acc.2 else acc.2)) ([], [])).2

/-- What is left of a text after each number of the blanks it starts with, most first. -/
def blankSuffixes : List Char → List (List Char)
  | [] => [[]]
  | c :: cs => if Text.isBlank c then blankSuffixes cs ++ [c :: cs] else [c :: cs]

/-- What follows a key and an equals sign at the start of a text, blanks skipped. -/
def valueStart? (key cs : List Char) : Option (List Char) :=
  if key.isPrefixOf cs then
    match Text.skipBlanks (cs.drop key.length) with
    | '=' :: rest => some (Text.skipBlanks rest)
    | _ => none
  else none

/-- The first value of a key that a reader takes. -/
def firstValue? {α : Type} (read : List Char → Option α) (text key : String) : Option α :=
  (lineStarts text.toList).findSome? fun start =>
    (blankSuffixes start).findSome? fun cs => (valueStart? key.toList cs).bind read

/-- A text between quotes at the start of a value. Backslashes mean nothing here. -/
def plainQuoted? : List Char → Option (List Char)
  | '"' :: rest => if rest.contains '"' then some (rest.takeWhile (· != '"')) else none
  | _ => none

/-- A value that ends in a semicolon on its line. -/
def lineValue? (cs : List Char) : Option (List Char) :=
  beforeSemicolon? (cs.takeWhile (· != '\n'))

/-- The first quoted text of a key anywhere in a text. -/
def textProperty? (text key : String) : Option String :=
  (firstValue? plainQuoted? text key).map String.ofList

/-- The quoted texts of the first property of a key anywhere in a text. -/
def textList (text key : String) : List String :=
  match firstValue? lineValue? text key with
  | some v => (quotedTexts v).map String.ofList
  | none => []

/-- The board's model. -/
def model? (text : String) : Option String := textProperty? text "model"

/-- What the root is compatible with; if it says nothing, the first such list in the text. -/
def compatible (text : String) : List String :=
  match (nodeAt? (nodes text) "/").map Node.compatible with
  | some (c :: cs) => c :: cs
  | _ => textList text "compatible"

/-- The arguments the kernel is started with. -/
def bootArguments? (text : String) : Option String :=
  (nodeAt? (nodes text) "/chosen").bind (·.text? "bootargs")

end FirmwareSurvey.DeviceTree

/-!
## The size of a board's memory

The memory nodes below the root list banks, each an address and a size of as many 32-bit cells as
the root says. The size of the memory is the sum of the banks' sizes, held at the greatest 64-bit
word. A node whose cells do not make whole banks is passed over.

The two counts of cells are 64-bit words themselves, and so is their sum: where it does not fit, the
reading fails. It would fail as well where cells were shared out among banks of no cells, and where
a bank ended within its address.
-/

namespace FirmwareSurvey.DeviceTree

/-- What the reading of the memory's size can fail with. -/
inductive Overflow where
  /-- The sum of the counts is too great. -/
  | cellCount
  /-- A bank has no cells. -/
  | emptyBank
  /-- A bank ends within its address. -/
  | shortBank
deriving DecidableEq

/-- The greatest 64-bit word. -/
def greatestWord : Nat := Text.wordLimit - 1

/-- The greatest number of 128 bits, in which cells are put together, plus one. -/
def wideLimit : Nat := Nat.pow 2 128

/-- The number of a row of 32-bit cells, most significant first, in 128 bits. -/
def joinWide (cs : List Nat) : Nat :=
  cs.foldl (fun acc c => (acc * 0x100000000 + c % 0x100000000) % wideLimit) 0

/-- The number of a row of 32-bit cells, held at the greatest word. -/
def joinCells (cs : List Nat) : Nat := min (joinWide cs) greatestWord

/-- The sum of two sizes, held at the greatest word. -/
def addSizes (a b : Nat) : Nat := min (a + b) greatestWord

/-- A row cut into pieces of a length, behind a piece begun that has room for some more; the last
piece may be shorter. -/
def piecesBehind (length : Nat) (begun : List Nat) (room : Nat) : List Nat → List (List Nat)
  | [] => if begun.isEmpty then [] else [begun]
  | c :: cs =>
    if room ≤ 1 then (begun ++ [c]) :: piecesBehind length [] length cs
    else piecesBehind length (begun ++ [c]) (room - 1) cs

/-- A row cut into pieces of a length; the last may be shorter. -/
def pieces (length : Nat) (cs : List Nat) : List (List Nat) := piecesBehind length [] length cs

/-- A count of cells that the root gives, or its default. -/
def rootCount (nodes : List Node) (key : String) (default : Nat) : Nat :=
  ((nodeAt? nodes "/").bind fun n => (n.cellsOf key).head?).getD default

/-- The cells of a bank in two counts put together. -/
def bankLength (addressCells sizeCells : Nat) : Except Overflow Nat :=
  if addressCells + sizeCells < Text.wordLimit then .ok (addressCells + sizeCells)
  else .error .cellCount

/-- The cells that are left over when banks of a length are cut off. -/
def leftOver (length : Nat) (cs : List Nat) : Except Overflow Nat :=
  if length = 0 then .error .emptyBank else .ok (cs.length % length)

/-- The size of a bank. -/
def bankSize (addressCells : Nat) (bank : List Nat) : Except Overflow Nat :=
  if bank.length < addressCells then .error .shortBank
  else .ok (joinCells (bank.drop addressCells))

/-- The size of a memory node's banks; none when its cells do not make whole banks. -/
def bankSizes? (addressCells length : Nat) (cs : List Nat) : Except Overflow (Option Nat) :=
  if cs.isEmpty then .ok none
  else do
    if (← leftOver length cs) = 0 then
      let sizes ← (pieces length cs).mapM (bankSize addressCells)
      return some (sizes.foldl addSizes 0)
    else return none

/-- The memory nodes below the root. -/
def memoryNodes (nodes : List Node) : List Node :=
  nodes.filter fun n => n.name == "memory" && n.parentPath == "/"

/-- The sum of the sizes that are known; none when none is. -/
def sumKnown (sizes : List (Option Nat)) : Option Nat :=
  sizes.foldl (fun total size =>
    match size with
    | some n => some (addSizes (total.getD 0) n)
    | none => total) none

/-- The size of the memory. -/
def memorySize (text : String) : Except Overflow (Option Nat) :=
  let all := nodes text
  let addressCells := rootCount all "#address-cells" 2
  let sizeCells := rootCount all "#size-cells" 1
  if sizeCells = 0 then .ok none
  else do
    let length ← bankLength addressCells sizeCells
    let sizes ← (memoryNodes all).mapM fun n =>
      bankSizes? addressCells length (n.cellsOf "reg")
    return sumKnown sizes

end FirmwareSurvey.DeviceTree
