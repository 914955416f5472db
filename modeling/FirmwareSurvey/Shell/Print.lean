import FirmwareSurvey.Shell.Number
import FirmwareSurvey.Shell.Syntax
import FirmwareSurvey.Text.Lines

/-!
# What a script prints

Two commands print their arguments. `echo` writes them with blanks between them and a line end
behind them. `printf` writes a format, in which a backslash stands with what follows for a character
and a percent sign for the next argument; while arguments are left over, the format starts again.
Both manners of shells read formats alike, but complain in different words.
-/

namespace FirmwareSurvey.Shell

/-! ### Escapes -/

/-- Where an escape stands. -/
inductive EscapePlace where
  /-- In a format. -/
  | format
  /-- In an argument of a format. -/
  | argument
  /-- In a line. -/
  | line
deriving DecidableEq

/-- The character that a letter stands for behind a backslash. -/
def escaped? : Char → Option Char
  | 'a' => some '\x07'
  | 'b' => some '\x08'
  | 'e' => some '\x1b'
  | 'f' => some '\x0c'
  | 'n' => some '\n'
  | 'r' => some '\r'
  | 't' => some '\t'
  | 'v' => some '\x0b'
  | '\\' => some '\\'
  | _ => none

/-- The byte of a number. -/
def byteChar (n : Nat) : Char := Char.ofNat (n % 256)

/-- Reads a byte in digits of a base, at most so many. -/
def escapedByte? (base most : Nat) (cs : List Char) : Option (Char × List Char) :=
  let digits := (cs.take most).takeWhile fun c => (Text.digitValue? base c).isSome
  if digits.isEmpty then none
  else some (byteChar ((Text.digitsValue? base 0 digits).getD 0), cs.drop digits.length)

/-- Reads what follows a backslash: a letter, or a byte in octal digits, which have a zero before them
or not; the extended manner also has bytes in hexadecimal digits and a few more characters. -/
def readEscape? (dialect : Dialect) (place : EscapePlace) : List Char → Option (Char × List Char)
  | [] => none
  | c :: cs =>
    match escaped? c with
    | some e => some (e, cs)
    | none =>
      if c = '0' && place != .format then some ((escapedByte? 8 3 cs).getD (byteChar 0, cs))
      else if dialect = .extended && c = 'x' then escapedByte? 16 2 cs
      else if dialect = .extended && c = 'E' then some ('\x1b', cs)
      else if dialect = .extended && place != .line && (c = '"' || c = '\'' || c = '?') then
        some (c, cs)
      else if dialect = .extended && place = .line then none
      else escapedByte? 8 3 (c :: cs)

/-- An argument with its escapes read; whether one of them ends all printing. -/
def unescape (dialect : Dialect) (place : EscapePlace) : Nat → List Char → List Char × Bool
  | 0, _ => ([], false)
  | _ + 1, [] => ([], false)
  | _ + 1, '\\' :: 'c' :: _ => ([], true)
  | fuel + 1, c :: cs =>
    let (first, rest) :=
      if c = '\\' then (readEscape? dialect place cs).getD (c, cs) else (c, cs)
    let (more, stops) := unescape dialect place fuel rest
    (first :: more, stops)

/-! ### Lines -/

/-- Whether an argument consists of letters that tell how a line is written. -/
def isLineOption (dialect : Dialect) : List Char → Bool
  | ['-', 'n'] => true
  | '-' :: c :: cs => dialect = .extended && (c :: cs).all fun c => c = 'n' || c = 'e' || c = 'E'
  | _ => false

/-- What `echo` writes. In the plain manner escapes are read and one option is known; in the extended
manner escapes are read on demand. -/
def echoText (dialect : Dialect) (arguments : List (List Char)) : List Char :=
  let options := match dialect with
    | .plain => (arguments.take 1).takeWhile (isLineOption dialect)
    | .extended => arguments.takeWhile (isLineOption dialect)
  let letters := options.flatMap (·.drop 1)
  let readsEscapes := dialect = .plain || (letters.filter (· != 'n')).getLast? == some 'e'
  let ending := if letters.contains 'n' then [] else ['\n']
  let line := Text.joinWith ' ' (arguments.drop options.length)
  if readsEscapes then
    let (text, stops) := unescape dialect .line (line.length + 1) line
    if stops then text else text ++ ending
  else line ++ ending

/-! ### Formats -/

/-- How an argument is written in a format. -/
structure Directive where
  /-- The signs that change how it is written. -/
  flags : List Char
  /-- The least width. -/
  width : Nat
  /-- How many digits or characters are written. -/
  precision : Option Nat
  /-- The letter that tells the kind. -/
  kind : Char

namespace Directive

/-- Fills up a text to the width of a directive. -/
def fill (d : Directive) (cs : List Char) : List Char :=
  let missing := List.replicate (d.width - cs.length) ' '
  if d.flags.contains '-' then cs ++ missing else missing ++ cs

/-- Fills up a number, which has a sign or a mark before it, to the width of a directive. -/
def fillNumber (d : Directive) (withZeros : Bool) (front digits : List Char) : List Char :=
  if withZeros && !d.flags.contains '-' then
    front ++ List.replicate (d.width - front.length - digits.length) '0' ++ digits
  else d.fill (front ++ digits)

/-- The sign before a number. -/
def sign (d : Directive) (negative : Bool) : List Char :=
  if negative then ['-']
  else if d.flags.contains '+' then ['+']
  else if d.flags.contains ' ' then [' ']
  else []

/-- A whole number with a sign. -/
def signed (d : Directive) (n : Int) : List Char :=
  let digits := Text.padZeros (d.precision.getD 1) (Text.decimalChars n.natAbs)
  let digits := if n = 0 && d.precision = some 0 then [] else digits
  d.fillNumber (d.flags.contains '0' && d.precision.isNone) (d.sign (n < 0)) digits

/-- The number of a word without a sign. -/
def unsigned (d : Directive) (n : Nat) : List Char :=
  let digits := match d.kind with
    | 'x' => Nat.toDigits 16 n
    | 'X' => Text.upperHexChars n
    | 'o' => Nat.toDigits 8 n
    | _ => Text.decimalChars n
  let digits := if n = 0 && d.precision = some 0 then [] else Text.padZeros (d.precision.getD 1) digits
  let isMarked := d.flags.contains '#'
  let front := if !isMarked || n = 0 then []
    else match d.kind with
      | 'x' => ['0', 'x']
      | 'X' => ['0', 'X']
      | _ => []
  let digits :=
    if isMarked && d.kind = 'o' && digits.head? != some '0' then '0' :: digits else digits
  d.fillNumber (d.flags.contains '0' && d.precision.isNone) front digits

/-- A number with a fractional part. -/
def real (d : Directive) (x : Real) : List Char :=
  let cased (cs : List Char) := if d.kind.isUpper then cs.map Char.toUpper else cs
  let places := d.precision.getD 6
  match x with
  | .finite negative m =>
    let digits := match d.kind.toLower with
      | 'e' => m.scientific places
      | 'f' => m.plain places
      | _ => m.general places (d.flags.contains '#')
    d.fillNumber (d.flags.contains '0') (d.sign negative) (cased digits)
  | .infinite negative => d.fill (d.sign negative ++ cased "inf".toList)
  | .undefined negative => d.fill (d.sign negative ++ cased "nan".toList)

/-- A text. -/
def text (d : Directive) (cs : List Char) : List Char :=
  d.fill (match d.precision with
    | some n => cs.take n
    | none => cs)

end Directive

/-- A complaint about an argument that is no number, or not all of it. -/
def numberComplaint? (dialect : Dialect) (argument : List Char) (isNumber : Bool)
    (rest : List Char) : Option String :=
  let shown := String.ofList argument
  match dialect with
  | .plain =>
    if !isNumber then some s!"{shown}: expected numeric value"
    else if !rest.isEmpty then some s!"{shown}: not completely converted"
    else none
  | .extended => if !isNumber || !rest.isEmpty then some s!"{shown}: invalid number" else none

/-- The complaint about a number that is too great. -/
def rangeComplaint (dialect : Dialect) (argument : List Char) : String :=
  (if dialect = .extended then "warning: " else "") ++
    s!"{String.ofList argument}: Numerical result out of range"

/-- The character code that a quote in an argument asks for. -/
def characterCode? : List Char → Option Nat
  | '\'' :: cs => some ((cs.head?.map Char.toNat).getD 0)
  | '"' :: cs => some ((cs.head?.map Char.toNat).getD 0)
  | _ => none

/-- The whole number in an argument, and the complaint about it. -/
def wholeArgument (dialect : Dialect) (isSigned : Bool) (cs : List Char) : Int × Option String :=
  match characterCode? cs with
  | some n => (n, none)
  | none =>
    if cs.isEmpty then (0, none)
    else
      let (value, rest) := readWhole cs
      let n := value.getD 0
      let least := if isSigned then -signedLimit else -(wordSize - 1)
      let most := if isSigned then signedLimit - 1 else wordSize - 1
      if most < n then (most, some (rangeComplaint dialect cs))
      else if n < least then
        (if isSigned then least else most, some (rangeComplaint dialect cs))
      else (n, numberComplaint? dialect cs value.isSome rest)

/-- How many bits a fractional number is worked out with. -/
def realBits : Dialect → Nat
  | .plain => 53
  | .extended => 64

/-- The fractional number in an argument, and the complaint about it. -/
def realArgument (dialect : Dialect) (cs : List Char) : Real × Option String :=
  let zero : Real := .finite false ⟨0, 1⟩
  match characterCode? cs with
  | some n => (.finite false ⟨n, 1⟩, none)
  | none =>
    if cs.isEmpty then (zero, none)
    else
      let (value, rest) := readReal cs
      let x := match value.getD zero with
        | .finite negative m => .finite negative (m.toBits (realBits dialect))
        | x => x
      (x, numberComplaint? dialect cs value.isSome rest)

/-- A text that a script can be written with. -/
def quotedText (cs : List Char) : List Char :=
  let isPlain (c : Char) := c.isAlphanum || "_-./:=%+,@".toList.contains c
  if cs.isEmpty then ['\'', '\'']
  else cs.flatMap fun c => if isPlain c then [c] else ['\\', c]

/-- What was printed. -/
structure Printed where
  /-- What was written. -/
  text : List Char := []
  /-- The complaints, the first one first. -/
  complaints : List String := []
  /-- The arguments not used yet. -/
  left : List (List Char)
  /-- Whether an argument was asked for. -/
  asked : Bool := false
  /-- Whether all printing has ended. -/
  stops : Bool := false
  /-- How printing ended. -/
  status : Nat := 0

namespace Printed

/-- Writes more. -/
def write (p : Printed) (cs : List Char) : Printed := { p with text := p.text ++ cs }

/-- Takes the next argument; a missing one is empty. -/
def take (p : Printed) : List Char × Printed :=
  (p.left.headD [], { p with left := p.left.drop 1, asked := true })

/-- Complains. -/
def complain (p : Printed) : Option String → Printed
  | some c => { p with complaints := p.complaints ++ [c], status := 1 }
  | none => p

/-- Gives up. -/
def giveUp (p : Printed) (complaint : String) (status : Nat) : Printed :=
  { p with complaints := p.complaints ++ [complaint], stops := true, status }

end Printed

/-- Reads a number of a directive, which may stand in the next argument. -/
def readWidth (dialect : Dialect) (cs : List Char) (p : Printed) :
    Option Int × List Char × Printed :=
  match cs with
  | '*' :: rest =>
    let (argument, p) := p.take
    let (n, complaint) := wholeArgument dialect true argument
    (some n, rest, p.complain complaint)
  | _ =>
    let (n, rest) := readDigits 10 cs
    (n.map Int.ofNat, rest, p)

/-- Reads what follows a percent sign; the letter of the kind may be missing. -/
def readDirective (dialect : Dialect) (cs : List Char) (p : Printed) :
    Directive × Bool × List Char × Printed :=
  let isFlag (c : Char) := "#-+ 0'".toList.contains c
  let flags := cs.takeWhile isFlag
  let (width, rest, p) := readWidth dialect (cs.drop flags.length) p
  let (precision, rest, p) := match rest with
    | '.' :: r =>
      let (n, rest, p) := readWidth dialect r p
      (some (n.getD 0), rest, p)
    | rest => (none, rest, p)
  let rest := if dialect = .extended then rest.dropWhile "lhjztL".toList.contains else rest
  let width := width.getD 0
  let flags := if width < 0 then '-' :: flags else flags
  let precision := precision.bind fun n => if n < 0 then none else some n.toNat
  match rest with
  | kind :: rest => (⟨flags, width.natAbs, precision, kind⟩, true, rest, p)
  | [] => (⟨flags, width.natAbs, precision, ' '⟩, false, [], p)

/-- Writes the next argument as a directive says; none when there is no such directive. -/
def Directive.print? (dialect : Dialect) (d : Directive) (p : Printed) : Option Printed :=
  let (argument, q) := p.take
  match d.kind with
  | 's' => some (q.write (d.text argument))
  | 'c' => some (q.write (d.fill [argument.headD '\x00']))
  | 'b' =>
    let (text, stops) := unescape dialect .argument (argument.length + 1) argument
    some { q.write (d.text text) with stops }
  | 'q' => if dialect = .extended then some (q.write (d.text (quotedText argument))) else none
  | kind =>
    if kind = 'd' || kind = 'i' then
      let (n, complaint) := wholeArgument dialect true argument
      some ((q.write (d.signed n)).complain complaint)
    else if "ouxX".toList.contains kind then
      let (n, complaint) := wholeArgument dialect false argument
      some ((q.write (d.unsigned (n % wordSize).toNat)).complain complaint)
    else if "eEfFgG".toList.contains kind then
      let (x, complaint) := realArgument dialect argument
      some ((q.write (d.real x)).complain complaint)
    else none

/-- Writes a format once. `fuel` bounds its length. -/
def printOnce (dialect : Dialect) : Nat → List Char → Printed → Printed
  | 0, _, p => p
  | _ + 1, [], p => p
  | fuel + 1, '\\' :: cs, p =>
    let (c, rest) := (readEscape? dialect .format cs).getD ('\\', cs)
    printOnce dialect fuel rest (p.write [c])
  | fuel + 1, '%' :: '%' :: cs, p => printOnce dialect fuel cs (p.write ['%'])
  | fuel + 1, '%' :: cs, p =>
    let (d, isWhole, rest, p) := readDirective dialect cs p
    let shown := String.ofList ('%' :: cs.take (cs.length - rest.length))
    if !isWhole then
      match dialect with
      | .plain => p.giveUp "missing format character" 2
      | .extended => p.giveUp s!"\x60{shown}': missing format character" 1
    else
      match d.print? dialect p with
      | some p => if p.stops then p else printOnce dialect fuel rest p
      | none =>
        match dialect with
        | .plain => p.giveUp s!"{shown}: invalid directive" 2
        | .extended => p.giveUp s!"\x60{d.kind}': invalid format character" 1
  | fuel + 1, c :: cs, p => printOnce dialect fuel cs (p.write [c])

/-- Writes a format until the arguments are used up: each pass uses up at least one, or is the last.
`fuel` bounds the number of passes. -/
def printAll (dialect : Dialect) (format : List Char) : Nat → Printed → Printed
  | 0, p => p
  | fuel + 1, p =>
    let p := printOnce dialect (format.length + 1) format { p with asked := false }
    if p.stops || !p.asked || p.left.isEmpty then p else printAll dialect format fuel p

/-- What `printf` writes. -/
def formatText (dialect : Dialect) (format : List Char) (arguments : List (List Char)) : Printed :=
  printAll dialect format (arguments.length + 1) { left := arguments }

end FirmwareSurvey.Shell
