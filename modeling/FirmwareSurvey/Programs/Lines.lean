import FirmwareSurvey.Digest.Basic
import FirmwareSurvey.Members
import FirmwareSurvey.Programs.Utility
import FirmwareSurvey.Text.Lines

/-!
# Utilities for lines

They show the start or the end of what they read, count it, cut it, put it in order, or exchange
characters of it. What is read are the files that are named; a dash, or no name at all, stands for
the input.
-/

namespace FirmwareSurvey.Program

/-! ### What is read -/

/-- The names of what is read. -/
def sourceNames (a : Asked) : List String := if a.operands.isEmpty then ["-"] else a.operands

/-- What is read under a name. -/
def source (input : ByteArray) (s : Storage) (name : String) :
    Except Storage.Fault (List Char) :=
  if name == "-" then .ok (Octets.ofBytes input) else (s.readBytes ⟨name⟩).map Octets.ofBytes

/-- Writes characters. -/
def writeChars (c : Completion) (cs : List Char) : Completion :=
  { c with output := c.output ++ Octets.toBytes cs }

/-- Goes through what is read, and words why something cannot be read. -/
def overSources (names : List String) (input : ByteArray) (s : Storage)
    (complaint : String → Storage.Fault → String) (act : String → List Char → List Char) :
    Completion :=
  let c := names.foldl (fun c name =>
    match source input s name with
    | .ok cs => writeChars c (act name cs)
    | .error fault => complain c (complaint name fault)) (writing .empty)
  { c with unread := if names.contains "-" then some .empty else none }

/-- The wording of a utility that names what cannot be read. -/
def plainComplaint (utility name : String) (fault : Storage.Fault) : String :=
  s!"{utility}: {name}: {fault.reason}"

/-- The wording of a utility for the start or the end. -/
def openingComplaint (utility name : String) (fault : Storage.Fault) : String :=
  if fault = .isDirectory then s!"{utility}: error reading '{name}': {fault.reason}"
  else s!"{utility}: cannot open '{name}' for reading: {fault.reason}"

/-- A text in lines, each with its end. `line` is the one at hand, backwards. -/
def wholeLinesFrom (line : List Char) : List Char → List (List Char)
  | [] => if line.isEmpty then [] else [line.reverse]
  | c :: cs =>
    if c = '\n' then ('\n' :: line).reverse :: wholeLinesFrom [] cs
    else wholeLinesFrom (c :: line) cs

/-- A text in lines, each with its end. -/
def wholeLines (cs : List Char) : List (List Char) := wholeLinesFrom [] cs

/-- A text in lines without their ends. -/
def bareLines (cs : List Char) : List (List Char) :=
  (wholeLines cs).map fun l => if l.getLast? = some '\n' then l.dropLast else l

/-- Lines with their ends. -/
def ended (lines : List (List Char)) : List Char := lines.flatMap (· ++ ['\n'])

/-! ### The start and the end -/

/-- How much is asked for: a sign, and a number. -/
def amount? (text : String) : Option (Option Char × Nat) :=
  match text.toList with
  | '-' :: digits => (Text.decimal? digits).map fun n => (some '-', n)
  | '+' :: digits => (Text.decimal? digits).map fun n => (some '+', n)
  | digits => (Text.decimal? digits).map fun n => (none, n)

/-- A number that stands for an option of its own. -/
def numberOption (arguments : List String) : List String :=
  match arguments with
  | first :: rest =>
    match first.toList with
    | '-' :: c :: cs => if (c :: cs).all Char.isDigit then ("-n" ++ String.ofList (c :: cs)) :: rest
      else arguments
    | _ => arguments
  | [] => []

/-- Shows a part of each of several texts, with their names above when there are more than one. -/
def showParts (utility : String) (part : Bool → Option Char × Nat → List Char → List Char) :
    Program := fun arguments input storage =>
  let options : OptionSet := {
    plain := ['q', 'v', 'f'], valued := ['n', 'c']
    names := [("lines", 'n'), ("bytes", 'c'), ("quiet", 'q'), ("silent", 'q'), ("verbose", 'v')] }
  reading utility 1 options (fun a input storage =>
    let isBytes := a.options.reverse.findSome? fun o =>
      if o.1 = 'c' then some true else if o.1 = 'n' then some false else none
    let isBytes := isBytes.getD false
    let text := (a.value? (if isBytes then 'c' else 'n')).getD "10"
    match amount? text with
    | none =>
      let sort := if isBytes then "bytes" else "lines"
      (failing 1 s!"{utility}: invalid number of {sort}: ‘{text}’", storage)
    | some amount =>
      let names := sourceNames a
      let isHeaded := (1 < names.length && !a.has 'q') || a.has 'v'
      let first := names.find? fun name => (source input storage name).isOk
      let act (name : String) (cs : List Char) : List Char :=
        let shown := if name == "-" then "standard input" else name
        let head := if isHeaded then
            (if first = some name then [] else ['\n']) ++ Octets.ofText s!"==> {shown} <==\n"
          else []
        head ++ part isBytes amount cs
      (overSources names input storage (openingComplaint utility) act, storage))
    (numberOption arguments) input storage

/-- So many pieces from the start, or all but so many at the end. -/
def fromStart {α : Type} (amount : Option Char × Nat) (pieces : List α) : List α :=
  if amount.1 = some '-' then pieces.take (pieces.length - amount.2) else pieces.take amount.2

/-- So many pieces at the end, or those from one on. -/
def fromEnd {α : Type} (amount : Option Char × Nat) (pieces : List α) : List α :=
  if amount.1 = some '+' then pieces.drop (amount.2 - 1)
  else pieces.drop (pieces.length - amount.2)

/-- Shows the start of what it reads. -/
def showStart : Program := showParts "head" fun isBytes amount cs =>
  if isBytes then fromStart amount cs else (fromStart amount (wholeLines cs)).flatten

/-- Shows the end of what it reads. -/
def showEnd : Program := showParts "tail" fun isBytes amount cs =>
  if isBytes then fromEnd amount cs else (fromEnd amount (wholeLines cs)).flatten

/-! ### Counting -/

/-- How many words a text has. -/
def wordCount (cs : List Char) : Nat :=
  let isBlank (c : Char) : Bool := c = ' ' || ('\t' ≤ c && c ≤ '\r')
  (cs.foldl (fun (n, isInside) c =>
    if isBlank c then (n, false) else (if isInside then n else n + 1, true)) (0, false)).1

/-- A number with blanks before it. -/
def inColumn (width n : Nat) : List Char :=
  let digits := Text.decimalChars n
  List.replicate (width - digits.length) ' ' ++ digits

/-- Counts the lines, words and bytes of what it reads. -/
def count : Program :=
  let options : OptionSet := {
    plain := ['l', 'w', 'c', 'm']
    names := [("lines", 'l'), ("words", 'w'), ("bytes", 'c'), ("chars", 'm')] }
  reading "wc" 1 options fun a input storage =>
    let names := sourceNames a
    let letters := ['l', 'w', 'm', 'c'].filter fun c =>
      if a.options.isEmpty then c != 'm' else a.has c
    let counts (cs : List Char) : List Nat := letters.map fun c =>
      if c = 'l' then (cs.filter (· = '\n')).length
      else if c = 'w' then wordCount cs
      else cs.length
    let found := names.filterMap fun name =>
      match source input storage name with
      | .ok cs => some (counts cs, cs.length)
      | .error .isDirectory => some (letters.map fun _ => 0, 0)
      | .error _ => none
    let size := (found.map (·.2)).foldl (· + ·) 0
    let width := if letters.length = 1 && names.length = 1 then 1
      else if names.contains "-" then 7
      else (Text.decimalChars size).length
    let line (ns : List Nat) (name : String) : List Char :=
      let columns := (ns.map (inColumn width)).intersperse [' ']
      columns.flatten ++ (if a.operands.isEmpty then [] else ' ' :: Octets.ofText name) ++ ['\n']
    let c := overSources names input storage (plainComplaint "wc") fun name cs =>
      line (counts cs) name
    let totals := found.foldl (fun ns f => (ns.zip f.1).map fun (m, n) => m + n)
      (letters.map fun _ => 0)
    (if 1 < names.length then writeChars c (line totals "total") else c, storage)

/-! ### Order -/

/-- The decimal that a text starts with: its digits as a whole number, and how many of them are behind
the point. -/
def leadingDecimal (cs : List Char) : Int × Nat :=
  let cs := cs.dropWhile fun c => c = ' ' || c = '\t'
  let (isNegative, cs) := match cs with
    | '-' :: rest => (true, rest)
    | rest => (false, rest)
  let whole := cs.takeWhile Char.isDigit
  let part := match cs.drop whole.length with
    | '.' :: rest => rest.takeWhile Char.isDigit
    | _ => []
  let n : Int := (Text.digitsValue? 10 0 (whole ++ part)).getD 0
  (if isNegative then -n else n, part.length)

/-- Compares decimals. -/
def compareDecimals (a b : Int × Nat) : Ordering :=
  compare (a.1 * (Nat.pow 10 b.2 : Nat)) (b.1 * (Nat.pow 10 a.2 : Nat))

/-- Compares texts character by character. -/
def compareChars : List Char → List Char → Ordering
  | [], [] => .eq
  | [], _ :: _ => .lt
  | _ :: _, [] => .gt
  | c :: cs, d :: ds => if c = d then compareChars cs ds else if c < d then .lt else .gt

/-- The fields of a line, each with the blanks before it unless a character separates them. -/
def fieldsOf (separator : Option Char) (line : List Char) : List (List Char) :=
  match separator with
  | some c => Text.cut c line
  | none =>
    let isBlank (c : Char) : Bool := c = ' ' || c = '\t'
    let pieces := line.foldl (fun (done, field, isInside) c =>
      if isBlank c && isInside then (field.reverse :: done, [c], false)
      else (done, c :: field, isInside || !isBlank c)) (([] : List (List Char)), [], false)
    (pieces.2.1.reverse :: pieces.1).reverse

/-- What lines are put in order by. -/
structure SortKey where
  /-- The first field, and the last one. -/
  fields : Option (Nat × Option Nat) := none
  /-- The letters that say how. -/
  letters : List Char := []

/-- Reads what lines are put in order by. -/
def sortKey? (text : String) : Option SortKey :=
  let number (cs : List Char) : Nat × List Char :=
    let digits := cs.takeWhile Char.isDigit
    ((Text.digitsValue? 10 0 digits).getD 0,
      (cs.drop digits.length).dropWhile fun c => c = '.' || c.isDigit)
  let (first, rest) := number text.toList
  if first = 0 then none
  else
    let letters := rest.takeWhile (· != ',')
    match rest.drop letters.length with
    | ',' :: more =>
      let (last, after) := number more
      some ⟨some (first, some last), letters ++ after⟩
    | _ => some ⟨some (first, none), letters⟩

/-- Compares lines by a key. -/
def compareBy (separator : Option Char) (k : SortKey) (a b : List Char) : Ordering :=
  let part (line : List Char) : List Char :=
    match k.fields with
    | none => line
    | some (first, last) =>
      let fields := (fieldsOf separator line).drop (first - 1)
      let fields := match last with
        | some n => fields.take (n + 1 - first)
        | none => fields
      (fields.intersperse separator.toList).flatten
  let shaped (line : List Char) : List Char :=
    let cs := part line
    let cs := if k.letters.contains 'b' then cs.dropWhile fun c => c = ' ' || c = '\t' else cs
    if k.letters.contains 'f' then cs.map Char.toUpper else cs
  let o := if k.letters.contains 'n' then
      compareDecimals (leadingDecimal (part a)) (leadingDecimal (part b))
    else compareChars (shaped a) (shaped b)
  if k.letters.contains 'r' then o.swap else o

/-- Puts lines in order. -/
def sortLines : Program :=
  let options : OptionSet := {
    plain := ['n', 'r', 'u', 'f', 'b', 's'], valued := ['k', 't', 'o']
    names := [("numeric-sort", 'n'), ("reverse", 'r'), ("unique", 'u'), ("key", 'k'),
      ("field-separator", 't'), ("stable", 's'), ("ignore-case", 'f')] }
  reading "sort" 2 options fun a input storage =>
    let names := sourceNames a
    let letters := ['n', 'r', 'f', 'b'].filter a.has
    let keys := (a.values 'k').filterMap sortKey?
    let keys := if keys.isEmpty then [⟨none, letters⟩]
      else keys.map fun k => { k with letters := if k.letters.isEmpty then letters else k.letters }
    let separator := (a.value? 't').bind fun t => t.toList.head?
    let byKeys (x y : List Char) : Ordering :=
      keys.foldl (fun o k => if o = .eq then compareBy separator k x y else o) .eq
    let order (x y : List Char) : Ordering :=
      match byKeys x y with
      | .eq =>
        if a.has 'u' || a.has 's' then .eq
        else if a.has 'r' then (compareChars x y).swap
        else compareChars x y
      | o => o
    match names.findSome? fun name =>
        match source input storage name with
        | .error fault => some (name, fault)
        | .ok _ => none with
    | some (name, fault) =>
      let what := if fault = .isDirectory then "read failed" else "cannot read"
      (failing 2 s!"sort: {what}: {name}: {fault.reason}", storage)
    | none =>
      let lines := names.flatMap fun name =>
        match source input storage name with
        | .ok cs => bareLines cs
        | .error _ => []
      let sorted := Sorting.sort (fun x y => order x y != .gt) lines
      let kept := if a.has 'u' then
          (sorted.foldl (fun done l =>
            match done with
            | last :: _ => if byKeys last l = .eq then done else l :: done
            | [] => [l]) []).reverse
        else sorted
      let c := { writing .empty with
        unread := if names.contains "-" then some .empty else none }
      match a.value? 'o' with
      | some name =>
        match storage.writeBytes ⟨name⟩ (Octets.toBytes (ended kept)) with
        | .ok storage => (c, storage)
        | .error fault => (failing 2 s!"sort: open failed: {name}: {fault.reason}", storage)
      | none => (writeChars c (ended kept), storage)

/-- Lines that are alike and follow each other, each row with its length. -/
def rowsOf (same : List Char → List Char → Bool) (lines : List (List Char)) :
    List (List Char × Nat) :=
  (lines.foldl (fun done l =>
    match done with
    | (last, n) :: rest => if same last l then (last, n + 1) :: rest else (l, 1) :: done
    | [] => [(l, 1)]) []).reverse

/-- Leaves out lines that are like the one before. -/
def uniqueLines : Program :=
  let options : OptionSet := {
    plain := ['c', 'd', 'u', 'i']
    names := [("count", 'c'), ("repeated", 'd'), ("unique", 'u'), ("ignore-case", 'i')] }
  reading "uniq" 1 options fun a input storage =>
    let same (x y : List Char) : Bool :=
      if a.has 'i' then x.map Char.toUpper = y.map Char.toUpper else x = y
    let act (cs : List Char) : List Char :=
      let rows := (rowsOf same (bareLines cs)).filter fun r =>
        (!a.has 'd' || 1 < r.2) && (!a.has 'u' || r.2 = 1)
      ended (rows.map fun (l, n) => if a.has 'c' then inColumn 7 n ++ ' ' :: l else l)
    (overSources ((sourceNames a).take 1) input storage (plainComplaint "uniq")
      fun _ cs => act cs, storage)

/-- Shows lines in the other order. -/
def backwards : Program := reading "tac" 1 {} fun a input storage =>
  (overSources (sourceNames a) input storage (openingComplaint "tac")
    fun _ cs => (wholeLines cs).reverse.flatten, storage)

/-- Shows each line from its end to its start. -/
def mirrored : Program := reading "rev" 1 {} fun a input storage =>
  (overSources (sourceNames a) input storage (fun name fault =>
    s!"rev: cannot open {name}: {fault.reason}")
    fun _ cs => (wholeLines cs).flatMap fun l =>
      if l.getLast? = some '\n' then l.dropLast.reverse ++ ['\n'] else l.reverse, storage)

/-! ### Cutting and exchanging -/

/-- Reads ranges of places, counted from one. -/
def ranges? (text : String) : Option (List (Nat × Option Nat)) :=
  (Text.splitAt ',' text).mapM fun item =>
    match Text.splitAt '-' item with
    | [n] => (Text.decimal? n.toList).bind fun n => if n = 0 then none else some (n, some n)
    | [m, ""] => (Text.decimal? m.toList).map fun m => (m, none)
    | ["", n] => (Text.decimal? n.toList).map fun n => (1, some n)
    | [m, n] =>
      match Text.decimal? m.toList, Text.decimal? n.toList with
      | some m, some n => if n < m then none else some (m, some n)
      | _, _ => none
    | _ => none

/-- The pieces at the places of some ranges. -/
def chosen {α : Type} (ranges : List (Nat × Option Nat)) (pieces : List α) : List α :=
  ((pieces.zipIdx 1).filter fun (_, i) => ranges.any fun (first, last) =>
    first ≤ i && (last.map fun last => decide (i ≤ last)).getD true).map (·.1)

/-- Shows parts of each line. -/
def cutLines : Program :=
  let options : OptionSet := {
    plain := ['s', 'n'], valued := ['d', 'f', 'c', 'b']
    names := [("delimiter", 'd'), ("fields", 'f'), ("characters", 'c'), ("bytes", 'b'),
      ("only-delimited", 's')] }
  reading "cut" 1 options fun a input storage =>
    let help := "\nTry 'cut --help' for more information."
    let separator := (((a.value? 'd').map Octets.ofText).bind List.head?).getD '\t'
    let list? := (a.value? 'f').or ((a.value? 'c').or (a.value? 'b'))
    match list? with
    | none => (failing 1 ("cut: you must specify a list of bytes, characters, or fields" ++ help),
        storage)
    | some text =>
      match ranges? text with
      | none => (failing 1 (s!"cut: invalid field value '{text}'" ++ help), storage)
      | some ranges =>
        let act (cs : List Char) : List Char := (bareLines cs).flatMap fun line =>
          if a.has 'f' then
            let fields := Text.cut separator line
            if fields.length < 2 then (if a.has 's' then [] else line ++ ['\n'])
            else ((chosen ranges fields).intersperse [separator]).flatten ++ ['\n']
          else chosen ranges line ++ ['\n']
        (overSources (sourceNames a) input storage (plainComplaint "cut")
          fun _ cs => act cs, storage)

/-- The characters of a named class. -/
def classMembers? (name : String) : Option (List Char) :=
  let all := (List.range 256).map Char.ofNat
  let isBlank (c : Char) : Bool := c = ' ' || ('\t' ≤ c && c ≤ '\r')
  let isSeen (c : Char) : Bool := '!' ≤ c && c ≤ '~'
  match name with
  | "upper" => some (all.filter Char.isUpper)
  | "lower" => some (all.filter Char.isLower)
  | "alpha" => some (all.filter Char.isAlpha)
  | "digit" => some (all.filter Char.isDigit)
  | "alnum" => some (all.filter Char.isAlphanum)
  | "space" => some (all.filter isBlank)
  | "blank" => some ['\t', ' ']
  | "punct" => some (all.filter fun c => isSeen c && !c.isAlphanum)
  | "print" => some (all.filter fun c => isSeen c || c = ' ')
  | "graph" => some (all.filter isSeen)
  | "cntrl" => some (all.filter fun c => c < ' ' || c = '\x7f')
  | "xdigit" => some (all.filter fun c => (Text.digitValue? 16 c).isSome)
  | _ => none

/-- Reads a character of a set: what it is, and the rest. -/
def setChar : List Char → Option (Char × List Char)
  | [] => none
  | '\\' :: c :: cs =>
    let digits := ((c :: cs).take 3).takeWhile fun d => '0' ≤ d && d ≤ '7'
    if !digits.isEmpty then
      some (Char.ofNat ((Text.digitsValue? 8 0 digits).getD 0 % 256), (c :: cs).drop digits.length)
    else
      let letters := [('n', '\n'), ('t', '\t'), ('r', '\r'), ('a', '\x07'), ('b', '\x08'),
        ('f', '\x0c'), ('v', '\x0b')]
      some ((letters.lookup c).getD c, cs)
  | c :: cs => some (c, cs)

/-- The characters of a set, in order. `fuel` bounds its length. -/
def setMembers : Nat → List Char → List Char
  | 0, _ => []
  | fuel + 1, cs =>
    let named? : Option (List Char × List Char) := match cs with
      | '[' :: ':' :: rest =>
        let name := rest.takeWhile (· != ':')
        match rest.drop name.length with
        | ':' :: ']' :: rest => (classMembers? (String.ofList name)).map fun m => (m, rest)
        | _ => none
      | _ => none
    match named? with
    | some (members, rest) => members ++ setMembers fuel rest
    | none =>
      match setChar cs with
      | none => []
      | some (c, '-' :: d :: rest) =>
        match setChar (d :: rest) with
        | some (d, rest) =>
          (List.range (d.toNat + 1 - c.toNat)).map (fun i => Char.ofNat (c.toNat + i)) ++
            setMembers fuel rest
        | none => [c]
      | some (c, rest) => c :: setMembers fuel rest

/-- Leaves out characters of a class that are like the one before. -/
def squeezed (isSqueezed : Char → Bool) (before : Option Char) : List Char → List Char
  | [] => []
  | c :: cs =>
    if isSqueezed c && before = some c then squeezed isSqueezed before cs
    else c :: squeezed isSqueezed (some c) cs

/-- Exchanges or takes away characters of its input. -/
def exchange : Program :=
  let options : OptionSet := {
    plain := ['d', 's', 'c', 'C', 't']
    names := [("delete", 'd'), ("squeeze-repeats", 's'), ("complement", 'c')] }
  reading "tr" 1 options fun a input storage =>
    let sets := a.operands.map fun o =>
      let cs := Octets.ofText o
      setMembers (cs.length + 1) cs
    let help := "\nTry 'tr --help' for more information."
    let given (set : List Char) : List Char :=
      if a.has 'c' || a.has 'C' then
        ((List.range 256).map Char.ofNat).filter fun c => !set.contains c
      else set
    let finish (cs : List Char) : Completion × Storage :=
      ({ writeChars (writing .empty) cs with unread := some .empty }, storage)
    let cs := Octets.ofBytes input
    match sets with
    | [] => (failing 1 ("tr: missing operand" ++ help), storage)
    | [one] =>
      let one := given one
      if a.has 'd' then finish (cs.filter fun c => !one.contains c)
      else if a.has 's' then finish (squeezed one.contains none cs)
      else
        let shown := (a.operands.head?).getD ""
        (failing 1 (s!"tr: missing operand after '{shown}'\n" ++
          "Two strings must be given when translating." ++ help), storage)
    | one :: other :: _ =>
      let one := given one
      if a.has 'd' then
        finish (squeezed (fun c => a.has 's' && other.contains c) none
          (cs.filter fun c => !one.contains c))
      else
        match other.getLast? with
        | none => (failing 1 ("tr: when not truncating set1, string2 must be non-empty"), storage)
        | some last =>
          let pairs := (one.zipIdx.map fun (c, i) => (c, other[i]?.getD last)).reverse
          let turned := cs.map fun c => (pairs.lookup c).getD c
          finish (if a.has 's' then squeezed other.contains none turned else turned)

/-! ### Numbers and sums -/

/-- Counts from one number to another. -/
def numbers : Program :=
  let options : OptionSet := {
    plain := ['w'], valued := ['s'], names := [("separator", 's'), ("equal-width", 'w')] }
  fun arguments input storage =>
    -- a negative number is no option
    let isNumber (a : String) : Bool := ((a.toList.drop 1).head?.map Char.isDigit).getD false
    let arguments := if arguments.any isNumber && !arguments.any (· == "--") then
        arguments.takeWhile (fun a => !isNumber a && "-".toList.isPrefixOf a.toList) ++ "--" ::
          arguments.dropWhile (fun a => !isNumber a && "-".toList.isPrefixOf a.toList)
      else arguments
    reading "seq" 1 options (fun a _ storage =>
      let whole? (s : String) : Option Int := match s.toList with
        | '-' :: ds => (Text.decimal? ds).map fun n => -(n : Int)
        | ds => (Text.decimal? ds).map Int.ofNat
      match a.operands.find? fun o => (whole? o).isNone with
      | some o => (failing 1 (s!"seq: invalid floating point argument: '{o}'\n" ++
          "Try 'seq --help' for more information."), storage)
      | none =>
        let three? : Option (Int × Int × Int) := match a.operands.filterMap whole? with
          | [last] => some (1, 1, last)
          | [first, last] => some (first, 1, last)
          | [first, step, last] => some (first, step, last)
          | _ => none
        match three? with
        | none => (failing 1 "seq: missing operand\nTry 'seq --help' for more information.",
            storage)
        | some (first, step, last) =>
          let count := if step = 0 then 0
            else (((last - first).fdiv step) + 1).toNat
          let texts := (List.range count).map fun (i : Nat) => toString (first + step * (i : Int))
          let width := texts.foldl (fun w t => max w t.length) 0
          let texts := if a.has 'w' then
              texts.map fun t => String.ofList (Text.padZeros width t.toList)
            else texts
          let separator := (a.value? 's').getD "\n"
          let text := separator.intercalate texts ++ if texts.isEmpty then "" else "\n"
          (writing text.toUTF8, storage)) arguments input storage

/-- Shows the digest of each file. -/
def digests (utility : String) (digits : List UInt8 → List Char) : Program :=
  let options : OptionSet := { plain := ['b', 't'], names := [("binary", 'b'), ("text", 't')] }
  reading utility 1 options fun a input storage =>
    (overSources (sourceNames a) input storage (plainComplaint utility) (fun name cs =>
      digits (cs.map fun c => c.toNat.toUInt8) ++ [' ', if a.has 'b' then '*' else ' '] ++
        Octets.ofText name ++ ['\n']), storage)

/-- The digits of bytes. -/
def octetDigits (bytes : List UInt8) : List Char :=
  bytes.flatMap fun b => Text.padZeros 2 (Nat.toDigits 16 b.toNat)

/-- Shows the digest of 256 bits. -/
def sha256Sums : Program := digests "sha256sum" fun bytes => (Digest.sha256 bytes).digits

/-- Shows the digest of 160 bits. -/
def sha1Sums : Program := digests "sha1sum" fun bytes => octetDigits (Digest.sha1 bytes)

/-- Shows the digest of 128 bits. -/
def md5Sums : Program := digests "md5sum" fun bytes => octetDigits (Digest.md5 bytes)

/-- Waits, which takes no time here. -/
def wait : Program := fun arguments _ storage =>
  match arguments with
  | [] => (failing 1 "sleep: missing operand\nTry 'sleep --help' for more information.", storage)
  | arguments =>
    let isSpan (a : String) : Bool :=
      let cs := a.toList.dropWhile fun c => c.isDigit || c = '.'
      (a.toList.head?.map fun c => c.isDigit || c = '.').getD false &&
        (cs.isEmpty || ["s", "m", "h", "d"].contains (String.ofList cs)) || a == "infinity"
    match arguments.find? fun a => !isSpan a with
    | some a => (failing 1 (s!"sleep: invalid time interval '{a}'\n" ++
        "Try 'sleep --help' for more information."), storage)
    | none => (writing .empty, storage)

end FirmwareSurvey.Program
