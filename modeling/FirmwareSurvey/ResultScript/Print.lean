import FirmwareSurvey.Decimal.Shortest
import FirmwareSurvey.ResultScript.Module
import FirmwareSurvey.ResultScript.Row
import FirmwareSurvey.Text.Quoted

/-!
# Values as texts

A value has two texts: the one it is printed as, and the one it is shown as inside of others, which
tells texts from other values by quotes. Kinds that a script makes may give their values texts of
their own.
-/

namespace FirmwareSurvey.ResultScript

/-! ### Plain values -/

/-- A double: as few digits as read back, with a point unless it is very large or very small. -/
def realText (x : Binary64) : List Char :=
  let sign : List Char := if x.isNegative then ['-'] else []
  if x.isUndefined then "nan".toList
  else if !x.isFinite then sign ++ "inf".toList
  else
    let d := x.shortest
    let ds := Nat.toDigits 10 d.digits
    let magnitude : Int := d.scale + ds.length
    sign ++
      if d.digits = 0 || (-4 < magnitude && magnitude ≤ 16) then d.positional
      else
        let e := magnitude - 1
        let mantissa := match ds with
          | [] => []
          | [c] => [c]
          | c :: cs => c :: '.' :: cs
        mantissa ++ 'e' :: (if e < 0 then '-' else '+') ::
          Text.padZeros 2 (Nat.toDigits 10 e.natAbs)

/-- Whether a character shows on its own. -/
def isShown (c : Char) : Bool :=
  c = ' ' || (c != '\u200c' && c != '\u200d' &&
    (Text.isWord c || !Text.inRanges Text.hiddenRanges c.toNat))

/-- The code of a character behind a backslash. -/
def codeEscape (c : Char) : List Char :=
  let n := c.toNat
  let digits := Nat.toDigits 16 n
  if n < 0x100 then '\\' :: 'x' :: Text.padZeros 2 digits
  else if n < 0x10000 then '\\' :: 'u' :: Text.padZeros 4 digits
  else '\\' :: 'U' :: Text.padZeros 8 digits

/-- The quote for a text: a single one, unless only that one occurs in it. -/
def quoteFor (cs : List Char) : Char :=
  if cs.contains '\'' && !cs.contains '"' then '"' else '\''

/-- A character of a text that is shown. -/
def shownChar (quote : Char) (c : Char) : List Char :=
  if c = quote || c = '\\' then ['\\', c]
  else if c = '\n' then ['\\', 'n']
  else if c = '\t' then ['\\', 't']
  else if c = '\r' then ['\\', 'r']
  else if isShown c then [c]
  else codeEscape c

/-- A text with quotes around it. -/
def shownText (cs : List Char) : List Char :=
  let quote := quoteFor cs
  quote :: cs.flatMap (shownChar quote) ++ [quote]

/-- Bytes with quotes around them. -/
def shownOctets (bytes : List UInt8) : List Char :=
  let cs := bytes.map fun b => Char.ofNat b.toNat
  let quote := quoteFor cs
  'b' :: quote :: cs.flatMap (fun c =>
    if c.toNat < 127 then shownChar quote c else codeEscape c) ++ [quote]

/-- A whole number. -/
def numberText (n : Int) : List Char :=
  if n < 0 then '-' :: Text.decimalChars n.natAbs else Text.decimalChars n.natAbs

/-- Texts with another one between them. -/
def joinTexts (between : List Char) : List (List Char) → List Char
  | [] => []
  | [cs] => cs
  | cs :: rest => cs ++ between ++ joinTexts between rest

/-- A comma and a blank. -/
def comma : List Char := [',', ' ']

namespace Run

variable (ev : Evaluator)

/-- What a thing is shown as that has no text of its own. -/
def placeText (kind : String) (place : Nat) : List Char :=
  let address := Nat.toDigits 16 (0x7f0000000000 + 16 * place)
  s!"<{kind} object at 0x{String.ofList address}>".toList

/-- The name of a kind with the module that it is in. -/
def longKindName (kind : Value) : Run String := do
  match kind with
  | .known name => return name
  | kind => return s!"__main__.{← nameOfKind kind}"

/-- The members of a counting table, those that were counted most first. -/
def mostFirst (members : List (Value × Value)) : Run (List (Value × Value)) := do
  let up ← sortedByKeys ev (members.reverse.map fun m => (m.2, m.1))
  return up.reverse.map fun m => (m.2, m.1)

/-- The text that a function of a kind gives to a value. -/
def textFrom (name : String) (f v : Value) : Run (List Char) := do
  match ← ev.call f [v] [] with
  | .text cs => return cs
  | other => misfit s!"{name} returned non-string (type {← kindName other})"

mutual

/-- The text that a value is shown as; `seen` are the places of the things around it. -/
def shownIn (seen : List Nat) : Nat → Value → Run (List Char)
  | 0, _ => fail "RecursionError" "maximum recursion depth exceeded while getting the repr of an object"
  | fuel + 1, v => do
    match v with
    | .nothing => return "None".toList
    | .truth b => return (if b then "True" else "False").toList
    | .number n => return numberText n
    | .real x => return realText x
    | .text cs => return shownText cs
    | .octets bytes => return shownOctets bytes
    | .dots => return "Ellipsis".toList
    | .noAnswer => return "NotImplemented".toList
    | .tuple [v] => return '(' :: (← shownIn seen fuel v) ++ [',', ')']
    | .tuple items => return '(' :: (← shownItems seen fuel items) ++ [')']
    | .range a b c =>
      let ends := numberText a ++ comma ++ numberText b
      return "range(".toList ++ ends ++ (if c = 1 then [] else comma ++ numberText c) ++ [')']
    | .slice a b c => return "slice(".toList ++ (← shownItems seen fuel [a, b, c]) ++ [')']
    | .known name =>
      return (if isKindName name then s!"<class '{name}'>"
        else if isModule name then s!"<module '{name}' (built-in)>"
        else s!"<built-in function {bareKindName name}>").toList
    | .ability owner name =>
      return s!"<built-in method {name} of {← kindName owner} object>".toList
    | .bound f owner =>
      match ← thing? f with
      | some (.function f) =>
        return s!"<bound method {f.name} of ".toList ++ (← shownIn seen fuel owner) ++ ['>']
      | _ => return "<bound method>".toList
    | .view table part =>
      match (← get).things[table]? with
      | some (.table _ _ members) =>
        let name := "dict_" ++ part
        return name.toList ++ ['(', '['] ++
          (← shownItems seen fuel (viewItems members part)) ++ [']', ')']
      | _ => return []
    | .thing place =>
      if seen.contains place then
        match (← get).things[place]? with
        | some (.list _) => return "[...]".toList
        | some (.table _ _ _) => return "\x7b...\x7d".toList
        | _ => return "...".toList
      else
        match (← get).things[place]? with
        | some (.list items) =>
          return '[' :: (← shownItems (place :: seen) fuel items.toList) ++ [']']
        | some (.deque items most) =>
          let most := match most with
            | some n => ", maxlen=".toList ++ Text.decimalChars n
            | none => []
          return "deque([".toList ++ (← shownItems (place :: seen) fuel items.toList) ++
            ']' :: most ++ [')']
        | some (.table kind maker members) => do
          let members ← if kind == "collections.Counter" then mostFirst ev members else pure members
          let inner := '\x7b' :: (← shownMembers (place :: seen) fuel members) ++ ['\x7d']
          let empty := members.isEmpty
          if kind == "dict" then return inner
          else
            let name := (bareKindName kind).toList
            match maker with
            | .nothing =>
              if kind == "collections.defaultdict" then
                return name ++ "(None, ".toList ++ inner ++ [')']
              else return name ++ (if empty then ['(', ')'] else '(' :: inner ++ [')'])
            | maker => return name ++ '(' :: (← shownIn seen fuel maker) ++ comma ++ inner ++ [')']
        | some (.set isFixed items) =>
          if items.isEmpty then return (if isFixed then "frozenset()" else "set()").toList
          else
            let inner := '\x7b' :: (← shownItems (place :: seen) fuel (setShown items)) ++ ['\x7d']
            return if isFixed then "frozenset(".toList ++ inner ++ [')'] else inner
        | some (.row kind supply) =>
          match supply with
          | .pending _ name _ =>
            let address := Nat.toDigits 16 (0x7f0000000000 + 16 * place)
            return s!"<generator object {name} at 0x{String.ofList address}>".toList
          | _ => return placeText kind place
        | some (.function f) =>
          let address := Nat.toDigits 16 (0x7f0000000000 + 16 * place)
          return s!"<function {f.name} at 0x{String.ofList address}>".toList
        | some (.file f) =>
          if f.isOctets then return "<_io.BufferedReader name=".toList ++ shownText f.path ++ ['>']
          else
            return "<_io.TextIOWrapper name=".toList ++ shownText f.path ++ " mode=".toList ++
              shownText f.mode ++ " encoding='UTF-8'>".toList
        | some (.kind name _ _) => return s!"<class '__main__.{name}'>".toList
        | some (.plain kind members) =>
          match ← special? v "__repr__" with
          | some f => textFrom ev "__repr__" f v
          | none => shownPlain (place :: seen) place kind members fuel
        | none => return []
termination_by structural fuel => fuel

/-- The text that a thing with members is shown as. -/
def shownPlain (seen : List Nat) (place : Nat) (kind : Value) (members : Members Value) :
    Nat → Run (List Char)
  | 0 => throw .spent
  | fuel + 1 => do
    let name := (← nameOfKind kind).toList
    let named (members : Members Value) : Run (List Char) := do
      let parts ← members.mapM fun (k, v) => do
        return k.toList ++ '=' :: (← shownIn seen fuel v)
      return joinTexts comma parts
    if ← isUnder kind (.known "BaseException") then
      match Members.get? members "args" with
      | some (.tuple items) => return name ++ '(' :: (← shownItems seen fuel items) ++ [')']
      | _ => return name ++ ['(', ')']
    else
      match kind with
      | .known "types.SimpleNamespace" => return "namespace(".toList ++ (← named members) ++ [')']
      | .known "argparse.Namespace" => return "Namespace(".toList ++ (← named members) ++ [')']
      | .known "subprocess.CompletedProcess" =>
        return name ++ '(' ::
          (← named (members.filter fun m => !isSame m.2 .nothing)) ++ [')']
      | .known "pathlib.PosixPath" =>
        match Members.get? members "__text__" with
        | some (.text cs) => return name ++ '(' :: shownText cs ++ [')']
        | _ => return name
      | .known "re.Pattern" =>
        return "re.compile(".toList ++
          (← shownIn seen fuel ((Members.get? members "pattern").getD .nothing)) ++ [')']
      | .known "re.Match" =>
        match Members.get? members "__spans__", Members.get? members "string" with
        | some (.tuple (.tuple [.number a, .number b] :: _)), some v => do
          let found := match v with
            | .text cs => Value.text ((cs.take b.toNat).drop a.toNat)
            | .octets bytes => .octets ((bytes.take b.toNat).drop a.toNat)
            | v => v
          return s!"<re.Match object; span=({a}, {b}), match=".toList ++
            (← shownIn seen fuel found) ++ ['>']
        | _, _ => return []
      | kind => return placeText (← longKindName kind) place
termination_by structural fuel => fuel

/-- The texts that items are shown as, with commas between them. -/
def shownItems (seen : List Nat) : Nat → List Value → Run (List Char)
  | 0, _ => throw .spent
  | fuel + 1, items => do
    match items with
    | [] => return []
    | [v] => shownIn seen fuel v
    | v :: rest => return (← shownIn seen fuel v) ++ comma ++ (← shownItems seen fuel rest)
termination_by structural fuel => fuel

/-- The texts that members are shown as, with commas between them. -/
def shownMembers (seen : List Nat) : Nat → List (Value × Value) → Run (List Char)
  | 0, _ => throw .spent
  | fuel + 1, members => do
    match members with
    | [] => return []
    | (k, v) :: rest =>
      let first := (← shownIn seen fuel k) ++ [':', ' '] ++ (← shownIn seen fuel v)
      match rest with
      | [] => return first
      | rest => return first ++ comma ++ (← shownMembers seen fuel rest)
termination_by structural fuel => fuel

end

/-- How deep values are shown, and how long their rows are. -/
def shownLimit : Nat := 100000

/-- The text that a value is shown as. -/
def shown (v : Value) : Run (List Char) := shownIn ev [] shownLimit v

/-- The text of a failure. -/
def failureText (kind : Value) (members : Members Value) : Run (List Char) := do
  match Members.get? members "__text__" with
  | some (.text cs) => return cs
  | _ =>
    match Members.get? members "errno", Members.get? members "strerror" with
    | some (.number n), some reason => do
      let text := "[Errno ".toList ++ numberText n ++ "] ".toList
      let reason ← match reason with
        | .text cs => pure cs
        | v => shown ev v
      match Members.get? members "filename" with
      | some .nothing => return text ++ reason
      | some path => do
        let second ← match Members.get? members "filename2" with
          | some p => do pure (" -> ".toList ++ (← shown ev p))
          | none => pure []
        return text ++ reason ++ ": ".toList ++ (← shown ev path) ++ second
      | none => return text ++ reason
    | _, _ =>
      match Members.get? members "args" with
      | some (.tuple []) => return []
      | some (.tuple [v]) =>
        if ← isUnder kind (.known "KeyError") then shown ev v
        else
          match v with
          | .text cs => return cs
          | v => printedValue v
      | some args => shown ev args
      | none => return []
where
  /-- The text of the only argument of a failure. -/
  printedValue (v : Value) : Run (List Char) := do
    match ← special? v "__str__" with
    | some f => textFrom ev "__str__" f v
    | none => shown ev v

/-- The text that a value is printed as. -/
def printed (v : Value) : Run (List Char) := do
  match v with
  | .text cs => return cs
  | .thing place =>
    match (← get).things[place]? with
    | some (.plain kind members) =>
      match ← special? v "__str__" with
      | some f => textFrom ev "__str__" f v
      | none =>
        match kind with
        | .known "pathlib.PosixPath" =>
          match Members.get? members "__text__" with
          | some (.text cs) => return cs
          | _ => shown ev v
        | kind =>
          if ← isUnder kind (.known "BaseException") then
            -- a failure that only says how it is shown is still printed by what it was made of
            failureText ev kind members
          else shown ev v
    | _ => shown ev v
  | v => shown ev v

end Run

end FirmwareSurvey.ResultScript

/-!
## How a failure is told

A failure that nobody deals with is told with the calls that it passed through, the outermost first:
the line of each, and below it a mark under the part that failed, unless that is the whole line. What
failed before, while another failure was dealt with, is told first.
-/

namespace FirmwareSurvey.ResultScript

/-- The blanks that a line starts with. -/
def leadingBlanks (line : List Char) : Nat := (line.takeWhile fun c => c = ' ' || c = '\t' || c = '\x0c').length

/-- A line without the blanks around it. -/
def bareLine (line : List Char) : List Char :=
  Text.dropEndWhile (fun c => c = ' ' || c = '\t' || c = '\r' || c = '\x0c') (line.drop (leadingBlanks line))

/-- The marks under a part of a line; none when all of it is meant. -/
def marksUnder (line : List Char) (span : Span) (mark : Option Span) : List Char :=
  let blanks := leadingBlanks line
  let size := (bareLine line).length
  let start := span.column - blanks
  let stop := if span.endLine = span.line then span.endColumn - blanks else size
  let mark := if span.endLine = span.line then mark else none
  if stop ≤ start then []
  else
    match mark with
    | none =>
      if stop - start = size then [] else List.replicate start ' ' ++ List.replicate (stop - start) '^'
    | some m =>
      let a := m.column - blanks
      let b := m.endColumn - blanks
      List.replicate start ' ' ++ List.replicate (a - start) '~' ++ List.replicate (b - a) '^' ++
        List.replicate (stop - b) '~'

/-- A call that a failure passed through. -/
def passageLines (file : String) (lines : Array (List Char)) : Passage → List String
  | .inner ls => ls
  | .own frame span mark =>
    let line := (lines[span.line - 1]?).getD []
    let head := s!"  File \"{file}\", line {span.line}, in {frame}"
    let bare := bareLine line
    let marks := marksUnder line span mark
    if bare.isEmpty then [head]
    else
      head :: ("    " ++ String.ofList bare) ::
        if marks.isEmpty then [] else ["    " ++ String.ofList marks]

/-- Whether two calls are of the same line. -/
def samePlace : Passage → Passage → Bool
  | .own f s _, .own g t _ => f == g && s.line == t.line
  | .inner a, .inner b => a == b
  | _, _ => false

/-- The lines of calls, those that repeat left out after the third one. -/
def passagesLines (file : String) (lines : Array (List Char)) (before : Option Passage) (count : Nat) :
    List Passage → List String
  | [] => more count
  | p :: rest =>
    if before.any (samePlace p) then
      (if count < 3 then passageLines file lines p else []) ++
        passagesLines file lines (some p) (count + 1) rest
    else more count ++ passageLines file lines p ++ passagesLines file lines (some p) 1 rest
where
  /-- How many were left out. -/
  more (count : Nat) : List String :=
    if count ≤ 3 then []
    else if count = 4 then ["  [Previous line repeated 1 more time]"]
    else [s!"  [Previous line repeated {count - 3} more times]"]

namespace Run

variable (ev : Evaluator)

/-- The name of the kind of a failure with the module that it is in. -/
def failureName (kind : Value) : Run String := do
  match kind with
  | .known name => return name
  | kind => nameOfKind kind

/-- The lines that tell a failure, without those that failed before. -/
def ownLines (file : String) (place : Nat) : Run (List String) := do
  match (← get).things[place]? with
  | some (.plain kind members) =>
    let passages := ((← get).traces.lookup place).getD []
    let name ← failureName kind
    let text ← match ← special? (.thing place) "__str__" with
      | some f => textFrom ev "__str__" f (.thing place)
      | none => failureText ev kind members
    let hint := match Members.get? members "__hint__" with
      | some (.text cs) => cs
      | _ => []
    let text := text ++ hint
    let last := if text.isEmpty then name else name ++ ": " ++ String.ofList text
    let lines := (← read).lines
    let head := if passages.isEmpty then [] else
      "Traceback (most recent call last):" :: passagesLines file lines none 0 passages
    return head ++ [last]
  | _ => return []

/-- The lines that tell a failure. -/
def failureLines (file : String) : Nat → Nat → Run (List String)
  | 0, _ => return []
  | fuel + 1, place => do
    match (← get).things[place]? with
    | some (.plain _ members) => do
      let isSilent := match Members.get? members "__suppress_context__" with
        | some (.truth b) => b
        | _ => false
      let before ← match Members.get? members "__cause__", Members.get? members "__context__" with
        | some (.thing cause), _ => do
          pure ((← failureLines file fuel cause) ++ ["",
            "The above exception was the direct cause of the following exception:", ""])
        | _, some (.thing context) =>
          if isSilent then pure []
          else do
            pure ((← failureLines file fuel context) ++ ["",
              "During handling of the above exception, another exception occurred:", ""])
        | _, _ => pure []
      return before ++ (← ownLines ev file place)
    | _ => return []

end Run

end FirmwareSurvey.ResultScript
