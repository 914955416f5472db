import FirmwareSurvey.Shell.Cursor
import FirmwareSurvey.Text.Numeral

/-!
# Reading a script

A script is read from left to right by recursive descent, one complete command at a time. Every step
of the descent counts against a number that the length of the script bounds.

In single quotes everything stands for itself. In double quotes a dollar sign and a backquote still
open a value, and a backslash takes the special meaning of some characters. Elsewhere a backslash
does so for any character, and a blank ends a word.
-/

namespace FirmwareSurvey.Shell

/-- Whether a backslash in double quotes takes the meaning of a character. -/
def isSpecialInQuotes (c : Char) : Bool := c = '$' || c = '"' || c = '\\' || c = '\x60'

/-- How a text is read in which values are opened. -/
structure Manner where
  /-- Whether the text stands in double quotes. -/
  quoted : Bool
  /-- Whether single quotes take all meanings. -/
  single : Bool
  /-- Whether double quotes open a quoted text. -/
  double : Bool
  /-- Whether a backslash takes the meaning of a character; before others it stays. -/
  protects : Char → Bool
  /-- Whether the text ends before a character. -/
  stops : Char → Bool
  /-- Whether parentheses are counted, so that the text ends only outside of them. -/
  counts : Bool := false

namespace Manner

/-- A word. -/
def word : Manner := ⟨false, true, true, fun _ => true, endsWord, false⟩

/-- A word up to the next blank. -/
def blank : Manner := ⟨false, true, true, fun _ => true, fun c => isSpace c || c = '\n', false⟩

/-- A text in double quotes. -/
def quote : Manner := ⟨true, false, false, isSpecialInQuotes, (· = '"'), false⟩

/-- A text on lines of its own. -/
def document : Manner :=
  ⟨true, false, false, fun c => isSpecialInQuotes c && c != '"', fun _ => false, false⟩

/-- A text up to one of some signs, outside of double quotes. -/
def upTo (signs : List Char) : Manner :=
  ⟨false, true, true, fun _ => true, signs.contains, false⟩

/-- A text up to a closing brace, inside of double quotes. -/
def quotedBrace : Manner :=
  ⟨true, false, true, fun c => isSpecialInQuotes c || c = '\x7d', (· = '\x7d'), false⟩

/-- A calculation up to one of some signs. -/
def calculation (signs : List Char) : Manner :=
  ⟨true, false, true, isSpecialInQuotes, signs.contains, true⟩

end Manner

/-- A text between backquotes: what stands before the closing one, and the rest. -/
def backquotedText? (quoted : Bool) : List Char → Option (List Char × List Char)
  | [] => none
  | '\x60' :: rest => some ([], rest)
  | '\\' :: c :: rest =>
    (backquotedText? quoted rest).map fun (cs, rest) =>
      if c = '\\' || c = '\x60' || c = '$' || (quoted && c = '"') then (c :: cs, rest)
      else ('\\' :: c :: cs, rest)
  | c :: rest => (backquotedText? quoted rest).map fun (cs, rest) => (c :: cs, rest)

/-- A word in which no character has a meaning: its characters, and whether any was quoted. -/
def plainWord : List Char → List Char × Bool
  | [] => ([], false)
  | '\\' :: c :: rest => (c :: (plainWord rest).1, true)
  | c :: rest =>
    let (cs, quoted) := plainWord rest
    if c = '\'' || c = '"' then (cs, true) else (c :: cs, quoted)

/-- Takes lines up to one that ends a document: the lines, those that follow, and how many were taken.
Tabs at the start of lines are dropped on demand. -/
def documentLines (ending : List Char) (dropTabs : Bool) :
    List (List Char) → List (List Char) × List (List Char) × Nat × Bool
  | [] => ([], [], 0, false)
  | line :: lines =>
    let line := if dropTabs then line.dropWhile (· = '\t') else line
    if line = ending then ([], lines, 1, true)
    else
      let (taken, rest, n, isEnded) := documentLines ending dropTabs lines
      (line :: taken, rest, n + 1, isEnded)

/-- The letter escapes of a text behind a dollar sign. -/
def letterEscape? : Char → Option Char
  | 'a' => some '\x07'
  | 'b' => some '\x08'
  | 'e' => some '\x1b'
  | 'E' => some '\x1b'
  | 'f' => some '\x0c'
  | 'n' => some '\n'
  | 'r' => some '\r'
  | 't' => some '\t'
  | 'v' => some '\x0b'
  | '\\' => some '\\'
  | '\'' => some '\''
  | '"' => some '"'
  | '?' => some '?'
  | _ => none

/-- Reads a text in which a backslash stands with what follows for a character, up to a closing single
quote. -/
def escapedText? : Nat → List Char → Option (List Char × List Char)
  | 0, _ => none
  | _ + 1, [] => none
  | _ + 1, '\'' :: rest => some ([], rest)
  | fuel + 1, '\\' :: c :: rest =>
    match letterEscape? c with
    | some e => (escapedText? fuel rest).map fun (cs, rest) => (e :: cs, rest)
    | none =>
      let (base, most, source) := if c = 'x' then (16, 2, rest) else (8, 3, c :: rest)
      let digits := (source.take most).takeWhile fun d => (Text.digitValue? base d).isSome
      if digits.isEmpty then (escapedText? fuel rest).map fun (cs, rest) => ('\\' :: c :: cs, rest)
      else
        let n := (Text.digitsValue? base 0 digits).getD 0
        (escapedText? fuel (source.drop digits.length)).map fun (cs, rest) =>
          (Char.ofNat (n % 256) :: cs, rest)
  | fuel + 1, c :: rest => (escapedText? fuel rest).map fun (cs, rest) => (c :: cs, rest)

namespace Reader

/-- The words that end a row of commands. -/
def closers : List String := ["then", "elif", "else", "fi", "esac", "do", "done", "\x7d"]

/-- Whether a row of commands ends here. -/
def atEnd : Reader Bool := do
  match ← rest with
  | [] => return true
  | ')' :: _ => return true
  | ';' :: ';' :: _ => return true
  | _ => return closers.contains (← upcoming)

/-- The parameter of a character. -/
def special? : Char → Option Parameter
  | '@' => some .arguments
  | '*' => some .joined
  | '#' => some .count
  | '?' => some .status
  | '$' => some .process
  | '!' => some .background
  | '-' => some .options
  | c => if c.isDigit then some (.positional (c.toNat - '0'.toNat)) else none

/-- The dialect's reading of a text of its own, which starts in a line. -/
def within {α : Type} (text : List Char) (line : Nat) (r : Reader α) : Reader α := do
  let dialect := (← get).dialect
  match r.run ⟨text, line, 0, dialect⟩ with
  | .ok (a, _) => return a
  | .error e => throw e

/-- Whether a redirection comes next. -/
def seesRedirection : Reader Bool := do
  let cs ← rest
  match cs.dropWhile Char.isDigit with
  | '<' :: _ => return true
  | '>' :: _ => return true
  | '&' :: '>' :: _ => return (← isExtended) && !(cs.head?.any Char.isDigit)
  | _ => return false

/-- Whether a name and a pair of parentheses come next. -/
def seesFunction : Reader Bool := do
  let cs ← rest
  let name := cs.takeWhile (!endsWord ·)
  match (cs.drop name.length).dropWhile isSpace with
  | '(' :: cs => return isName name && (cs.dropWhile isSpace).head? == some ')'
  | _ => return false

/-- The length of the name at the start of an assignment, and of what stands up to its sign; none when
no assignment comes next. -/
def assignedName? (dialect : Dialect) (cs : List Char) : Option Nat :=
  let name := cs.takeWhile isNamePart
  if !isName name then none
  else
    match cs.drop name.length with
    | '=' :: _ => some name.length
    | '+' :: '=' :: _ => if dialect = .extended then some name.length else none
    | '[' :: index =>
      if dialect = .extended then
        match (index.dropWhile fun c => c != ']' && c != '\n') with
        | ']' :: '=' :: _ => some name.length
        | ']' :: '+' :: '=' :: _ => some name.length
        | _ => none
      else none
    | _ => none

/-- The characters of a word that is plain. -/
def plainText? : Word → Option (List Char)
  | [] => some []
  | .literal cs false :: ps => (plainText? ps).map (cs ++ ·)
  | _ => none

/-- The questions of conditions about two words. -/
def binaryQuestions : List String :=
  ["=", "==", "!=", "=~", "<", ">", "-eq", "-ne", "-lt", "-le", "-gt", "-ge", "-nt", "-ot", "-ef"]

/-- Takes the lines of a document out of what follows this line. -/
def takeDocument (ending : List Char) (dropTabs : Bool) : Reader (List Char) := do
  let cs ← rest
  let here := cs.takeWhile (· != '\n')
  match cs.drop here.length with
  | [] => return []
  | _ :: below => do
    let (lines, after, n, isEnded) := documentLines ending dropTabs (Text.cut '\n' below)
    let text := if isEnded then lines.flatMap (· ++ ['\n']) else Text.joinWith '\n' lines
    modify fun c =>
      { c with rest := here ++ '\n' :: Text.joinWith '\n' after, leftOut := c.leftOut + n }
    return text

/-- A piece as if it stood in double quotes. -/
def quotedPiece : Piece → Piece
  | .literal cs _ => .literal cs true
  | .parameter p use _ => .parameter p use true
  | .substitution script _ => .substitution script true
  | .calculation t _ => .calculation t true
  | .home => .home

/-- Whether a piece is a character as it stands. -/
def isPlainChar (c : Char) : Piece → Bool
  | .literal [d] false => c == d
  | _ => false

/-- Whether what follows a tilde lets it stand for the home directory. -/
def endsHome (ps : Word) : Bool :=
  match ps with
  | [] => true
  | p :: _ => isPlainChar '/' p || isPlainChar ':' p

/-- A word in which tildes behind colons stand for the home directory, and one at the start does so on
demand. -/
def withHomes (behindColon : Bool) : Word → Word
  | [] => []
  | p :: ps =>
    (if behindColon && isPlainChar '~' p && endsHome ps then .home else p) ::
      withHomes (isPlainChar ':' p) ps

/-- A word that starts with a name and an equals sign, with its tildes standing for the home
directory. -/
def withAssignedHome (w : Word) : Word :=
  let name := w.takeWhile (!isPlainChar '=' ·)
  match (plainText? name).any isName, w.drop name.length with
  | true, sign :: rest => name ++ sign :: withHomes true rest
  | _, _ => w

mutual

/-- Reads a text; `depth` is how many parentheses are open. -/
def text (m : Manner) (depth : Nat) : Nat → Reader Word
  | 0 => unexpected 0
  | fuel + 1 => do
    let line := (← get).line
    let here ← rest
    match here with
    | [] => return []
    | '\\' :: '\n' :: _ => do
      skip 2
      text m depth fuel
    | '\\' :: c :: _ => do
      skip 2
      let cs := if m.protects c then [c] else ['\\', c]
      return .literal cs true :: (← text m depth fuel)
    | '$' :: _ => do
      let p ← dollar m.quoted fuel
      return p :: (← text m depth fuel)
    | '\x60' :: cs =>
      match backquotedText? m.quoted cs with
      | none => do
        skip here.length
        fail (.unclosed "\x60" line)
      | some (script, after) => do
        let commands ← within script line (commands fuel)
        skip (here.length - after.length)
        return .substitution commands m.quoted :: (← text m depth fuel)
    | c :: cs =>
      if m.single && c = '\'' then
        let quoted := cs.takeWhile (· != '\'')
        skip (quoted.length + 1)
        if !(← accept "'") then fail (.unclosed "'" line)
        return .literal quoted true :: (← text m depth fuel)
      else if m.double && c = '"' then
        skip 1
        let ps ← text .quote 0 fuel
        if !(← accept "\"") then fail (.unclosed "\"" line)
        return .literal [] true :: ps ++ (← text m depth fuel)
      else if m.stops c && depth = 0 then return []
      else
        let depth := if !m.counts then depth else if c = '(' then depth + 1
          else if c = ')' then depth - 1 else depth
        skip 1
        return .literal [c] m.quoted :: (← text m depth fuel)
termination_by structural fuel => fuel

/-- Reads a word. -/
def word : Nat → Reader Word
  | 0 => unexpected 0
  | fuel + 1 => do
    match ← rest with
    | '~' :: c :: _ =>
      if c = '/' || endsWord c then
        skip 1
        return .home :: (← text .word 0 fuel)
      else text .word 0 fuel
    | _ => text .word 0 fuel
termination_by structural fuel => fuel

/-- Reads a word that has to be there. -/
def someWord : Nat → Reader Word
  | 0 => unexpected 0
  | fuel + 1 => do
    skipSpaces fuel
    let w ← word fuel
    if w.isEmpty then unexpected fuel else return w
termination_by structural fuel => fuel

/-- Reads a text up to a closing sign, and that sign. -/
def closed (m : Manner) (close : String) (line : Nat) : Nat → Reader Word
  | 0 => unexpected 0
  | fuel + 1 => do
    let w ← text m 0 fuel
    if ← accept close then return w else fail (.unclosed close line)
termination_by structural fuel => fuel

/-- Reads what a dollar sign opens. -/
def dollar (quoted : Bool) : Nat → Reader Piece
  | 0 => unexpected 0
  | fuel + 1 => do
    let line := (← get).line
    skip 1
    match ← rest with
    | '(' :: '(' :: _ => do
      let before ← get
      let calculation : Reader Piece := do
        skip 2
        return .calculation (← closed (.calculation [')']) "))" line fuel) quoted
      match calculation.run before with
      | .ok (p, after) => do
        set after
        return p
      | .error e =>
        match (substitution quoted line fuel).run before with
        | .ok (p, after) => do
          set after
          return p
        | .error _ => throw e
    | '(' :: _ => substitution quoted line fuel
    | '{' :: _ => do
      skip 1
      braced quoted line fuel
    | '\'' :: cs =>
      if !quoted && (← isExtended) then
        match escapedText? (cs.length + 1) cs with
        | some (text, after) => do
          skip (1 + cs.length - after.length)
          return .literal text true
        | none => fail (.unclosed "'" line)
      else return .literal ['$'] quoted
    | '"' :: _ =>
      if !quoted && (← isExtended) then return .literal [] true else return .literal ['$'] quoted
    | c :: _ =>
      match special? c with
      | some p => do
        skip 1
        return .parameter p .value quoted
      | none =>
        if startsName c then return .parameter (.variable (← span isNamePart)) .value quoted
        else return .literal ['$'] quoted
    | [] => return .literal ['$'] quoted
termination_by structural fuel => fuel

/-- Reads commands in parentheses, whose output is wanted. -/
def substitution (quoted : Bool) (line : Nat) : Nat → Reader Piece
  | 0 => unexpected 0
  | fuel + 1 => do
    skip 1
    let script ← commands fuel
    skipLines fuel
    if (← rest).isEmpty then fail (.unclosed ")" line)
    expectSign fuel ")"
    return .substitution script quoted
termination_by structural fuel => fuel

/-- Reads the name of a parameter in braces. -/
def bracedName (line : Nat) : Nat → Reader (Option Parameter)
  | 0 => unexpected 0
  | fuel + 1 => do
    match ← rest with
    | [] => fail (.unclosed "\x7d" line)
    | c :: _ =>
      if startsName c then do
        let name ← span isNamePart
        if (← isExtended) && (← accept "[") then
          if ← accept "@]" then return some (.elements name false)
          else if ← accept "*]" then return some (.elements name true)
          else return some (.element name (← closed (.calculation [']']) "]" line fuel))
        else return some (.variable name)
      else
        match special? c with
        | some (.positional _) => do
          let digits ← span Char.isDigit
          return some (.positional ((Text.digitsValue? 10 0 digits).getD 0))
        | some p => do
          skip 1
          return some p
        | none => return none
termination_by structural fuel => fuel

/-- Reads the rest of a parameter in braces. -/
def braced (quoted : Bool) (line : Nat) : Nat → Reader Piece
  | 0 => unexpected 0
  | fuel + 1 => do
    let source ← rest
    let bad {α : Type} : Reader α :=
      fail (.badUse ("$\x7b".toList ++ source.takeWhile (· != '\x7d') ++ ['\x7d']))
    -- the parameter and what stands before its name
    let measured : Bool := match source with
      | '#' :: '\x7d' :: _ => false
      | '#' :: c :: d :: _ =>
        startsName c || c.isDigit || ((c = '@' || c = '*' || c = '?' || c = '$' || c = '!' || c = '#')
          && d = '\x7d')
      | _ => false
    let dialect := (← get).dialect
    let indirect : Bool := match source with
      | '!' :: c :: _ => startsName c && dialect = .extended
      | _ => false
    if measured || indirect then skip 1
    match ← bracedName line fuel with
    | none => bad
    | some p =>
      if measured then
        if ← accept "\x7d" then return .parameter p .length quoted else bad
      else if indirect then
        match p with
        | .elements name joined =>
          if ← accept "\x7d" then return .parameter (.indices name joined) .value quoted else bad
        | p => if ← accept "\x7d" then return .parameter p .indirect quoted else bad
      else bracedUse p quoted line bad fuel
termination_by structural fuel => fuel

/-- Reads how a parameter in braces is used. -/
def bracedUse (p : Parameter) (quoted : Bool) (line : Nat) (bad : Reader Piece) :
    Nat → Reader Piece
  | 0 => unexpected 0
  | fuel + 1 => do
    let used (u : Use) : Reader Piece := return .parameter p u quoted
    let value : Reader Word :=
      closed (if quoted then .quotedBrace else .upTo ['\x7d']) "\x7d" line fuel
    let last : Reader Word := closed (.upTo ['\x7d']) "\x7d" line fuel
    match ← rest with
    | [] => fail (.unclosed "\x7d" line)
    | '\x7d' :: _ => do skip 1; used .value
    | ':' :: '-' :: _ => do skip 2; used (.default true (← value))
    | ':' :: '=' :: _ => do skip 2; used (.assign true (← value))
    | ':' :: '?' :: _ => do skip 2; used (.demand true (← value))
    | ':' :: '+' :: _ => do skip 2; used (.instead true (← value))
    | '-' :: _ => do skip 1; used (.default false (← value))
    | '=' :: _ => do skip 1; used (.assign false (← value))
    | '?' :: _ => do skip 1; used (.demand false (← value))
    | '+' :: _ => do skip 1; used (.instead false (← value))
    | '#' :: '#' :: _ => do skip 2; used (.cut .front true (← last))
    | '#' :: _ => do skip 1; used (.cut .front false (← last))
    | '%' :: '%' :: _ => do skip 2; used (.cut .back true (← last))
    | '%' :: _ => do skip 1; used (.cut .back false (← last))
    | c :: cs =>
      if !(← isExtended) then bad
      else if c = '/' then do
        let (extent, n) := match cs with
          | '/' :: _ => (Extent.all, 2)
          | '#' :: _ => (Extent.front, 2)
          | '%' :: _ => (Extent.back, 2)
          | _ => (Extent.first, 1)
        skip n
        let pattern ← text (.upTo ['/', '\x7d']) 0 fuel
        if ← accept "/" then used (.replace extent pattern (← last))
        else if ← accept "\x7d" then used (.replace extent pattern [])
        else fail (.unclosed "\x7d" line)
      else if c = ':' then do
        skip 1
        let start ← text (.calculation [':', '\x7d']) 0 fuel
        if ← accept ":" then used (.part start (some (← closed (.calculation ['\x7d']) "\x7d" line fuel)))
        else if ← accept "\x7d" then used (.part start none)
        else fail (.unclosed "\x7d" line)
      else if c = '^' || c = ',' then do
        let all := cs.head? == some c
        skip (if all then 2 else 1)
        if ← accept "\x7d" then used (.cased (c = '^') all) else bad
      else bad
termination_by structural fuel => fuel

/-- Reads a redirection. -/
def redirection : Nat → Reader Redirection
  | 0 => unexpected 0
  | fuel + 1 => do
    let line := (← get).line
    let digits ← span Char.isDigit
    let channel (default : Nat) : Nat := if digits.isEmpty then default
      else (Text.digitsValue? 10 0 digits).getD default
    if ← accept "&>>" then return .writeBoth (← someWord fuel) true
    else if ← accept "&>" then return .writeBoth (← someWord fuel) false
    else if (← isExtended) && (← accept "<<<") then
      let w ← someWord fuel
      return .document (channel 0) (w.map (quotedPiece ·) ++ [.literal ['\n'] true])
    else if ← sees "<<" then do
      skip 2
      let dropTabs ← accept "-"
      skipSpaces fuel
      let raw ← span (!endsWord ·)
      if raw.isEmpty then unexpected fuel
      let (ending, quoted) := plainWord raw
      let body ← takeDocument ending dropTabs
      let body ← if quoted then pure [.literal body true]
        else within body (line + 1) (text .document 0 fuel)
      return .document (channel 0) body
    else if ← accept "<&" then return .join (channel 0) (← someWord fuel)
    else if ← accept ">&" then do
      let w ← someWord fuel
      match plainText? w with
      | some cs =>
        if (← isExtended) && digits.isEmpty && cs != ['-'] && !cs.all Char.isDigit then
          return .writeBoth w false
        else return .join (channel 1) w
      | none => return .join (channel 1) w
    else if ← accept "<>" then return .read (channel 0) (← someWord fuel)
    else if ← accept ">|" then return .write (channel 1) (← someWord fuel) false true
    else if ← accept ">>" then return .write (channel 1) (← someWord fuel) true false
    else if ← accept ">" then return .write (channel 1) (← someWord fuel) false false
    else if ← accept "<" then return .read (channel 0) (← someWord fuel)
    else unexpected fuel
termination_by structural fuel => fuel

/-- Reads redirections as long as there are any. -/
def redirections : Nat → Reader (List Redirection)
  | 0 => unexpected 0
  | fuel + 1 => do
    skipSpaces fuel
    if ← seesRedirection then
      let r ← redirection fuel
      return r :: (← redirections fuel)
    else return []
termination_by structural fuel => fuel

/-- Reads the items of a row of values up to its closing parenthesis. -/
def items (line : Nat) : Nat → Reader (List (Option Word × Word))
  | 0 => unexpected 0
  | fuel + 1 => do
    skipLines fuel
    match ← rest with
    | [] => fail (.unclosed ")" line)
    | ')' :: _ => do
      skip 1
      return []
    | '[' :: cs =>
      match cs.dropWhile fun c => c != ']' && c != '\n' with
      | ']' :: '=' :: _ => do
        skip 1
        let index ← closed (.calculation [']']) "]" line fuel
        skip 1
        let w ← word fuel
        return (some index, w) :: (← items line fuel)
      | _ => do
        let w ← someWord fuel
        return (none, w) :: (← items line fuel)
    | _ => do
      let w ← someWord fuel
      return (none, w) :: (← items line fuel)
termination_by structural fuel => fuel

/-- Reads an assignment whose name has so many characters. -/
def assignment (length : Nat) : Nat → Reader Assignment
  | 0 => unexpected 0
  | fuel + 1 => do
    let line := (← get).line
    let name := (← rest).take length
    skip length
    let index ← if ← accept "[" then
        pure (some (← closed (.calculation [']']) "]" line fuel))
      else pure none
    let adds ← accept "+"
    skip 1
    if (← isExtended) && (← accept "(") then
      return .mk name index adds (.row (← items line fuel))
    else return .mk name index adds (.text (withHomes false (← word fuel)))
termination_by structural fuel => fuel

/-- Reads the parts of a simple command up to its end: assignments, words, redirections, and the
assignments of rows behind the first word. -/
def parts (isFirst : Bool) : Nat →
    Reader (List Assignment × List Word × List Redirection × List Assignment)
  | 0 => unexpected 0
  | fuel + 1 => do
    skipSpaces fuel
    let here ← rest
    if ← seesRedirection then
      let r ← redirection fuel
      let (assigned, words, redirected, after) ← parts isFirst fuel
      return (assigned, words, r :: redirected, after)
    else
      match here with
      | [] => return ([], [], [], [])
      | c :: _ =>
        if endsWord c then return ([], [], [], [])
        else
          match assignedName? (← get).dialect here with
          | some length =>
            if isFirst then
              let a ← assignment length fuel
              let (assigned, words, redirected, after) ← parts true fuel
              return (a :: assigned, words, redirected, after)
            else if (here.drop (length + 1)).head? == some '(' && (← isExtended) then
              let a ← assignment length fuel
              let (assigned, words, redirected, after) ← parts false fuel
              return (assigned, [.literal (here.take length) true] :: words, redirected, a :: after)
            else
              let w ← word fuel
              let w := if (← isExtended) then withAssignedHome w else w
              let (assigned, words, redirected, after) ← parts false fuel
              return (assigned, w :: words, redirected, after)
          | none => do
            let w ← word fuel
            let (assigned, words, redirected, after) ← parts false fuel
            return (assigned, w :: words, redirected, after)
termination_by structural fuel => fuel

/-- The line of the end of the second part of a simple command, where the extended manner takes the
command to stand; nothing is left behind. -/
def lineOfSecond (line : Nat) : Nat → Reader Nat
  | 0 => return line
  | fuel + 1 => do
    let here ← get
    let second : Reader Nat := do
      let _ ← word fuel
      skipSpaces fuel
      let _ ← word fuel
      return (← get).line
    match second.run here with
    | .ok (n, _) => return n
    | .error _ => return line
termination_by structural fuel => fuel

/-- Reads the branches of a choice behind a condition's opening word. -/
def branches : Nat → Reader (List (List Command × List Command) × List Command)
  | 0 => unexpected 0
  | fuel + 1 => do
    let condition ← someCommands fuel
    expectWord fuel "then"
    let body ← someCommands fuel
    skipLines fuel
    match ← upcoming with
    | "elif" => do
      skip 4
      let (more, otherwise) ← branches fuel
      return ((condition, body) :: more, otherwise)
    | "else" => do
      skip 4
      let otherwise ← someCommands fuel
      expectWord fuel "fi"
      return ([(condition, body)], otherwise)
    | _ => do
      expectWord fuel "fi"
      return ([(condition, body)], [])
termination_by structural fuel => fuel

/-- Reads the patterns of an arm up to its closing parenthesis. -/
def patterns : Nat → Reader (List Word)
  | 0 => unexpected 0
  | fuel + 1 => do
    skipSpaces fuel
    let p ← word fuel
    if p.isEmpty then unexpected fuel (some "\")\"")
    skipSpaces fuel
    if ← accept "|" then return p :: (← patterns fuel)
    else if ← accept ")" then return [p]
    else unexpected fuel (some "\")\"")
termination_by structural fuel => fuel

/-- Reads the arms of a selection up to its closing word. -/
def arms : Nat → Reader (List (List Word × List Command × ArmEnd))
  | 0 => unexpected 0
  | fuel + 1 => do
    skipLines fuel
    if (← upcoming) = "esac" then
      skip 4
      return []
    else do
      let _ ← accept "("
      let ps ← patterns fuel
      let body ← commands fuel
      skipLines fuel
      if ← accept ";;&" then return (ps, body, .goesOn) :: (← arms fuel)
      else if ← accept ";;" then return (ps, body, .leaves) :: (← arms fuel)
      else if ← accept ";&" then return (ps, body, .falls) :: (← arms fuel)
      else do
        expectWord fuel "esac"
        return [(ps, body, .leaves)]
termination_by structural fuel => fuel

/-- Reads words up to the end of a line or a semicolon. -/
def words : Nat → Reader (List Word)
  | 0 => unexpected 0
  | fuel + 1 => do
    skipSpaces fuel
    match ← rest with
    | [] => return []
    | c :: _ =>
      if endsWord c then return []
      else do
        let w ← word fuel
        return w :: (← words fuel)
termination_by structural fuel => fuel

/-- Reads the body of a loop. -/
def loopBody : Nat → Reader (List Command)
  | 0 => unexpected 0
  | fuel + 1 => do
    expectWord fuel "do"
    let body ← someCommands fuel
    expectWord fuel "done"
    return body
termination_by structural fuel => fuel

/-- Reads a loop over words behind its opening word. -/
def eachLoop (line : Nat) : Nat → Reader Command
  | 0 => unexpected 0
  | fuel + 1 => do
    skipSpaces fuel
    if (← isExtended) && (← accept "((") then
      let start ← closed (.calculation [';']) ";" line fuel
      let test ← closed (.calculation [';']) ";" line fuel
      let step ← closed (.calculation [')']) "))" line fuel
      skipSpaces fuel
      let _ ← accept ";"
      return .counted line start test step (← loopBody fuel)
    else
      let name := (← upcoming).toList
      if !isName name then fail (.badName name)
      skip name.length
      skipLines fuel
      let ws ← if (← upcoming) = "in" then do
          skip 2
          let ws ← words fuel
          if !((← sees ";") || (← sees "\n")) then unexpected fuel
          pure ws
        else pure [[.parameter .arguments .value true]]
      let _ ← accept ";"
      return .each line name ws (← loopBody fuel)
termination_by structural fuel => fuel

/-- Reads a condition. -/
def condition : Nat → Reader Condition
  | 0 => unexpected 0
  | fuel + 1 => do
    let first ← conjunction fuel
    skipLines fuel
    if ← accept "||" then return .or first (← condition fuel) else return first
termination_by structural fuel => fuel

/-- Reads a condition without alternatives. -/
def conjunction : Nat → Reader Condition
  | 0 => unexpected 0
  | fuel + 1 => do
    let first ← question fuel
    skipLines fuel
    if ← accept "&&" then return .and first (← conjunction fuel) else return first
termination_by structural fuel => fuel

/-- Reads a single question of a condition. -/
def question : Nat → Reader Condition
  | 0 => unexpected 0
  | fuel + 1 => do
    skipLines fuel
    if (← upcoming) = "!" then
      skip 1
      return .not (← question fuel)
    else if ← accept "(" then
      let c ← condition fuel
      expectSign fuel ")"
      return c
    else
      let first ← someWord fuel
      skipSpaces fuel
      let sign ← if ← sees "<" then pure "<" else if ← sees ">" then pure ">" else upcoming
      let isUnary := match plainText? first with
        | some ['-', _] => true
        | _ => false
      if binaryQuestions.contains sign then
        skip sign.length
        skipSpaces fuel
        let second ← if sign = "=~" then text .blank 0 fuel else word fuel
        return .two sign.toList first second
      else if isUnary && sign != "]]" && sign != "" then
        return .one ((plainText? first).getD []) (← word fuel)
      else return .word first
termination_by structural fuel => fuel

/-- Reads one command, its redirections included. -/
def command : Nat → Reader Command
  | 0 => unexpected 0
  | fuel + 1 => do
    let line := (← get).line
    let isExtended ← isExtended
    let redirected (c : Command) : Reader Command := do
      match ← redirections fuel with
      | [] => return c
      | rs => return .redirected line c rs
    match ← upcoming with
    | "if" => do
      skip 2
      let (bs, otherwise) ← branches fuel
      redirected (.choice bs otherwise)
    | "case" => do
      skip 4
      let subject ← someWord fuel
      expectWord fuel "in"
      redirected (.selection line subject (← arms fuel))
    | "for" => do
      skip 3
      redirected (← eachLoop line fuel)
    | "while" => do
      skip 5
      let condition ← someCommands fuel
      redirected (.loop false condition (← loopBody fuel))
    | "until" => do
      skip 5
      let condition ← someCommands fuel
      redirected (.loop true condition (← loopBody fuel))
    | "\x7b" => do
      skip 1
      let body ← someCommands fuel
      expectWord fuel "\x7d"
      redirected (.group body)
    | first =>
      if ← sees "((" then
        if isExtended then
          skip 2
          return ← redirected (.calculation line (← closed (.calculation [')']) "))" line fuel))
      if ← accept "(" then
        let body ← someCommands fuel
        expectSign fuel ")"
        redirected (.subshell line body)
      else if isExtended && first = "[[" then
        skip 2
        let c ← condition fuel
        expectWord fuel "]]"
        redirected (.condition line c)
      else if isExtended && first = "function" then
        skip 8
        skipSpaces fuel
        let name ← span (!endsWord ·)
        skipSpaces fuel
        if ← accept "(" then expectSign fuel ")"
        skipLines fuel
        return .function name (← command fuel)
      else if keywords.contains first && first != "in" then unexpected fuel
      else if ← seesFunction then
        let name ← span isNamePart
        skipSpaces fuel
        skip 1
        expectSign fuel ")"
        skipLines fuel
        return .function name (← command fuel)
      else
        let line ← if isExtended then lineOfSecond line fuel else pure line
        let (assigned, ws, rs, after) ← parts true fuel
        if assigned.isEmpty && ws.isEmpty && rs.isEmpty then unexpected fuel
        if ← sees "(" then
          skip 1
          unexpected fuel (some "\")\"")
        return .simple line assigned ws rs after
termination_by structural fuel => fuel

/-- Reads commands that hand on what they write. -/
def piped : Nat → Reader (List Command)
  | 0 => unexpected 0
  | fuel + 1 => do
    let first ← command fuel
    skipSpaces fuel
    if ← sees "||" then return [first]
    else if (← isExtended) && (← accept "|&") then
      skipLines fuel
      return .redirected 0 first [.join 2 [.literal ['1'] true]] :: (← piped fuel)
    else if ← accept "|" then
      skipLines fuel
      return first :: (← piped fuel)
    else return [first]
termination_by structural fuel => fuel

/-- Reads a row of commands that hand on what they write, with a sign before it that turns success
around. -/
def pipeline : Nat → Reader Command
  | 0 => unexpected 0
  | fuel + 1 => do
    skipSpaces fuel
    if (← upcoming) = "!" then
      skip 1
      return .negated (← pipeline fuel)
    else
      match ← piped fuel with
      | [c] => return c
      | cs => return .piped cs
termination_by structural fuel => fuel

/-- Reads what follows a command up to the end of its row. -/
def chain (first : Command) : Nat → Reader Command
  | 0 => unexpected 0
  | fuel + 1 => do
    skipSpaces fuel
    if ← accept "&&" then
      skipLines fuel
      chain (.both first (← pipeline fuel)) fuel
    else if ← accept "||" then
      skipLines fuel
      chain (.either first (← pipeline fuel)) fuel
    else return first
termination_by structural fuel => fuel

/-- Reads a row of commands up to its end. -/
def commands : Nat → Reader (List Command)
  | 0 => unexpected 0
  | fuel + 1 => do
    skipLines fuel
    if ← atEnd then return []
    else do
      let c ← chain (← pipeline fuel) fuel
      match ← rest with
      | ';' :: ';' :: _ => return [c]
      | ';' :: '&' :: _ => return [c]
      | ';' :: _ => do
        skip 1
        return c :: (← commands fuel)
      | '&' :: _ => do
        skip 1
        return .aside c :: (← commands fuel)
      | '\n' :: _ => return c :: (← commands fuel)
      | [] => return [c]
      | ')' :: _ => return [c]
      | _ => unexpected fuel
termination_by structural fuel => fuel

/-- Reads a row of commands that has to be there. -/
def someCommands : Nat → Reader (List Command)
  | 0 => unexpected 0
  | fuel + 1 => do
    match ← commands fuel with
    | [] => if (← rest).isEmpty then return [] else unexpected fuel
    | cs => return cs
termination_by structural fuel => fuel

end

/-- Reads the commands of a line up to its end. -/
def line : Nat → Reader (List Command)
  | 0 => unexpected 0
  | fuel + 1 => do
    let c ← chain (← pipeline fuel) fuel
    let after (c : Command) : Reader (List Command) := do
      skipSpaces fuel
      match ← rest with
      | [] => return [c]
      | '\n' :: _ => do
        skip 1
        return [c]
      | _ => return c :: (← line fuel)
    match ← rest with
    | ';' :: ';' :: _ => unexpected fuel
    | ';' :: _ => do
      skip 1
      after c
    | '&' :: _ => do
      skip 1
      after (.aside c)
    | '\n' :: _ => do
      skip 1
      return [c]
    | [] => return [c]
    | _ => unexpected fuel

/-- Reads the next line with commands; none when there is no more. -/
def nextLine : Reader (Option (List Command)) := do
  let fuel := 64 * ((← rest).length + 1)
  skipLines fuel
  if (← rest).isEmpty then return none else return some (← line fuel)

end Reader

end FirmwareSurvey.Shell
