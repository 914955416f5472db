import FirmwareSurvey.Members
import FirmwareSurvey.Pattern.Basic
import FirmwareSurvey.Shell.Number
import FirmwareSurvey.Shell.Syntax
import FirmwareSurvey.Storage.Basic
import FirmwareSurvey.Text.Lines
import FirmwareSurvey.Text.Octets
import FirmwareSurvey.Text.Search

/-!
# Patterns of a script

In a pattern of a script a star stands for any characters, a question mark for any one, and a class in
brackets for any one of its members; a character that is quoted stands for itself. A pattern may stand
for the names of files, which are then found part by part.
-/

namespace FirmwareSurvey.Shell

/-- A text whose characters tell whether they are quoted. -/
abbrev Marked := List (Char × Bool)

/-- The characters of a marked text. -/
def unmarked (m : Marked) : List Char := m.map (·.1)

/-- Whether a character has a meaning of its own in a pattern. -/
def isWild (m : Char × Bool) : Bool := !m.2 && (m.1 = '*' || m.1 = '?' || m.1 = '[')

/-- Reads the members of a class up to its closing bracket. `fuel` bounds their number. -/
def classMembers? : Nat → Bool → Marked → Option (List (Char × Char) × Marked)
  | 0, _, _ => none
  | fuel + 1, isFirst, cs =>
    match cs with
    | [] => none
    | ('[', false) :: (':', _) :: rest =>
      let name := unmarked (rest.takeWhile (·.1 != ':'))
      match Pattern.namedClasses.lookup (String.ofList name), rest.drop name.length with
      | some ranges, _ :: (']', _) :: rest =>
        (classMembers? fuel false rest).map fun (more, rest) => (ranges ++ more, rest)
      | _, _ => none
    | (c, quoted) :: rest =>
      if c = ']' && !quoted && !isFirst then some ([], rest)
      else
        match rest with
        | ('-', false) :: (d, q) :: after =>
          if d = ']' && !q then
            (classMembers? fuel false rest).map fun (more, rest) => ((c, c) :: more, rest)
          else (classMembers? fuel false after).map fun (more, rest) => ((c, d) :: more, rest)
        | _ => (classMembers? fuel false rest).map fun (more, rest) => ((c, c) :: more, rest)

/-- Reads a class behind its opening bracket. -/
def class? (cs : Marked) : Option (CharClass × Marked) :=
  let isNegated := match cs with
    | (c, false) :: _ => c = '!' || c = '^'
    | _ => false
  let body := if isNegated then cs.drop 1 else cs
  (classMembers? (body.length + 1) true body).map fun (ranges, rest) => (⟨ranges, isNegated⟩, rest)

/-- The signs of a pattern. `fuel` bounds their number. -/
def signsFrom : Nat → Marked → List Text.Sign
  | 0, _ => []
  | _ + 1, [] => []
  | fuel + 1, (c, quoted) :: rest =>
    if quoted then .one (· == c) :: signsFrom fuel rest
    else
      match c with
      | '*' => .run (fun _ => true) :: signsFrom fuel rest
      | '?' => .one (fun _ => true) :: signsFrom fuel rest
      | '[' =>
        match class? rest with
        | some (k, rest) => .one k.has :: signsFrom fuel rest
        | none => .one (· == '[') :: signsFrom fuel rest
      | c => .one (· == c) :: signsFrom fuel rest

/-- The signs of a pattern. -/
def signs (pattern : Marked) : List Text.Sign := signsFrom pattern.length pattern

/-- Whether a pattern matches a text. -/
def matchesPattern (pattern : Marked) (text : List Char) : Bool :=
  Text.signsMatch (signs pattern) text

/-! ### Parts of texts -/

/-- A text without the longest or the shortest match of a pattern at a side. -/
def cutMatch (side : Side) (longest : Bool) (pattern : Marked) (text : List Char) : List Char :=
  let signs := signs pattern
  let lengths := List.range (text.length + 1)
  let lengths := if longest then lengths.reverse else lengths
  let found := lengths.find? fun n =>
    Text.signsMatch signs (match side with
      | .front => text.take n
      | .back => text.drop (text.length - n))
  match found, side with
  | none, _ => text
  | some n, .front => text.drop n
  | some n, .back => text.take (text.length - n)

/-- The length of the longest match of a pattern at the start of a text. -/
def longestMatch? (signs : List Text.Sign) (text : List Char) : Option Nat :=
  (List.range (text.length + 1)).reverse.find? fun n => Text.signsMatch signs (text.take n)

/-- Replaces matches of a pattern from the left on, all or only the first. `fuel` bounds the length of
the text. -/
def replaceFrom (signs : List Text.Sign) (replacement : List Char) (all : Bool) :
    Nat → List Char → List Char
  | 0, cs => cs
  | fuel + 1, cs =>
    match longestMatch? signs cs, cs with
    | some 0, [] => []
    | some 0, c :: rest => c :: replaceFrom signs replacement all fuel rest
    | some n, cs =>
      replacement ++ if all then replaceFrom signs replacement all fuel (cs.drop n) else cs.drop n
    | none, [] => []
    | none, c :: rest => c :: replaceFrom signs replacement all fuel rest

/-- A text with matches of a pattern replaced. -/
def replaceMatches (extent : Extent) (pattern : Marked) (replacement text : List Char) :
    List Char :=
  let signs := signs pattern
  if pattern.isEmpty then text
  else
    match extent with
    | .first => replaceFrom signs replacement false (text.length + 1) text
    | .all => replaceFrom signs replacement true (text.length + 1) text
    | .front =>
      match longestMatch? signs text with
      | some n => replacement ++ text.drop n
      | none => text
    | .back =>
      match (List.range (text.length + 1)).find? fun n => Text.signsMatch signs (text.drop n) with
      | some n => text.take n ++ replacement
      | none => text

/-! ### Names of files -/

/-- The path in an argument. -/
def pathOf (cs : List Char) : Path := ⟨Octets.toText cs⟩

/-- The names in a directory that a pattern matches. A name that starts with a dot is matched only by
a pattern that does. -/
def namesMatching (s : Storage) (directory : List Char) (pattern : Marked) : List (List Char) :=
  let path := if directory.isEmpty then ['.'] else directory
  match s.entries (pathOf path) with
  | .error _ => []
  | .ok entries =>
    let signs := signs pattern
    let names := (entries.map fun e => Octets.ofText e.1) ++
      if pattern.head?.any (·.1 = '.') then [['.'], ['.', '.']] else []
    names.filter fun name =>
      (name.head? != some '.' || pattern.head?.any (·.1 = '.')) && Text.signsMatch signs name

/-- The files whose paths go on from a start as the parts of a pattern say. -/
def filesFrom (s : Storage) : List Char → List Marked → List (List Char)
  | start, [] => if (s.node? false (pathOf start)).toOption.isSome then [start] else []
  | start, part :: rest =>
    let slash := if rest.isEmpty then [] else ['/']
    if part.any isWild then
      (namesMatching s start part).flatMap fun name => filesFrom s (start ++ name ++ slash) rest
    else filesFrom s (start ++ unmarked part ++ slash) rest

/-- The parts of a pattern between slashes. -/
def pathParts (m : Marked) : List Marked :=
  m.foldr (fun c parts =>
    match parts with
    | [] => if c.1 = '/' then [[], []] else [[c]]
    | p :: ps => if c.1 = '/' then [] :: p :: ps else (c :: p) :: ps) []

/-- The files that a pattern stands for, in order; none when it has no sign of a pattern or matches
nothing. -/
def filesMatching (s : Storage) (pattern : Marked) : List (List Char) :=
  if pattern.any isWild then
    Sorting.sort (fun a b => decide (String.ofList a ≤ String.ofList b)) (filesFrom s [] (pathParts pattern))
  else []

end FirmwareSurvey.Shell

/-!
## Conditions

A condition asks about texts, numbers and files. Its words are taken apart from left to right: signs
that turn a condition around, that ask for two conditions or for one of them, and parentheses. With
few words their number decides what a word is: a word that looks like a sign may be a text.

The two manners of shells agree on what a condition means; they differ in which words they take for
signs, and in how they complain.
-/

namespace FirmwareSurvey.Shell

/-- What a condition may ask about. -/
structure Facts where
  /-- The storage. -/
  storage : Storage
  /-- Whether a name has a value. -/
  isNamed : List Char → Bool
  /-- Whether an option is set. -/
  isSet : List Char → Bool

/-- Why a condition cannot be answered. -/
inductive TestError where
  /-- The bracket that closes it is missing. -/
  | unclosed
  /-- A number is expected. -/
  | noNumber (word : List Char)
  /-- The condition should end here. -/
  | unexpected (word : List Char)
  /-- Something should follow. -/
  | noArgument (word : List Char)
  /-- A parenthesis should close here. -/
  | noParenthesis (found : List Char)
  /-- A question about one word is expected. -/
  | noQuestion (word : List Char)
  /-- A question about two words is expected. -/
  | noComparison (word : List Char)
  /-- There are words left over. -/
  | tooMany
deriving DecidableEq

/-- The wording of why a condition cannot be answered. -/
def TestError.text (dialect : Dialect) : TestError → String
  | .unclosed => match dialect with
    | .plain => "missing ]"
    | .extended => "missing \x60]'"
  | .noNumber w => match dialect with
    | .plain => s!"Illegal number: {String.ofList w}"
    | .extended => s!"{String.ofList w}: integer expression expected"
  | .unexpected w => s!"{String.ofList w}: unexpected operator"
  | .noArgument w => match dialect with
    | .plain => s!"{String.ofList w}: argument expected"
    | .extended => "argument expected"
  | .noParenthesis found => match dialect with
    | .plain => "closing paren expected"
    | .extended =>
      if found.isEmpty then "\x60)' expected" else s!"\x60)' expected, found {String.ofList found}"
  | .noQuestion w => s!"{String.ofList w}: unary operator expected"
  | .noComparison w => s!"{String.ofList w}: binary operator expected"
  | .tooMany => "too many arguments"

/-! ### Questions about files -/

/-- The names that the system gives to channels and to nothing. -/
def deviceNames : List String :=
  ["/dev/null", "/dev/zero", "/dev/stdin", "/dev/stdout", "/dev/stderr", "/dev/tty"]

/-- Whether a path names a channel or nothing. -/
def isDevice (cs : List Char) : Bool := deviceNames.contains (String.ofList cs)

/-- Whether a path leads to anything. -/
def isThere (s : Storage) (cs : List Char) : Bool :=
  isDevice cs || (s.node? true (pathOf cs)).toOption.isSome

/-- The permission bits of what a path leads to. -/
def modeOf (s : Storage) (cs : List Char) : Nat :=
  match s.node? true (pathOf cs) with
  | .ok (.file _ mode) => mode
  | .ok (.directory mode) => mode
  | _ => 0

/-- Whether a path leads to a file that may be started, or to a directory that may be entered. -/
def mayStart (s : Storage) (cs : List Char) : Bool := modeOf s cs &&& 0o111 != 0

/-- Whether a path is a link itself. -/
def isLink (s : Storage) (cs : List Char) : Bool :=
  match s.node? false (pathOf cs) with
  | .ok (.link _) => true
  | _ => false

/-- Whether the file at a path is not empty. -/
def hasSize (s : Storage) (cs : List Char) : Bool :=
  match s.size? (pathOf cs) with
  | .ok n => n != 0
  | .error _ => false

/-- Whether two paths lead to the same thing. -/
def areSame (s : Storage) (a b : List Char) : Bool :=
  match s.resolve true (pathOf a), s.resolve true (pathOf b) with
  | .ok (.node l _), .ok (.node m _) => l == m
  | _, _ => false

/-! ### Questions -/

/-- The questions about one word, by the letter behind their dash. -/
def unaryLetters : Dialect → List Char
  | .plain => "rwxefdcbpugkstznhOGLS".toList
  | .extended => "rwxefdcbpugkstznhOGLSavoNR".toList

/-- Whether a word asks about the next one. -/
def isUnary (dialect : Dialect) : List Char → Bool
  | ['-', c] => (unaryLetters dialect).contains c
  | _ => false

/-- Whether a word asks about the words around it. -/
def isBinary (dialect : Dialect) (w : List Char) : Bool :=
  ["=", "!=", "<", ">", "-eq", "-ne", "-gt", "-ge", "-lt", "-le", "-nt", "-ot", "-ef"].contains
    (String.ofList w) || (dialect = .extended && w = ['=', '='])

/-- Whether a word is the letter of a question about one. -/
def answerOne (f : Facts) (question : List Char) (w : List Char) : Bool :=
  match question.getLast?.getD ' ' with
  | 'n' => !w.isEmpty
  | 'z' => w.isEmpty
  | 'f' => f.storage.isFile (pathOf w)
  | 'd' => f.storage.isDirectory (pathOf w)
  | 's' => hasSize f.storage w
  | 'x' => mayStart f.storage w
  | 'L' => isLink f.storage w
  | 'h' => isLink f.storage w
  | 'u' => modeOf f.storage w &&& 0o4000 != 0
  | 'g' => modeOf f.storage w &&& 0o2000 != 0
  | 'k' => modeOf f.storage w &&& 0o1000 != 0
  | 'c' => isDevice w
  | 'v' => f.isNamed w
  | 'o' => f.isSet w
  | 'b' => false
  | 'p' => false
  | 'S' => false
  | 't' => false
  | 'N' => false
  | 'R' => false
  | _ => isThere f.storage w

/-- A number in a condition. -/
def testNumber (w : List Char) : Except TestError Int :=
  match decimal? w with
  | some n =>
    if n < -signedLimit || signedLimit ≤ n then .error (.noNumber w) else .ok n
  | none => .error (.noNumber w)

/-- Compares two numbers, the first one read first. -/
def compareNumbers (holds : Int → Int → Bool) (a b : List Char) : Except TestError Bool := do
  let m ← testNumber a
  let n ← testNumber b
  return holds m n

/-- Answers a question about two words. -/
def answerTwo (f : Facts) (question a b : List Char) : Except TestError Bool :=
  match String.ofList question with
  | "=" => .ok (a == b)
  | "==" => .ok (a == b)
  | "!=" => .ok (a != b)
  | "<" => .ok (decide (String.ofList a < String.ofList b))
  | ">" => .ok (decide (String.ofList b < String.ofList a))
  | "-eq" => compareNumbers (· == ·) a b
  | "-ne" => compareNumbers (· != ·) a b
  | "-lt" => compareNumbers (fun m n => decide (m < n)) a b
  | "-le" => compareNumbers (fun m n => decide (m ≤ n)) a b
  | "-gt" => compareNumbers (fun m n => decide (n < m)) a b
  | "-ge" => compareNumbers (fun m n => decide (n ≤ m)) a b
  | "-ef" => .ok (areSame f.storage a b)
  | "-nt" => .ok (isThere f.storage a && !isThere f.storage b)
  | _ => .ok (!isThere f.storage a && isThere f.storage b)

/-! ### The plain manner

The words from the current one on are passed along; a part that was read leaves the words from its
last one on. -/

/-- What a word is to the plain manner. -/
inductive TestSign where
  /-- There is no word. -/
  | nothing
  /-- A text. -/
  | operand
  /-- A question about one word. -/
  | one
  /-- A question about two words. -/
  | two
  /-- Turns a condition around. -/
  | not
  /-- Asks for two conditions. -/
  | and
  /-- Asks for one of two conditions. -/
  | or
  /-- Opens a condition. -/
  | opens
  /-- Closes a condition. -/
  | closes
deriving DecidableEq

/-- What the first of some words is to the plain manner. -/
def testSign : List (List Char) → TestSign
  | [] => .nothing
  | w :: rest =>
    let isOperand := match rest with
      | [] => true
      | [_] => false
      | next :: _ => isBinary .plain next
    if isUnary .plain w then (if isOperand then .operand else .one)
    else if isBinary .plain w then .two
    else if w = ['!'] then .not
    else if w = ['-', 'a'] then .and
    else if w = ['-', 'o'] then .or
    else if w = ['('] then (if rest.isEmpty then .operand else .opens)
    else if w = [')'] then .closes
    else .operand

mutual

/-- A condition with alternatives. -/
def testEither (f : Facts) : Nat → TestSign → List (List Char) →
    Except TestError (Bool × List (List Char))
  | 0, _, ws => .ok (false, ws)
  | fuel + 1, sign, ws => do
    let (holds, ws) ← testBoth f fuel sign ws
    if testSign (ws.drop 1) = .or then
      let (more, ws) ← testEither f fuel (testSign (ws.drop 2)) (ws.drop 2)
      return (holds || more, ws)
    else return (holds, ws)
termination_by structural fuel => fuel

/-- A condition without alternatives. -/
def testBoth (f : Facts) : Nat → TestSign → List (List Char) →
    Except TestError (Bool × List (List Char))
  | 0, _, ws => .ok (false, ws)
  | fuel + 1, sign, ws => do
    let (holds, ws) ← testTurned f fuel sign ws
    if testSign (ws.drop 1) = .and then
      let (more, ws) ← testBoth f fuel (testSign (ws.drop 2)) (ws.drop 2)
      return (holds && more, ws)
    else return (holds, ws)
termination_by structural fuel => fuel

/-- A condition that may be turned around. -/
def testTurned (f : Facts) : Nat → TestSign → List (List Char) →
    Except TestError (Bool × List (List Char))
  | 0, _, ws => .ok (false, ws)
  | fuel + 1, sign, ws => do
    if sign = .not then
      let next := testSign (ws.drop 1)
      let (holds, ws) ← testTurned f fuel next (if next = .nothing then ws else ws.drop 1)
      return (!holds, ws)
    else testSingle f fuel sign ws
termination_by structural fuel => fuel

/-- A single question, or a condition in parentheses. -/
def testSingle (f : Facts) : Nat → TestSign → List (List Char) →
    Except TestError (Bool × List (List Char))
  | 0, _, ws => .ok (false, ws)
  | fuel + 1, sign, ws => do
    let w := ws.headD []
    match sign with
    | .nothing => return (false, ws)
    | .opens =>
      let inner := ws.drop 1
      if testSign inner = .closes then return (false, inner)
      let (holds, ws) ← testEither f fuel (testSign inner) inner
      if testSign (ws.drop 1) = .closes then return (holds, ws.drop 1)
      else throw (.noParenthesis ((ws.drop 1).headD []))
    | .one =>
      match ws.drop 1 with
      | [] => throw (.noArgument w)
      | a :: rest => return (answerOne f w a, a :: rest)
    | _ =>
      match testSign (ws.drop 1), ws.drop 1 with
      | .two, question :: behind =>
        match behind with
        | [] => throw (.noArgument question)
        | b :: rest => return (← answerTwo f question w b, b :: rest)
      | _, _ => return (!w.isEmpty, ws)
termination_by structural fuel => fuel

end

/-- Whether a condition holds in the plain manner. -/
def plainTest (f : Facts) : Nat → List (List Char) → Except TestError Bool
  | 0, _ => .ok false
  | fuel + 1, ws =>
    let whole (sign : TestSign) (ws : List (List Char)) : Except TestError Bool := do
      let (holds, ws) ← testEither f (8 * (ws.length + 2)) sign ws
      match ws with
      | w :: _ :: _ => throw (.unexpected w)
      | _ => return holds
    let isThree := ws.length = 3
    let isFour := ws.length = 4
    if ws.isEmpty then .ok false
    else if isThree && (ws[1]?.any (isBinary .plain)) then whole .operand ws
    else if (isThree || isFour) && ws.head? = some ['('] && ws.getLast? = some [')'] then
      let inner := (ws.drop 1).dropLast
      whole (testSign inner) inner
    else if (isThree || isFour) && ws.head? = some ['!'] then
      (plainTest f fuel (ws.drop 1)).map (!·)
    else whole (testSign ws) ws

/-! ### The extended manner -/

mutual

/-- A condition with alternatives, and the words behind it. -/
def chooseEither (f : Facts) : Nat → List (List Char) → Except TestError (Bool × List (List Char))
  | 0, ws => .ok (false, ws)
  | fuel + 1, ws => do
    let (holds, ws) ← chooseBoth f fuel ws
    if ws.head? = some ['-', 'o'] then
      let (more, ws) ← chooseEither f fuel (ws.drop 1)
      return (holds || more, ws)
    else return (holds, ws)
termination_by structural fuel => fuel

/-- A condition without alternatives, and the words behind it. -/
def chooseBoth (f : Facts) : Nat → List (List Char) → Except TestError (Bool × List (List Char))
  | 0, ws => .ok (false, ws)
  | fuel + 1, ws => do
    let (holds, ws) ← chooseSingle f fuel ws
    if ws.head? = some ['-', 'a'] then
      let (more, ws) ← chooseBoth f fuel (ws.drop 1)
      return (holds && more, ws)
    else return (holds, ws)
termination_by structural fuel => fuel

/-- A single question, and the words behind it. -/
def chooseSingle (f : Facts) : Nat → List (List Char) → Except TestError (Bool × List (List Char))
  | 0, ws => .ok (false, ws)
  | fuel + 1, ws => do
    match ws with
    | [] => throw (.noArgument [])
    | ['!'] :: rest =>
      let (holds, rest) ← chooseSingle f fuel rest
      return (!holds, rest)
    | ['('] :: rest =>
      let (holds, rest) ← chooseEither f fuel rest
      match rest with
      | [')'] :: rest => return (holds, rest)
      | found => throw (.noParenthesis (found.headD []))
    | a :: rest =>
      match rest with
      | question :: b :: after =>
        if isBinary .extended question then return (← answerTwo f question a b, after)
        else if isUnary .extended a then return (answerOne f a question, b :: after)
        else return (!a.isEmpty, rest)
      | [b] => if isUnary .extended a then return (answerOne f a b, []) else return (!a.isEmpty, rest)
      | [] => return (!a.isEmpty, [])
termination_by structural fuel => fuel

end

/-- Whether a condition of two words holds. -/
def extendedTwo (f : Facts) (a b : List Char) : Except TestError Bool :=
  if a = ['!'] then .ok b.isEmpty
  else if isUnary .extended a then .ok (answerOne f a b)
  else .error (.noQuestion a)

/-- Whether a condition of three words holds. -/
def extendedThree (f : Facts) (a b c : List Char) : Except TestError Bool :=
  if isBinary .extended b then answerTwo f b a c
  else if b = ['-', 'a'] then .ok (!a.isEmpty && !c.isEmpty)
  else if b = ['-', 'o'] then .ok (!a.isEmpty || !c.isEmpty)
  else if a = ['!'] then (extendedTwo f b c).map (!·)
  else if a = ['('] && c = [')'] then .ok (!b.isEmpty)
  else .error (.noComparison b)

/-- Whether a condition holds in the extended manner. -/
def extendedTest (f : Facts) (ws : List (List Char)) : Except TestError Bool :=
  let whole : Except TestError Bool := do
    let (holds, rest) ← chooseEither f (8 * (ws.length + 2)) ws
    if rest.isEmpty then return holds else throw .tooMany
  match ws with
  | [] => .ok false
  | [a] => .ok (!a.isEmpty)
  | [a, b] => extendedTwo f a b
  | [a, b, c] => extendedThree f a b c
  | [a, b, c, d] =>
    if a = ['!'] then (extendedThree f b c d).map (!·)
    else if a = ['('] && d = [')'] then extendedTwo f b c
    else whole
  | _ => whole

/-- Whether the condition of some words holds. -/
def holds (f : Facts) (dialect : Dialect) (ws : List (List Char)) : Except TestError Bool :=
  match dialect with
  | .plain => plainTest f 4 ws
  | .extended => extendedTest f ws

end FirmwareSurvey.Shell
