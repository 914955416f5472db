import FirmwareSurvey.ResultScript.Token

/-!
# Reading a result script

A script is read from its tokens by recursive descent; every step counts against a number that the
number of tokens bounds. Expressions are read from the loosest sign to the tightest one. A statement
ends with its line or at a semicolon; the statements that belong to it are indented, or follow on the
same line.
-/

namespace FirmwareSurvey.ResultScript

/-- Where a reader stands. -/
structure Cursor where
  /-- What is left to read. -/
  tokens : List Token
  /-- The span of the last token that was read. -/
  last : Span := {}
  /-- Whether the function that is read hands out values. -/
  hands : Bool := false
  /-- How many brackets are open. -/
  depth : Nat := 0
  /-- Whether it is only tried out what comes next. -/
  isTrial : Bool := false
  /-- Whether statements of a function are read. -/
  isInFunction : Bool := false
  /-- Whether statements of a loop are read. -/
  isInLoop : Bool := false
  /-- What is wrong with a script that can be read. -/
  later : Option Flaw := none

/-- A reader of a part of a script. -/
abbrev Reader (α : Type) := StateT Cursor (Except Flaw) α

namespace Reader

/-- The words with a meaning of their own. -/
def keywords : List String :=
  ["False", "None", "True", "and", "as", "assert", "async", "await", "break", "class", "continue",
    "def", "del", "elif", "else", "except", "finally", "for", "from", "global", "if", "import", "in",
    "is", "lambda", "nonlocal", "not", "or", "pass", "raise", "return", "try", "while", "with",
    "yield"]

/-- The next token. -/
def peek : Reader Token := return ((← get).tokens.head?).getD (.finish, {})

/-- The token behind the next one. -/
def peekSecond : Reader Token := return ((← get).tokens.drop 1 |>.head?).getD (.finish, {})

/-- How many brackets are open behind a token. -/
def depthBehind (depth : Nat) : Lexeme → Nat
  | .sign s =>
    if s == "(" || s == "[" || s == "\x7b" then depth + 1
    else if s == ")" || s == "]" || s == "\x7d" then depth - 1
    else depth
  | _ => depth

/-- Reads a token. -/
def next : Reader Token := do
  let t ← peek
  modify fun c => { c with
    tokens := c.tokens.drop 1, last := t.2, depth := depthBehind c.depth t.1 }
  return t

/-- Fails because of the next token, which has a defect of its own if no token can be read here. -/
def failHere {α : Type} (d : Defect) : Reader α := do
  let (l, span) ← peek
  match l with
  | .flawed flaw => throw flaw
  | .indent => throw ⟨if d = .misplaced then .indented else d, span, false⟩
  | .dedent => throw ⟨d, span, false⟩
  | .finish => throw ⟨d, span, false⟩
  | _ => throw ⟨d, span, true⟩

/-- Fails because something does not belong here. -/
def unexpected {α : Type} : Reader α := failHere .misplaced

/-- Fails because of a part of the script. -/
def fail {α : Type} (d : Defect) (span : Span) : Reader α := throw ⟨d, span, true⟩

/-- Remembers what is wrong with a script even when all of it can be read. -/
def note (d : Defect) (span : Span) : Reader Unit :=
  modify fun c => { c with later := c.later.or (some ⟨d, span, true⟩) }

/-- What a reader would read from here, and where it would stop; none when it fails, unless there is
no token to read. -/
def trial {α : Type} (r : Reader α) : Reader (Option (α × Cursor)) := fun c =>
  match r.run { c with isTrial := true } with
  | .ok (a, d) =>
    match d.tokens.head? with
    | some (.flawed flaw, _) => .error flaw
    | _ => .ok (some (a, d), c)
  | .error flaw => if flaw.defect.isOfTokens then .error flaw else .ok (none, c)

/-- Reads something inside of a function or a loop, or outside of them. -/
def inside {α : Type} (isInFunction isInLoop : Bool) (r : Reader α) : Reader α := do
  let c ← get
  set { c with isInFunction, isInLoop }
  let a ← r
  modify fun d => { d with isInFunction := c.isInFunction, isInLoop := c.isInLoop }
  return a

/-- Reads a token if it comes next. -/
def accept (l : Lexeme) : Reader Bool := do
  if (← peek).1 = l then
    let _ ← next
    return true
  else return false

/-- Reads a sign if it comes next. -/
def acceptSign (s : String) : Reader Bool := accept (.sign s)

/-- Reads a word if it comes next. -/
def acceptWord (s : String) : Reader Bool := accept (.name s)

/-- Reads a token that has to come next. -/
def expect (l : Lexeme) : Reader Unit := do if ← accept l then return () else unexpected

/-- Reads a sign that has to come next. -/
def expectSign (s : String) : Reader Unit := expect (.sign s)

/-- Whether a sign comes next. -/
def seesSign (s : String) : Reader Bool := return (← peek).1 = .sign s

/-- Whether a word comes next. -/
def seesWord (s : String) : Reader Bool := return (← peek).1 = .name s

/-- Reads a name. -/
def identifier : Reader String := do
  match ← peek with
  | (.name s, _) =>
    if keywords.contains s then unexpected
    else
      let _ ← next
      return s
  | _ => unexpected

/-- The span from the start of another one to the last token. -/
def spanFrom (start : Span) : Reader Span := do
  let last := (← get).last
  return ⟨start.line, start.column, last.endLine, last.endColumn⟩

/-- A span with the brackets next to it on either side. -/
def around (span : Span) : Reader Span :=
  return ⟨span.line, span.column - 1, span.endLine, span.endColumn + 1⟩

/-- What an expression is called that cannot be given a value. -/
def sortOf : Expr → String
  | .literal .nothing => "None"
  | .literal (.truth true) => "True"
  | .literal (.truth false) => "False"
  | .literal .dots => "ellipsis"
  | .literal _ => "literal"
  | .name _ _ => "name"
  | .joined _ _ => "f-string expression"
  | .list _ => "list"
  | .tuple _ => "tuple"
  | .set _ _ => "set display"
  | .table _ _ => "dict literal"
  | .spread _ => "starred"
  | .compare _ _ _ => "comparison"
  | .choice _ _ _ => "conditional expression"
  | .call _ _ _ => "function call"
  | .item _ _ _ _ => "subscript"
  | .member _ _ _ => "attribute"
  | .function _ _ => "lambda"
  | .gather _ .list _ _ _ => "list comprehension"
  | .gather _ .set _ _ _ => "set comprehension"
  | .gather _ .table _ _ _ => "dict comprehension"
  | .gather _ .row _ _ _ => "generator expression"
  | .named _ _ => "named expression"
  | .hands _ => "yield expression"
  | _ => "expression"

/-- Whether a single value can be given to an expression. -/
def isSingleTarget : Expr → Bool
  | .name _ _ => true
  | .item _ _ _ _ => true
  | .member _ _ _ => true
  | _ => false

/-- Whether values can be given to an expression. -/
def isTarget : Nat → Expr → Bool
  | 0, _ => true
  | fuel + 1, e =>
    match e with
    | .tuple items => items.all (isTarget fuel)
    | .list items => items.all (isTarget fuel)
    | .spread e => isTarget fuel e
    | e => isSingleTarget e

/-- Whether an expression, other than a name, that has no value as a target may be half of a
comparison. -/
def mayBeCompared : Expr → Bool
  | .literal .nothing => false
  | .literal (.truth _) => false
  | .list _ => false
  | .tuple _ => false
  | .gather _ .row _ _ _ => false
  | .compare _ _ _ => false
  | .both _ _ => false
  | .either _ _ => false
  | .not _ => false
  | .choice _ _ _ => false
  | .function _ _ => false
  | .named _ _ => false
  | .hands _ => false
  | .spread _ => false
  | _ => true

/-- The binary signs from the loosest to the tightest. -/
def binarySigns : List (List String) :=
  [["|"], ["^"], ["&"], ["<<", ">>"], ["+", "-"], ["*", "/", "//", "%", "@"]]

/-- Reads a sign of a comparison, if one comes next. -/
def comparisonSign? : Reader (Option String) := do
  match ← peek with
  | (.sign s, _) =>
    if ["==", "!=", "<", "<=", ">", ">="].contains s then
      let _ ← next
      return some s
    else return none
  | (.name "in", _) => do
    let _ ← next
    return some "in"
  | (.name "not", _) =>
    if (← peekSecond).1 = .name "in" then
      let _ ← next
      let _ ← next
      return some "not in"
    else return none
  | (.name "is", _) => do
    let _ ← next
    return some (if ← acceptWord "not" then "is not" else "is")
  | _ => return none

/-- Whether an expression starts here. -/
def startsExpression : Reader Bool := do
  match (← peek).1 with
  | .name s => return !keywords.contains s ||
      ["False", "None", "True", "lambda", "not", "yield", "await"].contains s
  | .sign s => return ["(", "[", "\x7b", "-", "+", "~", "*", "...", "**"].contains s
  | .number _ => return true
  | .real _ => return true
  | .text _ => return true
  | .octets _ => return true
  | .joined _ _ => return true
  | _ => return false

/-- The length of the expression of a field in a text: up to a brace, a mark or a colon outside of
brackets and quotes. -/
def fieldLength : Nat → Nat → List Char → Nat
  | 0, _, _ => 0
  | _ + 1, _, [] => 0
  | fuel + 1, depth, c :: cs =>
    if c = '\'' || c = '"' then
      match textLength? [c] (cs.length + 1) cs with
      | some n => 2 + n + fieldLength fuel depth (cs.drop (n + 1))
      | none => 1 + fieldLength fuel depth cs
    else if c = '(' || c = '[' || c = '\x7b' then 1 + fieldLength fuel (depth + 1) cs
    else if depth = 0 then
      if c = '\x7d' || c = ':' || (c = '!' && cs.head? != some '=') then 0
      else 1 + fieldLength fuel depth cs
    else if c = ')' || c = ']' || c = '\x7d' then 1 + fieldLength fuel (depth - 1) cs
    else 1 + fieldLength fuel depth cs

/-- The length of the format of a field: up to the brace that closes the field. -/
def formatLength : Nat → Nat → List Char → Nat
  | 0, _, _ => 0
  | _ + 1, _, [] => 0
  | fuel + 1, depth, c :: cs =>
    if c = '\x7b' then 1 + formatLength fuel (depth + 1) cs
    else if c = '\x7d' then (if depth = 0 then 0 else 1 + formatLength fuel (depth - 1) cs)
    else 1 + formatLength fuel depth cs

/-- Whether a field shows its own expression, and the expression then. -/
def ownShown (cs : List Char) : Option (List Char) :=
  match (cs.reverse.dropWhile (· = ' ')) with
  | '=' :: c :: rest => if "=!<>".toList.contains c then none else some (c :: rest).reverse
  | _ => none

/-- The name of the value of a mark; no name of a script is like it. -/
def markName (n : Nat) : String := s!".{n}"

/-- A function or kind that has marks before it: the marks have their values first, and each one is
called with it. -/
def marked (name : String) (marks : List (Span × Expr)) (span : Span) (s : Statement) : Block :=
  let numbered := (List.range marks.length).zip marks
  let hidden (n : Nat) : Expr := .name span (markName n)
  numbered.map (fun (n, here, mark) => (here, .assign [(here, hidden n)] mark)) ++ (span, s) ::
    numbered.reverse.map fun (n, here, _) =>
      (here, .assign [(here, .name here name)]
        (.call here (hidden n) [.plain (.name here name)]))

/-- Reads the closing parenthesis behind arguments, which have to be in order. -/
def closeArguments (arguments : List (Span × Argument)) : Reader (List Argument) := do
  let isLate (isNamed : Argument → Bool) : Bool :=
    ((arguments.map (·.2)).dropWhile fun a => !isNamed a).any fun a => a matches .plain _
  if isLate fun a => a matches .spreadNamed _ then failHere (.lateArgument true)
  else if isLate fun a => a matches .named _ _ then failHere (.lateArgument false)
  else
    let names := arguments.filterMap fun a => match a.2 with
      | .named s _ => some (a.1, s)
      | _ => none
    for (i, span, s) in (List.range names.length).zip names do
      if (names.take i).any fun n => n.2 == s then note (.repeatedArgument s) span
    let _ ← next
    return arguments.map (·.2)

mutual

/-- Reads an expression, which may be given a name. -/
def expression : Nat → Reader Expr
  | 0 => unexpected
  | fuel + 1 => do
    match (← peek).1, (← peekSecond).1 with
    | .name s, .sign ":=" =>
      if keywords.contains s then unexpected
      else do
        let _ ← next
        let _ ← next
        return .named s (← test fuel)
    | _, _ => test fuel
termination_by structural fuel => fuel

/-- Reads an expression that may be one of two, or a function. -/
def test : Nat → Reader Expr
  | 0 => unexpected
  | fuel + 1 => do
    let (opening, start) ← peek
    let second := (← peekSecond).1
    if ← acceptWord "lambda" then
      let ps ← parameters ":" fuel
      expectSign ":"
      let e ← inside true false (test fuel)
      return .function ps e
    else
      let first ← either fuel
      if ← acceptWord "if" then
        let condition ← either fuel
        if ← acceptWord "else" then return .choice condition first (← test fuel)
        else if (← get).isTrial || (← seesSign ":") then unexpected
        else fail .noAlternative (← spanFrom start)
      else
        followed start opening second fuel
        return first
termination_by structural fuel => fuel

/-- Tells what is missing when an expression is followed by another one. -/
def followed (start : Span) (opening second : Lexeme) : Nat → Reader Unit
  | 0 => unexpected
  | fuel + 1 => do
    if (← get).isTrial || !(← startsExpression) then return ()
    else
      let isAlone := (← get).last = start
      let hidden : Bool := match opening, second with
        | .name _, .text _ => true
        | .name s, _ => ["match", "case", "_", "type"].contains s
        | _, _ => false
      match opening with
      | .name s =>
        if isAlone && (s == "print" || s == "exec") then
          match ← trial (starredTuple fuel) with
          | some (_, c) =>
            fail (.notCalled s) ⟨start.line, start.column, c.last.endLine, c.last.endColumn⟩
          | none => return ()
        else if hidden then return ()
        else neighbours start fuel
      | _ => neighbours start fuel
termination_by structural fuel => fuel

/-- Tells that a comma may be missing before an expression. -/
def neighbours (start : Span) : Nat → Reader Unit
  | 0 => unexpected
  | fuel + 1 => do
    match ← trial (test fuel) with
    | some (_, c) =>
      if c.depth = 0 then return ()
      else fail .missingComma ⟨start.line, start.column, c.last.endLine, c.last.endColumn⟩
    | none => return ()
termination_by structural fuel => fuel

/-- Tells that an equals sign behind an expression should be two. -/
def singleEquals (start : Span) (e : Expr) : Nat → Reader Unit
  | 0 => unexpected
  | fuel + 1 => do
    if (← get).isTrial || !(← seesSign "=") then return ()
    else
      let span ← spanFrom start
      let rest : Reader Bool := do
        let _ ← next
        let _ ← binary binarySigns fuel
        return !(← seesSign "=") && !(← seesSign ":=")
      match ← trial rest with
      | some (true, c) =>
        match e with
        | .name _ _ =>
          fail .singleEquals ⟨span.line, span.column, c.last.endLine, c.last.endColumn⟩
        | e => if mayBeCompared e then fail (.noTargetHere (sortOf e)) span else return ()
      | _ => return ()
termination_by structural fuel => fuel

/-- Reads an expression with alternatives. -/
def either : Nat → Reader Expr
  | 0 => unexpected
  | fuel + 1 => do
    let first ← both fuel
    if ← acceptWord "or" then return .either first (← either fuel) else return first
termination_by structural fuel => fuel

/-- Reads an expression without alternatives. -/
def both : Nat → Reader Expr
  | 0 => unexpected
  | fuel + 1 => do
    let first ← negation fuel
    if ← acceptWord "and" then return .both first (← both fuel) else return first
termination_by structural fuel => fuel

/-- Reads an expression that may be turned around. -/
def negation : Nat → Reader Expr
  | 0 => unexpected
  | fuel + 1 => do
    if ← acceptWord "not" then return .not (← negation fuel) else comparison fuel
termination_by structural fuel => fuel

/-- Reads comparisons in a row. -/
def comparison : Nat → Reader Expr
  | 0 => unexpected
  | fuel + 1 => do
    let start := (← peek).2
    let first ← binary binarySigns fuel
    match ← comparisons fuel with
    | [] => return first
    | rest => return .compare (← spanFrom start) first rest
termination_by structural fuel => fuel

/-- Reads the comparisons behind a first value. -/
def comparisons : Nat → Reader (List (String × Expr))
  | 0 => unexpected
  | fuel + 1 => do
    match ← comparisonSign? with
    | some s => do
      let e ← binary binarySigns fuel
      return (s, e) :: (← comparisons fuel)
    | none => return []
termination_by structural fuel => fuel

/-- Reads an expression with binary signs of some levels. -/
def binary (levels : List (List String)) : Nat → Reader Expr
  | 0 => unexpected
  | fuel + 1 => do
    match levels with
    | [] => unary fuel
    | signs :: tighter => do
      let start := (← peek).2
      let first ← binary tighter fuel
      binaryMore signs tighter start first fuel
termination_by structural fuel => fuel

/-- Reads what follows an expression at a level. -/
def binaryMore (signs : List String) (tighter : List (List String)) (start : Span) (first : Expr) :
    Nat → Reader Expr
  | 0 => unexpected
  | fuel + 1 => do
    match ← peek with
    | (.sign s, signSpan) =>
      if signs.contains s then
        let _ ← next
        let second ← binary tighter fuel
        let e : Expr := .binary (← spanFrom start) signSpan s first second
        binaryMore signs tighter start e fuel
      else return first
    | _ => return first
termination_by structural fuel => fuel

/-- Reads an expression that may have a sign before it. -/
def unary : Nat → Reader Expr
  | 0 => unexpected
  | fuel + 1 => do
    match ← peek with
    | (.sign s, start) =>
      if s == "-" || s == "+" || s == "~" then
        let _ ← next
        let e ← unary fuel
        return .unary (← spanFrom start) s e
      else power fuel
    | _ => power fuel
termination_by structural fuel => fuel

/-- Reads an expression that may be raised to a power. -/
def power : Nat → Reader Expr
  | 0 => unexpected
  | fuel + 1 => do
    let start := (← peek).2
    let base ← primary fuel
    match ← peek with
    | (.sign "**", signSpan) => do
      let _ ← next
      let e ← unary fuel
      return .binary (← spanFrom start) signSpan "**" base e
    | _ => return base
termination_by structural fuel => fuel

/-- Reads an operand with all that is asked of it. -/
def primary : Nat → Reader Expr
  | 0 => unexpected
  | fuel + 1 => do
    let start := (← peek).2
    let e ← operand fuel
    asked start e fuel
termination_by structural fuel => fuel

/-- Reads what is asked of an operand. -/
def asked (start : Span) (e : Expr) : Nat → Reader Expr
  | 0 => unexpected
  | fuel + 1 => do
    match ← peek with
    | (.sign ".", _) => do
      let _ ← next
      let name ← identifier
      asked start (.member (← spanFrom start) e name) fuel
    | (.sign "(", _) => do
      let _ ← next
      let as ← arguments [] fuel
      asked start (.call (← spanFrom start) e as) fuel
    | (.sign "[", bracket) => do
      let _ ← next
      let place ← places fuel
      expectSign "]"
      asked start (.item (← spanFrom start) (← spanFrom bracket) e place) fuel
    | _ => return e
termination_by structural fuel => fuel

/-- Reads the places between brackets. -/
def places : Nat → Reader Expr
  | 0 => unexpected
  | fuel + 1 => do
    let first ← onePlace fuel
    if ← seesSign "," then
      return .tuple (first :: (← morePlaces fuel))
    else return first
termination_by structural fuel => fuel

/-- Reads the places behind a comma. -/
def morePlaces : Nat → Reader (List Expr)
  | 0 => unexpected
  | fuel + 1 => do
    if ← acceptSign "," then
      if ← seesSign "]" then return []
      else
        let p ← onePlace fuel
        return p :: (← morePlaces fuel)
    else return []
termination_by structural fuel => fuel

/-- Reads one place, or a range of them. -/
def onePlace : Nat → Reader Expr
  | 0 => unexpected
  | fuel + 1 => do
    let bound : Reader (Option Expr) := do
      if (← seesSign ":") || (← seesSign "]") || (← seesSign ",") then return none
      else return some (← test fuel)
    if ← seesSign "*" then
      let _ ← next
      return .spread (← binary binarySigns fuel)
    else
      let start ← if ← seesSign ":" then pure none else pure (some (← expression fuel))
      if ← acceptSign ":" then
        let stop ← bound
        let step ← if ← acceptSign ":" then bound else pure none
        return .slice start stop step
      else
        match start with
        | some e => return e
        | none => unexpected
termination_by structural fuel => fuel

/-- Reads arguments up to the closing parenthesis; `done` are those before, the last one first. -/
def arguments (done : List (Span × Argument)) : Nat → Reader (List Argument)
  | 0 => unexpected
  | fuel + 1 => do
    if ← seesSign ")" then closeArguments done.reverse
    else do
      let start := (← peek).2
      let a ← argument fuel
      let span ← spanFrom start
      let isRow := match a with
        | .plain (.gather row .row _ _ _) => row.column + 1 = start.column && row.line = start.line
        | _ => false
      if isRow && (!done.isEmpty || (← seesSign ",")) then fail .bareRow span
      if ← acceptSign "," then arguments ((span, a) :: done) fuel
      else if ← seesSign ")" then closeArguments ((span, a) :: done).reverse
      else unexpected
termination_by structural fuel => fuel

/-- Reads an argument. -/
def argument : Nat → Reader Argument
  | 0 => unexpected
  | fuel + 1 => do
    if ← acceptSign "**" then return .spreadNamed (← test fuel)
    else if ← acceptSign "*" then return .spread (← test fuel)
    else
      let start := (← peek).2
      match (← peek).1, (← peekSecond).1 with
      | .name s, .sign "=" => do
        let _ ← next
        let _ ← next
        if ["None", "True", "False"].contains s then
          fail (.noTarget "assign to" s) (← spanFrom start)
        else if keywords.contains s then fail .misplaced start
        else return .named s (← test fuel)
      | _, _ => do
        let e ← expression fuel
        if ← seesWord "for" then
          let cs ← clauses fuel
          return .plain (.gather (← around (← spanFrom start)) .row e none cs)
        else if (← seesSign "=") && !(← get).isTrial then
          let _ ← next
          fail .equalsInArgument (← spanFrom start)
        else return .plain e
termination_by structural fuel => fuel

/-- Reads the clauses that values are gathered by. -/
def clauses : Nat → Reader (List Clause)
  | 0 => unexpected
  | fuel + 1 => do
    if ← acceptWord "for" then
      let start := (← peek).2
      let target ← targets fuel
      let span ← spanFrom start
      expect (.name "in")
      let source ← either fuel
      return .each span target source :: (← clauses fuel)
    else if ← acceptWord "if" then
      let condition ← either fuel
      return .when condition :: (← clauses fuel)
    else return []
termination_by structural fuel => fuel

/-- Reads the targets of a loop. -/
def targets : Nat → Reader Expr
  | 0 => unexpected
  | fuel + 1 => do
    let first ← target fuel
    if ← seesSign "," then return .tuple (first :: (← moreTargets fuel)) else return first
termination_by structural fuel => fuel

/-- Reads the targets behind a comma. -/
def moreTargets : Nat → Reader (List Expr)
  | 0 => unexpected
  | fuel + 1 => do
    if ← acceptSign "," then
      if (← seesWord "in") || (← seesSign "=") then return []
      else
        let t ← target fuel
        return t :: (← moreTargets fuel)
    else return []
termination_by structural fuel => fuel

/-- Reads one target. -/
def target : Nat → Reader Expr
  | 0 => unexpected
  | fuel + 1 => do
    if ← acceptSign "*" then return .spread (← binary binarySigns fuel)
    else binary binarySigns fuel
termination_by structural fuel => fuel

/-- Reads an operand. -/
def operand : Nat → Reader Expr
  | 0 => unexpected
  | fuel + 1 => do
    let (lexeme, start) ← peek
    match lexeme with
    | .number n => do
      let _ ← next
      return .literal (.number n)
    | .real x => do
      let _ ← next
      return .literal (.real x)
    | .octets bytes => do
      let _ ← next
      return .literal (.octets bytes)
    | .text _ => texts [] start fuel
    | .joined _ _ => texts [] start fuel
    | .name "True" => do
      let _ ← next
      return .literal (.truth true)
    | .name "False" => do
      let _ ← next
      return .literal (.truth false)
    | .name "None" => do
      let _ ← next
      return .literal .nothing
    | .name _ => do
      let name ← identifier
      return .name start name
    | .sign "..." => do
      let _ ← next
      return .literal .dots
    | .sign "(" => do
      let _ ← next
      if ← acceptSign ")" then return .tuple []
      else if ← seesWord "yield" then
        let e ← handing fuel
        expectSign ")"
        return e
      else
        let first ← starred fuel
        if ← seesWord "for" then
          let cs ← clauses fuel
          expectSign ")"
          return .gather (← spanFrom start) .row first none cs
        else if ← acceptSign "," then
          return .tuple (first :: (← items ")" fuel))
        else
          expectSign ")"
          return first
    | .sign "[" => do
      let _ ← next
      if ← acceptSign "]" then return .list []
      else
        let first ← starred fuel
        if ← seesWord "for" then
          let cs ← clauses fuel
          expectSign "]"
          return .gather (← spanFrom start) .list first none cs
        else if ← acceptSign "," then
          return .list (first :: (← items "]" fuel))
        else
          expectSign "]"
          return .list [first]
    | .sign "\x7b" => do
      let _ ← next
      braced start fuel
    | _ => unexpected
termination_by structural fuel => fuel

/-- Reads an expression, or all items of one. -/
def starred : Nat → Reader Expr
  | 0 => unexpected
  | fuel + 1 => do
    if ← acceptSign "*" then return .spread (← binary binarySigns fuel)
    else
      let (opening, start) ← peek
      if (← get).depth = 0 && (← peekSecond).1 = .sign ":=" && opening matches .name _ then
        let _ ← next
        unexpected
      else
        let e ← expression fuel
        if 0 < (← get).depth then singleEquals start e fuel
        return e
termination_by structural fuel => fuel

/-- Reads items with commas between them up to a closing bracket. -/
def items (close : String) : Nat → Reader (List Expr)
  | 0 => unexpected
  | fuel + 1 => do
    if ← acceptSign close then return []
    else do
      let e ← starred fuel
      if ← acceptSign "," then return e :: (← items close fuel)
      else do
        expectSign close
        return [e]
termination_by structural fuel => fuel

/-- Reads a set or a table behind its opening brace. -/
def braced (start : Span) : Nat → Reader Expr
  | 0 => unexpected
  | fuel + 1 => do
    if ← acceptSign "\x7d" then return .table start []
    else if ← acceptSign "**" then
      let e ← binary binarySigns fuel
      let more ← if ← acceptSign "," then members fuel else do
        expectSign "\x7d"
        pure []
      return .table (← spanFrom start) ((none, e) :: more)
    else
      let first ← starred fuel
      if ← acceptSign ":" then
        let value ← memberValue fuel
        if ← seesWord "for" then
          let cs ← clauses fuel
          expectSign "\x7d"
          return .gather (← spanFrom start) .table first (some value) cs
        else
          let more ← if ← acceptSign "," then members fuel else do
            expectSign "\x7d"
            pure []
          return .table (← spanFrom start) ((some first, value) :: more)
      else if ← seesWord "for" then
        let cs ← clauses fuel
        expectSign "\x7d"
        return .gather (← spanFrom start) .set first none cs
      else if ← acceptSign "," then
        let more ← items "\x7d" fuel
        return .set (← spanFrom start) (first :: more)
      else
        expectSign "\x7d"
        return .set (← spanFrom start) [first]
termination_by structural fuel => fuel

/-- Reads the value of a member behind its colon. -/
def memberValue : Nat → Reader Expr
  | 0 => unexpected
  | fuel + 1 => do
    let colon := (← get).last
    if (← seesSign ",") || (← seesSign "\x7d") then fail (.halfMember true) colon
    else test fuel
termination_by structural fuel => fuel

/-- Reads members of a table up to the closing brace. -/
def members : Nat → Reader (List (Option Expr × Expr))
  | 0 => unexpected
  | fuel + 1 => do
    if ← acceptSign "\x7d" then return []
    else do
      let m : Option Expr × Expr ← if ← acceptSign "**" then do
          pure (none, ← binary binarySigns fuel)
        else do
          let isTrial := (← get).isTrial
          modify fun c => { c with isTrial := true }
          let k ← test fuel
          modify fun c => { c with isTrial }
          let stop := (← get).last
          if (← seesSign ":") || isTrial then
            expectSign ":"
            pure (some k, ← memberValue fuel)
          else
            if (← peek).1 matches .flawed _ then unexpected
            fail (.halfMember false)
              ⟨stop.endLine, stop.endColumn - 1, stop.endLine, stop.endColumn⟩
      if ← acceptSign "," then return m :: (← members fuel)
      else do
        expectSign "\x7d"
        return [m]
termination_by structural fuel => fuel

/-- Reads texts that stand next to each other. -/
def texts (parts : List Part) (start : Span) : Nat → Reader Expr
  | 0 => unexpected
  | fuel + 1 => do
    match ← peek with
    | (.text cs, _) => do
      let _ ← next
      texts (parts ++ [.text cs]) start fuel
    | (.joined cs isRaw, span) => do
      let _ ← next
      -- what stands around the characters: letters and quotes before them, quotes behind them
      let around := span.endColumn - span.column - cs.length
      let letters := if around % 2 = 1 then 1 else 2
      let column := span.column + letters + (around - letters) / 2
      let more ← fields isRaw span.line column [] cs fuel
      texts (parts ++ [.text []] ++ more) start fuel
    | _ =>
      let isPlain := parts.all fun p => match p with
        | .text _ => true
        | _ => false
      if isPlain then
        return .literal (.text (parts.flatMap fun p => match p with
          | .text cs => cs
          | _ => []))
      else return .joined (← spanFrom start) parts
termination_by structural fuel => fuel

/-- Reads the parts of a text with values in it; `done` are the characters before, the last one
first. -/
def fields (isRaw : Bool) (line column : Nat) (done : List Char) (cs : List Char) :
    Nat → Reader (List Part)
  | 0 => unexpected
  | fuel + 1 => do
    let before : List Part :=
      let cs := done.reverse
      [.text (if isRaw then cs else unescaped false (cs.length + 1) cs)]
    match cs with
    | [] => return before
    | '\x7b' :: '\x7b' :: rest => fields isRaw line (column + 2) ('\x7b' :: done) rest fuel
    | '\x7d' :: '\x7d' :: rest => fields isRaw line (column + 2) ('\x7d' :: done) rest fuel
    | '\x7b' :: rest => do
      let n := fieldLength (rest.length + 1) 0 rest
      let source := rest.take n
      let (source, label) := match ownShown source with
        | some inner => (inner, source)
        | none => (source, [])
      let after := rest.drop n
      let (turn, after) := match after with
        | '!' :: c :: more => (some c, more)
        | more => (none, more)
      let (format, after) := match after with
        | ':' :: more =>
          let m := formatLength (more.length + 1) 0 more
          (some (more.take m), more.drop m)
        | more => (none, more)
      let point (i : Nat) : Span := ⟨line, column + i, line, column + i + 1⟩
      if after.isEmpty && turn != some '\x7d' then
        let more := if format.isSome then ", or format specs" else ""
        fail (.badField ("expecting '\x7d'" ++ more)) (point cs.length)
      if source.all fun c => c = ' ' then
        let sign := after.headD '!'
        fail (.badField s!"valid expression required before '{sign}'") (point (n + 1))
      match turn with
      | some c =>
        if c = '\x7d' then fail (.badField "missing conversion character") (point (n + 2))
        else if !(['s', 'r', 'a'].contains c) then
          fail (.badField s!"invalid conversion character '{c}': expected 's', 'r', or 'a'")
            (point (n + 2))
      | none => pure ()
      match after with
      | '\x7d' :: after => do
        let here ← get
        let tokens := innerTokens source line (column + 1)
        set { here with tokens, depth := here.depth + 1 }
        let e ← fieldValue tokens fuel
        let _ ← accept .lineEnd
        if (← peek).1 != .finish then unexpected
        set here
        let spec ← match format with
          | some cs => fields isRaw line (column + 1 + n) [] cs fuel
          | none => pure []
        let turn := if label.isEmpty then turn
          else if turn.isNone && format.isNone then some 'r' else turn
        let width := (cs.length - after.length)
        let shown : List Part := if label.isEmpty then [] else [.text label]
        let more ← fields isRaw line (column + width) [] after fuel
        let span : Span := ⟨line, column, line, column + width⟩
        return before ++ shown ++ .value span e turn spec :: more
      | _ => fail (.badField "expecting '\x7d'") (point (cs.length))
    | '\x7d' :: _ =>
      fail (.badField "single '\x7d' is not allowed") ⟨line, column, line, column + 1⟩
    | c :: rest =>
      if c = '\\' then
        fields isRaw line (column + 2) ((rest.take 1) ++ c :: done) (rest.drop 1) fuel
      else fields isRaw line (column + 1) (c :: done) rest fuel
termination_by structural fuel => fuel

/-- Reads the expression of a field, which consists of the tokens. -/
def fieldValue (tokens : List Token) : Nat → Reader Expr
  | 0 => unexpected
  | fuel + 1 => do
    match ((starredTuple fuel).run (← get)) with
    | .ok (e, c) => do
      set c
      return e
    | .error flaw =>
      if flaw.defect = .misplaced then
        let plain := tokens.filter fun t => t.1 != .finish
        let isFirst := plain.head?.any fun t => t.2 = flaw.span
        if isFirst then
          fail (.badField "expecting a valid expression after '\x7b'") flaw.span
        else
          let span := if flaw.isShown then flaw.span else (plain.getLast?.map (·.2)).getD flaw.span
          fail (.badField "expecting '=', or '!', or ':', or '\x7d'") span
      else throw flaw
termination_by structural fuel => fuel

/-- Reads an expression that hands out a value. -/
def handing : Nat → Reader Expr
  | 0 => unexpected
  | fuel + 1 => do
    let start := (← peek).2
    expect (.name "yield")
    modify fun c => { c with hands := true }
    let e : Option Expr ← if ← acceptWord "from" then do pure (some (.spread (← test fuel)))
      else if ← startsExpression then do pure (some (← starredTuple fuel))
      else pure none
    if !(← get).isInFunction then note (.outside "yield" "function") (← spanFrom start)
    return .hands e
termination_by structural fuel => fuel

/-- Reads an expression, or several with commas between them. -/
def starredTuple : Nat → Reader Expr
  | 0 => unexpected
  | fuel + 1 => do
    if ← seesWord "yield" then handing fuel
    else
      let first ← starred fuel
      if ← seesSign "," then return .tuple (first :: (← tupleMore fuel)) else return first
termination_by structural fuel => fuel

/-- Reads what follows an expression behind a comma. -/
def tupleMore : Nat → Reader (List Expr)
  | 0 => unexpected
  | fuel + 1 => do
    if ← acceptSign "," then
      if ← startsExpression then
        let e ← starred fuel
        return e :: (← tupleMore fuel)
      else return []
    else return []
termination_by structural fuel => fuel

/-- Reads parameters up to a sign, which is left. -/
def parameters (close : String) : Nat → Reader (List Parameter)
  | 0 => unexpected
  | fuel + 1 => parametersFrom close .plain false [] fuel
termination_by structural fuel => fuel

/-- Reads the parameters that are left; `known` are the names of those before, and `isFilled` tells
whether one of them has a value of its own. -/
def parametersFrom (close : String) (taking : Taking) (isFilled : Bool) (known : List String) :
    Nat → Reader (List Parameter)
  | 0 => unexpected
  | fuel + 1 => do
    let start := (← peek).2
    if ← seesSign close then return []
    else if taking = .otherNames then failHere .afterNames
    else if ← acceptSign "/" then
      if ← acceptSign "," then parametersFrom close taking isFilled known fuel
      else if ← seesSign close then return []
      else unexpected
    else
      let comment : Reader Unit := do
        if close == ")" then
          if ← acceptSign ":" then let _ ← test fuel
      let name : Reader String := do
        let here := (← peek).2
        let s ← identifier
        if known.contains s then note (.repeatedParameter s) here
        return s
      let more (taking : Taking) (isFilled : Bool) (s : String) : Reader (List Parameter) := do
        if ← acceptSign "," then parametersFrom close taking isFilled (s :: known) fuel
        else return []
      if ← acceptSign "**" then
        let s ← name
        comment
        return .mk s .otherNames none :: (← more .otherNames isFilled s)
      else if ← acceptSign "*" then
        if taking = .byName then fail .secondStar start
        else if ← acceptSign "," then
          if (← seesSign close) || (← seesSign "**") then fail .bareStar start
          else parametersFrom close .byName isFilled known fuel
        else if ← seesSign close then fail .bareStar start
        else
          let s ← name
          comment
          return .mk s .others none :: (← more .byName isFilled s)
      else
        let s ← name
        comment
        let default ← if ← acceptSign "=" then do pure (some (← test fuel)) else pure none
        if taking = .plain && isFilled && default.isNone then fail .lateParameter start
        return .mk s taking default :: (← more taking (isFilled || default.isSome) s)
termination_by structural fuel => fuel

end

/-! ### Statements -/

/-- The signs that change a target. -/
def changingSigns : List String :=
  ["+=", "-=", "*=", "/=", "//=", "%=", "**=", "&=", "|=", "^=", "<<=", ">>="]

/-- Reads a name with dots in it. -/
def dottedName : Nat → Reader String
  | 0 => unexpected
  | fuel + 1 => do
    let name ← identifier
    if ← acceptSign "." then return name ++ "." ++ (← dottedName fuel) else return name

/-- Reads the dots before the name of a module and counts them. -/
def leadingDots : Nat → Reader Nat
  | 0 => unexpected
  | fuel + 1 => do
    if ← acceptSign "." then return (← leadingDots fuel) + 1
    else if ← acceptSign "..." then return (← leadingDots fuel) + 3
    else return 0

/-- Reads names with commas between them, each of which may be known under another one. -/
def useNames (dotted : Bool) : Nat → Reader (List (String × String))
  | 0 => unexpected
  | fuel + 1 => do
    let name ← if dotted then dottedName fuel else identifier
    let known ← if ← acceptWord "as" then identifier
      else pure (if dotted then String.ofList (name.toList.takeWhile (· != '.')) else name)
    if ← acceptSign "," then
      if ← seesSign ")" then return [(name, known)]
      else if !dotted && (← peek).1 = .lineEnd then failHere .lastComma
      else return (name, known) :: (← useNames dotted fuel)
    else return [(name, known)]

/-- Reads plain names with commas between them. -/
def plainNames : Nat → Reader (List String)
  | 0 => unexpected
  | fuel + 1 => do
    let name ← identifier
    if ← acceptSign "," then return name :: (← plainNames fuel) else return [name]

/-- Reads a condition. -/
def condition (fuel : Nat) : Reader Expr := do
  let start := (← peek).2
  let e ← expression fuel
  singleEquals start e fuel
  return e

mutual

/-- The first part of what comes next that cannot be given a value; before the word that a loop goes
on with, if `isLoop` says so. -/
def badTarget? (isLoop : Bool) : Nat → Reader (Option (Span × Expr))
  | 0 => unexpected
  | fuel + 1 => do
    let start := (← peek).2
    let here ← get
    if ← acceptSign "*" then badTarget? isLoop fuel
    else
      let e ← if isLoop then binary binarySigns fuel else test fuel
      let after ← get
      if isSingleTarget e then return none
      else if e matches .tuple _ || e matches .list _ then
        set here
        let _ ← next
        let found ← badItem? isLoop fuel
        set after
        return found
      else return some (← spanFrom start, e)
termination_by structural fuel => fuel

/-- The first part of a row of targets that cannot be given a value. -/
def badItem? (isLoop : Bool) : Nat → Reader (Option (Span × Expr))
  | 0 => unexpected
  | fuel + 1 => do
    if !(← startsExpression) then return none
    else
      match ← badTarget? isLoop fuel with
      | some found => return some found
      | none => if ← acceptSign "," then badItem? isLoop fuel else return none
termination_by structural fuel => fuel

end

/-- Fails if something that was read from a place on cannot be given a value or be taken away. -/
def checkTarget (fuel : Nat) (deed : String) (isLoop : Bool) (place : Cursor) (e : Expr) :
    Reader Unit := do
  if isTarget fuel e then return ()
  else
    set place
    match ← trial (badItem? isLoop fuel) with
    | some (some (span, e), _) => fail (.noTarget deed (sortOf e)) span
    | _ => unexpected

/-- Tells that the equals sign behind the last one in a row of expressions should be two. -/
def lastEquals (fuel : Nat) : Nat → Reader Unit
  | 0 => unexpected
  | steps + 1 => do
    let start := (← peek).2
    let e ← starred fuel
    if ← acceptSign "," then
      if ← startsExpression then lastEquals fuel steps else return ()
    else singleEquals start e fuel

/-- Reads the values behind equals signs. The statement starts at `place`. -/
def assigned (fuel : Nat) (place : Cursor) : Nat → List (Span × Expr) → Reader Statement
  | 0, _ => unexpected
  | steps + 1, done => do
    let here ← get
    let start := (← peek).2
    let e ← starredTuple fuel
    let span ← spanFrom start
    if ← seesSign "=" then
      if !isTarget fuel e then
        set place
        lastEquals fuel fuel
        checkTarget fuel "assign to" false here e
      let _ ← next
      assigned fuel place steps ((span, e) :: done)
    else
      match done with
      | [] => return .eval e
      | _ => return .assign done.reverse e

/-- Reads targets that are taken away. -/
def deleted (fuel : Nat) : Nat → Reader (List (Span × Expr))
  | 0 => unexpected
  | steps + 1 => do
    let here ← get
    let start := (← peek).2
    let e ← target fuel
    let span ← spanFrom start
    checkTarget fuel "delete" true here e
    if ← acceptSign "," then
      if ← startsExpression then return (span, e) :: (← deleted fuel steps)
      else return [(span, e)]
    else return [(span, e)]

/-- Reads a statement that holds no others. -/
def smallStatement (fuel : Nat) : Reader Statement := do
  match (← peek).1 with
  | .name "pass" => do
    let _ ← next
    return .pass
  | .name "break" => do
    let _ ← next
    return .leave
  | .name "continue" => do
    let _ ← next
    return .goOn
  | .name "return" => do
    let _ ← next
    if ← startsExpression then return .return (some (← starredTuple fuel)) else return .return none
  | .name "raise" => do
    let _ ← next
    if ← startsExpression then
      let e ← test fuel
      if ← acceptWord "from" then return .fail (some e) (some (← test fuel))
      else return .fail (some e) none
    else return .fail none none
  | .name "global" => do
    let _ ← next
    return .outer true (← plainNames fuel)
  | .name "nonlocal" => do
    let _ ← next
    return .outer false (← plainNames fuel)
  | .name "del" => do
    let _ ← next
    return .delete (← deleted fuel fuel)
  | .name "assert" => do
    let _ ← next
    let start := (← peek).2
    let condition ← test fuel
    let span ← spanFrom start
    if ← acceptSign "," then return .claim span condition (some (← test fuel))
    else return .claim span condition none
  | .name "import" => do
    let _ ← next
    return .use (← useNames true fuel)
  | .name "from" => do
    let _ ← next
    let dots ← leadingDots fuel
    let module ← if 0 < dots && (← seesWord "import") then pure "" else dottedName fuel
    let module := String.ofList (List.replicate dots '.') ++ module
    expect (.name "import")
    if ← acceptSign "*" then return .useFrom module []
    else if ← acceptSign "(" then
      let names ← useNames false fuel
      expectSign ")"
      return .useFrom module names
    else return .useFrom module (← useNames false fuel)
  | _ => do
    let place ← get
    let start := (← peek).2
    let e ← starredTuple fuel
    let whole ← spanFrom start
    match ← peek with
    | (.sign "=", _) => do
      set place
      assigned fuel place fuel []
    | (.sign ":", _) => do
      if !isSingleTarget e then
        let annotated : Reader Unit := do
          let _ ← next
          let _ ← test fuel
        match e, ← trial annotated with
        | _, none => unexpected
        | .tuple _, _ => fail (.notNoted (some "tuple")) whole
        | .list _, _ => fail (.notNoted (some "list")) whole
        | _, _ => fail (.notNoted none) whole
      let _ ← next
      let _ ← test fuel
      if ← acceptSign "=" then return .assign [(whole, e)] (← starredTuple fuel) else return .pass
    | (.sign s, span) =>
      if changingSigns.contains s then
        if !isSingleTarget e then fail (.notChangeable (sortOf e)) whole
        let _ ← next
        return .change span e (String.ofList s.toList.dropLast) (← starredTuple fuel)
      else return .eval e
    | _ => return .eval e

/-- Remembers that a statement stands outside of what it belongs to. -/
def checkPlace (span : Span) (s : Statement) : Reader Unit := do
  let c ← get
  match s with
  | .return _ => if !c.isInFunction then note (.outside "return" "function") span
  | .leave => if !c.isInLoop then note (.outside "break" "loop") span
  | .goOn => if !c.isInLoop then note .outsideLoop span
  | .outer false _ => if !c.isInFunction then note .outermost span
  | _ => return ()

/-- Reads statements up to the end of a line. -/
def smallStatements (fuel : Nat) : Nat → Reader Block
  | 0 => unexpected
  | steps + 1 => do
    let start := (← peek).2
    let s ← smallStatement fuel
    let span ← spanFrom start
    checkPlace span s
    if ← acceptSign ";" then
      if ← accept .lineEnd then return [(span, s)]
      else return (span, s) :: (← smallStatements fuel steps)
    else
      expect .lineEnd
      return [(span, s)]

/-- Reads the marks before a function or a kind. -/
def marks : Nat → Reader (List (Span × Expr))
  | 0 => unexpected
  | fuel + 1 => do
    if ← acceptSign "@" then
      let start := (← peek).2
      let e ← expression fuel
      let span ← spanFrom start
      expect .lineEnd
      return (span, e) :: (← marks fuel)
    else return []

/-- Leaves the notes on what a function gives back behind. -/
def resultNote (fuel : Nat) : Reader Unit := do
  if ← acceptSign "->" then let _ ← test fuel

mutual

/-- Reads the statements that belong to one whose head, which starts in a line, was read; whether
it is told in any case that a colon is missing. -/
def body (head : String) (line : Nat) (isTold : Bool) : Nat → Reader Block
  | 0 => unexpected
  | fuel + 1 => do
    if !(← seesSign ":") && (isTold || (← peek).1 = .lineEnd) then failHere (.noSign ':')
    expectSign ":"
    if ← accept .lineEnd then
      if ← accept .indent then statements fuel
      else
        let (l, here) ← peek
        match l with
        | .dedent => failHere (.noBlock head line)
        | .finish => failHere (.noBlock head line)
        | _ => fail (.noBlock head line) here.point
    else smallStatements fuel fuel
termination_by structural fuel => fuel

/-- Reads statements up to the end of their indentation. -/
def statements : Nat → Reader Block
  | 0 => unexpected
  | fuel + 1 => do
    if ← accept .dedent then return []
    else if (← peek).1 = .finish then return []
    else do
      let first ← statement fuel
      return first ++ (← statements fuel)
termination_by structural fuel => fuel

/-- Reads the branches behind a condition's opening word, which stands in a line. -/
def branch (word : String) (line : Nat) : Nat → Reader Statement
  | 0 => unexpected
  | fuel + 1 => do
    let e ← condition fuel
    let yes ← body s!"'{word}' statement" line false fuel
    let start := (← peek).2
    if ← acceptWord "elif" then
      let inner ← branch "elif" start.line fuel
      return .branch e yes [(start, inner)]
    else return .branch e yes (← otherwise fuel)
termination_by structural fuel => fuel

/-- Reads the statements behind a loop or a branch, if there are any. -/
def otherwise : Nat → Reader Block
  | 0 => unexpected
  | fuel + 1 => do
    let start := (← peek).2
    if ← acceptWord "else" then body "'else' statement" start.line true fuel else return []
termination_by structural fuel => fuel

/-- Reads what is done about failures. -/
def handlers : Nat → Reader (List (Option Expr × Option String × Block))
  | 0 => unexpected
  | fuel + 1 => do
    let start := (← peek).2
    if ← acceptWord "except" then
      let here := (← peek).2
      let kind ← if ← seesSign ":" then pure none else do pure (some (← test fuel))
      if ← seesSign "," then
        match ← trial (tupleMore fuel) with
        | some (_, c) =>
          fail .bareKinds ⟨here.line, here.column, c.last.endLine, c.last.endColumn⟩
        | none => unexpected
      let name ← if ← acceptWord "as" then do pure (some (← identifier)) else pure none
      let done ← body "'except' statement" start.line false fuel
      if kind.isNone && (← seesWord "except") then
        note .earlyHandler ⟨start.line, start.column, start.line, start.endColumn + 1⟩
      return (kind, name, done) :: (← handlers fuel)
    else return []
termination_by structural fuel => fuel

/-- Reads the values that are used in statements. -/
def uses : Nat → Reader (List (Expr × Option Expr))
  | 0 => unexpected
  | fuel + 1 => do
    let e ← test fuel
    let name ← if ← acceptWord "as" then do
        let here ← get
        let t ← target fuel
        checkTarget fuel "assign to" true here t
        pure (some t)
      else pure none
    if ← acceptSign "," then return (e, name) :: (← uses fuel) else return [(e, name)]
termination_by structural fuel => fuel

/-- Reads a statement. -/
def statement : Nat → Reader Block
  | 0 => unexpected
  | fuel + 1 => do
    let start := (← peek).2
    let isInFunction := (← get).isInFunction
    match (← peek).1 with
    | .name "if" => do
      let _ ← next
      let s ← branch "if" start.line fuel
      return [(start, s)]
    | .name "while" => do
      let _ ← next
      let e ← condition fuel
      let done ← inside isInFunction true (body "'while' statement" start.line false fuel)
      return [(start, .loop e done (← otherwise fuel))]
    | .name "for" => do
      let _ ← next
      let place ← get
      let here := (← peek).2
      let t ← targets fuel
      let span ← spanFrom here
      if ← seesWord "in" then checkTarget fuel "assign to" true place t
      expect (.name "in")
      let source ← starredTuple fuel
      let done ← inside isInFunction true (body "'for' statement" start.line false fuel)
      return [(start, .each span t source done (← otherwise fuel))]
    | .name "try" => do
      let _ ← next
      let tried ← body "'try' statement" start.line true fuel
      if !(← seesWord "except") && !(← seesWord "finally") then failHere .noHandler
      let hs ← handlers fuel
      let fine ← otherwise fuel
      let here := (← peek).2
      let lastly ← if ← acceptWord "finally" then
          body "'finally' statement" here.line true fuel
        else pure []
      return [(start, .attempt tried hs fine lastly)]
    | .name "with" => do
      let _ ← next
      let used ← uses fuel
      return [(start, .within used (← body "'with' statement" start.line false fuel))]
    | .sign "@" => definition (← marks fuel) fuel
    | .name "def" => definition [] fuel
    | .name "class" => definition [] fuel
    | _ => smallStatements fuel fuel
termination_by structural fuel => fuel

/-- Reads a function or a kind of values. -/
def definition (ms : List (Span × Expr)) : Nat → Reader Block
  | 0 => unexpected
  | fuel + 1 => do
    let start := (← peek).2
    if ← acceptWord "def" then
      let name ← identifier
      if !(← acceptSign "(") then failHere (.noSign '(')
      let ps ← parameters ")" fuel
      expectSign ")"
      resultNote fuel
      let around := (← get).hands
      modify fun c => { c with hands := false }
      let done ← inside true false (body "function definition" start.line true fuel)
      let hands := (← get).hands
      modify fun c => { c with hands := around }
      return marked name ms start (.function name ps done hands)
    else if ← acceptWord "class" then
      let name ← identifier
      let bases ← if ← acceptSign "(" then do
          let as ← arguments [] fuel
          pure (as.filterMap fun a => match a with
            | .plain e => some e
            | _ => none)
        else pure []
      let done ← inside false false (body "class definition" start.line false fuel)
      return marked name ms (← spanFrom start) (.kind name bases done)
    else unexpected
termination_by structural fuel => fuel

end

end Reader

/-- A script that was read. -/
structure Source where
  /-- Its statements. -/
  block : Block
  /-- The characters that stand behind a backslash without need, and their lines. -/
  strange : List (Nat × Char)

/-- What a script consists of, or why it cannot be read. What is wrong with its tokens is told first,
unless the script only ends too early: then it has to go wrong behind the line where that starts. -/
def sourceOf (script : List Char) : Except Flaw Source := do
  let all := tokensOf script
  let tokens := all.filter fun t => !(t.1 matches .strangeEscape _)
  let strange := all.filterMap fun t => match t.1 with
    | .strangeEscape c => some (t.2.line, c)
    | _ => none
  let lastFlaw? : Option Flaw := match tokens.getLast? with
    | some (.flawed flaw, _) => some flaw
    | _ => none
  let fuel := 40 * (script.length + 4)
  let read : Reader Block := do
    let block ← Reader.statements fuel
    match (← Reader.peek).1 with
    | .finish => return block
    | _ => Reader.unexpected
  match read.run { tokens } with
  | .ok (block, c) =>
    match c.later with
    | some flaw => throw flaw
    | none => return ⟨block, strange.eraseDups⟩
  | .error flaw =>
    match lastFlaw? with
    | some last =>
      let isTold := last.defect.isPressing ||
        (last.defect matches .unclosed _ && last.span.line < max flaw.span.line flaw.span.endLine)
      throw (if isTold then last else flaw)
    | none => throw flaw

end FirmwareSurvey.ResultScript
