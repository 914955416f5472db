import FirmwareSurvey.Template.Expression
import FirmwareSurvey.Template.Token

/-!
# Reading a template

Operators bind in levels, from the loosest to the tightest: `or`, `and`, `not`, comparisons with
`in`, sums, `~`, products, powers. The operators of a level group to the left, but comparisons stand
in a row and hold all together. Tighter than all of them stand the minus sign, then what follows an
operand: members, items and calls, and after these filters and tests.

All functions take the tokens still to be read and answer with what they read and the tokens then
left. They are bounded by `fuel`; `ofText?` supplies enough of it for every row of tokens. What is
nested too deeply is refused: `room` counts how many statements, expressions and operands may still
be opened inside of each other.
-/

namespace FirmwareSurvey.Template

/-- Passes a token that has to be there. -/
def expect (t : Token) : List Token → Option (List Token)
  | u :: ts => if u = t then some ts else none
  | [] => none

/-- How many statements, expressions and operands may stand inside of each other. -/
def nestingRoom : Nat := 150

/-! ### Levels of operators -/

/-- How tightly an operator binds. -/
inductive Level where
  /-- The level of `or`. -/
  | disjunction
  /-- The level of `and`. -/
  | conjunction
  /-- The level of `not`. -/
  | negation
  /-- The level of comparisons. -/
  | comparison
  /-- The level of sums. -/
  | sum
  /-- The level of `~`. -/
  | concatenation
  /-- The level of products. -/
  | product
  /-- The level of powers. -/
  | power
  /-- The level of operands. -/
  | operand
deriving DecidableEq, Repr

/-- The next tighter level. -/
def Level.tighter : Level → Level
  | .disjunction => .conjunction
  | .conjunction => .negation
  | .negation => .comparison
  | .comparison => .sum
  | .sum => .concatenation
  | .concatenation => .product
  | .product => .power
  | .power => .operand
  | .operand => .operand

/-- The operator between two operands that a token writes at a level. -/
def Level.operator? : Level → Token → Option BinaryOp
  | .sum, .mark "+" => some .sum
  | .sum, .mark "-" => some .difference
  | .concatenation, .mark "~" => some .concatenation
  | .product, .mark "*" => some .product
  | .product, .mark "/" => some .quotient
  | .product, .mark "//" => some .wholeQuotient
  | .product, .mark "%" => some .remainder
  | .power, .mark "**" => some .power
  | _, _ => none

/-- How a level joins the operands around the next tokens, and the tokens after the operator. -/
def Level.joint? (l : Level) :
    List Token → Option ((Expression → Expression → Expression) × List Token)
  | .name "or" :: ts => if l = .disjunction then some (.either, ts) else none
  | .name "and" :: ts => if l = .conjunction then some (.both, ts) else none
  | t :: ts => (l.operator? t).map fun op => (.binary op, ts)
  | [] => none

/-- The comparison that the next tokens write, and the tokens after it. -/
def comparison? : List Token → Option (Comparison × List Token)
  | .mark "==" :: ts => some (.equal, ts)
  | .mark "!=" :: ts => some (.different, ts)
  | .mark "<" :: ts => some (.less, ts)
  | .mark "<=" :: ts => some (.atMost, ts)
  | .mark ">" :: ts => some (.greater, ts)
  | .mark ">=" :: ts => some (.atLeast, ts)
  | .name "in" :: ts => some (.element, ts)
  | .name "not" :: .name "in" :: ts => some (.noElement, ts)
  | _ => none

/-- The value of a name that is a literal. -/
def literalName? : String → Option Expression
  | "true" => some (.bool true)
  | "True" => some (.bool true)
  | "false" => some (.bool false)
  | "False" => some (.bool false)
  | "none" => some .nothing
  | "None" => some .nothing
  | _ => none

/-- Whether a token starts the one argument of a test that stands without parentheses. -/
def startsBareArgument : Token → Bool
  | .name n => n != "and" && n != "or" && n != "else" && n != "is"
  | .text _ => true
  | .int _ => true
  | .float _ => true
  | .mark m => m == "+" || m == "-" || m == "[" || m == "\x7b"
  | _ => false

/-- Texts that stand one behind another, as one text. -/
def joinTexts (read : String) : List Token → String × List Token
  | .text s :: ts => joinTexts (read ++ s) ts
  | ts => (read, ts)

/-- The arguments of a call: those without a name, and those with one. -/
abbrev Arguments := List Expression × List (String × Expression)

/-! ### Expressions -/

mutual

/-- Reads an expression. -/
def expression? : Nat → Nat → List Token → Option (Expression × List Token)
  | 0, _, _ => none
  | _, 0, _ => none
  | fuel + 1, room + 1, ts => do
    let (e, ts) ← level? fuel room .disjunction ts
    choices? fuel room e ts

/-- Reads the conditions behind a value. -/
def choices? : Nat → Nat → Expression → List Token → Option (Expression × List Token)
  | 0, _, _, _ => none
  | fuel + 1, room, yes, ts =>
    match ts with
    | .name "if" :: ts => do
      let (condition, ts) ← level? fuel room .disjunction ts
      match ts with
      | .name "else" :: ts => do
        let (no, ts) ← level? fuel room .disjunction ts
        let (no, ts) ← choices? fuel room no ts
        choices? fuel room (.choice condition yes (some no)) ts
      | ts => choices? fuel room (.choice condition yes none) ts
    | ts => some (yes, ts)

/-- Reads an expression of a level. -/
def level? : Nat → Nat → Level → List Token → Option (Expression × List Token)
  | 0, _, _, _ => none
  | fuel + 1, room, .operand, ts => do
    let (e, ts) ← signed? fuel room ts
    let (e, ts) ← selections? fuel room e ts
    filters? fuel room e ts
  | fuel + 1, room, .negation, ts =>
    match ts with
    | .name "not" :: ts => do
      let (e, ts) ← level? fuel room .negation ts
      some (.unary .negation e, ts)
    | ts => level? fuel room .comparison ts
  | fuel + 1, room, .comparison, ts => do
    let (e, ts) ← level? fuel room .sum ts
    let (rest, ts) ← comparisons? fuel room ts
    -- behind an operand, a lone word of negation belongs to nothing
    if ts.head? == some (.name "not") then none
    else some (if rest.isEmpty then e else .comparisons e rest, ts)
  | fuel + 1, room, l, ts => do
    let (e, ts) ← level? fuel room l.tighter ts
    operands? fuel room l e ts

/-- Reads the further operands of a level behind the first. -/
def operands? : Nat → Nat → Level → Expression → List Token → Option (Expression × List Token)
  | 0, _, _, _, _ => none
  | fuel + 1, room, l, left, ts =>
    match l.joint? ts with
    | some (joint, ts) => do
      let (right, ts) ← level? fuel room l.tighter ts
      operands? fuel room l (joint left right) ts
    | none => some (left, ts)

/-- Reads comparisons with the operand before. -/
def comparisons? : Nat → Nat → List Token →
    Option (List (Comparison × Expression) × List Token)
  | 0, _, _ => none
  | fuel + 1, room, ts =>
    match comparison? ts with
    | some (c, ts) => do
      let (e, ts) ← level? fuel room .sum ts
      let (rest, ts) ← comparisons? fuel room ts
      some ((c, e) :: rest, ts)
    | none => some ([], ts)

/-- Reads an operand with the signs before it. -/
def signed? : Nat → Nat → List Token → Option (Expression × List Token)
  | 0, _, _ => none
  | fuel + 1, room, ts =>
    match ts with
    | .mark "-" :: ts => do
      let (e, ts) ← signed? fuel room ts
      some (.unary .minus e, ts)
    | ts => primary? fuel room ts

/-- Reads an operand. -/
def primary? : Nat → Nat → List Token → Option (Expression × List Token)
  | 0, _, _ => none
  | _, 0, _ => none
  | fuel + 1, room + 1, ts =>
    match ts with
    | .name n :: ts => some ((literalName? n).getD (.name n), ts)
    | .text s :: ts =>
      let (s, ts) := joinTexts s ts
      some (.text s, ts)
    | .int n :: ts => some (.int n, ts)
    | .float x :: ts => some (.float x, ts)
    | .mark "(" :: .mark ")" :: ts => some (.list [], ts)
    | .mark "(" :: ts => do
      let (e, ts) ← expression? fuel room ts
      match ts with
      | .mark ")" :: ts => some (e, ts)
      | .mark "," :: ts => do
        let (es, ts) ← items? fuel room ")" ts
        some (.list (e :: es), ts)
      | _ => none
    | .mark "[" :: ts => do
      let (es, ts) ← items? fuel room "]" ts
      some (.list es, ts)
    | .mark "\x7b" :: ts => do
      let (ms, ts) ← members? fuel room ts
      some (.map ms, ts)
    | _ => none

/-- Reads expressions between commas up to a closing mark. -/
def items? : Nat → Nat → String → List Token → Option (List Expression × List Token)
  | 0, _, _, _ => none
  | fuel + 1, room, close, ts =>
    match expect (.mark close) ts with
    | some ts => some ([], ts)
    | none => do
      let (e, ts) ← expression? fuel room ts
      match expect (.mark close) ts with
      | some ts => some ([e], ts)
      | none => do
        let ts ← expect (.mark ",") ts
        let (es, ts) ← items? fuel room close ts
        some (e :: es, ts)

/-- Reads the members of a map up to its end. -/
def members? : Nat → Nat → List Token → Option ((List (Expression × Expression)) × List Token)
  | 0, _, _ => none
  | fuel + 1, room, ts =>
    match expect (.mark "\x7d") ts with
    | some ts => some ([], ts)
    | none => do
      let (k, ts) ← expression? fuel room ts
      let ts ← expect (.mark ":") ts
      let (v, ts) ← expression? fuel room ts
      match expect (.mark "\x7d") ts with
      | some ts => some ([(k, v)], ts)
      | none => do
        let ts ← expect (.mark ",") ts
        let (ms, ts) ← members? fuel room ts
        some ((k, v) :: ms, ts)

/-- Reads the arguments of a call up to its end: those without a name, then those with one. -/
def arguments? : Nat → Nat → List Token → Option (Arguments × List Token)
  | 0, _, _ => none
  | fuel + 1, room, ts =>
    match ts with
    | .mark ")" :: ts => some (([], []), ts)
    | .name n :: .mark "=" :: ts => do
      let (e, ts) ← level? fuel room .disjunction ts
      let ((es, named), ts) ← furtherArguments? fuel room ts
      if es.isEmpty then some (([], (n, e) :: named), ts) else none
    | ts => do
      let (e, ts) ← expression? fuel room ts
      let ((es, named), ts) ← furtherArguments? fuel room ts
      some ((e :: es, named), ts)

/-- Reads the arguments behind one. -/
def furtherArguments? : Nat → Nat → List Token → Option (Arguments × List Token)
  | 0, _, _ => none
  | fuel + 1, room, ts =>
    match ts with
    | .mark ")" :: ts => some (([], []), ts)
    | .mark "," :: ts => arguments? fuel room ts
    | _ => none

/-- Reads the arguments behind a name, if there are any. -/
def ownArguments? : Nat → Nat → List Token → Option (Arguments × List Token)
  | 0, _, _ => none
  | fuel + 1, room, ts =>
    match ts with
    | .mark "(" :: ts => arguments? fuel room ts
    | ts => some (([], []), ts)

/-- Reads a bound of a part, if there is one before the mark that ends it. -/
def bound? : Nat → Nat → List Token → Option (Option Expression × List Token)
  | 0, _, _ => none
  | fuel + 1, room, ts =>
    match ts with
    | .mark ":" :: _ => some (none, ts)
    | .mark "]" :: _ => some (none, ts)
    | ts => do
      let (e, ts) ← expression? fuel room ts
      some (some e, ts)

/-- Reads what stands between brackets behind an operand, and the closing bracket. -/
def subscript? : Nat → Nat → Expression → List Token → Option (Expression × List Token)
  | 0, _, _, _ => none
  | fuel + 1, room, e, ts => do
    let (start, ts) ← bound? fuel room ts
    match start, ts with
    | some i, .mark "]" :: ts => some (.item e i, ts)
    | start, .mark ":" :: ts => do
      let (stop, ts) ← bound? fuel room ts
      match ts with
      | .mark "]" :: ts => some (.part e start stop none, ts)
      | .mark ":" :: ts => do
        let (step, ts) ← bound? fuel room ts
        let ts ← expect (.mark "]") ts
        some (.part e start stop step, ts)
      | _ => none
    | _, _ => none

/-- Reads members, items and calls behind an operand. -/
def selections? : Nat → Nat → Expression → List Token → Option (Expression × List Token)
  | 0, _, _, _ => none
  | fuel + 1, room, e, ts =>
    match ts with
    | .mark "." :: .name n :: ts => selections? fuel room (.member e n) ts
    | .mark "." :: .int n :: ts => selections? fuel room (.item e (.int n)) ts
    | .mark "." :: _ => none
    | .mark "[" :: ts => do
      let (e, ts) ← subscript? fuel room e ts
      selections? fuel room e ts
    | .mark "(" :: ts => do
      let ((es, named), ts) ← arguments? fuel room ts
      selections? fuel room (.call e es named) ts
    | ts => some (e, ts)

/-- Reads filters and tests behind an operand. -/
def filters? : Nat → Nat → Expression → List Token → Option (Expression × List Token)
  | 0, _, _, _ => none
  | fuel + 1, room, e, ts =>
    match ts with
    | .mark "|" :: .name n :: ts => do
      let ((es, named), ts) ← ownArguments? fuel room ts
      filters? fuel room (.filter e n es named) ts
    | .mark "|" :: _ => none
    | .name "is" :: .name "not" :: ts => do
      let (e, ts) ← test? fuel room e ts
      filters? fuel room (.unary .negation e) ts
    | .name "is" :: ts => do
      let (e, ts) ← test? fuel room e ts
      filters? fuel room e ts
    | ts => some (e, ts)

/-- Reads the name of a test and its arguments. -/
def test? : Nat → Nat → Expression → List Token → Option (Expression × List Token)
  | 0, _, _, _ => none
  | fuel + 1, room, e, ts =>
    match ts with
    | .name n :: .mark "(" :: ts => do
      let ((es, named), ts) ← arguments? fuel room ts
      some (.test e n es named, ts)
    | .name n :: t :: ts =>
      if startsBareArgument t then do
        let (a, ts) ← signed? fuel room (t :: ts)
        let (a, ts) ← selections? fuel room a ts
        some (.test e n [a] [], ts)
      else some (.test e n [] [], t :: ts)
    | .name n :: [] => some (.test e n [] [], [])
    | _ => none

end

/-- Reads the expressions behind a comma, up to the end of a tag. -/
def furtherItems? (room : Nat) : Nat → List Token → Option (List Expression × List Token)
  | 0, _ => none
  | fuel + 1, ts =>
    match ts with
    | .closing _ :: _ => some ([], ts)
    | ts => do
      let (e, ts) ← expression? fuel room ts
      match ts with
      | .mark "," :: ts => do
        let (es, ts) ← furtherItems? room fuel ts
        some (e :: es, ts)
      | ts => some ([e], ts)

/-- Reads expressions between commas; one without a comma stands for itself, and several are a
list. -/
def sequence? (fuel room : Nat) (ts : List Token) : Option (Expression × List Token) := do
  let (e, ts) ← expression? fuel room ts
  match ts with
  | .mark "," :: ts => do
    let (es, ts) ← furtherItems? room fuel ts
    some (.list (e :: es), ts)
  | ts => some (e, ts)

/-- Reads filters between strokes. -/
def filterCalls? (room : Nat) : Nat → List Token → Option (List FilterCall × List Token)
  | 0, _ => none
  | fuel + 1, ts =>
    match ts with
    | .name n :: ts => do
      let ((es, named), ts) ← ownArguments? fuel room ts
      match ts with
      | .mark "|" :: ts => do
        let (more, ts) ← filterCalls? room fuel ts
        some (⟨n, es, named⟩ :: more, ts)
      | ts => some ([⟨n, es, named⟩], ts)
    | _ => none

/-! ### Statements -/

/-- Names that cannot be assigned to. -/
def reservedNames : List String :=
  ["true", "True", "false", "False", "none", "None", "loop", "self"]

/-- Whether a token ends a row of targets. -/
def endsTargets : Token → Bool
  | .mark m => m == ")" || m == "="
  | .name n => n == "in"
  | .closing _ => true
  | _ => false

mutual

/-- Reads one target. -/
def target? : Nat → List Token → Option (Target × List Token)
  | 0, _ => none
  | fuel + 1, ts =>
    match ts with
    | .mark "(" :: ts => do
      let (t, ts) ← targets? fuel ts
      let ts ← expect (.mark ")") ts
      some (t, ts)
    | .name n :: ts => if n ∈ reservedNames then none else some (.name n, ts)
    | _ => none

/-- Reads targets between commas; a single one without a comma stands for itself. -/
def targets? : Nat → List Token → Option (Target × List Token)
  | 0, _ => none
  | fuel + 1, ts =>
    if ts.head?.any endsTargets then some (.list [], ts)
    else do
      let (t, ts) ← target? fuel ts
      match ts with
      | .mark "," :: ts => do
        let (more, ts) ← furtherTargets? fuel ts
        some (.list (t :: more), ts)
      | ts => some (t, ts)

/-- Reads the targets behind a comma. -/
def furtherTargets? : Nat → List Token → Option (List Target × List Token)
  | 0, _ => none
  | fuel + 1, ts =>
    if ts.head?.any endsTargets then some ([], ts)
    else do
      let (t, ts) ← target? fuel ts
      match ts with
      | .mark "," :: ts => do
        let (more, ts) ← furtherTargets? fuel ts
        some (t :: more, ts)
      | ts => some ([t], ts)

end

/-- Passes the end of a statement's tag. -/
def endTag (ts : List Token) : Option (List Token) := expect (.closing .statement) ts

/-- Reads a condition of a loop, if there is one. -/
def loopCondition? (fuel room : Nat) : List Token → Option (Option Expression × List Token)
  | .name "if" :: ts => do
    let (e, ts) ← expression? fuel room ts
    some (some e, ts)
  | ts => some (none, ts)

/-- Reads assignments between commas up to the end of a tag. -/
def assignments? (room : Nat) : Nat → List Token →
    Option (List (Target × Expression) × List Token)
  | 0, _ => none
  | fuel + 1, ts =>
    match ts with
    | .closing .statement :: _ => some ([], ts)
    | ts => do
      let (t, ts) ← target? fuel ts
      let ts ← expect (.mark "=") ts
      let (e, ts) ← expression? fuel room ts
      match ts with
      | .mark "," :: ts => do
        let (more, ts) ← assignments? room fuel ts
        some ((t, e) :: more, ts)
      | ts => some ([(t, e)], ts)

mutual

/-- Reads statements up to a tag that starts with one of some words, or to the end when there are
none to look for; answers with the word that ended them, too. -/
def body? : Nat → Nat → List String → List Token → Option ((List Statement × String) × List Token)
  | 0, _, _, _ => none
  | fuel + 1, room, ends, ts =>
    match ts with
    | [] => if ends.isEmpty then some (([], ""), []) else none
    | .plain t :: ts => do
      let ((ss, word), ts) ← body? fuel room ends ts
      some ((.plain t :: ss, word), ts)
    | .opening .output :: ts => do
      let (e, ts) ← expression? fuel room ts
      let ts ← expect (.closing .output) ts
      let ((ss, word), ts) ← body? fuel room ends ts
      some ((.output e :: ss, word), ts)
    | .opening .statement :: .name word :: ts =>
      if word ∈ ends then some (([], word), ts)
      else do
        let (s, ts) ← statement? fuel room word ts
        let ts ← endTag ts
        let ((ss, word), ts) ← body? fuel room ends ts
        some ((s :: ss, word), ts)
    | _ => none

/-- Reads a statement behind its first word, up to the end of its last tag. -/
def statement? : Nat → Nat → String → List Token → Option (Statement × List Token)
  | 0, _, _, _ => none
  | _, 0, _, _ => none
  | fuel + 1, room + 1, "if", ts => branch? fuel room ts
  | fuel + 1, room + 1, "for", ts => do
    let (target, ts) ← targets? fuel ts
    let ts ← expect (.name "in") ts
    let (items, ts) ← level? fuel room .disjunction ts
    let (condition, ts) ← loopCondition? fuel room ts
    let ts := (expect (.name "recursive") ts).getD ts
    let ts ← endTag ts
    let ((body, word), ts) ← body? fuel room ["endfor", "else"] ts
    if word = "else" then do
      let ts ← endTag ts
      let ((otherwise, _), ts) ← body? fuel room ["endfor"] ts
      some (.loop target items condition body otherwise, ts)
    else some (.loop target items condition body [], ts)
  | fuel + 1, room + 1, "set", ts =>
    match ts with
    | .name n :: .closing .statement :: ts =>
      if n ∈ reservedNames then none
      else do
        let ((body, _), ts) ← body? fuel room ["endset"] ts
        some (.capture n [] body, ts)
    | .name n :: .mark "|" :: ts =>
      if n ∈ reservedNames then none
      else do
        let (filters, ts) ← filterCalls? room fuel ts
        let ts ← endTag ts
        let ((body, _), ts) ← body? fuel room ["endset"] ts
        some (.capture n filters body, ts)
    | .mark "=" :: _ => none
    | ts => do
      let (target, ts) ← targets? fuel ts
      let ts ← expect (.mark "=") ts
      let (e, ts) ← sequence? fuel room ts
      some (.assign target e, ts)
  | fuel + 1, room + 1, "filter", ts => do
    let (filters, ts) ← filterCalls? room fuel ts
    let ts ← endTag ts
    let ((body, _), ts) ← body? fuel room ["endfilter"] ts
    some (.filtered filters body, ts)
  | fuel + 1, room + 1, "with", ts => do
    let (assignments, ts) ← assignments? room fuel ts
    let ts ← endTag ts
    let ((body, _), ts) ← body? fuel room ["endwith"] ts
    some (.scope assignments body, ts)
  | _, _, _, _ => none

/-- Reads a branch behind its first word. -/
def branch? : Nat → Nat → List Token → Option (Statement × List Token)
  | 0, _, _ => none
  | fuel + 1, room, ts => do
    let (condition, ts) ← level? fuel room .disjunction ts
    let ts ← endTag ts
    let ((yes, word), ts) ← body? fuel room ["endif", "else", "elif"] ts
    match word with
    | "else" => do
      let ts ← endTag ts
      let ((no, _), ts) ← body? fuel room ["endif"] ts
      some (.branch condition yes no, ts)
    | "elif" => do
      let (no, ts) ← branch? fuel room ts
      some (.branch condition yes [no], ts)
    | _ => some (.branch condition yes [], ts)

end

/-- The statements of a row of tokens. -/
def statements? (ts : List Token) : Option (List Statement) :=
  (body? (20 * (ts.length + 1)) nestingRoom [] ts).map (·.1.1)

/-- The statements of a template; none when it is no template. -/
def ofText? (template : String) : Option (List Statement) :=
  (Token.ofText? template).bind statements?

end FirmwareSurvey.Template
