import FirmwareSurvey.Decimal.Binary64
import FirmwareSurvey.ResultScript.Flaw
import FirmwareSurvey.Text.Numeral
import FirmwareSurvey.Text.Word

/-!
# The tokens of a result script

A script is cut into names, numbers, texts and signs. The ends of lines and the depth of their
indentation are tokens too, except within brackets. In a text a backslash stands with what follows
for another character, unless the text is marked as raw.
-/

namespace FirmwareSurvey.ResultScript

/-- What a token is. -/
inductive Lexeme where
  /-- A name or a word with a meaning of its own. -/
  | name (s : String)
  /-- A whole number. -/
  | number (n : Nat)
  /-- A number with a fractional part. -/
  | real (x : Binary64)
  /-- A text. -/
  | text (cs : List Char)
  /-- Bytes. -/
  | octets (bytes : List UInt8)
  /-- A text with values in it, as it stands; whether it is raw. -/
  | joined (cs : List Char) (isRaw : Bool)
  /-- A sign. -/
  | sign (s : String)
  /-- The end of a line. -/
  | lineEnd
  /-- The next lines are indented deeper. -/
  | indent
  /-- The next lines are indented less deep. -/
  | dedent
  /-- The end of the script. -/
  | finish
  /-- In the text that follows, a backslash stands before a character that it does not change. -/
  | strangeEscape (c : Char)
  /-- The script cannot be cut any further. -/
  | flawed (flaw : Flaw)
deriving DecidableEq

/-- A token and its span. -/
abbrev Token := Lexeme × Span

/-- A place of a script. -/
structure Place where
  /-- What follows. -/
  rest : List Char
  /-- The line. -/
  line : Nat := 1
  /-- The column. -/
  column : Nat := 0

namespace Place

/-- The place behind so many characters. -/
def advance (p : Place) : Nat → Place
  | 0 => p
  | n + 1 =>
    match p.rest with
    | [] => p
    | '\n' :: rest => advance ⟨rest, p.line + 1, 0⟩ n
    | _ :: rest => advance ⟨rest, p.line, p.column + 1⟩ n

/-- The span between two places. -/
def spanTo (p q : Place) : Span := ⟨p.line, p.column, q.line, q.column⟩

/-- The span of so many characters. -/
def span (p : Place) (n : Nat) : Span := ⟨p.line, p.column, p.line, p.column + n⟩

end Place

/-! ### Classes of characters -/

/-- Whether a character may start a name. -/
def startsName (c : Char) : Bool := c.isAlpha || c = '_' || (128 ≤ c.toNat && Text.isWord c)

/-- Whether a character may be part of a name. -/
def isNamePart (c : Char) : Bool := startsName c || c.isDigit

/-- The signs, the longest first. -/
def signTexts : List String :=
  ["**=", "//=", ">>=", "<<=", "...", "==", "!=", "<=", ">=", "->", "+=", "-=", "*=", "/=", "%=",
    "&=", "|=", "^=", "@=", "**", "//", "<<", ">>", ":=", "<>", "+", "-", "*", "/", "%", "@", "&", "|",
    "^", "~", "<", ">", "(", ")", "[", "]", "\x7b", "\x7d", ",", ":", ".", ";", "="]

/-! ### Texts -/

/-- The character that a letter stands for behind a backslash. -/
def letterEscape? : Char → Option Char
  | 'n' => some '\n'
  | 't' => some '\t'
  | 'r' => some '\r'
  | 'a' => some '\x07'
  | 'b' => some '\x08'
  | 'f' => some '\x0c'
  | 'v' => some '\x0b'
  | '\\' => some '\\'
  | '\'' => some '\''
  | '"' => some '"'
  | _ => none

/-- Reads what follows a backslash: the characters it stands for, and the rest; bytes have no numbers of
characters. -/
def readEscape (isOctets : Bool) : List Char → List Char × List Char
  | [] => (['\\'], [])
  | '\n' :: cs => ([], cs)
  | c :: cs =>
    match letterEscape? c with
    | some e => ([e], cs)
    | none =>
      let coded (base most : Nat) (cs fallback : List Char) : List Char × List Char :=
        let digits := (cs.take most).takeWhile fun d => (Text.digitValue? base d).isSome
        if digits.isEmpty then (fallback, cs)
        else
          ([Char.ofNat ((Text.digitsValue? base 0 digits).getD 0)], cs.drop digits.length)
      if c = 'x' then coded 16 2 cs ['\\', 'x']
      else if c = 'u' && !isOctets then coded 16 4 cs ['\\', 'u']
      else if c = 'U' && !isOctets then coded 16 8 cs ['\\', 'U']
      else if '0' ≤ c && c ≤ '7' then coded 8 3 (c :: cs) ['\\', c]
      else (['\\', c], cs)

/-- The characters of a text in which escapes are read. `fuel` bounds its length. -/
def unescaped (isOctets : Bool) : Nat → List Char → List Char
  | 0, _ => []
  | _ + 1, [] => []
  | fuel + 1, '\\' :: cs =>
    let (e, rest) := readEscape isOctets cs
    e ++ unescaped isOctets fuel rest
  | fuel + 1, c :: cs => c :: unescaped isOctets fuel cs

/-- How many characters a character counts for in a text with escapes. -/
def escapeWidth (c : Char) : Nat := if c.toNat < 128 then 1 else 10

/-- What is wrong with the first escape of a text that has a defect. `fuel` bounds the text, and
`start` is how much of it stands before. -/
def escapeDefect? : Nat → Nat → List Char → Option Defect
  | 0, _, _ => none
  | _ + 1, _, [] => none
  | fuel + 1, start, '\\' :: c :: cs =>
    let numbered (digits : Nat) (sort : String) : Option Defect :=
      let found := ((cs.take digits).takeWhile fun d => (Text.digitValue? 16 d).isSome)
      if found.length < digits then
        some (.badEscape start (start + 1 + found.length) s!"truncated {sort} escape")
      else if 0x10ffff < (Text.digitsValue? 16 0 found).getD 0 then
        some (.badEscape start (start + 1 + digits) "illegal Unicode character")
      else escapeDefect? fuel (start + 2) cs
    if c = 'x' then numbered 2 "\\xXX"
    else if c = 'u' then numbered 4 "\\uXXXX"
    else if c = 'U' then numbered 8 "\\UXXXXXXXX"
    else escapeDefect? fuel (start + 1 + escapeWidth c) cs
  | fuel + 1, start, c :: cs => escapeDefect? fuel (start + escapeWidth c) cs

/-- The first character behind a backslash that does not change it. -/
def strangeEscape? (isOctets : Bool) : List Char → Option Char
  | [] => none
  | '\\' :: c :: cs =>
    let isKnown := (letterEscape? c).isSome || c = '\n' || c = 'x' || ('0' ≤ c && c ≤ '7') ||
      (!isOctets && (c = 'u' || c = 'U' || c = 'N'))
    if isKnown then strangeEscape? isOctets cs else some c
  | _ :: cs => strangeEscape? isOctets cs

/-- How many characters a text has up to its closing quotes; none when they are missing. -/
def textLength? (closing : List Char) : Nat → List Char → Option Nat
  | 0, _ => none
  | fuel + 1, cs =>
    if closing.isPrefixOf cs then some 0
    else
      match cs with
      | [] => none
      | '\\' :: _ :: rest => (textLength? closing fuel rest).map (· + 2)
      | c :: rest =>
        if c = '\n' && closing.length = 1 then none
        else (textLength? closing fuel rest).map (· + 1)

/-- How many characters a text with values in it has up to its closing quotes; `depth` brackets are
open inside of a field. -/
def joinedLength? (closing : List Char) : Nat → Nat → List Char → Option Nat
  | 0, _, _ => none
  | fuel + 1, depth, cs =>
    let isClosed := closing.isPrefixOf cs
    match cs with
    | [] => none
    | c :: rest =>
      let more (n depth : Nat) : Option Nat :=
        (joinedLength? closing fuel depth (cs.drop n)).map (· + n)
      if depth = 0 then
        if isClosed then some 0
        else if c = '\\' then more 2 0
        else if c = '\n' && closing.length = 1 then none
        else if c = '\x7b' && rest.head? = some '\x7b' then more 2 0
        else more 1 (if c = '\x7b' then 1 else 0)
      else if c = '\'' || c = '"' then
        let quotes := if [c, c].isPrefixOf rest && closing.length = 1 then [c, c, c] else [c]
        match textLength? quotes (cs.length + 1) (cs.drop quotes.length) with
        | some n =>
          match joinedLength? closing fuel depth (cs.drop (n + 2 * quotes.length)) with
          | some m => some (n + 2 * quotes.length + m)
          | none => if isClosed then some 0 else none
        | none => if isClosed then some 0 else more 1 depth
      else if c = '\n' && closing.length = 1 then none
      else if c = '(' || c = '[' || c = '\x7b' then more 1 (depth + 1)
      else if c = ')' || c = ']' || c = '\x7d' then more 1 (depth - 1)
      else more 1 depth

/-- The letters that may stand before a text. -/
def textPrefixes : List (List Char) :=
  ["", "r", "b", "f", "u", "rb", "br", "rf", "fr"].map String.toList

/-- The length of the letters before a quote, if a text starts here. -/
def textMarks? (cs : List Char) : Option Nat :=
  let letters := cs.takeWhile Char.isAlpha
  match cs.drop letters.length with
  | c :: _ =>
    if (c = '\'' || c = '"') && textPrefixes.contains (letters.map Char.toLower) then
      some letters.length
    else none
  | [] => none

/-- How many lines a script has. -/
def linesLeft (cs : List Char) : Nat :=
  match (cs.filter (· = '\n')).length, cs.getLast? with
  | n, some '\n' => n - 1
  | n, _ => n

/-- Reads a text that starts at a place: the tokens that it gives, and its length. -/
def readText? (p : Place) : Option (List Token × Nat) := do
  let marks ← textMarks? p.rest
  let letters := (p.rest.take marks).map Char.toLower
  let body := p.rest.drop marks
  let quote := body.headD '"'
  let triple := [quote, quote, quote]
  let isLong := triple.isPrefixOf body
  let closing := if isLong then triple else [quote]
  let inside := body.drop closing.length
  let isRaw := letters.contains 'r'
  let isOctets := letters.contains 'b'
  let isJoined := letters.contains 'f'
  let length? := if isJoined then joinedLength? closing (inside.length + 1) 0 inside
    else textLength? closing (inside.length + 1) inside
  match length? with
  | none =>
    let line := if isLong then p.line + linesLeft p.rest else p.line
    some ([(.flawed ⟨.openText isLong isJoined line, p.span 1, true⟩, p.span 1)], 0)
  | some length =>
    let raw := inside.take length
    let n := marks + 2 * closing.length + length
    let span := p.spanTo (p.advance n)
    let flawed (d : Defect) : Token := (.flawed ⟨d, span, true⟩, span)
    let strange : List Token := if isRaw then [] else
      match strangeEscape? isOctets raw with
      | some c => [(.strangeEscape c, span)]
      | none => []
    let escaped (raw : List Char) := if isRaw then raw else unescaped isOctets (raw.length + 1) raw
    if isOctets then
      let token : Token := if raw.all fun c => c.toNat < 128 then
          (.octets ((escaped raw).map fun c => c.toNat.toUInt8), span)
        else flawed .notOctets
      some (strange ++ [token], n)
    else if isJoined then some (strange ++ [(.joined raw isRaw, span)], n)
    else
      let token := match (if isRaw then none else escapeDefect? (raw.length + 1) 0 raw) with
        | some d => flawed d
        | none => (.text (escaped raw), span)
      some (strange ++ [token], n)

/-! ### Numbers -/

/-- Digits of a base with low lines between them, and the rest. -/
def spanDigits (base : Nat) (cs : List Char) : List Char × List Char :=
  let run := cs.takeWhile fun c => (Text.digitValue? base c).isSome || c = '_'
  (run.filter (· != '_'), cs.drop run.length)

/-- The double nearest to a decimal. -/
def realOf (digits : List Char) (scale : Int) : Binary64 :=
  let n := (Text.digitsValue? 10 0 digits).getD 0
  if 20000 < scale.natAbs then (if scale < 0 || n = 0 then .zero false else .infinity false)
  else Binary64.nearest false n scale

/-- Reads a number: what it is, and what follows. -/
def readNumber (cs : List Char) : Lexeme × List Char :=
  let based (base : Nat) (rest : List Char) : Lexeme × List Char :=
    let (digits, rest) := spanDigits base rest
    (.number ((Text.digitsValue? base 0 digits).getD 0), rest)
  match cs with
  | '0' :: 'x' :: rest => based 16 rest
  | '0' :: 'X' :: rest => based 16 rest
  | '0' :: 'o' :: rest => based 8 rest
  | '0' :: 'O' :: rest => based 8 rest
  | '0' :: 'b' :: rest => based 2 rest
  | '0' :: 'B' :: rest => based 2 rest
  | _ =>
    let (whole, rest) := spanDigits 10 cs
    let (part, isReal, rest) := match rest with
      | '.' :: more =>
        let (part, rest) := spanDigits 10 more
        (part, true, rest)
      | rest => ([], false, rest)
    let exponent? (more : List Char) : Option (Int × List Char) :=
      let (negative, digits) := match more with
        | '-' :: ds => (true, ds)
        | '+' :: ds => (false, ds)
        | ds => (false, ds)
      let (ds, rest) := spanDigits 10 digits
      if ds.isEmpty then none
      else
        let n : Int := (Text.digitsValue? 10 0 ds).getD 0
        some (if negative then -n else n, rest)
    let (exponent, isReal, rest) := match rest with
      | c :: more =>
        if c = 'e' || c = 'E' then
          match exponent? more with
          | some (e, rest) => (e, true, rest)
          | none => (0, isReal, rest)
        else (0, isReal, rest)
      | [] => (0, isReal, rest)
    if isReal then (.real (realOf (whole ++ part) (exponent - part.length)), rest)
    else (.number ((Text.digitsValue? 10 0 whole).getD 0), rest)

/-- The words that may follow a number without a blank. -/
def wordsBehindNumbers : List (List Char) :=
  ["and", "else", "for", "if", "in", "is", "not", "or"].map String.toList

/-- What is wrong with the number that stands at a place, of which `rest` is left, and where. -/
def numberFlaw? (p : Place) (rest : List Char) : Option Flaw :=
  let length := p.rest.length - rest.length
  let text := p.rest.take length
  let found (i n : Nat) (d : Defect) : Option Flaw :=
    some ⟨d, ⟨p.line, p.column + i, p.line, p.column + i + n⟩, true⟩
  let base? : Option String := match text.drop 1 |>.head? with
    | some c =>
      if text.head? != some '0' then none
      else if c = 'x' || c = 'X' then some "hexadecimal"
      else if c = 'o' || c = 'O' then some "octal"
      else if c = 'b' || c = 'B' then some "binary"
      else none
    | none => none
  let sort := base?.getD "decimal"
  let digits := if base?.isSome then text.drop 2 else text
  let zeros := (text.takeWhile fun c => c = '0' || c = '_').length
  let isWhole := text.all fun c => c.isDigit || c = '_'
  -- a low line stands between two digits
  let low? := (List.range digits.length).find? fun i =>
    digits[i]? = some '_' && !(digits[i + 1]?).any fun c => (Text.digitValue? 16 c).isSome
  match low? with
  | some i => found (text.length - digits.length + i) 1 (.badNumber sort)
  | none =>
    if base?.isNone && isWhole && text.head? = some '0' && zeros < length then
      found 0 zeros .leadingZeros
    else if base?.isSome && digits.isEmpty && !(rest.head?.any Char.isDigit) then
      found (length - 1) 1 (.badNumber sort)
    else
      match rest with
      | [] => none
      | c :: _ =>
        if base?.isSome && c.isDigit then found length 1 (.badDigit c sort)
        else if (startsName c || 128 ≤ c.toNat) && c != 'j' && c != 'J' &&
            !(wordsBehindNumbers.any fun w => w.isPrefixOf rest) then
          found (length - 1) 1 (.badNumber sort)
        else none

/-! ### Tokens -/

/-- How deep a line is indented: when a tab reaches to the next eighth column, and when it is one
column wide. -/
structure Depth where
  /-- With wide tabs. -/
  wide : Nat := 0
  /-- With narrow tabs. -/
  narrow : Nat := 0
deriving DecidableEq

/-- The depth of the indentation of a line. -/
def indentation (cs : List Char) : Depth :=
  (cs.takeWhile fun c => c = ' ' || c = '\t').foldl
    (fun d c => ⟨if c = '\t' then (d.wide / 8 + 1) * 8 else d.wide + 1, d.narrow + 1⟩) {}

/-- The tokens for a change of the indentation to a depth, and the depths that are open then. -/
def indentTokens (span : Span) (depth : Depth) : List Depth → Except Defect (List Token × List Depth)
  | [] => if depth.wide = 0 then .ok ([], []) else .ok ([(.indent, span)], [depth])
  | top :: below =>
    if top.wide = depth.wide then
      if top.narrow = depth.narrow then .ok ([], top :: below) else .error .mixedIndentation
    else if top.wide < depth.wide then
      if top.narrow < depth.narrow then .ok ([(.indent, span)], depth :: top :: below)
      else .error .mixedIndentation
    else
      match indentTokens span depth below with
      | .error d => .error d
      | .ok (tokens, depths) =>
        if tokens.any fun t => t.1 = .indent then .error .unindented
        else .ok ((.dedent, span) :: tokens, depths)

/-- The bracket that an opening one is closed by. -/
def closingOf (c : Char) : Char :=
  if c = '(' then ')' else if c = '[' then ']' else '\x7d'

/-- The brackets that are open behind a sign, if there were others before; what is wrong with it. -/
def bracketsBehind (s : String) (span : Span) (before : List (Char × Span)) :
    Except Defect (List (Char × Span)) :=
  match s.toList with
  | [c] =>
    if c = '(' || c = '[' || c = '\x7b' then .ok ((c, span) :: before)
    else if c = ')' || c = ']' || c = '\x7d' then
      match before with
      | [] => .error (.unmatched c)
      | (o, place) :: around =>
        if closingOf o = c then .ok around
        else .error (.mismatched c o (if place.line = span.line then none else some place.line))
    else .ok before
  | _ => .ok before

/-- The bracket that an expression inside of a text stands in. -/
def fieldBracket : Char := 'f'

/-- Cuts a script into tokens. `brackets` are those that are open, the last one first, `depths` are the
depths of the indentation around, and `isStart` tells whether a line starts here. -/
def tokensFrom : Nat → Place → List (Char × Span) → List Depth → Bool → List Token
  | 0, _, _, _, _ => []
  | fuel + 1, p, brackets, depths, isStart =>
    let here := p.span 1
    let flawed (d : Defect) (span : Span) : List Token := [(.flawed ⟨d, span, true⟩, span)]
    -- where the script ends
    let last : Span := if p.column = 0 then { here with line := p.line - 1 } else here
    let ends : List Token := depths.map (fun _ => (.dedent, last)) ++ [(.finish, last)]
    if isStart && brackets.isEmpty then
      let blanks := (p.rest.takeWhile fun c => c = ' ' || c = '\t' || c = '\x0c').length
      match p.rest.drop blanks with
      | [] => ends
      | '\n' :: _ => tokensFrom fuel (p.advance (blanks + 1)) brackets depths true
      | '\r' :: '\n' :: _ => tokensFrom fuel (p.advance (blanks + 2)) brackets depths true
      | '#' :: more =>
        let n := (more.takeWhile (· != '\n')).length
        tokensFrom fuel (p.advance (blanks + 1 + n)) brackets depths true
      | _ =>
        match indentTokens here (indentation p.rest) depths with
        | .ok (tokens, depths) =>
          tokens ++ tokensFrom fuel (p.advance blanks) brackets depths false
        | .error .unindented =>
          let n := (p.rest.takeWhile (· != '\n')).length
          flawed .unindented ⟨p.line, n, p.line, n⟩
        | .error d => [(.flawed ⟨d, here, false⟩, here)]
    else
      match p.rest with
      | [] =>
        match brackets with
        | [] => (.lineEnd, here) :: ends
        | (c, span) :: _ => if c = fieldBracket then ends else flawed (.unclosed c) span
      | '\\' :: '\n' :: [] => flawed .cutOff ⟨p.line, p.column + 1, p.line, p.column + 2⟩
      | '\\' :: '\n' :: _ => tokensFrom fuel (p.advance 2) brackets depths false
      | '\\' :: '\r' :: '\n' :: _ => tokensFrom fuel (p.advance 3) brackets depths false
      | '\\' :: _ => flawed .afterContinuation ⟨p.line, p.column + 1, p.line, p.column + 2⟩
      | '#' :: more =>
        let n := 1 + (more.takeWhile (· != '\n')).length
        let rest := tokensFrom fuel (p.advance n) brackets depths brackets.isEmpty
        if brackets.isEmpty then (.lineEnd, p.span (n + 1)) :: rest else rest
      | '\n' :: _ =>
        let rest := tokensFrom fuel (p.advance 1) brackets depths true
        if brackets.isEmpty then (.lineEnd, here) :: rest else rest
      | c :: _ =>
        if c = ' ' || c = '\t' || c = '\r' || c = '\x0c' then
          tokensFrom fuel (p.advance 1) brackets depths false
        else
          let next (lexeme : Lexeme) (n : Nat) (brackets : List (Char × Span)) : List Token :=
            let q := p.advance n
            (lexeme, p.spanTo q) :: tokensFrom fuel q brackets depths false
          match readText? p with
          | some (tokens, n) =>
            if tokens.any fun t => t.1 matches .flawed _ then tokens
            else tokens ++ tokensFrom fuel (p.advance n) brackets depths false
          | none =>
            if c.isDigit || (c = '.' && (p.rest.drop 1).head?.any Char.isDigit) then
              let (lexeme, rest) := readNumber p.rest
              match numberFlaw? p rest with
              | some flaw => [(.flawed flaw, flaw.span)]
              | none => next lexeme (p.rest.length - rest.length) brackets
            else if startsName c || 128 ≤ c.toNat then
              let name := p.rest.takeWhile fun c => isNamePart c || 128 ≤ c.toNat
              let good := name.takeWhile isNamePart
              match startsName c, name.drop good.length with
              | true, [] => next (.name (String.ofList name)) name.length brackets
              | isGood, rest =>
                let n := if isGood then good.length else 0
                let strange := if isGood then rest.headD c else c
                flawed (.strangeCharacter strange) ⟨p.line, p.column + n, p.line, p.column + n + 1⟩
            else
              let sign := (signTexts.find? fun s => s.toList.isPrefixOf p.rest).getD
                (String.ofList [c])
              let span := p.span sign.length
              match bracketsBehind sign span brackets with
              | .ok brackets => next (.sign sign) sign.length brackets
              | .error d => flawed d span

/-- The tokens of a script. -/
def tokensOf (cs : List Char) : List Token :=
  tokensFrom (2 * cs.length + 4) ⟨cs, 1, 0⟩ [] [] true

/-- The tokens of an expression inside of a script. -/
def innerTokens (cs : List Char) (line column : Nat) : List Token :=
  let p : Place := ⟨cs, line, column⟩
  tokensFrom (2 * cs.length + 4) p [(fieldBracket, p.span 1)] [] false

end FirmwareSurvey.ResultScript
