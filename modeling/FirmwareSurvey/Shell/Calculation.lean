import FirmwareSurvey.Shell.Cursor
import FirmwareSurvey.Shell.Number
import FirmwareSurvey.Shell.Syntax

/-!
# Calculations

A calculation is read with the usual precedence of its signs, and worked out in words of 64 bits. A
name in it stands for the number that it was given, and may be given another one. The extended manner
also counts up and down, raises to powers, works out several calculations in a row, and takes the
value of a name for a calculation of its own.
-/

namespace FirmwareSurvey.Shell

/-- A calculation. -/
inductive Calc where
  /-- A number. -/
  | number (n : Int)
  /-- What a name or a place in a row stands for. -/
  | name (name : List Char) (index : Option Calc)
  /-- A sign before a calculation. -/
  | unary (sign : Char) (c : Calc)
  /-- A sign between two calculations; what stands from the second one on. -/
  | binary (sign : String) (c d : Calc) (behind : List Char)
  /-- Whether two calculations are both not zero. -/
  | both (c d : Calc)
  /-- Whether one of two calculations is not zero. -/
  | either (c d : Calc)
  /-- One of two calculations, as a third one tells. -/
  | choice (condition yes no : Calc)
  /-- Gives a name a number, worked out with its old one when a sign tells so. -/
  | assign (name : List Char) (index : Option Calc) (sign : String) (c : Calc)
  /-- Counts a name up or down, before or after it is used. -/
  | count (name : List Char) (index : Option Calc) (step : Int) (before : Bool)
  /-- One calculation after another. -/
  | comma (c d : Calc)

/-- Why a calculation cannot be worked out. -/
inductive CalcError where
  /-- A calculation should start; what stands there, and the last sign. -/
  | noOperand (rest last : List Char)
  /-- The calculation should end; what stands there. -/
  | trailing (rest : List Char)
  /-- A parenthesis should close; what stands before it. -/
  | unclosed (last : List Char)
  /-- What is given a number is no name. -/
  | notAName (rest : List Char)
  /-- A number has digits that it cannot have. -/
  | badNumber (digits : List Char)
  /-- A divisor is zero; what stands from it on. -/
  | divisionByZero (behind : List Char)
  /-- The value of a name is no number. -/
  | illegal (value : List Char)
  /-- A name was given nothing. -/
  | unset (name : List Char)
deriving DecidableEq

/-! ### Reading -/

/-- The binary signs from the loosest to the tightest. -/
def binarySigns : List (List String) :=
  [["|"], ["^"], ["&"], ["==", "!="], ["<=", ">=", "<", ">"], ["<<", ">>"], ["+", "-"],
    ["*", "/", "%"]]

/-- The signs that give a name a number. -/
def assigningSigns : List String :=
  ["=", "+=", "-=", "*=", "/=", "%=", "<<=", ">>=", "&=", "^=", "|="]

/-- All signs, the longest first. -/
def calcSigns : List String :=
  ["<<=", ">>=", "**", "++", "--", "<<", ">>", "<=", ">=", "==", "!=", "&&", "||", "+=", "-=", "*=",
    "/=", "%=", "&=", "^=", "|=", "+", "-", "*", "/", "%", "<", ">", "=", "!", "~", "&", "|", "^",
    "?", ":", ",", "(", ")", "[", "]"]

/-- The sign at the start of a text, if there is one; the plain manner lacks some. -/
def signAt? (dialect : Dialect) (cs : List Char) : Option String :=
  (calcSigns.filter fun s => dialect = .extended || (s != "**" && s != "++" && s != "--" && s != ","))
    |>.find? fun s => s.toList.isPrefixOf cs

/-- A text without the blanks at its start. -/
def dropBlanks (cs : List Char) : List Char := cs.dropWhile isBlank

/-- Reads a number at the start of a text. -/
def calcNumber (dialect : Dialect) (cs : List Char) : Except CalcError (Int × List Char) :=
  let digits := cs.takeWhile fun c => isNamePart c || (dialect = .extended && (c = '#' || c = '@'))
  let rest := cs.drop digits.length
  let value (base : Nat) (ds : List Char) : Except CalcError (Int × List Char) :=
    match Text.digitsValue? base 0 ds with
    | some n => .ok (wrap n, rest)
    | none => .error (.badNumber digits)
  match dialect with
  | .plain =>
    match readNatural cs with
    | (some n, rest) => .ok (min (n : Int) (signedLimit - 1), rest)
    | (none, _) => .error (.badNumber digits)
  | .extended =>
    match digits with
    | '0' :: 'x' :: ds => value 16 ds
    | '0' :: 'X' :: ds => value 16 ds
    | '0' :: ds => if ds.contains '#' then .error (.badNumber digits) else value 8 ('0' :: ds)
    | ds =>
      match Text.cutOnce? '#' ds with
      | some (base, ds) =>
        let base := (Text.digitsValue? 10 0 base).getD 0
        if base < 2 || 36 < base || ds.isEmpty then .error (.badNumber digits) else value base ds
      | none => value 10 ds

mutual

/-- Reads calculations with commas between them. -/
def readComma (dialect : Dialect) : Nat → List Char → List Char → Except CalcError (Calc × List Char)
  | 0, cs, last => .error (.noOperand cs last)
  | fuel + 1, cs, last => do
    let (c, rest) ← readAssignment dialect fuel cs last
    match signAt? dialect (dropBlanks rest) with
    | some "," =>
      let (d, rest) ← readComma dialect fuel ((dropBlanks rest).drop 1) (dropBlanks rest)
      .ok (.comma c d, rest)
    | _ => .ok (c, rest)
termination_by structural fuel => fuel

/-- Reads a calculation that may give a name a number. -/
def readAssignment (dialect : Dialect) :
    Nat → List Char → List Char → Except CalcError (Calc × List Char)
  | 0, cs, last => .error (.noOperand cs last)
  | fuel + 1, cs, last => do
    let (c, rest) ← readChoice dialect fuel cs last
    let here := dropBlanks rest
    match signAt? dialect here with
    | some sign =>
      if assigningSigns.contains sign then
        match c with
        | .name name index =>
          let (value, rest) ← readAssignment dialect fuel (here.drop sign.length) here
          .ok (.assign name index (String.ofList sign.toList.dropLast) value, rest)
        | _ => if dialect = .extended then .error (.notAName here) else .ok (c, rest)
      else .ok (c, rest)
    | none => .ok (c, rest)
termination_by structural fuel => fuel

/-- Reads a calculation that may be one of two. -/
def readChoice (dialect : Dialect) :
    Nat → List Char → List Char → Except CalcError (Calc × List Char)
  | 0, cs, last => .error (.noOperand cs last)
  | fuel + 1, cs, last => do
    let (c, rest) ← readEither dialect fuel cs last
    let here := dropBlanks rest
    match here with
    | '?' :: rest =>
      let (yes, rest) ← readComma dialect fuel rest here
      match dropBlanks rest with
      | ':' :: after =>
        let (no, rest) ← readAssignment dialect fuel after (dropBlanks rest)
        .ok (.choice c yes no, rest)
      | _ => .error (.noOperand (dropBlanks rest) here)
    | _ => .ok (c, rest)
termination_by structural fuel => fuel

/-- Reads a calculation with alternatives. -/
def readEither (dialect : Dialect) :
    Nat → List Char → List Char → Except CalcError (Calc × List Char)
  | 0, cs, last => .error (.noOperand cs last)
  | fuel + 1, cs, last => do
    let (c, rest) ← readBoth dialect fuel cs last
    match dropBlanks rest with
    | '|' :: '|' :: after =>
      let (d, rest) ← readEither dialect fuel after (dropBlanks rest)
      .ok (.either c d, rest)
    | _ => .ok (c, rest)
termination_by structural fuel => fuel

/-- Reads a calculation that asks for two. -/
def readBoth (dialect : Dialect) :
    Nat → List Char → List Char → Except CalcError (Calc × List Char)
  | 0, cs, last => .error (.noOperand cs last)
  | fuel + 1, cs, last => do
    let (c, rest) ← readBinary dialect binarySigns fuel cs last
    match dropBlanks rest with
    | '&' :: '&' :: after =>
      let (d, rest) ← readBoth dialect fuel after (dropBlanks rest)
      .ok (.both c d, rest)
    | _ => .ok (c, rest)
termination_by structural fuel => fuel

/-- Reads a calculation with binary signs of some levels. -/
def readBinary (dialect : Dialect) (levels : List (List String)) :
    Nat → List Char → List Char → Except CalcError (Calc × List Char)
  | 0, cs, last => .error (.noOperand cs last)
  | fuel + 1, cs, last => do
    match levels with
    | [] => readPower dialect fuel cs last
    | signs :: tighter =>
      let (c, rest) ← readBinary dialect tighter fuel cs last
      readMore dialect signs tighter fuel c rest
termination_by structural fuel => fuel

/-- Reads what follows a calculation at a level. -/
def readMore (dialect : Dialect) (signs : List String) (tighter : List (List String)) :
    Nat → Calc → List Char → Except CalcError (Calc × List Char)
  | 0, c, rest => .ok (c, rest)
  | fuel + 1, c, rest => do
    let here := dropBlanks rest
    match signAt? dialect here with
    | some sign =>
      if signs.contains sign then
        let behind := here.drop sign.length
        let (d, rest) ← readBinary dialect tighter fuel behind here
        readMore dialect signs tighter fuel (.binary sign c d (dropBlanks behind)) rest
      else .ok (c, rest)
    | none => .ok (c, rest)
termination_by structural fuel => fuel

/-- Reads a calculation that may be raised to a power. -/
def readPower (dialect : Dialect) :
    Nat → List Char → List Char → Except CalcError (Calc × List Char)
  | 0, cs, last => .error (.noOperand cs last)
  | fuel + 1, cs, last => do
    let (c, rest) ← readUnary dialect fuel cs last
    let here := dropBlanks rest
    if signAt? dialect here = some "**" then
      let (d, rest) ← readPower dialect fuel (here.drop 2) here
      .ok (.binary "**" c d [], rest)
    else .ok (c, rest)
termination_by structural fuel => fuel

/-- Reads a calculation that may have a sign before it. -/
def readUnary (dialect : Dialect) :
    Nat → List Char → List Char → Except CalcError (Calc × List Char)
  | 0, cs, last => .error (.noOperand cs last)
  | fuel + 1, cs, last => do
    let here := dropBlanks cs
    match signAt? dialect here with
    | some "(" =>
      let (c, rest) ← readComma dialect fuel (here.drop 1) here
      match dropBlanks rest with
      | ')' :: rest => .ok (c, rest)
      | _ => .error (.unclosed here)
    | some sign =>
      let counts := sign = "++" || sign = "--"
      let behind := dropBlanks (here.drop 2)
      if counts && behind.head?.any startsName then
        match ← readName dialect fuel behind with
        | (name, index, rest) => .ok (.count name index (if sign = "++" then 1 else -1) true, rest)
      else
        let s := sign.toList.headD ' '
        if (s = '+' || s = '-' || s = '!' || s = '~') && (sign.length = 1 || counts || sign = "!=")
        then
          let (c, rest) ← readUnary dialect fuel (here.drop 1) here
          .ok (.unary s c, rest)
        else .error (.noOperand here last)
    | none =>
      match here with
      | [] => .error (.noOperand [] last)
      | c :: _ =>
        if c.isDigit then
          let (n, rest) ← calcNumber dialect here
          .ok (.number n, rest)
        else if startsName c then
          match ← readName dialect fuel here with
          | (name, index, rest) =>
            match signAt? dialect (dropBlanks rest) with
            | some "++" => .ok (.count name index 1 false, (dropBlanks rest).drop 2)
            | some "--" => .ok (.count name index (-1) false, (dropBlanks rest).drop 2)
            | _ => .ok (.name name index, rest)
        else .error (.noOperand here last)
termination_by structural fuel => fuel

/-- Reads a name, and the place in a row behind it. -/
def readName (dialect : Dialect) :
    Nat → List Char → Except CalcError (List Char × Option Calc × List Char)
  | 0, cs => .error (.noOperand cs [])
  | fuel + 1, cs => do
    let name := cs.takeWhile isNamePart
    match cs.drop name.length with
    | '[' :: after =>
      if dialect = .extended then
        let (index, rest) ← readComma dialect fuel after cs
        match dropBlanks rest with
        | ']' :: rest => .ok (name, some index, rest)
        | _ => .error (.unclosed cs)
      else .ok (name, none, '[' :: after)
    | rest => .ok (name, none, rest)
termination_by structural fuel => fuel

end

/-- The calculation of a text; in the extended manner an empty one is zero. -/
def calcOf (dialect : Dialect) (cs : List Char) : Except CalcError Calc :=
  if dialect = .extended && cs.all isBlank then .ok (.number 0)
  else
    match readComma dialect (32 * (cs.length + 2)) cs [] with
    | .ok (c, rest) => if rest.all isBlank then .ok c else .error (.trailing (dropBlanks rest))
    | .error e => .error e

/-! ### Working out -/

/-- How names are looked up and given values. -/
structure Names (σ : Type) where
  /-- The value of a name, or of a place in a row. -/
  value : σ → List Char → Option Int → Option (List Char)
  /-- Gives a value to a name, or to a place in a row. -/
  assign : σ → List Char → Option Int → List Char → σ
  /-- Whether a name has to have a value. -/
  strict : σ → Bool

/-- The number that a binary sign makes of two. -/
def combine (sign : String) (a b : Int) (behind : List Char) : Except CalcError Int :=
  let truth (b : Bool) : Except CalcError Int := .ok (if b then 1 else 0)
  let bits (f : Nat → Nat → Nat) : Except CalcError Int :=
    .ok (wrap (f (a % wordSize).toNat (b % wordSize).toNat : Nat))
  match sign with
  | "+" => .ok (wrap (a + b))
  | "-" => .ok (wrap (a - b))
  | "*" => .ok (wrap (a * b))
  | "/" => if b = 0 then .error (.divisionByZero behind) else .ok (wrap (a.tdiv b))
  | "%" => if b = 0 then .error (.divisionByZero behind) else .ok (wrap (a.tmod b))
  | "**" => if b < 0 then .error (.noOperand behind behind) else .ok (wrap (Int.pow a (min b.toNat 100000)))
  | "<<" => .ok (wrap (a * (1 <<< (b % 64).toNat : Nat)))
  | ">>" => .ok (a.fdiv (1 <<< (b % 64).toNat : Nat))
  | "&" => bits (· &&& ·)
  | "|" => bits (· ||| ·)
  | "^" => bits (· ^^^ ·)
  | "==" => truth (a == b)
  | "!=" => truth (a != b)
  | "<" => truth (a < b)
  | "<=" => truth (a ≤ b)
  | ">" => truth (b < a)
  | _ => truth (b ≤ a)

/-- The digits of a number with its sign. -/
def wholeText (n : Int) : List Char :=
  (if n < 0 then ['-'] else []) ++ Text.decimalChars n.natAbs

variable {σ : Type} (names : Names σ) (dialect : Dialect)

mutual

/-- The number that a name stands for. -/
def nameValue : Nat → List Char → Option Int → StateT σ (Except CalcError) Int
  | 0, _, _ => return 0
  | fuel + 1, name, index => do
    match names.value (← get) name index with
    | none => if names.strict (← get) && dialect = .extended then throw (.unset name) else return 0
    | some text =>
      match dialect with
      | .extended => do calcValue fuel (← liftM (calcOf dialect text))
      | .plain =>
        match readWhole text with
        | (some n, rest) => if rest.all isBlank then return wrap n else throw (.illegal text)
        | (none, _) => if text.isEmpty then return 0 else throw (.illegal text)
termination_by structural fuel => fuel

/-- The place in a row that a calculation gives. -/
def placeOf : Nat → Option Calc → StateT σ (Except CalcError) (Option Int)
  | 0, _ => return none
  | _ + 1, none => return none
  | fuel + 1, some c => return some (← calcValue fuel c)
termination_by structural fuel => fuel

/-- The number of a calculation. -/
def calcValue : Nat → Calc → StateT σ (Except CalcError) Int
  | 0, _ => return 0
  | fuel + 1, c => do
    match c with
    | .number n => return n
    | .name name index => nameValue fuel name (← placeOf fuel index)
    | .unary sign c => do
      let n ← calcValue fuel c
      match sign with
      | '-' => return wrap (-n)
      | '!' => return if n = 0 then 1 else 0
      | '~' => return -n - 1
      | _ => return n
    | .binary sign c d behind => do
      let a ← calcValue fuel c
      let b ← calcValue fuel d
      liftM (combine sign a b behind)
    | .both c d => do
      if (← calcValue fuel c) = 0 then return 0
      else return if (← calcValue fuel d) = 0 then 0 else 1
    | .either c d => do
      if (← calcValue fuel c) = 0 then return if (← calcValue fuel d) = 0 then 0 else 1
      else return 1
    | .choice condition yes no => do
      if (← calcValue fuel condition) = 0 then calcValue fuel no else calcValue fuel yes
    | .assign name index sign c => do
      let place ← placeOf fuel index
      let n ← if sign = "" then calcValue fuel c else do
        let old ← nameValue fuel name place
        let n ← calcValue fuel c
        liftM (combine sign old n [])
      modify fun s => names.assign s name place (wholeText n)
      return n
    | .count name index step before => do
      let place ← placeOf fuel index
      let old ← nameValue fuel name place
      let new := wrap (old + step)
      modify fun s => names.assign s name place (wholeText new)
      return if before then new else old
    | .comma c d => do
      let _ ← calcValue fuel c
      calcValue fuel d
termination_by structural fuel => fuel

end

/-- The number of a text, and the names behind it. -/
def calculate (cs : List Char) (s : σ) : Except CalcError (Int × σ) := do
  let c ← calcOf dialect cs
  (calcValue names dialect (16 * (cs.length + 64)) c).run s

/-- The wording of why a text cannot be worked out. -/
def CalcError.text (dialect : Dialect) (source : List Char) (e : CalcError) : String :=
  let shown (cs : List Char) := String.ofList cs
  let here := shown (dropBlanks source)
  match dialect with
  | .plain =>
    let about (problem : String) := s!"arithmetic expression: {problem}: \"{shown source}\""
    match e with
    | .noOperand _ _ => about "expecting primary"
    | .trailing _ => about "expecting EOF"
    | .badNumber _ => about "expecting EOF"
    | .unclosed _ => about "expecting ')'"
    | .notAName _ => about "expecting EOF"
    | .divisionByZero _ => about "division by zero"
    | .illegal value => s!"Illegal number: {shown value}"
    | .unset name => s!"{shown name}: parameter not set"
  | .extended =>
    match e with
    | .noOperand rest last =>
      let token := if rest.isEmpty then last else rest
      s!"{here}: syntax error: operand expected (error token is \"{shown token}\")"
    | .trailing rest => s!"{here}: syntax error in expression (error token is \"{shown rest}\")"
    | .badNumber digits =>
      s!"{shown digits}: value too great for base (error token is \"{shown digits}\")"
    | .unclosed last => s!"{here}: missing \x60)' (error token is \"{shown (last.drop 1)}\")"
    | .notAName rest => s!"{here}: attempted assignment to non-variable (error token is \"{shown rest}\")"
    | .divisionByZero behind => s!"{here}: division by 0 (error token is \"{shown behind}\")"
    | .illegal value => s!"{shown value}: syntax error in expression"
    | .unset name => s!"{shown name}: unbound variable"

end FirmwareSurvey.Shell
