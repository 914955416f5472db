import FirmwareSurvey.ResultScript.Text
import FirmwareSurvey.ResultScript.Token

/-!
# Search patterns

A search pattern says how a piece of a text looks. It is tried at a place by going through its parts in
order; wherever a part leaves a choice, the first one with which all that follows fits is taken. What
follows is kept as a function of the place that was reached and of what the groups hold there.
-/

namespace FirmwareSurvey.ResultScript

/-- A member of a set of characters. -/
inductive SetMember where
  /-- The characters of a range. -/
  | range (first last : Char)
  /-- Digits, or all others. -/
  | digit (isOther : Bool)
  /-- Characters of words, or all others. -/
  | word (isOther : Bool)
  /-- Blanks, or all others. -/
  | blank (isOther : Bool)

/-- A set of characters. -/
structure CharSet where
  /-- Its members. -/
  members : List SetMember
  /-- Whether it consists of all other characters instead. -/
  isOther : Bool := false
  /-- Whether small and capital letters count as the same. -/
  isCaseless : Bool := false
  /-- Whether only plain letters, digits and blanks count as such. -/
  isAscii : Bool := false

/-- Whether a character belongs to a member. -/
def SetMember.has (isAscii : Bool) (c : Char) : SetMember → Bool
  | .range first last => first ≤ c && c ≤ last
  | .digit isOther => (if isAscii then c.isDigit else Text.isDigit c) != isOther
  | .word isOther =>
    (if isAscii then c.isAlphanum || c = '_' else Text.isWord c) != isOther
  | .blank isOther => (if isAscii then isBlankOctet c else isBlankChar c) != isOther

/-- The forms of a character that count as the same when its case does not. -/
def caseForms (c : Char) : List Char :=
  if c.toNat < 128 then [c, c.toLower, c.toUpper]
  else
    let one (cs : List Char) := if cs.length = 1 then cs else []
    c :: one (Text.lowerChars [c]) ++ one (Text.upperChars [c])

/-- Whether a character belongs to a set. -/
def CharSet.has (s : CharSet) (c : Char) : Bool :=
  let isMember (c : Char) := s.members.any (SetMember.has s.isAscii c)
  (if s.isCaseless then (caseForms c).any isMember else isMember c) != s.isOther

/-- What may be asked of a place. -/
inductive PlaceTest where
  /-- The text starts here. -/
  | textStart
  /-- The text ends here. -/
  | textEnd
  /-- A line starts here. -/
  | lineStart
  /-- A line ends here. -/
  | lineEnd
  /-- The text ends here, or but for the end of its last line. -/
  | lastEnd
  /-- A word starts or ends here, or none does. -/
  | wordEdge (isAscii isOther : Bool)

/-- Whether a place is as asked. -/
def PlaceTest.holds (text : Array Char) (n : Nat) : PlaceTest → Bool
  | .textStart => n = 0
  | .textEnd => n = text.size
  | .lineStart => n = 0 || text[n - 1]? = some '\n'
  | .lineEnd => n = text.size || text[n]? = some '\n'
  | .lastEnd => n = text.size || (n + 1 = text.size && text[n]? = some '\n')
  | .wordEdge isAscii isOther =>
    let inWord (c : Option Char) := c.any fun c => SetMember.has isAscii c (.word false)
    (inWord (if n = 0 then none else text[n - 1]?) != inWord text[n]?) != isOther

/-- A search pattern. -/
inductive SearchPattern where
  /-- The empty piece. -/
  | empty
  /-- A character of a set. -/
  | one (set : CharSet)
  /-- The empty piece at places that are as asked. -/
  | test (t : PlaceTest)
  /-- One piece behind another. -/
  | sequence (p q : SearchPattern)
  /-- A piece of one kind or else of the other. -/
  | either (p q : SearchPattern)
  /-- So many pieces, as many of them as possible or as few. -/
  | times (p : SearchPattern) (least : Nat) (most : Option Nat) (isGreedy : Bool)
  /-- A piece that a group holds. -/
  | group (number : Nat) (p : SearchPattern)
  /-- What a group holds. -/
  | again (number : Nat) (isCaseless : Bool)
  /-- The empty piece where such a piece follows, or does not. -/
  | ahead (p : SearchPattern) (isOther : Bool)
  /-- The empty piece behind a piece of so many characters, or where there is none. -/
  | behind (p : SearchPattern) (width : Nat) (isOther : Bool)
  /-- One of two pieces, by whether a group holds something. -/
  | ifGroup (number : Nat) (p q : SearchPattern)

/-- How many characters a pattern stands for, if that is always the same number. -/
def SearchPattern.width? : SearchPattern → Option Nat
  | .empty => some 0
  | .one _ => some 1
  | .test _ => some 0
  | .sequence p q => do return (← p.width?) + (← q.width?)
  | .either p q => do
    let n ← p.width?
    let m ← q.width?
    if n = m then some n else none
  | .times p least most _ => do
    let n ← p.width?
    if most = some least then some (n * least) else if n = 0 then some 0 else none
  | .group _ p => p.width?
  | .again _ _ => none
  | .ahead _ _ => some 0
  | .behind _ _ _ => some 0
  | .ifGroup _ p q => do
    let n ← p.width?
    let m ← q.width?
    if n = m then some n else none

/-- What groups hold: the ends of their pieces. -/
abbrev Held := Array (Option (Nat × Nat))

/-- How many characters of a set follow from a place on, up to a number. -/
def runLength (text : Array Char) (set : CharSet) (n : Nat) : Nat → Nat
  | 0 => 0
  | most + 1 =>
    match text[n]? with
    | some c => if set.has c then 1 + runLength text set (n + 1) most else 0
    | none => 0

/-- The first answer for a number of steps, from the most down to the least. -/
def firstDown {α : Type} (attempt : Nat → Option α) (least : Nat) : Nat → Option α
  | 0 => if least = 0 then attempt 0 else none
  | n + 1 => if n + 1 < least then none else (attempt (n + 1)).orElse fun _ => firstDown attempt least n

/-- The first answer for a number of steps, from a least one on, so many at most. -/
def firstUp {α : Type} (attempt : Nat → Option α) (least : Nat) : Nat → Option α
  | 0 => attempt least
  | more + 1 => (attempt least).orElse fun _ => firstUp attempt (least + 1) more

/-- Tries a pattern at a place; `go` says what becomes of the rest. -/
def SearchPattern.tried (text : Array Char) :
    Nat → SearchPattern → Nat → Held → (Nat → Held → Option (Nat × Held)) → Option (Nat × Held)
  | 0, _, _, _, _ => none
  | fuel + 1, p, n, held, go =>
    match p with
    | .empty => go n held
    | .one set =>
      match text[n]? with
      | some c => if set.has c then go (n + 1) held else none
      | none => none
    | .test t => if t.holds text n then go n held else none
    | .sequence p q => tried text fuel p n held fun m held => tried text fuel q m held go
    | .either p q => (tried text fuel p n held go).orElse fun _ => tried text fuel q n held go
    | .times (.one set) least most isGreedy =>
      let count := runLength text set n (match most with
        | some most => min most (text.size - n)
        | none => text.size - n)
      let rest (k : Nat) := go (n + k) held
      if count < least then none
      else if isGreedy then firstDown rest least count
      else firstUp rest least (count - least)
    | .times p least most isGreedy =>
      if 0 < least then
        tried text fuel p n held fun m held =>
          tried text fuel (.times p (least - 1) (most.map (· - 1)) isGreedy) m held go
      else if most = some 0 then go n held
      else
        let more (_ : Unit) := tried text fuel p n held fun m held =>
          -- a piece without characters would not lead on
          if m = n then none
          else tried text fuel (.times p 0 (most.map (· - 1)) isGreedy) m held go
        if isGreedy then (more ()).orElse fun _ => go n held
        else (go n held).orElse more
    | .group number p =>
      tried text fuel p n held fun m held => go m (held.setIfInBounds number (some (n, m)))
    | .again number isCaseless =>
      match (held[number]?).join with
      | none => none
      | some (first, last) =>
        let same (a b : Option Char) : Bool :=
          match a, b with
          | some a, some b => a = b || (isCaseless && (caseForms a).contains b)
          | _, _ => false
        let size := last - first
        if (List.range size).all fun k => same text[first + k]? text[n + k]? then go (n + size) held
        else none
    | .ahead p isOther =>
      match tried text fuel p n held (fun m held => some (m, held)), isOther with
      | some (_, held), false => go n held
      | none, true => go n held
      | _, _ => none
    | .behind p width isOther =>
      let found := if n < width then none
        else tried text fuel p (n - width) held fun m held => if m = n then some (m, held) else none
      match found, isOther with
      | some (_, held), false => go n held
      | none, true => go n held
      | _, _ => none
    | .ifGroup number p q =>
      if ((held[number]?).join).isSome then tried text fuel p n held go
      else tried text fuel q n held go

/-- How many steps a search may take in a row. -/
def searchLimit : Nat := 10000000

/-- What a pattern with so many groups takes at a place: where it ends, and what its groups hold. -/
def SearchPattern.matchAt (p : SearchPattern) (groups : Nat) (text : Array Char) (n : Nat)
    (ends : Nat → Bool) : Option (Nat × Held) :=
  p.tried text searchLimit n (Array.replicate (groups + 1) none) fun m held =>
    if ends m then some (m, held.setIfInBounds 0 (some (n, m))) else none

/-- The first piece of a text from a place on that is as a pattern says; it may have to be more than
nothing at the first place. -/
def SearchPattern.matchFrom (p : SearchPattern) (groups : Nat) (text : Array Char)
    (mustAdvance : Bool) : Nat → Nat → Option Held
  | 0, n => (p.matchAt groups text n fun m => !(mustAdvance && m = n)).map (·.2)
  | more + 1, n =>
    match p.matchAt groups text n fun m => !(mustAdvance && m = n) with
    | some (_, held) => some held
    | none => matchFrom p groups text false more (n + 1)

/-- All pieces of a text that are as a pattern says, from a place on, so many at most. -/
def SearchPattern.matches (p : SearchPattern) (groups : Nat) (text : Array Char) :
    Nat → Bool → Nat → List Held
  | 0, _, _ => []
  | count + 1, mustAdvance, n =>
    if text.size < n then []
    else
      match p.matchFrom groups text mustAdvance (text.size - n) n with
      | none => []
      | some held =>
        match (held[0]?).join with
        | some (first, last) => held :: p.matches groups text count (last = first) last
        | none => []

end FirmwareSurvey.ResultScript

/-!
## Reading search patterns

A search pattern is read piece by piece. A sign for repetition belongs to the piece before it; groups
are counted from their opening parentheses, and may have names. What is wrong with a pattern is told
with the place where it was seen.
-/

namespace FirmwareSurvey.ResultScript

/-- Why a search pattern cannot be read, and the place. -/
structure SearchFlaw where
  /-- The wording. -/
  reason : String
  /-- The place. -/
  place : Nat

/-- What holds for a search pattern as a whole. -/
structure SearchFlags where
  /-- Small and capital letters count as the same. -/
  isCaseless : Bool := false
  /-- Each line has a start and an end. -/
  isByLine : Bool := false
  /-- A point stands for the ends of lines too. -/
  hasAllPoints : Bool := false
  /-- Blanks and comments are left out. -/
  isSpaced : Bool := false
  /-- Only plain letters, digits and blanks count as such. -/
  isAscii : Bool := false

namespace SearchFlags

/-- The flags of a number. -/
def ofNumber (n : Nat) : SearchFlags where
  isCaseless := n.testBit 1
  isByLine := n.testBit 3
  hasAllPoints := n.testBit 4
  isSpaced := n.testBit 6
  isAscii := n.testBit 8

/-- Turns the flag of a letter on or off. -/
def set (f : SearchFlags) (isOn : Bool) (letter : Char) : SearchFlags :=
  match letter with
  | 'i' => { f with isCaseless := isOn }
  | 'm' => { f with isByLine := isOn }
  | 's' => { f with hasAllPoints := isOn }
  | 'x' => { f with isSpaced := isOn }
  | 'a' => { f with isAscii := isOn }
  | 'u' => { f with isAscii := false }
  | _ => f

end SearchFlags

/-- Where a reader of a search pattern stands. -/
structure SearchCursor where
  /-- What is left to read. -/
  rest : List Char
  /-- How many characters were read. -/
  place : Nat := 0
  /-- How many groups were opened. -/
  groups : Nat := 0
  /-- The groups with names. -/
  names : List (String × Nat) := []
  /-- The groups that are not closed yet. -/
  opened : List Nat := []
  /-- What holds here. -/
  flags : SearchFlags := {}

/-- A reader of a part of a search pattern. -/
abbrev SearchReader (α : Type) := StateT SearchCursor (Except SearchFlaw) α

/-- What a sign for repetition would belong to. -/
inductive PieceKind where
  /-- Something that can be repeated. -/
  | plain
  /-- Something that asks for a place. -/
  | test
  /-- Something that is repeated already. -/
  | repeated
deriving DecidableEq

namespace SearchReader

/-- Fails at a place. -/
def failAt {α : Type} (place : Nat) (reason : String) : SearchReader α := throw ⟨reason, place⟩

/-- The next character. -/
def peek? : SearchReader (Option Char) := return (← get).rest.head?

/-- The next place. -/
def here : SearchReader Nat := return (← get).place

/-- Leaves characters behind. -/
def skip (n : Nat) : SearchReader Unit :=
  modify fun c => { c with rest := c.rest.drop n, place := c.place + n }

/-- Reads a character. -/
def next? : SearchReader (Option Char) := do
  let c ← peek?
  skip 1
  return c

/-- Reads characters if they come next. -/
def accept (cs : List Char) : SearchReader Bool := do
  if cs.isPrefixOf (← get).rest then
    skip cs.length
    return true
  else return false

/-- Reads characters of a class, so many at most. -/
def takeRun (p : Char → Bool) (most : Nat) : SearchReader (List Char) := do
  let cs := ((← get).rest.take most).takeWhile p
  skip cs.length
  return cs

/-- A set of one character or class. -/
def oneOf (members : List SetMember) : SearchReader SearchPattern := do
  let f := (← get).flags
  return .one { members, isCaseless := f.isCaseless, isAscii := f.isAscii }

/-- The pattern of a character. -/
def char (c : Char) : SearchReader SearchPattern := oneOf [.range c c]

/-- The class of characters that a letter stands for behind a backslash. -/
def classOf? : Char → Option SetMember
  | 'd' => some (.digit false)
  | 'D' => some (.digit true)
  | 'w' => some (.word false)
  | 'W' => some (.word true)
  | 's' => some (.blank false)
  | 'S' => some (.blank true)
  | _ => none

/-- The character that a letter stands for behind a backslash. -/
def letterOf? : Char → Option Char
  | 'n' => some '\n'
  | 't' => some '\t'
  | 'r' => some '\r'
  | 'a' => some '\x07'
  | 'f' => some '\x0c'
  | 'v' => some '\x0b'
  | '\\' => some '\\'
  | _ => none

/-- The character of digits behind a backslash and a letter. -/
def coded (start : Nat) (letter : Char) (count : Nat) : SearchReader Char := do
  let ds ← takeRun (fun c => (Text.digitValue? 16 c).isSome) count
  if ds.length = count then return Char.ofNat ((Text.digitsValue? 16 0 ds).getD 0)
  else failAt start s!"incomplete escape \\{letter}{String.ofList ds}"

/-- Whether a character is a digit below eight. -/
def isOctal (c : Char) : Bool := '0' ≤ c && c ≤ '7'

/-- Reads what follows a backslash as a character; none when it is no plain one. -/
def escapedChar? (start : Nat) (c : Char) : SearchReader (Option Char) := do
  match letterOf? c with
  | some e => return some e
  | none =>
    if c = 'x' then return some (← coded start c 2)
    else if c = 'u' then return some (← coded start c 4)
    else if c = 'U' then return some (← coded start c 8)
    else if c = '0' then
      let ds ← takeRun isOctal 2
      return some (Char.ofNat ((Text.digitsValue? 8 0 ds).getD 0))
    else if Text.isAsciiLetter c || c.isDigit then return none
    else return some c

/-- Fails because nothing is meant by a character behind a backslash. -/
def badEscape {α : Type} (start : Nat) (c : Char) : SearchReader α :=
  failAt start s!"bad escape \\{c}"

/-- Reads a member of a set, with how it is written. -/
def setMember (opening : Nat) : SearchReader (SetMember × String) := do
  let start ← here
  match ← next? with
  | none => failAt opening "unterminated character set"
  | some '\\' => do
    match ← next? with
    | none => failAt start "bad escape (end of pattern)"
    | some 'b' => return (.range '\x08' '\x08', "\\b")
    | some c =>
      let shown := String.ofList ['\\', c]
      match classOf? c with
      | some m => return (m, shown)
      | none =>
        if isOctal c then
          let ds ← takeRun isOctal 2
          let e := Char.ofNat ((Text.digitsValue? 8 0 (c :: ds)).getD 0)
          return (.range e e, shown)
        else
          match ← escapedChar? start c with
          | some e => return (.range e e, shown)
          | none => badEscape start c
  | some c => return (.range c c, String.ofList [c])

/-- Reads the members of a set up to its closing bracket. -/
def setMembers (opening : Nat) (done : List SetMember) : Nat → SearchReader (List SetMember)
  | 0 => failAt opening "unterminated character set"
  | fuel + 1 => do
    if !done.isEmpty && (← accept [']']) then return done.reverse
    else
      let start ← here
      let (first, firstShown) ← setMember opening
      if ← accept ['-'] then
        if ← accept [']'] then return (.range '-' '-' :: first :: done).reverse
        else
          let (last, lastShown) ← setMember opening
          match first, last with
          | .range a _, .range b _ =>
            if b < a then failAt start s!"bad character range {firstShown}-{lastShown}"
            else setMembers opening (.range a b :: done) fuel
          | _, _ => failAt start s!"bad character range {firstShown}-{lastShown}"
      else setMembers opening (first :: done) fuel

/-- Reads a set behind its opening bracket. -/
def setPattern (opening : Nat) : SearchReader SearchPattern := do
  let isOther ← accept ['^']
  let members ← setMembers opening [] ((← get).rest.length + 1)
  let f := (← get).flags
  return .one { members, isOther, isCaseless := f.isCaseless, isAscii := f.isAscii }

/-- A pattern that stands for what a group holds. -/
def reference (place number : Nat) : SearchReader SearchPattern := do
  let c ← get
  if c.groups < number then failAt place s!"invalid group reference {number}"
  else if c.opened.contains number then failAt place "cannot refer to an open group"
  else return .again number c.flags.isCaseless

/-- Reads what follows a backslash. -/
def escaped (start : Nat) : SearchReader (SearchPattern × PieceKind) := do
  let isAscii := (← get).flags.isAscii
  let test (t : PlaceTest) : SearchReader (SearchPattern × PieceKind) := return (.test t, .test)
  match ← next? with
  | none => failAt start "bad escape (end of pattern)"
  | some 'A' => test .textStart
  | some 'Z' => test .textEnd
  | some 'b' => test (.wordEdge isAscii false)
  | some 'B' => test (.wordEdge isAscii true)
  | some c =>
    match classOf? c with
    | some m => return (← oneOf [m], .plain)
    | none =>
      if c.isDigit && c != '0' then
        let ds := c :: (← takeRun Char.isDigit 1)
        let third ← if ds.length = 2 && ds.all isOctal && isOctal c then takeRun isOctal 1 else pure []
        if third.isEmpty then
          return (← reference (start + 1) ((Text.digitsValue? 10 0 ds).getD 0), .plain)
        else return (← char (Char.ofNat ((Text.digitsValue? 8 0 (ds ++ third)).getD 0)), .plain)
      else
        match ← escapedChar? start c with
        | some e => return (← char e, .plain)
        | none => badEscape start c

/-- Reads a name up to a sign. -/
def name (closing : Char) : SearchReader String := do
  let start ← here
  let cs ← takeRun (· != closing) (← get).rest.length
  let text := String.ofList cs
  if (← next?).isNone then
    if cs.isEmpty then failAt start "missing group name"
    else failAt start s!"missing {closing}, unterminated name"
  else if cs.isEmpty then failAt start "missing group name"
  else if cs.all isNamePart && cs.head?.all (!·.isDigit) then return text
  else failAt start s!"bad character in group name '{text}'"

/-- Opens a group. -/
def openGroup (name? : Option (String × Nat)) : SearchReader Nat := do
  let c ← get
  let number := c.groups + 1
  match name? with
  | some (name, start) =>
    match c.names.lookup name with
    | some before =>
      failAt start s!"redefinition of group name '{name}' as group {number}; was group {before}"
    | none =>
      set { c with
        groups := number
        names := c.names ++ [(name, number)]
        opened := number :: c.opened }
  | none => set { c with groups := number, opened := number :: c.opened }
  return number

/-- Reads the numbers of a repetition between braces; none when they are no such numbers. -/
def bounds? (start : Nat) : SearchReader (Option (Nat × Option Nat)) := do
  let before ← get
  let low ← takeRun Char.isDigit before.rest.length
  let number (ds : List Char) : Nat := (Text.digitsValue? 10 0 ds).getD 0
  let high? ← if ← accept [','] then
      let high ← takeRun Char.isDigit before.rest.length
      pure (if high.isEmpty then none else some (number high))
    else pure (if low.isEmpty then none else some (number low))
  if before.rest.head? != some '\x7d' && (← accept ['\x7d']) then
    if high?.any fun high => high < number low then
      failAt start "min repeat greater than max repeat"
    else return some (number low, high?)
  else
    set before
    return none

/-- The pieces of a row as one pattern; the last one comes first. -/
def joined (pieces : List (SearchPattern × PieceKind)) : SearchPattern :=
  match pieces with
  | [] => .empty
  | (last, _) :: before => before.foldl (fun p piece => .sequence piece.1 p) last

/-- Puts a repetition on the last one of some pieces. -/
def repeated (start least : Nat) (most : Option Nat) (pieces : List (SearchPattern × PieceKind)) :
    SearchReader (List (SearchPattern × PieceKind)) := do
  match pieces with
  | (p, .plain) :: before => do
    let isLazy ← accept ['?']
    let _ ← if isLazy then pure false else accept ['+']
    return (.times p least most (!isLazy), .repeated) :: before
  | (_, .repeated) :: _ => failAt start "multiple repeat"
  | _ => failAt start "nothing to repeat"

/-- Finishes a group that looks back. -/
def behind (opening : Nat) (isOther : Bool) (p : SearchPattern) (close : SearchReader Unit) :
    SearchReader (Option SearchPattern) := do
  close
  match p.width? with
  | some width => return some (.behind p width isOther)
  | none => failAt opening "look-behind requires fixed-width pattern"

mutual

/-- Reads alternatives. -/
def choice : Nat → SearchReader SearchPattern
  | 0 => failAt 0 "pattern too large"
  | fuel + 1 => do
    let first ← row [] fuel
    if ← accept ['|'] then return .either first (← choice fuel) else return first
termination_by structural fuel => fuel

/-- Reads pieces in a row, up to a bar or a parenthesis. -/
def row (done : List (SearchPattern × PieceKind)) : Nat → SearchReader SearchPattern
  | 0 => failAt 0 "pattern too large"
  | fuel + 1 => do
    let start ← here
    match ← peek? with
    | none => return joined done
    | some '|' => return joined done
    | some ')' => return joined done
    | some c => do
      skip 1
      let f := (← get).flags
      if f.isSpaced && isBlankOctet c then row done fuel
      else if f.isSpaced && c = '#' then
        let _ ← takeRun (· != '\n') (← get).rest.length
        row done fuel
      else
        match c with
        | '.' => do
          let all : CharSet := { members := if f.hasAllPoints then [] else [.range '\n' '\n'], isOther := true }
          row ((.one all, .plain) :: done) fuel
        | '^' => row ((.test (if f.isByLine then .lineStart else .textStart), .test) :: done) fuel
        | '$' => row ((.test (if f.isByLine then .lineEnd else .lastEnd), .test) :: done) fuel
        | '[' => row ((← setPattern start, .plain) :: done) fuel
        | '\\' => row ((← escaped start) :: done) fuel
        | '(' =>
          match ← group start fuel with
          | some p => row ((p, .plain) :: done) fuel
          | none => row done fuel
        | '*' => row (← repeated start 0 none done) fuel
        | '+' => row (← repeated start 1 none done) fuel
        | '?' => row (← repeated start 0 (some 1) done) fuel
        | '\x7b' =>
          match ← bounds? (start + 1) with
          | some (least, most) => row (← repeated start least most done) fuel
          | none => row ((← char c, .plain) :: done) fuel
        | c => row ((← char c, .plain) :: done) fuel
termination_by structural fuel => fuel

/-- Reads a group behind its opening parenthesis; none when it is a remark. -/
def group (opening : Nat) : Nat → SearchReader (Option SearchPattern)
  | 0 => failAt 0 "pattern too large"
  | fuel + 1 => do
    let flags := (← get).flags
    let close : SearchReader Unit := do
      if !(← accept [')']) then failAt opening "missing ), unterminated subpattern"
      modify fun c => { c with flags }
    let held (name? : Option (String × Nat)) : SearchReader (Option SearchPattern) := do
      let number ← openGroup name?
      let p ← choice fuel
      close
      modify fun c => { c with opened := c.opened.filter (· != number) }
      return some (.group number p)
    let plain : SearchReader (Option SearchPattern) := do
      let p ← choice fuel
      close
      return some p
    if !(← accept ['?']) then held none
    else if ← accept [':'] then plain
    else if ← accept ['='] then
      let p ← choice fuel
      close
      return some (.ahead p false)
    else if ← accept ['!'] then
      let p ← choice fuel
      close
      return some (.ahead p true)
    else if ← accept "<=".toList then behind opening false (← choice fuel) close
    else if ← accept "<!".toList then behind opening true (← choice fuel) close
    else if ← accept "P<".toList then
      let start ← here
      let name ← name '>'
      held (some (name, start))
    else if ← accept "P=".toList then
      let start ← here
      let name ← name ')'
      match (← get).names.lookup name with
      | some number => return some (← reference start number)
      | none => failAt start s!"unknown group name '{name}'"
    else if ← accept ['>'] then plain
    else if ← accept ['#'] then
      let _ ← takeRun (· != ')') (← get).rest.length
      if ← accept [')'] then return none
      else failAt opening "missing ), unterminated comment"
    else if ← accept ['('] then
      let start ← here
      let text ← takeRun (· != ')') (← get).rest.length
      let _ ← accept [')']
      let names := (← get).names
      let number? := if text.all Char.isDigit then Text.digitsValue? 10 0 text
        else names.lookup (String.ofList text)
      match number? with
      | none => failAt start s!"unknown group name '{String.ofList text}'"
      | some number => do
        let yes ← row [] fuel
        let no ← if ← accept ['|'] then row [] fuel else pure .empty
        close
        return some (.ifGroup number yes no)
    else
      let letters := "aiLmsux".toList
      let on ← takeRun letters.contains (← get).rest.length
      let off ← if ← accept ['-'] then takeRun letters.contains (← get).rest.length else pure []
      if on.isEmpty && off.isEmpty then
        match ← next? with
        | none => failAt (opening + 2) "unexpected end of pattern"
        | some c => failAt (opening + 1) s!"unknown extension ?{c}"
      else
        let inner := off.foldl (fun f l => f.set false l) (on.foldl (fun f l => f.set true l) flags)
        if ← accept [')'] then
          if opening = 0 then
            modify fun c => { c with flags := inner }
            return none
          else failAt opening "global flags not at the start of the expression"
        else if ← accept [':'] then
          modify fun c => { c with flags := inner }
          plain
        else if (← peek?).isNone then failAt (← here) "missing -, : or )"
        else failAt (← here) "unknown flag"
termination_by structural fuel => fuel

end

end SearchReader

/-- A search pattern that was read: how many groups it has, and those with names. -/
structure ReadSearch where
  /-- The pattern. -/
  pattern : SearchPattern
  /-- How many groups it has. -/
  groups : Nat
  /-- The groups with names. -/
  names : List (String × Nat)

/-- Reads a search pattern. -/
def ReadSearch.ofChars (flags : SearchFlags) (cs : List Char) : Except SearchFlaw ReadSearch := do
  let (p, c) ← (SearchReader.choice (4 * cs.length + 8)).run { rest := cs, flags }
  if c.rest.isEmpty then return ⟨p, c.groups, c.names⟩
  else throw ⟨"unbalanced parenthesis", c.place⟩

end FirmwareSurvey.ResultScript
