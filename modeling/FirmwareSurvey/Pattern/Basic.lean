
/-!
# Regular expressions

A pattern describes pieces of a line. Some of its forms hold only at certain spots, such as the start
of the line or the edge of a word, and one refers back to what a group took. A line contains a
pattern when a piece of it, anywhere, is as the pattern says.

Lines are read character by character. What may follow a character in a piece is again a finite list
of patterns, the partial derivatives of the pattern by that character, each with what its groups
have taken so far; a line contains the pattern as soon as one of the patterns under way is content
with nothing more.
-/

namespace FirmwareSurvey

/-- A class of characters. -/
structure CharClass where
  /-- The ranges it consists of, both ends included. -/
  ranges : List (Char × Char)
  /-- Whether it consists of all other characters instead. -/
  isNegated : Bool := false
deriving DecidableEq

/-- Whether a character belongs to a class. -/
def CharClass.has (k : CharClass) (c : Char) : Bool :=
  (k.ranges.any fun r => r.1 ≤ c && c ≤ r.2) != k.isNegated

/-- The characters of words. -/
def CharClass.word : CharClass := ⟨[('0', '9'), ('A', 'Z'), ('_', '_'), ('a', 'z')], false⟩

/-! ### Spots -/

/-- A spot in a line: the characters before and behind it, where there are any. -/
structure Spot where
  /-- The character before. -/
  before : Option Char
  /-- The character behind. -/
  behind : Option Char

/-- What may be asked of a spot. -/
inductive Edge where
  /-- The line starts here. -/
  | lineStart
  /-- The line ends here. -/
  | lineEnd
  /-- A word starts here. -/
  | wordStart
  /-- A word ends here. -/
  | wordEnd
  /-- A word starts or ends here. -/
  | word
  /-- No word starts or ends here. -/
  | noWord
deriving DecidableEq

/-- Whether a spot is as asked. -/
def Edge.holds (s : Spot) (e : Edge) : Bool :=
  let before := s.before.any CharClass.word.has
  let behind := s.behind.any CharClass.word.has
  match e with
  | lineStart => s.before.isNone
  | lineEnd => s.behind.isNone
  | wordStart => !before && behind
  | wordEnd => before && !behind
  | word => before != behind
  | noWord => before == behind

/-! ### Patterns -/

/-- A regular expression. -/
inductive Pattern where
  /-- The empty piece. -/
  | empty
  /-- The empty piece at certain spots. -/
  | edge (e : Edge)
  /-- One character of a class. -/
  | one (k : CharClass)
  /-- One piece behind another. -/
  | sequence (p q : Pattern)
  /-- A piece of one kind or of the other. -/
  | choice (p q : Pattern)
  /-- Any number of pieces. -/
  | many (p : Pattern)
  /-- A piece that is taken by a group, behind what the group has taken of it. -/
  | group (number : Nat) (taken : List Char) (p : Pattern)
  /-- The piece that a group took last. -/
  | again (number : Nat)
deriving DecidableEq

namespace Pattern

/-- One given character. -/
def char (c : Char) : Pattern := .one ⟨[(c, c)], false⟩

/-- Any one character. -/
def any : Pattern := .one ⟨[], true⟩

/-- Given characters one behind the other. -/
def chars : List Char → Pattern
  | [] => .empty
  | [c] => char c
  | c :: cs => .sequence (char c) (chars cs)

/-- A number of pieces. -/
def times (p : Pattern) : Nat → Pattern
  | 0 => .empty
  | n + 1 => .sequence p (p.times n)

/-- Up to a number of pieces. -/
def upTo (p : Pattern) : Nat → Pattern
  | 0 => .empty
  | n + 1 => .choice .empty (.sequence p (p.upTo n))

/-- Whether a pattern refers back to a group. -/
def refersTo (number : Nat) : Pattern → Bool
  | empty => false
  | edge _ => false
  | one _ => false
  | sequence p q => p.refersTo number || q.refersTo number
  | choice p q => p.refersTo number || q.refersTo number
  | many p => p.refersTo number
  | group _ _ p => p.refersTo number
  | again n => n == number

/-- A pattern without the groups that are not asked for. -/
def keeping (asked : Nat → Bool) : Pattern → Pattern
  | sequence p q => .sequence (p.keeping asked) (q.keeping asked)
  | choice p q => .choice (p.keeping asked) (q.keeping asked)
  | many p => .many (p.keeping asked)
  | group n taken p => if asked n then .group n taken (p.keeping asked) else p.keeping asked
  | p => p

/-! ### Reading a line -/

/-- What the groups took, the latest first. -/
abbrev Taken := List (Nat × List Char)

/-- The ways in which a pattern is content with nothing at a spot. -/
def nothings (s : Spot) (taken : Taken) : Pattern → List Taken
  | empty => [taken]
  | edge e => if e.holds s then [taken] else []
  | one _ => []
  | sequence p q => (p.nothings s taken).flatMap fun taken => q.nothings s taken
  | choice p q => p.nothings s taken ++ q.nothings s taken
  | many p => taken :: p.nothings s taken
  | group n held p => (p.nothings s taken).map ((n, held) :: ·.filter (·.1 != n))
  | again n => if taken.lookup n == some [] then [taken] else []

/-- A pattern behind another, of which nothing is left when it is the empty one. -/
def before (p q : Pattern) : Pattern := if p = .empty then q else .sequence p q

/-- What may follow a character at a spot in a piece that is as a pattern says. -/
def derivatives (s : Spot) (c : Char) (taken : Taken) : Pattern → List (Pattern × Taken)
  | empty => []
  | edge _ => []
  | one k => if k.has c then [(.empty, taken)] else []
  | sequence p q =>
    (p.derivatives s c taken).map (fun (p, taken) => (p.before q, taken)) ++
      (p.nothings s taken).flatMap fun taken => q.derivatives s c taken
  | choice p q => p.derivatives s c taken ++ q.derivatives s c taken
  | many p => (p.derivatives s c taken).map fun (p', taken) => (p'.before (.many p), taken)
  | group n held p =>
    (p.derivatives s c taken).map fun (p, taken) => (.group n (held ++ [c]) p, taken)
  | again n =>
    match taken.lookup n with
    | some (d :: ds) => if d = c then [(chars ds, taken)] else []
    | _ => []

/-- Whether a line contains a pattern, when its rest may also complete the patterns under way. -/
def occursFrom (p : Pattern) (underWay : List (Pattern × Taken)) (before : Option Char) :
    List Char → Bool
  | [] => ((p, []) :: underWay).any fun (q, taken) => !(q.nothings ⟨before, none⟩ taken).isEmpty
  | c :: cs =>
    let spot : Spot := ⟨before, some c⟩
    let present := (p, []) :: underWay
    present.any (fun (q, taken) => !(q.nothings spot taken).isEmpty) ||
      p.occursFrom (present.flatMap fun (q, taken) => q.derivatives spot c taken).eraseDups
        (some c) cs

/-- Whether a line contains a pattern. -/
def occursIn (p : Pattern) (line : List Char) : Bool := p.occursFrom [] none line

end Pattern

end FirmwareSurvey

/-!
## Finding a pattern in a line

Of the pieces of a line that are as a pattern says, the one that starts first is found, and of those
the longest one; the pieces that the groups of the pattern took are found with it.
-/

namespace FirmwareSurvey.Pattern

/-- A piece of a line that is as a pattern says. -/
structure Match where
  /-- What stands before it. -/
  before : List Char
  /-- The piece. -/
  piece : List Char
  /-- What stands behind it. -/
  behind : List Char
  /-- What the groups took. -/
  taken : Taken

/-- How far along a line one of some patterns under way is content at last, and what its groups took;
`n` characters were read. -/
def longestFrom (underWay : List (Pattern × Taken)) (before : Option Char) (n : Nat)
    (best : Option (Nat × Taken)) : List Char → Option (Nat × Taken)
  | [] =>
    match underWay.flatMap fun (q, taken) => q.nothings ⟨before, none⟩ taken with
    | taken :: _ => some (n, taken)
    | [] => best
  | c :: cs =>
    let spot : Spot := ⟨before, some c⟩
    let best := match underWay.flatMap fun (q, taken) => q.nothings spot taken with
      | taken :: _ => some (n, taken)
      | [] => best
    let next := (underWay.flatMap fun (q, taken) => q.derivatives spot c taken).eraseDups
    if next.isEmpty then best else longestFrom next (some c) (n + 1) best cs

/-- The first and longest piece of a line behind some characters, the last one first. -/
def findFrom (p : Pattern) (passed : List Char) (cs : List Char) : Option Match :=
  match longestFrom [(p, [])] passed.head? 0 none cs with
  | some (n, taken) => some ⟨passed.reverse, cs.take n, cs.drop n, taken⟩
  | none =>
    match cs with
    | [] => none
    | c :: rest => findFrom p (c :: passed) rest

/-- The first and longest piece of a line that is as a pattern says. -/
def find? (p : Pattern) (line : List Char) : Option Match := findFrom p [] line

/-- How many groups a pattern has. -/
def groupCount : Pattern → Nat
  | sequence p q => max p.groupCount q.groupCount
  | choice p q => max p.groupCount q.groupCount
  | many p => p.groupCount
  | group n _ p => max n p.groupCount
  | _ => 0

end FirmwareSurvey.Pattern

/-!
## Classes in brackets

A class names its members between brackets: characters, ranges from one character to another,
classes that have names, between brackets and colons, and characters between brackets and dots or
equality signs. A closing bracket stands for itself where it comes first, and a hyphen where it comes
first or last or ends a range.
-/

namespace FirmwareSurvey.Pattern

/-- The classes that have names. -/
def namedClasses : List (String × List (Char × Char)) :=
  [("alnum", [('0', '9'), ('A', 'Z'), ('a', 'z')]), ("alpha", [('A', 'Z'), ('a', 'z')]),
    ("blank", [(' ', ' '), ('\t', '\t')]), ("cntrl", [('\x00', '\x1f'), ('\x7f', '\x7f')]),
    ("digit", [('0', '9')]), ("graph", [('!', '~')]), ("lower", [('a', 'z')]),
    ("print", [(' ', '~')]), ("punct", [('!', '/'), (':', '@'), ('[', '\x60'), ('\x7b', '~')]),
    ("space", [(' ', ' '), ('\t', '\r')]), ("upper", [('A', 'Z')]),
    ("xdigit", [('0', '9'), ('A', 'F'), ('a', 'f')])]

/-- A member of a class. -/
inductive Member where
  /-- A character, which a range may start with. -/
  | char (c : Char)
  /-- Ranges, as a whole. -/
  | ranges (rs : List (Char × Char))

/-- Reads what stands before a sign and a closing bracket. -/
def readNamed? (sign : Char) : List Char → Option (List Char × List Char)
  | [] => none
  | [_] => none
  | c :: d :: rest =>
    if c = sign && d = ']' then some ([], rest)
    else (readNamed? sign (d :: rest)).map fun (name, rest) => (c :: name, rest)

/-- Reads a member. A hyphen is one only where that is allowed, and before the closing bracket. -/
def readMember? (allowsHyphen : Bool) (cs : List Char) : Option (Member × List Char) :=
  match cs with
  | [] => none
  | '[' :: ':' :: rest => do
    let (name, rest) ← readNamed? ':' rest
    let ranges ← namedClasses.lookup (String.ofList name)
    some (.ranges ranges, rest)
  | '[' :: '=' :: rest =>
    match readNamed? '=' rest with
    | some ([c], rest) => some (.ranges [(c, c)], rest)
    | _ => none
  | '[' :: '.' :: rest =>
    match readNamed? '.' rest with
    | some ([c], rest) => some (.char c, rest)
    | _ => none
  | '-' :: rest =>
    if allowsHyphen || rest.head? == some ']' then some (.char '-', rest) else none
  | c :: rest => some (.char c, rest)

/-- Reads members up to the closing bracket. `fuel` bounds their number. -/
def readMembers : Nat → Bool → List Char → Option (List (Char × Char) × List Char)
  | 0, _, _ => none
  | fuel + 1, isFirst, cs =>
    if !isFirst && cs.head? == some ']' then some ([], cs.drop 1)
    else do
      let (member, rest) ← readMember? isFirst cs
      let (ranges, rest) ← match member, rest with
        | .ranges rs, rest => some (rs, rest)
        | .char c, '-' :: ']' :: rest => some ([(c, c)], '-' :: ']' :: rest)
        | .char c, '-' :: rest =>
          match readMember? true rest with
          | some (.char d, rest) => if d < c then none else some ([(c, d)], rest)
          | _ => none
        | .char c, rest => some ([(c, c)], rest)
      let (more, rest) ← readMembers fuel false rest
      some (ranges ++ more, rest)

/-- Whether members are written like a named class that lacks its own brackets. -/
def isBareName (members : List Char) : Bool :=
  members.head? == some ':' && members.getLast? == some ':' && members.any (· != ':')

/-- Reads a class behind its opening bracket. One written like the name of a class is none. -/
def readClass? (cs : List Char) : Option (CharClass × List Char) := do
  let isNegated := cs.head? == some '^'
  let body := if isNegated then cs.drop 1 else cs
  let (ranges, rest) ← readMembers (body.length + 1) true body
  if ranges.all (fun r => r.1 = r.2) && isBareName (body.take (body.length - rest.length - 1)) then
    none
  else some (⟨ranges, isNegated⟩, rest)

end FirmwareSurvey.Pattern
