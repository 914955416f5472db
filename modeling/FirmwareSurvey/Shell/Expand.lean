import FirmwareSurvey.Shell.State

/-!
# What words stand for

A word is worked out from left to right into a row of characters, each of which tells whether it is
quoted, was written in the script, or comes from a value. The row is then cut into words at the
separators among the characters that come from values, and a word with signs of a pattern in it
stands for the files that the pattern matches, if there are any.

What commands write is asked for through a parameter of these functions.
-/

namespace FirmwareSurvey.Shell

/-- Where a character of a word comes from. -/
inductive Mark where
  /-- It is quoted. -/
  | quoted
  /-- It was written in the script. -/
  | written
  /-- It comes from a value. -/
  | loose
deriving DecidableEq

/-- A part of a word that is being worked out. -/
inductive Atom where
  /-- A character. -/
  | char (c : Char) (mark : Mark)
  /-- There is a word here, even if it is empty. -/
  | keep
  /-- There is no word here, if nothing else is. -/
  | void
  /-- A word ends and the next one starts. -/
  | cut
deriving DecidableEq

namespace Atom

/-- Characters of one origin. -/
def ofChars (mark : Mark) (cs : List Char) : List Atom := cs.map (.char · mark)

/-- The character of an atom. -/
def char? : Atom → Option Char
  | .char c _ => some c
  | _ => none

/-- The character of an atom as part of a pattern. -/
def marked? : Atom → Option (Char × Bool)
  | .char c mark => some (c, mark == .quoted)
  | _ => none

/-- An atom that is part of a value: what was written counts as part of it. -/
def loosen : Atom → Atom
  | .char c .written => .char c .loose
  | a => a

/-- An atom inside of quotes. -/
def quote : Atom → Atom
  | .char c _ => .char c .quoted
  | a => a

end Atom

/-! ### Cutting into words -/

/-- Words that are being built. -/
structure Fields where
  /-- The complete words, the last one first. -/
  complete : List Marked := []
  /-- The word that is being built, the last character first. -/
  current : Option Marked := none
  /-- Whether a blank ended the last word. -/
  isBlank : Bool := false

namespace Fields

/-- Completes the word that is being built. -/
def close (f : Fields) : Fields :=
  match f.current with
  | some w => { f with complete := w.reverse :: f.complete, current := none }
  | none => f

/-- Adds an atom, where some characters separate words. -/
def add (separators : List Char) (f : Fields) (a : Atom) : Fields :=
  let more (m : Marked) : Fields :=
    { f with current := some (m ++ f.current.getD []), isBlank := false }
  match a with
  | .keep => more []
  | .void => f
  | .cut => { f.close with isBlank := false }
  | .char c mark =>
    if mark = .loose && separators.contains c then
      let isSpace := c = ' ' || c = '\t' || c = '\n'
      match f.current with
      | some _ => { f.close with isBlank := isSpace }
      | none =>
        if isSpace then f
        else if f.isBlank then { f with isBlank := false }
        else { f with complete := [] :: f.complete }
    else more [(c, mark == .quoted)]

/-- The words of some atoms. -/
def ofAtoms (separators : List Char) (atoms : List Atom) : List Marked :=
  let hasText := atoms.any fun a => match a with
    | .char _ _ => true
    | .cut => true
    | _ => false
  if atoms.contains .void && !hasText then []
  else (atoms.foldl (add separators) {}).close.complete.reverse

end Fields

/-! ### Braces -/

/-- Whether a piece is a character written in the script. -/
def isWritten (c : Char) : Piece → Bool
  | .literal [d] false => c == d
  | _ => false

/-- Takes a word up to the brace that closes: its parts between commas, and the rest. `depth` is how
many braces are open inside. -/
def braceParts (depth : Nat) (part : Word) : Word → Option (List Word × Word)
  | [] => none
  | p :: ps =>
    if isWritten '\x7b' p then braceParts (depth + 1) (p :: part) ps
    else if isWritten '\x7d' p then
      if depth = 0 then some ([part.reverse], ps) else braceParts (depth - 1) (p :: part) ps
    else if isWritten ',' p && depth = 0 then
      (braceParts 0 [] ps).map fun (parts, rest) => (part.reverse :: parts, rest)
    else braceParts depth (p :: part) ps

/-- The characters of a word in which nothing is quoted and nothing has a meaning of its own. -/
def writtenChars? : Word → Option (List Char)
  | [] => some []
  | .literal cs false :: ps => (writtenChars? ps).map (cs ++ ·)
  | _ => none

/-- A text cut at its pairs of dots. -/
def cutAtDots : List Char → List (List Char)
  | [] => [[]]
  | '.' :: '.' :: cs => [] :: cutAtDots cs
  | c :: cs =>
    match cutAtDots cs with
    | w :: ws => (c :: w) :: ws
    | [] => [[c]]

/-- A whole number with a sign. -/
def signedNumber? (cs : List Char) : Option Int :=
  match cs with
  | '-' :: ds => (Text.decimal? ds).map fun n => -(n : Int)
  | ds => (Text.decimal? ds).map Int.ofNat

/-- The numbers from one to another, in steps. -/
def numbersBetween (a b : Int) (step : Nat) : List Int :=
  let n := (b - a).natAbs / step
  (List.range (n + 1)).map fun (i : Nat) =>
    if a ≤ b then a + ((i * step : Nat) : Int) else a - ((i * step : Nat) : Int)

/-- A number with zeros before it up to a width. -/
def paddedNumber (width : Nat) (n : Int) : List Char :=
  let digits := Text.decimalChars n.natAbs
  if n < 0 then '-' :: Text.padZeros (width - 1) digits else Text.padZeros width digits

/-- The texts of a range between braces. -/
def braceRange? (cs : List Char) : Option (List (List Char)) :=
  let between (a b : List Char) (step : Nat) : Option (List (List Char)) :=
    match signedNumber? a, signedNumber? b with
    | some m, some n =>
      let isPadded (w : List Char) : Bool :=
        let digits := if w.head? = some '-' then w.drop 1 else w
        1 < digits.length && digits.head? = some '0'
      let width := if isPadded a || isPadded b then max a.length b.length else 0
      some ((numbersBetween m n step).map (paddedNumber width))
    | _, _ =>
      match a, b with
      | [c], [d] =>
        if c.isAlpha && d.isAlpha then
          some ((numbersBetween c.toNat d.toNat step).map fun n => [Char.ofNat n.toNat])
        else none
      | _, _ => none
  match cutAtDots cs with
  | [a, b] => between a b 1
  | [a, b, step] => (signedNumber? step).bind fun n => between a b (max 1 n.natAbs)
  | _ => none

/-- The words that a word with braces stands for. `fuel` bounds its length. -/
def braces : Nat → Word → List Word
  | 0, w => [w]
  | _ + 1, [] => [[]]
  | fuel + 1, p :: ps =>
    let plain : List Word := (braces fuel ps).map (p :: ·)
    if isWritten '\x7b' p then
      match braceParts 0 [] ps with
      | some ([w], rest) =>
        match (writtenChars? w).bind braceRange? with
        | some texts =>
          texts.flatMap fun t => (braces fuel rest).map (.literal t true :: ·)
        | none => plain
      | some (parts, rest) =>
        let tails := braces fuel rest
        parts.flatMap fun w => (braces fuel w).flatMap fun v => tails.map (v ++ ·)
      | none => plain
    else plain

/-! ### Values -/

/-- What is found for a parameter. -/
inductive Found where
  /-- Nothing. -/
  | missing
  /-- A text. -/
  | one (cs : List Char)
  /-- A row of texts, each for itself or joined. -/
  | many (texts : List (List Char)) (joined : Bool)

namespace Found

/-- Whether something stands in for this. -/
def isMissing (orEmpty : Bool) : Found → Bool
  | .missing => true
  | .one cs => orEmpty && cs.isEmpty
  | .many texts _ => texts.isEmpty || (orEmpty && texts.all List.isEmpty && texts.length ≤ 1)

/-- Changes each text. -/
def map (f : List Char → List Char) : Found → Found
  | .missing => .one (f [])
  | .one cs => .one (f cs)
  | .many texts joined => .many (texts.map f) joined

end Found

/-- Small letters as capital ones, or the other way round; all or only the first. -/
def cased (upper all : Bool) (cs : List Char) : List Char :=
  let change (c : Char) := if upper then c.toUpper else c.toLower
  if all then cs.map change
  else match cs with
    | [] => []
    | c :: cs => change c :: cs

namespace Run

/-- What the letters of the options are. -/
def optionLetters : List (Char × String) :=
  [('a', "allexport"), ('e', "errexit"), ('f', "noglob"), ('h', "hashall"), ('n', "noexec"),
    ('u', "nounset"), ('v', "verbose"), ('x', "xtrace"), ('C', "noclobber")]

/-- The text that a place or a key of a name stands for. -/
def foundAt (name : List Char) (index : Int) : Run Found := do
  match (← get).item? name index with
  | some cs => return .one cs
  | none => return .missing

variable (substitute : List Command → Run (List Char))

/-- What is found for a parameter whose place, if it has one, is known as a text. -/
def lookUp (p : Parameter) (index : List Char) : Run Found := do
  let s ← get
  let name := (← read).name
  match p with
  | .positional 0 => return .one name
  | .positional (n + 1) => return (s.arguments[n]?.map Found.one).getD .missing
  | .arguments => return .many s.arguments false
  | .joined => return .many s.arguments true
  | .count => return .one (Text.decimalChars s.arguments.length)
  | .status => return .one (Text.decimalChars s.status)
  | .process => return .one (Text.decimalChars State.processNumber)
  | .background =>
    match s.jobs with
    | [] => return .missing
    | (n, _) :: _ => return .one (Text.decimalChars n)
  | .options =>
    let letters := (optionLetters.filter fun o => s.has o.2).map (·.1)
    return .one (if (← read).dialect = .extended then letters ++ ['h', 'B'] else letters)
  | .variable name =>
    return ((s.text? name).map Found.one).getD .missing
  | .element name _ =>
    match s.value? name with
    | some (.table items) => return ((items.lookup index).map Found.one).getD .missing
    | _ => foundAt name (← calculated index "")
  | .elements name joined =>
    return ((s.value? name).map fun v => Found.many v.texts joined).getD .missing
  | .indices name joined =>
    return ((s.value? name).map fun v => Found.many v.keys joined).getD (.many [] joined)

/-- The name of a parameter in a complaint. -/
def parameterName (p : Parameter) : Run (List Char) := do
  let dollar : List Char := if (← read).dialect = .extended then ['$'] else []
  return match p with
    | .positional n => dollar ++ Text.decimalChars n
    | .background => dollar ++ ['!']
    | .variable name => name
    | .element name _ => name
    | .elements name _ => name
    | _ => []

/-- Ends the script because a parameter has no value. -/
def demandFails {α : Type} (text : String) : Run α := do
  complain text
  throw (.exit (if (← read).dialect = .plain then 2 else 1))

/-- Complains about a parameter without a value if that is wanted. -/
def requireValue (p : Parameter) (f : Found) : Run Unit := do
  match f with
  | .missing =>
    if (← get).has "nounset" then
      let isRow := match p with
        | .elements _ _ => true
        | _ => false
      if !isRow then
        let wording :=
          if (← read).dialect = .plain then "parameter not set" else "unbound variable"
        demandFails s!"{Octets.toText (← parameterName p)}: {wording}"
  | _ => return ()

/-- Texts joined by the first separator. -/
def joinedTexts (texts : List (List Char)) : Run (List Char) := do
  let s ← get
  match (s.text? "IFS".toList).getD [' '] with
  | [] => return texts.flatten
  | c :: _ => return Text.joinWith c texts

/-- The atoms of what is found for a parameter. In a place for one text the texts of a row are
joined. -/
def foundAtoms (f : Found) (quoted one : Bool) : Run (List Atom) := do
  let mark : Mark := if quoted then .quoted else .loose
  let around (cs : List Char) : List Atom :=
    (if quoted then [.keep] else []) ++ Atom.ofChars mark cs
  match f with
  | .missing => return around []
  | .one cs => return around cs
  | .many texts joined =>
    if quoted && joined then return around (← joinedTexts texts)
    else if one then
      if joined || (← read).dialect = .plain then
        return around (← joinedTexts texts)
      else return around (Text.joinWith ' ' texts)
    else if texts.isEmpty then return if quoted then [.void] else []
    else
      let apart := (← get).separators.head?.any fun c => !(c = ' ' || c = '\t' || c = '\n')
      if !quoted && apart && (← read).dialect = .extended then
        return around (← joinedTexts texts)
      else return (texts.map around).intersperse [.cut] |>.flatten

/-- A part of a row or a text: its start, which counts from behind when it is negative, and what is
left of a length. -/
def partOf {α : Type} (xs : List α) (start : Int) (length : Option Int) : Option (List α) :=
  let size : Int := xs.length
  let first := if start < 0 then size + start else start
  if first < 0 || size < first then some []
  else
    match length with
    | none => some (xs.drop first.toNat)
    | some n =>
      let last := if n < 0 then size + n else first + n
      if last < first then none else some ((xs.drop first.toNat).take (last - first).toNat)

/-- The parameter that a text names. -/
def namedParameter? (cs : List Char) : Option Parameter :=
  if isName cs then some (.variable cs)
  else
    match cs with
    | ['@'] => some .arguments
    | ['*'] => some .joined
    | _ =>
      match Text.decimal? cs with
      | some n => some (.positional n)
      | none =>
        match Text.cutOnce? '[' cs with
        | some (name, ['@', ']']) => some (.elements name false)
        | some (name, ['*', ']']) => some (.elements name true)
        | some (name, index) => some (.element name [.literal index.dropLast true])
        | none => none

/-- The index in a parameter that has one. -/
def indexOf : Parameter → Word
  | .element _ index => index
  | _ => []

mutual

/-- The atoms of a word. -/
def wordAtoms (one : Bool) : Nat → Word → Run (List Atom)
  | 0, _ => return []
  | fuel + 1, w => do
    let parts ← w.mapM (pieceAtoms one fuel)
    return parts.flatten
termination_by structural fuel => fuel

/-- The atoms of a piece. -/
def pieceAtoms (one : Bool) : Nat → Piece → Run (List Atom)
  | 0, _ => return []
  | fuel + 1, p => do
    match p with
    | .literal cs true => return .keep :: Atom.ofChars .quoted cs
    | .literal cs false => return Atom.ofChars .written cs
    | .home => do
      match (← get).text? "HOME".toList with
      | some cs => return .keep :: Atom.ofChars .quoted cs
      | none => return [.char '~' .quoted]
    | .substitution script quoted => do
      let text := (← substitute script).filter (· != '\x00')
      let text := (text.reverse.dropWhile (· = '\n')).reverse
      foundAtoms (.one text) quoted one
    | .calculation text quoted => do
      let n ← calculated (← wordText fuel text) ""
      foundAtoms (.one (wholeText n)) quoted one
    | .parameter p use quoted => parameterAtoms p use quoted one fuel
termination_by structural fuel => fuel

/-- The one text of a word. -/
def wordText : Nat → Word → Run (List Char)
  | 0, _ => return []
  | fuel + 1, w => return (← wordAtoms true fuel w).filterMap Atom.char?
termination_by structural fuel => fuel

/-- A word as a pattern. -/
def wordPattern : Nat → Word → Run Marked
  | 0, _ => return []
  | fuel + 1, w => return (← wordAtoms true fuel w).filterMap Atom.marked?
termination_by structural fuel => fuel

/-- The number that a word works out to. -/
def wordNumber : Nat → Word → Run Int
  | 0, _ => return 0
  | fuel + 1, w => do calculated (← wordText fuel w) ""
termination_by structural fuel => fuel

/-- The atoms of a word that stands in for a value. -/
def standInAtoms (quoted one : Bool) : Nat → Word → Run (List Atom)
  | 0, _ => return []
  | fuel + 1, w => do
    let atoms ← wordAtoms one fuel w
    return if quoted then .keep :: atoms.map Atom.quote else atoms.map Atom.loosen
termination_by structural fuel => fuel

/-- The atoms of a parameter as it is used. -/
def parameterAtoms (p : Parameter) (use : Use) (quoted one : Bool) : Nat → Run (List Atom)
  | 0 => return []
  | fuel + 1 => do
    let index ← wordText fuel (indexOf p)
    let found ← lookUp p index
    let changed (f : List Char → List Char) : Run (List Atom) := do
      requireValue p found
      foundAtoms (found.map f) quoted one
    match use with
    | .value => do
      requireValue p found
      foundAtoms found quoted one
    | .length => do
      requireValue p found
      match found with
      | .many texts _ => foundAtoms (.one (Text.decimalChars texts.length)) quoted one
      | .one cs => foundAtoms (.one (Text.decimalChars cs.length)) quoted one
      | .missing => foundAtoms (.one ['0']) quoted one
    | .default orEmpty w =>
      if found.isMissing orEmpty then standInAtoms quoted one fuel w
      else foundAtoms found quoted one
    | .instead orEmpty w =>
      if found.isMissing orEmpty then return if quoted then [.keep] else []
      else standInAtoms quoted one fuel w
    | .assign orEmpty w =>
      if found.isMissing orEmpty then do
        let text ← wordText fuel w
        match p with
        | .variable name =>
          if !(← assignText name text) then breakOff (← readOnlyComplaint name)
        | .element name _ => do
          let n ← calculated index ""
          modify (·.setAt name n text)
        | _ => breakOff s!"{Octets.toText (← parameterName p)}: bad variable name"
        foundAtoms (.one text) quoted one
      else foundAtoms found quoted one
    | .demand orEmpty w =>
      if found.isMissing orEmpty then do
        let text ← wordText fuel w
        let usual := match (← read).dialect, orEmpty with
          | .plain, true => "parameter not set or null"
          | .extended, true => "parameter null or not set"
          | _, false => "parameter not set"
        let wording := if w.isEmpty then usual else Octets.toText text
        demandFails s!"{Octets.toText (← parameterName p)}: {wording}"
      else foundAtoms found quoted one
    | .cut side longest w => do
      let pattern ← wordPattern fuel w
      changed (cutMatch side longest pattern)
    | .replace extent w replacement => do
      let pattern ← wordPattern fuel w
      let text ← wordText fuel replacement
      changed (replaceMatches extent pattern text)
    | .cased upper all => changed (cased upper all)
    | .part start length => do
      requireValue p found
      let first ← wordNumber fuel start
      let size ← match length with
        | some w => do pure (some (← wordNumber fuel w))
        | none => pure none
      let name := (← read).name
      let tooSmall {α : Type} : Run α := breakOff s!"{size.getD 0}: substring expression < 0"
      match found with
      | .many texts joined =>
        let isArguments := match p with
          | .elements _ _ => false
          | _ => true
        let texts := if isArguments then name :: texts else texts
        if size.any (· < 0) then tooSmall
        else foundAtoms (.many ((partOf texts first size).getD []) joined) quoted one
      | .one cs =>
        match partOf cs first size with
        | some cs => foundAtoms (.one cs) quoted one
        | none => tooSmall
      | .missing => foundAtoms (.one []) quoted one
    | .indirect => do
      match found with
      | .one cs =>
        match namedParameter? cs with
        | some q => parameterAtoms q .value quoted one fuel
        | none => breakOff s!"{Octets.toText cs}: invalid variable name"
      | _ => do
        let name := Octets.toText (← parameterName p)
        breakOff s!"{name}: invalid indirect expansion"
termination_by structural fuel => fuel

end

/-- How deep words stand in words, at most. -/
def wordDepth : Nat := 1000

/-- The one text of a word. -/
def textOf (w : Word) : Run (List Char) := wordText substitute wordDepth w

/-- A word as a pattern. -/
def patternOf (w : Word) : Run Marked := wordPattern substitute wordDepth w

/-- The words that a word stands for. -/
def expandWord (w : Word) : Run (List (List Char)) := do
  let atoms ← wordAtoms substitute false wordDepth w
  let s ← get
  let fields := Fields.ofAtoms s.separators atoms
  if s.has "noglob" then return fields.map unmarked
  else
    return fields.flatMap fun m =>
      match filesMatching s.storage m with
      | [] => if m.any isWild && s.has "nullglob" then [] else [unmarked m]
      | names => names

/-- The words that a word stands for, its braces included. -/
def expandBraced (w : Word) : Run (List (List Char)) := do
  if ← isExtended then
    let words ← (braces (w.length + 1) w).mapM (expandWord substitute)
    return words.flatten
  else expandWord substitute w

/-- Whether a word starts with a name and an equals sign. -/
def isAssignmentWord (w : Word) : Bool :=
  let name := (w.takeWhile fun p => !isWritten '=' p)
  name.length < w.length &&
    ((writtenChars? name).any fun cs =>
      isName (if cs.getLast? = some '+' then cs.dropLast else cs))

/-- The commands whose arguments give values to names. -/
def declaringCommands : List String := ["export", "readonly", "local", "declare", "typeset"]

/-- The words that the words of a command stand for. -/
def expandWords : List Word → Run (List (List Char))
  | [] => return []
  | w :: ws => do
    match ← expandBraced substitute w with
    | [] => expandWords ws
    | name :: more => do
      let rest ←
        if declaringCommands.contains (Octets.toText name) then
          ws.mapM fun w => do
            if isAssignmentWord w then return [← textOf substitute w]
            else expandBraced substitute w
        else ws.mapM (expandBraced substitute)
      return name :: more ++ rest.flatten

end Run

end FirmwareSurvey.Shell
