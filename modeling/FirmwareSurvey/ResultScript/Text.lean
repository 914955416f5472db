import FirmwareSurvey.ResultScript.Format
import FirmwareSurvey.Text.Case

/-!
# What texts and bytes can do

Texts are cut, searched, joined and laid out. Bytes can do nearly the same, each byte counting as the
character of its number; only what blanks, letters and the ends of lines are differs.
-/

namespace FirmwareSurvey.ResultScript

/-! ### Classes of characters -/

/-- Whether a character is blank in a text. -/
def isBlankChar (c : Char) : Bool :=
  let n := c.toNat
  (9 ≤ n && n ≤ 13) || (28 ≤ n && n ≤ 32) || n = 0x85 || n = 0xA0 || n = 0x1680 ||
    (0x2000 ≤ n && n ≤ 0x200A) || n = 0x2028 || n = 0x2029 || n = 0x202F || n = 0x205F || n = 0x3000

/-- Whether a byte is blank. -/
def isBlankOctet (c : Char) : Bool := c = ' ' || (9 ≤ c.toNat && c.toNat ≤ 13)

/-- Whether a character ends a line in a text. -/
def endsLine (c : Char) : Bool :=
  let n := c.toNat
  (10 ≤ n && n ≤ 13) || (28 ≤ n && n ≤ 30) || n = 0x85 || n = 0x2028 || n = 0x2029

/-- Whether a character is a letter. -/
def isLetter (c : Char) : Bool :=
  c.isAlpha || (128 ≤ c.toNat && Text.isWord c && !Text.isDigit c)

/-- Whether a character is a capital letter. -/
def isUpperChar (c : Char) : Bool :=
  if c.toNat < 128 then c.isUpper else Text.lowerChars [c] != [c] && Text.upperChars [c] == [c]

/-- Whether a character is a small letter. -/
def isLowerChar (c : Char) : Bool :=
  if c.toNat < 128 then c.isLower else Text.upperChars [c] != [c]

/-! ### Cutting -/

/-- Cuts a text at each run of blanks, at most so many times. -/
def cutBlanks (isBlank : Char → Bool) : Nat → Option Nat → List Char → List (List Char)
  | 0, _, _ => []
  | fuel + 1, most, cs =>
    match cs.dropWhile isBlank with
    | [] => []
    | cs =>
      if most = some 0 then [Text.dropEndWhile isBlank cs]
      else
        let word := cs.takeWhile (!isBlank ·)
        word :: cutBlanks isBlank fuel (most.map (· - 1)) (cs.drop word.length)

/-- Cuts a text at each occurrence of another one, at most so many times. -/
def cutText (between : List Char) : Nat → Option Nat → List Char → List (List Char)
  | 0, _, cs => [cs]
  | fuel + 1, most, cs =>
    if most = some 0 then [cs]
    else
      match Text.cutAt? between cs with
      | none => [cs]
      | some (before, after) => before :: cutText between fuel (most.map (· - 1)) after

/-- Cuts a text into lines, with their ends or without them. -/
def cutLines (ends : Char → Bool) (keep : Bool) : Nat → List Char → List (List Char)
  | 0, _ => []
  | _ + 1, [] => []
  | fuel + 1, cs =>
    let line := cs.takeWhile (!ends ·)
    match cs.drop line.length with
    | '\r' :: '\n' :: rest =>
      (if keep then line ++ ['\r', '\n'] else line) :: cutLines ends keep fuel rest
    | c :: rest => (if keep then line ++ [c] else line) :: cutLines ends keep fuel rest
    | [] => [line]

/-- The place of the first occurrence of a text in another one, counted from a number. -/
def placeOf? (needle : List Char) (n : Nat) : List Char → Option Nat
  | [] => if needle.isEmpty then some n else none
  | c :: cs => if needle.isPrefixOf (c :: cs) then some n else placeOf? needle (n + 1) cs

/-- The place of the last occurrence of a text in another one. -/
def lastPlaceOf? (needle cs : List Char) : Option Nat :=
  (placeOf? needle.reverse 0 cs.reverse).map fun n => cs.length - n - needle.length

/-- Replaces a text in another one, at most so many times. -/
def replaceText (old new : List Char) : Nat → Option Nat → List Char → List Char
  | 0, _, cs => cs
  | fuel + 1, most, cs =>
    if most = some 0 then cs
    else if old.isEmpty then
      match cs with
      | [] => new
      | c :: rest => new ++ c :: replaceText old new fuel (most.map (· - 1)) rest
    else
      match Text.cutAt? old cs with
      | none => cs
      | some (before, after) =>
        before ++ new ++ replaceText old new fuel (most.map (· - 1)) after

/-- How often a text occurs in another one. -/
def countText (needle cs : List Char) : Nat :=
  if needle.isEmpty then cs.length + 1 else (cutText needle (cs.length + 1) none cs).length - 1

/-- A text with a capital letter at the start of each word. -/
def titled (afterLetter : Bool) : List Char → List Char
  | [] => []
  | c :: cs =>
    (if !isLetter c then [c] else if afterLetter then Text.lowerChars [c] else Text.upperChars [c])
      ++ titled (isLetter c) cs

/-- A text whose tabs are made blanks. -/
def tabsExpanded (size : Nat) (column : Nat) : List Char → List Char
  | [] => []
  | '\t' :: cs =>
    let n := if size = 0 then 0 else size - column % size
    List.replicate n ' ' ++ tabsExpanded size (column + n) cs
  | c :: cs =>
    c :: tabsExpanded size (if c = '\n' || c = '\r' then 0 else column + 1) cs

/-- What texts can do. -/
def textAbilities : List String :=
  ["upper", "lower", "title", "capitalize", "swapcase", "casefold", "strip", "lstrip", "rstrip",
    "split", "rsplit", "splitlines", "join", "replace", "startswith", "endswith", "find", "rfind",
    "index", "rindex", "count", "format", "format_map", "encode", "zfill", "ljust", "rjust",
    "center", "isdigit", "isalpha", "isalnum", "isspace", "isupper", "islower", "isnumeric",
    "isdecimal", "isidentifier", "isascii", "isprintable", "istitle", "partition", "rpartition",
    "expandtabs", "translate", "removeprefix", "removesuffix", "maketrans"]

/-- What bytes can do. -/
def octetsAbilities : List String :=
  ["upper", "lower", "title", "capitalize", "swapcase", "strip", "lstrip", "rstrip", "split",
    "rsplit", "splitlines", "join", "replace", "startswith", "endswith", "find", "rfind", "index",
    "rindex", "count", "decode", "hex", "zfill", "ljust", "rjust", "center", "isdigit", "isalpha",
    "isalnum", "isspace", "isupper", "islower", "isascii", "istitle", "partition", "rpartition",
    "expandtabs", "removeprefix", "removesuffix", "fromhex"]

namespace Run

variable (ev : Evaluator)

/-- Fails because a function is given something else than it takes. -/
def wrongArguments {α : Type} (name : String) (given : List Value) : Run α :=
  misfit s!"{name}() takes no such arguments ({given.length} given)"

/-- The arguments of a function by their places, those with names put to the places of these. -/
def placed (function : String) (names : List String) (given : List Value) (named : Members Value) :
    Run (List (Option Value)) := do
  if names.length < given.length then
    misfit s!"{function}() takes at most {names.length} arguments ({given.length} given)"
  else
    match named.find? fun m => !names.contains m.1 with
    | some (name, _) => misfit s!"'{name}' is an invalid keyword argument for {function}()"
    | none =>
      let first := given.map some
      let rest := (names.drop given.length).map fun n => Members.get? named n
      return first ++ rest

/-- The argument at a place. -/
def argument? (arguments : List (Option Value)) (n : Nat) : Option Value := (arguments[n]?).join

/-- The characters that a text or bytes hold. -/
def charsOf? (isOctets : Bool) : Value → Option (List Char)
  | .text cs => if isOctets then none else some cs
  | .octets bytes => if isOctets then some (bytes.map fun b => Char.ofNat b.toNat) else none
  | .number n => if isOctets && 0 ≤ n && n < 256 then some [Char.ofNat n.toNat] else none
  | _ => none

/-- A text or bytes of characters. -/
def ofChars (isOctets : Bool) (cs : List Char) : Value :=
  if isOctets then .octets (cs.map fun c => c.toNat.toUInt8) else .text cs

/-- The characters of an argument. -/
def charsArgument (isOctets : Bool) (complaint : String) (v : Value) : Run (List Char) := do
  match charsOf? isOctets v with
  | some cs => return cs
  | none =>
    let kind ← kindName v
    if isOctets then misfit s!"a bytes-like object is required, not '{kind}'"
    else misfit (complaint ++ kind)

/-- The number of an argument. -/
def numberArgument (v : Value) : Run Int := do
  match ← place? ev v with
  | some n => return n
  | none => misfit s!"'{← kindName v}' object cannot be interpreted as an integer"

/-- The part of a text that its ends pick out, and how many characters stand before it. -/
def partBetween (cs : List Char) (start stop : Option Value) : Run (List Char × Nat × Bool) := do
  let (first, last, _) ← sliceRange ev cs.length (start.getD .nothing) (stop.getD .nothing) .nothing
  let beyond ← match start with
    | some v => do pure (decide ((cs.length : Int) < (← numberArgument ev v)))
    | none => pure false
  return ((cs.drop first.toNat).take (last - first).toNat, first.toNat,
    beyond || last < first)

/-- Joins texts. -/
def joined (isOctets : Bool) (between : List Char) (items : List Value) : Run (List Char) := do
  let mut parts : List (List Char) := []
  let mut n := 0
  for v in items do
    let isFit := match v with
      | .number _ => false
      | _ => true
    match charsOf? isOctets v, isFit with
    | some cs, true => parts := cs :: parts
    | _, _ =>
      let kind ← kindName v
      if isOctets then misfit s!"sequence item {n}: expected a bytes-like object, {kind} found"
      else misfit s!"sequence item {n}: expected str instance, {kind} found"
    n := n + 1
  return joinTexts between parts.reverse

/-- Whether a text starts or ends with another one, or one of several. -/
def hasEnd (isOctets atStart : Bool) (name : String) (cs : List Char) (given : List Value) :
    Run Value := do
  let (v, rest) ← match given with
    | v :: rest => pure (v, rest)
    | [] => misfit s!"{name}() takes at least 1 argument (0 given)"
  let (part, _, isBeyond) ← partBetween ev cs rest[0]? rest[1]?
  let fits (w : List Char) : Bool :=
    if atStart then w.isPrefixOf part else w.reverse.isPrefixOf part.reverse
  let kind := if isOctets then "bytes" else "str"
  match v with
  | .tuple vs => do
    let ws ← vs.mapM fun w => do
      match charsOf? isOctets w with
      | some cs => return cs
      | none => misfit s!"tuple for {name} must only contain {kind}, not {← kindName w}"
    return .truth (!isBeyond && ws.any fits)
  | v =>
    match charsOf? isOctets v with
    | some w => return .truth (!isBeyond && fits w)
    | none =>
      misfit s!"{name} first arg must be {kind} or a tuple of {kind}, not {← kindName v}"

/-- Looks for a text in another one. -/
def found (isOctets isLast : Bool) (cs : List Char) (given : List Value) : Run (Option Nat) := do
  match given with
  | needle :: rest => do
    let w ← charsArgument isOctets "must be str, not " needle
    let (part, before, isBeyond) ← partBetween ev cs rest[0]? rest[1]?
    if isBeyond then return none
    else return (if isLast then lastPlaceOf? w part else placeOf? w 0 part).map (· + before)
  | [] => misfit "find() takes at least 1 argument (0 given)"

/-- Cuts a text as often as wanted, from its end if wanted. -/
def splitText (isOctets fromEnd : Bool) (cs : List Char) (given : List Value) (named : Members Value) :
    Run Value := do
  let arguments ← placed (if fromEnd then "rsplit" else "split") ["sep", "maxsplit"] given named
  let most ← match argument? arguments 1 with
    | some v => numberArgument ev v
    | _ => pure (-1)
  let most := if most < 0 then none else some most.toNat
  let turn (cs : List Char) := if fromEnd then cs.reverse else cs
  let back (parts : List (List Char)) :=
    if fromEnd then (parts.map List.reverse).reverse else parts
  let isBlank := if isOctets then isBlankOctet else isBlankChar
  let between ← match argument? arguments 0 with
    | some .nothing => pure none
    | some v => do pure (some (← charsArgument isOctets "must be str or None, not " v))
    | _ => pure none
  match between with
  | none =>
    makeList ((back (cutBlanks isBlank (cs.length + 1) most (turn cs))).map (ofChars isOctets))
  | some [] => unfit "empty separator"
  | some w =>
    makeList ((back (cutText (turn w) (cs.length + 1) most (turn cs))).map (ofChars isOctets))

/-- Cuts characters off the ends of a text. -/
def strippedText (isOctets : Bool) (name : String) (cs : List Char) (given : List Value) :
    Run Value := do
  let isBlank := if isOctets then isBlankOctet else isBlankChar
  let cut ← match given with
    | [] => pure isBlank
    | .nothing :: _ => pure isBlank
    | v :: _ =>
      match charsOf? isOctets v with
      | some set => pure fun c => set.contains c
      | none => misfit s!"{name} arg must be None or str"
  let front (cs : List Char) := if name == "rstrip" then cs else cs.dropWhile cut
  let back (cs : List Char) := if name == "lstrip" then cs else Text.dropEndWhile cut cs
  return ofChars isOctets (back (front cs))

/-- Lays a text out on a side. -/
def sidedText (isOctets : Bool) (name : String) (cs : List Char) (given : List Value) :
    Run Value := do
  match given with
  | [] => misfit s!"{name} expected at least 1 argument, got 0"
  | w :: rest => do
    let width ← numberArgument ev w
    let fill ← match rest with
      | [] => pure ' '
      | v :: _ =>
        match charsOf? isOctets v with
        | some [c] => pure c
        | some _ => misfit "The fill character must be exactly one character long"
        | none => misfit s!"The fill character must be a unicode character, not {← kindName v}"
    let missing := (width - cs.length).toNat
    let filling (n : Nat) := List.replicate n fill
    if name == "ljust" then return ofChars isOctets (cs ++ filling missing)
    else if name == "rjust" then return ofChars isOctets (filling missing ++ cs)
    else
      -- of an odd number of characters one more stands before the text when its width is odd
      let left := missing / 2 + (if missing % 2 = 1 && width % 2 = 1 then 1 else 0)
      return ofChars isOctets (filling left ++ cs ++ filling (missing - left))

/-- Whether a text is not empty and all its characters are of a class. -/
def allOf (p : Char → Bool) (cs : List Char) : Value := .truth (!cs.isEmpty && cs.all p)

/-- Replaces characters by what a table has for them. -/
def translated (table : List (Value × Value)) (cs : List Char) : Run (List Char) := do
  let parts ← cs.mapM fun c => do
    match keyed? table (.ofNat c.toNat) with
    | none => return [c]
    | some .nothing => return []
    | some (.number n) => return [Char.ofNat n.toNat]
    | some (.text t) => return t
    | some _ => misfit "character mapping must return integer, None or str"
  return parts.flatten

/-- A table for replacing characters. -/
def translation (given : List Value) : Run Value := do
  match given with
  | [table] =>
    match ← thing? table with
    | some (.table _ _ members) =>
      makeTable (members.map fun (k, v) => match k with
        | .text [c] => (.ofNat c.toNat, v)
        | k => (k, v))
    | _ => misfit "if you give only one argument to maketrans it must be a dict"
  | .text old :: .text new :: more =>
    if old.length != new.length then
      unfit "the first two maketrans arguments must have equal length"
    else
      let pairs := (old.zip new).map fun (a, b) => (Value.ofNat a.toNat, Value.ofNat b.toNat)
      let gone := match more with
        | .text cs :: _ => cs.map fun c => (Value.ofNat c.toNat, Value.nothing)
        | _ => []
      makeTable ((pairs ++ gone).foldl (fun ms m => putKey m.1 m.2 ms) [])
  | given => wrongArguments "maketrans" given

/-- What a text or bytes do under a name. -/
def textAbility (member : Value → String → Run Value) (isOctets : Bool) (name : String)
    (cs : List Char) (given : List Value) (named : Members Value) : Run Value := do
  let result (cs : List Char) : Value := ofChars isOctets cs
  let lower (cs : List Char) := if isOctets then cs.map Char.toLower else Text.lowerChars cs
  let upper (cs : List Char) := if isOctets then cs.map Char.toUpper else Text.upperChars cs
  match name, given with
  | "upper", _ => return result (upper cs)
  | "lower", _ => return result (lower cs)
  | "casefold", _ => return result (lower cs)
  | "title", _ => return result (titled false cs)
  | "capitalize", _ => return result (upper (cs.take 1) ++ lower (cs.drop 1))
  | "swapcase", _ =>
    return result (cs.flatMap fun c => if isUpperChar c then lower [c] else upper [c])
  | "strip", given => strippedText isOctets name cs given
  | "lstrip", given => strippedText isOctets name cs given
  | "rstrip", given => strippedText isOctets name cs given
  | "split", given => splitText ev isOctets false cs given named
  | "rsplit", given => splitText ev isOctets true cs given named
  | "splitlines", given => do
    let keep ← match given, Members.get? named "keepends" with
      | v :: _, _ => truth ev v
      | [], some v => truth ev v
      | [], none => pure false
    let ends (c : Char) := if isOctets then c = '\n' || c = '\r' else endsLine c
    makeList ((cutLines ends keep (cs.length + 1) cs).map result)
  | "join", [v] => do
    match ← orNone "TypeError" (rowOf ev v) with
    | none => misfit "can only join an iterable"
    | some row => return result (← joined isOctets cs (← itemsOf ev row))
  | "replace", old :: new :: rest => do
    let complaint (n : Nat) := s!"replace() argument {n} must be str, not "
    let old ← charsArgument isOctets (complaint 1) old
    let new ← charsArgument isOctets (complaint 2) new
    let most ← match rest, Members.get? named "count" with
      | v :: _, _ => numberArgument ev v
      | [], some v => numberArgument ev v
      | [], none => pure (-1)
    let most := if most < 0 then none else some most.toNat
    return result (replaceText old new (cs.length + 2) most cs)
  | "startswith", given => hasEnd ev isOctets true name cs given
  | "endswith", given => hasEnd ev isOctets false name cs given
  | "find", given => do
    return (((← found ev isOctets false cs given).map Value.ofNat).getD (.number (-1)))
  | "rfind", given => do
    return (((← found ev isOctets true cs given).map Value.ofNat).getD (.number (-1)))
  | "index", given => do
    match ← found ev isOctets false cs given with
    | some n => return .ofNat n
    | none => unfit (if isOctets then "subsection not found" else "substring not found")
  | "rindex", given => do
    match ← found ev isOctets true cs given with
    | some n => return .ofNat n
    | none => unfit (if isOctets then "subsection not found" else "substring not found")
  | "count", needle :: rest => do
    let w ← charsArgument isOctets "must be str, not " needle
    let (part, _, isBeyond) ← partBetween ev cs rest[0]? rest[1]?
    return .ofNat (if isBeyond then 0 else countText w part)
  | "format", given => return .text (← withFields ev { places := given, names := named, member } cs)
  | "format_map", [table] =>
    return .text (← withFields ev { places := [], names := [], table := some table, member } cs)
  | "encode", given => do
    let arguments ← placed "encode" ["encoding", "errors"] given named
    let e ← match argument? arguments 0 with
      | some (.text e) => encodingOf e
      | _ => pure .utf8
    let errors := match argument? arguments 1 with
      | some (.text e) => String.ofList e
      | _ => "strict"
    return .octets (← encoded e errors cs)
  | "decode", given => do
    let arguments ← placed "decode" ["encoding", "errors"] given named
    let e ← match argument? arguments 0 with
      | some (.text e) => encodingOf e
      | _ => pure .utf8
    let errors := match argument? arguments 1 with
      | some (.text e) => String.ofList e
      | _ => "strict"
    return .text (← decoded e errors (cs.map fun c => c.toNat.toUInt8))
  | "hex", given => do
    let digits := cs.map fun c => Text.padZeros 2 (Nat.toDigits 16 c.toNat)
    match given with
    | .text between :: _ => return .text (joinTexts between digits)
    | _ => return .text digits.flatten
  | "zfill", [w] => do
    let width ← numberArgument ev w
    let missing := List.replicate (width - cs.length).toNat '0'
    return result (match cs with
      | c :: rest => if c = '-' || c = '+' then c :: missing ++ rest else missing ++ cs
      | [] => missing)
  | "ljust", given => sidedText ev isOctets name cs given
  | "rjust", given => sidedText ev isOctets name cs given
  | "center", given => sidedText ev isOctets name cs given
  | "isdigit", _ => return allOf (if isOctets then Char.isDigit else Text.isDigit) cs
  | "isnumeric", _ => return allOf Text.isDigit cs
  | "isdecimal", _ => return allOf Text.isDigit cs
  | "isalpha", _ => return allOf (if isOctets then Char.isAlpha else isLetter) cs
  | "isalnum", _ =>
    return allOf (if isOctets then Char.isAlphanum else fun c => isLetter c || Text.isDigit c) cs
  | "isspace", _ => return allOf (if isOctets then isBlankOctet else isBlankChar) cs
  | "isupper", _ => return .truth (cs.any isUpperChar && !cs.any isLowerChar)
  | "islower", _ => return .truth (cs.any isLowerChar && !cs.any isUpperChar)
  | "istitle", _ => return .truth (cs.any isLetter && titled false cs == cs)
  | "isascii", _ => return .truth (cs.all fun c => c.toNat < 128)
  | "isprintable", _ => return .truth (cs.all isShown)
  | "isidentifier", _ =>
    return .truth (!cs.isEmpty && cs.all (fun c => isLetter c || Text.isDigit c || c = '_') &&
      !cs.head?.any Text.isDigit)
  | "partition", [v] => do
    let w ← charsArgument isOctets "must be str, not " v
    if w.isEmpty then unfit "empty separator"
    else
      match Text.cutAt? w cs with
      | some (before, after) => return .tuple [result before, result w, result after]
      | none => return .tuple [result cs, result [], result []]
  | "rpartition", [v] => do
    let w ← charsArgument isOctets "must be str, not " v
    if w.isEmpty then unfit "empty separator"
    else
      match lastPlaceOf? w cs with
      | some n => return .tuple [result (cs.take n), result w, result (cs.drop (n + w.length))]
      | none => return .tuple [result [], result [], result cs]
  | "expandtabs", given => do
    let size ← match given, Members.get? named "tabsize" with
      | v :: _, _ => numberArgument ev v
      | [], some v => numberArgument ev v
      | [], none => pure 8
    return result (tabsExpanded size.toNat 0 cs)
  | "translate", [table] =>
    match ← thing? table with
    | some (.table _ _ members) => return result (← translated members cs)
    | _ => return result cs
  | "removeprefix", [v] => do
    let w ← charsArgument isOctets "removeprefix() argument must be str, not " v
    return result ((Text.dropWord? w cs).getD cs)
  | "removesuffix", [v] => do
    let w ← charsArgument isOctets "removesuffix() argument must be str, not " v
    return result (if w.reverse.isPrefixOf cs.reverse then cs.take (cs.length - w.length) else cs)
  | "maketrans", given => translation given
  | name, given => wrongArguments (if isOctets then "bytes." ++ name else "str." ++ name) given

end Run

end FirmwareSurvey.ResultScript
