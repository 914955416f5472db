import FirmwareSurvey.ResultScript.Function
import FirmwareSurvey.ResultScript.SearchReader

/-!
# Searching texts

A search pattern is looked for in a text: at its start, anywhere, or in the whole of it. What is found
tells its place and what the groups hold; it may be counted, cut out, or put something else in its
place.
-/

namespace FirmwareSurvey.ResultScript

/-- A search pattern in use. -/
structure SearchUse where
  /-- The pattern as a value. -/
  value : Value
  /-- What was read. -/
  read : ReadSearch
  /-- Whether it is for bytes. -/
  isOctets : Bool

/-- A text that is searched. -/
structure SearchText where
  /-- The text as a value. -/
  value : Value
  /-- Its characters. -/
  chars : Array Char
  /-- The place to start at. -/
  start : Nat

namespace Run

variable (ev : Evaluator)

/-- Makes a search pattern of a text. -/
def makeSearch (v : Value) (flags : Int) : Run Value := do
  match v with
  | .text _ => make (.plain (.known "re.Pattern") [("pattern", v), ("flags", .number flags)])
  | .octets _ => make (.plain (.known "re.Pattern") [("pattern", v), ("flags", .number flags)])
  | _ => misfit "first argument must be string or compiled pattern"

/-- Fails because a text is no search pattern. -/
def failSearch {α : Type} (cs : List Char) (flaw : SearchFlaw) : Run α := do
  let before := cs.take flaw.place
  let line := (before.filter (· = '\n')).length + 1
  let column := (before.reverse.takeWhile (· != '\n')).length + 1
  let place := s!" at position {flaw.place}"
  let more := if cs.contains '\n' then s!" (line {line}, column {column})" else ""
  raise (← makeFailure "re.error" [.ofString (flaw.reason ++ place ++ more)]
    [("msg", .ofString flaw.reason), ("pattern", .text cs), ("pos", .ofNat flaw.place),
      ("lineno", .ofNat line), ("colno", .ofNat column)])

/-- Puts a search pattern to use. -/
def searchUse (v : Value) : Run SearchUse := do
  match ← thing? v with
  | some (.plain (.known "re.Pattern") members) =>
    let flags := match Members.get? members "flags" with
      | some (.number n) => SearchFlags.ofNumber n.toNat
      | _ => {}
    let (cs, isOctets) ← match Members.get? members "pattern" with
      | some (.text cs) => pure (cs, false)
      | some (.octets bytes) => pure (bytes.map fun b => Char.ofNat b.toNat, true)
      | _ => pure ([], false)
    let flags := if isOctets then { flags with isAscii := true } else flags
    match ReadSearch.ofChars flags cs with
    | .ok read => return ⟨v, read, isOctets⟩
    | .error flaw => failSearch cs flaw
  | _ => misfit "first argument must be string or compiled pattern"

/-- A search pattern that was given, or made of a text that was. -/
def searchGiven (v : Value) (flags : Int) : Run SearchUse := do
  match ← thing? v with
  | some (.plain (.known "re.Pattern") _) =>
    if flags != 0 then unfit "cannot process flags argument with a compiled pattern"
    else searchUse v
  | _ => do searchUse (← makeSearch v flags)

/-- The text that is searched. -/
def searchText (u : SearchUse) (v : Value) (start stop : Option Value) : Run SearchText := do
  match v, charsOf? u.isOctets v with
  | .number _, _ =>
    misfit s!"expected string or bytes-like object, got '{← kindName v}'"
  | _, some cs => do
    let cut (n : Option Value) (usual : Nat) : Run Nat := do
      match n with
      | none => return usual
      | some n => return min cs.length (← numberArgument ev n).toNat
    let stop ← cut stop cs.length
    return ⟨v, (cs.take stop).toArray, ← cut start 0⟩
  | .text _, none => misfit "cannot use a bytes pattern on a string-like object"
  | .octets _, none => misfit "cannot use a string pattern on a bytes-like object"
  | v, none => misfit s!"expected string or bytes-like object, got '{← kindName v}'"

/-- What was found, as a value. -/
def makeFound (u : SearchUse) (t : SearchText) (held : Held) : Run Value := do
  let spans := held.toList.map fun h => match h with
    | some (a, b) => Value.tuple [.ofNat a, .ofNat b]
    | none => .nothing
  let names := u.read.names.map fun (n, k) => Value.tuple [.ofString n, .ofNat k]
  let last := (List.range held.size).filter fun k => 0 < k && ((held[k]?).join).isSome
  -- of groups that lie in each other the one that was closed last counts
  let latest := last.foldl (fun (best : Option (Nat × Nat)) k =>
    match (held[k]?).join, best with
    | some (_, b), some (_, e) => if e < b then some (k, b) else best
    | some (_, b), none => some (k, b)
    | none, _ => best) none
  let lastIndex := (latest.map fun l => Value.ofNat l.1).getD .nothing
  let lastName := ((latest.bind fun l => u.read.names.find? (·.2 = l.1)).map fun n =>
    Value.ofString n.1).getD .nothing
  make (.plain (.known "re.Match") [("string", t.value), ("re", u.value), ("pos", .ofNat t.start),
    ("endpos", .ofNat t.chars.size), ("lastindex", lastIndex), ("lastgroup", lastName),
    ("__spans__", .tuple spans), ("__names__", .tuple names)])

/-- The piece that a group holds. -/
def heldPiece (u : SearchUse) (t : SearchText) (held : Held) (n : Nat) : Option Value :=
  ((held[n]?).join).map fun (a, b) => ofChars u.isOctets (t.chars.extract a b).toList

/-- Looks for a pattern in a manner. -/
def searchOne (u : SearchUse) (t : SearchText) (manner : String) : Run Value := do
  let p := u.read.pattern
  let found := match manner with
    | "match" => (p.matchAt u.read.groups t.chars t.start fun _ => true).map (·.2)
    | "fullmatch" =>
      (p.matchAt u.read.groups t.chars t.start fun n => n = t.chars.size).map (·.2)
    | _ => p.matchFrom u.read.groups t.chars false (t.chars.size - t.start) t.start
  match found with
  | some held => makeFound u t held
  | none => return .nothing

/-- All that is found of a pattern, so many at most. -/
def searchAll (u : SearchUse) (t : SearchText) (most : Option Nat) : List Held :=
  u.read.pattern.matches u.read.groups t.chars (most.getD (2 * t.chars.size + 2)) false t.start

/-- What is told of each piece that was found: the piece, or what its groups hold. -/
def searchPieces (u : SearchUse) (t : SearchText) (held : Held) : Value :=
  let empty := ofChars u.isOctets []
  let piece (n : Nat) := (heldPiece u t held n).getD empty
  match u.read.groups with
  | 0 => piece 0
  | 1 => piece 1
  | n => .tuple ((List.range n).map fun k => piece (k + 1))

/-- The text that a template stands for; groups that hold nothing stand for nothing. -/
def expanded (u : SearchUse) (t : SearchText) (held : Held) : Nat → Nat → List Char →
    Run (List Char)
  | 0, _, cs => return cs
  | _ + 1, _, [] => return []
  | fuel + 1, n, '\\' :: cs => do
    let bad {α : Type} (reason : String) (place : Nat) : Run α :=
      failSearch [] ⟨reason, place⟩
    let chars (k : Nat) : List Char :=
      (((held[k]?).join).map fun (a, b) => (t.chars.extract a b).toList).getD []
    let groupOf (k place : Nat) : Run (List Char) := do
      if u.read.groups < k then bad s!"invalid group reference {k}" place else return chars k
    match cs with
    | [] => bad "bad escape (end of pattern)" n
    | 'g' :: '<' :: more => do
      let name := more.takeWhile (· != '>')
      if name.length = more.length then bad "missing >, unterminated name" (n + 3)
      else
        let k ← if name.isEmpty then bad "missing group name" (n + 3)
          else if name.all Char.isDigit then pure ((Text.digitsValue? 10 0 name).getD 0)
          else
            match u.read.names.lookup (String.ofList name) with
            | some k => pure k
            | none => fail "IndexError" s!"unknown group name '{String.ofList name}'"
        let piece ← groupOf k (n + 3)
        return piece ++ (← expanded u t held fuel (n + 4 + name.length) (more.drop (name.length + 1)))
    | 'g' :: _ => bad "missing <" (n + 2)
    | c :: rest =>
      if c.isDigit then
        let ds := c :: (if c = '0' then [] else (rest.take 1).filter Char.isDigit)
        let octal := (if c = '0' then (rest.take 2).takeWhile SearchReader.isOctal else [])
        if c = '0' then
          let e := Char.ofNat ((Text.digitsValue? 8 0 (c :: octal)).getD 0)
          return e :: (← expanded u t held fuel (n + 2 + octal.length) (rest.drop octal.length))
        else
          let piece ← groupOf ((Text.digitsValue? 10 0 ds).getD 0) (n + 1)
          return piece ++
            (← expanded u t held fuel (n + 1 + ds.length) (rest.drop (ds.length - 1)))
      else
        match (if c = 'b' then some '\x08' else SearchReader.letterOf? c) with
        | some e => return e :: (← expanded u t held fuel (n + 2) rest)
        | none =>
          if Text.isAsciiLetter c then bad s!"bad escape \\{c}" n
          else return '\\' :: c :: (← expanded u t held fuel (n + 2) rest)
  | fuel + 1, n, c :: cs => do return c :: (← expanded u t held fuel (n + 1) cs)

/-- Puts something else in the place of what is found; how often that was done. -/
def substituted (u : SearchUse) (new : Value) (t : SearchText) (most : Option Nat) :
    Run (Value × Nat) := do
  let all := searchAll u t most
  let (parts, last) ← all.foldlM (fun (parts, last) held => do
    let (a, b) := ((held[0]?).join).getD (last, last)
    let piece ← match charsOf? u.isOctets new with
      | some cs => if cs.contains '\\' then expanded u t held (cs.length + 1) 0 cs else pure cs
      | none => do
        match ← ev.call new [← makeFound u t held] [] with
        | .nothing => pure []
        | v =>
          match charsOf? u.isOctets v with
          | some cs => pure cs
          | none => misfit s!"expected str instance, {← kindName v} found"
    return (piece :: (t.chars.extract last b).toList.take (a - last) :: parts, b))
    (([] : List (List Char)), 0)
  let rest := (t.chars.extract last t.chars.size).toList
  return (ofChars u.isOctets ((rest :: parts).reverse.flatten), all.length)

/-- Cuts a text at what is found. -/
def searchSplit (u : SearchUse) (t : SearchText) (most : Option Nat) : Run Value := do
  let all := searchAll u t most
  let (parts, last) := all.foldl (fun (parts, last) held =>
    let (a, b) := ((held[0]?).join).getD (last, last)
    let groups := (List.range u.read.groups).map fun k =>
      (heldPiece u t held (k + 1)).getD .nothing
    (groups.reverse ++ ofChars u.isOctets (t.chars.extract last a).toList :: parts, b))
    (([] : List Value), 0)
  makeList ((ofChars u.isOctets (t.chars.extract last t.chars.size).toList :: parts).reverse)

/-- A number that says how many at most; zero says nothing. -/
def mostGiven (v : Option Value) : Run (Option Nat) := do
  match v with
  | none => return none
  | some v => do
    let n ← numberArgument ev v
    return if n ≤ 0 then none else some n.toNat

/-- Does something with a search pattern and the arguments behind it. -/
def useSearch (u : SearchUse) (name : String) (given : List Value) (named : Members Value) :
    Run Value := do
  let one (names : List String) : Run (List (Option Value)) := placed name names given named
  match name with
  | "sub" => do
    let as ← one ["repl", "string", "count"]
    let t ← searchText ev u ((argument? as 1).getD .nothing) none none
    return (← substituted ev u ((argument? as 0).getD .nothing) t (← mostGiven ev (argument? as 2))).1
  | "subn" => do
    let as ← one ["repl", "string", "count"]
    let t ← searchText ev u ((argument? as 1).getD .nothing) none none
    let (v, n) ← substituted ev u ((argument? as 0).getD .nothing) t
      (← mostGiven ev (argument? as 2))
    return .tuple [v, .ofNat n]
  | "split" => do
    let as ← one ["string", "maxsplit"]
    let t ← searchText ev u ((argument? as 0).getD .nothing) none none
    searchSplit u t (← mostGiven ev (argument? as 1))
  | name => do
    let as ← one ["string", "pos", "endpos"]
    let t ← searchText ev u ((argument? as 0).getD .nothing) (argument? as 1) (argument? as 2)
    match name with
    | "findall" => makeList ((searchAll u t none).map (searchPieces u t))
    | "finditer" => do
      makeRow "callable_iterator" (← (searchAll u t none).mapM (makeFound u t))
    | name => searchOne u t name

/-- Characters with a backslash before those that mean something else in search patterns. -/
def searchEscaped (cs : List Char) : List Char :=
  cs.flatMap fun c =>
    if "()[]\x7b\x7d?*+-|^$\\.&~# \t\n\r\x0b\x0c".toList.contains c then ['\\', c] else [c]

/-- What a function for search patterns does; none when there is no such function. -/
def callSearch (name : String) (given : List Value) (named : Members Value) :
    Run (Option Value) := do
  let flagsOf (v : Option Value) : Run Int := do
    match v with
    | none => return 0
    | some v => numberArgument ev v
  let call (count : Nat) : Run (Option Value) := do
    match given.head?.orElse fun _ => Members.get? named "pattern" with
    | none => misfit s!"{name}() missing 1 required positional argument: 'pattern'"
    | some p => do
      let rest := given.drop 1
      let flags ← flagsOf ((rest[count]?).orElse fun _ => Members.get? named "flags")
      let u ← searchGiven p flags
      let named := named.filter fun m => m.1 != "flags" && m.1 != "pattern"
      return some (← useSearch ev u name (rest.take count) named)
  match name with
  | "compile" => do
    match given with
    | v :: rest => do
      let flags ← flagsOf (rest.head?.orElse fun _ => Members.get? named "flags")
      return some (← searchGiven v flags).value
    | [] => misfit "compile() missing 1 required positional argument: 'pattern'"
  | "escape" =>
    match given with
    | [.text cs] => return some (.text (searchEscaped cs))
    | [.octets bytes] =>
      let cs := bytes.map fun b => Char.ofNat b.toNat
      return some (ofChars true (searchEscaped cs))
    | given => wrongArguments name given
  | "purge" => return some .nothing
  | "match" => call 1
  | "search" => call 1
  | "fullmatch" => call 1
  | "findall" => call 1
  | "finditer" => call 1
  | "split" => call 2
  | "sub" => call 3
  | "subn" => call 3
  | _ => return none

/-- What something found does under a name. -/
def foundAbility (members : Members Value) (name : String) (given : List Value)
    (named : Members Value) : Run Value := do
  let items (v : Option Value) : List Value :=
    match v with
    | some (.tuple vs) => vs
    | _ => []
  let spans := items (Members.get? members "__spans__")
  let names := (items (Members.get? members "__names__")).filterMap fun v => match v with
    | .tuple [.text n, .number k] => some (n, k.toNat)
    | _ => none
  let string := (Members.get? members "string").getD .nothing
  let indexOf (v : Value) : Run Nat := do
    let refuse : Run Nat := fail "IndexError" "no such group"
    match v with
    | .text n =>
      match names.lookup n with
      | some k => return k
      | none => refuse
    | v =>
      match v.whole? with
      | some k => if 0 ≤ k && k < spans.length then return k.toNat else refuse
      | none => refuse
  let ends (k : Nat) : Option (Nat × Nat) :=
    match spans[k]? with
    | some (.tuple [.number a, .number b]) => some (a.toNat, b.toNat)
    | _ => none
  let piece (usual : Value) (k : Nat) : Value :=
    match ends k, string with
    | some (a, b), .text cs => .text ((cs.drop a).take (b - a))
    | some (a, b), .octets bytes => .octets ((bytes.drop a).take (b - a))
    | _, _ => usual
  let usual := (given.head?.orElse fun _ => Members.get? named "default").getD .nothing
  let asked : Run Nat := do
    match given with
    | [] => return 0
    | v :: _ => indexOf v
  match name with
  | "group" =>
    match given with
    | [] => return piece .nothing 0
    | [v] => return piece .nothing (← indexOf v)
    | vs => return .tuple (← vs.mapM fun v => do return piece .nothing (← indexOf v))
  | "groups" => return .tuple ((List.range (spans.length - 1)).map fun k => piece usual (k + 1))
  | "groupdict" => makeTable (names.map fun (n, k) => (.text n, piece usual k))
  | "start" => return .number (((ends (← asked)).map fun e => (e.1 : Int)).getD (-1))
  | "end" => return .number (((ends (← asked)).map fun e => (e.2 : Int)).getD (-1))
  | "span" =>
    match ends (← asked) with
    | some (a, b) => return .tuple [.ofNat a, .ofNat b]
    | none => return .tuple [.number (-1), .number (-1)]
  | "expand" => do
    let u ← searchUse ((Members.get? members "re").getD .nothing)
    let t ← searchText ev u string none none
    let held : Held := ((List.range spans.length).map ends).toArray
    match given with
    | [v] =>
      match charsOf? u.isOctets v with
      | some cs => return ofChars u.isOctets (← expanded u t held (cs.length + 1) 0 cs)
      | none => wrongArguments name given
    | given => wrongArguments name given
  | name => wrongArguments name given

end Run

end FirmwareSurvey.ResultScript
