import FirmwareSurvey.ResultScript.Ability
import FirmwareSurvey.ResultScript.Token

/-!
# JSON in scripts

A script writes its values as JSON and reads JSON as values. It decides how the text is laid out,
whether all of it is ASCII, and what becomes of values that JSON does not have. A text that is no JSON
is refused with the place where that shows.
-/

namespace FirmwareSurvey.ResultScript

/-! ### Writing -/

/-- How JSON is written. -/
structure JsonStyle where
  /-- What each level is indented by; all is in one line without it. -/
  indent : Option (List Char) := none
  /-- What stands between items. -/
  itemMark : List Char := [',', ' ']
  /-- What stands between a key and its value. -/
  keyMark : List Char := [':', ' ']
  /-- Whether keys are sorted. -/
  isSorted : Bool := false
  /-- Whether all is ASCII. -/
  isAscii : Bool := true
  /-- Whether numbers that are none are written. -/
  allowsUndefined : Bool := true
  /-- Whether keys that JSON does not have are left out. -/
  skipsKeys : Bool := false
  /-- What is made of values that JSON does not have. -/
  fallback : Value := .nothing

/-- A unit of sixteen bits as an escape. -/
def unitEscape (n : Nat) : List Char := '\\' :: 'u' :: Text.padZeros 4 (Nat.toDigits 16 n)

/-- A character of a JSON text. -/
def jsonChar (isAscii : Bool) (c : Char) : List Char :=
  let n := c.toNat
  if c = '"' then ['\\', '"']
  else if c = '\\' then ['\\', '\\']
  else if c = '\n' then ['\\', 'n']
  else if c = '\r' then ['\\', 'r']
  else if c = '\t' then ['\\', 't']
  else if n = 12 then ['\\', 'f']
  else if n = 8 then ['\\', 'b']
  else if n < 32 then unitEscape n
  else if n < 127 || !isAscii then [c]
  else if n < 0x10000 then unitEscape n
  else unitEscape (0xD800 + (n - 0x10000) / 0x400) ++ unitEscape (0xDC00 + (n - 0x10000) % 0x400)

/-- A quoted JSON text. -/
def jsonQuoted (isAscii : Bool) (cs : List Char) : List Char :=
  '"' :: cs.flatMap (jsonChar isAscii) ++ ['"']

namespace Run

variable (ev : Evaluator)

/-- A double in JSON. -/
def jsonReal (style : JsonStyle) (x : Binary64) : Run (List Char) := do
  if x.isFinite then return realText x
  else if !style.allowsUndefined then 
    unfit ("Out of range float values are not JSON compliant: " ++ String.ofList (realText x))
  else if x.isUndefined then return "NaN".toList
  else return (if x.isNegative then "-Infinity" else "Infinity").toList

/-- A key in JSON; none when it is left out. -/
def jsonKey (style : JsonStyle) (k : Value) : Run (Option (List Char)) := do
  match k with
  | .text cs => return some cs
  | .truth b => return some (if b then "true" else "false").toList
  | .nothing => return some "null".toList
  | .number n => return some (numberText n)
  | .real x => return some (← jsonReal style x)
  | k =>
    if style.skipsKeys then return none
    else misfit s!"keys must be str, int, float, bool or None, not {← kindName k}"

/-- What stands before an item of a level. -/
def jsonBreak (style : JsonStyle) (level : Nat) : List Char :=
  match style.indent with
  | none => []
  | some cs => '\n' :: (List.replicate level cs).flatten

mutual

/-- A value in JSON; `seen` are the places of the things around it. -/
def jsonText (style : JsonStyle) (seen : List Nat) (level : Nat) : Nat → Value → Run (List Char)
  | 0, _ => fail "RecursionError" "maximum recursion depth exceeded while encoding a JSON object"
  | fuel + 1, v => do
    match v with
    | .nothing => return "null".toList
    | .truth b => return (if b then "true" else "false").toList
    | .number n => return numberText n
    | .real x => jsonReal style x
    | .text cs => return jsonQuoted style.isAscii cs
    | .tuple items => jsonList style seen level fuel items
    | v => do
      let inner ← match v with
        | .thing place => do
          if seen.contains place then unfit "Circular reference detected"
          pure (place :: seen)
        | _ => pure seen
      match ← thing? v with
      | some (.list items) => jsonList style inner level fuel items.toList
      | some (.table _ _ members) => do
        let members ← if style.isSorted then
            do pure ((← sortedByKeys ev (members.map fun m => (m.1, m.2))))
          else pure members
        let texts ← jsonMembers style inner (level + 1) fuel members
        if texts.isEmpty then return ['\x7b', '\x7d']
        else
          return '\x7b' :: jsonBreak style (level + 1) ++
            joinTexts (style.itemMark ++ jsonBreak style (level + 1)) texts ++
            jsonBreak style level ++ ['\x7d']
      | _ =>
        match style.fallback with
        | .nothing =>
          misfit s!"Object of type {← kindName v} is not JSON serializable"
        | f => do jsonText style inner level fuel (← ev.call f [v] [])
termination_by structural fuel => fuel

/-- Items in JSON. -/
def jsonList (style : JsonStyle) (seen : List Nat) (level : Nat) :
    Nat → List Value → Run (List Char)
  | 0, _ => throw .spent
  | fuel + 1, items => do
    if items.isEmpty then return ['[', ']']
    else
      let texts ← jsonItems style seen (level + 1) fuel items
      return '[' :: jsonBreak style (level + 1) ++
        joinTexts (style.itemMark ++ jsonBreak style (level + 1)) texts ++
        jsonBreak style level ++ [']']
termination_by structural fuel => fuel

/-- The texts of items. -/
def jsonItems (style : JsonStyle) (seen : List Nat) (level : Nat) :
    Nat → List Value → Run (List (List Char))
  | 0, _ => throw .spent
  | fuel + 1, items => do
    match items with
    | [] => return []
    | v :: rest => do
      let text ← jsonText style seen level fuel v
      return text :: (← jsonItems style seen level fuel rest)
termination_by structural fuel => fuel

/-- The texts of members. -/
def jsonMembers (style : JsonStyle) (seen : List Nat) (level : Nat) :
    Nat → List (Value × Value) → Run (List (List Char))
  | 0, _ => throw .spent
  | fuel + 1, members => do
    match members with
    | [] => return []
    | (k, v) :: rest => do
      match ← jsonKey style k with
      | none => jsonMembers style seen level fuel rest
      | some key => do
        let text ← jsonText style seen level fuel v
        return (jsonQuoted style.isAscii key ++ style.keyMark ++ text) ::
          (← jsonMembers style seen level fuel rest)
termination_by structural fuel => fuel

end

/-- The style that named arguments ask for. -/
def jsonStyle (named : Members Value) : Run JsonStyle := do
  let flag (name : String) (usual : Bool) : Run Bool := do
    match Members.get? named name with
    | some v => truth ev v
    | none => return usual
  let indent ← match Members.get? named "indent" with
    | none => pure none
    | some .nothing => pure none
    | some (.text cs) => pure (some cs)
    | some v => do pure (some (List.replicate (← numberArgument ev v).toNat ' '))
  let (itemMark, keyMark) ← match Members.get? named "separators" with
    | some .nothing => pure (none, none)
    | none => pure (none, none)
    | some v => do
      match ← itemsOf ev v with
      | [.text a, .text b] => pure (some a, some b)
      | items => unfit (if items.length < 2 then
          s!"not enough values to unpack (expected 2, got {items.length})"
          else "too many values to unpack (expected 2)")
  return {
    indent
    itemMark := itemMark.getD (if indent.isSome then [','] else [',', ' '])
    keyMark := keyMark.getD [':', ' ']
    isSorted := ← flag "sort_keys" false
    isAscii := ← flag "ensure_ascii" true
    allowsUndefined := ← flag "allow_nan" true
    skipsKeys := ← flag "skipkeys" false
    fallback := (Members.get? named "default").getD .nothing }

/-- A value as a JSON text in the style that named arguments ask for. -/
def jsonDumped (v : Value) (named : Members Value) : Run (List Char) := do
  let allowed := ["indent", "separators", "sort_keys", "ensure_ascii", "allow_nan", "skipkeys",
    "default", "check_circular", "cls"]
  match named.find? fun m => !allowed.contains m.1 with
  | some (name, _) =>
    misfit s!"JSONEncoder.__init__() got an unexpected keyword argument '{name}'"
  | none => do
    let style ← jsonStyle ev named
    -- an encoder of one's own is asked what becomes of values that JSON does not have
    let style ← match Members.get? named "cls" with
      | some (.thing kind) => do
        let encoder ← make (.plain (.thing kind) [])
        match ← special? encoder "default" with
        | some f => pure { style with fallback := .bound f encoder }
        | none => pure style
      | _ => pure style
    jsonText ev style [] 0 shownLimit v

end Run

/-! ### Reading -/

/-- A value that was read. -/
inductive Parsed where
  /-- A value that is itself. -/
  | plain (v : Value)
  /-- A list. -/
  | list (items : List Parsed)
  /-- A table. -/
  | table (members : List (List Char × Parsed))

/-- Why a text is no JSON: the wording and the place. -/
structure JsonFlaw where
  /-- The wording. -/
  reason : String
  /-- How many characters stand before the place. -/
  place : Nat

/-- A place in a text: the characters before it, by number, and those behind it. -/
structure JsonPlace where
  /-- How many characters stand before it. -/
  place : Nat
  /-- What follows. -/
  rest : List Char

namespace JsonPlace

/-- Goes on by so many characters. -/
def advance (p : JsonPlace) (n : Nat) : JsonPlace := ⟨p.place + n, p.rest.drop n⟩

/-- Goes on to what is not blank. -/
def skip (p : JsonPlace) : JsonPlace :=
  p.advance (p.rest.takeWhile fun c => c = ' ' || c = '\t' || c = '\n' || c = '\r').length

/-- Reads the rest of a text behind its quote; `start` is where the quote stands. -/
def text (start : Nat) : Nat → List Char → JsonPlace → Except JsonFlaw (List Char × JsonPlace)
  | 0, _, _ => .error ⟨"Unterminated string starting at", start⟩
  | fuel + 1, read, p =>
    match p.rest with
    | [] => .error ⟨"Unterminated string starting at", start⟩
    | '"' :: _ => .ok (read.reverse, p.advance 1)
    | ['\\'] => .error ⟨"Unterminated string starting at", start⟩
    | '\\' :: 'u' :: more =>
      let unit? (cs : List Char) : Option Nat :=
        let digits := cs.take 4
        if digits.length = 4 && digits.all fun c => (Text.digitValue? 16 c).isSome then
          Text.digitsValue? 16 0 digits
        else none
      match unit? more with
      | none => .error ⟨"Invalid \\uXXXX escape", p.place + 1⟩
      | some n =>
        match more.drop 4 with
        | '\\' :: 'u' :: second =>
          match unit? second with
          | some m =>
            if 0xD800 ≤ n && n < 0xDC00 && 0xDC00 ≤ m && m < 0xE000 then
              let c := Char.ofNat (0x10000 + (n - 0xD800) * 0x400 + (m - 0xDC00))
              text start fuel (c :: read) (p.advance 12)
            else text start fuel (Char.ofNat n :: read) (p.advance 6)
          | none => text start fuel (Char.ofNat n :: read) (p.advance 6)
        | _ => text start fuel (Char.ofNat n :: read) (p.advance 6)
    | '\\' :: c :: _ =>
      let meaning? : Option Char := match c with
        | '"' => some '"'
        | '\\' => some '\\'
        | '/' => some '/'
        | 'b' => some '\x08'
        | 'f' => some '\x0c'
        | 'n' => some '\n'
        | 'r' => some '\r'
        | 't' => some '\t'
        | _ => none
      match meaning? with
      | some e => text start fuel (e :: read) (p.advance 2)
      | none => .error ⟨"Invalid \\escape", p.place⟩
    | c :: _ =>
      if c.toNat < 32 then .error ⟨"Invalid control character at", p.place⟩
      else text start fuel (c :: read) (p.advance 1)

/-- Reads a number. -/
def number? (p : JsonPlace) : Option (Value × JsonPlace) :=
  let (isNegative, cs) := match p.rest with
    | '-' :: cs => (true, cs)
    | cs => (false, cs)
  let whole := match cs with
    | '0' :: _ => ['0']
    | cs => cs.takeWhile Char.isDigit
  if whole.isEmpty then none
  else
    let after := cs.drop whole.length
    let part := match after with
      | '.' :: more => more.takeWhile Char.isDigit
      | _ => []
    let after := if part.isEmpty then after else after.drop (part.length + 1)
    let exponent? : Option (Bool × List Char × Nat) := match after with
      | e :: more =>
        if e = 'e' || e = 'E' then
          let (isDown, digits, n) := match more with
            | '-' :: ds => (true, ds, 2)
            | '+' :: ds => (false, ds, 2)
            | ds => (false, ds, 1)
          let ds := digits.takeWhile Char.isDigit
          if ds.isEmpty then none else some (isDown, ds, n + ds.length)
        else none
      | [] => none
    let used := (if isNegative then 1 else 0) + whole.length +
      (if part.isEmpty then 0 else part.length + 1) + (exponent?.map (·.2.2)).getD 0
    let digits := (Text.digitsValue? 10 0 (whole ++ part)).getD 0
    if part.isEmpty && exponent?.isNone then
      some (.number (if isNegative then -(digits : Int) else digits), p.advance used)
    else
      let e : Int := match exponent? with
        | some (isDown, ds, _) =>
          let n : Int := (Text.digitsValue? 10 0 ds).getD 0
          if isDown then -n else n
        | none => 0
      let x := realOf (whole ++ part) (e - part.length)
      some (.real (if isNegative then x.neg else x), p.advance used)

/-- The words that stand for values. -/
def words : List (String × Value) :=
  [("null", .nothing), ("true", .truth true), ("false", .truth false),
    ("NaN", .real (.undefined false)), ("Infinity", .real (.infinity false)),
    ("-Infinity", .real (.infinity true))]

mutual

/-- Reads a value. -/
def value : Nat → JsonPlace → Except JsonFlaw (Parsed × JsonPlace)
  | 0, p => .error ⟨"Expecting value", p.place⟩
  | fuel + 1, p => do
    match p.rest with
    | '"' :: _ => do
      let (cs, q) ← text p.place (p.rest.length + 1) [] (p.advance 1)
      return (.plain (.text cs), q)
    | '[' :: _ => do
      let q := (p.advance 1).skip
      match q.rest with
      | ']' :: _ => return (.list [], q.advance 1)
      | _ => do
        let (items, q) ← items fuel q
        return (.list items, q)
    | '\x7b' :: _ => do
      let q := (p.advance 1).skip
      match q.rest with
      | '\x7d' :: _ => return (.table [], q.advance 1)
      | '"' :: _ => do
        let (members, q) ← members fuel q
        return (.table members, q)
      | _ => .error ⟨"Expecting property name enclosed in double quotes", q.place⟩
    | _ =>
      match words.find? fun w => w.1.toList.isPrefixOf p.rest with
      | some (w, v) => return (.plain v, p.advance w.length)
      | none =>
        match p.number? with
        | some (v, q) => return (.plain v, q)
        | none => .error ⟨"Expecting value", p.place⟩
termination_by structural fuel => fuel

/-- Reads the items of a list up to its end. -/
def items : Nat → JsonPlace → Except JsonFlaw (List Parsed × JsonPlace)
  | 0, p => .error ⟨"Expecting value", p.place⟩
  | fuel + 1, p => do
    let (v, q) ← value fuel p
    let q := q.skip
    match q.rest with
    | ',' :: _ => do
      let (rest, q) ← items fuel (q.advance 1).skip
      return (v :: rest, q)
    | ']' :: _ => return ([v], q.advance 1)
    | _ => .error ⟨"Expecting ',' delimiter", q.place⟩
termination_by structural fuel => fuel

/-- Reads the members of a table up to its end. -/
def members : Nat → JsonPlace → Except JsonFlaw (List (List Char × Parsed) × JsonPlace)
  | 0, p => .error ⟨"Expecting value", p.place⟩
  | fuel + 1, p => do
    let (key, q) ← text p.place (p.rest.length + 1) [] (p.advance 1)
    let q := q.skip
    match q.rest with
    | ':' :: _ => do
      let (v, q) ← value fuel (q.advance 1).skip
      let q := q.skip
      match q.rest with
      | ',' :: _ => do
        let next := (q.advance 1).skip
        match next.rest with
        | '"' :: _ => do
          let (rest, q) ← members fuel next
          return ((key, v) :: rest, q)
        | _ => .error ⟨"Expecting property name enclosed in double quotes", next.place⟩
      | '\x7d' :: _ => return ([(key, v)], q.advance 1)
      | _ => .error ⟨"Expecting ',' delimiter", q.place⟩
    | _ => .error ⟨"Expecting ':' delimiter", q.place⟩
termination_by structural fuel => fuel

end

/-- Reads a text. -/
def whole (cs : List Char) : Except JsonFlaw Parsed := do
  let (v, q) ← value (2 * cs.length + 2) (skip ⟨0, cs⟩)
  let q := q.skip
  if q.rest.isEmpty then return v else .error ⟨"Extra data", q.place⟩

end JsonPlace

namespace Run

variable (ev : Evaluator)

mutual

/-- What was read as a value; tables may be turned into something else by a function of them, or of
their members. -/
def ofParsed (ofTable ofPairs : Value) : Nat → Parsed → Run Value
  | 0, _ => throw .spent
  | fuel + 1, p => do
    match p with
    | .plain v => return v
    | .list items => do makeList (← ofParsedItems ofTable ofPairs fuel items)
    | .table members => do
      let members ← ofParsedMembers ofTable ofPairs fuel members
      match ofPairs, ofTable with
      | .nothing, .nothing => makeTable (withMembers [] members)
      | .nothing, f => do ev.call f [← makeTable (withMembers [] members)] []
      | f, _ => do ev.call f [← makeList (members.map fun (k, v) => .tuple [k, v])] []
termination_by structural fuel => fuel

/-- Items that were read as values. -/
def ofParsedItems (ofTable ofPairs : Value) : Nat → List Parsed → Run (List Value)
  | 0, _ => throw .spent
  | fuel + 1, items => do
    match items with
    | [] => return []
    | p :: rest => do
      let v ← ofParsed ofTable ofPairs fuel p
      return v :: (← ofParsedItems ofTable ofPairs fuel rest)
termination_by structural fuel => fuel

/-- Members that were read as values. -/
def ofParsedMembers (ofTable ofPairs : Value) :
    Nat → List (List Char × Parsed) → Run (List (Value × Value))
  | 0, _ => throw .spent
  | fuel + 1, members => do
    match members with
    | [] => return []
    | (k, p) :: rest => do
      let v ← ofParsed ofTable ofPairs fuel p
      return (.text k, v) :: (← ofParsedMembers ofTable ofPairs fuel rest)
termination_by structural fuel => fuel

end

/-- Fails because a text is no JSON. -/
def failJson {α : Type} (cs : List Char) (flaw : JsonFlaw) : Run α := do
  let before := cs.take flaw.place
  let line := (before.filter (· = '\n')).length + 1
  let column := (before.reverse.takeWhile (· != '\n')).length + 1
  let text := s!"{flaw.reason}: line {line} column {column} (char {flaw.place})"
  raise (← makeFailure "json.decoder.JSONDecodeError" [.ofString text]
    [("msg", .ofString flaw.reason), ("doc", .text cs), ("pos", .ofNat flaw.place),
      ("lineno", .ofNat line), ("colno", .ofNat column)])

/-- Reads a value from a JSON text. -/
def jsonLoaded (v : Value) (named : Members Value) : Run Value := do
  let cs ← match v with
    | .text cs => do
      if cs.head? = some '\uFEFF' then
        failJson cs ⟨"Unexpected UTF-8 BOM (decode using utf-8-sig)", 0⟩
      else pure cs
    | .octets bytes => decoded .marked "strict" bytes
    | v => misfit s!"the JSON object must be str, bytes or bytearray, not {← kindName v}"
  match JsonPlace.whole cs with
  | .error flaw => failJson cs flaw
  | .ok p =>
    ofParsed ev ((Members.get? named "object_hook").getD .nothing)
      ((Members.get? named "object_pairs_hook").getD .nothing) (2 * cs.length + 8) p

end Run

end FirmwareSurvey.ResultScript
