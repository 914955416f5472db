import FirmwareSurvey.Results.Footnotes
import FirmwareSurvey.Template.Operators
import FirmwareSurvey.Template.Token
import FirmwareSurvey.Text.Case
import FirmwareSurvey.Text.Lines

/-!
# Filters and tests of a template

A filter turns a value into another one. The filter `src` writes a cell with a mark for the
footnote that tells its source, and thereby cites that source; it is the only one with an effect.
Wherever a filter takes a text, any value stands for the text it is written as.

Arguments with a name come last, as one map; only the filters that apply another filter or a test to
items know what the names mean.
-/

namespace FirmwareSurvey.Template

open Value

/-! ### Arguments -/

/-- The arguments of a filter, a test or a call. -/
structure Given where
  /-- Those without a name. -/
  plain : List Value := []
  /-- Those with a name. -/
  named : Members Value := []

namespace Given

/-- All arguments, those with a name as one map behind the others. -/
def all (g : Given) : List Value :=
  if g.named.isEmpty then g.plain else g.plain ++ [mapOfPairs (ofNamed g.named)]

/-- Passes when there are at most so many arguments. -/
def atMost (g : Given) (n : Nat) : Option Unit := if g.all.length ≤ n then some () else none

/-- The argument at a place; what is not there and what stands for nothing are left out. -/
def value? (g : Given) (i : Nat) : Option Value :=
  match g.all[i]? with
  | some .undefined => none
  | some .nothing => none
  | v => v

/-- The argument at a place as a text, left out or not. Fails on arguments with a name. -/
def optionalText? (g : Given) (i : Nat) : Option (Option String) :=
  match g.value? i with
  | none => some none
  | some v => if i < g.plain.length then some (some v.written) else none

/-- The argument at a place as a text. -/
def text? (g : Given) (i : Nat) : Option String := g.plain[i]?.map written

/-- The argument at a place, which has to be there. -/
def needed? (g : Given) (i : Nat) : Option Value := g.all[i]?

end Given

/-! ### Texts -/

/-- The items of a list written with a text between any two of them. -/
def joined (separator : String) (items : List Value) : String :=
  separator.intercalate (items.map written)

/-- A text in which every word starts with a capital; words end at blanks and at marks of ASCII. -/
def titleFrom (start : Bool) : List Char → List Char
  | [] => []
  | c :: cs =>
    let isMark := c.toNat < 0x80 && 0x20 < c.toNat && c.toNat != 0x7F && !Text.isAsciiDigit c &&
      !Text.isAsciiLetter c
    if isMark || Text.isBlank c then c :: titleFrom true cs
    else (if start then Text.upperChar c else Text.lowerChar c) ++ titleFrom false cs

/-- A text that starts with a capital and goes on in lower case. -/
def capitalized : List Char → List Char
  | [] => []
  | c :: cs => Text.upperChar c ++ Text.lowerChars cs

/-- A text with every occurrence of another replaced. `skip` counts the characters of an occurrence
that are still to be passed. -/
def replacedFrom (old new : List Char) (skip : Nat) : List Char → List Char
  | [] => []
  | c :: cs =>
    match skip with
    | n + 1 => replacedFrom old new n cs
    | 0 =>
      if old.isPrefixOf (c :: cs) then new ++ replacedFrom old new (old.length - 1) cs
      else c :: replacedFrom old new 0 cs

/-- A text with every occurrence of another replaced; an empty one occurs around every character. -/
def replaced (old new cs : List Char) : List Char :=
  if old.isEmpty then new ++ cs.flatMap (· :: new) else replacedFrom old new 0 cs

/-- A text without characters of a class at its ends. -/
def trimmedOf (p : Char → Bool) (cs : List Char) : List Char :=
  Text.dropEndWhile p (cs.dropWhile p)

/-- A character as it stands in a document of markup. -/
def escapedChar (c : Char) : List Char :=
  match c with
  | '<' => "&lt;".toList
  | '>' => "&gt;".toList
  | '&' => "&amp;".toList
  | '"' => "&quot;".toList
  | '\'' => "&#x27;".toList
  | '/' => "&#x2f;".toList
  | c => [c]

/-- The words of a text between blanks. `word` is what was read of the one at hand, backwards. -/
def wordsFrom (word : List Char) : List Char → List String
  | [] => if word.isEmpty then [] else [String.ofList word.reverse]
  | c :: cs =>
    if !Text.isBlank c then wordsFrom (c :: word) cs
    else if word.isEmpty then wordsFrom [] cs
    else String.ofList word.reverse :: wordsFrom [] cs

/-- The pieces of a text between occurrences of another; `piece` is what was read of the one at
hand, backwards, and `skip` counts the characters of an occurrence still to be passed. -/
def piecesFrom (separator piece : List Char) (skip : Nat) : List Char → List (List Char)
  | [] => [piece.reverse]
  | c :: cs =>
    match skip with
    | n + 1 => piecesFrom separator piece n cs
    | 0 =>
      if separator.isPrefixOf (c :: cs) then
        piece.reverse :: piecesFrom separator [] (separator.length - 1) cs
      else piecesFrom separator (c :: piece) 0 cs

/-! ### Items -/

/-- What a path of names and places between points leads to. None on the way through what is
undefined. -/
def follow? (v : Value) : List String → Option Value
  | [] => some v
  | step :: steps =>
    match v with
    | .undefined => none
    | v =>
      match Text.decimal? step.toList with
      | some n => follow? (v.item (.int n)) steps
      | none => follow? (v.member step) steps

/-- What an attribute of a value leads to: a path, or any other key. -/
def attribute? (key v : Value) : Option Value :=
  match key, v with
  | .text path, v => follow? v (Text.splitAt '.' path)
  | _, .undefined => none
  | key, v => some (v.item key)

/-- The first item or character of a value. -/
def first? (v : Value) : Option Value :=
  match v with
  | .text s => some ((s.toList.head?.map ofChar).getD .undefined)
  | v => v.elements?.map fun items => items.head?.getD .undefined

/-- The last item or character of a value. -/
def last? (v : Value) : Option Value :=
  match v with
  | .text s => some ((s.toList.getLast?.map ofChar).getD .undefined)
  | v => v.sequence?.map fun items => items.getLast?.getD .undefined

/-- A value with its items or characters in the other order. -/
def reversed? (v : Value) : Option Value :=
  match v with
  | .undefined => some .undefined
  | .nothing => some .nothing
  | .text s => some (.text (String.ofList s.toList.reverse))
  | v => v.elements?.map fun items => .run items.reverse

/-- A value as it is put in order: texts in lower case, unless case matters. -/
def sortKey (strict : Bool) : Value → Value
  | .text s => if strict then .text s else .text (Text.toLower s)
  | v => v

/-- Items in order. -/
def sorted (strict backwards : Bool) (key : Value → Value) (items : List Value) : List Value :=
  Sorting.sort (fun a b =>
    let o := (sortKey strict (key a)).order (sortKey strict (key b))
    if backwards then o != .lt else o != .gt) items

/-- Items without those that an earlier one is equal to, the last ones first. -/
def distinctFrom (seen : List Value) : List Value → List Value
  | [] => seen
  | v :: vs =>
    if seen.any fun w => (sortKey false w).order (sortKey false v) == .eq then
      distinctFrom seen vs
    else distinctFrom (v :: seen) vs

/-- The least item under an order. -/
def extreme (o : Ordering) (items : List Value) : Value :=
  match items with
  | [] => .undefined
  | v :: vs => vs.foldl (fun best w => if w.order best == o then w else best) v

/-! ### Numbers -/

/-- The whole part of a double. -/
def truncated (x : Binary64) : Int :=
  if x.isFinite then
    let (m, d) := Binary64.asQuotient x
    m.tdiv d
  else 0

/-- The number that a text writes. -/
def number? (s : String) : Option Value :=
  let cs := s.toList
  let (negative, digits) := match cs with
    | '-' :: ds => (true, ds)
    | '+' :: ds => (false, ds)
    | ds => (false, ds)
  match digits with
  | '+' :: _ => none
  | digits =>
    match Text.unsigned? 10 (Nat.pow 2 127) digits with
    | some n => some (.int (if negative then -(n : Int) else n))
    | none =>
      match Token.float? digits with
      | some (.float x) => some (.float (if negative then x.neg else x))
      | _ => none

/-- A value as a whole number. -/
def wholeNumber? : Value → Option Value
  | .undefined => some (.int 0)
  | .nothing => some (.int 0)
  | .bool b => some (.int (if b then 1 else 0))
  | .int n => some (.int n)
  | .float x => some (.int (truncated x))
  | .text s =>
    match number? s with
    | some (.float x) => some (.int (truncated x))
    | v => v
  | _ => none

/-- A value as a double. -/
def double? : Value → Option Value
  | .undefined => some (.float (.zero false))
  | .nothing => some (.float (.zero false))
  | .text s => (number? s).bind fun v => v.float?.map .float
  | v => v.float?.map .float

/-- A number without its sign. -/
def magnitude? : Value → Option Value
  | .int n => some (.int n.natAbs)
  | .float x => some (.float (if x.isNegative then x.neg else x))
  | _ => none

/-- A number rounded to so many places behind the point. -/
def rounded? (places : Int) : Value → Option Value
  | .int n => some (.int n)
  | .float x =>
    let scale := Float.pow 10 (Binary64.ofInt places).toFloat
    some (.float (.ofFloat ((x.toFloat * scale).round / scale)))
  | _ => none

/-! ### Tests -/

/-- Whether a value passes a test. -/
def passes? (name : String) (v : Value) (g : Given) : Option Bool := do
  let alone (b : Bool) : Option Bool := (g.atMost 0).map fun _ => b
  let beside (f : Value → Option Bool) : Option Bool := do
    g.atMost 1
    f (← g.needed? 0)
  let whole (f : Int → Bool) : Option Bool := alone ((v.place?.map f).getD false)
  match name with
  | "defined" => alone !(v matches .undefined)
  | "undefined" => alone (v matches .undefined)
  | "none" => alone (v matches .nothing)
  | "true" => alone (v matches .bool true)
  | "false" => alone (v matches .bool false)
  | "safe" => alone false
  | "escaped" => alone false
  | "boolean" => alone (v matches .bool _)
  | "number" => alone (v.kind == .number)
  | "integer" => alone (v matches .int _)
  | "int" => alone (v matches .int _)
  | "float" => alone (v matches .float _)
  | "string" => alone (v.kind == .text)
  | "sequence" => alone (v.kind == .list)
  | "iterable" => alone v.items?.isSome
  | "mapping" => alone (v.kind == .map)
  | "odd" => whole (· % 2 != 0)
  | "even" => whole (· % 2 == 0)
  | "divisibleby" => beside fun d =>
      match v.place?, d.place? with
      | some m, some n => some (n != 0 && m % n == 0)
      | _, _ => some false
  | "startingwith" => beside fun w => some (w.written.toList.isPrefixOf v.written.toList)
  | "endingwith" => beside fun w => some (w.written.toList.isSuffixOf v.written.toList)
  | "lower" => alone (Text.toLower v.written == v.written)
  | "upper" => alone (Text.toUpper v.written == v.written)
  | "eq" | "equalto" | "==" => beside (compares? .equal v)
  | "ne" | "!=" => beside (compares? .different v)
  | "lt" | "lessthan" | "<" => beside (compares? .less v)
  | "le" | "<=" => beside (compares? .atMost v)
  | "gt" | "greaterthan" | ">" => beside (compares? .greater v)
  | "ge" | ">=" => beside (compares? .atLeast v)
  | "in" => beside (compares? .element v)
  | _ => none

/-! ### Filters -/

/-- The value of a filter that neither cites nor applies another filter or test. -/
def plainFilter? (name : String) (v : Value) (g : Given) : Option Value := do
  let alone (v : Option Value) : Option Value := do
    g.atMost 0
    v
  let onText (f : List Char → List Char) : Option Value :=
    alone (some (.text (String.ofList (f v.written.toList))))
  let named (names : List String) : Option Unit :=
    if g.plain.isEmpty && g.named.all (·.1 ∈ names) then some () else none
  let flag (name : String) : Bool := ((g.named.get? name).map isTrue).getD false
  match name with
  | "length" | "count" => alone (v.length?.map fun n => .int n)
  | "string" => alone (some (.text v.written))
  | "safe" => alone (some (.text v.written))
  | "escape" | "e" => onText (·.flatMap escapedChar)
  | "lower" => onText Text.lowerChars
  | "upper" => onText Text.upperChars
  | "title" => onText (titleFrom true)
  | "capitalize" => onText capitalized
  | "trim" => do
    g.atMost 1
    let cs := v.written.toList
    match ← g.optionalText? 0 with
    | some set => some (.text (String.ofList (trimmedOf (· ∈ set.toList) cs)))
    | none => some (.text (String.ofList (Text.trimChars cs)))
  | "replace" => do
    g.atMost 2
    let old ← g.text? 0
    let new ← g.text? 1
    some (.text (String.ofList (replaced old.toList new.toList v.written.toList)))
  | "join" => do
    g.atMost 1
    let separator ← g.optionalText? 0
    let items ← v.items?
    some (.text (joined (separator.getD "") items))
  | "split" => do
    g.atMost 1
    match ← g.optionalText? 0 with
    | some separator =>
      let cs := v.written.toList
      if separator.isEmpty then none
      else some (.run ((piecesFrom separator.toList [] 0 cs).map fun p => .text (String.ofList p)))
    | none => some (.run ((wordsFrom [] v.written.toList).map .text))
  | "lines" => alone (some (.list ((Text.lines v.written).map .text)))
  | "default" | "d" => do
    g.atMost 2
    let lax := ((g.value? 1).map isTrue).getD false
    some (if (v matches .undefined) || (lax && !v.isTrue) then (g.value? 0).getD (.text "") else v)
  | "first" => alone (first? v)
  | "last" => alone (last? v)
  | "reverse" => alone (reversed? v)
  | "list" => alone (v.items?.map .list)
  | "items" => alone (match v.contents with
      | .map members => some (.run (members.map fun (k, v) => .list [k, v]))
      | _ => none)
  | "min" => alone (v.items?.map (extreme .lt))
  | "max" => alone (v.items?.map (extreme .gt))
  | "sum" => alone (v.items?.bind fun items => items.foldlM (binary? .sum) (.int 0))
  | "unique" => do
    named []
    let items ← v.items?
    some (.list (distinctFrom [] items).reverse)
  | "sort" => do
    named ["reverse", "case_sensitive", "attribute"]
    let items ← v.items?
    let key (v : Value) : Value :=
      match g.named.get? "attribute" with
      | some k => (attribute? k v).getD .undefined
      | none => v
    some (.list (sorted (flag "case_sensitive") (flag "reverse") key items))
  | "abs" => alone (magnitude? v)
  | "int" => alone (wholeNumber? v)
  | "float" => alone (double? v)
  | "bool" => alone (some (.bool v.isTrue))
  | "round" => do
    g.atMost 1
    rounded? (((g.value? 0).bind place?).getD 0) v
  | "attr" => do
    g.atMost 1
    some (v.item (← g.needed? 0))
  | _ => none

/-- A computation that may fail and that may cite sources. -/
abbrev Citing (α : Type) := StateT Footnotes Option α

/-- The value of a cell written with the mark of its footnote; any other value written as it is. -/
def withMark : Value → Footnotes → String × Footnotes
  | .cell t _, notes =>
    match t.source with
    | some source =>
      let (n, notes) := notes.cite source t.method
      (t.text ++ Footnotes.mark n, notes)
    | none => (t.text, notes)
  | v, notes => (v.written, notes)

/-- The value of a filter that applies no other filter or test. -/
def simpleFilter (name : String) (v : Value) (g : Given) : Citing Value := fun notes =>
  if name == "src" then
    (g.atMost 0).map fun _ =>
      let (out, notes) := withMark v notes
      (.text out, notes)
  else (plainFilter? name v g).map fun v => (v, notes)

/-- An attribute of every item, with a value for those that have none. -/
def attributes? (key : Value) (default : Option Value) (items : List Value) : Option (List Value) :=
  items.mapM fun item =>
    match attribute? key item, default with
    | some .undefined, some d => some d
    | some v, _ => some v
    | none, d => d

/-- The items of which a test, or the truth of an attribute, holds as wanted. -/
def selected? (wanted : Bool) (key : Option Value) (test : Option String) (g : Given)
    (items : List Value) : Option (List Value) :=
  items.filterM fun item => do
    let v ← match key with
      | some key => attribute? key item
      | none => some item
    let passed ← match test with
      | some name => passes? name v g
      | none => some v.isTrue
    some (passed == wanted)

/-- A filter applied to every item. -/
def applied (name : String) (g : Given) : List Value → Citing (List Value)
  | [] => pure []
  | v :: vs => do
    let v ← simpleFilter name v g
    return v :: (← applied name g vs)

/-- The filter that maps items: to an attribute, or by another filter. -/
def mapped (v : Value) (g : Given) : Citing Value := do
  let items ← liftM v.items?
  match g.named.get? "attribute" with
  | some key =>
    if g.plain.isEmpty && g.named.all (fun m => m.1 == "attribute" || m.1 == "default") then
      let default := (g.named.get? "default").filter fun d => !(d matches .undefined)
      return .list (← liftM (attributes? key default items))
    else failure
  | none =>
    match g.plain with
    | .text name :: plain => return .list (← applied name ⟨plain, g.named⟩ items)
    | _ => failure

/-- The filter that keeps or drops items by a test. -/
def sifted? (wanted byAttribute : Bool) (v : Value) (g : Given) : Option Value := do
  let items ← v.items?
  let (key, plain) ← if byAttribute then
      match g.plain with
      | key :: plain => some (some key, plain)
      | [] => none
    else some (none, g.plain)
  let (test, plain) := match plain with
    | t :: plain => (some t.written, plain)
    | [] => (none, [])
  some (.list (← selected? wanted key test ⟨plain, g.named⟩ items))

/-- The value of a filter. -/
def filter (name : String) (v : Value) (g : Given) : Citing Value :=
  match name with
  | "map" => mapped v g
  | "select" => liftM (sifted? true false v g)
  | "reject" => liftM (sifted? false false v g)
  | "selectattr" => liftM (sifted? true true v g)
  | "rejectattr" => liftM (sifted? false true v g)
  | name => simpleFilter name v g

end FirmwareSurvey.Template
