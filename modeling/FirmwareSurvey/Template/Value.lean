import FirmwareSurvey.Decimal.Binary64
import FirmwareSurvey.Results.Tracked
import FirmwareSurvey.Text.Lines
import FirmwareSurvey.Text.Quoted
import FirmwareSurvey.Text.Search

/-!
# Values of a template

A template computes with plain values and with *cells*. A cell is a tracked value of a result: it
shows as the tracked value does, and it is looked into, looped over and tested for truth like the
value it holds; but it is never equal to a plain text or number, and no arithmetic is done on it.
What a name without a value stands for is undefined, and so is everything inside of it.

What an operator makes of lists is a *run*: it has the items of a list and is equal to it, but is
of a kind of its own when values are put in order. Maps are kept sorted by their keys, which may be
any values.
-/

namespace FirmwareSurvey.Template

/-- A value of a template. -/
inductive Value where
  /-- What is not there. -/
  | undefined
  /-- Nothing. -/
  | nothing
  /-- A truth value. -/
  | bool (b : Bool)
  /-- A whole number. -/
  | int (n : Int)
  /-- Any other number. -/
  | float (x : Binary64)
  /-- A text. -/
  | text (s : String)
  /-- A list. -/
  | list (items : List Value)
  /-- The items that an operator makes of lists. -/
  | run (items : List Value)
  /-- A map, sorted by its keys. -/
  | map (members : List (Value × Value))
  /-- A tracked value and what it holds. -/
  | cell (tracked : Tracked) (held : Value)
  /-- What a loop knows about itself: the index of its round, how many rounds there are when that is
  known from the start, and the items before and after. -/
  | round (index : Nat) (size : Option Nat) (previous next : Value)
deriving Inhabited

namespace Value

/-- Members named by texts, with the names as values. -/
def ofNamed (members : Members Value) : List (Value × Value) :=
  (Members.sorted members).map fun (k, v) => (.text k, v)

mutual

/-- A JSON value as a value of a template. -/
def ofJson : Json → Value
  | .null => .nothing
  | .bool b => .bool b
  | .int n => .int n
  | .float x => .float x
  | .str s => .text s
  | .arr items => .list (ofItems items)
  | .obj members => .map (ofNamed (ofMembers members))

/-- The items of a list as values. -/
def ofItems : List Json → List Value
  | [] => []
  | v :: vs => ofJson v :: ofItems vs

/-- The members of an object as values. -/
def ofMembers : List (String × Json) → List (String × Value)
  | [] => []
  | (k, v) :: ms => (k, ofJson v) :: ofMembers ms

end

/-- The cell of a tracked value. -/
def ofTracked (t : Tracked) : Value := .cell t (ofJson t.value)

/-! ### Kinds -/

/-- The kinds of values, in the order in which values of different kinds are put. -/
inductive Kind where
  /-- What is not there. -/
  | undefined
  /-- Nothing. -/
  | nothing
  /-- A truth value. -/
  | bool
  /-- A number. -/
  | number
  /-- A text. -/
  | text
  /-- A list. -/
  | list
  /-- A map. -/
  | map
  /-- A run. -/
  | run
  /-- A cell that holds neither a list nor a map. -/
  | plain
deriving DecidableEq, Repr

/-- The place of a kind. -/
def Kind.rank : Kind → Nat
  | .undefined => 0
  | .nothing => 1
  | .bool => 2
  | .number => 3
  | .text => 4
  | .list => 5
  | .map => 6
  | .run => 7
  | .plain => 8

/-- The list or the map that a cell holds; any other value as it is. -/
def contents : Value → Value
  | .cell _ (.list items) => .list items
  | .cell _ (.map members) => .map members
  | v => v

/-- The kind of a value. -/
def kind (v : Value) : Kind :=
  match v.contents with
  | .undefined => .undefined
  | .nothing => .nothing
  | .bool _ => .bool
  | .int _ => .number
  | .float _ => .number
  | .text _ => .text
  | .list _ => .list
  | .run _ => .run
  | .map _ => .map
  | .round _ _ _ _ => .map
  | .cell _ _ => .plain

/-! ### Numbers -/

/-- The whole number of a truth value or a whole number. -/
def whole? : Value → Option Int
  | .bool b => some (if b then 1 else 0)
  | .int n => some n
  | _ => none

/-- The double of a number or truth value. -/
def float? : Value → Option Binary64
  | .float x => some x
  | v => v.whole?.map Binary64.ofInt

/-- The whole number that a value stands for as the place of an item or as a count. -/
def place? : Value → Option Int
  | .float x => Binary64.whole? x
  | v => v.whole?

/-- The order of two numbers or truth values, by what they stand for exactly. -/
def compareNumbers (a b : Value) : Ordering :=
  match a, b with
  | .float x, .float y => Binary64.order x y
  | .float x, b => (b.whole?.map fun n => (Binary64.orderInt n x).swap).getD .eq
  | a, .float y => (a.whole?.map fun n => Binary64.orderInt n y).getD .eq
  | a, b =>
    match a.whole?, b.whole? with
    | some m, some n => compare m n
    | _, _ => .eq

/-- Whether a value is an undefined double. -/
def isUndefinedFloat : Value → Bool
  | .float x => x.isUndefined
  | _ => false

/-- Whether two values are numbers or truth values and equal as such; undefined doubles never
are. -/
def sameNumber (a b : Value) : Bool :=
  a.float?.isSome && b.float?.isSome && !a.isUndefinedFloat && !b.isUndefinedFloat &&
    compareNumbers a b == .eq

/-! ### Writing -/

/-- The text of a number that is not finite. -/
def boundlessText (x : Binary64) : String :=
  if x.isUndefined then "NaN" else if x.isNegative then "-inf" else "inf"

/-- A double on its own. -/
def floatText (x : Binary64) : String :=
  if x.isFinite then String.ofList x.plainText else boundlessText x

/-- A double inside a list or a map: scientific from `10 ^ 16` on and below `10 ^ -4`. -/
def innerFloatText (x : Binary64) : String :=
  if x.isFinite then
    let d := x.shortest
    let magnitude : Int := d.scale + (Nat.toDigits 10 d.digits).length
    if d.digits == 0 || (-4 < magnitude && magnitude ≤ 16) then String.ofList x.plainText
    else String.ofList ((if x.isNegative then ['-'] else []) ++ d.scientific.filter (· != '+'))
  else boundlessText x

/-- The text of a truth value. -/
def boolText (b : Bool) : String := if b then "True" else "False"

mutual

/-- A value inside a list or a map. -/
def innerText : Value → String
  | .undefined => "undefined"
  | .nothing => "None"
  | .bool b => boolText b
  | .int n => Json.intText n
  | .float x => innerFloatText x
  | .text s => Text.quoted s
  | .list items => "[" ++ ", ".intercalate (itemTexts items) ++ "]"
  | .run items => "[" ++ ", ".intercalate (itemTexts items) ++ "]"
  | .map members => "\x7b" ++ ", ".intercalate (memberTexts members) ++ "\x7d"
  | .cell tracked _ => tracked.text
  | .round index size _ _ =>
    "<loop " ++ toString index ++ "/" ++ ((size.map toString).getD "?") ++ ">"

/-- The items of a list. -/
def itemTexts : List Value → List String
  | [] => []
  | v :: vs => innerText v :: itemTexts vs

/-- The members of a map. -/
def memberTexts : List (Value × Value) → List String
  | [] => []
  | (k, v) :: ms => (innerText k ++ ": " ++ innerText v) :: memberTexts ms

end

/-- The text of a value in a document. -/
def written : Value → String
  | .undefined => ""
  | .float x => floatText x
  | .text s => s
  | v => innerText v

/-! ### Comparing -/

/-- The order of two texts: that of their characters. -/
def compareTexts (s t : String) : Ordering :=
  if s < t then .lt else if s = t then .eq else .gt

/-- The items of a list or a run, in a cell or not. -/
def sequence? (v : Value) : Option (List Value) :=
  match v.contents with
  | .list items => some items
  | .run items => some items
  | _ => none

mutual

/-- The order of two values: that of their kinds first. -/
def order : Value → Value → Ordering
  | .text s, b =>
    (compare Kind.text.rank b.kind.rank).then
      (match b with | .text t => compareTexts s t | _ => .eq)
  | .list as, b =>
    (compare Kind.list.rank b.kind.rank).then
      (match b.sequence? with | some bs => orderItems as bs | none => .eq)
  | .run as, b =>
    (compare Kind.run.rank b.kind.rank).then
      (match b.sequence? with | some bs => orderItems as bs | none => .eq)
  | .map as, b =>
    (compare Kind.map.rank b.kind.rank).then
      (match b.contents with | .map bs => orderMembers as bs | _ => .eq)
  | .cell t held, b =>
    match held with
    | .list as =>
      (compare Kind.list.rank b.kind.rank).then
        (match b.sequence? with | some bs => orderItems as bs | none => .eq)
    | .map as =>
      (compare Kind.map.rank b.kind.rank).then
        (match b.contents with | .map bs => orderMembers as bs | _ => .eq)
    | _ =>
      (compare Kind.plain.rank b.kind.rank).then
        (match b with | .cell u _ => compareTexts t.text u.text | _ => .eq)
  | a, b => (compare a.kind.rank b.kind.rank).then (compareNumbers a b)

/-- The order of two lists: that of the first items that differ. -/
def orderItems : List Value → List Value → Ordering
  | [], [] => .eq
  | [], _ :: _ => .lt
  | _ :: _, [] => .gt
  | a :: as, b :: bs => (order a b).then (orderItems as bs)

/-- The order of two maps: that of the first members that differ. -/
def orderMembers : List (Value × Value) → List (Value × Value) → Ordering
  | [], [] => .eq
  | [], _ :: _ => .lt
  | _ :: _, [] => .gt
  | (k, a) :: as, (l, b) :: bs => ((order k l).then (order a b)).then (orderMembers as bs)

end

mutual

/-- Whether two values are equal. Lists and maps are equal by their contents, in a cell or not; all
other cells are equal to cells of the same text only. -/
def same : Value → Value → Bool
  | .undefined, b => match b with | .undefined => true | _ => false
  | .nothing, b => match b with | .nothing => true | _ => false
  | .text s, b => match b with | .text t => s == t | _ => false
  | .list as, b => match b.sequence? with | some bs => sameItems as bs | none => false
  | .run as, b => match b.sequence? with | some bs => sameItems as bs | none => false
  | .map as, b => match b.contents with | .map bs => sameMembers as bs | _ => false
  | .cell t held, b =>
    match held with
    | .list as => match b.sequence? with | some bs => sameItems as bs | none => false
    | .map as => match b.contents with | .map bs => sameMembers as bs | _ => false
    | _ =>
      match b.contents with
      | .cell u _ => t.text == u.text
      | _ => false
  | a, b => sameNumber a b

/-- Whether two lists are equal. -/
def sameItems : List Value → List Value → Bool
  | [], [] => true
  | a :: as, b :: bs => same a b && sameItems as bs
  | _, _ => false

/-- Whether two maps are equal. -/
def sameMembers : List (Value × Value) → List (Value × Value) → Bool
  | [], [] => true
  | (k, a) :: as, (l, b) :: bs => order k l == .eq && same a b && sameMembers as bs
  | _, _ => false

end

/-! ### Maps -/

/-- The value under a key of a map. -/
def lookup? (members : List (Value × Value)) (key : Value) : Option Value :=
  (members.find? fun m => order m.1 key == .eq).map (·.2)

/-- A map with a value under a key: in place of the one that was there, or where the key belongs. -/
def insert (key v : Value) : List (Value × Value) → List (Value × Value)
  | [] => [(key, v)]
  | (k, w) :: members =>
    match order key k with
    | .lt => (key, v) :: (k, w) :: members
    | .eq => (k, v) :: members
    | .gt => (k, w) :: insert key v members

/-- The map of pairs; of two values under one key the later one stays. -/
def mapOfPairs (pairs : List (Value × Value)) : Value :=
  .map (pairs.foldl (fun members (k, v) => insert k v members) [])

/-! ### Looking inside -/

/-- The item at a place of a list, negative places counted from the end. -/
def atPlace {α : Type} (items : List α) (place : Int) : Option α :=
  if 0 ≤ place then items[place.toNat]?
  else if place.natAbs ≤ items.length then items[items.length - place.natAbs]? else none

/-- A character of a text as a value. -/
def ofChar (c : Char) : Value := .text (String.ofList [c])

/-- What a loop knows about itself under a name. -/
def roundMember (index : Nat) (size : Option Nat) (previous next : Value) (name : String) : Value :=
  let ofSize (f : Nat → Value) : Value := (size.map f).getD .undefined
  match name with
  | "index" => .int (index + 1 : Nat)
  | "index0" => .int index
  | "length" => ofSize fun n => .int n
  | "revindex" => ofSize fun n => .int (n - index : Nat)
  | "revindex0" => ofSize fun n => .int (n - index - 1 : Nat)
  | "first" => .bool (index == 0)
  | "last" => .bool (size == some (index + 1))
  | "depth" => .int 1
  | "depth0" => .int 0
  | "previtem" => previous
  | "nextitem" => next
  | _ => .undefined

/-- The names of what a loop knows about itself. -/
def roundNames : List String :=
  ["index0", "index", "length", "revindex", "revindex0", "first", "last", "depth", "depth0",
    "previtem", "nextitem"]

/-- What is found in a value under a key; undefined when there is nothing. -/
def item : Value → Value → Value
  | .list items, key => ((place? key).bind (atPlace items)).getD .undefined
  | .run items, key => ((place? key).bind (atPlace items)).getD .undefined
  | .text s, key => (((place? key).bind (atPlace s.toList)).map ofChar).getD .undefined
  | .map members, key => (lookup? members key).getD .undefined
  | .round index size previous next, .text name => roundMember index size previous next name
  | .cell _ held, key => item held key
  | _, _ => .undefined

/-- A member of a value; undefined when there is none. -/
def member (v : Value) (name : String) : Value := v.item (.text name)

/-- The items of a value that has some, but is no text. -/
def elements? (v : Value) : Option (List Value) :=
  match v.contents with
  | .list items => some items
  | .run items => some items
  | .map members => some (members.map (·.1))
  | .round _ _ _ _ => some (roundNames.map .text)
  | _ => none

/-- The items that a loop over a value runs through; none when there can be no such loop. -/
def items? (v : Value) : Option (List Value) :=
  match v with
  | .undefined => some []
  | .nothing => some []
  | .text s => some (s.toList.map ofChar)
  | v => v.elements?

/-- How many items, members or characters a value has. -/
def length? (v : Value) : Option Nat :=
  match v with
  | .text s => some s.toList.length
  | v => v.elements?.map (·.length)

/-- Whether a value counts as true. -/
def isTrue : Value → Bool
  | .undefined => false
  | .nothing => false
  | .bool b => b
  | .int n => n != 0
  | .float x => !x.isZero
  | .text s => s != ""
  | .list items => !items.isEmpty
  | .run items => !items.isEmpty
  | .map members => !members.isEmpty
  | .cell _ held => isTrue held
  | .round _ _ _ _ => true

/-- Whether a value is found in another: as a part of a text, an item of a list or a key of a map.
None when the other is nothing to look into. -/
def isIn? (v container : Value) : Option Bool :=
  match container.contents with
  | .undefined => some false
  | .text s => some (Text.occursIn v.written.toList s.toList)
  | .list items => some (items.any (·.same v))
  | .run items => some (items.any (·.same v))
  | .map members => some (lookup? members v).isSome
  | .round _ _ _ _ => some (roundNames.any fun n => (Value.text n).same v)
  | .cell _ _ => some false
  | _ => none

end Value

end FirmwareSurvey.Template
