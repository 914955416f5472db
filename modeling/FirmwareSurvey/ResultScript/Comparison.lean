import FirmwareSurvey.Decimal.Binary64
import FirmwareSurvey.ResultScript.State

/-!
# Comparing values

Numbers are equal when they stand for the same number, whatever their kind; rows are compared item by
item. Values under which others are kept must not change: what can change is refused as a key. Kinds
that a script makes may say themselves how their values compare.
-/

namespace FirmwareSurvey.ResultScript

/-! ### Numbers -/

/-- The whole number of a value. -/
def Value.whole? : Value → Option Int
  | .truth b => some (if b then 1 else 0)
  | .number n => some n
  | _ => none

/-- The double of a value. -/
def Value.real? : Value → Option Binary64
  | .real x => some x
  | v => v.whole?.map Binary64.ofInt

/-- Whether a value is a number. -/
def Value.isNumber (v : Value) : Bool := v.real?.isSome

/-- The order of two numbers; none inside when one of them is undefined. -/
def numberOrder? : Value → Value → Option (Option Ordering)
  | .real x, .real y =>
    some (if x.isUndefined || y.isUndefined then none else some (Binary64.order x y))
  | .real x, b => b.whole?.map fun n =>
    if x.isUndefined then none else some (Binary64.orderInt n x).swap
  | a, .real y => a.whole?.map fun n =>
    if y.isUndefined then none else some (Binary64.orderInt n y)
  | a, b =>
    match a.whole?, b.whole? with
    | some m, some n => some (some (compare m n))
    | _, _ => none

/-- How many numbers a range has. -/
def rangeCount (start stop step : Int) : Nat :=
  if 0 < step then (if start < stop then ((stop - start - 1) / step + 1).toNat else 0)
  else if step < 0 then (if stop < start then ((start - stop - 1) / (-step) + 1).toNat else 0)
  else 0

/-- The numbers of a range. -/
def rangeItems (start stop step : Int) : List Value :=
  (List.range (rangeCount start stop step)).map fun (i : Nat) => .number (start + step * i)

/-! ### Keys -/

mutual

/-- Whether two values are the same key. -/
def sameKey : Value → Value → Bool
  | .nothing, .nothing => true
  | .text a, .text b => a == b
  | .octets a, .octets b => a == b
  | .dots, .dots => true
  | .tuple a, .tuple b => sameKeys a b
  | .range a b c, .range d e f => a == d && b == e && c == f
  | .known a, .known b => a == b
  | .ability a m, .ability b n => m == n && sameKey a b
  | .bound a m, .bound b n => sameKey a b && sameKey m n
  | .view a m, .view b n => a == b && m == n
  | .thing a, .thing b => a == b
  | a, b => numberOrder? a b == some (some .eq)

/-- Whether two rows of values are the same keys. -/
def sameKeys : List Value → List Value → Bool
  | [], [] => true
  | a :: as, b :: bs => sameKey a b && sameKeys as bs
  | _, _ => false

end

/-- What is kept under a key. -/
def keyed? {α : Type} (members : List (Value × α)) (key : Value) : Option α :=
  (members.find? fun m => sameKey m.1 key).map (·.2)

/-- Keeps something under a key. -/
def putKey {α : Type} (key : Value) (v : α) : List (Value × α) → List (Value × α)
  | [] => [(key, v)]
  | (k, old) :: rest => if sameKey k key then (k, v) :: rest else (k, old) :: putKey key v rest

/-- Adds a value to others that are different from it. -/
def addKey (items : List Value) (v : Value) : List Value :=
  if items.any (sameKey · v) then items else items ++ [v]

/-- The different ones of values. -/
def distinct (items : List Value) : List Value := items.foldl addKey []

/-! ### The order of sets -/

/-- Where a number lies in a table of a set, from a first place on: in the first free one of ten
neighbours, or else further away. `fuel` bounds the search. -/
def setPlace (slots : Array (Option Int)) : Nat → Nat → Nat → Nat
  | 0, place, _ => place
  | fuel + 1, place, shift =>
    let near := if place + 9 < slots.size then 10 else 1
    match (List.range near).find? fun k => slots[place + k]? == some none with
    | some k => place + k
    | none =>
      let shift := shift / 32
      setPlace slots fuel ((place * 5 + 1 + shift) % slots.size) shift

/-- Puts a number into the table of a set. -/
def setPut (slots : Array (Option Int)) (n : Int) : Array (Option Int) :=
  let mark := (if n = -1 then -2 else n).emod 0x10000000000000000
  let mark := mark.toNat
  slots.setIfInBounds (setPlace slots 64 (mark % slots.size) mark) (some n)

/-- The least size of a table that has room for more than so many numbers. -/
def setSize : Nat → Nat → Nat → Nat
  | 0, size, _ => size
  | fuel + 1, size, least => if least < size then size else setSize fuel (2 * size) least

/-- The numbers of a set in the order of their places, given in the order in which they came. -/
def setOrder (numbers : List Int) : List Int :=
  let (slots, _) := numbers.foldl (fun (slots, used) n =>
    let slots := setPut slots n
    let used := used + 1
    if used * 5 < (slots.size - 1) * 3 then (slots, used)
    else
      let size := setSize 40 8 (if 50000 < used then used * 2 else used * 4)
      ((slots.toList.filterMap id).foldl setPut (Array.replicate size none), used))
    (Array.replicate 8 none, 0)
  slots.toList.filterMap id

/-- The items of a set in order. -/
def setShown (items : List Value) : List Value :=
  match items.mapM fun v => match v with
    | .number n => some n
    | _ => none with
  | some numbers => (setOrder numbers).map .number
  | none => items

namespace Run

mutual

/-- Refuses a value that can change as a key. -/
def requireKey : Value → Run Unit
  | .tuple items => requireKeys items
  | .thing place => do
    match (← get).things[place]? with
    | some (.list _) => misfit "unhashable type: 'list'"
    | some (.deque _ _) => misfit "unhashable type: 'collections.deque'"
    | some (.table kind _ _) => misfit s!"unhashable type: '{bareKindName kind}'"
    | some (.set false _) => misfit "unhashable type: 'set'"
    | _ => return ()
  | _ => return ()

/-- Refuses values that can change as keys. -/
def requireKeys : List Value → Run Unit
  | [] => return ()
  | v :: vs => do
    requireKey v
    requireKeys vs

end

/-- Whether two values are one and the same. -/
def isSame : Value → Value → Bool
  | .truth a, .truth b => a == b
  | .truth _, .number _ => false
  | .number _, .truth _ => false
  | .number _, .real _ => false
  | .real _, .number _ => false
  | .truth _, .real _ => false
  | .real _, .truth _ => false
  | .noAnswer, .noAnswer => true
  | a, b => sameKey a b

variable (ev : Evaluator)

/-- Whether a value counts as true. -/
def truth (v : Value) : Run Bool := do
  match v with
  | .nothing => return false
  | .truth b => return b
  | .number n => return n != 0
  | .real x => return !x.isZero
  | .text cs => return !cs.isEmpty
  | .octets bytes => return !bytes.isEmpty
  | .tuple items => return !items.isEmpty
  | .range a b c => return rangeCount a b c != 0
  | .view table _ =>
    match (← get).things[table]? with
    | some (.table _ _ members) => return !members.isEmpty
    | _ => return true
  | .thing place =>
    match (← get).things[place]? with
    | some (.list items) => return !items.isEmpty
    | some (.deque items _) => return !items.isEmpty
    | some (.table _ _ members) => return !members.isEmpty
    | some (.set _ items) => return !items.isEmpty
    | _ =>
      match ← special? v "__bool__" with
      | some f => return !isSame (← ev.call f [v] []) (.truth false)
      | none =>
        match ← special? v "__len__" with
        | some f => return !sameKey (← ev.call f [v] []) (.number 0)
        | none => return true
  | _ => return true

/-- What a value answers to a question about itself and another one; none when it has no answer. -/
def answer? (name : String) (a b : Value) : Run (Option Value) := do
  match ← special? a name with
  | none => return none
  | some f =>
    match ← ev.call f [a, b] [] with
    | .noAnswer => return none
    | v => return some v

/-- The items of a table in its view. -/
def viewItems (members : List (Value × Value)) (part : String) : List Value :=
  if part == "keys" then members.map (·.1)
  else if part == "values" then members.map (·.2)
  else members.map fun (k, v) => .tuple [k, v]

/-- The items of a set, or of a view that is like one. -/
def setItems? (v : Value) : Run (Option (List Value)) := do
  match v with
  | .view table part =>
    match (← get).things[table]? with
    | some (.table _ _ members) =>
      return if part == "values" then none else some (viewItems members part)
    | _ => return none
  | v =>
    match ← thing? v with
    | some (.set _ items) => return some items
    | _ => return none

mutual

/-- Whether two values are equal. -/
def equal : Nat → Value → Value → Run Bool
  | 0, _, _ => fail "RecursionError" "maximum recursion depth exceeded in comparison"
  | fuel + 1, a, b => do
    match a, b with
    | .tuple as, .tuple bs => equalItems fuel as bs
    | .range a b c, .range d e f =>
      return sameKeys (rangeItems a b c) (rangeItems d e f)
    | .real x, .real y => return numberOrder? (.real x) (.real y) == some (some .eq)
    | a, b =>
      match ← answer? ev "__eq__" a b with
      | some v => truth ev v
      | none =>
        match ← answer? ev "__eq__" b a with
        | some v => truth ev v
        | none => equalThings fuel a b
termination_by structural fuel => fuel

/-- Whether two values are equal that say nothing about it themselves. -/
def equalThings : Nat → Value → Value → Run Bool
  | 0, _, _ => fail "RecursionError" "maximum recursion depth exceeded in comparison"
  | fuel + 1, a, b => do
    if sameKey a b then return true
    else
      match ← thing? a, ← thing? b with
      | some (.list as), some (.list bs) =>
        if as.size = bs.size then equalItems fuel as.toList bs.toList else return false
      | some (.deque as _), some (.deque bs _) => equalItems fuel as.toList bs.toList
      | some (.table _ _ as), some (.table _ _ bs) =>
        if as.length = bs.length then equalMembers fuel as bs else return false
      | some (.plain (.known k) as), some (.plain (.known l) bs) =>
        if k == l && !isKindUnder k "BaseException" then
          equalMembers fuel (as.map fun m => (.ofString m.1, m.2))
            (bs.map fun m => (.ofString m.1, m.2))
        else return false
      | _, _ =>
        match ← setItems? a, ← setItems? b with
        | some as, some bs =>
          return as.length = bs.length && as.all fun v => bs.any (sameKey · v)
        | _, _ => return false
termination_by structural fuel => fuel

/-- Whether rows of values are equal. -/
def equalItems : Nat → List Value → List Value → Run Bool
  | 0, _, _ => fail "RecursionError" "maximum recursion depth exceeded in comparison"
  | fuel + 1, as, bs => do
    match as, bs with
    | [], [] => return true
    | a :: as, b :: bs =>
      if ← equal fuel a b then equalItems fuel as bs else return false
    | _, _ => return false
termination_by structural fuel => fuel

/-- Whether the members of a table are those of another one too. -/
def equalMembers : Nat → List (Value × Value) → List (Value × Value) → Run Bool
  | 0, _, _ => fail "RecursionError" "maximum recursion depth exceeded in comparison"
  | fuel + 1, as, bs => do
    match as with
    | [] => return true
    | (k, v) :: as =>
      match keyed? bs k with
      | none => return false
      | some w => if ← equal fuel v w then equalMembers fuel as bs else return false
termination_by structural fuel => fuel

end

/-- How deep comparisons go, and how long the rows are that are compared. -/
def comparisonLimit : Nat := 1000000

/-- Whether two values are equal. -/
def areEqual (a b : Value) : Run Bool := equal ev comparisonLimit a b

/-- Whether an order is as a sign says. -/
def fits (sign : String) : Ordering → Bool
  | .lt => sign == "<" || sign == "<="
  | .eq => sign == "<=" || sign == ">="
  | .gt => sign == ">" || sign == ">="

/-- The order of two rows that are comparable at once. -/
def orderOf {α : Type} (lt : α → α → Bool) [BEq α] : List α → List α → Ordering
  | [], [] => .eq
  | [], _ :: _ => .lt
  | _ :: _, [] => .gt
  | a :: as, b :: bs => if a == b then orderOf lt as bs else if lt a b then .lt else .gt

/-- What a value is asked for a sign, and what the other one is asked instead. -/
def orderQuestions (sign : String) : String × String :=
  if sign == "<" then ("__lt__", "__gt__")
  else if sign == "<=" then ("__le__", "__ge__")
  else if sign == ">" then ("__gt__", "__lt__")
  else ("__ge__", "__le__")

mutual

/-- Whether two values stand in an order. -/
def ordered (sign : String) : Nat → Value → Value → Run Bool
  | 0, _, _ => fail "RecursionError" "maximum recursion depth exceeded in comparison"
  | fuel + 1, a, b => do
    let refuse : Run Bool := do
      misfit s!"'{sign}' not supported between instances of '{← kindName a}' and '{← kindName b}'"
    match numberOrder? a b with
    | some o => return (o.map (fits sign)).getD false
    | none =>
      match a, b with
      | .text as, .text bs => return fits sign (orderOf (fun c d => decide (c < d)) as bs)
      | .octets as, .octets bs => return fits sign (orderOf (fun c d => decide (c < d)) as bs)
      | .tuple as, .tuple bs => orderedItems sign fuel as bs
      | a, b =>
        match ← thing? a, ← thing? b with
        | some (.list as), some (.list bs) => orderedItems sign fuel as.toList bs.toList
        | some (.plain (.known k) as), some (.plain (.known _) bs) =>
          if k == "pathlib.PosixPath" then
            match Members.get? as "__text__", Members.get? bs "__text__" with
            | some (.text as), some (.text bs) =>
              return fits sign (orderOf (fun c d => decide (c < d)) as bs)
            | _, _ => refuse
          else refuse
        | _, _ =>
          match ← setItems? a, ← setItems? b with
          | some as, some bs =>
            let within := as.all fun v => bs.any (sameKey · v)
            let around := bs.all fun v => as.any (sameKey · v)
            return if sign == "<=" then within
              else if sign == "<" then within && as.length < bs.length
              else if sign == ">=" then around
              else around && bs.length < as.length
          | _, _ =>
            let (own, others) := orderQuestions sign
            match ← answer? ev own a b with
            | some v => truth ev v
            | none =>
              match ← answer? ev others b a with
              | some v => truth ev v
              | none => refuse
termination_by structural fuel => fuel

/-- Whether two rows stand in an order: that of their first items that differ. -/
def orderedItems (sign : String) : Nat → List Value → List Value → Run Bool
  | 0, _, _ => fail "RecursionError" "maximum recursion depth exceeded in comparison"
  | fuel + 1, as, bs => do
    match as, bs with
    | [], [] => return fits sign .eq
    | [], _ :: _ => return fits sign .lt
    | _ :: _, [] => return fits sign .gt
    | a :: as, b :: bs =>
      if ← areEqual ev a b then orderedItems sign fuel as bs else ordered sign fuel a b
termination_by structural fuel => fuel

end

/-- Whether two values stand in an order. -/
def areOrdered (sign : String) (a b : Value) : Run Bool := ordered ev sign comparisonLimit a b

end Run

end FirmwareSurvey.ResultScript
