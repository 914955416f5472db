import FirmwareSurvey.Members
import FirmwareSurvey.ResultScript.Comparison
import FirmwareSurvey.ResultScript.File
import FirmwareSurvey.Text.Search

/-!
# Rows and places

Whatever has items can be gone through, one item at a time, by a row that is gone through once. Lists,
tuples, texts, bytes and ranges have their items at places: places count from zero, negative ones from
the end, and a range of places picks out a part. Tables keep their members under keys.
-/

namespace FirmwareSurvey.ResultScript

namespace Run

variable (ev : Evaluator)

/-! ### Going through rows -/

/-- How many items a run may go through. -/
def rowLimit : Nat := 1000000

/-- The kind of a row through a view or a table. -/
def keysKind (part : String) : String :=
  if part == "values" then "dict_valueiterator"
  else if part == "items" then "dict_itemiterator" else "dict_keyiterator"

/-- A row that goes through a value once. -/
def rowOf (v : Value) : Run Value := do
  let refuse : Run Value := do misfit s!"'{← kindName v}' object is not iterable"
  let throughTable (place : Nat) (part : String) : Run Value := do
    match (← get).things[place]? with
    | some (.table _ _ members) =>
      make (.row (keysKind part) (.keys place members.length part (viewItems members part)))
    | _ => refuse
  match v with
  | .text cs => makeRow "str_ascii_iterator" (cs.map fun c => .text [c])
  | .octets bytes => makeRow "bytes_iterator" (bytes.map fun b => .ofNat b.toNat)
  | .tuple items => makeRow "tuple_iterator" items
  | .range a b c => make (.row "range_iterator" (.numbers a (rangeCount a b c) c))
  | .view table part => throughTable table part
  | .thing place =>
    match (← get).things[place]? with
    | some (.list _) => make (.row "list_iterator" (.places place 0))
    | some (.deque items _) => makeRow "_collections._deque_iterator" items.toList
    | some (.table _ _ _) => throughTable place "keys"
    | some (.set _ items) => makeRow "set_iterator" (setShown items)
    | some (.row _ _) => return v
    | some (.file _) => do
      let _ ← readableAt place
      make (.row "_io.TextIOWrapper" (.lines place))
    | _ =>
      match ← special? v "__iter__" with
      | some f => ev.call f [v] []
      | none =>
        if (← special? v "__next__").isSome then return v else refuse
  | .known name =>
    if name == "sys.stdin" then makeRow "_io.TextIOWrapper" [] else
      if isKindName name then misfit s!"'type' object is not iterable" else refuse
  | _ => refuse

/-- Whether a signal is a failure of a kind. -/
def isFailureOf (kind : String) : Signal → Run Bool
  | .failed place => isOfKind (.thing place) kind
  | _ => return false

/-- Makes an answer of a part none when it fails with a kind. -/
def orNone {α : Type} (kind : String) (x : Run α) : Run (Option α) := do
  match ← attempt x with
  | .ok a => return some a
  | .error signal => if ← isFailureOf kind signal then return none else throw signal

mutual

/-- The next item of a row that is gone through once; none at its end. -/
def nextItem : Nat → Value → Run (Option Value)
  | 0, _ => throw .spent
  | fuel + 1, v => do
    let refuse : Run (Option Value) := do misfit s!"'{← kindName v}' object is not an iterator"
    match v with
    | .thing place =>
      match (← get).things[place]? with
      | some (.row kind supply) => do
        let goOn (supply : Supply) : Run Unit := change place (.row kind supply)
        match supply with
        | .items [] => return none
        | .items (v :: rest) => do
          goOn (.items rest)
          return some v
        | .numbers _ 0 _ => return none
        | .numbers n (count + 1) step => do
          goOn (.numbers (n + step) count step)
          return some (.number n)
        | .places list n =>
          match (← get).things[list]? with
          | some (.list items) =>
            match items[n]? with
            | some v => do
              goOn (.places list (n + 1))
              return some v
            | none => do
              goOn (.items [])
              return none
          | _ => return none
        | .lines file => do
          let line ← readLine file
          return if isEmptyText line then none else some line
        | .keys table size part rest =>
          match (← get).things[table]? with
          | some (.table _ _ members) =>
            if members.length != size then
              fail "RuntimeError" "dictionary changed size during iteration"
            else
              match rest with
              | [] => return none
              | v :: rest => do
                goOn (.keys table size part rest)
                return some v
          | _ => return none
        | .counting n step => do
          match n, step with
          | .number a, .number b => goOn (.counting (.number (a + b)) step)
          | a, b =>
            match a.real?, b.real? with
            | some x, some y => goOn (.counting (.real (Binary64.hardware (· + ·) x y)) step)
            | _, _ => misfit "a number is required"
          return some n
        | .cycling [] [] => return none
        | .cycling [] (v :: all) => do
          goOn (.cycling all (v :: all))
          return some v
        | .cycling (v :: rest) all => do
          goOn (.cycling rest all)
          return some v
        | .mapped f sources =>
          match ← nextItems fuel sources with
          | some vs => return some (← ev.call f vs [])
          | none => return none
        | .kept f source => nextKept fuel f source
        | .numbered n source =>
          match ← nextItem fuel source with
          | some v => do
            goOn (.numbered (n + 1) source)
            return some (.tuple [.number n, v])
          | none => return none
        | .together sources strict =>
          if sources.isEmpty then return none
          else
            match ← nextItems fuel sources with
            | some vs => return some (.tuple vs)
            | none => do
              if strict then
                let rest ← sources.mapM (nextItem fuel)
                if rest.any Option.isSome then
                  unfit "zip() argument 2 is shorter than argument 1"
              return none
        | .until f last => do
          let v ← ev.call f [] []
          if ← areEqual ev v last then
            goOn (.items [])
            return none
          else return some v
        | .failing [] failure => do
          goOn (.items [])
          let s ← get
          passThrough failure s.frame s.span s.mark
          throw (.failed failure)
        | .failing (v :: rest) failure => do
          goOn (.failing rest failure)
          return some v
        | .pending _ _ _ => do
          ev.unfold place
          nextItem fuel v
      | _ =>
        match ← special? v "__next__" with
        | some f => orNone "StopIteration" (ev.call f [v] [])
        | none => refuse
    | _ => refuse
termination_by structural fuel => fuel

/-- The next items of rows side by side; none when one of them is at its end. -/
def nextItems : Nat → List Value → Run (Option (List Value))
  | 0, _ => throw .spent
  | fuel + 1, rows => do
    match rows with
    | [] => return some []
    | r :: rows =>
      match ← nextItem fuel r with
      | none => return none
      | some v =>
        match ← nextItems fuel rows with
        | none => return none
        | some vs => return some (v :: vs)
termination_by structural fuel => fuel

/-- The next item that a function accepts; any that counts as true when there is no function. -/
def nextKept : Nat → Value → Value → Run (Option Value)
  | 0, _, _ => throw .spent
  | fuel + 1, f, source => do
    match ← nextItem fuel source with
    | none => return none
    | some v =>
      let answer ← match f with
        | .nothing => pure v
        | f => ev.call f [v] []
      if ← truth ev answer then return some v else nextKept fuel f source
termination_by structural fuel => fuel

end

/-- The next item of a row. -/
def next? (row : Value) : Run (Option Value) := nextItem ev rowLimit row

/-- The items that are left in a row, behind those that were taken. -/
def itemsLeft (row : Value) : Nat → List Value → Run (List Value)
  | 0, _ => throw .spent
  | fuel + 1, taken => do
    match ← next? ev row with
    | some v => itemsLeft row fuel (v :: taken)
    | none => return taken.reverse

/-- The items of a value. -/
def itemsOf (v : Value) : Run (List Value) := do
  match v with
  | .tuple items => return items
  | v =>
    match ← thing? v with
    | some (.list items) => return items.toList
    | some (.row _ (.items rest)) => do
      if let .thing place := v then
        match ← thing? v with
        | some (.row kind _) => change place (.row kind (.items []))
        | _ => pure ()
      return rest
    | _ => do
      let row ← rowOf ev v
      itemsLeft ev row rowLimit []

/-! ### Sizes -/

/-- How many items a value has, if it knows. -/
def size? (v : Value) : Run (Option Nat) := do
  match v with
  | .text cs => return some cs.length
  | .octets bytes => return some bytes.length
  | .tuple items => return some items.length
  | .range a b c => return some (rangeCount a b c)
  | .view table _ =>
    match (← get).things[table]? with
    | some (.table _ _ members) => return some members.length
    | _ => return none
  | v =>
    match ← thing? v with
    | some (.list items) => return some items.size
    | some (.deque items _) => return some items.size
    | some (.table _ _ members) => return some members.length
    | some (.set _ items) => return some items.length
    | _ => return none

/-- How many items a value has. -/
def sizeOf (v : Value) : Run Value := do
  match ← size? v with
  | some n => return .ofNat n
  | none =>
    match ← special? v "__len__" with
    | some f => ev.call f [v] []
    | none => misfit s!"object of type '{← kindName v}' has no len()"

/-! ### What a value holds -/

/-- Whether some items are equal to a value. -/
def isAmong (v : Value) : List Value → Run Bool
  | [] => return false
  | w :: rest => do
    if isSame v w then return true
    else if ← areEqual ev w v then return true
    else isAmong v rest

/-- Whether bytes occur in others. -/
def octetsOccurIn (needle : List UInt8) : List UInt8 → Bool
  | [] => needle.isEmpty
  | b :: bytes => needle.isPrefixOf (b :: bytes) || octetsOccurIn needle bytes

/-- Whether a value holds another one. -/
def holds (container v : Value) : Run Bool := do
  match container with
  | .text cs =>
    match v with
    | .text needle => return Text.occursIn needle cs
    | v => misfit s!"'in <string>' requires string as left operand, not {← kindName v}"
  | .octets bytes =>
    match v with
    | .octets needle => return octetsOccurIn needle bytes
    | .number n => return bytes.any fun b => (b.toNat : Int) = n
    | v => misfit s!"a bytes-like object is required, not '{← kindName v}'"
  | .tuple items => isAmong ev v items
  | .range start stop step =>
    match v.whole? with
    | some n =>
      return if 0 < step then start ≤ n && n < stop && (n - start) % step = 0
        else stop < n && n ≤ start && (start - n) % (-step) = 0
    | none => return false
  | .view table part =>
    match (← get).things[table]? with
    | some (.table _ _ members) =>
      if part == "keys" then return (keyed? members v).isSome
      else isAmong ev v (viewItems members part)
    | _ => return false
  | container =>
    match ← thing? container with
    | some (.list items) => isAmong ev v items.toList
    | some (.deque items _) => isAmong ev v items.toList
    | some (.table _ _ members) => do
      requireKey v
      return (keyed? members v).isSome
    | some (.set _ items) => do
      requireKey v
      return items.any (sameKey · v)
    | _ =>
      match ← special? container "__contains__" with
      | some f => truth ev (← ev.call f [container, v] [])
      | none =>
        match ← orNone "TypeError" (rowOf ev container) with
        | some row => do isAmong ev v (← itemsLeft ev row rowLimit [])
        | none => misfit s!"argument of type '{← kindName container}' is not iterable"

/-! ### Sorting -/

/-- The place among sorted items behind all that do not come after an item. -/
def placeAmong (key : Value) (items : Array (Value × Value)) : Nat → Nat → Nat → Run Nat
  | 0, low, _ => return low
  | fuel + 1, low, high => do
    if high ≤ low then return low
    else
      let middle := (low + high) / 2
      match items[middle]? with
      | none => return low
      | some (k, _) =>
        if ← areOrdered ev "<" key k then placeAmong key items fuel low middle
        else placeAmong key items fuel (middle + 1) high

/-- Sorts items by keys; items with the same key stay in order. -/
def sortedByKeys (items : List (Value × Value)) : Run (List (Value × Value)) := do
  let mut sorted : Array (Value × Value) := #[]
  for (k, v) in items do
    let last := sorted.back?
    -- an item that comes behind the last one is the usual case
    let n ← match last with
      | none => pure 0
      | some (l, _) =>
        if ← areOrdered ev "<" k l then placeAmong ev k sorted 64 0 (sorted.size - 1)
        else pure sorted.size
    sorted := (sorted.extract 0 n).push (k, v) ++ sorted.extract n sorted.size
  return sorted.toList

/-- Sorts items by what a function makes of them, or backwards. -/
def sorted (items : List Value) (key : Value) (isReverse : Bool) : Run (List Value) := do
  let keyed ← items.mapM fun v => do
    match key with
    | .nothing => return (v, v)
    | f => return (← ev.call f [v] [], v)
  let ordered ← sortedByKeys ev (if isReverse then keyed.reverse else keyed)
  let values := ordered.map (·.2)
  return if isReverse then values.reverse else values

/-! ### Places -/

/-- The whole number that a value stands for as a place. -/
def place? (v : Value) : Run (Option Int) := do
  match v.whole? with
  | some n => return some n
  | none =>
    match ← special? v "__index__" with
    | some f => return (← ev.call f [v] []).whole?
    | none => return none

/-- The place in a row of a size, when there is one. -/
def placeIn? (size : Nat) (n : Int) : Option Nat :=
  if 0 ≤ n then (if n < size then some n.toNat else none)
  else if 0 ≤ n + size then some (n + size).toNat else none

/-- A bound of a range of places. -/
def sliceBound (v : Value) : Run (Option Int) := do
  match v with
  | .nothing => return none
  | v =>
    match ← place? ev v with
    | some n => return some n
    | none =>
      misfit "slice indices must be integers or None or have an __index__ method"

/-- A range of places in a row of a size: the first one, the one that ends it, and the distance. -/
def sliceRange (size : Nat) (start stop step : Value) : Run (Int × Int × Int) := do
  let step := (← sliceBound ev step).getD 1
  if step = 0 then unfit "slice step cannot be zero"
  else
    let size : Int := size
    let clip (n : Int) : Int :=
      let n := if n < 0 then n + size else n
      if 0 < step then max 0 (min n size) else max (-1) (min n (size - 1))
    let first := ((← sliceBound ev start).map clip).getD (if 0 < step then 0 else size - 1)
    let last := ((← sliceBound ev stop).map clip).getD (if 0 < step then size else -1)
    return (first, last, step)

/-- The places of a range. -/
def slicePlaces (first last step : Int) : List Nat :=
  (List.range (rangeCount first last step)).map fun (i : Nat) => (first + step * i).toNat

/-- The items of a row in a range of places. -/
def sliced {α : Type} (items : List α) (start stop step : Value) : Run (List α) := do
  let (first, last, step) ← sliceRange ev items.length start stop step
  if step = 1 then return (items.drop first.toNat).take (last - first).toNat
  else
    let all := items.toArray
    return (slicePlaces first last step).filterMap fun n => all[n]?

/-- The item at a place of a row. -/
def itemAt {α : Type} (items : List α) (place : Value) (what misplaced : String) : Run α := do
  match ← place? ev place with
  | some n =>
    match (placeIn? items.length n).bind fun n => items[n]? with
    | some v => return v
    | none => fail "IndexError" s!"{what} index out of range"
  | none => misfit (misplaced ++ (← kindName place))

/-- Fails because nothing is kept under a key. -/
def missing {α : Type} (key : Value) : Run α := do raise (← makeFailure "KeyError" [key])

/-- What a value has at a place. -/
def itemOf (v place : Value) : Run Value := do
  match v, place with
  | .text cs, .slice a b c => return .text (← sliced ev cs a b c)
  | .text cs, place => do
    let given ← kindName place
    match ← place? ev place with
    | some _ => return .text [← itemAt ev cs place "string" ""]
    | none => misfit s!"string indices must be integers, not '{given}'"
  | .octets bytes, .slice a b c => return .octets (← sliced ev bytes a b c)
  | .octets bytes, place =>
    match ← place? ev place with
    | some n =>
      match (placeIn? bytes.length n).bind fun n => bytes[n]? with
      | some b => return .ofNat b.toNat
      | none => fail "IndexError" "index out of range"
    | none => misfit s!"byte indices must be integers or slices, not {← kindName place}"
  | .tuple items, .slice a b c => return .tuple (← sliced ev items a b c)
  | .tuple items, place => itemAt ev items place "tuple" "tuple indices must be integers or slices, not "
  | .range start stop step, .slice a b c => do
    let (first, last, stride) ← sliceRange ev (rangeCount start stop step) a b c
    return .range (start + step * first) (start + step * last) (step * stride)
  | .range start stop step, place =>
    match ← place? ev place with
    | some n =>
      match placeIn? (rangeCount start stop step) n with
      | some n => return .number (start + step * n)
      | none => fail "IndexError" "range object index out of range"
    | none => misfit s!"range indices must be integers or slices, not {← kindName place}"
  | v, place =>
    match ← thing? v with
    | some (.list items) =>
      match place with
      | .slice a b c => makeList (← sliced ev items.toList a b c)
      | place =>
        match ← place? ev place with
        | some n =>
          match (placeIn? items.size n).bind fun n => items[n]? with
          | some v => return v
          | none => fail "IndexError" "list index out of range"
        | none => misfit s!"list indices must be integers or slices, not {← kindName place}"
    | some (.deque items _) =>
      match ← place? ev place with
      | some n =>
        match (placeIn? items.size n).bind fun n => items[n]? with
        | some v => return v
        | none => fail "IndexError" "deque index out of range"
      | none => misfit s!"sequence index must be integer, not '{← kindName place}'"
    | some (.table kind maker members) => do
      requireKey place
      match keyed? members place with
      | some v => return v
      | none =>
        if kind == "collections.Counter" then return .number 0
        else
          match maker with
          | .nothing => missing place
          | f => do
            let made ← ev.call f [] []
            if let .thing home := v then
              match ← thing? v with
              | some (.table kind maker members) =>
                change home (.table kind maker (putKey place made members))
              | _ => pure ()
            return made
    | _ =>
      match ← special? v "__getitem__" with
      | some f => ev.call f [v, place] []
      | none =>
        match v with
        | .known name =>
          if isKindName name then return v
          else misfit s!"'{← kindName v}' object is not subscriptable"
        | v => misfit s!"'{← kindName v}' object is not subscriptable"

/-- Replaces the items of a range of places. -/
def sliceReplaced (items : List Value) (start stop step : Value) (new : List Value) :
    Run (List Value) := do
  let (first, last, step) ← sliceRange ev items.length start stop step
  if step = 1 then
    let last := max first last
    return items.take first.toNat ++ new ++ items.drop last.toNat
  else
    let places := slicePlaces first last step
    if places.length != new.length then
      unfit s!"attempt to assign sequence of size {new.length} to extended slice of size {places.length}"
    else
      let all := (places.zip new).foldl (fun a (n, v) => a.setIfInBounds n v) items.toArray
      return all.toList

/-- Sets what a value has at a place. -/
def setItem (v place new : Value) : Run Unit := do
  let refuse : Run Unit := do
    misfit s!"'{← kindName v}' object does not support item assignment"
  match v with
  | .thing home =>
    match (← get).things[home]? with
    | some (.list items) =>
      match place with
      | .slice a b c => do
        let new ← match ← orNone "TypeError" (rowOf ev new) with
          | some row => itemsLeft ev row rowLimit []
          | none => misfit "can only assign an iterable"
        change home (.list (← sliceReplaced ev items.toList a b c new).toArray)
      | place =>
        match ← place? ev place with
        | some n =>
          match placeIn? items.size n with
          | some n => modify fun s =>
              { s with things := s.things.modify home fun t => match t with
                | .list items => .list (items.setIfInBounds n new)
                | t => t }
          | none => fail "IndexError" "list assignment index out of range"
        | none => misfit s!"list indices must be integers or slices, not {← kindName place}"
    | some (.deque items most) =>
      match ← place? ev place with
      | some n =>
        match placeIn? items.size n with
        | some n => change home (.deque (items.setIfInBounds n new) most)
        | none => fail "IndexError" "deque index out of range"
      | none => misfit s!"sequence index must be integer, not '{← kindName place}'"
    | some (.table kind maker members) => do
      requireKey place
      change home (.table kind maker (putKey place new members))
    | _ =>
      match ← special? v "__setitem__" with
      | some f => do
        let _ ← ev.call f [v, place, new] []
      | none => refuse
  | _ => refuse

/-- Takes away what a value has at a place. -/
def deleteItem (v place : Value) : Run Unit := do
  let refuse : Run Unit := do
    misfit s!"'{← kindName v}' object doesn't support item deletion"
  match v with
  | .thing home =>
    match (← get).things[home]? with
    | some (.list items) =>
      match place with
      | .slice a b c => do
        let (first, last, step) ← sliceRange ev items.size a b c
        let gone := slicePlaces first last step
        let kept := (List.range items.size).filter fun n => !gone.contains n
        change home (.list (kept.filterMap fun n => items[n]?).toArray)
      | place =>
        match ← place? ev place with
        | some n =>
          match placeIn? items.size n with
          | some n => change home (.list (items.extract 0 n ++ items.extract (n + 1) items.size))
          | none => fail "IndexError" "list assignment index out of range"
        | none => misfit s!"list indices must be integers or slices, not {← kindName place}"
    | some (.table kind maker members) => do
      requireKey place
      if (keyed? members place).isNone then missing place
      else change home (.table kind maker (members.filter fun m => !sameKey m.1 place))
    | _ =>
      match ← special? v "__delitem__" with
      | some f => do
        let _ ← ev.call f [v, place] []
      | none => refuse
  | _ => refuse

end Run

end FirmwareSurvey.ResultScript
