import FirmwareSurvey.ResultScript.Function

/-!
# Rows, tables and functions from others

Rows are put together from others, cut and grouped; tables of special kinds count, keep an order or
make what is missing. Functions are made from others, and values are copied.
-/

namespace FirmwareSurvey.ResultScript

/-! ### Choices from rows -/

/-- All ways to choose so many items in order, none twice. -/
def combinations {α : Type} : Nat → List α → List (List α)
  | 0, _ => [[]]
  | _ + 1, [] => []
  | n + 1, a :: rest => (combinations n rest).map (a :: ·) ++ combinations (n + 1) rest

/-- Each item of a row with all that follow it. -/
def eachWithRest {α : Type} : List α → List (α × List α)
  | [] => []
  | a :: rest => (a, rest) :: eachWithRest rest

/-- All ways to choose so many items in order, each as often as one likes. -/
def combinationsAgain {α : Type} : Nat → List α → List (List α)
  | 0, _ => [[]]
  | n + 1, items => (eachWithRest items).flatMap fun (a, rest) =>
      (combinationsAgain n (a :: rest)).map (a :: ·)

/-- Each item of a row with all the others. -/
def eachWithOthers {α : Type} : List α → List (α × List α)
  | [] => []
  | a :: rest => (a, rest) :: (eachWithOthers rest).map fun (b, others) => (b, a :: others)

/-- All ways to choose so many items in any order, none twice. -/
def permutations {α : Type} : Nat → List α → List (List α)
  | 0, _ => [[]]
  | n + 1, items => (eachWithOthers items).flatMap fun (a, others) =>
      (permutations n others).map (a :: ·)

/-- All ways to choose one item of each row. -/
def rowProduct {α : Type} : List (List α) → List (List α)
  | [] => [[]]
  | items :: rest =>
    let tails := rowProduct rest
    items.flatMap fun a => tails.map (a :: ·)

/-- Items in rows of so many. -/
def inRows {α : Type} (size : Nat) : Nat → List α → List (List α)
  | 0, _ => []
  | fuel + 1, items =>
    if items.isEmpty || size = 0 then [] else items.take size :: inRows size fuel (items.drop size)

/-- Rows side by side; items that are missing are replaced. -/
def sideBySide {α : Type} (fill : α) : Nat → List (List α) → List (List α)
  | 0, _ => []
  | count + 1, rows =>
    rows.map (fun r => r.headD fill) :: sideBySide fill count (rows.map (·.drop 1))

namespace Run

variable (ev : Evaluator)

/-! ### Rows -/

/-- The items before the first one that a function does not accept, or those from it on. -/
def spanItems (f : Value) (isBefore : Bool) (row : Value) : Nat → List Value → Run (List Value)
  | 0, _ => throw .spent
  | fuel + 1, done => do
    match ← next? ev row with
    | none => return done.reverse
    | some v => do
      let fits ← truth ev (← ev.call f [v] [])
      if isBefore then
        if fits then spanItems f isBefore row fuel (v :: done) else return done.reverse
      else if fits then spanItems f isBefore row fuel done
      else itemsLeft ev row rowLimit [v]

/-- Items next to each other with the same key, under their keys. -/
def groupsOf (f : Value) :
    List Value → Option (Value × List Value) → Run (List (Value × List Value))
  | [], none => return []
  | [], some (k, vs) => return [(k, vs.reverse)]
  | v :: rest, begun => do
    let key ← match f with
      | .nothing => pure v
      | f => ev.call f [v] []
    match begun with
    | none => groupsOf f rest (some (key, [v]))
    | some (k, vs) =>
      if ← areEqual ev k key then groupsOf f rest (some (k, v :: vs))
      else return (k, vs.reverse) :: (← groupsOf f rest (some (key, [v])))

/-- The items of a row at places from one on up to another one. -/
def takePlaces (row : Value) (start : Nat) (stop : Option Nat) (step : Nat) :
    Nat → Nat → List Value → Run (List Value)
  | 0, _, _ => throw .spent
  | fuel + 1, n, done => do
    if stop.any (· ≤ n) then return done.reverse
    else
      match ← next? ev row with
      | none => return done.reverse
      | some v =>
        let isWanted := start ≤ n && (n - start) % step = 0
        takePlaces row start stop step fuel (n + 1) (if isWanted then v :: done else done)

/-- Sums of items up to each of them, or what a function makes of them. -/
def accumulated (f : Value) : Value → List Value → Run (List Value)
  | total, [] => return [total]
  | total, v :: rest => do
    let next ← match f with
      | .nothing => operate ev (percent ev) "+" "+" total v
      | f => ev.call f [total, v] []
    return total :: (← accumulated f next rest)

/-- What a function for rows does; none when there is no such function. -/
def callRows (name : String) (given : List Value) (named : Members Value) :
    Run (Option Value) := do
  let row (items : List Value) : Run (Option Value) :=
    return some (← makeRow ("itertools." ++ name) items)
  let tuples (rows : List (List Value)) : Run (Option Value) := row (rows.map .tuple)
  let count (v : Value) : Run Nat := do
    let n ← numberArgument ev v
    if n < 0 then unfit "r must be non-negative" else return n.toNat
  match name, given with
  | "chain", vs => do row (← vs.mapM (itemsOf ev)).flatten
  | "from_iterable", [v] => do row (← (← itemsOf ev v).mapM (itemsOf ev)).flatten
  | "count", vs =>
    let start := (vs.head?.orElse fun _ => Members.get? named "start").getD (.number 0)
    let step := ((vs.drop 1).head?.orElse fun _ => Members.get? named "step").getD (.number 1)
    return some (← make (.row "itertools.count" (.counting start step)))
  | "cycle", [v] => do
    let items ← itemsOf ev v
    return some (← make (.row "itertools.cycle" (.cycling items items)))
  | "repeat", v :: rest => do
    match rest.head?.orElse fun _ => Members.get? named "times" with
    | some n => row (List.replicate (← numberArgument ev n).toNat v)
    | none => return some (← make (.row "itertools.repeat" (.cycling [v] [v])))
  | "islice", v :: rest => do
    let bound (n : Value) : Run (Option Nat) := do
      match n with
      | .nothing => return none
      | n => do
        let n ← numberArgument ev n
        if n < 0 then
          unfit "Indices for islice() must be None or an integer: 0 <= x <= sys.maxsize."
        else return some n.toNat
    let (start, stop, step) ← match rest with
      | [stop] => do pure (0, ← bound stop, 1)
      | [start, stop] => do pure ((← bound start).getD 0, ← bound stop, 1)
      | [start, stop, step] => do
        pure ((← bound start).getD 0, ← bound stop, (← bound step).getD 1)
      | _ => wrongArguments name given
    row (← takePlaces ev (← rowOf ev v) start stop (max 1 step) rowLimit 0 [])
  | "accumulate", v :: rest => do
    let f := (rest.head?.orElse fun _ => Members.get? named "func").getD .nothing
    let items ← itemsOf ev v
    match Members.get? named "initial", items with
    | some start, items => row (← accumulated ev f start items)
    | none, [] => row []
    | none, first :: rest => row (← accumulated ev f first rest)
  | "combinations", [v, n] => do tuples (combinations (← count n) (← itemsOf ev v))
  | "combinations_with_replacement", [v, n] => do
    tuples (combinationsAgain (← count n) (← itemsOf ev v))
  | "permutations", v :: rest => do
    let items ← itemsOf ev v
    let n ← match rest with
      | .nothing :: _ => pure items.length
      | n :: _ => count n
      | [] => pure items.length
    tuples (permutations n items)
  | "product", vs => do
    let rows ← vs.mapM (itemsOf ev)
    let times ← match Members.get? named "repeat" with
      | some n => count n
      | none => pure 1
    tuples (rowProduct (List.replicate times rows).flatten)
  | "groupby", v :: rest => do
    let f := (rest.head?.orElse fun _ => Members.get? named "key").getD .nothing
    let groups ← groupsOf ev f (← itemsOf ev v) none
    row (← groups.mapM fun (k, vs) => do
      return .tuple [k, ← makeRow "itertools._grouper" vs])
  | "takewhile", [f, v] => do row (← spanItems ev f true (← rowOf ev v) rowLimit [])
  | "dropwhile", [f, v] => do row (← spanItems ev f false (← rowOf ev v) rowLimit [])
  | "filterfalse", [f, v] => do
    let kept ← (← itemsOf ev v).filterM fun v => do
      match f with
      | .nothing => return !(← truth ev v)
      | f => return !(← truth ev (← ev.call f [v] []))
    row kept
  | "starmap", [f, v] => do
    row (← (← itemsOf ev v).mapM fun v => do ev.call f (← itemsOf ev v) [])
  | "zip_longest", vs => do
    let rows ← vs.mapM (itemsOf ev)
    let most := rows.foldl (fun n r => max n r.length) 0
    tuples (sideBySide ((Members.get? named "fillvalue").getD .nothing) most rows)
  | "pairwise", [v] => do
    let items ← itemsOf ev v
    tuples ((items.zip (items.drop 1)).map fun (a, b) => [a, b])
  | "batched", [v, n] => do
    let n ← count n
    if n < 1 then unfit "n must be at least one"
    else
      let items ← itemsOf ev v
      tuples (inRows n items.length items)
  | "tee", v :: rest => do
    let items ← itemsOf ev v
    let n ← match rest with
      | n :: _ => count n
      | [] => pure 2
    return some (.tuple (← (List.replicate n items).mapM (makeRow "itertools._tee")))
  | _, _ => return none

/-! ### Functions -/

/-- What a function of functions does; none when there is no such function. -/
def callFunctions (name : String) (given : List Value) (named : Members Value) :
    Run (Option Value) := do
  match name, given with
  | "reduce", f :: v :: rest => do
    let items ← itemsOf ev v
    let (first, items) ← match rest, items with
      | start :: _, items => pure (start, items)
      | [], first :: items => pure (first, items)
      | [], [] => misfit "reduce() of empty iterable with no initial value"
    return some (← items.foldlM (fun a b => ev.call f [a, b] []) first)
  | "partial", f :: rest =>
    return some (← make (.plain (.known "functools.partial")
      [("func", f), ("args", .tuple rest), ("keywords", ← makeTable (namedMembers named))]))
  | "wraps", _ => return some (.known "functools.same")
  | "same", f :: _ => return some f
  | "total_ordering", [f] => return some f
  | "cmp_to_key", [f] =>
    return some (← make (.plain (.known "functools.partial")
      [("func", .known "functools.ranked"), ("args", .tuple [f]),
        ("keywords", ← makeTable [])]))
  | "cached_property", [f] => return some (← make (.plain (.known "property") [("fget", f)]))
  | "lru_cache", [.number _] => return some (.known "functools.cache")
  | "lru_cache", [.nothing] => return some (.known "functools.cache")
  | "lru_cache", [] => return some (.known "functools.cache")
  | "lru_cache", f :: _ => remembering f
  | "cache", [f] => remembering f
  | _, _ => return none
where
  /-- A function that remembers its answers. -/
  remembering (f : Value) : Run (Option Value) := do
    let answers ← makeTable []
    return some (← make (.plain (.known "functools.remembering")
      [("func", f), ("answers", answers)]))

/-- What a function that stands for a sign does; none when there is no such function. -/
def callSigns (name : String) (given : List Value) (named : Members Value) :
    Run (Option Value) := do
  let binary := [("add", "+"), ("sub", "-"), ("mul", "*"), ("truediv", "/"), ("floordiv", "//"),
    ("mod", "%"), ("pow", "**"), ("and_", "&"), ("or_", "|"), ("xor", "^"), ("lshift", "<<"),
    ("rshift", ">>")]
  let orders := [("lt", "<"), ("le", "<="), ("gt", ">"), ("ge", ">=")]
  let signs := [("neg", "-"), ("pos", "+"), ("invert", "~"), ("index", "+")]
  let asker (kind : String) : Run (Option Value) :=
    return some (← make (.plain (.known ("operator." ++ kind))
      (("args", .tuple given) :: named)))
  match name, given with
  | "eq", [a, b] => return some (.truth (← areEqual ev a b))
  | "ne", [a, b] => return some (.truth (!(← areEqual ev a b)))
  | "is_", [a, b] => return some (.truth (isSame a b))
  | "is_not", [a, b] => return some (.truth (!isSame a b))
  | "not_", [a] => return some (.truth (!(← truth ev a)))
  | "truth", [a] => return some (.truth (← truth ev a))
  | "contains", [a, b] => return some (.truth (← holds ev a b))
  | "getitem", [a, b] => return some (← itemOf ev a b)
  | "setitem", [a, b, c] => do
    setItem ev a b c
    return some .nothing
  | "itemgetter", _ => asker "itemgetter"
  | "attrgetter", _ => asker "attrgetter"
  | "methodcaller", _ => asker "methodcaller"
  | name, [a, b] =>
    match binary.lookup name, orders.lookup name with
    | some sign, _ => return some (← operate ev (percent ev) sign sign a b)
    | none, some sign => return some (.truth (← areOrdered ev sign a b))
    | none, none => return none
  | name, [a] =>
    match signs.lookup name with
    | some sign => return some (← signed ev sign a)
    | none => return none
  | _, _ => return none

/-! ### Tables and copies -/

/-- What makes a table or row of a special kind; none when there is no such kind. -/
def callCollections (name : String) (given : List Value) (named : Members Value) :
    Run (Option Value) := do
  match name, given with
  | "OrderedDict", given => return some (← makeTableFrom ev "collections.OrderedDict" given named)
  | "defaultdict", given => do
    let members ← match given.drop 1 with
      | v :: _ => membersOf ev v
      | [] => pure []
    return some (← make (.table "collections.defaultdict" (given.headD .nothing)
      (withMembers (withMembers [] members) (namedMembers named))))
  | "Counter", given => do
    let members ← match given with
      | v :: _ => counted ev [] v false
      | [] => pure []
    return some (← make (.table "collections.Counter" .nothing
      (withMembers members (namedMembers named))))
  | "deque", given => do
    let items ← match given with
      | v :: _ => itemsOf ev v
      | [] => pure []
    let most ← match (given.drop 1).head?.orElse fun _ => Members.get? named "maxlen" with
      | none => pure none
      | some .nothing => pure none
      | some n => do pure (some (← numberArgument ev n).toNat)
    let kept := match most with
      | some n => items.drop (items.length - n)
      | none => items
    return some (← make (.deque kept.toArray most))
  | _, _ => return none

/-- A copy of a value, with copies of all that it holds if it is to be deep. -/
def copied (isDeep : Bool) : Nat → Value → Run Value
  | 0, _ => throw .spent
  | fuel + 1, v => do
    let inner (w : Value) : Run Value := if isDeep then copied isDeep fuel w else return w
    match v with
    | .tuple items => return .tuple (← items.mapM inner)
    | .thing place =>
      match (← get).things[place]? with
      | some (.list items) => do make (.list (← items.toList.mapM inner).toArray)
      | some (.deque items most) => do make (.deque (← items.toList.mapM inner).toArray most)
      | some (.table kind maker members) => do
        let members ← members.mapM fun (k, v) => do return (k, ← inner v)
        make (.table kind maker members)
      | some (.set isFixed items) => make (.set isFixed items)
      | some (.plain kind members) =>
        match ← special? v (if isDeep then "__deepcopy__" else "__copy__") with
        | some f => do
          let seen ← makeTable []
          ev.call f (if isDeep then [v, seen] else [v]) []
        | none => do
          let members ← members.mapM fun (k, v) => do return (k, ← inner v)
          make (.plain kind members)
      | _ => return v
    | _ => return v

/-! ### Order -/

/-- The place in sorted items before or behind all that are equal to a value. -/
def sortedPlace (v : Value) (isBehind : Bool) : List Value → Nat → Run Nat
  | [], n => return n
  | w :: rest, n => do
    let stops ← if isBehind then areOrdered ev "<" v w
      else do pure (!(← areOrdered ev "<" w v))
    if stops then return n else sortedPlace v isBehind rest (n + 1)

/-- What a function for sorted rows does; none when there is no such function. -/
def callSorted (name : String) (given : List Value) (named : Members Value) :
    Run (Option Value) := do
  let extremeItems (isLargest : Bool) (n v : Value) : Run (Option Value) := do
    let count ← numberArgument ev n
    let items ← sorted ev (← itemsOf ev v) ((Members.get? named "key").getD .nothing) isLargest
    return some (← makeList (items.take count.toNat))
  match name, given with
  | "bisect_left", [v, x] => return some (.ofNat (← sortedPlace ev x false (← itemsOf ev v) 0))
  | "bisect_right", [v, x] => return some (.ofNat (← sortedPlace ev x true (← itemsOf ev v) 0))
  | "insort", [v, x] => do
    let n ← sortedPlace ev x true (← itemsOf ev v) 0
    return some (← listAt v "insert" [.ofNat n, x])
  | "nlargest", [n, v] => extremeItems true n v
  | "nsmallest", [n, v] => extremeItems false n v
  | "heapify", [v] => do
    let items ← sorted ev (← itemsOf ev v) .nothing false
    if let .thing place := v then change place (.list items.toArray)
    return some .nothing
  | "heappush", [v, x] => do
    let n ← sortedPlace ev x true (← itemsOf ev v) 0
    return some (← listAt v "insert" [.ofNat n, x])
  | "heappop", [v] => do
    match ← itemsOf ev v with
    | [] => fail "IndexError" "index out of range"
    | _ => return some (← listAt v "pop" [.number 0])
  | _, _ => return none
where
  /-- What a list does under a name. -/
  listAt (v : Value) (name : String) (given : List Value) : Run Value := do
    match v with
    | .thing place =>
      match (← get).things[place]? with
      | some (.list items) => listAbility ev place name items given []
      | _ => misfit s!"heap argument must be a list, not {← kindName v}"
    | v => misfit s!"heap argument must be a list, not {← kindName v}"

end Run

end FirmwareSurvey.ResultScript
