import FirmwareSurvey.ResultScript.Text

/-!
# What lists, tables, sets and files can do

What a value can do depends on its kind. Lists, tables and sets are changed in place; files are read
and written from their next place on.
-/

namespace FirmwareSurvey.ResultScript

/-- What lists can do. -/
def listAbilities : List String :=
  ["append", "extend", "insert", "remove", "pop", "clear", "index", "count", "sort", "reverse", "copy"]

/-- What tables can do. -/
def tableAbilities : List String :=
  ["get", "keys", "values", "items", "pop", "popitem", "update", "setdefault", "clear", "copy",
    "fromkeys"]

/-- What sets can do. -/
def setAbilities : List String :=
  ["copy", "union", "intersection", "difference", "symmetric_difference", "issubset", "issuperset",
    "isdisjoint"]

/-- What sets that change can do besides. -/
def openSetAbilities : List String :=
  ["add", "remove", "discard", "pop", "clear", "update", "intersection_update",
    "difference_update", "symmetric_difference_update"]

/-- What rows with two ends can do. -/
def dequeAbilities : List String :=
  ["append", "appendleft", "pop", "popleft", "extend", "extendleft", "clear", "rotate", "index",
    "count", "copy", "remove", "reverse", "insert"]

/-- What files can do. -/
def fileAbilities : List String :=
  ["read", "readline", "readlines", "write", "writelines", "close", "seek", "tell", "flush",
    "fileno", "isatty", "readable", "writable", "seekable", "truncate", "reconfigure", "getvalue",
    "getbuffer", "read1", "readinto", "detach"]

/-- What values of other kinds that are there from the start can do. -/
def furtherAbilities : List (String × List String) :=
  [("pathlib.PosixPath", ["exists", "is_file", "is_dir", "is_symlink", "is_absolute", "read_text",
      "read_bytes", "write_text", "write_bytes", "open", "mkdir", "unlink", "iterdir", "glob",
      "rglob", "joinpath", "with_suffix", "with_name", "with_stem", "relative_to", "resolve",
      "absolute", "as_posix", "stat", "lstat", "match", "touch", "rename", "replace", "rmdir",
      "expanduser", "is_relative_to", "readlink", "symlink_to", "chmod", "samefile", "as_uri",
      "__fspath__", "cwd", "home"]),
    ("re.Pattern", ["match", "search", "fullmatch", "findall", "finditer", "sub", "subn", "split"]),
    ("re.Match", ["group", "groups", "groupdict", "start", "end", "span", "expand"]),
    ("_hashlib.HASH", ["update", "digest", "hexdigest", "copy"]),
    ("struct.Struct", ["pack", "unpack", "unpack_from", "iter_unpack"]),
    ("subprocess.CompletedProcess", ["check_returncode"])]

/-- What numbers can do. -/
def numberAbilities : List String :=
  ["bit_length", "to_bytes", "conjugate", "bit_count", "as_integer_ratio", "from_bytes",
    "is_integer"]

namespace Run

variable (ev : Evaluator)

/-- What a value can do by its kind. -/
def abilitiesOf (v : Value) : Run (List String) := do
  match v with
  | .text _ => return textAbilities
  | .octets _ => return octetsAbilities
  | .truth _ => return numberAbilities
  | .number _ => return numberAbilities
  | .real _ => return ["is_integer", "hex", "as_integer_ratio", "conjugate", "fromhex"]
  | .tuple _ => return ["index", "count"]
  | .range _ _ _ => return ["index", "count"]
  | .view _ part => return if part == "keys" then ["isdisjoint"] else []
  | v =>
    match ← thing? v with
    | some (.list _) => return listAbilities
    | some (.deque _ _) => return dequeAbilities
    | some (.table kind _ _) =>
      return tableAbilities ++
        (if kind == "collections.Counter" then ["most_common", "elements", "total", "subtract"]
          else if kind == "collections.OrderedDict" then ["move_to_end"] else [])
    | some (.set isFixed _) => return setAbilities ++ (if isFixed then [] else openSetAbilities)
    | some (.row kind _) => return if kind == "generator" then ["send", "throw", "close"] else []
    | some (.file _) => return fileAbilities
    | some (.plain kind _) =>
      match kind with
      | .known name =>
        return if isKindUnder name "BaseException" then ["with_traceback", "add_note"]
          else (furtherAbilities.lookup name).getD []
      | kind =>
        return if ← isUnder kind (.known "BaseException") then ["with_traceback", "add_note"]
          else []
    | _ => return []

/-! ### Numbers -/

/-- The bytes of a number, the lowest one first. -/
def lowBytes : Nat → Nat → List UInt8
  | 0, _ => []
  | k + 1, n => (n % 256).toUInt8 :: lowBytes k (n / 256)

/-- The number of bytes, the lowest one first. -/
def ofLowBytes : List UInt8 → Nat
  | [] => 0
  | b :: bytes => b.toNat + 256 * ofLowBytes bytes

/-- What a whole number does under a name. -/
def wholeAbility (name : String) (n : Int) (given : List Value) (named : Members Value) :
    Run Value := do
  match name with
  | "bit_length" => return .ofNat (if n = 0 then 0 else Nat.log2 n.natAbs + 1)
  | "bit_count" => return .ofNat ((Nat.toDigits 2 n.natAbs).filter (· = '1')).length
  | "conjugate" => return .number n
  | "is_integer" => return .truth true
  | "as_integer_ratio" => return .tuple [.number n, .number 1]
  | "to_bytes" => do
    let arguments ← placed "to_bytes" ["length", "byteorder", "signed"] given named
    let length ← match argument? arguments 0 with
      | some v => numberArgument ev v
      | none => pure 1
    let isBig : Bool := match argument? arguments 1 with
      | some (.text cs) => cs == "big".toList
      | _ => true
    let isSigned ← match argument? arguments 2 with
      | some v => truth ev v
      | none => pure false
    let size := length.toNat
    let limit : Int := (Nat.pow 256 size : Nat)
    if n < 0 && !isSigned then fail "OverflowError" "can't convert negative int to unsigned"
    else if (if isSigned then limit ≤ 2 * n || 2 * n < -limit else limit ≤ n) then
      fail "OverflowError" "int too big to convert"
    else
      let bytes := lowBytes size (n.emod limit).toNat
      return .octets (if isBig then bytes.reverse else bytes)
  | name => wrongArguments name given

/-- What a double does under a name. -/
def realAbility (name : String) (x : Binary64) (given : List Value) : Run Value := do
  match name with
  | "is_integer" => return .truth (Binary64.whole? x).isSome
  | "conjugate" => return .real x
  | "as_integer_ratio" =>
    let (m, d) := Binary64.asQuotient x
    let g := Nat.gcd m.natAbs d
    return .tuple [.number (Int.tdiv m g), .ofNat (d / g)]
  | name => wrongArguments name given

/-! ### Lists -/

/-- The first place from a number on where an item is equal to a value. -/
def placeOfItem? (v : Value) : Nat → List Value → Run (Option Nat)
  | _, [] => return none
  | n, w :: rest => do
    if isSame v w then return some n
    else if ← areEqual ev w v then return some n
    else placeOfItem? v (n + 1) rest

/-- How many items are equal to a value. -/
def countItems (v : Value) (items : List Value) : Run Value := do
  let same ← items.filterM fun w => do
    if isSame v w then return true else areEqual ev w v
  return .ofNat same.length

/-- What a row that never changes does under a name. -/
def tupleAbility (name : String) (items : List Value) (given : List Value) : Run Value := do
  match name, given with
  | "count", [v] => countItems ev v items
  | "index", v :: rest => do
    let (part, before, _) ← partBetween ev (items.map fun _ => ' ') rest[0]? rest[1]?
    match ← placeOfItem? ev v before ((items.drop before).take part.length) with
    | some n => return .ofNat n
    | none => unfit "tuple.index(x): x not in tuple"
  | name, given => wrongArguments name given

/-- What a list does under a name. -/
def listAbility (place : Nat) (name : String) (items : Array Value) (given : List Value)
    (named : Members Value) : Run Value := do
  let set (items : Array Value) : Run Value := do
    change place (.list items)
    return .nothing
  match name, given with
  | "append", [v] => do
    modify fun s => { s with things := s.things.modify place fun t => match t with
      | .list items => .list (items.push v)
      | t => t }
    return .nothing
  | "extend", [v] => do
    let more ← itemsOf ev v
    set (items ++ more.toArray)
  | "insert", [n, v] => do
    let n ← numberArgument ev n
    let n := (if n < 0 then n + items.size else n).toNat
    set ((items.extract 0 n).push v ++ items.extract n items.size)
  | "remove", [v] => do
    match ← placeOfItem? ev v 0 items.toList with
    | some n => set (items.extract 0 n ++ items.extract (n + 1) items.size)
    | none => unfit "list.remove(x): x not in list"
  | "pop", given => do
    if items.isEmpty then fail "IndexError" "pop from empty list"
    else
      let n ← match given with
        | [] => pure (-1)
        | v :: _ => numberArgument ev v
      match (placeIn? items.size n).bind fun n => (items[n]?).map fun v => (n, v) with
      | some (n, v) => do
        let _ ← set (items.extract 0 n ++ items.extract (n + 1) items.size)
        return v
      | none => fail "IndexError" "pop index out of range"
  | "clear", [] => set #[]
  | "index", v :: rest => do
    let (part, before, _) ← partBetween ev (items.toList.map fun _ => ' ') rest[0]? rest[1]?
    match ← placeOfItem? ev v before ((items.toList.drop before).take part.length) with
    | some n => return .ofNat n
    | none => unfit s!"{String.ofList (← shown ev v)} is not in list"
  | "count", [v] => countItems ev v items.toList
  | "sort", [] => do
    match named.find? fun m => m.1 != "key" && m.1 != "reverse" with
    | some (k, _) => misfit s!"sort() got an unexpected keyword argument '{k}'"
    | none => do
      let isReverse ← match Members.get? named "reverse" with
        | some v => truth ev v
        | none => pure false
      set (← sorted ev items.toList ((Members.get? named "key").getD .nothing) isReverse).toArray
  | "sort", given => misfit s!"sort() takes no positional arguments ({given.length} given)"
  | "reverse", [] => set items.reverse
  | "copy", [] => make (.list items)
  | "append", given => misfit s!"list.append() takes exactly one argument ({given.length} given)"
  | "extend", given => misfit s!"list.extend() takes exactly one argument ({given.length} given)"
  | name, given => wrongArguments ("list." ++ name) given

/-- What a row with two ends does under a name. -/
def dequeAbility (place : Nat) (name : String) (items : Array Value) (most : Option Nat)
    (given : List Value) : Run Value := do
  let set (items : Array Value) : Run Value := do
    change place (.deque items most)
    return .nothing
  let keepLast (items : Array Value) : Array Value :=
    match most with
    | some n => items.extract (items.size - n) items.size
    | none => items
  let keepFirst (items : Array Value) : Array Value :=
    match most with
    | some n => items.extract 0 n
    | none => items
  match name, given with
  | "append", [v] => set (keepLast (items.push v))
  | "appendleft", [v] => set (keepFirst (#[v] ++ items))
  | "extend", [v] => do set (keepLast (items ++ (← itemsOf ev v).toArray))
  | "extendleft", [v] => do set (keepFirst ((← itemsOf ev v).reverse.toArray ++ items))
  | "pop", [] => do
    match items.back? with
    | some v => do
      let _ ← set items.pop
      return v
    | none => fail "IndexError" "pop from an empty deque"
  | "popleft", [] => do
    match items[0]? with
    | some v => do
      let _ ← set (items.extract 1 items.size)
      return v
    | none => fail "IndexError" "pop from an empty deque"
  | "clear", [] => set #[]
  | "rotate", given => do
    let n ← match given with
      | v :: _ => numberArgument ev v
      | [] => pure 1
    if items.isEmpty then return .nothing
    else
      let k := (n.emod items.size).toNat
      set (items.extract (items.size - k) items.size ++ items.extract 0 (items.size - k))
  | "count", [v] => countItems ev v items.toList
  | "index", v :: _ => do
    match ← placeOfItem? ev v 0 items.toList with
    | some n => return .ofNat n
    | none => unfit s!"{String.ofList (← shown ev v)} is not in deque"
  | "remove", [v] => do
    match ← placeOfItem? ev v 0 items.toList with
    | some n => set (items.extract 0 n ++ items.extract (n + 1) items.size)
    | none => unfit "deque.remove(x): x not in deque"
  | "insert", [n, v] => do
    let n ← numberArgument ev n
    let n := (if n < 0 then n + items.size else n).toNat
    set ((items.extract 0 n).push v ++ items.extract n items.size)
  | "reverse", [] => set items.reverse
  | "copy", [] => make (.deque items most)
  | name, given => wrongArguments name given

/-! ### Tables and sets -/

/-- The members that a value gives to a table. -/
def membersOf (v : Value) : Run (List (Value × Value)) := do
  match ← thing? v with
  | some (.table _ _ members) => return members
  | _ =>
    match ← special? v "keys" with
    | some f => do
      let keys ← itemsOf ev (← ev.call f [v] [])
      keys.mapM fun k => do return (k, ← itemOf ev v k)
    | none => do
      let items ← itemsOf ev v
      let mut members : List (Value × Value) := []
      let mut n := 0
      for item in items do
        match ← orNone "TypeError" (rowOf ev item) with
        | none =>
          misfit s!"cannot convert dictionary update sequence element #{n} to a sequence"
        | some _ =>
          match ← itemsOf ev item with
          | [k, v] => do
            requireKey k
            members := (k, v) :: members
          | others =>
            unfit s!"dictionary update sequence element #{n} has length {others.length}; 2 is required"
        n := n + 1
      return members.reverse

/-- Members put into others. -/
def withMembers (members new : List (Value × Value)) : List (Value × Value) :=
  new.foldl (fun ms m => putKey m.1 m.2 ms) members

/-- Named values as members. -/
def namedMembers (named : Members Value) : List (Value × Value) :=
  named.map fun (k, v) => (.ofString k, v)

/-- The numbers of a counting table with others added to them, or taken from them. -/
def counted (members : List (Value × Value)) (v : Value) (isAway : Bool) :
    Run (List (Value × Value)) := do
  let new ← match ← thing? v with
    | some (.table _ _ ms) => pure ms
    | _ => do pure ((← itemsOf ev v).map fun k => (k, Value.number 1))
  return new.foldl (fun ms (k, n) =>
    let before := ((keyed? ms k).bind Value.whole?).getD 0
    let n := n.whole?.getD 0
    putKey k (.number (if isAway then before - n else before + n)) ms) members

/-- What a table does under a name. -/
def tableAbility (place : Nat) (name kind : String) (maker : Value) (members : List (Value × Value))
    (given : List Value) (named : Members Value) : Run Value := do
  let set (members : List (Value × Value)) : Run Value := do
    change place (.table kind maker members)
    return .nothing
  match name, given with
  | "get", k :: rest => do
    requireKey k
    return (keyed? members k).getD (rest.headD .nothing)
  | "keys", [] => return .view place "keys"
  | "values", [] => return .view place "values"
  | "items", [] => return .view place "items"
  | "pop", k :: rest => do
    requireKey k
    match keyed? members k, rest with
    | some v, _ => do
      let _ ← set (members.filter fun m => !sameKey m.1 k)
      return v
    | none, v :: _ => return v
    | none, [] => missing k
  | "popitem", given => do
    let isFirst := match given, Members.get? named "last" with
      | .truth false :: _, _ => true
      | [], some (.truth false) => true
      | _, _ => false
    match (if isFirst then members.head? else members.getLast?) with
    | some (k, v) => do
      let _ ← set (if isFirst then members.drop 1 else members.dropLast)
      return .tuple [k, v]
    | none => raise (← makeFailure "KeyError" [.ofString "popitem(): dictionary is empty"])
  | "update", given => do
    if kind == "collections.Counter" then
      match given with
      | [] => return .nothing
      | v :: _ => set (← counted ev members v false)
    else
      let new ← match given with
        | [] => pure []
        | v :: _ => membersOf ev v
      set (withMembers (withMembers members new) (namedMembers named))
  | "subtract", v :: _ => do set (← counted ev members v true)
  | "setdefault", k :: rest => do
    requireKey k
    match keyed? members k with
    | some v => return v
    | none => do
      let v := rest.headD .nothing
      let _ ← set (putKey k v members)
      return v
  | "clear", [] => set []
  | "copy", [] => make (.table kind maker members)
  | "fromkeys", v :: rest => do
    let keys ← itemsOf ev v
    makeTable (withMembers [] (keys.map fun k => (k, rest.headD .nothing)))
  | "move_to_end", k :: rest => do
    match keyed? members k with
    | none => missing k
    | some v => do
      let others := members.filter fun m => !sameKey m.1 k
      let isFirst := match rest, Members.get? named "last" with
        | .truth false :: _, _ => true
        | [], some (.truth false) => true
        | _, _ => false
      set (if isFirst then (k, v) :: others else others ++ [(k, v)])
  | "most_common", given => do
    let all ← mostFirst ev members
    let most ← match given with
      | .nothing :: _ => pure all
      | v :: _ => do pure (all.take (← numberArgument ev v).toNat)
      | [] => pure all
    makeList (most.map fun (k, v) => .tuple [k, v])
  | "elements", [] =>
    makeRow "itertools.chain"
      (members.flatMap fun (k, v) => List.replicate ((v.whole?.getD 0).toNat) k)
  | "total", [] => return .number (members.foldl (fun n m => n + m.2.whole?.getD 0) 0)
  | "get", given => misfit s!"get expected at least 1 argument, got {given.length}"
  | "pop", given => misfit s!"pop expected at least 1 argument, got {given.length}"
  | name, given => wrongArguments ("dict." ++ name) given

/-- The different items of a value. -/
def distinctItems (v : Value) : Run (List Value) := do
  match ← setItems? v with
  | some items => return items
  | none => do
    let items ← itemsOf ev v
    requireKeys items
    return distinct items

/-- What a set does under a name. -/
def setAbility (place : Nat) (name : String) (isFixed : Bool) (items : List Value)
    (given : List Value) : Run Value := do
  let set (items : List Value) : Run Value := do
    change place (.set isFixed items)
    return .nothing
  let has (items : List Value) (v : Value) := items.any (sameKey · v)
  let together (sign : String) : Run (List Value) := do
    given.foldlM (fun items v => do
      return (setOperation sign items (← distinctItems ev v)).getD items) items
  match name, given with
  | "add", [v] => do
    requireKey v
    set (addKey items v)
  | "discard", [v] => do
    requireKey v
    set (items.filter fun w => !sameKey w v)
  | "remove", [v] => do
    requireKey v
    if has items v then set (items.filter fun w => !sameKey w v) else missing v
  | "pop", [] => do
    match setShown items with
    | v :: _ => do
      let _ ← set (items.filter fun w => !sameKey w v)
      return v
    | [] => raise (← makeFailure "KeyError" [.ofString "pop from an empty set"])
  | "clear", [] => set []
  | "copy", [] => make (.set isFixed items)
  | "union", _ => do make (.set isFixed (← together "|"))
  | "intersection", _ => do make (.set isFixed (← together "&"))
  | "difference", _ => do make (.set isFixed (← together "-"))
  | "symmetric_difference", _ => do make (.set isFixed (← together "^"))
  | "update", _ => do set (← together "|")
  | "intersection_update", _ => do set (← together "&")
  | "difference_update", _ => do set (← together "-")
  | "symmetric_difference_update", _ => do set (← together "^")
  | "issubset", [v] => do
    let others ← distinctItems ev v
    return .truth (items.all (has others))
  | "issuperset", [v] => do
    let others ← distinctItems ev v
    return .truth (others.all (has items))
  | "isdisjoint", [v] => do
    let others ← distinctItems ev v
    return .truth (!others.any (has items))
  | name, given => wrongArguments ("set." ++ name) given

/-! ### Files -/

/-- What a file does under a name. -/
def fileAbility (place : Nat) (name : String) (given : List Value) : Run Value := do
  match name, given with
  | "read", given =>
    match given with
    | [] => readFile place none
    | .nothing :: _ => readFile place none
    | v :: _ => do
      let n ← numberArgument ev v
      readFile place (if n < 0 then none else some n.toNat)
  | "read1", _ => readFile place none
  | "readline", _ => readLine place
  | "readlines", _ => do
    let _ ← readableAt place
    makeList (← readLines place rowLimit)
  | "write", [v] => writeFile place v
  | "writelines", [v] => do
    for line in ← itemsOf ev v do
      let _ ← writeFile place line
    return .nothing
  | "close", _ => do
    closeFile place
    return .nothing
  | "seek", offset :: rest => do
    let whence ← match rest with
      | v :: _ => numberArgument ev v
      | [] => pure 0
    seekFile place (← numberArgument ev offset) whence
  | "tell", _ => return .ofNat (← openAt place).place
  | "flush", _ => return .nothing
  | "fileno", _ => return .number 3
  | "isatty", _ => return .truth false
  | "readable", _ => return .truth (← openAt place).canRead
  | "writable", _ => return .truth (← openAt place).canWrite
  | "seekable", _ => return .truth true
  | "truncate", given => do
    let size ← match given with
      | [] => do pure (← openAt place).place
      | v :: _ => do pure (← numberArgument ev v).toNat
    cutFile place size
  | "getvalue", _ => do
    let f ← openAt place
    let bytes := f.contents.data.toList
    if f.isOctets then return .octets bytes else return .text (← decoded .utf8 "strict" bytes)
  | "reconfigure", _ => return .nothing
  | name, given => wrongArguments name given

/-! ### All kinds -/

/-- What a value does by itself under a name. -/
def ability (member : Value → String → Run Value) (owner : Value) (name : String)
    (given : List Value) (named : Members Value) : Run Value := do
  match owner with
  | .text cs => textAbility ev member false name cs given named
  | .octets bytes =>
    textAbility ev member true name (bytes.map fun b => Char.ofNat b.toNat) given named
  | .truth b => wholeAbility ev name (if b then 1 else 0) given named
  | .number n => wholeAbility ev name n given named
  | .real x => realAbility name x given
  | .tuple items => tupleAbility ev name items given
  | .range a b c => tupleAbility ev name (rangeItems a b c) given
  | .view table part =>
    match ← thing? (.thing table) with
    | some (.table _ _ members) => do
      let items := viewItems members part
      match given with
      | [v] => do
        let others ← distinctItems ev v
        return .truth (!others.any fun w => items.any (sameKey · w))
      | given => wrongArguments name given
    | _ => wrongArguments name given
  | .thing place =>
    match (← get).things[place]? with
    | some (.list items) => listAbility ev place name items given named
    | some (.deque items most) => dequeAbility ev place name items most given
    | some (.table kind maker members) => tableAbility ev place name kind maker members given named
    | some (.set isFixed items) => setAbility ev place name isFixed items given
    | some (.file _) => fileAbility ev place name given
    | some (.row kind _) =>
      if name == "close" then do
        change place (.row kind (.items []))
        return .nothing
      else
        match ← next? ev owner with
        | some v => return v
        | none => raise (← makeFailure "StopIteration" [])
    | some (.plain _ _) => return owner
    | _ => wrongArguments name given
  | _ => wrongArguments name given

end Run

end FirmwareSurvey.ResultScript
