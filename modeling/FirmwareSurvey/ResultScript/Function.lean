import FirmwareSurvey.ResultScript.Member

/-!
# Functions that are known everywhere

Values are made from others, gone through, compared and counted by functions that need no module.
What they are given by name has to be one of the names that they take.
-/

namespace FirmwareSurvey.ResultScript

/-! ### Reading numbers -/

/-- Digits of a base with low lines between them; none when they are no such digits. -/
def digitsWithLines? (base : Nat) (cs : List Char) : Option Nat :=
  let isSound := cs.head? != some '_' && cs.getLast? != some '_' && !Text.occursIn ['_', '_'] cs
  let digits := cs.filter (· != '_')
  if digits.isEmpty || !isSound then none else Text.digitsValue? base 0 digits

/-- The whole number of a text. -/
def wholeOfText? (base : Nat) (cs : List Char) : Option Int :=
  let cs := Text.dropEndWhile isBlankChar (cs.dropWhile isBlankChar)
  let (isNegative, cs) := match cs with
    | '-' :: rest => (true, rest)
    | '+' :: rest => (false, rest)
    | rest => (false, rest)
  let marked (letter : Char) : Option (List Char) :=
    match cs with
    | '0' :: c :: rest => if c.toLower = letter then some (rest.dropWhile (· = '_')) else none
    | _ => none
  let read? : Option Nat :=
    if base = 0 then
      match marked 'x', marked 'o', marked 'b' with
      | some ds, _, _ => digitsWithLines? 16 ds
      | _, some ds, _ => digitsWithLines? 8 ds
      | _, _, some ds => digitsWithLines? 2 ds
      | _, _, _ =>
        if cs.head? = some '0' && cs.any (fun c => c != '0' && c != '_') then none
        else digitsWithLines? 10 cs
    else
      let letter? := if base = 16 then some 'x' else if base = 8 then some 'o'
        else if base = 2 then some 'b' else none
      match letter?.bind marked with
      | some ds => digitsWithLines? base ds
      | none => digitsWithLines? base cs
  read?.map fun n => if isNegative then -(n : Int) else n

/-- The double of a text. -/
def realOfText? (cs : List Char) : Option Binary64 :=
  let cs := Text.dropEndWhile isBlankChar (cs.dropWhile isBlankChar)
  let (isNegative, cs) := match cs with
    | '-' :: rest => (true, rest)
    | '+' :: rest => (false, rest)
    | rest => (false, rest)
  let word := String.ofList (cs.map Char.toLower)
  if word == "inf" || word == "infinity" then some (.infinity isNegative)
  else if word == "nan" then some (.undefined isNegative)
  else
    let digitRun (cs : List Char) := cs.takeWhile fun c => c.isDigit || c = '_'
    let whole := digitRun cs
    let after := cs.drop whole.length
    let part := match after with
      | '.' :: rest => digitRun rest
      | _ => []
    let after := match after with
      | '.' :: rest => rest.drop part.length
      | rest => rest
    let exponent? : Option Int := match after with
      | [] => some 0
      | e :: rest =>
        if e = 'e' || e = 'E' then
          let (isDown, ds) := match rest with
            | '-' :: ds => (true, ds)
            | '+' :: ds => (false, ds)
            | ds => (false, ds)
          (digitsWithLines? 10 ds).map fun n => if isDown then -(n : Int) else n
        else none
    let fits (cs : List Char) := cs.isEmpty || (digitsWithLines? 10 cs).isSome
    if (whole.isEmpty && part.isEmpty) || !fits whole || !fits part then none
    else
      exponent?.map fun e =>
        let plain (cs : List Char) := cs.filter (· != '_')
        let x := realOf (plain whole ++ plain part) (e - (plain part).length)
        if isNegative then x.neg else x

/-- A double rounded to so many places. -/
def roundedReal (x : Binary64) (places : Int) : Binary64 :=
  if !x.isFinite || 330 < places then x
  else if places < -330 then .zero x.isNegative
  else
    let m := Decimal.Magnitude.ofBinary64 x
    Binary64.nearest x.isNegative (m.shifted places) (-places)

/-- A whole number rounded to a power of ten, ties to the even one. -/
def roundedWhole (n : Int) (places : Nat) : Int :=
  let unit := Nat.pow 10 places
  let q := Binary64.roundQuotient n.natAbs unit
  if n < 0 then -((q * unit : Nat) : Int) else (q * unit : Nat)

namespace Run

variable (ev : Evaluator)

/-- Refuses names that a function does not take. -/
def onlyNames (function : String) (names : List String) (named : Members Value) : Run Unit := do
  match named.find? fun m => !names.contains m.1 with
  | some (name, _) => misfit s!"{function}() got an unexpected keyword argument '{name}'"
  | none => return ()

/-- The whole number of a double, what is behind the point left out. -/
def wholeOfReal (x : Binary64) : Run Int := do
  if x.isUndefined then unfit "cannot convert float NaN to integer"
  else if !x.isFinite then fail "OverflowError" "cannot convert float infinity to integer"
  else
    let (m, d) := Binary64.asQuotient x
    return Int.tdiv m d

/-- Makes a whole number. -/
def makeWhole (given : List Value) (named : Members Value) : Run Value := do
  let base? := match given, Members.get? named "base" with
    | [_, b], _ => some b
    | _, b => b
  let badText (base : Int) (v : Value) : Run Value := do
    let text := String.ofList (← shown ev v)
    unfit s!"invalid literal for int() with base {base}: {text}"
  match given, base? with
  | [], _ => return .number 0
  | v :: _, some b => do
    let base ← numberArgument ev b
    let cs? := match v with
      | .text cs => some cs
      | .octets bytes => some (bytes.map fun b => Char.ofNat b.toNat)
      | _ => none
    match cs? with
    | none => misfit "int() can't convert non-string with explicit base"
    | some cs =>
      if base != 0 && (base < 2 || 36 < base) then
        unfit "int() base must be >= 2 and <= 36, or 0"
      else
        match wholeOfText? base.toNat cs with
        | some n => return .number n
        | none => badText base v
  | v :: _, none =>
    match v.whole?, v with
    | some n, _ => return .number n
    | none, .real x => return .number (← wholeOfReal x)
    | none, .text cs =>
      match wholeOfText? 10 cs with
      | some n => return .number n
      | none => badText 10 v
    | none, .octets bytes =>
      match wholeOfText? 10 (bytes.map fun b => Char.ofNat b.toNat) with
      | some n => return .number n
      | none => badText 10 v
    | none, v =>
      match ← special? v "__int__", ← special? v "__index__" with
      | some f, _ => ev.call f [v] []
      | none, some f => ev.call f [v] []
      | none, none =>
        misfit s!"int() argument must be a string, a bytes-like object or a real number, not '{← kindName v}'"

/-- Makes a double. -/
def makeReal (given : List Value) : Run Value := do
  match given with
  | [] => return .real (.zero false)
  | v :: _ =>
    match v.real?, v with
    | some x, v =>
      if x.isFinite || v.whole?.isNone then return .real x
      else fail "OverflowError" "int too large to convert to float"
    | none, .text cs =>
      match realOfText? cs with
      | some x => return .real x
      | none =>
        let text := String.ofList (← shown ev v)
        unfit s!"could not convert string to float: {text}"
    | none, v =>
      match ← special? v "__float__" with
      | some f => ev.call f [v] []
      | none => misfit s!"float() argument must be a string or a real number, not '{← kindName v}'"

/-- Makes bytes. -/
def makeOctets (given : List Value) (named : Members Value) : Run Value := do
  match given, Members.get? named "encoding" with
  | [], none => return .octets []
  | [.text _], none => misfit "string argument without an encoding"
  | .text cs :: _, some (.text e) => do return .octets (← encoded (← encodingOf e) "strict" cs)
  | .text cs :: .text e :: _, _ => do return .octets (← encoded (← encodingOf e) "strict" cs)
  | .octets bytes :: _, _ => return .octets bytes
  | v :: _, _ =>
    match v.whole? with
    | some n =>
      if n < 0 then unfit "negative count" else return .octets (List.replicate n.toNat 0)
    | none => do
      let items ← itemsOf ev v
      let bytes ← items.mapM fun item => do
        match item.whole? with
        | some n =>
          if 0 ≤ n && n < 256 then return n.toNat.toUInt8
          else unfit "bytes must be in range(0, 256)"
        | none => misfit s!"'{← kindName item}' object cannot be interpreted as an integer"
      return .octets bytes
  | [], some _ => misfit "encoding without a string argument"

/-- Makes a table. -/
def makeTableFrom (kind : String) (given : List Value) (named : Members Value) : Run Value := do
  let members ← match given with
    | [] => pure []
    | v :: _ => membersOf ev v
  make (.table kind .nothing (withMembers (withMembers [] members) (namedMembers named)))

/-- Makes a set. -/
def makeSet (isFixed : Bool) (given : List Value) : Run Value := do
  match given with
  | [] => make (.set isFixed [])
  | v :: _ => do
    let items ← distinctItems ev v
    make (.set isFixed items)

/-- Makes a range. -/
def makeRange (given : List Value) : Run Value := do
  match given with
  | [] => misfit "range expected at least 1 argument, got 0"
  | [stop] => return .range 0 (← numberArgument ev stop) 1
  | [start, stop] => return .range (← numberArgument ev start) (← numberArgument ev stop) 1
  | [start, stop, step] => do
    let step ← numberArgument ev step
    if step = 0 then unfit "range() arg 3 must not be zero"
    else return .range (← numberArgument ev start) (← numberArgument ev stop) step
  | given => misfit s!"range expected at most 3 arguments, got {given.length}"

/-- Writes values. -/
def printValues (given : List Value) (named : Members Value) : Run Value := do
  match named.find? fun m => ! ["sep", "end", "file", "flush"].contains m.1 with
  | some (name, _) => misfit s!"'{name}' is an invalid keyword argument for print()"
  | none => do
    let textOf (name : String) (usual : List Char) : Run (List Char) := do
      match Members.get? named name with
      | none => return usual
      | some .nothing => return usual
      | some (.text cs) => return cs
      | some v => misfit s!"{name} must be None or a string, not {← kindName v}"
    let between ← textOf "sep" [' ']
    let ending ← textOf "end" ['\n']
    let texts ← given.mapM (printed ev)
    let text := joinTexts between texts ++ ending
    let target ← match Members.get? named "file" with
      | some .nothing => do memberOf ev (.known "sys") "stdout"
      | some v => pure v
      | none => do memberOf ev (.known "sys") "stdout"
    match target with
    | .thing place =>
      match (← get).things[place]? with
      | some (.file _) => do
        let _ ← writeFile place (.text text)
      | _ => do
        let _ ← ev.call (← memberOf ev target "write") [.text text] []
    | _ => do
      let _ ← ev.call (← memberOf ev target "write") [.text text] []
    return .nothing

/-- The least or the greatest of values. -/
def extreme (name : String) (given : List Value) (named : Members Value) : Run Value := do
  onlyNames name ["key", "default"] named
  let sign := if name == "max" then ">" else "<"
  let items ← match given with
    | [] => misfit s!"{name} expected at least 1 argument, got 0"
    | [v] => itemsOf ev v
    | vs => pure vs
  let key := (Members.get? named "key").getD .nothing
  let keyOf (v : Value) : Run Value :=
    match key with
    | .nothing => return v
    | f => ev.call f [v] []
  match items with
  | [] =>
    match Members.get? named "default" with
    | some v => return v
    | none => unfit s!"{name}() iterable argument is empty"
  | first :: rest => do
    let (best, _) ← rest.foldlM (fun (best, k) v => do
      let l ← keyOf v
      return if ← areOrdered ev sign l k then (v, l) else (best, k)) (first, ← keyOf first)
    return best

/-- Adds doubles so that what is lost in rounding is kept apart. -/
def sumReals (start : Binary64) (items : List Binary64) : Binary64 :=
  let (total, lost) := items.foldl (fun (total, lost) x =>
    let t := x.toFloat
    let next := total + t
    let lost := if t.abs ≤ total.abs then lost + ((total - next) + t) else lost + ((t - next) + total)
    (next, lost)) (start.toFloat, (0.0 : Float))
  .ofFloat (if lost != 0 && lost.isFinite then total + lost else total)

/-- The sum of values. -/
def summed (given : List Value) (named : Members Value) : Run Value := do
  let (items, start) ← match given with
    | [v] => do pure (← itemsOf ev v, (Members.get? named "start").getD (.number 0))
    | [v, s] => do pure (← itemsOf ev v, s)
    | given => misfit s!"sum() takes at least 1 positional argument ({given.length} given)"
  match start with
  | .text _ => misfit "sum() can't sum strings [use ''.join(seq) instead]"
  | start =>
    let whole := items.takeWhile fun v => v.whole?.isSome
    let rest := items.drop whole.length
    if start.isNumber && rest.all Value.isNumber && !rest.isEmpty && start.whole?.isSome then
      let n := whole.foldl (fun n v => n + v.whole?.getD 0) (start.whole?.getD 0)
      return .real (sumReals (Binary64.ofInt n) (rest.filterMap Value.real?))
    else
      items.foldlM (fun total v => operate ev (percent ev) "+" "+" total v) start

/-- A value rounded. -/
def rounded (given : List Value) (named : Members Value) : Run Value := do
  let places? := match given, Members.get? named "ndigits" with
    | [_, .nothing], _ => none
    | [_, n], _ => some n
    | _, n => n
  match given with
  | [] => misfit "round() missing required argument 'number' (pos 1)"
  | v :: _ =>
    match v.whole?, v with
    | some n, _ =>
      match places? with
      | none => return .number n
      | some p => do
        let p ← numberArgument ev p
        return .number (if 0 ≤ p then n else roundedWhole n p.natAbs)
    | none, .real x =>
      match places? with
      | none =>
        if x.isUndefined then unfit "cannot convert float NaN to integer"
        else if !x.isFinite then fail "OverflowError" "cannot convert float infinity to integer"
        else
          let n : Int := (Decimal.Magnitude.ofBinary64 x).shifted 0
          return .number (if x.isNegative then -n else n)
      | some p => do return .real (roundedReal x (← numberArgument ev p))
    | none, v =>
      match ← special? v "__round__" with
      | some f => ev.call f given []
      | none => misfit s!"type {← kindName v} doesn't define __round__ method"

/-- Kinds of what can be gone through and the like, with what their values can do. -/
def hasManner (v : Value) (manner : String) : Run Bool := do
  let isTable : Run Bool := do
    match ← thing? v with
    | some (.table _ _ _) => return true
    | _ => return false
  match manner with
  | "Mapping" => isTable
  | "MutableMapping" => isTable
  | "Callable" =>
    match v with
    | .known _ => return true
    | .bound _ _ => return true
    | .ability _ _ => return true
    | v =>
      match ← thing? v with
      | some (.function _) => return true
      | some (.kind _ _ _) => return true
      | _ => return (← special? v "__call__").isSome
  | "Sequence" =>
    match v with
    | .text _ => return true
    | .tuple _ => return true
    | .octets _ => return true
    | .range _ _ _ => return true
    | v =>
      match ← thing? v with
      | some (.list _) => return true
      | _ => return false
  | "Sized" => return (← size? v).isSome
  | "Iterator" =>
    match ← thing? v with
    | some (.row _ _) => return true
    | _ => return (← special? v "__next__").isSome
  | "Hashable" => return (← orNone "TypeError" (requireKey v)).isSome
  | _ => return (← orNone "TypeError" (rowOf ev v)).isSome

/-- Whether a value is of a kind, or of one of several. -/
def isInstance : Nat → Value → Value → Run Bool
  | 0, _, _ => throw .spent
  | fuel + 1, v, kind => do
    match kind with
    | .tuple kinds => kinds.anyM (isInstance fuel v)
    | .nothing => return isSame v .nothing
    | .known name =>
      match Text.dropWord? "collections.abc.".toList name.toList with
      | some manner => hasManner ev v (String.ofList manner)
      | none =>
        if isKindName name then isUnder (← kindOf v) kind
        else misfit "isinstance() arg 2 must be a type, a tuple of types, or a union"
    | kind =>
      match ← thing? kind with
      | some (.kind _ _ _) => isUnder (← kindOf v) kind
      | some (.plain (.known "types.UnionType") members) =>
        match Members.get? members "__args__" with
        | some kinds => isInstance fuel v kinds
        | none => return false
      | _ => misfit "isinstance() arg 2 must be a type, a tuple of types, or a union"

/-- Makes a failure of a kind from what it is given. -/
def makeFailureFrom (kind : String) (given : List Value) (named : Members Value) : Run Value := do
  if isKindUnder kind "OSError" then
    match given with
    | n :: reason :: more => do
      let kind := match kind, n with
        | "OSError", .number n => systemFailureKind n
        | kind, _ => kind
      let path := match more with
        | p :: _ => [("filename", p)]
        | [] => []
      makeFailure kind [n, reason] ([("errno", n), ("strerror", reason)] ++ path)
    | given => makeFailure kind given
  else if kind == "SystemExit" then
    makeFailure kind given [("code", match given with
      | [] => .nothing
      | [v] => v
      | vs => .tuple vs)]
  else if kind == "StopIteration" then makeFailure kind given [("value", given.headD .nothing)]
  else if kind == "subprocess.CalledProcessError" then
    let all := given.map some ++ (["returncode", "cmd", "output", "stderr"].drop given.length).map
      fun n => Members.get? named n
    let told (n : Nat) := (argument? all n).getD .nothing
    makeFailure kind given [("returncode", told 0), ("cmd", told 1), ("output", told 2),
      ("stdout", told 2), ("stderr", told 3)]
  else if kind == "json.decoder.JSONDecodeError" then
    match given with
    | .text reason :: .text doc :: .number pos :: _ => do
      match ← attempt (failJson (α := Value) doc ⟨String.ofList reason, pos.toNat⟩) with
      | .error (.failed place) => do
        modify fun s => { s with traces := s.traces.filter (·.1 != place) }
        return .thing place
      | _ => makeFailure kind given
    | given => makeFailure kind given
  else
    let names := if isKindUnder kind "ImportError" then ["name", "path"]
      else if isKindUnder kind "NameError" then ["name"]
      else if isKindUnder kind "AttributeError" then ["name", "obj"] else []
    match named.find? fun m => !names.contains m.1 with
    | some _ => misfit s!"{bareKindName kind}() takes no keyword arguments"
    | none => makeFailure kind given named

/-- The kind and the first argument of the function around that belongs to a kind. -/
def ownerAround : Nat → Nat → Run (Option (Nat × Value))
  | 0, _ => return none
  | fuel + 1, scope => do
    match (← get).scopes[scope]? with
    | none => return none
    | some x =>
      match x.owner, x.around with
      | some o, _ => return some o
      | none, some around => ownerAround fuel around
      | none, none => return none

/-- What stands for a value of a kind among the kinds above. -/
def aboveOwner (given : List Value) : Run Value := do
  let found ← match given with
    | [kind, owner] => do
      match kind with
      | .thing place => pure (some (place, owner))
      | _ => pure none
    | _ => do ownerAround 64 (← get).scope
  match found with
  | some (kind, owner) => do
    let all ← match owner with
      | .thing _ =>
        match ← thing? owner with
        | some (.kind _ _ _) => ancestry 24 owner
        | _ => kindsOf owner
      | _ => kindsOf owner
    let above := (all.dropWhile fun k => !ancestry.sameKind k (.thing kind)).drop 1
    make (.plain (.known "super") [("above", .tuple above), ("owner", owner)])
  | none => fail "RuntimeError" "super(): no arguments"

/-- Opens a file as arguments say. -/
def openGiven (given : List Value) (named : Members Value) : Run Value := do
  let arguments ← placed "open" ["file", "mode", "buffering", "encoding", "errors", "newline",
    "closefd", "opener"] given named
  let mode := match argument? arguments 1 with
    | some (.text m) => m
    | _ => ['r']
  let encoding ← match argument? arguments 3 with
    | some (.text e) => encodingOf e
    | _ => pure .utf8
  let errors := match argument? arguments 4 with
    | some (.text e) => String.ofList e
    | _ => "strict"
  match argument? arguments 0 with
  | none => misfit "open() missing required argument 'file' (pos 1)"
  | some v => do
    let path ← match v with
      | .text p => pure p
      | .octets bytes => decoded .utf8 "replace" bytes
      | .number 0 => pure "/dev/stdin".toList
      | v =>
        match ← thing? v with
        | some (.plain (.known "pathlib.PosixPath") _) => printed ev v
        | _ =>
          match ← special? v "__fspath__" with
          | some f => do printed ev (← ev.call f [v] [])
          | none => misfit s!"expected str, bytes or os.PathLike object, not {← kindName v}"
    openFile path mode encoding errors

/-- The next item of a row, or what is given instead. -/
def nextGiven (given : List Value) : Run Value := do
  match given with
  | [] => misfit "next expected at least 1 argument, got 0"
  | row :: rest =>
    match ← next? ev row, rest with
    | some v, _ => return v
    | none, v :: _ => return v
    | none, [] => raise (← makeFailure "StopIteration" [] [("value", .nothing)])

/-- What a value is under a text of letters for a base. -/
def basedText (base : Nat) (mark : Char) (given : List Value) : Run Value := do
  match given with
  | [v] => do
    let n ← numberArgument ev v
    return .text ((if n < 0 then ['-'] else []) ++ '0' :: mark :: Nat.toDigits base n.natAbs)
  | given => misfit s!"expected exactly one argument ({given.length} given)"

/-- Calls a function that is known everywhere; none when there is no such function. -/
def callEverywhere (name : String) (given : List Value) (named : Members Value) :
    Run (Option Value) := do
  let answer (x : Run Value) : Run (Option Value) := return some (← x)
  match name, given with
  | "print", given => answer (printValues ev given named)
  | "len", [v] => answer (sizeOf ev v)
  | "len", given => misfit s!"len() takes exactly one argument ({given.length} given)"
  | "range", given => answer (makeRange ev given)
  | "int", given => answer (makeWhole ev given named)
  | "bool", given => answer (match given with
    | [] => return .truth false
    | v :: _ => return .truth (← truth ev v))
  | "float", given => answer (makeReal ev given)
  | "str", given => answer (match given with
    | [] => return .text []
    | [v] =>
      match v, Members.get? named "encoding" with
      | .octets bytes, some (.text e) => do return .text (← decoded (← encodingOf e) "strict" bytes)
      | v, _ => do return .text (← printed ev v)
    | .octets bytes :: .text e :: rest => do
      let errors := match rest with
        | .text cs :: _ => String.ofList cs
        | _ => "strict"
      return .text (← decoded (← encodingOf e) errors bytes)
    | v :: _ => do misfit s!"decoding to str: need a bytes-like object, {← kindName v} found")
  | "bytes", given => answer (makeOctets ev given named)
  | "bytearray", given => answer (makeOctets ev given named)
  | "memoryview", [v] => return some v
  | "list", given => answer (match given with
    | [] => makeList []
    | v :: _ => do makeList (← itemsOf ev v))
  | "tuple", given => answer (match given with
    | [] => return .tuple []
    | v :: _ => do return .tuple (← itemsOf ev v))
  | "dict", given => answer (makeTableFrom ev "dict" given named)
  | "set", given => answer (makeSet ev false given)
  | "frozenset", given => answer (makeSet ev true given)
  | "object", _ => answer (make (.plain (.known "object") []))
  | "sorted", v :: _ => answer do
    let isReverse ← match Members.get? named "reverse" with
      | some r => truth ev r
      | none => pure false
    let items ← itemsOf ev v
    makeList (← sorted ev items ((Members.get? named "key").getD .nothing) isReverse)
  | "reversed", [v] => answer do
    match ← special? v "__reversed__" with
    | some f => ev.call f [v] []
    | none => do makeRow "list_reverseiterator" (← itemsOf ev v).reverse
  | "enumerate", v :: rest => answer do
    let start ← match rest, Members.get? named "start" with
      | n :: _, _ => numberArgument ev n
      | [], some n => numberArgument ev n
      | [], none => pure 0
    make (.row "enumerate" (.numbered start (← rowOf ev v)))
  | "zip", given => answer do
    let strict ← match Members.get? named "strict" with
      | some v => truth ev v
      | none => pure false
    make (.row "zip" (.together (← given.mapM (rowOf ev)) strict))
  | "map", f :: sources => answer do
    make (.row "map" (.mapped f (← sources.mapM (rowOf ev))))
  | "filter", [f, source] => answer do make (.row "filter" (.kept f (← rowOf ev source)))
  | "sum", given => answer (summed ev given named)
  | "min", given => answer (extreme ev "min" given named)
  | "max", given => answer (extreme ev "max" given named)
  | "abs", [v] => answer do
    match v.whole?, v with
    | some n, _ => return .number n.natAbs
    | none, .real x => return .real (if x.isNegative then x.neg else x)
    | none, v =>
      match ← special? v "__abs__" with
      | some f => ev.call f [v] []
      | none => misfit s!"bad operand type for abs(): '{← kindName v}'"
  | "any", [v] => answer do
    let row ← rowOf ev v
    return .truth (← anyTrue row true rowLimit)
  | "all", [v] => answer do
    let row ← rowOf ev v
    return .truth (!(← anyTrue row false rowLimit))
  | "open", given => answer (openGiven ev given named)
  | "isinstance", [v, kind] => answer do return .truth (← isInstance ev 16 v kind)
  | "issubclass", [v, kind] => answer do
    match kind with
    | .tuple kinds => do return .truth (← kinds.anyM (isUnder v))
    | kind => do return .truth (← isUnder v kind)
  | "type", [v] => answer (kindOf v)
  | "repr", [v] => answer do return .text (← shown ev v)
  | "ascii", [v] => answer (turned ev (some 'a') v)
  | "ord", [v] => answer do
    match v with
    | .text [c] => return .ofNat c.toNat
    | .octets [b] => return .ofNat b.toNat
    | .text cs => misfit s!"ord() expected a character, but string of length {cs.length} found"
    | .octets bs => misfit s!"ord() expected a character, but string of length {bs.length} found"
    | v => misfit s!"ord() expected string of length 1, but {← kindName v} found"
  | "chr", [v] => answer do
    let n ← numberArgument ev v
    if n < 0 || 0x110000 ≤ n then unfit "chr() arg not in range(0x110000)"
    else return .text [Char.ofNat n.toNat]
  | "hex", given => answer (basedText ev 16 'x' given)
  | "oct", given => answer (basedText ev 8 'o' given)
  | "bin", given => answer (basedText ev 2 'b' given)
  | "round", given => answer (rounded ev given named)
  | "divmod", [a, b] => answer do
    match a.whole?, b.whole?, a.real?, b.real? with
    | none, _, some _, some y => if y.isZero then zeroDivision "float divmod()"
    | _, none, some _, some y => if y.isZero then zeroDivision "float divmod()"
    | _, _, _, _ => pure ()
    let q ← operate ev (percent ev) "//" "divmod()" a b
    let r ← operate ev (percent ev) "%" "divmod()" a b
    return .tuple [q, r]
  | "pow", [a, b] => answer (operate ev (percent ev) "**" "**" a b)
  | "pow", [a, b, m] => answer do
    match a.whole?, b.whole?, m.whole? with
    | some a, some b, some m =>
      if m = 0 then unfit "pow() 3rd argument cannot be 0"
      else return .number (Int.fmod (powerModulo a.toNat b.toNat m.natAbs) m)
    | _, _, _ => misfit "pow() 3rd argument not allowed unless all arguments are integers"
  | "hash", [v] => answer do
    requireKey v
    return .number ((v.whole?).getD 0)
  | "id", [v] => return some (match v with
    | .thing place => .ofNat (0x7f0000000000 + 16 * place)
    | _ => .number 0x7f0000000000)
  | "iter", [v] => answer (rowOf ev v)
  | "iter", [f, last] => answer (make (.row "callable_iterator" (.until f last)))
  | "next", given => answer (nextGiven ev given)
  | "callable", [v] => answer do return .truth (← hasManner ev v "Callable")
  | "getattr", v :: .text name :: rest => answer do
    match rest with
    | [] => memberOf ev v (String.ofList name)
    | other :: _ => do return (← member? ev v (String.ofList name)).getD other
  | "hasattr", [v, .text name] => answer do
    return .truth (← member? ev v (String.ofList name)).isSome
  | "setattr", [v, .text name, new] => answer do
    setMemberOf ev v (String.ofList name) new
    return .nothing
  | "delattr", [v, .text name] => answer do
    deleteMemberOf v (String.ofList name)
    return .nothing
  | "vars", [v] => answer (memberOf ev v "__dict__")
  | "globals", [] => answer do
    makeTable (namedMembers (((← get).scopes[0]?).map (·.names) |>.getD []))
  | "locals", [] => answer do
    let s ← get
    makeTable (namedMembers ((s.scopes[s.scope]?).map (·.names) |>.getD []))
  | "dir", given => answer do
    match given with
    | v :: _ =>
      match ← thing? v with
      | some (.plain kind members) => do
        let names := (← kindNames kind) ++ members.map (·.1)
        makeTexts ((Sorting.sort (fun a b => decide (a ≤ b)) names).map String.toList)
      | _ => do makeTexts ((Sorting.sort (fun a b => decide (a ≤ b)) (← abilitiesOf v)).map String.toList)
    | [] => do
      let s ← get
      let names := ((s.scopes[s.scope]?).map (·.names) |>.getD []).map (·.1)
      makeTexts ((Sorting.sort (fun a b => decide (a ≤ b)) names).map String.toList)
  | "input", given => answer do
    match given with
    | v :: _ => write 1 (← printed ev v)
    | [] => pure ()
    let stdin ← memberOf ev (.known "sys") "stdin"
    match stdin with
    | .thing place =>
      match ← readLine place with
      | .text [] => fail "EOFError" "EOF when reading a line"
      | .text cs => return .text (if cs.getLast? = some '\n' then cs.dropLast else cs)
      | v => return v
    | _ => fail "EOFError" "EOF when reading a line"
  | "format", v :: rest => answer do
    let spec := match rest with
      | .text cs :: _ => cs
      | _ => []
    return .text (← formatted ev v spec)
  | "slice", [b] => return some (.slice .nothing b .nothing)
  | "slice", [a, b] => return some (.slice a b .nothing)
  | "slice", [a, b, c] => return some (.slice a b c)
  | "super", given => answer (aboveOwner given)
  | "property", given => answer do
    let setter := match given with
      | _ :: f :: _ => [("fset", f)]
      | _ => []
    make (.plain (.known "property") (("fget", given.headD .nothing) :: setter))
  | "staticmethod", f :: _ => answer (make (.plain (.known "staticmethod") [("f", f)]))
  | "classmethod", f :: _ => answer (make (.plain (.known "classmethod") [("f", f)]))
  | "exit", given => do raise (← makeFailureFrom "SystemExit" given [])
  | "quit", given => do raise (← makeFailureFrom "SystemExit" given [])
  | "__import__", .text name :: _ =>
    let name := String.ofList name
    if isModule name then return some (.known name)
    else do
      raise (← makeFailure "ModuleNotFoundError" [.ofString s!"No module named '{name}'"]
        [("name", .ofString name)])
  | name, given =>
    if (failureKinds.lookup name).isSome then return some (← makeFailureFrom name given named)
    else if everywhere.contains name then wrongArguments name given
    else return none
where
  /-- Whether some item counts as true, or as false. -/
  anyTrue (row : Value) (wanted : Bool) : Nat → Run Bool
    | 0 => throw .spent
    | fuel + 1 => do
      match ← next? ev row with
      | none => return false
      | some v => if (← truth ev v) == wanted then return true else anyTrue row wanted fuel
  /-- A power by a modulus, bit by bit of the exponent. -/
  powerModulo (a b m : Nat) : Int :=
    (((Nat.toDigits 2 b).foldl (fun r bit => let r := r * r % m
      if bit = '1' then r * a % m else r) (1 % m) : Nat) : Int)

end Run

end FirmwareSurvey.ResultScript
