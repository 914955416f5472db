import FirmwareSurvey.ResultScript.Known
import FirmwareSurvey.ResultScript.Naming

/-!
# Expressions and statements

An expression has a value, and a statement changes what is known; both may start calls, and each call
runs the statements of a function in a scope of its own. Every step counts against a number, so that a
run ends in any case. What hands values out runs ahead of whoever takes them, as far as it is allowed
to.
-/

namespace FirmwareSurvey.ResultScript

/-- What is written out, as a value. -/
def Literal.value : Literal → Value
  | .nothing => .nothing
  | .truth b => .truth b
  | .number n => .number n
  | .real x => .real x
  | .text cs => .text cs
  | .octets bytes => .octets bytes
  | .dots => .dots

/-- The statements that hand out the values that are gathered. -/
def gatheringBlock (span : Span) (first : Expr) (second : Option Expr) : List Clause → Block
  | [] =>
    let item := match second with
      | some v => .tuple [first, v]
      | none => first
    [(span, .eval (.hands (some item)))]
  | .each targetSpan target source :: rest =>
    [(span, .each targetSpan target source (gatheringBlock span first second rest) [])]
  | .when condition :: rest =>
    [(span, .branch condition (gatheringBlock span first second rest) [])]

/-- The name of the first source of what is gathered. -/
def sourceName : String := ".0"

/-- The modules that hold others. -/
def packages : List String :=
  ["json", "collections", "urllib", "html", "importlib", "logging", "xml", "http", "email", "sqlite3",
    "asyncio", "concurrent", "ctypes", "unittest", "multiprocessing", "tomllib", "re"]

/-- The modules without files. -/
def bareModules : List String :=
  ["sys", "math", "time", "itertools", "binascii", "zlib", "errno", "gc", "atexit", "builtins"]

/-- Where a module lies. -/
def modulePlace (name : String) : String :=
  if packages.contains name then s!"/usr/lib/python3.12/{name}/__init__.py"
  else if bareModules.contains name then "unknown location"
  else s!"/usr/lib/python3.12/{name}.py"

namespace Run

/-- How many values may be handed out ahead. -/
def handingLimit : Nat := 20000

/-- How many calls may lie in each other. -/
def callLimit : Nat := 1000

/-- Takes over what a call or a part leaves unchanged. -/
def restore (before : State) : Run Unit :=
  modify fun s => { s with
    scope := before.scope
    frame := before.frame
    span := before.span
    mark := before.mark
    depth := before.depth
    handled := before.handled
    handed := before.handed
    handedRoom := before.handedRoom }

/-- Fails because calls lie too deep in each other. -/
def requireDepth : Run Unit := do
  if callLimit ≤ (← get).depth + 1 then
    fail "RecursionError" "maximum recursion depth exceeded"

/-- Hands out a value. -/
def handOut (v : Value) : Run Unit := do
  match (← get).handedRoom with
  | 0 => throw .handedEnough
  | room + 1 => modify fun s => { s with handed := v :: s.handed, handedRoom := room }

/-- What is called, as complaints about its arguments name it. -/
def calledName (f : Value) : Run String := do
  match f with
  | .known name => return bareKindName name
  | .ability owner name => return s!"{← kindName owner}.{name}"
  | .bound g _ =>
    match ← thing? g with
    | some (.function g) => return "__main__." ++ g.path
    | _ => return "function"
  | f =>
    match ← thing? f with
    | some (.function f) => return "__main__." ++ f.path
    | some (.kind name _ _) => return "__main__." ++ name
    | _ => kindName f

/-! ### What values of special kinds have and do -/

/-- The members of a plain thing of a kind that is known from the start. -/
def knownThing? (v : Value) : Run (Option (String × Members Value)) := do
  match ← thing? v with
  | some (.plain (.known kind) members) => return some (kind, members)
  | _ => return none

/-- What a value has under a name; paths and the like have more than their members. -/
def memberIn (ev : Evaluator) (v : Value) (name : String) : Run Value := do
  match ← knownThing? v with
  | some ("pathlib.PosixPath", _) => do
    match ← pathProperty? (← pathText ev v) name with
    | some found => return found
    | none => memberOf ev v name
  | some ("re.Pattern", _) =>
    if name == "groups" then return .ofNat (← searchUse v).read.groups
    else if name == "groupindex" then
      let u ← searchUse v
      makeTable (u.read.names.map fun (n, k) => (.ofString n, .ofNat k))
    else memberOf ev v name
  | some ("property", _) =>
    if ["setter", "getter", "deleter"].contains name then return .ability v name
    else memberOf ev v name
  | _ => memberOf ev v name

/-- What a value has at a place; what was found by a search has its groups there. -/
def itemIn (ev : Evaluator) (v place : Value) : Run Value := do
  match ← knownThing? v with
  | some ("re.Match", members) => foundAbility ev members "group" [place] []
  | _ => itemOf ev v place

/-- The result of an operation; a sign for quotients joins paths. -/
def operateIn (ev : Evaluator) (sign changing : String) (a b : Value) : Run Value := do
  let isPath (v : Value) : Run Bool := do
    match v with
    | .thing _ => return (← knownThing? v).any fun k => k.1 == "pathlib.PosixPath"
    | _ => return false
  if sign == "/" && ((← isPath a) || (← isPath b)) then
    match ← orNone "TypeError" (pathText ev a), ← orNone "TypeError" (pathText ev b) with
    | some p, some q => makePath (PathName.join p q)
    | _, _ => operate ev (percent ev) sign changing a b
  else operate ev (percent ev) sign changing a b

/-- What a thing of a kind of the script does that its kind says nothing about. -/
def plainAbility (ev : Evaluator) (owner : Value) (name : String) (given : List Value) :
    Run Value := do
  match owner, name with
  | .thing place, "__init__" => do
    if ← isOfKind owner "BaseException" then setMember place "args" (.tuple given)
    return .nothing
  | .thing place, "__setattr__" =>
    match given with
    | [.text n, v] => do
      setMember place (String.ofList n) v
      return .nothing
    | given => wrongArguments name given
  | .thing place, "__str__" =>
    match ← thing? owner with
    | some (.plain kind members) =>
      if ← isUnder kind (.known "BaseException") then return .text (← failureText ev kind members)
      else return .text (placeText (← longKindName kind) place)
    | _ => return .text []
  | .thing place, "__repr__" =>
    match ← thing? owner with
    | some (.plain kind members) => return .text (← shownPlain ev [] place kind members shownLimit)
    | _ => return .text []
  | .thing place, "__hash__" => return .ofNat place
  | owner, "__eq__" =>
    match given with
    | [v] => return if isSame owner v then .truth true else .noAnswer
    | given => wrongArguments name given
  | owner, "__enter__" => return owner
  | _, "__exit__" => return .nothing
  | _, "__init_subclass__" => return .nothing
  | _, "add_note" => return .nothing
  | owner, _ => return owner

/-- What a value does by itself. -/
def abilityIn (ev : Evaluator) (owner : Value) (name : String) (given : List Value)
    (named : Members Value) : Run Value := do
  let place := match owner with
    | .thing place => place
    | _ => 0
  match ← thing? owner with
  | some (.plain (.known kind) members) =>
    match kind with
    | "pathlib.PosixPath" => pathAbility ev owner name (← pathText ev owner) given named
    | "re.Pattern" => do useSearch ev (← searchUse owner) name given named
    | "re.Match" => foundAbility ev members name given named
    | "_hashlib.HASH" => digestAbility place members name given
    | "struct.Struct" => do
      match ← useFormat ev (← packFormat ((Members.get? members "format").getD .nothing))
          name given named with
      | some v => return v
      | none => wrongArguments name given
    | "subprocess.CompletedProcess" =>
      let told (n : String) := (Members.get? members n).getD .nothing
      match told "returncode" with
      | .number 0 => return .nothing
      | .number n => failProgram ev (told "args") n (told "stdout") (told "stderr")
      | _ => return .nothing
    | "property" =>
      let key := if name == "setter" then "fset" else if name == "deleter" then "fdel" else "fget"
      make (.plain (.known "property") (Members.put members key (given.headD .nothing)))
    | _ => plainAbility ev owner name given
  | some (.plain _ _) => plainAbility ev owner name given
  | some (.file _) =>
    if name == "__enter__" then return owner else ability ev (memberIn ev) owner name given named
  | _ => ability ev (memberIn ev) owner name given named

/-! ### Modules -/

/-- Makes modules known under names. -/
def useModule (name known : String) : Run Unit := do
  let root := String.ofList (name.toList.takeWhile (· != '.'))
  if isModule name then
    -- the name of a module with points in it makes the outermost one known
    assignName known (.known (if known == root then meantName root else meantName name))
  else
    let text := if name != root && isModule root && !packages.contains root then
        s!"No module named '{name}'; '{root}' is not a package"
      else if name != root && isModule root then s!"No module named '{name}'"
      else s!"No module named '{root}'"
    raise (← makeFailure "ModuleNotFoundError" [.ofString text] [("name", .ofString name)])

/-- Makes a member of a module known under a name. -/
def useMember (ev : Evaluator) (module name known : String) : Run Unit := do
  let meant := meantName module
  let full := meant ++ "." ++ name
  if !isModule meant then
    raise (← makeFailure "ModuleNotFoundError" [.ofString s!"No module named '{module}'"]
      [("name", .ofString module)])
  else
    match ← member? ev (.known meant) name with
    | some v => assignName known v
    | none =>
      if isModule full then assignName known (.known full)
      else
        fail "ImportError" s!"cannot import name '{name}' from '{module}' ({modulePlace module})"

/-! ### Failures -/

/-- A failure from a value that stands for one: a failure, or a kind of failures. -/
def failureFrom (ev : Evaluator) (v : Value) : Run Value := do
  let refuse : Run Value := misfit "exceptions must derive from BaseException"
  let isKind ← match v with
    | .known name => pure (isKindName name)
    | v => do
      match ← thing? v with
      | some (.kind _ _ _) => pure true
      | _ => pure false
  if isKind then
    if ← isUnder v (.known "BaseException") then ev.call v [] [] else refuse
  else if ← isOfKind v "BaseException" then return v
  else refuse

/-- Whether a failure is of a kind, or of one of several. -/
def isCaught (failure : Nat) : Nat → Value → Run Bool
  | 0, _ => return false
  | fuel + 1, kind => do
    match kind with
    | .tuple kinds => kinds.anyM (isCaught failure fuel)
    | kind =>
      if ← isUnder kind (.known "BaseException") then
        isUnder (← kindOf (.thing failure)) kind
      else
        misfit "catching classes that do not inherit from BaseException is not allowed"

/-- Tells a failure what caused it. -/
def setCause (failure cause : Value) : Run Unit := do
  match failure with
  | .thing place => do
    setMember place "__cause__" cause
    setMember place "__suppress_context__" (.truth true)
  | _ => return ()

/-! ### Use -/

/-- What a value gives when its use begins. -/
def entered (ev : Evaluator) (v : Value) : Run Value := do
  let refuse : Run Value := do
    misfit s!"'{← kindName v}' object does not support the context manager protocol"
  match ← thing? v with
  | some (.file _) => return v
  | some (.row _ _) => return v
  | some (.plain (.known "contextlib.suppress") _) => return .nothing
  | some (.plain (.known _) members) =>
    match Members.get? members "value" with
    | some w => return w
    | none => refuse
  | _ =>
    match ← special? v "__enter__", ← special? v "__exit__" with
    | some f, some _ => ev.call f [v] []
    | some _, none => do
      misfit (s!"'{← kindName v}' object does not support the context manager protocol " ++
        "(missed __exit__ method)")
    | none, _ => refuse

/-- Ends the use of a value; whether a failure that ended it is dealt with thereby. -/
def leftBehind (ev : Evaluator) (v : Value) (failure : Option Nat) : Run Bool := do
  match ← thing? v with
  | some (.file _) => do
    if let .thing place := v then closeFile place
    return false
  | some (.plain (.known "contextlib.suppress") members) =>
    match failure with
    | some place => isCaught place 8 ((Members.get? members "args").getD (.tuple []))
    | none => return false
  | some (.plain (.known "contextlib.closing") members) => do
    let _ ← ev.call (← memberOf ev ((Members.get? members "value").getD .nothing) "close") [] []
    return false
  | _ =>
    match ← special? v "__exit__" with
    | none => return false
    | some f => do
      let given ← match failure with
        | some place => do pure [v, ← kindOf (.thing place), .thing place, .nothing]
        | none => pure [v, .nothing, .nothing, .nothing]
      truth ev (← ev.call f given [])

/-! ### Targets -/

/-- So many items of a row, and whether there are more. -/
def someItems (ev : Evaluator) (row : Value) : Nat → Run (List Value × Bool)
  | 0 => return ([], (← next? ev row).isSome)
  | n + 1 => do
    match ← next? ev row with
    | none => return ([], false)
    | some v => do
      let (rest, isMore) ← someItems ev row n
      return (v :: rest, isMore)

/-- The values that the parts of a target get from one value. -/
def unpacked (ev : Evaluator) (span : Span) (targets : List Expr) (v : Value) :
    Run (List Value) := do
  workOn span
  let isSpread : Expr → Bool := fun t => match t with
    | .spread _ => true
    | _ => false
  let row ← match ← orNone "TypeError" (rowOf ev v) with
    | some row => pure row
    | none => misfit s!"cannot unpack non-iterable {← kindName v} object"
  match targets.findIdx? isSpread with
  | none => do
    let (items, isMore) ← someItems ev row targets.length
    if isMore then unfit s!"too many values to unpack (expected {targets.length})"
    else if items.length < targets.length then
      unfit s!"not enough values to unpack (expected {targets.length}, got {items.length})"
    else return items
  | some before => do
    let after := targets.length - before - 1
    let items ← itemsLeft ev row rowLimit []
    if items.length < before + after then
      unfit s!"not enough values to unpack (expected at least {before + after}, got {items.length})"
    else
      let between := (items.drop before).take (items.length - before - after)
      let rest ← makeList between
      return items.take before ++ rest :: items.drop (items.length - after)

/-- What compares two values under a sign. -/
def comparison (ev : Evaluator) (sign : String) (a b : Value) : Run Bool := do
  match sign with
  | "==" => areEqual ev a b
  | "!=" => do
    match ← answer? ev "__ne__" a b with
    | some v => truth ev v
    | none => return !(← areEqual ev a b)
  | "in" => holds ev b a
  | "not in" => return !(← holds ev b a)
  | "is" => return isSame a b
  | "is not" => return !isSame a b
  | sign => areOrdered ev sign a b

mutual

/-- The value of an expression. -/
def eval : Nat → Expr → Run Value
  | 0, _ => throw .spent
  | fuel + 1, e => do
    let ev : Evaluator := ⟨fun f given named => callValue fuel f given named, fun p => unfold fuel p⟩
    match e with
    | .literal v => return v.value
    | .name span name => do
      workOn span
      valueOf name
    | .joined _ parts => return .text (← evalParts fuel parts)
    | .list items => do makeList (← evalItems fuel items)
    | .tuple items => return .tuple (← evalItems fuel items)
    | .set span items => do
      let items ← evalItems fuel items
      workOn span
      requireKeys items
      make (.set false (distinct items))
    | .table span members => do
      let members ← evalMembers fuel span members []
      makeTable members
    | .spread e => eval fuel e
    | .unary span sign e => do
      let v ← eval fuel e
      workOn span
      signed ev sign v
    | .binary span signSpan sign l r => do
      let a ← eval fuel l
      let b ← eval fuel r
      workOn span (some signSpan)
      operateIn ev sign (if sign == "**" then "** or pow()" else sign) a b
    | .compare span first rest => do
      let a ← eval fuel first
      evalComparisons fuel span a rest
    | .both l r => do
      let a ← eval fuel l
      if ← truth ev a then eval fuel r else return a
    | .either l r => do
      let a ← eval fuel l
      if ← truth ev a then return a else eval fuel r
    | .not e => do
      let v ← eval fuel e
      return .truth (!(← truth ev v))
    | .choice condition yes no => do
      let c ← eval fuel condition
      if ← truth ev c then eval fuel yes else eval fuel no
    | .call span f arguments => do
      let f ← eval fuel f
      let (given, named) ← evalArguments fuel span f arguments [] []
      workOn span
      callValue fuel f given named
    | .item span placeSpan e place => do
      let v ← eval fuel e
      let p ← eval fuel place
      workOn span (some placeSpan)
      itemIn ev v p
    | .slice start stop step => do
      let bound (e : Option Expr) : Run Value :=
        match e with
        | some e => eval fuel e
        | none => return .nothing
      let a ← bound start
      let b ← bound stop
      let c ← bound step
      return .slice a b c
    | .member span e name => do
      let v ← eval fuel e
      workOn span
      memberIn ev v name
    | .function parameters body => do
      let span := (← get).span
      makeFunction fuel "<lambda>" parameters [(span, .return (some body))] false
    | .gather span kind first second clauses => gathered fuel span kind first second clauses
    | .named name e => do
      let v ← eval fuel e
      assignInside name v
      return v
    | .hands e => do
      match e with
      | some (.spread e) => do
        let v ← eval fuel e
        let items ← itemsOf ev v
        for item in items do handOut item
      | some e => do
        let v ← eval fuel e
        handOut v
      | none => handOut .nothing
      return .nothing
termination_by structural fuel => fuel

/-- The values of expressions, all items of a value in place of some. -/
def evalItems : Nat → List Expr → Run (List Value)
  | 0, _ => throw .spent
  | fuel + 1, items => do
    match items with
    | [] => return []
    | .spread e :: rest => do
      let ev : Evaluator :=
        ⟨fun f given named => callValue fuel f given named, fun p => unfold fuel p⟩
      let v ← eval fuel e
      let row ← match ← orNone "TypeError" (rowOf ev v) with
        | some row => pure row
        | none => misfit s!"Value after * must be an iterable, not {← kindName v}"
      let first ← itemsLeft ev row rowLimit []
      return first ++ (← evalItems fuel rest)
    | e :: rest => do
      let v ← eval fuel e
      return v :: (← evalItems fuel rest)
termination_by structural fuel => fuel

/-- The members of a table that is written out. -/
def evalMembers : Nat → Span → List (Option Expr × Expr) → List (Value × Value) →
    Run (List (Value × Value))
  | 0, _, _, _ => throw .spent
  | fuel + 1, span, members, done => do
    match members with
    | [] => return done
    | (some k, e) :: rest => do
      let k ← eval fuel k
      let v ← eval fuel e
      workOn span
      requireKey k
      evalMembers fuel span rest (putKey k v done)
    | (none, e) :: rest => do
      let v ← eval fuel e
      workOn span
      match ← thing? v with
      | some (.table _ _ more) => evalMembers fuel span rest (withMembers done more)
      | _ => misfit s!"'{← kindName v}' object is not a mapping"
termination_by structural fuel => fuel

/-- The characters of the parts of a text with values in it. -/
def evalParts : Nat → List Part → Run (List Char)
  | 0, _ => throw .spent
  | fuel + 1, parts => do
    match parts with
    | [] => return []
    | .text cs :: rest => return cs ++ (← evalParts fuel rest)
    | .value span e turn format :: rest => do
      let ev : Evaluator :=
        ⟨fun f given named => callValue fuel f given named, fun p => unfold fuel p⟩
      let v ← eval fuel e
      let spec ← evalParts fuel format
      workOn span
      let cs ← formatted ev (← turned ev turn v) spec
      return cs ++ (← evalParts fuel rest)
termination_by structural fuel => fuel

/-- Whether comparisons in a row hold, from a first value on. -/
def evalComparisons : Nat → Span → Value → List (String × Expr) → Run Value
  | 0, _, _, _ => throw .spent
  | fuel + 1, span, a, rest => do
    let ev : Evaluator := ⟨fun f given named => callValue fuel f given named, fun p => unfold fuel p⟩
    match rest with
    | [] => return .truth true
    | (sign, e) :: rest => do
      let b ← eval fuel e
      workOn span
      if ← comparison ev sign a b then evalComparisons fuel span b rest
      else return .truth false
termination_by structural fuel => fuel

/-- The values of arguments: those without names, and those with names. -/
def evalArguments : Nat → Span → Value → List Argument → List Value → Members Value →
    Run (List Value × Members Value)
  | 0, _, _, _, _, _ => throw .spent
  | fuel + 1, span, f, arguments, given, named => do
    let ev : Evaluator := ⟨fun f given named => callValue fuel f given named, fun p => unfold fuel p⟩
    match arguments with
    | [] => return (given.reverse, named)
    | .plain e :: rest => do
      let v ← eval fuel e
      evalArguments fuel span f rest (v :: given) named
    | .named name e :: rest => do
      let v ← eval fuel e
      workOn span
      addNamed fuel span f [(name, v)] rest given named
    | .spread e :: rest => do
      let v ← eval fuel e
      workOn span
      match ← orNone "TypeError" (rowOf ev v) with
      | some row => do
        let items ← itemsLeft ev row rowLimit []
        evalArguments fuel span f rest (items.reverse ++ given) named
      | none =>
        misfit s!"{← calledName f}() argument after * must be an iterable, not {← kindName v}"
    | .spreadNamed e :: rest => do
      let v ← eval fuel e
      workOn span
      match ← thing? v with
      | some (.table _ _ members) => do
        let more ← members.mapM fun (k, v) => do
          match k with
          | .text cs => return (String.ofList cs, v)
          | _ => misfit "keywords must be strings"
        addNamed fuel span f more rest given named
      | _ =>
        misfit s!"{← calledName f}() argument after ** must be a mapping, not {← kindName v}"
termination_by structural fuel => fuel

/-- Adds arguments with names to others. -/
def addNamed : Nat → Span → Value → Members Value → List Argument → List Value → Members Value →
    Run (List Value × Members Value)
  | 0, _, _, _, _, _, _ => throw .spent
  | fuel + 1, span, f, more, rest, given, named => do
    match more.find? fun m => Members.has named m.1 with
    | some (name, _) =>
      misfit s!"{← calledName f}() got multiple values for keyword argument '{name}'"
    | none => evalArguments fuel span f rest given (named ++ more)
termination_by structural fuel => fuel

/-- Makes a function. -/
def makeFunction : Nat → String → List Parameter → Block → Bool → Run Value
  | 0, _, _, _, _ => throw .spent
  | fuel + 1, name, parameters, body, hands => do
    let parameters ← evalParameters fuel parameters
    let place := (← get).scope
    let here ← scopeAt place
    let around ← seenFrom scopeLimit place
    let globals := namesOutside true namingLimit body
    let outer := namesOutside false namingLimit body
    let own := parameters.map (·.1) ++ (namesGiven namingLimit body).filter fun n =>
      !globals.contains n && !outer.contains n
    make (.function {
      name, parameters, body, around, own, hands, globals, outer
      path := here.path ++ name })
termination_by structural fuel => fuel

/-- Parameters with the values that they have when nothing else is said. -/
def evalParameters : Nat → List Parameter → Run (List (String × Taking × Option Value))
  | 0, _ => throw .spent
  | fuel + 1, parameters => do
    match parameters with
    | [] => return []
    | .mk name taking default :: rest => do
      let v ← match default with
        | some e => do
          let v ← eval fuel e
          pure (some v)
        | none => pure none
      return (name, taking, v) :: (← evalParameters fuel rest)
termination_by structural fuel => fuel

/-- What is gathered from others. -/
def gathered : Nat → Span → Gathering → Expr → Option Expr → List Clause → Run Value
  | 0, _, _, _, _, _ => throw .spent
  | fuel + 1, span, kind, first, second, clauses => do
    let ev : Evaluator := ⟨fun f given named => callValue fuel f given named, fun p => unfold fuel p⟩
    match clauses with
    | .each targetSpan target source :: rest => do
      let v ← eval fuel source
      workOn span
      let row ← rowOf ev v
      let before ← get
      let around ← seenFrom scopeLimit before.scope
      let scope ← makeScope {
        around := some around, isGathering := true, names := [(sourceName, row)] }
      let block := gatheringBlock span first second
        (.each targetSpan target (.name span sourceName) :: rest)
      match kind with
      | .row => make (.row "generator" (.pending scope "<genexpr>" block))
      | kind => do
        modify fun s => { s with scope, handed := [], handedRoom := rowLimit }
        let r ← attempt (runBlock fuel block)
        let items := (← get).handed.reverse
        modify fun s => { s with
          scope := before.scope, handed := before.handed, handedRoom := before.handedRoom }
        match r with
        | .error signal => throw signal
        | .ok () => do
          workOn span
          match kind with
          | .set => do
            requireKeys items
            make (.set false (distinct items))
          | .table => do
            let members := items.filterMap fun v => match v with
              | .tuple [k, v] => some (k, v)
              | _ => none
            requireKeys (members.map (·.1))
            makeTable (withMembers [] members)
          | _ => makeList items
    | _ => return .nothing
termination_by structural fuel => fuel

/-- Gives a value to a target. -/
def assignTo : Nat → Span → Expr → Value → Run Unit
  | 0, _, _, _ => throw .spent
  | fuel + 1, span, target, v => do
    let ev : Evaluator := ⟨fun f given named => callValue fuel f given named, fun p => unfold fuel p⟩
    match target with
    | .name _ name => assignName name v
    | .spread e => assignTo fuel span e v
    | .tuple items => do assignItems fuel span items (← unpacked ev span items v)
    | .list items => do assignItems fuel span items (← unpacked ev span items v)
    | .item here placeSpan e place => do
      let owner ← eval fuel e
      let p ← eval fuel place
      workOn here (some placeSpan)
      setItem ev owner p v
    | .member here e name => do
      let owner ← eval fuel e
      workOn here
      setMemberOf ev owner name v
    | _ => misfit "cannot assign to expression"
termination_by structural fuel => fuel

/-- Gives values to targets, one to each. -/
def assignItems : Nat → Span → List Expr → List Value → Run Unit
  | 0, _, _, _ => throw .spent
  | fuel + 1, span, targets, values => do
    match targets, values with
    | t :: targets, v :: values => do
      assignTo fuel span t v
      assignItems fuel span targets values
    | _, _ => return ()
termination_by structural fuel => fuel

/-- Takes a target away. -/
def deleteTarget : Nat → Span → Expr → Run Unit
  | 0, _, _ => throw .spent
  | fuel + 1, span, target => do
    let ev : Evaluator := ⟨fun f given named => callValue fuel f given named, fun p => unfold fuel p⟩
    match target with
    | .name here name => do
      workOn here
      deleteName name
    | .tuple items => for t in items do deleteTarget fuel span t
    | .list items => for t in items do deleteTarget fuel span t
    | .item here placeSpan e place => do
      let owner ← eval fuel e
      let p ← eval fuel place
      workOn here (some placeSpan)
      deleteItem ev owner p
    | .member here e name => do
      let owner ← eval fuel e
      workOn here
      deleteMemberOf owner name
    | _ => misfit "cannot delete expression"
termination_by structural fuel => fuel

/-- Changes the value of a target by a sign. -/
def changeTarget : Nat → Span → Expr → String → Expr → Run Unit
  | 0, _, _, _, _ => throw .spent
  | fuel + 1, span, target, sign, e => do
    let ev : Evaluator := ⟨fun f given named => callValue fuel f given named, fun p => unfold fuel p⟩
    let changed (old new : Value) : Run Value := do
      workOn span
      match sign, ← knownThing? old with
      | "/", some ("pathlib.PosixPath", _) => operateIn ev "/" "/=" old new
      | sign, _ => changeInPlace ev (percent ev) sign old new
    match target with
    | .name here name => do
      workOn here
      let old ← valueOf name
      let new ← eval fuel e
      let v ← changed old new
      assignName name v
    | .item here placeSpan owned place => do
      let owner ← eval fuel owned
      let p ← eval fuel place
      workOn here (some placeSpan)
      let old ← itemIn ev owner p
      let new ← eval fuel e
      let v ← changed old new
      workOn here (some placeSpan)
      setItem ev owner p v
    | .member here owned name => do
      let owner ← eval fuel owned
      workOn here
      let old ← memberIn ev owner name
      let new ← eval fuel e
      let v ← changed old new
      workOn here
      setMemberOf ev owner name v
    | _ => misfit "cannot change expression"
termination_by structural fuel => fuel

/-- Calls a value with arguments. -/
def callValue : Nat → Value → List Value → Members Value → Run Value
  | 0, _, _, _ => throw .spent
  | fuel + 1, f, given, named => do
    let ev : Evaluator := ⟨fun f given named => callValue fuel f given named, fun p => unfold fuel p⟩
    let refuse : Run Value := do misfit s!"'{← kindName f}' object is not callable"
    match f with
    | .known name => callKnown ev name given named
    | .ability owner name => abilityIn ev owner name given named
    | .bound g owner => callValue fuel g (owner :: given) named
    | .thing place =>
      match (← get).things[place]? with
      | some (.function g) => callFunction fuel g given named
      | some (.kind name _ _) => makeOfKind fuel place name given named
      | some (.plain (.known "functools.partial") members) =>
        let own := match Members.get? members "args" with
          | some (.tuple vs) => vs
          | _ => []
        let keywords ← match Members.get? members "keywords" with
          | some v => membersOf ev v
          | none => pure []
        let ownNamed : Members Value := keywords.filterMap fun (k, v) => match k with
          | .text cs => some (String.ofList cs, v)
          | _ => none
        let all := named.foldl (fun ms m => Members.put ms m.1 m.2) ownNamed
        callValue fuel ((Members.get? members "func").getD .nothing) (own ++ given) all
      | some (.plain (.known "functools.remembering") members) => do
        let answers := (Members.get? members "answers").getD .nothing
        let key := Value.tuple (given ++ named.map fun m => .tuple [.ofString m.1, m.2])
        requireKey key
        match ← thing? answers with
        | some (.table _ _ known) =>
          match keyed? known key with
          | some v => return v
          | none => do
            let v ← callValue fuel ((Members.get? members "func").getD .nothing) given named
            setItem ev answers key v
            return v
        | _ => refuse
      | some (.plain (.known "operator.itemgetter") members) =>
        match Members.get? members "args", given with
        | some (.tuple [p]), [v] => itemIn ev v p
        | some (.tuple ps), [v] => return .tuple (← ps.mapM (itemIn ev v))
        | _, _ => wrongArguments "itemgetter" given
      | some (.plain (.known "operator.attrgetter") members) =>
        let read (v n : Value) : Run Value := do
          match n with
          | .text cs => (Text.cut '.' cs).foldlM (fun v n => memberIn ev v (String.ofList n)) v
          | n => misfit s!"attribute name must be a string, not {← kindName n}"
        match Members.get? members "args", given with
        | some (.tuple [n]), [v] => read v n
        | some (.tuple ns), [v] => return .tuple (← ns.mapM (read v))
        | _, _ => wrongArguments "attrgetter" given
      | some (.plain (.known "operator.methodcaller") members) =>
        match Members.get? members "args", given with
        | some (.tuple (.text n :: more)), [v] => do
          let g ← memberIn ev v (String.ofList n)
          callValue fuel g more (Members.drop members "args")
        | _, _ => wrongArguments "methodcaller" given
      | _ =>
        match ← special? f "__call__" with
        | some g => callValue fuel g (f :: given) named
        | none => refuse
    | _ => refuse
termination_by structural fuel => fuel

/-- Makes a value of a kind of the script. -/
def makeOfKind : Nat → Nat → String → List Value → Members Value → Run Value
  | 0, _, _, _, _ => throw .spent
  | fuel + 1, kind, name, given, named => do
    let isFailure ← isUnder (.thing kind) (.known "BaseException")
    let members : Members Value := if isFailure then [("args", .tuple given)] else []
    let v ← make (.plain (.thing kind) members)
    match ← special? v "__init__" with
    | some f => do
      match ← callValue fuel f (v :: given) named with
      | .nothing => return v
      | other => misfit s!"__init__() should return None, not '{← kindName other}'"
    | none =>
      if !isFailure && !(given.isEmpty && named.isEmpty) then
        misfit s!"{name}() takes no arguments"
      else return v
termination_by structural fuel => fuel

/-- Calls a function of the script. -/
def callFunction : Nat → Function → List Value → Members Value → Run Value
  | 0, _, _, _ => throw .spent
  | fuel + 1, f, given, named => do
    requireDepth
    let names ← bind f given named
    let scope ← makeScope {
      names, around := some f.around, own := f.own, globals := f.globals, outer := f.outer
      path := f.path ++ ".<locals>."
      owner := match f.owner, given.head? with
        | some kind, some v => some (kind, v)
        | _, _ => none }
    if f.hands then make (.row "generator" (.pending scope f.name f.body))
    else
      let before ← get
      modify fun s => { s with scope, frame := f.name, depth := s.depth + 1 }
      let r ← attempt (runBlock fuel f.body)
      restore before
      match r with
      | .ok () => return .nothing
      | .error (.returned v) => return v
      | .error (.failed failure) => do
        passThrough failure before.frame before.span before.mark
        throw (.failed failure)
      | .error signal => throw signal
termination_by structural fuel => fuel

/-- Makes the values that a row will hand out. -/
def unfold : Nat → Nat → Run Unit
  | 0, _ => throw .spent
  | fuel + 1, place => do
    match (← get).things[place]? with
    | some (.row kind (.pending scope name body)) => do
      requireDepth
      change place (.row kind (.items []))
      let before ← get
      modify fun s => { s with
        scope, frame := name, depth := s.depth + 1, handed := [], handedRoom := handingLimit }
      let r ← attempt (runBlock fuel body)
      let items := (← get).handed.reverse
      restore before
      match r with
      | .error (.failed failure) => change place (.row kind (.failing items failure))
      | .error .spent => throw .spent
      | _ => change place (.row kind (.items items))
    | _ => return ()
termination_by structural fuel => fuel

/-- Runs statements. -/
def runBlock : Nat → Block → Run Unit
  | 0, _ => throw .spent
  | fuel + 1, block => do
    match block with
    | [] => return ()
    | (span, s) :: rest => do
      workOn span
      runStatement fuel span s
      runBlock fuel rest
termination_by structural fuel => fuel

/-- Runs a statement. -/
def runStatement : Nat → Span → Statement → Run Unit
  | 0, _, _ => throw .spent
  | fuel + 1, span, s => do
    let ev : Evaluator := ⟨fun f given named => callValue fuel f given named, fun p => unfold fuel p⟩
    match s with
    | .eval e => do
      let _ ← eval fuel e
    | .assign targets e => do
      let v ← eval fuel e
      for (here, t) in targets do assignTo fuel here t v
    | .change _ target sign e => changeTarget fuel span target sign e
    | .branch condition yes no => do
      let c ← eval fuel condition
      if ← truth ev c then runBlock fuel yes else runBlock fuel no
    | .loop condition body otherwise => do
      if ← runWhile fuel condition body then runBlock fuel otherwise
    | .each targetSpan target source body otherwise => do
      let v ← eval fuel source
      let here := if (← scopeAt (← get).scope).isGathering then span else span.point
      workOn here
      let row ← rowOf ev v
      if ← runEach fuel here targetSpan target row body then runBlock fuel otherwise
    | .function name parameters body hands => do
      let f ← makeFunction fuel name parameters body hands
      assignName name f
    | .kind name bases body => do
      let bases ← evalItems fuel bases
      makeKind fuel name bases body
    | .return e => do
      match e with
      | some e => do
        let v ← eval fuel e
        throw (.returned v)
      | none => throw (.returned .nothing)
    | .use names => do
      workOn span
      for (name, known) in names do useModule name known
    | .useFrom module names => do
      workOn span
      if module.startsWith "." then
        fail "ImportError" "attempted relative import with no known parent package"
      if names.isEmpty then
        for name in (modules.lookup (meantName module)).getD [] do
          if !name.startsWith "_" then useMember ev module name name
      else
        for (name, known) in names do
          if module != "__future__" then useMember ev module name known
    | .attempt body handlers otherwise lastly => runAttempt fuel body handlers otherwise lastly
    | .fail none _ => do
      match (← get).handled.head? with
      | some (.thing failure) => throw (.failed failure)
      | _ => fail "RuntimeError" "No active exception to reraise"
    | .fail (some e) cause => do
      let v ← eval fuel e
      workOn span
      let failure ← failureFrom ev v
      match cause with
      | none => pure ()
      | some c => do
        let c ← eval fuel c
        workOn span
        match c with
        | .nothing => setCause failure .nothing
        | c => do setCause failure (← failureFrom ev c)
      raise failure
    | .within uses body => runWithin fuel span uses body
    | .pass => return ()
    | .leave => throw .left
    | .goOn => throw .wentOn
    | .outer _ _ => return ()
    | .delete targets => for (here, t) in targets do deleteTarget fuel here t
    | .claim here condition message => do
      let c ← eval fuel condition
      if !(← truth ev c) then
        let given ← match message with
          | some e => do
            let v ← eval fuel e
            pure [v]
          | none => pure []
        workOn here
        raise (← makeFailure "AssertionError" given)
termination_by structural fuel => fuel

/-- Runs statements while a condition holds; whether they were not left. -/
def runWhile : Nat → Expr → Block → Run Bool
  | 0, _, _ => throw .spent
  | fuel + 1, condition, body => do
    let ev : Evaluator := ⟨fun f given named => callValue fuel f given named, fun p => unfold fuel p⟩
    let c ← eval fuel condition
    if ← truth ev c then
      match ← attempt (runBlock fuel body) with
      | .ok () => runWhile fuel condition body
      | .error .wentOn => runWhile fuel condition body
      | .error .left => return false
      | .error signal => throw signal
    else return true
termination_by structural fuel => fuel

/-- Runs statements for each item of a row; whether they were not left. -/
def runEach : Nat → Span → Span → Expr → Value → Block → Run Bool
  | 0, _, _, _, _, _ => throw .spent
  | fuel + 1, here, targetSpan, target, row, body => do
    let ev : Evaluator := ⟨fun f given named => callValue fuel f given named, fun p => unfold fuel p⟩
    workOn here
    match ← next? ev row with
    | none => return true
    | some v => do
      assignTo fuel targetSpan target v
      match ← attempt (runBlock fuel body) with
      | .ok () => runEach fuel here targetSpan target row body
      | .error .wentOn => runEach fuel here targetSpan target row body
      | .error .left => return false
      | .error signal => throw signal
termination_by structural fuel => fuel

/-- Makes a kind. -/
def makeKind : Nat → String → List Value → Block → Run Unit
  | 0, _, _, _ => throw .spent
  | fuel + 1, name, bases, body => do
    let before ← get
    let here ← scopeAt before.scope
    let scope ← makeScope {
      around := some before.scope, isKind := true, path := here.path ++ name ++ "." }
    modify fun s => { s with scope, frame := name, depth := s.depth + 1 }
    assignName "__doc__" body.remark
    let r ← attempt (runBlock fuel body)
    restore before
    match r with
    | .error (.failed failure) => do
      passThrough failure before.frame before.span before.mark
      throw (.failed failure)
    | .error signal => throw signal
    | .ok () => do
      match ← make (.kind name bases scope) with
      | .thing place => do
        let names := (← scopeAt scope).names
        for (_, v) in names do own fuel place v
        assignName name (.thing place)
      | _ => return ()
termination_by structural fuel => fuel

/-- Makes functions belong to a kind. -/
def own : Nat → Nat → Value → Run Unit
  | 0, _, _ => return ()
  | fuel + 1, kind, v => do
    match v with
    | .thing place =>
      match (← get).things[place]? with
      | some (.function f) =>
        if f.owner.isNone then change place (.function { f with owner := some kind })
      | some (.plain (.known k) members) =>
        if ["property", "staticmethod", "classmethod", "functools.remembering"].contains k then
          for (_, w) in members do own fuel kind w
      | _ => return ()
    | _ => return ()
termination_by structural fuel => fuel

/-- Runs statements that may fail, what is done about that, and what is done in any case. -/
def runAttempt : Nat → Block → List (Option Expr × Option String × Block) → Block → Block → Run Unit
  | 0, _, _, _, _ => throw .spent
  | fuel + 1, body, handlers, otherwise, lastly => do
    let handled := (← get).handled
    let first ← attempt (runBlock fuel body)
    let second ← attempt (match first with
      | .ok () => runBlock fuel otherwise
      | .error (.failed failure) => do
        modify fun s => { s with handled := .thing failure :: handled }
        runHandlers fuel failure handlers
      | .error signal => throw signal)
    modify fun s => { s with handled }
    if !lastly.isEmpty then
      match second with
      | .error (.failed failure) => modify fun s => { s with handled := .thing failure :: handled }
      | _ => pure ()
      runBlock fuel lastly
      modify fun s => { s with handled }
    match second with
    | .ok () => return ()
    | .error signal => throw signal
termination_by structural fuel => fuel

/-- Does about a failure what the first handler that fits it says. -/
def runHandlers : Nat → Nat → List (Option Expr × Option String × Block) → Run Unit
  | 0, _, _ => throw .spent
  | fuel + 1, failure, handlers => do
    match handlers with
    | [] => throw (.failed failure)
    | (kind, name, body) :: rest => do
      let fits ← match kind with
        | none => pure true
        | some e => do
          let k ← eval fuel e
          workOn (← get).span.point
          isCaught failure 8 k
      if !fits then runHandlers fuel failure rest
      else
        match name with
        | none => runBlock fuel body
        | some name => do
          assignName name (.thing failure)
          let r ← attempt (runBlock fuel body)
          let place ← scopeFor (← get).scope name
          changeScope place fun s => { s with names := Members.drop s.names name }
          match r with
          | .ok () => return ()
          | .error signal => throw signal
termination_by structural fuel => fuel

/-- Runs statements while values are in use. -/
def runWithin : Nat → Span → List (Expr × Option Expr) → Block → Run Unit
  | 0, _, _, _ => throw .spent
  | fuel + 1, span, uses, body => do
    let ev : Evaluator := ⟨fun f given named => callValue fuel f given named, fun p => unfold fuel p⟩
    match uses with
    | [] => runBlock fuel body
    | (e, target) :: rest => do
      let v ← eval fuel e
      workOn span.point
      let w ← entered ev v
      let handled := (← get).handled
      let inner : Run Unit := do
        match target with
        | some t => assignTo fuel span t w
        | none => pure ()
        runWithin fuel span rest body
      match ← attempt inner with
      | .ok () => do
        workOn span.point
        let _ ← leftBehind ev v none
      | .error (.failed failure) => do
        modify fun s => { s with handled := .thing failure :: handled }
        let before ← get
        workOn span.point
        let isDealtWith ← leftBehind ev v (some failure)
        modify fun s => { s with handled, span := before.span, mark := before.mark }
        if !isDealtWith then throw (.failed failure)
      | .error signal => do
        let _ ← leftBehind ev v none
        throw signal
termination_by structural fuel => fuel

end

end Run

end FirmwareSurvey.ResultScript
