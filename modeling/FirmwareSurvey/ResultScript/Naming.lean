import FirmwareSurvey.ResultScript.Ability
import FirmwareSurvey.ResultScript.Module
import FirmwareSurvey.ResultScript.State

/-!
# Suggestions for names

When a name is not there, one that is may have been meant: the nearest one, if it is near enough. How
far two names are apart is counted by the changes that lead from one to the other, where a change of
case counts half.
-/

namespace FirmwareSurvey.ResultScript

/-- How much it counts to put one character for another. -/
def changeCost (a b : Char) : Nat :=
  if a = b then 0 else if a.toLower = b.toLower then 1 else 2

/-- The next row of the distances between a name and the beginnings of another one. -/
def distanceRow (c : Char) (diagonal left : Nat) : List Char → List Nat → List Nat
  | d :: ds, up :: ups =>
    let here := min (diagonal + changeCost c d) (min up left + 2)
    here :: distanceRow c up here ds ups
  | _, _ => []

/-- How far two names are apart. -/
def distance (a b : List Char) : Nat :=
  let start := (List.range (b.length + 1)).map (2 * ·)
  let rows := a.foldl (fun (row : List Nat) c =>
    match row with
    | [] => []
    | first :: rest => (first + 2) :: distanceRow c first (first + 2) b rest) start
  rows.getLast?.getD 0

/-- The nearest name that is near enough, with its distance. -/
def nearest (wrong : List Char) (best : Option (String × Nat)) : List String → Option (String × Nat)
  | [] => best
  | name :: names =>
    let most := min ((name.length + wrong.length + 3) * 2 / 6)
      (((best.map (·.2)).getD wrong.length) - 1)
    let d := distance wrong name.toList
    if name.toList = wrong || most < d then nearest wrong best names
    else nearest wrong (some (name, d)) names

/-- The name that may have been meant. -/
def suggestion? (wrong : String) (names : List String) : Option String :=
  if 750 < names.length || 40 < wrong.length then none
  else (nearest wrong.toList none names).map (·.1)

end FirmwareSurvey.ResultScript

/-!
## Names and scopes

A function owns every name that it gives a value to, unless it says that the name belongs to a scope
around it. A name means the value in the nearest scope that has one; a name that a function owns means
nothing else there, not even before it has a value.
-/

namespace FirmwareSurvey.ResultScript

/-! ### The names that statements give values to -/

/-- The names that a target stands for. -/
def targetNames : Nat → Expr → List String
  | 0, _ => []
  | fuel + 1, e =>
    match e with
    | .name _ name => [name]
    | .tuple items => items.flatMap (targetNames fuel)
    | .list items => items.flatMap (targetNames fuel)
    | .spread e => targetNames fuel e
    | _ => []

/-- The expressions that an expression is made of and that belong to the same scope. -/
def Expr.parts : Expr → List Expr
  | .joined _ parts => parts.filterMap fun p => match p with
    | .value _ e _ _ => some e
    | .text _ => none
  | .list items => items
  | .tuple items => items
  | .set _ items => items
  | .table _ members => members.flatMap fun m => m.1.toList ++ [m.2]
  | .spread e => [e]
  | .unary _ _ e => [e]
  | .binary _ _ _ l r => [l, r]
  | .compare _ first rest => first :: rest.map (·.2)
  | .both l r => [l, r]
  | .either l r => [l, r]
  | .not e => [e]
  | .choice condition yes no => [condition, yes, no]
  | .call _ f arguments => f :: arguments.map fun a => match a with
    | .plain e => e
    | .named _ e => e
    | .spread e => e
    | .spreadNamed e => e
  | .item _ _ e place => [e, place]
  | .slice start stop step => start.toList ++ stop.toList ++ step.toList
  | .member _ e _ => [e]
  | .gather _ _ first second clauses => first :: second.toList ++ clauses.map fun c => match c with
    | .each _ _ source => source
    | .when condition => condition
  | .named _ e => [e]
  | .hands e => e.toList
  | _ => []

/-- The names that are given values inside of an expression. -/
def namedInside : Nat → Expr → List String
  | 0, _ => []
  | fuel + 1, e =>
    let own := match e with
      | .named name _ => [name]
      | _ => []
    own ++ e.parts.flatMap (namedInside fuel)

/-- The names that statements give values to. -/
def namesGiven : Nat → Block → List String
  | 0, _ => []
  | fuel + 1, block =>
    let inside (e : Expr) : List String := namedInside fuel e
    let targets (e : Expr) : List String := targetNames fuel e ++ inside e
    let optional (e : Option Expr) : List String := e.toList.flatMap inside
    block.flatMap fun (_, s) =>
      match s with
      | .eval e => inside e
      | .assign ts v => ts.flatMap (fun t => targets t.2) ++ inside v
      | .change _ t _ v => targets t ++ inside v
      | .branch c yes no => inside c ++ namesGiven fuel yes ++ namesGiven fuel no
      | .loop c body after => inside c ++ namesGiven fuel body ++ namesGiven fuel after
      | .each _ t source body after =>
        targets t ++ inside source ++ namesGiven fuel body ++ namesGiven fuel after
      | .function name _ _ _ => [name]
      | .kind name _ _ => [name]
      | .return e => optional e
      | .use names => names.map (·.2)
      | .useFrom _ names => names.map (·.2)
      | .attempt body handlers after lastly =>
        namesGiven fuel body ++
          handlers.flatMap (fun h => h.2.1.toList ++ namesGiven fuel h.2.2) ++
          namesGiven fuel after ++ namesGiven fuel lastly
      | .fail e cause => optional e ++ optional cause
      | .within uses body =>
        uses.flatMap (fun u => inside u.1 ++ u.2.toList.flatMap targets) ++ namesGiven fuel body
      | .delete ts => ts.flatMap fun t => targets t.2
      | .claim _ c message => inside c ++ optional message
      | _ => []

/-- The names that statements say to belong to a scope around: the outermost one, or another one. -/
def namesOutside (isGlobal : Bool) : Nat → Block → List String
  | 0, _ => []
  | fuel + 1, block => block.flatMap fun (_, s) =>
    match s with
    | .outer g names => if g == isGlobal then names else []
    | .branch _ yes no => namesOutside isGlobal fuel yes ++ namesOutside isGlobal fuel no
    | .loop _ body after => namesOutside isGlobal fuel body ++ namesOutside isGlobal fuel after
    | .each _ _ _ body after => namesOutside isGlobal fuel body ++ namesOutside isGlobal fuel after
    | .attempt body handlers after lastly =>
      namesOutside isGlobal fuel body ++
        handlers.flatMap (fun h => namesOutside isGlobal fuel h.2.2) ++
        namesOutside isGlobal fuel after ++ namesOutside isGlobal fuel lastly
    | .within _ body => namesOutside isGlobal fuel body
    | _ => []

/-- How deep statements and expressions are looked into for names. -/
def namingLimit : Nat := 1000

namespace Run

/-! ### Scopes -/

/-- The scope at a place. -/
def scopeAt (place : Nat) : Run Scope := return ((← get).scopes[place]?).getD {}

/-- Changes a scope. -/
def changeScope (place : Nat) (f : Scope → Scope) : Run Unit :=
  modify fun s => { s with scopes := s.scopes.modify place f }

/-- Makes a scope. -/
def makeScope (x : Scope) : Run Nat :=
  modifyGet fun s => (s.scopes.size, { s with scopes := s.scopes.push x })

/-- The nearest scope, from one on outwards, that functions in it see. -/
def seenFrom : Nat → Nat → Run Nat
  | 0, place => return place
  | fuel + 1, place => do
    let s ← scopeAt place
    match s.isKind, s.around with
    | true, some around => seenFrom fuel around
    | _, _ => return place

/-- Whether a scope is that of a function. -/
def isOfFunction (s : Scope) : Bool := s.around.isSome && !s.isKind

/-- The nearest scope around one that owns a name. -/
def ownerOf? (name : String) : Nat → Option Nat → Run (Option Nat)
  | 0, _ => return none
  | _ + 1, none => return none
  | fuel + 1, some place => do
    let s ← scopeAt place
    if isOfFunction s && s.own.contains name && !s.outer.contains name then return some place
    else ownerOf? name fuel s.around

/-- The nearest scope, from one on outwards, in which names that are given inside of expressions get
their values. -/
def givingFrom : Nat → Nat → Run Nat
  | 0, place => return place
  | fuel + 1, place => do
    let s ← scopeAt place
    match s.isGathering, s.around with
    | true, some around => givingFrom fuel around
    | _, _ => return place

/-- How deep scopes lie in each other. -/
def scopeLimit : Nat := 1000

/-- The scope that a name gets its value in. -/
def scopeFor (place : Nat) (name : String) : Run Nat := do
  let s ← scopeAt place
  if s.globals.contains name then return 0
  else if s.outer.contains name then return (← ownerOf? name scopeLimit s.around).getD place
  else return place

/-- Gives a value to a name. -/
def assignName (name : String) (v : Value) : Run Unit := do
  let place ← scopeFor (← get).scope name
  changeScope place fun s => { s with names := Members.put s.names name v }

/-- Gives a value to a name inside of an expression. -/
def assignInside (name : String) (v : Value) : Run Unit := do
  let place ← scopeFor (← givingFrom scopeLimit (← get).scope) name
  changeScope place fun s => { s with names := Members.put s.names name v }

/-! ### Looking up -/

/-- The names of a scope and of the outermost one that have values. -/
def namesSeen : Run (List (List String)) := do
  let own ← scopeAt (← get).scope
  let outermost ← scopeAt 0
  return [own.names.map (·.1), outermost.names.map (·.1), namesEverywhere]

/-- What may have been meant by a name that nothing is known by. -/
def namingHint (name : String) : Run String := do
  match (← namesSeen).findSome? (suggestion? name) with
  | some other =>
    return s!". Did you mean: '{other}'?" ++
      if isModule name then s!" Or did you forget to import '{name}'?" else ""
  | none => return if isModule name then s!". Did you forget to import '{name}'?" else ""

/-- Fails because a name has no value. -/
def failName {α : Type} (kind text name : String) : Run α := do
  let hint ← namingHint name
  raise (← makeFailure kind [.ofString text]
    [("name", .ofString name), ("__hint__", .ofString hint)])

/-- Fails because a name has no value in the function that owns it. -/
def failOwnName {α : Type} (name : String) : Run α :=
  failName "UnboundLocalError"
    s!"cannot access local variable '{name}' where it is not associated with a value" name

/-- The value of a name in a scope or those around it; `isInner` tells whether the function that runs
owns the names of the scope. -/
def valueFrom (name : String) : Nat → Bool → Nat → Run (Option Value)
  | 0, _, _ => return none
  | fuel + 1, isInner, place => do
    let s ← scopeAt place
    if s.globals.contains name then return Members.get? (← scopeAt 0).names name
    else
      match Members.get? s.names name with
      | some v => return some v
      | none =>
        if isOfFunction s && s.own.contains name && !s.outer.contains name then
          if isInner then failOwnName name
          else
            failName "NameError" (s!"cannot access free variable '{name}' where it is not " ++
              "associated with a value in enclosing scope") name
        else
          match s.around with
          | some around => valueFrom name fuel (isInner && s.isGathering) around
          | none => return none

/-- The value of a name. -/
def valueOf (name : String) : Run Value := do
  match ← valueFrom name scopeLimit true (← get).scope with
  | some v => return v
  | none =>
    match knownEverywhere? name, name with
    | some known, _ => return .known known
    | none, "Ellipsis" => return .dots
    | none, "NotImplemented" => return .noAnswer
    | none, name => failName "NameError" s!"name '{name}' is not defined" name

/-- Takes the value of a name away. -/
def deleteName (name : String) : Run Unit := do
  let place ← scopeFor (← get).scope name
  let s ← scopeAt place
  if (Members.get? s.names name).isSome then
    changeScope place fun s => { s with names := Members.drop s.names name }
  else if isOfFunction s then failOwnName name
  else failName "NameError" s!"name '{name}' is not defined" name

end Run

end FirmwareSurvey.ResultScript

/-!
## Arguments and parameters

A function that is called gives each of its parameters a value. Arguments without names go to the
parameters in their order, those with names to the parameters of these names; what is left over goes
to parameters that take it, and a parameter that is left without a value has its own one.
-/

namespace FirmwareSurvey.ResultScript

/-- Names in quotes, with commas and a last word between them. -/
def quotedNames : List String → String
  | [] => ""
  | [a] => s!"'{a}'"
  | [a, b] => s!"'{a}' and '{b}'"
  | names =>
    let quoted := names.map fun n => s!"'{n}'"
    ", ".intercalate quoted.dropLast ++ ", and " ++ quoted.getLastD ""

/-- The ending of a word for so many. -/
def pluralEnding (n : Nat) : String := if n = 1 then "" else "s"

namespace Run

/-- Fails because parameters are left without values. -/
def failMissing {α : Type} (path manner : String) (names : List String) : Run α :=
  misfit (s!"{path}() missing {names.length} required {manner} argument" ++
    s!"{pluralEnding names.length}: {quotedNames names}")

/-- Fails because there are more arguments than parameters that take them. -/
def failSurplus {α : Type} (path : String) (parameters : List (String × Taking × Option Value))
    (count : Nat) (named : Members Value) : Run α :=
  let plain := parameters.filter fun p => p.2.1 = .plain
  let least := (plain.filter fun p => p.2.2.isNone).length
  let most := plain.length
  let takes := if least = most then s!"{most} positional argument{pluralEnding most}"
    else s!"from {least} to {most} positional arguments"
  let byName := (parameters.filter fun p => p.2.1 = .byName && Members.has named p.1).length
  let were := if count = 1 && byName = 0 then "was" else "were"
  let given := if byName = 0 then s!"{count}"
    else
      let some := s!"{count} positional argument{pluralEnding count}"
      s!"{some} (and {byName} keyword-only argument{pluralEnding byName})"
  misfit s!"{path}() takes {takes} but {given} {were} given"

/-- The values of the parameters of a function that is called with arguments. -/
def bind (f : Function) (given : List Value) (named : Members Value) : Run (Members Value) := do
  let plain := f.parameters.filter fun p => p.2.1 = .plain
  let takes (p : String × Taking × Option Value) : Bool := p.2.1 = .plain || p.2.1 = .byName
  let placed : Members Value := (plain.map (·.1)).zip given
  let (known, other) := named.partition fun m => f.parameters.any fun p => takes p && p.1 == m.1
  let others? := f.parameters.find? fun p => p.2.1 = .others
  let otherNames? := f.parameters.find? fun p => p.2.1 = .otherNames
  -- names are looked at first, then places, then what is missing
  let firstWrong := named.find? fun m =>
    if known.any (·.1 == m.1) then Members.has placed m.1 else otherNames?.isNone
  if let some (name, _) := firstWrong then
    if known.any (·.1 == name) then
      misfit s!"{f.path}() got multiple values for argument '{name}'"
    else misfit s!"{f.path}() got an unexpected keyword argument '{name}'"
  let surplus := given.drop plain.length
  if others?.isNone && !surplus.isEmpty then
    failSurplus f.path f.parameters given.length named
  let valueOf? (p : String × Taking × Option Value) : Option Value :=
    (Members.get? placed p.1).orElse fun _ => (Members.get? known p.1).orElse fun _ => p.2.2
  let missing (taking : Taking) := (f.parameters.filter fun p =>
    p.2.1 = taking && (valueOf? p).isNone).map (·.1)
  if !(missing .plain).isEmpty then failMissing f.path "positional" (missing .plain)
  if !(missing .byName).isEmpty then failMissing f.path "keyword-only" (missing .byName)
  let values := (f.parameters.filter takes).filterMap fun p => (valueOf? p).map fun v => (p.1, v)
  let others := match others? with
    | some p => [(p.1, Value.tuple surplus)]
    | none => []
  let otherNames ← match otherNames? with
    | some p => do
      let table ← makeTable (namedMembers other)
      pure [(p.1, table)]
    | none => pure []
  return values ++ others ++ otherNames

end Run

end FirmwareSurvey.ResultScript
