import FirmwareSurvey.Host.Basic
import FirmwareSurvey.Members
import FirmwareSurvey.ResultScript.Encoding
import FirmwareSurvey.ResultScript.Module
import FirmwareSurvey.ResultScript.Syntax

/-!
# The state of a running script

Some values are themselves: numbers, texts, tuples. Others, such as lists and tables, are things with
a place of their own; what changes one of them changes it for all who know its place. Names live in
scopes, which lie within each other.

A run goes on until it comes to its end or is interrupted: by the end of a function or of a loop, or
by a failure, which is a thing too. A failure remembers where it came from: the function and the span
in each call that it passed through.
-/

namespace FirmwareSurvey.ResultScript

/-- A value. -/
inductive Value where
  /-- Nothing. -/
  | nothing
  /-- A truth value. -/
  | truth (b : Bool)
  /-- A whole number. -/
  | number (n : Int)
  /-- A number with a fractional part. -/
  | real (x : Binary64)
  /-- A text. -/
  | text (cs : List Char)
  /-- Bytes. -/
  | octets (bytes : List UInt8)
  /-- Three dots. -/
  | dots
  /-- The answer of an operation that is not there. -/
  | noAnswer
  /-- A row that never changes. -/
  | tuple (items : List Value)
  /-- Numbers from a first one on, up to a last one that does not belong to them. -/
  | range (start stop step : Int)
  /-- A range of places. -/
  | slice (start stop step : Value)
  /-- What is known by a name from the start: a kind, a function or a module. -/
  | known (name : String)
  /-- What a value can do by itself. -/
  | ability (owner : Value) (name : String)
  /-- A function that belongs to a value. -/
  | bound (function owner : Value)
  /-- A part of the members of a table: their keys, their values, or both. -/
  | view (table : Nat) (part : String)
  /-- The thing at a place. -/
  | thing (place : Nat)
deriving Inhabited

namespace Value

/-- A text. -/
def ofString (s : String) : Value := .text s.toList

/-- A natural number. -/
def ofNat (n : Nat) : Value := .number n

end Value

/-- A function. -/
structure Function where
  /-- Its name. -/
  name : String
  /-- Its parameters with what they are when nothing else is said. -/
  parameters : List (String × Taking × Option Value)
  /-- What it does. -/
  body : Block
  /-- The scope around it. -/
  around : Nat
  /-- The names that it gives values to. -/
  own : List String
  /-- Whether it hands out values. -/
  hands : Bool
  /-- The kind that it belongs to. -/
  owner : Option Nat := none
  /-- Its name with those of the functions and kinds around it. -/
  path : String := name
  /-- The names that belong to the outermost scope. -/
  globals : List String := []
  /-- The names that belong to a scope around. -/
  outer : List String := []

/-- Where a row that is gone through once takes its items from. -/
inductive Supply where
  /-- The items that are left. -/
  | items (rest : List Value)
  /-- Numbers: the next one, how many are left, and the distance between them. -/
  | numbers (next : Int) (count : Nat) (step : Int)
  /-- The items of a list from a place on. -/
  | places (list : Nat) (next : Nat)
  /-- The lines of a file. -/
  | lines (file : Nat)
  /-- The keys of a table of a size. -/
  | keys (table size : Nat) (part : String) (rest : List Value)
  /-- Numbers without an end. -/
  | counting (next step : Value)
  /-- Items without an end, those left of this turn first. -/
  | cycling (rest all : List Value)
  /-- What a function makes of the items of others. -/
  | mapped (f : Value) (sources : List Value)
  /-- The items that a function accepts. -/
  | kept (f : Value) (source : Value)
  /-- Items with their numbers. -/
  | numbered (next : Int) (source : Value)
  /-- Items of others side by side; whether these have to be equally long. -/
  | together (sources : List Value) (strict : Bool)
  /-- What a function gives until it gives a value. -/
  | until (f last : Value)
  /-- The values that statements will hand out; the scope and the name they run under. -/
  | pending (scope : Nat) (name : String) (body : Block)
  /-- The items that are left before a failure. -/
  | failing (rest : List Value) (failure : Nat)

/-- An open file. -/
structure File where
  /-- Its path. -/
  path : List Char
  /-- How it was opened. -/
  mode : List Char
  /-- What it holds. -/
  contents : ByteArray
  /-- The next place in it. -/
  place : Nat := 0
  /-- Whether it can be read. -/
  canRead : Bool := true
  /-- Whether it can be written to. -/
  canWrite : Bool := false
  /-- Whether all is written to its end. -/
  atEnd : Bool := false
  /-- Whether it holds bytes. -/
  isOctets : Bool := false
  /-- Whether it lies in storage. -/
  isStored : Bool := true
  /-- Whether it is open. -/
  isOpen : Bool := true
  /-- How its characters are written as bytes. -/
  encoding : Encoding := .utf8
  /-- What is done about bytes that are no text. -/
  errors : String := "strict"
  /-- The channel that it stands for. -/
  channel : Option Nat := none

/-- A thing. -/
inductive Thing where
  /-- A list. -/
  | list (items : Array Value)
  /-- A row with two ends; the most that it holds. -/
  | deque (items : Array Value) (most : Option Nat)
  /-- A table; its kind, and what makes a member that is missing. -/
  | table (kind : String) (maker : Value) (members : List (Value × Value))
  /-- A set; whether it never changes. -/
  | set (isFixed : Bool) (items : List Value)
  /-- A row that is gone through once; its kind. -/
  | row (kind : String) (supply : Supply)
  /-- A function. -/
  | function (f : Function)
  /-- A file. -/
  | file (f : File)
  /-- A kind: its name, those it is a special case of, and the scope with its members. -/
  | kind (name : String) (bases : List Value) (scope : Nat)
  /-- Anything else: its kind and its members. -/
  | plain (kind : Value) (members : Members Value)

/-- A scope. -/
structure Scope where
  /-- The values of names. -/
  names : Members Value := []
  /-- The scope around it. -/
  around : Option Nat := none
  /-- The names that get their values here. -/
  own : List String := []
  /-- The names that belong to the outermost scope. -/
  globals : List String := []
  /-- The names that belong to a scope around. -/
  outer : List String := []
  /-- Whether names given to values inside expressions belong to the scope around. -/
  isGathering : Bool := false
  /-- Whether it is that of a kind, whose functions do not see its names. -/
  isKind : Bool := false
  /-- What stands before the names of functions and kinds in it. -/
  path : String := ""
  /-- The function that runs in it, if it belongs to a kind: the kind and the first argument. -/
  owner : Option (Nat × Value) := none

/-- A call that a failure passed through. -/
inductive Passage where
  /-- One of the script: the name of the function, the span, and the part of it that is marked. -/
  | own (frame : String) (span : Span) (mark : Option Span)
  /-- One inside of what is there from the start: how it is told. -/
  | inner (lines : List String)

/-- What stays the same while a script runs. -/
structure Session where
  /-- The name of the script. -/
  name : List Char
  /-- The lines of the script. -/
  lines : Array (List Char)
  /-- The arguments, the name of the script first. -/
  arguments : List (List Char)
  /-- The names that programs are given, with their values. -/
  environment : List (String × String)
  /-- Starts a program. -/
  start : Invocation → Storage → Except Storage.Fault (Completion × Storage)

/-- What changes while a script runs. -/
structure State where
  /-- The storage. -/
  storage : Storage
  /-- What is written, the last part first. -/
  output : List ByteArray := []
  /-- What is written about errors, the last part first. -/
  errors : List ByteArray := []
  /-- The things by their places. -/
  things : Array Thing := #[]
  /-- The scopes by their places; the first one is the outermost. -/
  scopes : Array Scope := #[{}]
  /-- The scope that names are looked up in. -/
  scope : Nat := 0
  /-- The name of the function that runs. -/
  frame : String := "<module>"
  /-- What is worked on. -/
  span : Span := {}
  /-- The part of it that is marked when it fails. -/
  mark : Option Span := none
  /-- How many calls lie around. -/
  depth : Nat := 0
  /-- Where failures came from, by their places. -/
  traces : List (Nat × List Passage) := []
  /-- The failures that are dealt with, the last one first. -/
  handled : List Value := []
  /-- What is handed out, the last one first. -/
  handed : List Value := []
  /-- The most that is still handed out. -/
  handedRoom : Nat := 0
  /-- The names of modules that are in use, with the names of their members that were changed. -/
  replaced : Members Value := []

/-- Why a part of a run ends before its end. -/
inductive Signal where
  /-- The function ends. -/
  | returned (v : Value)
  /-- The loop ends. -/
  | left
  /-- The loop goes on. -/
  | wentOn
  /-- Something failed. -/
  | failed (failure : Nat)
  /-- Enough was handed out. -/
  | handedEnough
  /-- The run takes too long. -/
  | spent

/-- A part of a run. -/
abbrev Run (α : Type) := ReaderT Session (ExceptT Signal (StateM State)) α

/-- What the parts of a script need to run others. -/
structure Evaluator where
  /-- Calls a value with arguments, of which some have names. -/
  call : Value → List Value → Members Value → Run Value
  /-- Makes the values of a row that are still to be handed out. -/
  unfold : Nat → Run Unit

namespace Run

/-! ### Things -/

/-- Makes a thing. -/
def make (t : Thing) : Run Value :=
  modifyGet fun s => (.thing s.things.size, { s with things := s.things.push t })

/-- Makes a list. -/
def makeList (items : List Value) : Run Value := make (.list items.toArray)

/-- Makes a list of texts. -/
def makeTexts (texts : List (List Char)) : Run Value := makeList (texts.map .text)

/-- Makes a row that is gone through once. -/
def makeRow (kind : String) (items : List Value) : Run Value := make (.row kind (.items items))

/-- Makes a table. -/
def makeTable (members : List (Value × Value)) : Run Value :=
  make (.table "dict" .nothing members)

/-- The thing that a value stands for. -/
def thing? : Value → Run (Option Thing)
  | .thing place => return (← get).things[place]?
  | _ => return none

/-- Changes a thing. -/
def change (place : Nat) (t : Thing) : Run Unit :=
  modify fun s => { s with things := s.things.setIfInBounds place t }

/-! ### Kinds -/

/-- The kind of a value. -/
def kindOf (v : Value) : Run Value := do
  match v with
  | .nothing => return .known "NoneType"
  | .truth _ => return .known "bool"
  | .number _ => return .known "int"
  | .real _ => return .known "float"
  | .text _ => return .known "str"
  | .octets _ => return .known "bytes"
  | .dots => return .known "ellipsis"
  | .noAnswer => return .known "NotImplementedType"
  | .tuple _ => return .known "tuple"
  | .range _ _ _ => return .known "range"
  | .slice _ _ _ => return .known "slice"
  | .known name =>
    return .known (if isKindName name then "type" else "builtin_function_or_method")
  | .ability _ _ => return .known "builtin_function_or_method"
  | .bound _ _ => return .known "method"
  | .view _ part => return .known ("dict_" ++ part)
  | .thing place =>
    match (← get).things[place]? with
    | some (.list _) => return .known "list"
    | some (.deque _ _) => return .known "collections.deque"
    | some (.table kind _ _) => return .known kind
    | some (.set isFixed _) => return .known (if isFixed then "frozenset" else "set")
    | some (.row kind _) => return .known kind
    | some (.function _) => return .known "function"
    | some (.file f) =>
      return .known (if !f.isStored && f.channel.isNone then
          (if f.isOctets then "_io.BytesIO" else "_io.StringIO")
        else if !f.isOctets then "_io.TextIOWrapper"
        else if f.canRead then "_io.BufferedReader" else "_io.BufferedWriter")
    | some (.kind _ _ _) => return .known "type"
    | some (.plain kind _) => return kind
    | none => return .known "object"

/-- The name of a kind, without its module. -/
def nameOfKind (kind : Value) : Run String := do
  match kind with
  | .known name => return bareKindName name
  | kind =>
    match ← thing? kind with
    | some (.kind name _ _) => return name
    | _ => return "object"

/-- The name of the kind of a value. -/
def kindName (v : Value) : Run String := do nameOfKind (← kindOf v)

/-- A kind and those that it is a special case of, the nearest first. -/
def ancestry : Nat → Value → Run (List Value)
  | 0, _ => return []
  | fuel + 1, kind => do
    match kind with
    | .known name => return (kindsAbove name).map .known
    | .thing place =>
      match (← get).things[place]? with
      | some (.kind _ bases _) => do
        let above ← bases.mapM (ancestry fuel)
        -- what several have above them comes behind all of these
        let joined := above.foldr (fun l rest =>
          l.filter (fun v => !rest.any (sameKind v)) ++ rest) []
        return kind :: (if bases.isEmpty then [.known "object"] else joined)
      | _ => return [kind]
    | _ => return [kind]
where
  /-- Whether two kinds are the same. -/
  sameKind : Value → Value → Bool
    | .known a, .known b => a == b
    | .thing a, .thing b => a == b
    | _, _ => false

/-- The kinds of a value, the nearest first. -/
def kindsOf (v : Value) : Run (List Value) := do ancestry 24 (← kindOf v)

/-- Whether a kind is a special case of another one, or that one itself. -/
def isUnder (kind above : Value) : Run Bool := do
  return (← ancestry 24 kind).any (ancestry.sameKind above)

/-- Whether a value is of a kind. -/
def isOfKind (v : Value) (kind : String) : Run Bool := do isUnder (← kindOf v) (.known kind)

/-- The member of a kind in the scopes of its ancestry. -/
def memberAmong? (name : String) : List Value → Run (Option Value)
  | [] => return none
  | kind :: above => do
    match ← thing? kind with
    | some (.kind _ _ scope) =>
      match ((← get).scopes[scope]?).bind fun s => Members.get? s.names name with
      | some v => return some v
      | none => memberAmong? name above
    | _ => memberAmong? name above

/-- What the kind of a value does under a name of its own. -/
def special? (v : Value) (name : String) : Run (Option Value) := do
  match v with
  | .thing place =>
    match (← get).things[place]? with
    | some (.plain (.thing kind) _) => memberAmong? name (← ancestry 24 (.thing kind))
    | _ => return none
  | _ => return none

/-! ### Failures -/

/-- Makes a failure of a kind. -/
def makeFailure (kind : String) (arguments : List Value) (more : Members Value := []) : Run Value :=
  make (.plain (.known kind) (("args", .tuple arguments) :: more))

/-- Notes that a failure passes through a function. -/
def passThrough (failure : Nat) (frame : String) (span : Span) (mark : Option Span) : Run Unit :=
  modify fun s =>
    let passages := ((s.traces.lookup failure).getD [])
    { s with traces :=
        (failure, .own frame span mark :: passages) :: s.traces.filter (·.1 != failure) }

/-- Notes that a failure comes out of what is there from the start. -/
def comesFrom (failure : Nat) (inner : List (List String)) : Run Unit :=
  modify fun s =>
    { s with traces := s.traces.map fun t =>
        if t.1 = failure then (t.1, t.2 ++ inner.map .inner) else t }

/-- Sets a member of a plain thing. -/
def setMember (place : Nat) (name : String) (v : Value) : Run Unit := do
  match (← get).things[place]? with
  | some (.plain kind members) => change place (.plain kind (Members.put members name v))
  | _ => return ()

/-- Fails with a value that is a failure. -/
def raise {α : Type} (failure : Value) : Run α := do
  match failure with
  | .thing place => do
    let s ← get
    match s.handled.head? with
    | some (.thing before) =>
      if before != place then setMember place "__context__" (.thing before)
    | _ => pure ()
    passThrough place s.frame s.span s.mark
    throw (.failed place)
  | _ => throw .spent

/-- Fails for a reason. -/
def fail {α : Type} (kind reason : String) : Run α := do
  raise (← makeFailure kind [.ofString reason])

/-- Fails because of a wrong kind of value. -/
def misfit {α : Type} (reason : String) : Run α := fail "TypeError" reason

/-- Fails because of a wrong value. -/
def unfit {α : Type} (reason : String) : Run α := fail "ValueError" reason

/-- Fails because of storage. -/
def failStorage {α : Type} (fault : Storage.Fault) (path : Value) : Run α := do
  let number : Int := (fault.number?.getD 22 : Nat)
  let reason := Value.ofString fault.reason
  raise (← makeFailure (systemFailureKind number) [.number number, reason]
    [("errno", .number number), ("strerror", reason), ("filename", path)])

/-- The result of storage at a path, or its failure. -/
def stored {α : Type} (path : Value) (r : Except Storage.Fault α) : Run α :=
  match r with
  | .ok a => return a
  | .error fault => failStorage fault path

/-- The end of a part of a run, a signal included. -/
def attempt {α : Type} (x : Run α) : Run (Except Signal α) :=
  fun session => ExceptT.lift (x session).run

/-- Runs a part that is there from the start; its failures come from inside of it. -/
def inside {α : Type} (inner : List (List String)) (x : Run α) : Run α := do
  match ← attempt x with
  | .ok a => return a
  | .error (.failed failure) => do
    comesFrom failure inner
    throw (.failed failure)
  | .error signal => throw signal

/-- Notes what is worked on, and which part of it is marked. -/
def workOn (span : Span) (mark : Option Span := none) : Run Unit :=
  modify fun s => { s with span, mark }

/-! ### Channels -/

/-- Writes bytes to the output or to the errors. -/
def writeBytes (channel : Nat) (bytes : ByteArray) : Run Unit :=
  modify fun s =>
    if channel = 2 then { s with errors := bytes :: s.errors }
    else { s with output := bytes :: s.output }

/-- Writes a text to the output or to the errors. -/
def write (channel : Nat) (cs : List Char) : Run Unit :=
  writeBytes channel (String.ofList cs).toUTF8

end Run

end FirmwareSurvey.ResultScript
