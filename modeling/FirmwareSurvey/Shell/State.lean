import FirmwareSurvey.Host.Basic
import FirmwareSurvey.Shell.Calculation
import FirmwareSurvey.Shell.Condition
import FirmwareSurvey.Shell.Reader

/-!
# The state of a run

While a script runs, names have values, and channels, which are numbered, lead somewhere: to a text
that is read, to what is collected, to a file, or nowhere. A channel that is given to another one
leads to the same place as before, so that what one reads the other does not read again.

A part of a script that leaves nothing behind still changes storage, reads and writes; everything
else of the state is put back behind it.
-/

namespace FirmwareSurvey.Shell

/-- What a name stands for. -/
inductive Value where
  /-- A text. -/
  | text (cs : List Char)
  /-- A row of texts at places, in order. -/
  | row (items : List (Nat × List Char))
  /-- Texts under keys. -/
  | table (items : List (List Char × List Char))

/-- What is known about a name. -/
structure Variable where
  /-- Its value; it may be known without one. -/
  value : Option Value := none
  /-- Whether programs are given it. -/
  isExported : Bool := false
  /-- Whether it keeps its value for good. -/
  isReadOnly : Bool := false
  /-- Whether its values are worked out. -/
  isNumber : Bool := false

/-- Where a channel leads. -/
inductive Outlet where
  /-- To a text that is read. -/
  | stream (n : Nat)
  /-- To what is collected. -/
  | collected (n : Nat)
  /-- To the end of a file. -/
  | file (path : Path)
  /-- Nowhere. -/
  | nowhere

/-- What stays the same while a part of a script runs. -/
structure Session where
  /-- The manner of the script. -/
  dialect : Dialect
  /-- The name of the script. -/
  name : List Char
  /-- Starts a program. -/
  start : Invocation → Storage → Except Storage.Fault (Completion × Storage)
  /-- Where the installed program of a name lies. -/
  installedAt? : String → Option String
  /-- Whether somebody asks how the part ends, so that its failure ends nothing else. -/
  isTested : Bool := false
  /-- The command on whose behalf the part runs. -/
  caller : Option (List Char) := none
  /-- How many loops there are around it. -/
  loops : Nat := 0
  /-- How many functions and other scripts there are around it. -/
  calls : Nat := 0
  /-- Whether there is a function around it. -/
  isInFunction : Bool := false
  /-- Whether it leaves nothing behind. -/
  isAside : Bool := false
  /-- Whether all of it counts as standing in one line. -/
  isOneLine : Bool := false

/-- What changes while a script runs. -/
structure State where
  /-- The storage. -/
  storage : Storage
  /-- Whether the script is in the extended manner. -/
  isExtended : Bool := false
  /-- The arguments. -/
  arguments : List (List Char) := []
  /-- The names that are known. -/
  names : List (List Char × Variable) := []
  /-- The commands that were given names. -/
  functions : List (List Char × Command) := []
  /-- Where the channels lead. -/
  channels : List (Nat × Outlet) := []
  /-- What is collected, the last part first. -/
  buffers : Array (List ByteArray) := #[]
  /-- What is left of the texts that are read. -/
  streams : Array (List Char) := #[]
  /-- The options that are set. -/
  options : List String := []
  /-- How the last command ended. -/
  status : Nat := 0
  /-- How the commands of the last row ended. -/
  statuses : List Nat := []
  /-- What is done when the script ends, or on a signal. -/
  traps : List (String × List Char) := []
  /-- What functions put back when they end. -/
  hidden : List (List (List Char × Option Variable)) := []
  /-- The line that runs. -/
  line : Nat := 1
  /-- How the commands ended that were not waited for. -/
  jobs : List (Nat × Nat) := []
  /-- How the last commands ended whose output was wanted. -/
  substituted : Option Nat := none
  /-- How many letters of an option were taken, and what was said about the place then. -/
  lettersTaken : Nat × List Char := (0, [])
  /-- The signals that came in and are not dealt with yet. -/
  signals : List String := []

/-- Why a part of a run ends before its end. -/
inductive Interrupt where
  /-- The script ends. -/
  | exit (status : Nat)
  /-- A signal ends it. -/
  | killed (signal : Nat)
  /-- So many loops end. -/
  | leave (loops : Nat)
  /-- So many loops but one end, and the last one goes on. -/
  | goOn (loops : Nat)
  /-- The function or the other script ends. -/
  | return (status : Nat)
  /-- The line ends. -/
  | discard
deriving DecidableEq

/-- A part of a run. -/
abbrev Run (α : Type) := ReaderT Session (ExceptT Interrupt (StateM State)) α

/-! ### Names -/

/-- The items of a row with one of them replaced or added. -/
def setItem (place : Nat) (cs : List Char) : List (Nat × List Char) → List (Nat × List Char)
  | [] => [(place, cs)]
  | (n, old) :: items =>
    if n = place then (place, cs) :: items
    else if place < n then (place, cs) :: (n, old) :: items
    else (n, old) :: setItem place cs items

/-- The items of a value under their places. -/
def Value.items : Value → List (Nat × List Char)
  | .text cs => [(0, cs)]
  | .row items => items
  | .table _ => []

/-- The texts of a value in order. -/
def Value.texts : Value → List (List Char)
  | .text cs => [cs]
  | .row items => items.map (·.2)
  | .table items => items.map (·.2)

/-- The places or keys of a value in order. -/
def Value.keys : Value → List (List Char)
  | .text _ => [['0']]
  | .row items => items.map fun i => Text.decimalChars i.1
  | .table items => items.map (·.1)

/-- The one text that a value stands for by itself. -/
def Value.text? : Value → Option (List Char)
  | .text cs => some cs
  | .row items => items.lookup 0
  | .table items => items.lookup ['0']

/-- The place in a row of so many places; a negative one counts from behind. -/
def place? (items : List (Nat × List Char)) (n : Int) : Option Nat :=
  if 0 ≤ n then some n.toNat
  else
    let size : Nat := (items.getLast?.map fun i => i.1 + 1).getD 0
    if 0 ≤ (size : Int) + n then some ((size : Int) + n).toNat else none

namespace State

/-- What is known about a name. -/
def known? (s : State) (name : List Char) : Option Variable := s.names.lookup name

/-- The value of a name. -/
def value? (s : State) (name : List Char) : Option Value :=
  match (s.known? name).bind (·.value) with
  | some v => some v
  | none =>
    if !s.isExtended then none
    else if name = "LINENO".toList then some (.text (Text.decimalChars s.line))
    else if name = "PIPESTATUS".toList then
      some (.row ((List.range s.statuses.length).zip (s.statuses.map Text.decimalChars)))
    else none

/-- The text of a name. -/
def text? (s : State) (name : List Char) : Option (List Char) :=
  (s.value? name).bind Value.text?

/-- The text at a place in a row. -/
def item? (s : State) (name : List Char) (n : Int) : Option (List Char) :=
  (s.value? name).bind fun v => (place? v.items n).bind fun p => v.items.lookup p

/-- Changes what is known about a name. -/
def modifyName (s : State) (name : List Char) (f : Variable → Variable) : State :=
  if s.names.any (·.1 = name) then
    { s with names := s.names.map fun p => if p.1 = name then (name, f p.2) else p }
  else { s with names := s.names ++ [(name, f {})] }

/-- Whether an option is set. -/
def has (s : State) (option : String) : Bool := s.options.contains option

/-- Gives a name a value. -/
def setValue (s : State) (name : List Char) (v : Value) : State :=
  s.modifyName name fun x =>
    { x with value := some v, isExported := x.isExported || s.has "allexport" }

/-- Gives a name a text; in a row it takes the first place. -/
def setText (s : State) (name cs : List Char) : State :=
  match s.value? name with
  | some (.row items) => s.setValue name (.row (setItem 0 cs items))
  | some (.table items) => s.setValue name (.table ((['0'], cs) :: items.filter (·.1 != ['0'])))
  | _ => s.setValue name (.text cs)

/-- Gives a place in a row a text. -/
def setAt (s : State) (name : List Char) (n : Int) (cs : List Char) : State :=
  let items := ((s.value? name).map Value.items).getD []
  match place? items n with
  | some place => s.setValue name (.row (setItem place cs items))
  | none => s

/-- Gives a key in a table a text. -/
def setKey (s : State) (name key cs : List Char) : State :=
  match s.value? name with
  | some (.table items) =>
    if items.any (·.1 = key) then
      s.setValue name (.table (items.map fun i => if i.1 = key then (key, cs) else i))
    else s.setValue name (.table (items ++ [(key, cs)]))
  | _ => s.setValue name (.table [(key, cs)])

/-- Whether a name stands for a table. -/
def isTable (s : State) (name : List Char) : Bool :=
  match s.value? name with
  | some (.table _) => true
  | _ => false

/-- Forgets a name. -/
def forget (s : State) (name : List Char) : State :=
  { s with names := s.names.filter (·.1 != name) }

/-- Puts back what was known about a name. -/
def putBack (s : State) (name : List Char) (v : Option Variable) : State :=
  match v with
  | some v => s.modifyName name fun _ => v
  | none => s.forget name

/-- Whether a name keeps its value for good. -/
def isReadOnly (s : State) (name : List Char) : Bool :=
  ((s.known? name).map (·.isReadOnly)).getD false

/-- The names that programs are given, with their values. -/
def environment (s : State) : List (String × String) :=
  s.names.filterMap fun (name, v) =>
    if v.isExported then
      (v.value.bind Value.text?).map fun cs => (Octets.toText name, Octets.toText cs)
    else none

/-- How names are looked up and given values in a calculation. -/
def calcNames : Names State where
  value s name place :=
    match place with
    | some n => s.item? name n
    | none =>
      if name.all Char.isDigit then s.arguments[(Text.digitsValue? 10 0 name).getD 0 - 1]?
      else s.text? name
  assign s name place cs :=
    match place with
    | some n => s.setAt name n cs
    | none => s.setText name cs
  strict s := s.has "nounset"

/-- What separates words. -/
def separators (s : State) : List Char := (s.text? "IFS".toList).getD [' ', '\t', '\n']

/-- The number by which a script knows itself. -/
def processNumber : Nat := 4242

/-- Puts back all that a part of a script may not leave behind. -/
def putBackAll (inner outer : State) : State :=
  { outer with
    storage := { inner.storage with current := outer.storage.current }
    buffers := inner.buffers
    streams := inner.streams
    status := inner.status
    statuses := inner.statuses }

end State

namespace Run

/-- Sets how the last command ended. -/
def ended (status : Nat) : Run Unit := modify fun s => { s with status }

/-- Whether the script is in the extended manner. -/
def isExtended : Run Bool := return (← read).dialect = .extended

/-! ### Channels -/

/-- Where a channel leads. -/
def outlet? (channel : Nat) : Run (Option Outlet) := return (← get).channels.lookup channel

/-- Writes to a place; false when that is not possible. -/
def writeTo (o : Option Outlet) (bytes : ByteArray) : Run Bool := do
  match o with
  | none => return false
  | some .nowhere => return true
  | some (.stream _) => return false
  | some (.collected n) => do
    modify fun s => { s with buffers := s.buffers.modify n (bytes :: ·) }
    return true
  | some (.file p) => do
    let s ← get
    if s.storage.isFile p then
      match s.storage.appendBytes p bytes with
      | .ok storage => set { s with storage }
      | .error _ => pure ()
    return true

/-- Writes to a channel. -/
def write (channel : Nat) (bytes : ByteArray) : Run Unit := do
  let _ ← writeTo (← outlet? channel) bytes

/-- Writes characters to a channel. -/
def writeChars (channel : Nat) (cs : List Char) : Run Unit := write channel (Octets.toBytes cs)

/-- What can be read from a channel. -/
def pending (channel : Nat) : Run (List Char) := do
  match ← outlet? channel with
  | some (.stream n) => return (← get).streams[n]?.getD []
  | _ => return []

/-- Sets what is left to read from a channel. -/
def leavePending (channel : Nat) (cs : List Char) : Run Unit := do
  match ← outlet? channel with
  | some (.stream n) => modify fun s => { s with streams := s.streams.modify n fun _ => cs }
  | _ => return ()

/-- Lets a channel lead to a place, or nowhere at all. -/
def connect (channel : Nat) (o : Option Outlet) : Run Unit :=
  modify fun s =>
    let others := s.channels.filter (·.1 != channel)
    { s with channels := match o with
      | some o => (channel, o) :: others
      | none => others }

/-- A new text to read. -/
def newStream (cs : List Char) : Run Outlet :=
  modifyGet fun s => (.stream s.streams.size, { s with streams := s.streams.push cs })

/-- A new place to collect. -/
def newBuffer : Run Nat :=
  modifyGet fun s => (s.buffers.size, { s with buffers := s.buffers.push [] })

/-- What was collected at a place. -/
def collected (n : Nat) : Run ByteArray := do
  let parts := ((← get).buffers[n]?.getD []).reverse
  return parts.foldl (· ++ ·) .empty

/-! ### Complaints -/

/-- What stands before a complaint. -/
def complaintPlace : Run String := do
  let session ← read
  let name := Octets.toText session.name
  let line := (← get).line
  return match session.dialect with
    | .plain => s!"{name}: {line}: "
    | .extended => s!"{name}: line {line}: "

/-- Complains. -/
def complain (text : String) : Run Unit := do
  let session ← read
  let caller := match session.dialect, session.caller with
    | .plain, some c => Octets.toText c ++ ": "
    | _, _ => ""
  write 2 ((← complaintPlace) ++ caller ++ text ++ "\n").toUTF8

/-- Complains on behalf of a command. -/
def complainAs (command : List Char) (text : String) : Run Unit := do
  write 2 ((← complaintPlace) ++ Octets.toText command ++ ": " ++ text ++ "\n").toUTF8

/-- Ends the part of a script that a flaw ends: the script in the plain manner, the line in the
extended one. -/
def breakOff {α : Type} (text : String) : Run α := do
  complain text
  match (← read).dialect with
  | .plain => throw (.exit 2)
  | .extended => do
    ended 1
    throw .discard

/-- Gives a name a text, unless it keeps its value for good; false then. -/
def assignText (name cs : List Char) : Run Bool := do
  if (← get).isReadOnly name then return false
  else
    modify (·.setText name cs)
    return true

/-- The wording of why a name is given nothing. -/
def readOnlyComplaint (name : List Char) : Run String := do
  return match (← read).dialect with
    | .plain => s!"{Octets.toText name}: is read only"
    | .extended => s!"{Octets.toText name}: readonly variable"

/-- The number of a calculation. -/
def calculated (cs : List Char) (prefixText : String) : Run Int := do
  let dialect := (← read).dialect
  match calculate State.calcNames dialect cs (← get) with
  | .ok (n, s) => do
    set s
    return n
  | .error e => do
    match e, dialect with
    | .unset _, .extended => do
      complain (prefixText ++ e.text dialect cs)
      throw (.exit 1)
    | _, _ => breakOff (prefixText ++ e.text dialect cs)

end Run

end FirmwareSurvey.Shell
