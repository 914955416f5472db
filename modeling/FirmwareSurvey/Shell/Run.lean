import FirmwareSurvey.Pattern.Basic
import FirmwareSurvey.Pattern.Reader
import FirmwareSurvey.Shell.Builtin
import FirmwareSurvey.Text.Search

/-!
# Running a script

A script runs line by line: a line is read when the ones before it have run, so that a flaw further
down does not keep them from running. Each command ends with a number, zero for success. A failure
ends the script on demand, unless somebody asks for it.

Commands run one after another, also those that hand on what they write and those that are not waited
for: what one writes is collected and read by the next one.
-/

namespace FirmwareSurvey.Shell

namespace Run

/-! ### Parts of a run -/

/-- The end of a part of a run, an interrupt included. -/
def attempt {α : Type} (x : Run α) : Run (Except Interrupt α) :=
  fun session => ExceptT.lift (x session).run

/-- Runs a part, and lets the channels lead where they led before. -/
def keepingChannels {α : Type} (x : Run α) : Run α := do
  let before := (← get).channels
  let r ← attempt x
  modify fun s => { s with channels := before }
  match r with
  | .ok a => return a
  | .error e => throw e

/-- Runs a part of which somebody asks how it ends. -/
def tested (x : Run Unit) : Run Unit := withReader (fun s => { s with isTested := true }) x

/-- Runs a part, and then what is to be done at its end. -/
def finished (perform : List Char → Run Unit) (x : Run Unit) : Run Unit := do
  let r ← attempt x
  let s ← get
  let status := match r with
    | .error (.exit n) => n
    | .error (.return n) => n
    | .error .discard => 1
    | _ => s.status
  match r, s.traps.lookup "EXIT" with
  | .error (.killed n), _ => throw (.killed n)
  | _, none => throw (.exit status)
  | _, some action => do
    modify fun s => { s with traps := s.traps.filter (·.1 != "EXIT"), status }
    perform action
    throw (.exit status)

/-- Runs a part that leaves nothing behind. -/
def aside (perform : List Char → Run Unit) (x : Run Unit) : Run Unit := do
  let outer ← get
  modify fun s => { s with traps := s.traps.filter (·.2.isEmpty), signals := [] }
  let r ← attempt (withReader (fun s => { s with isAside := true }) (finished perform x))
  modify (·.putBackAll outer)
  match r with
  | .error (.killed n) => throw (.killed n)
  | .error (.exit n) => ended n
  | _ => return ()

/-- Runs a part that leaves nothing behind, and collects what it writes. -/
def collecting (perform : List Char → Run Unit) (x : Run Unit) : Run (List Char) := do
  let n ← newBuffer
  keepingChannels do
    connect 1 (some (.collected n))
    aside perform x
  return Octets.ofBytes (← collected n)

/-- Ends the script if the last command failed, nobody asks for it, and that is wanted. -/
def checked (perform : List Char → Run Unit) : Run Unit := do
  let s ← get
  if s.status != 0 && !(← read).isTested then
    match s.traps.lookup "ERR" with
    | some action => do
      modify fun s => { s with traps := s.traps.filter (·.1 != "ERR") }
      perform action
      modify fun t => { t with traps := s.traps, status := s.status }
    | none => pure ()
    if s.has "errexit" then throw (.exit s.status)

/-- Deals with the signals that came in. -/
def deliver (perform : List Char → Run Unit) : Run Unit := do
  let s ← get
  if !s.signals.isEmpty then
    set { s with signals := [] }
    s.signals.forM fun name => do
      match s.traps.lookup name with
      | some action => do
        let status := (← get).status
        perform action
        ended status
      | none => return ()

/-! ### Redirections -/

variable (substitute : List Command → Run (List Char))

/-- The place that a device stands for. -/
def device? (file : List Char) : Run (Option (Option Outlet)) := do
  match String.ofList file with
  | "/dev/null" => return some (some .nowhere)
  | "/dev/stdin" => return some (← outlet? 0)
  | "/dev/stdout" => return some (← outlet? 1)
  | "/dev/stderr" => return some (← outlet? 2)
  | "/dev/tty" => return some (some .nowhere)
  | _ =>
    match Text.dropWord? "/dev/fd/".toList file with
    | some digits =>
      match Text.decimal? digits with
      | some n => return some (← outlet? n)
      | none => return none
    | none => return none

/-- The wording of why a file cannot be opened. -/
def openComplaint (dialect : Dialect) (toWrite : Bool) (file : List Char) (fault : Storage.Fault) :
    String :=
  let shown := Octets.toText file
  match dialect with
  | .extended => s!"{shown}: {fault.reason}"
  | .plain =>
    let isAway := fault = .notFound || fault = .notDirectory
    let reason := if !isAway then fault.reason
      else if toWrite then "Directory nonexistent" else "No such file"
    (if toWrite then "cannot create " else "cannot open ") ++ shown ++ ": " ++ reason

/-- Opens a file to write to it. -/
def openToWrite (file : List Char) (atEnd force : Bool) : Run (Except String Outlet) := do
  match ← device? file with
  | some (some o) => return .ok o
  | _ =>
    let s ← get
    let p := pathOf file
    let dialect := (← read).dialect
    if s.has "noclobber" && !atEnd && !force && s.storage.isFile p then
      return .error (match dialect with
        | .plain => openComplaint dialect true file .taken
        | .extended => s!"{Octets.toText file}: cannot overwrite existing file")
    else
      let opened := if atEnd then s.storage.appendBytes p .empty else s.storage.writeBytes p .empty
      match opened with
      | .error fault => return .error (openComplaint dialect true file fault)
      | .ok storage => do
        set { s with storage }
        match storage.resolve true p with
        | .ok (.node l _) => return .ok (.file ⟨"/" ++ "/".intercalate l⟩)
        | _ => return .ok (.file p)

/-- Opens a file to read it. -/
def openToRead (file : List Char) : Run (Except String Outlet) := do
  match ← device? file with
  | some (some o) => return .ok o
  | _ =>
    match (← get).storage.readBytes (pathOf file) with
    | .ok bytes => return .ok (← newStream (Octets.ofBytes bytes))
    | .error .isDirectory => return .ok (← newStream [])
    | .error fault => return .error (openComplaint (← read).dialect false file fault)

/-- Follows a redirection; the complaint when that is not possible. -/
def redirectOne (r : Redirection) : Run (Option String) := do
  let lead (channels : List Nat) (o : Except String Outlet) : Run (Option String) := do
    match o with
    | .ok o => do
      channels.forM fun channel => connect channel (some o)
      return none
    | .error complaint => return some complaint
  match r with
  | .write channel file atEnd force => do
    lead [channel] (← openToWrite (← textOf substitute file) atEnd force)
  | .writeBoth file atEnd => do
    lead [1, 2] (← openToWrite (← textOf substitute file) atEnd false)
  | .read channel file => do lead [channel] (← openToRead (← textOf substitute file))
  | .document channel text => do
    lead [channel] (.ok (← newStream (← textOf substitute text)))
  | .join channel onto => do
    let target ← textOf substitute onto
    if target = ['-'] then
      connect channel none
      return none
    else
      match (Text.decimal? target) with
      | some n =>
        match ← outlet? n with
        | some o => lead [channel] (.ok o)
        | none => return some s!"{n}: Bad file descriptor"
      | none => return some s!"{Octets.toText target}: ambiguous redirect"

/-- Follows redirections; false when one of them is not possible. -/
def redirect : List Redirection → Run Bool
  | [] => return true
  | r :: rs => do
    match ← redirectOne substitute r with
    | none => redirect rs
    | some complaint => do
      complain complaint
      return false

/-- How a command ends whose redirections are not possible. -/
def redirectionStatus : Run Nat := return if (← read).dialect = .plain then 2 else 1

/-! ### Assignments -/

/-- The items of a row that is given, from a place on. -/
def rowItems (isTable : Bool) : Nat → List (Option Word × Word) →
    Run (List (List Char × List Char))
  | _, [] => return []
  | _, (some index, w) :: rest => do
    let key ← textOf substitute index
    let text ← textOf substitute w
    let n ← if isTable then pure 0 else calculated key ""
    let more ← rowItems isTable (n.toNat + 1) rest
    return ((if isTable then key else wholeText n), text) :: more
  | place, (none, w) :: rest => do
    let texts ← expandBraced substitute w
    let keys := (List.range texts.length).map fun i => Text.decimalChars (place + i)
    let more ← rowItems isTable (place + texts.length) rest
    return keys.zip texts ++ more

/-- Makes an assignment; the text that was assigned. -/
def assign (a : Assignment) : Run (List Char) := do
  let .mk name index adds value := a
  let s ← get
  if s.isReadOnly name then breakOff (← readOnlyComplaint name)
  match value with
  | .row items => do
    let isTable := s.isTable name
    let old := if adds then ((s.value? name).map Value.items).getD [] else []
    let first := if adds then (old.getLast?.map fun i => i.1 + 1).getD 0 else 0
    let new ← rowItems substitute isTable first items
    if isTable then
      if !adds then modify (·.setValue name (.table []))
      new.forM fun (key, text) => modify (·.setKey name key text)
    else
      modify (·.setValue name (.row old))
      new.forM fun (key, text) => modify (·.setAt name ((signedNumber? key).getD 0) text)
    return []
  | .text w => do
    let text ← textOf substitute w
    match index with
    | none => do
      let _ ← giveValue name text adds
      return text
    | some i => do
      let key ← textOf substitute i
      if (← get).isTable name then
        let old := match (← get).value? name with
          | some (.table items) => (items.lookup key).getD []
          | _ => []
        modify (·.setKey name key (if adds then old ++ text else text))
      else
        let n ← calculated key ""
        let old := ((← get).item? name n).getD []
        modify (·.setAt name n (if adds then old ++ text else text))
      return text

/-- The name of an assignment. -/
def assignedName : Assignment → List Char
  | .mk name _ _ _ => name

/-! ### Programs -/

/-- The words of a signal that ended a program. -/
def signalText : Nat → String
  | 1 => "Hangup"
  | 3 => "Quit"
  | 6 => "Aborted"
  | 9 => "Killed"
  | 10 => "User defined signal 1"
  | 11 => "Segmentation fault"
  | 12 => "User defined signal 2"
  | 14 => "Alarm clock"
  | 15 => "Terminated"
  | _ => ""

/-- The path of a program: what lies in a directory where programs are looked for, or else its
name. -/
def programPath? (name : List Char) : Run (Option Path) := do
  if name.contains '/' then return some (pathOf name)
  else
    let s ← get
    let directories := Text.cut ':' ((s.text? "PATH".toList).getD "/usr/bin:/bin".toList)
    let candidates := directories.map fun d => (if d.isEmpty then ['.'] else d) ++ '/' :: name
    match candidates.find? fun c => s.storage.isFile (pathOf c) && mayStart s.storage c with
    | some c => return some (pathOf c)
    | none =>
      let usual := ["/bin", "/usr/bin", "/usr/local/bin"].map String.toList
      return if directories.any usual.contains then some (pathOf name) else none

/-- Starts a program and waits for its end. -/
def startProgram (behalf : String) (name : List Char) (arguments : List (List Char)) : Run Unit := do
  let session ← read
  let dialect := session.dialect
  let shown := behalf ++ Octets.toText name
  let input ← pending 0
  let begin (p : Path) (arguments : List String) :
      Run (Except Storage.Fault Completion) := do
    let s ← get
    let i : Invocation :=
      { program := p, arguments, input := Octets.toBytes input, environment := some s.environment }
    match session.start i s.storage with
    | .ok (c, storage) => do
      set { s with storage }
      return .ok c
    | .error fault => return .error fault
  let words := arguments.map Octets.toText
  let started ← match ← programPath? name with
    | none => pure (.error Storage.Fault.notFound)
    | some p => do
      match ← begin p words with
      | .error .badProgram =>
        begin ⟨if dialect = .plain then "sh" else "bash"⟩ (p.text :: words)
      | r => pure r
  match started with
  | .ok c => do
    match c.unread with
    | some left => leavePending 0 (Octets.ofBytes left)
    | none => pure ()
    write 1 c.output
    write 2 c.errors
    match c.status with
    | .exited code => ended code
    | .killed signal => do
      if dialect = .plain || signal = 15 then
        if signal != 13 && signal != 2 then write 2 (signalText signal ++ "\n").toUTF8
      ended (128 + signal)
  | .error fault => do
    let isAway := fault = .notFound || fault = .notDirectory
    match dialect with
    | .plain =>
      if isAway then
        complain s!"{shown}: not found"
        ended 127
      else
        complain s!"{shown}: Permission denied"
        ended 126
    | .extended =>
      if fault = .notFound && !name.contains '/' then
        complain (shown ++ (if behalf.isEmpty then ": command not found" else ": not found"))
        ended 127
      else
        let isDirectory := (← get).storage.isDirectory (pathOf name)
        let reason := if isDirectory then Storage.Fault.isDirectory.reason else fault.reason
        complain s!"{shown}: {reason}"
        ended (if fault = .notFound then 127 else 126)

/-! ### Conditions -/

/-- A regular expression in which quoted characters stand for themselves. -/
def expressionOf (m : Marked) : List Char :=
  m.flatMap fun (c, quoted) =>
    if quoted && !c.isAlphanum && c != '_' then ['\\', c] else [c]

/-- Whether a text has a piece that is as a regular expression says; remembers the pieces. -/
def findPattern (text : List Char) (m : Marked) : Run Nat := do
  match Pattern.withGroups? (expressionOf m) with
  | none => return 2
  | some p =>
    match p.find? text with
    | none => do
      modify (·.setValue "BASH_REMATCH".toList (.row []))
      return 1
    | some found => do
      let groups := (List.range p.groupCount).map fun i => (found.taken.lookup (i + 1)).getD []
      let items := found.piece :: groups
      modify (·.setValue "BASH_REMATCH".toList (.row ((List.range items.length).zip items)))
      return 0

/-- Whether a condition holds: zero if it does. -/
def conditionStatus : Nat → Condition → Run Nat
  | 0, _ => return 2
  | fuel + 1, c => do
    let truth (b : Bool) : Nat := if b then 0 else 1
    match c with
    | .word w => return truth (!(← textOf substitute w).isEmpty)
    | .not c => do
      match ← conditionStatus fuel c with
      | 0 => return 1
      | 1 => return 0
      | n => return n
    | .and c d => do
      match ← conditionStatus fuel c with
      | 0 => conditionStatus fuel d
      | n => return n
    | .or c d => do
      match ← conditionStatus fuel c with
      | 0 => return 0
      | _ => conditionStatus fuel d
    | .one question w => do
      let text ← textOf substitute w
      if isUnary .extended question then return truth (answerOne (← facts) question text)
      else return 2
    | .two question left right => do
      let a ← textOf substitute left
      let number (holds : Int → Int → Bool) : Run Nat := do
        let m ← calculated a "[[: "
        let n ← calculated (← textOf substitute right) "[[: "
        return truth (holds m n)
      match String.ofList question with
      | "=~" => findPattern a (← patternOf substitute right)
      | "=" => return truth (matchesPattern (← patternOf substitute right) a)
      | "==" => return truth (matchesPattern (← patternOf substitute right) a)
      | "!=" => return truth (!matchesPattern (← patternOf substitute right) a)
      | "-eq" => number (· == ·)
      | "-ne" => number (· != ·)
      | "-lt" => number fun m n => decide (m < n)
      | "-le" => number fun m n => decide (m ≤ n)
      | "-gt" => number fun m n => decide (n < m)
      | "-ge" => number fun m n => decide (n ≤ m)
      | _ =>
        match answerTwo (← facts) question a (← textOf substitute right) with
        | .ok b => return truth b
        | .error _ => return 2

/-- A calculation whose failure is a failure of its command alone. -/
def triedNumber (x : Run Int) : Run (Option Int) := do
  match ← attempt x with
  | .ok n => return some n
  | .error .discard => return none
  | .error e => throw e

/-! ### Leaving -/

/-- The number in the argument of a command that ends something. -/
def endNumber (command : String) (ws : List (List Char)) : Run Nat := do
  match ws with
  | [] => return (← get).status
  | w :: _ =>
    let dialect := (← read).dialect
    match decimal? w with
    | some n =>
      if dialect = .plain && (n < 0 || 0x7fffffff < n) then
        complainAs command.toList s!"Illegal number: {Octets.toText w}"
        throw (.exit 2)
      else return if dialect = .plain && command = "return" then n.toNat else (n % 256).toNat
    | none => do
      match dialect with
      | .plain => complainAs command.toList s!"Illegal number: {Octets.toText w}"
      | .extended => complainAs command.toList s!"{Octets.toText w}: numeric argument required"
      throw (if command = "return" && dialect = .extended then .return 2 else .exit 2)

/-- The number of loops in the argument of a command that leaves them. -/
def loopNumber (command : String) (ws : List (List Char)) : Run (Option Nat) := do
  let session ← read
  let within (n : Nat) : Run (Option Nat) := do
    if session.loops = 0 then
      if session.dialect = .extended then
        complainAs command.toList "only meaningful in a \x60for', \x60while', or \x60until' loop"
      ended 0
      return none
    else return some (min n session.loops)
  match ws with
  | [] => within 1
  | w :: _ =>
    match countOf? w with
    | some 0 => do
      match session.dialect with
      | .plain => do
        complainAs command.toList s!"Illegal number: {Octets.toText w}"
        throw (.exit 2)
      | .extended => do
        complainAs command.toList s!"{Octets.toText w}: loop count out of range"
        ended 1
        return none
    | some n => within n
    | none => do
      match session.dialect with
      | .plain => complainAs command.toList s!"Illegal number: {Octets.toText w}"
      | .extended => complainAs command.toList s!"{Octets.toText w}: numeric argument required"
      throw (.exit (if session.dialect = .plain then 2 else 128))

/-- Tells which command runs, if that is wanted. -/
def trace (assigned : List (List Char × List Char)) (ws : List (List Char)) : Run Unit := do
  let s ← get
  if s.has "xtrace" then
    let dialect := (← read).dialect
    let quote (cs : List Char) : List Char :=
      if dialect = .extended && needsQuotes cs then singleQuoted dialect cs else cs
    let pairs := assigned.map fun (name, text) =>
      name ++ '=' :: (if text.isEmpty then [] else quote text)
    let line (words : List (List Char)) : Run Unit := do
      if !words.isEmpty then
        let sign := (s.text? "PS4".toList).getD ['+', ' ']
        writeChars 2 (sign ++ Text.joinWith ' ' words ++ ['\n'])
    match dialect with
    | .plain => line (pairs ++ ws)
    | .extended => do
      pairs.forM fun p => line [p]
      line (ws.map quote)

/-! ### Commands -/

/-- Runs a part as the body of a loop; whether the loop goes on. -/
def inLoop (x : Run Unit) : Run Bool := do
  match ← attempt (withReader (fun s => { s with loops := s.loops + 1 }) x) with
  | .ok _ => return true
  | .error (.leave n) => do
    ended 0
    if n ≤ 1 then return false else throw (.leave (n - 1))
  | .error (.goOn n) => do
    ended 0
    if n ≤ 1 then return true else throw (.goOn (n - 1))
  | .error e => throw e

/-- What is wrong with a script whose first line has a number, in words. -/
def flawComplaint (source : List Char) (first : Nat) (flaw : Flaw) (line : Nat) : Run Unit := do
  let session ← read
  let name := Octets.toText session.name
  match session.dialect with
  | .plain => do
    let caller := match session.caller with
      | some c => Octets.toText c ++ ": "
      | none => ""
    let (text, line) := flaw.plainText line
    write 2 s!"{name}: {line}: {caller}{text}\n".toUTF8
  | .extended => do
    let place := match session.caller with
      | some c => s!"{name}: {Octets.toText c}: "
      | none => s!"{name}: "
    -- a text without an end of line at its end counts as if it had one
    let line := match flaw with
      | .unexpected .nothing _ => if source.getLast? = some '\n' then line else line + 1
      | _ => line
    let (text, line, shows) := flaw.extendedText line
    write 2 s!"{place}line {line}: {text}\n".toUTF8
    if shows then
      let shown := ((Text.cut '\n' source)[line - first]?).getD []
      write 2 s!"{place}line {line}: \x60{Octets.toText shown}'\n".toUTF8

mutual

/-- Runs commands one after another. -/
def commands : Nat → List Command → Run Unit
  | 0, _ => return ()
  | _ + 1, [] => return ()
  | fuel + 1, c :: cs => do
    command fuel c
    commands fuel cs
termination_by structural fuel => fuel

/-- What commands write. -/
def substituted : Nat → List Command → Run (List Char)
  | 0, _ => return []
  | fuel + 1, script => do
    let before := (← get).status
    let isExtended ← isExtended
    let text ← collecting (perform fuel) do
      if isExtended then setOption false "errexit"
      withReader (fun s => { s with isOneLine := s.isOneLine || isExtended }) (commands fuel script)
    let status := (← get).status
    modify fun s => { s with
      substituted := some status
      status := if isExtended then status else before }
    return text
termination_by structural fuel => fuel

/-- Runs a text as a script. -/
def perform : Nat → List Char → Run Unit
  | 0, _ => return ()
  | fuel + 1, text => do lines text 1 fuel ⟨text, 1, 0, (← read).dialect⟩
termination_by structural fuel => fuel

/-- Runs the lines of a text, whose first one has a number, from a cursor on. -/
def lines (source : List Char) (first : Nat) : Nat → Cursor → Run Unit
  | 0, _ => return ()
  | fuel + 1, c => do
    match Reader.nextLine.run c with
    | .ok (none, _) => return ()
    | .ok (some cs, next) => do
      match ← attempt (commands fuel cs) with
      | .ok _ => lines source first fuel next
      | .error .discard => do
        if (← get).status = 0 then ended 1
        if (← read).isAside then throw .discard else lines source first fuel next
      | .error e => throw e
    | .error (flaw, line) => do
      flawComplaint source first flaw line
      let isExtended ← isExtended
      let isSmall := match flaw with
        | .badUse _ => true
        | .badName _ => true
        | _ => false
      let status := if isExtended && isSmall then 1 else 2
      ended status
      if !(isExtended && (← read).caller.isSome) then throw (.exit status)
termination_by structural fuel => fuel

/-- Runs a command. -/
def command : Nat → Command → Run Unit
  | 0, _ => return ()
  | fuel + 1, c => do
    let isExtended ← isExtended
    let setLine (line : Nat) : Run Unit := do
      if line != 0 && !(← read).isOneLine then modify fun s => { s with line }
    let checked : Run Unit := checked (perform fuel)
    match c with
    | .simple line assigned ws redirections afterwards => do
      setLine line
      simple assigned ws redirections afterwards fuel
      modify fun s => { s with statuses := [s.status] }
      deliver (perform fuel)
      checked
    | .piped cs => do
      piped cs [] fuel
      checked
    | .both first second => do
      tested (command fuel first)
      if (← get).status = 0 then command fuel second
    | .either first second => do
      tested (command fuel first)
      if (← get).status != 0 then command fuel second
    | .negated inner => do
      tested (command fuel inner)
      ended (if (← get).status = 0 then 1 else 0)
    | .aside inner => do
      keepingChannels do
        connect 0 (some .nowhere)
        aside (perform fuel) (command fuel inner)
      modify fun s => { s with
        jobs := (State.processNumber + s.jobs.length + 1, s.status) :: s.jobs, status := 0 }
    | .choice branches otherwise => choice otherwise fuel branches
    | .selection line subject arms => do
      setLine line
      let text ← textOf (substituted fuel) subject
      ended 0
      select text false fuel arms
    | .each line name ws body => do
      setLine line
      let words ← ws.mapM (expandBraced (substituted fuel))
      ended 0
      each line name body fuel words.flatten
    | .loop isUntil condition body => repeated isUntil condition body 0 fuel
    | .counted line start test step body => do
      setLine line
      let value (w : Word) : Run (Option Int) :=
        triedNumber do calculated (← textOf (substituted fuel) w) "((: "
      ended 0
      match ← value start with
      | none => ended 1
      | some _ => counted value test step body fuel
    | .group body => commands fuel body
    | .subshell line body => do
      setLine line
      aside (perform fuel) (commands fuel body)
      checked
    | .function name body => do
      modify fun s =>
        { s with functions := (name, body) :: s.functions.filter (·.1 != name), status := 0 }
    | .redirected line inner redirections => do
      setLine line
      let isDone ← keepingChannels do
        if ← redirect (substituted fuel) redirections then
          command fuel inner
          return true
        else return false
      if !isDone then ended (← redirectionStatus)
    | .condition line c => do
      setLine line
      let status ← attempt (conditionStatus (substituted fuel) fuel c)
      match status with
      | .ok n => ended n
      | .error .discard => ended 1
      | .error e => throw e
      checked
    | .calculation line text => do
      setLine line
      match ← triedNumber do calculated (← textOf (substituted fuel) text) "((: " with
      | some n => ended (if n = 0 then 1 else 0)
      | none => ended 1
      if isExtended then checked
termination_by structural fuel => fuel

/-- Runs the first branch whose condition succeeds. -/
def choice (otherwise : List Command) : Nat → List (List Command × List Command) → Run Unit
  | 0, _ => return ()
  | fuel + 1, [] => do
    ended 0
    commands fuel otherwise
  | fuel + 1, (condition, body) :: rest => do
    tested (commands fuel condition)
    if (← get).status = 0 then commands fuel body
    else choice otherwise fuel rest
termination_by structural fuel => fuel

/-- Runs the first arm that has a pattern for a text, or the next one at once. -/
def select (text : List Char) (atOnce : Bool) :
    Nat → List (List Word × List Command × ArmEnd) → Run Unit
  | 0, _ => return ()
  | _ + 1, [] => return ()
  | fuel + 1, (patterns, body, armEnd) :: arms => do
    let isMatch ← if atOnce then pure true
      else patterns.anyM fun w => do
        return matchesPattern (← patternOf (substituted fuel) w) text
    if isMatch then
      commands fuel body
      match armEnd with
      | .leaves => return ()
      | .falls => select text true fuel arms
      | .goesOn => select text false fuel arms
    else select text false fuel arms
termination_by structural fuel => fuel

/-- Runs commands once for each of some words. -/
def each (line : Nat) (name : List Char) (body : List Command) : Nat → List (List Char) → Run Unit
  | 0, _ => return ()
  | _ + 1, [] => return ()
  | fuel + 1, w :: ws => do
    if ← assignText name w then
      if ← inLoop (commands fuel body) then each line name body fuel ws
    else
      let complaint ← readOnlyComplaint name
      if ← isExtended then
        complain complaint
        ended 1
      else breakOff complaint
termination_by structural fuel => fuel

/-- Runs commands while a condition succeeds, or until it does; `status` is how they ended last. -/
def repeated (isUntil : Bool) (condition body : List Command) (status : Nat) : Nat → Run Unit
  | 0 => return ()
  | fuel + 1 => do
    let isOver ← attempt (withReader (fun s => { s with loops := s.loops + 1 })
      (tested (commands fuel condition)))
    match isOver with
    | .ok _ => do
      if ((← get).status = 0) == !isUntil then
        if ← inLoop (commands fuel body) then
          repeated isUntil condition body (← get).status fuel
      else ended status
    | .error (.leave n) => do
      ended 0
      if 1 < n then throw (.leave (n - 1))
    | .error (.goOn n) => do
      ended 0
      if n ≤ 1 then repeated isUntil condition body 0 fuel else throw (.goOn (n - 1))
    | .error e => throw e
termination_by structural fuel => fuel

/-- Runs commands while a calculation is not zero. -/
def counted (value : Word → Run (Option Int)) (test step : Word) (body : List Command) :
    Nat → Run Unit
  | 0 => return ()
  | fuel + 1 => do
    let isBlankTest := ((writtenChars? test).map (·.all isBlank)).getD test.isEmpty
    match ← if isBlankTest then pure (some 1) else value test with
    | none => ended 1
    | some 0 => return ()
    | some _ => do
      if ← inLoop (commands fuel body) then
        match ← value step with
        | some _ => counted value test step body fuel
        | none => ended 1
termination_by structural fuel => fuel

/-- Runs commands each of which reads what the one before it writes. -/
def piped : List Command → List Nat → Nat → Run Unit
  | _, _, 0 => return ()
  | cs, statuses, fuel + 1 => do
    match cs with
    | [] => do
      let all := statuses.reverse
      modify fun s => { s with statuses := all }
      if (← get).has "pipefail" then
        ended ((statuses.find? (· != 0)).getD 0)
    | [last] => do
      aside (perform fuel) (command fuel last)
      piped [] ((← get).status :: statuses) fuel
    | c :: cs => do
      let text ← collecting (perform fuel) (command fuel c)
      let status := (← get).status
      keepingChannels do
        connect 0 (some (← newStream text))
        piped cs (status :: statuses) fuel
termination_by structural _ _ fuel => fuel

/-- Runs a program or a command with its arguments. -/
def simple (assigned : List Assignment) (ws : List Word) (redirections : List Redirection)
    (afterwards : List Assignment) : Nat → Run Unit
  | 0 => return ()
  | fuel + 1 => do
    modify fun s => { s with substituted := none }
    let words ← expandWords (substituted fuel) ws
    let assignAll : Run (List (List Char × List Char)) :=
      assigned.mapM fun a => do return (assignedName a, ← assign (substituted fuel) a)
    let assignMost : Run (List (List Char × List Char)) := do
      let given ← assigned.mapM fun a => do
        match ← attempt (assign (substituted fuel) a) with
        | .ok text => return [(assignedName a, text)]
        | .error .discard => return []
        | .error e => throw e
      return given.flatten
    match words with
    | [] => do
      let isOpen ← keepingChannels do
        let isOpen ← redirect (substituted fuel) redirections
        return isOpen
      if isOpen then
        let given ← assignAll
        trace given []
        ended ((← get).substituted.getD 0)
      else ended (← redirectionStatus)
    | name :: arguments => do
      let session ← read
      let isSpecial := session.dialect = .plain && specialCommands.contains (String.ofList name)
      let run : Run Unit := do
        if isSpecial then
          let given ← assignAll
          trace given words
          call name arguments false fuel
        else
          let outer ← get
          let given ← assignMost
          if !assigned.isEmpty then
            assigned.forM fun a =>
              modify (·.modifyName (assignedName a) fun v => { v with isExported := true })
          trace given words
          let r ← attempt (call name arguments false fuel)
          assigned.forM fun a =>
            modify (·.putBack (assignedName a) (outer.known? (assignedName a)))
          match r with
          | .ok _ => return ()
          | .error e => throw e
        afterwards.forM fun a => do let _ ← assign (substituted fuel) a
      let isPersistent := name = "exec".toList && arguments.isEmpty
      let isOpen ← if isPersistent then redirect (substituted fuel) redirections
        else keepingChannels do
          if ← redirect (substituted fuel) redirections then
            run
            return true
          else return false
      if isPersistent && isOpen then
        let _ ← assignAll
        ended 0
      else if !isOpen then
        ended (← redirectionStatus)
        if isSpecial then
          throw (.exit (← redirectionStatus))
termination_by structural fuel => fuel

/-- Runs a command of a name; functions may be passed over. -/
def call (name : List Char) (ws : List (List Char)) (passesFunctions : Bool) : Nat → Run Unit
  | 0 => return ()
  | fuel + 1 => do
    let s ← get
    let session ← read
    let dialect := session.dialect
    let isSpecial := dialect = .plain && specialCommands.contains (String.ofList name)
    match s.functions.lookup name with
    | some body =>
      if isSpecial || passesFunctions then own name ws fuel else invoke body ws fuel
    | none => own name ws fuel
termination_by structural fuel => fuel

/-- Runs a function. -/
def invoke (body : Command) (ws : List (List Char)) : Nat → Run Unit
  | 0 => return ()
  | fuel + 1 => do
    let outer ← get
    set { outer with arguments := ws, hidden := [] :: outer.hidden }
    let r ← attempt (withReader (fun s =>
      { s with loops := 0, calls := s.calls + 1, isInFunction := true, isOneLine := false })
      (command fuel body))
    modify fun s =>
      let s := ((s.hidden.head?.getD []).foldl (fun s p => s.putBack p.1 p.2) s)
      { s with hidden := outer.hidden, arguments := outer.arguments }
    match r with
    | .ok _ => return ()
    | .error (.return n) => ended n
    | .error e => throw e
termination_by structural fuel => fuel

/-- Runs a command of the script itself, or a program. -/
def own (name : List Char) (ws : List (List Char)) : Nat → Run Unit
  | 0 => return ()
  | fuel + 1 => do
    let session ← read
    let dialect := session.dialect
    let text := String.ofList name
    if !isOwnCommand dialect name then startProgram "" name ws
    else
      match text with
      | "exit" => throw (.exit (← endNumber text ws))
      | "return" =>
        if session.calls = 0 && dialect = .extended then
          complainAs name "can only \x60return' from a function or sourced script"
          ended 2
        else
          let n ← endNumber text ws
          throw (if session.calls = 0 then .exit n else .return n)
      | "break" =>
        match ← loopNumber text ws with
        | some n => throw (.leave n)
        | none => return ()
      | "continue" =>
        match ← loopNumber text ws with
        | some n => throw (.goOn n)
        | none => return ()
      | "eval" => do
        let line := (← get).line
        let source := Text.joinWith ' ' (if ws.head? = some ['-', '-'] then ws.drop 1 else ws)
        ended 0
        let start := if dialect = .extended then line else 1
        withReader (fun s => { s with caller := some name })
          (lines source start fuel ⟨source, start, 0, dialect⟩)
        modify fun s => { s with line }
      | "exec" =>
        match ws with
        | [] => ended 0
        | program :: arguments => do
          startProgram "exec: " program arguments
          let status := (← get).status
          if status != 126 && status != 127 then modify fun s => { s with traps := [] }
          throw (.exit status)
      | "." => sourced name ws fuel
      | "source" => sourced name ws fuel
      | "builtin" =>
        match ws with
        | [] => ended 0
        | name :: rest => own name rest fuel
      | "command" =>
        match ws with
        | [] => ended 0
        | ['-', 'v'] :: names => ended (← tell "command" true (if dialect = .plain then names.take 1 else names))
        | ['-', 'V'] :: names => ended (← tell "command" false (if dialect = .plain then names.take 1 else names))
        | ['-', 'p'] :: name :: rest => call name rest true fuel
        | ['-', '-'] :: name :: rest => call name rest true fuel
        | name :: rest => call name rest true fuel
      | _ =>
        match own? name ws with
        | some x => do
          match ← attempt x with
          | .ok n => ended n
          | .error .discard => if text = "let" then ended 1 else throw .discard
          | .error e => throw e
        | none => ended 0
termination_by structural fuel => fuel

/-- Runs the text of a file as part of the script. -/
def sourced (name : List Char) (ws : List (List Char)) : Nat → Run Unit
  | 0 => return ()
  | fuel + 1 => do
    let session ← read
    let dialect := session.dialect
    let fails (text : String) : Run Unit := do
      match dialect with
      | .plain => do
        complainAs name text
        throw (.exit 2)
      | .extended => do
        complain text
        ended 1
    match ws with
    | [] => fails "filename argument required"
    | file :: arguments => do
      let s ← get
      let shown := Octets.toText file
      let directories := Text.cut ':' ((s.text? "PATH".toList).getD [])
      let found :=
        if file.contains '/' then some file
        else
          let inPath := (directories.map fun d => d ++ '/' :: file).find? fun c =>
            s.storage.isFile (pathOf c)
          match inPath, dialect with
          | some c, _ => some c
          | none, .extended => some file
          | none, .plain => none
      match found with
      | none => fails s!"{shown}: not found"
      | some path =>
        match s.storage.readBytes (pathOf path) with
        | .error fault =>
          match dialect with
          | .plain => fails (openComplaint dialect false file fault)
          | .extended =>
            if fault = .isDirectory then do
              complainAs name s!"{shown}: is a directory"
              ended 1
            else fails s!"{shown}: {fault.reason}"
        | .ok bytes => do
          let source := Octets.ofBytes bytes
          let gives := dialect = .extended && !arguments.isEmpty
          let outer := s.arguments
          if gives then modify fun s => { s with arguments }
          ended 0
          let around (s : Session) : Session :=
            { s with
              calls := s.calls + 1, loops := 0
              caller := if dialect = .plain then some path else s.caller
              name := if dialect = .extended then path else s.name }
          let line := s.line
          let r ← attempt (withReader around (lines source 1 fuel ⟨source, 1, 0, dialect⟩))
          modify fun s => { s with line }
          if gives then modify fun s => { s with arguments := outer }
          match r with
          | .ok _ => return ()
          | .error (.return n) => ended n
          | .error e => throw e
termination_by structural fuel => fuel

end

end Run

/-- How a script is run. -/
structure Setup where
  /-- The arguments. -/
  arguments : List (List Char) := []
  /-- The names that it is given, with their values. -/
  environment : List (String × String) := []
  /-- The options that are set. -/
  options : List String := []
  /-- What can be read. -/
  input : ByteArray := .empty

/-- How many commands a script runs, at most. -/
def commandLimit : Nat := 1000000

/-- The names that a script knows from the start. -/
def startingNames (session : Session) (setup : Setup) (storage : Storage) :
    List (List Char × Variable) :=
  let given := setup.environment.map fun (name, text) =>
    (Octets.ofText name, { value := some (.text (Octets.ofText text)), isExported := true : Variable })
  let own (name : String) (v : Value) : List Char × Variable := (name.toList, { value := some v })
  let here := '/' :: Text.joinWith '/' (storage.current.map Octets.ofText)
  let usual := [own "IFS" (.text [' ', '\t', '\n']), own "OPTIND" (.text ['1']),
    own "PS4" (.text ['+', ' ']), own "PPID" (.text ['1'])]
  let extended := if session.dialect = .extended then
    [own "BASH_SOURCE" (.row [(0, session.name)]), own "BASH" (.text "/usr/bin/bash".toList),
      own "UID" (.text ['0']), own "EUID" (.text ['0']), own "SECONDS" (.text ['0']),
      own "BASH_VERSION" (.text "5.2.21(1)-release".toList)] else []
  let here := if given.any (·.1 = "PWD".toList) then [] else [own "PWD" (.text here)]
  given.filter (fun g => g.1 != "IFS".toList && g.1 != "OPTIND".toList) ++ usual ++ extended ++ here

/-- Runs a script on storage. -/
def run (session : Session) (setup : Setup) (script : List Char) (storage : Storage) :
    Completion × Storage :=
  let start : State :=
    { storage, arguments := setup.arguments, options := setup.options
      names := startingNames session setup storage
      isExtended := session.dialect = .extended
      channels := [(0, .stream 0), (1, .collected 0), (2, .collected 1)]
      buffers := #[[], []], streams := #[Octets.ofBytes setup.input] }
  let perform := Run.perform commandLimit
  let (r, s) := (Run.finished perform (perform script) session).run.run start
  let status : Status := match r with
    | .error (.exit n) => .exited (n % 256)
    | .error (.killed signal) => .killed signal
    | _ => .exited (s.status % 256)
  let text (n : Nat) : ByteArray := ((s.buffers[n]?.getD []).reverse).foldl (· ++ ·) .empty
  ({ output := text 0, errors := text 1, status
     unread := some (Octets.toBytes (s.streams[0]?.getD [])) },
    { s.storage with current := storage.current })

end FirmwareSurvey.Shell
