import FirmwareSurvey.Shell.Expand
import FirmwareSurvey.Shell.Print
import FirmwareSurvey.Text.Numeral

/-!
# Signals

A signal has a number and a name. The end of a script counts as a signal of number zero, so that a
script can say what is done then.
-/

namespace FirmwareSurvey.Shell

/-- The names of the signals, from zero on. -/
def signalNames : List String :=
  ["EXIT", "HUP", "INT", "QUIT", "ILL", "TRAP", "ABRT", "BUS", "FPE", "KILL", "USR1", "SEGV", "USR2",
    "PIPE", "ALRM", "TERM", "STKFLT", "CHLD", "CONT", "STOP", "TSTP", "TTIN", "TTOU", "URG", "XCPU",
    "XFSZ", "VTALRM", "PROF", "WINCH", "IO", "PWR", "SYS"]

/-- The name of a signal that is given by its number or its name. -/
def signalNamed? (cs : List Char) : Option String :=
  match Text.decimal? cs with
  | some n => signalNames[n]?
  | none =>
    let upper := String.ofList (cs.map Char.toUpper)
    signalNames.find? fun name => name == upper || "SIG" ++ name == upper

/-- The number of a signal. -/
def signalNumber (name : String) : Nat := (signalNames.findIdx? (· == name)).getD 0

/-- The signals that do nothing to a program that does not care about them. -/
def harmlessSignals : List String := ["CHLD", "CONT", "URG", "WINCH", "STOP", "TSTP", "TTIN", "TTOU"]

end FirmwareSurvey.Shell

/-!
## The commands of the script itself

A few commands are the script's own: they look at and change its state. Each one ends with a number;
zero stands for success. Some of them are special in the plain manner: when one of these goes wrong,
the script ends.
-/

namespace FirmwareSurvey.Shell

/-- The commands of the script itself that end it when they go wrong, in the plain manner. -/
def specialCommands : List String :=
  [".", ":", "break", "continue", "eval", "exec", "exit", "export", "readonly", "return", "set",
    "shift", "times", "trap", "unset"]

/-- The commands of the script itself in both manners. -/
def sharedCommands : List String :=
  specialCommands ++ ["[", "alias", "bg", "cd", "command", "echo", "false", "fg", "getopts", "hash",
    "jobs", "kill", "local", "printf", "pwd", "read", "test", "true", "type", "ulimit", "umask",
    "unalias", "wait"]

/-- The commands of the script itself in the extended manner alone. -/
def extendedCommands : List String :=
  ["builtin", "declare", "let", "mapfile", "readarray", "shopt", "source", "typeset", "enable",
    "help", "history", "disown", "suspend", "pushd", "popd", "dirs", "caller", "compgen", "complete",
    "bind", "logout"]

/-- Whether a name is that of a command of the script itself. -/
def isOwnCommand (dialect : Dialect) (name : List Char) : Bool :=
  sharedCommands.contains (String.ofList name) ||
    match dialect with
    | .plain => name = "chdir".toList
    | .extended => extendedCommands.contains (String.ofList name)

/-- A text between single quotes. -/
def singleQuoted (dialect : Dialect) (cs : List Char) : List Char :=
  let quote := match dialect with
    | .plain => "'\"'\"'".toList
    | .extended => "'\\''".toList
  '\'' :: cs.flatMap (fun c => if c = '\'' then quote else [c]) ++ ['\'']

/-- A text between double quotes. -/
def doubleQuoted (cs : List Char) : List Char :=
  '"' :: cs.flatMap (fun c => if isSpecialInQuotes c then ['\\', c] else [c]) ++ ['"']

/-- Whether a text needs quotes to be read as one word. -/
def needsQuotes (cs : List Char) : Bool :=
  cs.isEmpty || cs.any fun c =>
    " \t\n'\"\\|&;()<>!\x7b\x7d*[]?^$\x60#~=".toList.contains c && c != '='

/-! ### Lines that are read -/

/-- Reads a line up to its end or up to so many characters: its characters, each of which tells
whether it is protected, whether the end was found, and the rest. -/
def takeLine (raw : Bool) (ending : Char) : Nat → Option Nat → List Char →
    Marked × Bool × List Char
  | 0, _, cs => ([], false, cs)
  | _ + 1, some 0, cs => ([], true, cs)
  | _ + 1, _, [] => ([], false, [])
  | fuel + 1, most, c :: cs =>
    if c = ending then ([], true, cs)
    else if c = '\\' && !raw then
      match cs with
      | [] => ([], false, [])
      | d :: cs =>
        if d = '\n' then takeLine raw ending fuel most cs
        else
          let (line, found, rest) := takeLine raw ending fuel (most.map (· - 1)) cs
          ((d, true) :: line, found, rest)
    else
      let (line, found, rest) := takeLine raw ending fuel (most.map (· - 1)) cs
      (if c = '\x00' then line else (c, false) :: line, found, rest)

/-- Whether a character of a line separates words. -/
def isSeparator (separators : List Char) (m : Char × Bool) : Bool :=
  !m.2 && separators.contains m.1

/-- Whether a character of a line is a blank that separates words. -/
def isSpaceSeparator (separators : List Char) (m : Char × Bool) : Bool :=
  isSeparator separators m && (m.1 = ' ' || m.1 = '\t' || m.1 = '\n')

/-- A line without the blanks at its end. -/
def dropSpacesBehind (separators : List Char) (line : Marked) : Marked :=
  (line.reverse.dropWhile (isSpaceSeparator separators)).reverse

/-- The last word of a line: all of it, but a single separator at its end. -/
def lastField (separators : List Char) (line : Marked) : List Char :=
  let line := dropSpacesBehind separators line
  match line.reverse with
  | m :: before =>
    let before := dropSpacesBehind separators before.reverse
    if isSeparator separators m && !before.any (isSeparator separators) then unmarked before
    else unmarked line
  | [] => []

/-- So many words of a line, the last of which is all that is left. -/
def lineFields (separators : List Char) : Nat → Marked → List (List Char)
  | 0, _ => []
  | n + 1, line =>
    let line := line.dropWhile (isSpaceSeparator separators)
    if n = 0 then [lastField separators line]
    else
      let word := line.takeWhile (!isSeparator separators ·)
      let rest := (line.drop word.length).dropWhile (isSpaceSeparator separators)
      let rest := match rest with
        | m :: more => if isSeparator separators m then more else rest
        | [] => []
      unmarked word :: lineFields separators n rest

/-- All words of a line. -/
def allFields (separators : List Char) (line : Marked) : List (List Char) :=
  (Fields.ofAtoms separators (line.map fun m =>
    .char m.1 (if m.2 then .quoted else .loose))).map unmarked

namespace Run

/-! ### Refusals -/

/-- Complains on behalf of a command and fails; a special command ends the script in the plain
manner. -/
def refuse (command : String) (text : String) (status : Nat := 1) : Run Nat := do
  complainAs command.toList text
  match (← read).dialect with
  | .plain => if specialCommands.contains command then throw (.exit 2) else return 2
  | .extended => return status

/-- The options at the start of some arguments: letters, of which some ask for a value, and what is
left. -/
def optionsOf (valued : List Char) : Nat → List (List Char) →
    List (Char × List Char) × List (List Char)
  | 0, ws => ([], ws)
  | fuel + 1, ws =>
    match ws with
    | ['-', '-'] :: rest => ([], rest)
    | ('-' :: c :: more) :: rest =>
      if valued.contains c then
        if more.isEmpty then
          let (options, left) := optionsOf valued fuel (rest.drop 1)
          ((c, rest.headD []) :: options, left)
        else
          let (options, left) := optionsOf valued fuel rest
          ((c, more) :: options, left)
      else if more.isEmpty then
        let (options, left) := optionsOf valued fuel rest
        ((c, []) :: options, left)
      else
        let (options, left) := optionsOf valued fuel (('-' :: more) :: rest)
        ((c, []) :: options, left)
    | ws => ([], ws)

/-- The options at the start of some arguments, and what is left. -/
def options (valued : String) (ws : List (List Char)) :
    List (Char × List Char) × List (List Char) :=
  optionsOf valued.toList ((ws.map List.length).foldl (· + ·) 1 + ws.length) ws

/-- A number of an argument; none when it is no number. -/
def countOf? (cs : List Char) : Option Nat :=
  match decimal? cs with
  | some n => if 0 ≤ n && n < signedLimit then some n.toNat else none
  | none => none

/-! ### Printing -/

/-- Prints its arguments on a line. -/
def echo (ws : List (List Char)) : Run Nat := do
  writeChars 1 (echoText (← read).dialect ws)
  return 0

/-- Prints its arguments in a format. -/
def printf (ws : List (List Char)) : Run Nat := do
  let dialect := (← read).dialect
  let (target, ws) := match dialect, ws with
    | .extended, ['-', 'v'] :: name :: rest => (some name, rest)
    | _, ws => (none, ws)
  match ws.dropWhile (· = ['-', '-']) with
  | [] => do
    match dialect with
    | .plain => return ← refuse "printf" "usage: printf format [arg ...]"
    | .extended => do
      write 2 "printf: usage: printf [-v var] format [arguments]\n".toUTF8
      return 2
  | format :: rest => do
    let p := formatText dialect format rest
    match target with
    | some name => do let _ ← assignText name p.text
    | none => writeChars 1 p.text
    p.complaints.forM (complainAs "printf".toList)
    return p.status

/-! ### Conditions -/

/-- What a condition may ask about. -/
def facts : Run Facts := do
  let s ← get
  return { storage := s.storage
           isNamed := fun name => (s.text? name).isSome || (s.value? name).isSome
           isSet := fun option => s.has (String.ofList option) }

/-- Tells whether a condition holds. -/
def test (command : String) (ws : List (List Char)) : Run Nat := do
  let dialect := (← read).dialect
  let body : Except TestError (List (List Char)) :=
    if command = "[" then
      if ws.getLast? = some [']'] then .ok ws.dropLast else .error .unclosed
    else .ok ws
  match body.bind (holds (← facts) dialect) with
  | .ok true => return 0
  | .ok false => return 1
  | .error (.noParenthesis []) =>
    refuse command ((TestError.noParenthesis (if command = "[" then [']'] else [])).text dialect) 2
  | .error e => refuse command (e.text dialect) 2

/-! ### Directories -/

/-- A path without steps that lead nowhere or back. -/
def straightPath (cs : List Char) : List Char :=
  let steps := (Text.cut '/' cs).foldl (fun (steps : List (List Char)) step =>
    if step.isEmpty || step = ['.'] then steps
    else if step = ['.', '.'] then steps.drop 1
    else step :: steps) []
  '/' :: Text.joinWith '/' steps.reverse

/-- The current directory as the script knows it. -/
def directory : Run (List Char) := do
  let s ← get
  return (s.text? "PWD".toList).getD ('/' :: Text.joinWith '/' (s.storage.current.map Octets.ofText))

/-- Goes to a directory. -/
def changeDirectory (ws : List (List Char)) : Run Nat := do
  let s ← get
  let dialect := (← read).dialect
  let (_, operands) := options "" (ws.map fun w => if w = ['-'] then "./-".toList else w)
  let goesBack := ws.getLast? = some ['-']
  let target := match operands with
    | [] => (s.text? "HOME".toList).getD []
    | w :: _ => if goesBack then (s.text? "OLDPWD".toList).getD [] else w
  if dialect = .extended && 1 < operands.length then return ← refuse "cd" "too many arguments"
  if dialect = .extended && goesBack && target.isEmpty then return ← refuse "cd" "OLDPWD not set"
  if dialect = .extended && operands.isEmpty && target.isEmpty then
    return ← refuse "cd" "HOME not set"
  let here ← directory
  let there := straightPath (if target.head? = some '/' then target else here ++ '/' :: target)
  match s.storage.resolve true (pathOf (if target.isEmpty then ['.'] else target)) with
  | .ok (.node l (.directory _)) => do
    set { s with storage := { s.storage with current := l } }
    modify fun s => (s.setText "OLDPWD".toList here).setText "PWD".toList there
    if goesBack then writeChars 1 (there ++ ['\n'])
    return 0
  | r => do
    let shown := Octets.toText target
    let reason := match r with
      | .error e => e.reason
      | .ok (.node _ _) => Storage.Fault.notDirectory.reason
      | .ok (.free _) => Storage.Fault.notFound.reason
    match dialect with
    | .plain => refuse "cd" s!"can't cd to {shown}"
    | .extended => refuse "cd" s!"{shown}: {reason}"

/-- Prints the current directory. -/
def printDirectory (ws : List (List Char)) : Run Nat := do
  let here ← if ws.contains ['-', 'P'] then do
      pure ('/' :: Text.joinWith '/' ((← get).storage.current.map Octets.ofText))
    else directory
  writeChars 1 (here ++ ['\n'])
  return 0

/-! ### Names -/

/-- The complaint about a name that is none. -/
def badName (command : String) (word : List Char) : Run Nat := do
  match (← read).dialect with
  | .plain =>
    let name := word.takeWhile (· != '=')
    refuse command s!"{Octets.toText name}: bad variable name"
  | .extended => refuse command s!"\x60{Octets.toText word}': not a valid identifier"

/-- Complains that a name keeps its value. -/
def keepsValue (command : String) (name : List Char) : Run Nat := do
  match (← read).dialect with
  | .plain => refuse command s!"{Octets.toText name}: is read only"
  | .extended => do
    complain s!"{Octets.toText name}: readonly variable"
    return 1

/-- An argument that names something, and the value that it gives it; whether that is added to the
old value. -/
def assignmentOf (w : List Char) : List Char × Option (List Char) × Bool :=
  match Text.cutOnce? '=' w with
  | some (name, value) =>
    if name.getLast? = some '+' then (name.dropLast, some value, true) else (name, some value, false)
  | none => (w, none, false)

/-- The names that are known, in order. -/
def knownNames : Run (List (List Char × Variable)) := do
  return Sorting.sort (fun a b => decide (String.ofList a.1 ≤ String.ofList b.1)) (← get).names

/-- A line that gives a name its value. -/
def declarationLine (dialect : Dialect) (word : String) (name : List Char) (v : Variable) :
    List Char :=
  let text := v.value.bind Value.text?
  match dialect with
  | .plain =>
    let value := (text.map fun cs => '=' :: singleQuoted dialect cs).getD []
    word.toList ++ ' ' :: name ++ value ++ ['\n']
  | .extended =>
    let item (key value : List Char) : List Char :=
      '[' :: key ++ "]=".toList ++ doubleQuoted value
    let row (items : List (List Char × List Char)) : List Char :=
      "=(".toList ++ Text.joinWith ' ' (items.map fun i => item i.1 i.2) ++ [')']
    let (kind, value) := match v.value with
      | some (.row items) => (['a'], row (items.map fun i => (Text.decimalChars i.1, i.2)))
      | some (.table items) => (['A'], row items)
      | some (.text cs) => ([], '=' :: doubleQuoted cs)
      | none => ([], [])
    let letters := kind ++ (if v.isNumber then ['i'] else []) ++
      (if v.isReadOnly then ['r'] else []) ++ (if v.isExported then ['x'] else [])
    "declare -".toList ++ (if letters.isEmpty then ['-'] else letters) ++ ' ' :: name ++ value ++ ['\n']

/-- Gives a name a value on behalf of a command; false when the name keeps its value. -/
def giveValue (name value : List Char) (adds : Bool) : Run Bool := do
  let s ← get
  let old := (s.text? name).getD []
  if ((s.known? name).map (·.isNumber)).getD false then
    let n ← calculated value ""
    let m ← if adds then calculated old "" else pure 0
    assignText name (wholeText (m + n))
  else assignText name (if adds then old ++ value else value)

/-- Changes what is known about names, which may be given values first; lists them when there are
none. -/
def mark (command : String) (change : Variable → Variable) (isWanted : Variable → Bool)
    (ws : List (List Char)) : Run Nat := do
  let (letters, operands) := options "" ws
  if operands.isEmpty then
    let dialect := (← read).dialect
    (← knownNames).forM fun (name, v) => do
      if isWanted v then writeChars 1 (declarationLine dialect command name v)
    return 0
  else
    let mut status := 0
    for w in operands do
      let (name, value, adds) := assignmentOf w
      if letters.any (·.1 = 'n') && command = "export" then
        modify (·.modifyName name fun v => { v with isExported := false })
      else if letters.any (·.1 = 'f') then pure ()
      else if !isName name then status ← badName command w
      else
        let isGiven ← match value with
          | some cs => giveValue name cs adds
          | none => pure true
        if isGiven then modify (·.modifyName name change)
        else status ← keepsValue command name
    return status

/-- Lets a name have another value until the function ends. -/
def hide (name : List Char) : Run Unit :=
  modify fun s =>
    match s.hidden with
    | names :: more =>
      if names.any (·.1 = name) then s
      else { s with hidden := ((name, s.known? name) :: names) :: more }
    | [] => s

/-- Gives names values that are forgotten when the function ends. -/
def makeLocal (ws : List (List Char)) : Run Nat := do
  let mut status := 0
  for w in ws do
    let (name, value, adds) := assignmentOf w
    if name = ['-'] then pure ()
    else if !isName name then status ← badName "local" w
    else
      hide name
      let isExtended ← isExtended
      match value with
      | some cs => if !(← giveValue name cs adds) then status ← keepsValue "local" name
      | none =>
        if isExtended then
          modify (·.modifyName name fun v => { v with value := none, isExported := false })
  return status

/-- Says what names are, and may give them values. -/
def declare (command : String) (ws : List (List Char)) : Run Nat := do
  let (letters, operands) := options "" (ws.map fun w =>
    match w with
    | '+' :: more => "-".toList ++ more.map fun _ => '+'
    | w => w)
  let has (c : Char) : Bool := letters.any (·.1 = c)
  let dialect := (← read).dialect
  if has 'p' then
    let mut status := 0
    for name in operands do
      match (← get).known? name with
      | some v => writeChars 1 (declarationLine dialect command name v)
      | none => status ← refuse command s!"{Octets.toText name}: not found"
    return status
  else if has 'f' || has 'F' then return 0
  else
    let mut status := 0
    for w in operands do
      let (name, value, adds) := assignmentOf w
      if !isName name then status ← badName command w
      else
        if (← read).isInFunction && !has 'g' then
          hide name
          if value.isNone then modify (·.modifyName name fun v => { v with value := none })
        if has 'i' then modify (·.modifyName name fun v => { v with isNumber := true })
        if has 'A' then
          modify (·.modifyName name fun v =>
            { v with value := some (match v.value with
                | some (.table items) => .table items
                | _ => .table []) })
        else if has 'a' then
          modify (·.modifyName name fun v =>
            { v with value := some (.row ((v.value.map Value.items).getD [])) })
        match value with
        | some cs => if !(← giveValue name cs adds) then status ← keepsValue command name
        | none => modify (·.modifyName name id)
        modify (·.modifyName name fun v =>
          { v with isExported := v.isExported || has 'x', isReadOnly := v.isReadOnly || has 'r' })
    return status

/-- Forgets names. -/
def unset (ws : List (List Char)) : Run Nat := do
  let (letters, operands) := options "" ws
  let mut status := 0
  for name in operands do
    if letters.any (·.1 = 'f') then
      modify fun s => { s with functions := s.functions.filter (·.1 != name) }
    else
      let s ← get
      match Text.cutOnce? '[' name with
      | some (row, index) =>
        if ← isExtended then
          match s.value? row with
          | some (.table items) =>
            modify (·.setValue row (.table (items.filter (·.1 != index.dropLast))))
          | some v => do
            let n ← calculated index.dropLast ""
            let place := place? v.items n
            modify (·.setValue row (.row (v.items.filter fun i => some i.1 != place)))
          | none => pure ()
        else status ← badName "unset" name
      | none =>
        if !isName name then
          if (← read).dialect = .plain then status ← badName "unset" name
        else if s.isReadOnly name then
          match (← read).dialect with
          | .plain => status ← keepsValue "unset" name
          | .extended =>
            status ← refuse "unset" s!"{Octets.toText name}: cannot unset: readonly variable"
        else if (s.known? name).isNone && (← isExtended) && letters.isEmpty then
          modify fun s => { s with functions := s.functions.filter (·.1 != name) }
        else modify (·.forget name)
  return status

/-! ### Arguments and options -/

/-- Drops arguments. -/
def shift (ws : List (List Char)) : Run Nat := do
  let s ← get
  let dialect := (← read).dialect
  let drop (n : Nat) : Run Nat := do
    if s.arguments.length < n then
      match dialect with
      | .plain => refuse "shift" "can't shift that many"
      | .extended => return 1
    else
      set { s with arguments := s.arguments.drop n }
      return 0
  match ws with
  | [] => drop 1
  | w :: _ =>
    match countOf? w, dialect with
    | some n, _ => drop n
    | none, .plain => refuse "shift" s!"Illegal number: {Octets.toText w}"
    | none, .extended =>
      if (decimal? w).isSome then refuse "shift" s!"{Octets.toText w}: shift count out of range"
      else refuse "shift" s!"{Octets.toText w}: numeric argument required"

/-- The names of the options. -/
def optionNames : Dialect → List String
  | .plain => ["errexit", "noglob", "ignoreeof", "interactive", "monitor", "noexec", "stdin",
      "xtrace", "verbose", "vi", "emacs", "noclobber", "allexport", "notify", "nounset", "nolog",
      "debug"]
  | .extended => ["allexport", "braceexpand", "emacs", "errexit", "errtrace", "functrace", "hashall",
      "histexpand", "history", "ignoreeof", "interactive-comments", "keyword", "monitor", "noclobber",
      "noexec", "noglob", "nolog", "notify", "nounset", "onecmd", "physical", "pipefail", "posix",
      "privileged", "verbose", "vi", "xtrace"]

/-- The letters of options that are known and change nothing here. -/
def idleLetters : Dialect → List Char
  | .plain => "ImsVEbil".toList
  | .extended => "hkmptvBCEHPTb".toList

/-- Sets or unsets an option. -/
def setOption (on : Bool) (option : String) : Run Unit :=
  modify fun s =>
    let others := s.options.filter (· != option)
    { s with options := if on then option :: others else others }

/-- Sets the options of some letters; the rest of the arguments, or none when one is unknown. -/
def setLetters (on : Bool) (rest : List (List Char)) : List Char → Run (Option (List (List Char)))
  | [] => return some rest
  | c :: cs => do
    let dialect := (← read).dialect
    match optionLetters.lookup c with
    | some option => do
      setOption on option
      setLetters on rest cs
    | none =>
      if c = 'o' then
        match rest with
        | [] => setLetters on [] cs
        | name :: rest =>
          let option := String.ofList name
          if (optionNames dialect).contains option then
            setOption on option
            setLetters on rest cs
          else
            match dialect with
            | .plain => let _ ← refuse "set" s!"Illegal option -o {Octets.toText name}"
            | .extended => complainAs "set".toList s!"{Octets.toText name}: invalid option name"
            return none
      else if (idleLetters dialect).contains c then setLetters on rest cs
      else
        let sign := if on then '-' else '+'
        match dialect with
        | .plain => let _ ← refuse "set" s!"Illegal option {sign}{c}"
        | .extended => do
          complainAs "set".toList s!"{sign}{c}: invalid option"
          write 2 ("set: usage: set [-abefhkmnptuvxBCEHPT] [-o option-name] [--] [-] [arg ...]\n").toUTF8
        return none

/-- Sets options and arguments. -/
def setAll : Nat → List (List Char) → Run Nat
  | 0, _ => return 0
  | fuel + 1, ws => do
    match ws with
    | [] => return 0
    | ['-', '-'] :: rest => do
      modify fun s => { s with arguments := rest }
      return 0
    | ['-'] :: rest => do
      setOption false "xtrace"
      if !rest.isEmpty then modify fun s => { s with arguments := rest }
      return 0
    | (c :: letters) :: rest =>
      if (c = '-' || c = '+') && !letters.isEmpty then
        match ← setLetters (c = '-') rest letters with
        | some rest => setAll fuel rest
        | none => return 2
      else do
        modify fun s => { s with arguments := ws }
        return 0
    | ws => do
      modify fun s => { s with arguments := ws }
      return 0

/-- Sets options and arguments; lists the names when there is nothing to set. -/
def setCommand (ws : List (List Char)) : Run Nat := do
  if ws.isEmpty then
    let dialect := (← read).dialect
    (← knownNames).forM fun (name, v) => do
      match v.value.bind Value.text? with
      | some cs =>
        let value := if dialect = .plain || needsQuotes cs then singleQuoted dialect cs else cs
        writeChars 1 (name ++ '=' :: value ++ ['\n'])
      | none => return ()
    return 0
  else setAll (ws.length + 1) ws

/-- Sets or unsets options by name, or asks for them. -/
def chooseOptions (ws : List (List Char)) : Run Nat := do
  let (letters, names) := options "" ws
  let has (c : Char) : Bool := letters.any (·.1 = c)
  if has 's' || has 'u' then
    names.forM fun name => setOption (has 's') (String.ofList name)
    return 0
  else
    let s ← get
    return if names.all fun name => s.has (String.ofList name) then 0 else 1

/-- Takes the next option of the arguments. -/
def nextOption (ws : List (List Char)) : Run Nat := do
  let dialect := (← read).dialect
  match ws with
  | letters :: name :: given => do
    let s ← get
    let arguments := if given.isEmpty then s.arguments else given
    let written := (s.text? "OPTIND".toList).getD []
    let taken := if s.lettersTaken.2 = written then s.lettersTaken.1 else 0
    let place := max 1 ((countOf? written).getD 1)
    -- the plain manner counts a word as soon as its first letter is taken
    let place := if dialect = .plain && 0 < taken then place - 1 else place
    let isQuiet := letters.head? = some ':'
    let finish (letter : List Char) (argument : Option (List Char)) (place taken status : Nat) :
        Run Nat := do
      let written := Text.decimalChars place
      modify fun s => { s.setText "OPTIND".toList written with lettersTaken := (taken, written) }
      modify fun s =>
        match argument with
        | some cs => s.setText "OPTARG".toList cs
        | none => s.forget "OPTARG".toList
      let _ ← assignText name letter
      return status
    let word := (arguments[place - 1]?).getD []
    let isOption := match word with
      | '-' :: _ :: _ => true
      | _ => false
    if word = ['-', '-'] then finish ['?'] none (place + 1) 0 1
    else if !isOption then finish ['?'] none place 0 1
    else
      let taken := max 1 taken
      match word.drop taken with
      | [] => finish ['?'] none place 0 1
      | c :: more =>
        let isLast := more.isEmpty
        let next := if isLast then place + 1 else place
        let shown := if dialect = .plain then place + 1 else next
        let takenNext := if isLast then 0 else taken + 1
        let going (letter : List Char) (argument : Option (List Char)) : Run Nat :=
          if isLast then finish letter argument next 0 0
          else finish letter argument shown takenNext 0
        match letters.dropWhile (· != c) with
        | _ :: ':' :: _ =>
          if c = ':' then going ['?'] none
          else if !isLast then finish [c] (some more) (place + 1) 0 0
          else
            match arguments[place]? with
            | some value => finish [c] (some value) (place + 2) 0 0
            | none =>
              if isQuiet then finish [':'] (some [c]) (place + 1) 0 0
              else do
                match dialect with
                | .plain => write 2 s!"No arg for -{c} option\n".toUTF8
                | .extended => do
                  let script := Octets.toText (← read).name
                  write 2 s!"{script}: option requires an argument -- {c}\n".toUTF8
                finish ['?'] none (place + 1) 0 0
        | [] =>
          if isQuiet then going ['?'] (some [c])
          else do
            match dialect with
            | .plain => write 2 s!"Illegal option -{c}\n".toUTF8
            | .extended => do
              let script := Octets.toText (← read).name
              write 2 s!"{script}: illegal option -- {c}\n".toUTF8
            going ['?'] none
        | _ => going [c] none
  | _ =>
    match dialect with
    | .plain => refuse "getopts" "Usage: getopts optstring var [arg...]"
    | .extended => do
      write 2 "getopts: usage: getopts optstring name [arg ...]\n".toUTF8
      return 2

/-! ### Reading -/

/-- Reads a line into names. -/
def readLine (ws : List (List Char)) : Run Nat := do
  let dialect := (← read).dialect
  let (letters, names) := options (if dialect = .extended then "adinNptu" else "p") ws
  let value? (c : Char) : Option (List Char) := letters.lookup c
  let channel := ((value? 'u').bind countOf?).getD 0
  let ending := match value? 'd' with
    | some (c :: _) => c
    | some [] => '\x00'
    | none => '\n'
  let most := (value? 'n').bind countOf?
  let exactly := (value? 'N').bind countOf?
  let input ← pending channel
  let (line, found, rest) := takeLine (value? 'r').isSome
    (if exactly.isSome then '\x00' else ending) (input.length + 1)
    (if exactly.isSome then exactly else most) input
  if dialect = .plain && names.isEmpty then return ← refuse "read" "arg count"
  match names.find? fun n => !isName n && !(n.contains '[' && dialect = .extended) with
  | some name => badName "read" name
  | none => do
    leavePending channel rest
    let usual := (← get).separators
    let separators := if exactly.isSome then [] else usual
    let status := if found then 0 else 1
    match value? 'a' with
    | some row => do
      let fields := allFields separators line
      modify (·.setValue row (.row ((List.range fields.length).zip fields)))
      return status
    | none =>
      if names.isEmpty then
        let _ ← assignText "REPLY".toList (unmarked line)
        return status
      else
        let fields := lineFields separators names.length line
        let mut status := status
        for (name, field) in names.zip fields do
          if !(← assignText name field) then status ← keepsValue "read" name
        return status

/-- Reads all lines into a row. -/
def readLines (ws : List (List Char)) : Run Nat := do
  let (letters, names) := options "dnOsutCc" ws
  let hasT := ws.contains ['-', 't']
  let names := if hasT then (options "dnOsuCc" ws).2 else names
  let channel := ((letters.lookup 'u').bind countOf?).getD 0
  let pieces := Text.cut '\n' (← pending channel)
  leavePending channel []
  let whole := pieces.dropLast.map fun l => if hasT then l else l ++ ['\n']
  let last := (pieces.getLast?.getD [])
  let lines := if last.isEmpty then whole else whole ++ [last]
  modify (·.setValue (names.headD "MAPFILE".toList) (.row ((List.range lines.length).zip lines)))
  return 0

/-! ### Signals -/

/-- Sends a signal. -/
def kill (ws : List (List Char)) : Run Nat := do
  let dialect := (← read).dialect
  let usage : Run Nat :=
    match dialect with
    | .plain => refuse "kill"
        "Usage: kill [-s sigspec | -signum | -sigspec] [pid | job]... or\nkill -l [exitstatus]"
    | .extended => do
      write 2 ("kill: usage: kill [-s sigspec | -n signum | -sigspec] pid | jobspec ... or " ++
        "kill -l [sigspec]\n").toUTF8
      return 2
  let send (signal : String) (targets : List (List Char)) : Run Nat := do
    let mut status := 0
    for target in targets do
      match decimal? target with
      | none =>
        let shown := Octets.toText target
        match dialect with
        | .plain => return ← refuse "kill" s!"Illegal number: {shown}"
        | .extended => status ← refuse "kill" s!"{shown}: arguments must be process or job IDs"
      | some n =>
        if n = State.processNumber || n = 0 then
          if signal != "EXIT" then
            match (← get).traps.lookup signal with
            | some _ => modify fun s => { s with signals := s.signals ++ [signal] }
            | none =>
              if !harmlessSignals.contains signal then throw (.killed (signalNumber signal))
        else if !((← get).jobs.any fun j => (j.1 : Int) = n) then
          match dialect with
          | .plain => do
            complainAs "kill".toList "No such process\n"
            status := 1
          | .extended => status ← refuse "kill" s!"({n}) - No such process"
    return status
  let named (word : List Char) (targets : List (List Char)) : Run Nat :=
    match signalNamed? word with
    | some signal => if targets.isEmpty then usage else send signal targets
    | none =>
      match dialect with
      | .plain => refuse "kill" s!"invalid signal number or name: {Octets.toText word}"
      | .extended => refuse "kill" s!"{Octets.toText word}: invalid signal specification"
  match ws with
  | [] => usage
  | ['-', 'l'] :: [] => do
    writeChars 1 (Text.joinWith '\n' ((signalNames.drop 1).map String.toList) ++ ['\n'])
    return 0
  | ['-', 'l'] :: w :: _ =>
    match countOf? w with
    | some n => do
      let n := if 128 < n then n - 128 else n
      writeChars 1 ((signalNames[n]?.getD "").toList ++ ['\n'])
      return 0
    | none => do
      writeChars 1 (Text.decimalChars (((signalNamed? w).map signalNumber).getD 0) ++ ['\n'])
      return 0
  | ['-', 's'] :: w :: targets => named w targets
  | ['-', 'n'] :: w :: targets => named w targets
  | ['-', '-'] :: targets => send "TERM" targets
  | ('-' :: c :: word) :: targets =>
    if dialect = .plain && (signalNamed? (c :: word)).isNone then
      refuse "kill" s!"Illegal option -{c}"
    else named (c :: word) targets
  | targets => send "TERM" targets

/-- Says what is done on signals; lists it when there is nothing to say. -/
def trap (ws : List (List Char)) : Run Nat := do
  let dialect := (← read).dialect
  let ws := if ws.head? = some ['-', '-'] then ws.drop 1 else ws
  let shown (name : String) : String :=
    if dialect = .extended && name != "EXIT" then "SIG" ++ name else name
  let list (names : List String) : Run Unit := do
    let s ← get
    names.forM fun name =>
      match s.traps.lookup name with
      | some action =>
        writeChars 1 ("trap -- ".toList ++ singleQuoted dialect action ++ ' ' ::
          (shown name).toList ++ ['\n'])
      | none => return ()
  let setTo (action : Option (List Char)) (signals : List (List Char)) : Run Nat := do
    let mut status := 0
    for w in signals do
      match signalNamed? w with
      | some name => modify fun s =>
          let others := s.traps.filter (·.1 != name)
          { s with traps := match action with
            | some cs => (name, cs) :: others
            | none => others }
      | none =>
        let extra := ["ERR", "DEBUG", "RETURN"].find? fun name =>
          dialect = .extended && name.toList == w
        match extra with
        | some name => modify fun s =>
            let others := s.traps.filter (·.1 != name)
            { s with traps := match action with
              | some cs => (name, cs) :: others
              | none => others }
        | none => do
          match dialect with
          | .plain => write 2 s!"trap: {Octets.toText w}: bad trap\n".toUTF8
          | .extended => complainAs "trap".toList s!"{Octets.toText w}: invalid signal specification"
          status := 1
    return status
  match ws with
  | [] => do
    list signalNames
    return 0
  | ['-', 'p'] :: names => do
    list (if names.isEmpty then signalNames else names.filterMap signalNamed?)
    return 0
  | [w] =>
    if w = ['-'] || (signalNamed? w).isSome then setTo none [w]
    else setTo none [w]
  | ['-'] :: signals => setTo none signals
  | action :: signals =>
    if (Text.decimal? action).isSome then setTo none (action :: signals)
    else setTo (some action) signals

/-- Waits for commands that were not waited for. -/
def wait (ws : List (List Char)) : Run Nat := do
  let s ← get
  match ws.getLast? with
  | none => return 0
  | some w =>
    match (countOf? w).bind fun n => s.jobs.lookup n with
    | some status => return status
    | none => do
      if (← isExtended) then
        complainAs "wait".toList s!"pid {Octets.toText w} is not a child of this shell"
      return 127

/-! ### What a name is -/

/-- What a name of a command stands for: how that is told, and the path or name. -/
def kindOf? (name : List Char) : Run (Option (String × List Char)) := do
  let session ← read
  let text := String.ofList name
  let words := keywords ++ if session.dialect = .extended then
    ["[[", "]]", "function", "time", "select", "coproc"] else []
  if words.contains text then return some ("keyword", name)
  else if (← get).functions.any (·.1 = name) then return some ("function", name)
  else if isOwnCommand session.dialect name then return some ("builtin", name)
  else if name.contains '/' then
    return if mayStart (← get).storage name then some ("file", name) else none
  else return (session.installedAt? (Octets.toText name)).map fun p => ("file", Octets.ofText p)

/-- Tells what names of commands stand for, in short or in a sentence. -/
def tell (command : String) (short : Bool) (ws : List (List Char)) : Run Nat := do
  let dialect := (← read).dialect
  let mut status := 0
  let mut isAny := false
  for name in ws do
    let shown := Octets.toText name
    match ← kindOf? name with
    | some (kind, place) =>
      isAny := true
      let sentence := match kind with
        | "keyword" => s!"{shown} is a shell keyword"
        | "function" => match dialect with
          | .plain => s!"{shown} is a shell function"
          | .extended => s!"{shown} is a function"
        | "builtin" =>
          if dialect = .plain && specialCommands.contains shown then
            s!"{shown} is a special shell builtin"
          else s!"{shown} is a shell builtin"
        | _ => s!"{shown} is {Octets.toText place}"
      writeChars 1 (if short then place ++ ['\n'] else Octets.ofText (sentence ++ "\n"))
    | none => do
      if short then status := if dialect = .plain then 127 else 1
      else
        match dialect with
        | .plain => do
          write (if command = "type" then 1 else 2) s!"{shown}: not found\n".toUTF8
          status := 127
        | .extended => status ← refuse command s!"{shown}: not found"
  return if isAny && dialect = .extended && command = "command" then 0 else status

/-- Tells the kinds of names of commands, each in a word. -/
def tellKinds (ws : List (List Char)) : Run Nat := do
  let mut status := 0
  for name in ws do
    match ← kindOf? name with
    | some (kind, _) => writeChars 1 (kind.toList ++ ['\n'])
    | none => status := 1
  return status

/-- Works out numbers; fails when the last one is zero. -/
def work (ws : List (List Char)) : Run Nat := do
  if ws.isEmpty then refuse "let" "expression expected"
  else
    let numbers ← ws.mapM fun w => calculated w "let: "
    return if numbers.getLast? = some 0 then 1 else 0

/-- Tells which permissions new files are not given. -/
def mask (ws : List (List Char)) : Run Nat := do
  let now := ((← get).text? "\x00mask".toList).getD "0022".toList
  if ws.isEmpty then writeChars 1 (now ++ ['\n'])
  else if ws = [['-', 'S']] then
    let letters (d : Char) : List Char :=
      let n := d.toNat - '0'.toNat
      (if n &&& 4 = 0 then ['r'] else []) ++ (if n &&& 2 = 0 then ['w'] else []) ++
        (if n &&& 1 = 0 then ['x'] else [])
    let parts := ("ugo".toList.zip (now.drop (now.length - 3))).map fun (who, d) =>
      who :: '=' :: letters d
    writeChars 1 (Text.joinWith ',' parts ++ ['\n'])
  else modify (·.setText "\x00mask".toList (Text.padZeros 4 (ws.headD [])))
  return 0

/-! ### All commands -/

/-- Does what a command of the script itself does, if it needs no script for that. -/
def own? (name : List Char) (ws : List (List Char)) : Option (Run Nat) :=
  match String.ofList name with
  | ":" => some (return 0)
  | "true" => some (return 0)
  | "false" => some (return 1)
  | "echo" => some (echo ws)
  | "printf" => some (printf ws)
  | "[" => some (test "[" ws)
  | "test" => some (test "test" ws)
  | "cd" => some (changeDirectory ws)
  | "chdir" => some (changeDirectory ws)
  | "pwd" => some (printDirectory ws)
  | "export" => some (mark "export" (fun v => { v with isExported := true }) (·.isExported) ws)
  | "readonly" => some (mark "readonly" (fun v => { v with isReadOnly := true }) (·.isReadOnly) ws)
  | "local" => some do
      if (← read).isInFunction then
        if ws.any (·.head? = some '-') && (← isExtended) then declare "local" ws
        else makeLocal ws
      else
        match (← read).dialect with
        | .plain => do
          complainAs name "not in a function"
          throw (.exit 2)
        | .extended => refuse "local" "can only be used in a function"
  | "declare" => some (declare "declare" ws)
  | "typeset" => some (declare "typeset" ws)
  | "unset" => some (unset ws)
  | "shift" => some (shift ws)
  | "set" => some (setCommand ws)
  | "shopt" => some (chooseOptions ws)
  | "getopts" => some (nextOption ws)
  | "read" => some (readLine ws)
  | "mapfile" => some (readLines ws)
  | "readarray" => some (readLines ws)
  | "kill" => some (kill ws)
  | "trap" => some (trap ws)
  | "wait" => some (wait ws)
  | "type" => some (match ws with
      | ['-', 't'] :: names => tellKinds names
      | ['-', 'p'] :: names => tell "type" true names
      | ['-', 'P'] :: names => tell "type" true names
      | names => tell "type" false names)
  | "let" => some (work ws)
  | "umask" => some (mask ws)
  | "ulimit" => some do
      writeChars 1 "unlimited\n".toList
      return 0
  | "alias" => some (return 0)
  | "bg" => some (return 0)
  | "fg" => some (return 0)
  | "hash" => some do
      if ws.isEmpty && (← isExtended) then writeChars 1 "hash: hash table empty\n".toList
      return 0
  | "jobs" => some (return 0)
  | "times" => some (return 0)
  | "unalias" => some (return 0)
  | "enable" => some (return 0)
  | "disown" => some (return 0)
  | _ => none

end Run

end FirmwareSurvey.Shell
