import FirmwareSurvey.Gzip.Salvage
import FirmwareSurvey.Pattern.Reader
import FirmwareSurvey.Programs.Lines
import FirmwareSurvey.Programs.Utility
import FirmwareSurvey.ResultScript.Run
import FirmwareSurvey.Shell.Run
import FirmwareSurvey.Storage.Find
import FirmwareSurvey.Text.Octets
import FirmwareSurvey.Text.Search

/-!
# Copying and unpacking

Two programs that a row of programs is made of: one copies a range of a file to its output, the other
unpacks the gzip stream that it reads.
-/

namespace FirmwareSurvey.Program

/-- The value of an operand of the form name=value. -/
def operand? (arguments : List String) (name : String) : Option String :=
  (arguments.find? fun a => (name ++ "=").toList.isPrefixOf a.toList).map fun a =>
    String.ofList (a.toList.drop (name.length + 1))

/-- A count in an operand. -/
def count? (text : String) : Option Nat :=
  match Text.decimal? text.toList with
  | some n => if n < Storage.placeLimit then some n else none
  | none => none

/-- Copies a range of a file, counted in bytes, to the output. -/
def copy : Program := fun arguments _ storage =>
  let path : Path := ⟨(operand? arguments "if").getD ""⟩
  let skip := ((operand? arguments "skip").map count?).getD (some 0)
  let length := (operand? arguments "count").map count?
  match skip, length with
  | none, _ => (failing 1 "dd: invalid number", storage)
  | _, some none => (failing 1 "dd: invalid number", storage)
  | some skip, length =>
    match storage.node? true path with
    | .error fault => (failing 1 s!"dd: failed to open '{path}': {fault.reason}", storage)
    | .ok (.file c _) =>
      let stop := match length with
        | some (some n) => skip + n
        | _ => c.size
      if c.size < skip then
        (complain (writing .empty) s!"dd: '{path}': cannot skip to specified offset", storage)
      else (writing (c.range skip stop), storage)
    | .ok _ => (failing 1 s!"dd: error reading '{path}': Is a directory", storage)

/-- Unpacks what it reads, as far as that goes. -/
def gunzip : Program := fun _ input storage =>
  let output := Gzip.salvage input
  match Gzip.exactly? input with
  | some _ => (writing output, storage)
  | none => ({ output, errors := "gzip: stdin: not in gzip format\n".toUTF8, status := .exited 1 },
      storage)

end FirmwareSurvey.Program

/-!
## Searching files for a pattern

The search goes through all files below a directory, or through one file, and names those of which
a line contains the pattern. A file is read in portions; one with a zero byte is no text, and neither
the portion with that byte nor any behind it is searched. A file that goes on in zeros beyond what
was written is passed over. Links below the directory are not followed.
-/

namespace FirmwareSurvey.Program

/-- The size of a portion. -/
def portion : Nat := 98304

/-- The bytes of a file that are searched. -/
def searched (c : Storage.Contents) : List Char :=
  if c.zeros ≠ 0 then []
  else
    match c.bytes.data.findIdx? (· == 0) with
    | none => Octets.ofBytes c.bytes
    | some place =>
      let before := Octets.ofBytes (c.bytes.extract 0 (place / portion * portion))
      (before.reverse.dropWhile (· != '\n')).reverse

/-- Whether a line of a file contains a pattern. -/
def hasLine (p : Pattern) (c : Storage.Contents) : Bool :=
  let pieces := Text.cut '\n' (searched c)
  let lines := if pieces.getLast? == some [] then pieces.dropLast else pieces
  lines.any p.occursIn

/-- The files to search: the one named, or those below the directory named. -/
def filesToSearch (s : Storage) (root : Path) : Except Storage.Fault (List (Path × Storage.Contents)) := do
  match ← s.node? true root with
  | .file c _ => .ok [(root, c)]
  | _ => .ok ((s.below root).filterMap fun e =>
      match e.node with
      | .file c _ => some (e.path, c)
      | _ => none)

/-- Names the files in which a pattern is found. -/
def search : Program := fun arguments _ storage =>
  match arguments with
  | ["-rlIE", pattern, root] =>
    match Pattern.ofText? (Octets.ofText pattern) with
    | none => (failing 2 "grep: Invalid regular expression", storage)
    | some p =>
      match filesToSearch storage ⟨root⟩ with
      | .error fault => (failing 2 s!"grep: {root}: {fault.reason}", storage)
      | .ok files =>
        let found := (files.filter fun f => hasLine p f.2).map fun f => f.1.text ++ "\n"
        if found.isEmpty then (ending 1 [] .empty storage)
        else (writing (String.join found).toUTF8, storage)
  | _ => (failing 2 "Usage: grep [OPTION]... PATTERNS [FILE]...", storage)

end FirmwareSurvey.Program

/-!
## The interpreter of result scripts

The script lies in a file, is given in place of one, or is read. Options that stand before it and only
say how it is run change nothing here.
-/

namespace FirmwareSurvey.Program

/-- Where the script of an interpreter is. -/
inductive ScriptSource where
  /-- In a file. -/
  | file (path : String)
  /-- In an argument. -/
  | argument (text : String)
  /-- It is read. -/
  | input (mark : String)
  /-- There is none: the interpreter tells its version. -/
  | version
  /-- An option asks for something that is not there. -/
  | wrong (reason : String)

/-- Where the script is, and the arguments that it gets. -/
def scriptSource : List String → ScriptSource × List String
  | [] => (.input "", [])
  | "-" :: rest => (.input "-", rest)
  | "-c" :: text :: rest => (.argument text, rest)
  | "-c" :: [] => (.wrong "Argument expected for the -c option", [])
  | "-W" :: _ :: rest => scriptSource rest
  | "-X" :: _ :: rest => scriptSource rest
  | argument :: rest =>
    if argument == "-V" || argument == "--version" then (.version, [])
    else
      match argument.toList with
      | '-' :: letters =>
        match letters.find? fun c => !"bBdEiIOPqRsSuvx".toList.contains c with
        | some c => (.wrong s!"Unknown option: -{c}", [])
        | none => scriptSource rest
      | _ => (.file argument, rest)

/-- Runs a result script, for an interpreter of a name. -/
def results (name : String)
    (start : Invocation → Storage → Except Storage.Fault (Completion × Storage))
    (environment : List (String × String)) (arguments : List String) (input : ByteArray)
    (s : Storage) : Completion × Storage :=
  let (source, arguments) := scriptSource arguments
  let run (script : ByteArray) (mark : String) (label : Option String) (input : ByteArray) :=
    ResultScript.run (Text.lossy script).toList
      { arguments := mark :: arguments, label, environment, input, start } s
  match source with
  | .argument text => run (text ++ "\n").toUTF8 "-c" (some "<string>") input
  | .input mark => run input mark (some "<stdin>") .empty
  | .version => (writing "Python 3.12.3\n".toUTF8, s)
  | .wrong reason =>
    (failing 2 (s!"{reason}\nusage: {name} [option] ... [-c cmd | -m mod | file | -] [arg] ...\n" ++
      "Try \x60python -h' for more information."), s)
  | .file path =>
    match s.readBytes ⟨path⟩ with
    | .ok bytes => run bytes path none input
    | .error fault =>
      let full := String.ofList (ResultScript.PathName.join
        ('/' :: ResultScript.PathName.joinNames (s.current.map String.toList)) path.toList)
      match fault with
      | .isDirectory => (failing 1 s!"/usr/bin/{name}: can't find '__main__' module in '{full}'", s)
      | fault =>
        let number := (fault.number?).getD 0
        (failing 2 s!"{name}: can't open file '{full}': [Errno {number}] {fault.reason}", s)

end FirmwareSurvey.Program

/-!
## The standard host

On this host the usual utilities are installed, and a file is a program when it may be started and
its first line names an interpreter that is installed. Programs start further programs; how deep
they may do so is bounded.
-/

namespace FirmwareSurvey

namespace Program

/-- The manners of a shell by its name. -/
def dialect? (name : String) : Option Shell.Dialect :=
  if name == "sh" || name == "dash" then some .plain
  else if name == "bash" then some .extended
  else none

/-- The utilities by name. -/
def utility? : String → Option Program
  | "cat" => some cat
  | "mkdir" => some makeDirectories
  | "touch" => some touch
  | "rm" => some remove
  | "basename" => some baseName
  | "dirname" => some directoryName
  | "echo" => some echo
  | "printf" => some printf
  | "true" => some (ending 0)
  | "false" => some (ending 1)
  | "grep" => some search
  | "dd" => some copy
  | "gunzip" => some gunzip
  | "head" => some showStart
  | "tail" => some showEnd
  | "wc" => some count
  | "sort" => some sortLines
  | "uniq" => some uniqueLines
  | "tac" => some backwards
  | "rev" => some mirrored
  | "cut" => some cutLines
  | "tr" => some exchange
  | "seq" => some numbers
  | "sha256sum" => some sha256Sums
  | "sha1sum" => some sha1Sums
  | "md5sum" => some md5Sums
  | "sleep" => some wait
  | _ => none

/-- Whether a name is that of an interpreter of result scripts. -/
def isResultInterpreter (name : String) : Bool := name == "python3" || name == "python"

/-- Whether a name is that of an installed program. -/
def isInstalled (name : String) : Bool :=
  (dialect? name).isSome || (utility? name).isSome || isResultInterpreter name

/-- The directories that installed programs lie in. -/
def programDirectories : List String := ["/bin/", "/usr/bin/", "/usr/local/bin/"]

/-- The bare name of an installed program, when a text is its path or its name. -/
def installedName? (text : String) : Option String :=
  let bare := programDirectories.filterMap fun d =>
    (Text.dropWord? d.toList text.toList).map String.ofList
  (text :: bare).find? isInstalled

/-- The interpreter that the first line of a program names, and its argument. -/
def interpreterOf? (contents : ByteArray) : Option (String × List String) :=
  match Text.cut '\n' (Octets.ofBytes (contents.extract 0 256)) with
  | ('#' :: '!' :: line) :: _ =>
    match (Text.splitAt ' ' (Text.trim (Octets.toText line))).filter (· != "") with
    | [] => none
    | "/usr/bin/env" :: name :: rest => some (name, rest)
    | name :: rest => some (name, if rest.isEmpty then [] else [" ".intercalate rest])
  | _ => none

/-- The program file at a path, if it may be started. -/
def programAt (s : Storage) (p : Path) : Except Storage.Fault ByteArray := do
  match ← s.node? true p with
  | .file c mode => if mode &&& 0o111 = 0 then .error .denied else .ok c.toBytes
  | _ => .error .denied

/-- The names that programs are given when nothing else is said, with their values. -/
def usualEnvironment : List (String × String) :=
  [("PATH", "/usr/local/sbin:/usr/local/bin:/usr/sbin:/usr/bin:/sbin:/bin"), ("HOME", "/root"),
    ("LC_ALL", "C"), ("NO_COLOR", "1"), ("RUST_LOG", "off")]

/-- What a shell is asked to do. -/
structure ShellOrder where
  /-- Whether the script is the next argument itself. -/
  isText : Bool := false
  /-- Whether the script is read. -/
  isRead : Bool := false
  /-- The options that are set. -/
  options : List String := []
  /-- The arguments that are left. -/
  left : List String := []

/-- Reads the options of a shell; a name may have to follow. -/
def shellOrder (named : Bool) : List String → ShellOrder
  | [] => {}
  | argument :: rest =>
    if named then
      let order := shellOrder false rest
      { order with options := argument :: order.options }
    else
      match argument.toList with
      | ['-', '-'] => { left := rest }
      | ['-'] => { left := rest }
      | '-' :: '-' :: _ => shellOrder false rest
      | '-' :: letters =>
        let order := shellOrder (letters.contains 'o') rest
        { order with
          isText := order.isText || letters.contains 'c'
          isRead := order.isRead || letters.contains 's'
          options := letters.filterMap (Shell.Run.optionLetters.lookup ·) ++ order.options }
      | '+' :: _ => shellOrder false rest
      | _ => { left := argument :: rest }

/-- What a shell of a name does. -/
def shell (name : String) (dialect : Shell.Dialect)
    (start : Invocation → Storage → Except Storage.Fault (Completion × Storage))
    (environment : List (String × String)) (arguments : List String) (input : ByteArray)
    (s : Storage) : Completion × Storage :=
  let order := shellOrder false arguments
  let session (name : String) : Shell.Session :=
    { dialect, name := Octets.ofText name, start
      installedAt? := fun name => if isInstalled name then some ("/usr/bin/" ++ name) else none }
  let perform (name : String) (script : List Char) (arguments : List String) (input : ByteArray) :=
    Shell.run (session name)
      { arguments := arguments.map Octets.ofText, environment, options := order.options, input }
      script s
  if order.isText then
    match order.left with
    | [] => (failing 2 (match dialect with
        | .plain => s!"{name}: 0: -c requires an argument"
        | .extended => s!"{name}: -c: option requires an argument"), s)
    | text :: rest =>
      perform ((rest.head?).getD name) (Octets.ofText text) (rest.drop 1) input
  else
    match order.isRead, order.left with
    | false, script :: arguments =>
      match s.readBytes ⟨script⟩ with
      | .ok bytes => perform script (Octets.ofBytes bytes) arguments input
      | .error fault =>
        match dialect with
        | .plain =>
          (failing 2 s!"{name}: 0: {Shell.Run.openComplaint dialect false script.toList fault}", s)
        | .extended =>
          let reason := if fault = .isDirectory then "Is a directory" else fault.reason
          (failing (if fault = .notFound then 127 else 126) s!"{name}: {script}: {reason}", s)
    | _, arguments => perform name (Octets.ofBytes input) arguments .empty

/-- Starts a program and waits for its end; `depth` bounds how deep programs start programs. The
survey's own program is `own`, which does as `self` says. -/
def start (own : Path) (self : Program) :
    Nat → Invocation → Storage → Except Storage.Fault (Completion × Storage)
  | 0, _, _ => .error .notFound
  | depth + 1, i, s =>
    let environment := i.environment.getD usualEnvironment
    let installed (name : String) (arguments : List String) :
        Except Storage.Fault (Completion × Storage) :=
      match dialect? name, utility? name with
      | some dialect, _ =>
        .ok (shell i.program.text dialect (start own self depth) environment arguments i.input s)
      | none, some utility => .ok (utility arguments i.input s)
      | none, none => .ok (results name (start own self depth) environment arguments i.input s)
    let name := i.program.text
    if i.program = own then .ok (self i.arguments i.input s)
    else if !name.toList.contains '/' then
      if isInstalled name then installed name i.arguments else .error .notFound
    else
      match programAt s i.program with
      | .error fault =>
        match installedName? name with
        | some name => installed name i.arguments
        | none => .error fault
      | .ok contents =>
        match interpreterOf? contents with
        | none => .error .badProgram
        | some (interpreter, arguments) =>
          match installedName? interpreter with
          | some interpreter => installed interpreter (arguments ++ name :: i.arguments)
          | none => .error .notFound

/-- How deep programs may start programs. -/
def startingDepth : Nat := 16

end Program

/-- The standard host, where the survey's own program does as `self` says. -/
def Host.standard (own : Path) (self : Program) (configVariable : Option Path)
    (currentDirectory : Path) (now : String) : Host where
  run := Program.start own self Program.startingDepth
  isInstalled p := Program.isInstalled p.text
  ownProgram := .ok own
  configVariable := configVariable
  currentDirectory := currentDirectory
  now := now

end FirmwareSurvey
