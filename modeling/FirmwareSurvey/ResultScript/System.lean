import FirmwareSurvey.ResultScript.Function
import FirmwareSurvey.ResultScript.Operation
import FirmwareSurvey.Text.Search

/-!
# Paths, storage and programs in scripts

A script looks at storage and changes it by paths, which may be texts or values of a kind of their
own. It starts programs and waits for them; what they write is collected on demand, and otherwise
becomes a part of what the script writes.
-/

namespace FirmwareSurvey.ResultScript

namespace Run

variable (ev : Evaluator)

/-! ### Paths -/

/-- The text of a path. -/
def pathText (v : Value) : Run (List Char) := do
  match v with
  | .text cs => return cs
  | .octets bytes => decoded .utf8 "replace" bytes
  | v =>
    match ← thing? v with
    | some (.plain (.known "pathlib.PosixPath") members) =>
      match Members.get? members "__text__" with
      | some (.text cs) => return cs
      | _ => return []
    | _ =>
      match ← special? v "__fspath__" with
      | some f => do printed ev (← ev.call f [v] [])
      | none => misfit s!"expected str, bytes or os.PathLike object, not {← kindName v}"

/-- The text of a path that an operation of storage is given. -/
def systemPath (function : String) (v : Value) : Run (List Char) := do
  match ← orNone "TypeError" (pathText ev v) with
  | some cs => return cs
  | none =>
    misfit s!"{function}: path should be string, bytes or os.PathLike, not {← kindName v}"

/-- The current directory. -/
def currentPath : Run (List Char) :=
  return '/' :: PathName.joinNames ((← get).storage.current.map String.toList)

/-- A path from the root. -/
def rootedPath (p : List Char) : Run (List Char) := do
  return PathName.normal (PathName.join (← currentPath) p)

/-- A path as storage takes it. -/
def storagePath (p : List Char) : Path := ⟨String.ofList p⟩

/-- The node that a path leads to, if there is one. -/
def nodeAt? (follow : Bool) (p : List Char) : Run (Option Storage.Node) :=
  return ((← get).storage.node? follow (storagePath p)).toOption

/-- Changes storage at a path. -/
def changeStorage (shownPath : Value) (f : Storage → Except Storage.Fault Storage) : Run Unit := do
  match f (← get).storage with
  | .ok storage => modify fun s => { s with storage }
  | .error fault => failStorage fault shownPath

/-- A path with the links on its way followed. -/
def realPath (p : List Char) : Run (List Char) := do
  let full ← rootedPath p
  match (← get).storage.resolve true (storagePath full) with
  | .ok (.node l _) => return '/' :: PathName.joinNames (l.map String.toList)
  | .ok (.free l) => return '/' :: PathName.joinNames (l.map String.toList)
  | .error _ => return full

/-- A path of its own kind. -/
def makePath (p : List Char) : Run Value :=
  make (.plain (.known "pathlib.PosixPath") [("__text__", .text (PathName.tidy p))])

/-- What storage tells about a path. -/
def statusOf (follow : Bool) (shownPath : Value) (p : List Char) : Run Value := do
  let node ← stored shownPath ((← get).storage.node? follow (storagePath p))
  let (kind, mode, size) := match node with
    | .file c mode => (0o100000, mode, c.size)
    | .directory mode => (0o40000, mode, Storage.directorySize)
    | .link target => (0o120000, 0o777, target.text.utf8ByteSize)
  make (.plain (.known "os.stat_result")
    [("st_mode", .ofNat (kind + mode)), ("st_size", .ofNat size), ("st_uid", .number 0),
      ("st_gid", .number 0), ("st_nlink", .number 1), ("st_mtime", .real (.zero false)),
      ("st_ctime", .real (.zero false)), ("st_atime", .real (.zero false)), ("st_ino", .number 1),
      ("st_dev", .number 1)])

/-- The names in a directory. -/
def namesIn (shownPath : Value) (p : List Char) : Run (List (String × Storage.Node)) := do
  stored shownPath ((← get).storage.entries (storagePath p))

/-! ### Looking at paths -/

/-- The longest beginning that texts have in common. -/
def commonStart : List Char → List Char → List Char
  | a :: as, b :: bs => if a = b then a :: commonStart as bs else []
  | _, _ => []

/-- The value of a name in a text with a dollar sign before it. -/
def expandedNames (names : List (Value × Value)) : Nat → List Char → List Char
  | 0, cs => cs
  | _ + 1, [] => []
  | fuel + 1, '$' :: cs =>
    let (name, rest, raw) := match cs with
      | '\x7b' :: more =>
        let name := more.takeWhile (· != '\x7d')
        (name, more.drop (name.length + 1), '$' :: '\x7b' :: name ++ ['\x7d'])
      | more =>
        let name := more.takeWhile fun c => c.isAlphanum || c = '_'
        (name, more.drop name.length, '$' :: name)
    match keyed? names (.text name) with
    | some (.text v) => v ++ expandedNames names fuel rest
    | _ => raw ++ expandedNames names fuel rest
  | fuel + 1, c :: cs => c :: expandedNames names fuel cs

/-- The names that programs are given, with their values. -/
def environmentTable : Run (List (Value × Value)) := do
  match Members.get? (← get).replaced "os.environ" with
  | some v =>
    match ← thing? v with
    | some (.table _ _ members) => return members
    | _ => return []
  | none => return []

/-- What a function of paths does; none when there is no such function. -/
def callPath (name : String) (given : List Value) : Run (Option Value) := do
  let texts ← match name with
    | "commonprefix" => pure []
    | "commonpath" => pure []
    | _ => (given.take 1).mapM (systemPath ev name)
  let text (cs : List Char) : Run (Option Value) := return some (.text cs)
  let answer (b : Bool) : Run (Option Value) := return some (.truth b)
  match name, given, texts with
  | "join", _ :: rest, [p] => do
    let more ← rest.mapM fun v => do
      match ← orNone "TypeError" (pathText ev v) with
      | some cs => return cs
      | none =>
        misfit s!"join() argument must be str, bytes, or os.PathLike object, not '{← kindName v}'"
    text (more.foldl PathName.join p)
  | "basename", _, [p] => text (PathName.base p)
  | "dirname", _, [p] => text (PathName.directory p)
  | "split", _, [p] => return some (.tuple [.text (PathName.directory p), .text (PathName.base p)])
  | "splitext", _, [p] =>
    let (root, ending) := PathName.splitEnding p
    return some (.tuple [.text root, .text ending])
  | "splitdrive", _, [p] => return some (.tuple [.text [], .text p])
  | "normpath", _, [p] => text (PathName.normal p)
  | "normcase", _, [p] => text p
  | "abspath", _, [p] => do text (← rootedPath p)
  | "realpath", _, [p] => do text (← realPath p)
  | "isabs", _, [p] => answer (p.head? = some '/')
  | "exists", _, [p] => do answer (← nodeAt? true p).isSome
  | "lexists", _, [p] => do answer (← nodeAt? false p).isSome
  | "isfile", _, [p] => do answer ((← get).storage.isFile (storagePath p))
  | "isdir", _, [p] => do answer ((← get).storage.isDirectory (storagePath p))
  | "islink", _, [p] => do
    match ← nodeAt? false p with
    | some (.link _) => answer true
    | _ => answer false
  | "ismount", _, [p] => answer (p = ['/'])
  | "getsize", v :: _, [p] => do
    return some (.ofNat (← inside [["  File \"<frozen genericpath>\", line 62, in getsize"]]
      (stored v ((← get).storage.size? (storagePath p)))))
  | "getmtime", _, [_] => return some (.real (.zero false))
  | "relpath", _ :: rest, [p] => do
    let start ← match rest with
      | v :: _ => do rootedPath (← pathText ev v)
      | [] => currentPath
    if p.isEmpty then unfit "no path specified"
    else text (PathName.relative (← rootedPath p) start)
  | "expanduser", _, [p] => do
    let home := match keyed? (← environmentTable) (.ofString "HOME") with
      | some (.text h) => h
      | _ => "/root".toList
    match p with
    | ['~'] => text home
    | '~' :: '/' :: rest => text (home ++ '/' :: rest)
    | p => text p
  | "expandvars", _, [p] => do text (expandedNames (← environmentTable) (p.length + 1) p)
  | "samefile", [_, w], [p] => do answer ((← realPath p) == (← realPath (← pathText ev w)))
  | "commonprefix", [v], _ => do
    let all ← (← itemsOf ev v).mapM (pathText ev)
    match all with
    | [] => text []
    | p :: rest => text (rest.foldl commonStart p)
  | "commonpath", [v], _ => do
    let all ← (← itemsOf ev v).mapM (pathText ev)
    match all.map PathName.parts with
    | [] => unfit "commonpath() arg is an empty sequence"
    | p :: rest =>
      let rec common : List (List Char) → List (List Char) → List (List Char)
        | a :: as, b :: bs => if a = b then a :: common as bs else []
        | _, _ => []
      match rest.foldl common p with
      | ['/'] :: names => text ('/' :: PathName.joinNames names)
      | names => text (PathName.joinNames names)
  | _, _, _ => return none

/-! ### Programs -/

/-- How a program that ended is reported: by its number, or by the signal below zero. -/
def returnCode : Status → Int
  | .exited n => n
  | .killed n => -(n : Int)

/-- Starts a program with what it can read, in an environment. -/
def startProgram (words : List (List Char)) (input : ByteArray)
    (environment : List (Value × Value)) : Run Completion := do
  match words with
  | [] => fail "IndexError" "list index out of range"
  | program :: arguments => do
    let names := environment.filterMap fun m => match m with
      | (.text k, .text v) => some (String.ofList k, String.ofList v)
      | _ => none
    let i : Invocation := {
      program := storagePath program, arguments := arguments.map String.ofList, input
      environment := some names }
    let s ← get
    match (← read).start i s.storage with
    | .ok (c, storage) => do
      set { s with storage := { storage with current := s.storage.current } }
      return c
    | .error fault => failStorage fault (.text program)

/-- Where the channels of a program lead. -/
structure ProgramOrder where
  /-- What it is started with. -/
  words : List (List Char)
  /-- What it can read. -/
  input : ByteArray
  /-- The environment. -/
  environment : List (Value × Value)
  /-- Whether its output is collected. -/
  takesOutput : Bool
  /-- Whether its errors are collected. -/
  takesErrors : Bool
  /-- Whether its output goes nowhere. -/
  dropsOutput : Bool
  /-- Whether its errors go nowhere. -/
  dropsErrors : Bool
  /-- Whether its errors go where its output goes. -/
  joinsErrors : Bool
  /-- Whether what is collected is a text. -/
  isText : Bool
  /-- Whether its failure is one of the script. -/
  isChecked : Bool
  /-- The directory that it starts in. -/
  directory : Option (List Char)

/-- Reads what a program is started with. -/
def programOrder (given : List Value) (named : Members Value) (takesOutput isChecked : Bool) :
    Run ProgramOrder := do
  let flag (name : String) : Run Bool := do
    match Members.get? named name with
    | some v => truth ev v
    | none => return false
  let first := (given.head?.orElse fun _ => Members.get? named "args").getD .nothing
  let isShell ← flag "shell"
  let words ← match first with
    | .text cs => pure [cs]
    | v => do (← itemsOf ev v).mapM fun w => do
        match ← orNone "TypeError" (pathText ev w) with
        | some cs => return cs
        | none =>
          misfit s!"expected str, bytes or os.PathLike object, not {← kindName w}"
  let words := if isShell then ["/bin/sh".toList, "-c".toList] ++ words else words
  let captures ← flag "capture_output"
  let channel (name : String) : Option Int :=
    match Members.get? named name with
    | some (.number n) => some n
    | _ => none
  let isText := (← flag "text") || (← flag "universal_newlines") ||
    ((Members.get? named "encoding").map fun v => !isSame v .nothing).getD false
  let input ← match Members.get? named "input" with
    | some (.text cs) => pure (String.ofList cs).toUTF8
    | some (.octets bytes) => pure ⟨bytes.toArray⟩
    | _ =>
      match Members.get? named "stdin" with
      | some (.thing place) =>
        match (← get).things[place]? with
        | some (.file f) => pure (f.contents.extract f.place f.contents.size)
        | _ => pure .empty
      | _ => pure .empty
  let environment ← match Members.get? named "env" with
    | some (.thing place) =>
      match (← get).things[place]? with
      | some (.table _ _ members) => pure members
      | _ => environmentTable
    | _ => environmentTable
  let directory ← match Members.get? named "cwd" with
    | some .nothing => pure none
    | some v => do pure (some (← pathText ev v))
    | none => pure none
  return {
    words, input, environment, isText, directory
    takesOutput := takesOutput || captures || channel "stdout" == some (-1)
    takesErrors := captures || channel "stderr" == some (-1)
    dropsOutput := channel "stdout" == some (-3)
    dropsErrors := channel "stderr" == some (-3)
    joinsErrors := channel "stderr" == some (-2)
    isChecked := isChecked || (← flag "check") }

/-- Runs a program: how it ended, and what was collected. -/
def runProgram (o : ProgramOrder) : Run (Int × Value × Value) := do
  let before := (← get).storage.current
  match o.directory with
  | some p =>
    match (← get).storage.resolve true (storagePath p) with
    | .ok (.node l (.directory _)) =>
      modify fun s => { s with storage := { s.storage with current := l } }
    | .ok (.node _ _) => failStorage .notDirectory (.text p)
    | _ => failStorage .notFound (.text p)
  | none => pure ()
  let r ← attempt (startProgram o.words o.input o.environment)
  modify fun s => { s with storage := { s.storage with current := before } }
  match r with
  | .error signal => throw signal
  | .ok c => do
    let errors := if o.joinsErrors then .empty else c.errors
    let output := if o.joinsErrors then c.output ++ c.errors else c.output
    let collected (bytes : ByteArray) : Run Value := do
      if o.isText then
        return .text (plainLines (← decoded .utf8 "strict" bytes.data.toList))
      else return .octets bytes.data.toList
    if !o.takesOutput && !o.dropsOutput then writeBytes 1 output
    if !o.takesErrors && !o.dropsErrors then writeBytes 2 errors
    let out ← if o.takesOutput then collected output else pure .nothing
    let err ← if o.takesErrors then collected errors else pure .nothing
    return (returnCode c.status, out, err)

/-- Fails because a program did not end well. -/
def failProgram {α : Type} (command : Value) (code : Int) (output errors : Value) : Run α := do
  let what := String.ofList (← shown ev command)
  let text := if code < 0 then s!"Command '{what}' died with <Signals.{signalName code.natAbs}: {code.natAbs}>."
    else s!"Command '{what}' returned non-zero exit status {code}."
  raise (← makeFailure "subprocess.CalledProcessError" [.number code, command]
    [("returncode", .number code), ("cmd", command), ("output", output), ("stdout", output),
      ("stderr", errors), ("__text__", .ofString text)])
where
  /-- The name of a signal. -/
  signalName : Nat → String
    | 1 => "SIGHUP"
    | 2 => "SIGINT"
    | 9 => "SIGKILL"
    | 13 => "SIGPIPE"
    | 15 => "SIGTERM"
    | n => s!"{n}"

/-- What a function of programs does; none when there is no such function. -/
def callProgram (name : String) (given : List Value) (named : Members Value) :
    Run (Option Value) := do
  let command := (given.head?.orElse fun _ => Members.get? named "args").getD .nothing
  match name with
  | "run" => do
    let o ← programOrder ev given named false false
    let (code, out, err) ← runProgram o
    if o.isChecked && code != 0 then
      inside [["  File \"/usr/lib/python3.12/subprocess.py\", line 571, in run",
        "    raise CalledProcessError(retcode, process.args,"]] (failProgram ev command code out err)
    else
      return some (← make (.plain (.known "subprocess.CompletedProcess")
        [("args", command), ("returncode", .number code), ("stdout", out), ("stderr", err)]))
  | "check_output" => do
    let o ← programOrder ev given named true true
    let (code, out, err) ← runProgram o
    if code != 0 then
      inside [["  File \"/usr/lib/python3.12/subprocess.py\", line 466, in check_output",
        "    return run(*popenargs, stdout=PIPE, timeout=timeout, check=True,",
        "           ^^^^^^^^^^^^^^^^^^^^^^^^^^^^^^^^^^^^^^^^^^^^^^^^^^^^^^^^^"],
        ["  File \"/usr/lib/python3.12/subprocess.py\", line 571, in run",
        "    raise CalledProcessError(retcode, process.args,"]] (failProgram ev command code out err)
    else return some out
  | "call" => do
    let (code, _, _) ← runProgram (← programOrder ev given named false false)
    return some (.number code)
  | "check_call" => do
    let (code, out, err) ← runProgram (← programOrder ev given named false false)
    if code != 0 then
      inside [["  File \"/usr/lib/python3.12/subprocess.py\", line 413, in check_call",
        "    raise CalledProcessError(retcode, cmd)"]] (failProgram ev command code out err)
    else return some (.number 0)
  | "getoutput" => do
    let o ← programOrder ev given [("shell", .truth true), ("text", .truth true),
      ("stderr", .number (-2))] true false
    let (_, out, _) ← runProgram o
    match out with
    | .text cs => return some (.text (if cs.getLast? = some '\n' then cs.dropLast else cs))
    | v => return some v
  | "getstatusoutput" => do
    let o ← programOrder ev given [("shell", .truth true), ("text", .truth true),
      ("stderr", .number (-2))] true false
    let (code, out, _) ← runProgram o
    match out with
    | .text cs =>
      return some (.tuple [.number code, .text (if cs.getLast? = some '\n' then cs.dropLast else cs)])
    | v => return some (.tuple [.number code, v])
  | _ => return none

/-! ### Storage -/

/-- The directories below one, each with the names of the directories and files in it. -/
def walked (p : List Char) (fromTop : Bool) : Nat → Run (List Value)
  | 0 => return []
  | depth + 1 => do
    match (← get).storage.entries (storagePath p) with
    | .error _ => return []
    | .ok entries => do
      let storage := (← get).storage
      let isDir (e : String × Storage.Node) : Bool :=
        storage.isDirectory (storagePath (PathName.join p e.1.toList))
      let dirs := entries.filter isDir
      let files := entries.filter fun e => !isDir e
      let dirNames ← makeTexts (dirs.map fun e => e.1.toList)
      let fileNames ← makeTexts (files.map fun e => e.1.toList)
      let here := Value.tuple [.text p, dirNames, fileNames]
      let below ← dirs.mapM fun e =>
        match e.2 with
        | .link _ => return []
        | _ => walked (PathName.join p e.1.toList) fromTop depth
      return if fromTop then here :: below.flatten else below.flatten ++ [here]

/-- The paths below a directory that fit the names of a pattern; two stars stand for any depth. -/
def globbed (storage : Storage) (isHiddenShown : Bool) : Nat → List Char → List (List Char) →
    List (List Char)
  | 0, _, _ => []
  | _ + 1, p, [] => [p]
  | fuel + 1, p, pattern :: rest =>
    let under (name : List Char) : List Char := if p.isEmpty then name else PathName.join p name
    let entries := ((storage.entries (if p.isEmpty then ⟨"."⟩ else storagePath p)).toOption).getD []
    if pattern = ['*', '*'] then
      let dirs := entries.filter fun e =>
        storage.isDirectory (storagePath (under e.1.toList)) &&
          (isHiddenShown || e.1.toList.head? != some '.')
      globbed storage isHiddenShown fuel p rest ++
        dirs.flatMap fun e => globbed storage isHiddenShown fuel (under e.1.toList) (pattern :: rest)
    else if pattern.any fun c => c = '*' || c = '?' || c = '[' then
      let fitting := entries.filter fun e =>
        (isHiddenShown || e.1.toList.head? != some '.' || pattern.head? = some '.') &&
          Text.glob pattern e.1.toList
      fitting.flatMap fun e =>
        if rest.isEmpty || storage.isDirectory (storagePath (under e.1.toList)) then
          globbed storage isHiddenShown fuel (under e.1.toList) rest
        else []
    else
      let next := under pattern
      if (storage.node? false (storagePath next)).toOption.isSome then
        globbed storage isHiddenShown fuel next rest
      else []

/-- The paths that fit a pattern. -/
def globPaths (pattern : List Char) : Run (List (List Char)) := do
  let storage := (← get).storage
  let start : List Char := if pattern.head? = some '/' then ['/'] else []
  let names := (Text.cut '/' pattern).filter fun n => !n.isEmpty
  return globbed storage false 64 start names

/-- Makes a directory, and those above it on demand. -/
def makeDirectoryAt (v : Value) (p : List Char) (deep mayExist : Bool) : Run Unit := do
  let path := storagePath p
  let isThere := (← get).storage.isDirectory path
  if isThere && mayExist then return ()
  else if deep then
    if (← nodeAt? true p).isSome then failStorage .taken v
    else changeStorage v fun s => s.makeDirectories path
  else changeStorage v fun s => s.makeDirectory path

/-- Copies a file. -/
def copyFile (given aim : Value) : Run Value := do
  let source ← pathText ev given
  let target ← pathText ev aim
  let target := if (← get).storage.isDirectory (storagePath target) then
    PathName.join target (PathName.base source) else target
  let bytes ← stored given ((← get).storage.readBytes (storagePath source))
  changeStorage aim fun s => s.writeBytes (storagePath target) bytes
  return .text target

/-- What a function of the system does; none when there is no such function. -/
def callSystem (name : String) (given : List Value) (named : Members Value) :
    Run (Option Value) := do
  let done (x : Run Unit) : Run (Option Value) := do
    x
    return some .nothing
  let flag (name : String) (usual : Bool) : Run Bool := do
    match Members.get? named name with
    | some v => truth ev v
    | none => return usual
  match name, given with
  | "getcwd", _ => return some (.text (← currentPath))
  | "chdir", [v] => done do
    let p ← pathText ev v
    match (← get).storage.resolve true (storagePath p) with
    | .ok (.node l (.directory _)) =>
      modify fun s => { s with storage := { s.storage with current := l } }
    | .ok (.node _ _) => failStorage .notDirectory v
    | .ok (.free _) => failStorage .notFound v
    | .error fault => failStorage fault v
  | "listdir", given => do
    let v := given.headD (.text ['.'])
    let entries ← namesIn v (← pathText ev v)
    return some (← makeTexts (entries.map fun e => e.1.toList))
  | "scandir", given => do
    let v := given.headD (.text ['.'])
    let p ← pathText ev v
    let entries ← namesIn v p
    let rows ← entries.mapM fun e => do
      let path := PathName.join p e.1.toList
      let isDir := (← get).storage.isDirectory (storagePath path)
      make (.plain (.known "types.SimpleNamespace")
        [("name", .ofString e.1), ("path", .text path),
          ("is_dir", .known (if isDir then "os.yes" else "os.no")),
          ("is_file", .known (if isDir then "os.no" else "os.yes"))])
    return some (← makeRow "posix.ScandirIterator" rows)
  | "yes", _ => return some (.truth true)
  | "no", _ => return some (.truth false)
  | "mkdir", v :: _ => done do makeDirectoryAt v (← pathText ev v) false false
  | "makedirs", v :: rest => done do
    let mayExist ← match rest with
      | [_, b] => truth ev b
      | _ => flag "exist_ok" false
    inside [["  File \"<frozen os>\", line 225, in makedirs"]]
      (do makeDirectoryAt v (← pathText ev v) true mayExist)
  | "remove", [v] => done do
    let p ← pathText ev v
    match ← nodeAt? false p with
    | some (.directory _) => failStorage .isDirectory v
    | _ => changeStorage v fun s => s.remove (storagePath p)
  | "rmdir", [v] => done do
    let p ← pathText ev v
    changeStorage v fun s => s.removeDirectory (storagePath p)
  | "removedirs", [v] => done do
    let p ← pathText ev v
    changeStorage v fun s => s.removeDirectory (storagePath p)
  | "rename", v :: w :: _ => done do
    let p ← pathText ev v
    let q ← pathText ev w
    match (← get).storage.move (storagePath p) (storagePath q) with
    | .ok storage => modify fun s => { s with storage }
    | .error fault => do
      let number : Int := (fault.number?.getD 22 : Nat)
      raise (← makeFailure (systemFailureKind number) [.number number, .ofString fault.reason]
        [("errno", .number number), ("strerror", .ofString fault.reason), ("filename", v),
          ("filename2", w)])
  | "symlink", v :: w :: _ => done do
    let target ← pathText ev v
    let p ← pathText ev w
    changeStorage w fun s => s.makeLink (storagePath p) (storagePath target)
  | "readlink", [v] => do
    match ← stored v ((← get).storage.node? false (storagePath (← pathText ev v))) with
    | .link target => return some (.ofString target.text)
    | _ => failStorage .outOfRange v
  | "chmod", v :: mode :: _ => done do
    let p ← pathText ev v
    let mode ← numberArgument ev mode
    changeStorage v fun s => s.setMode (storagePath p) mode.toNat
  | "stat", v :: _ => return some (← statusOf true v (← pathText ev v))
  | "lstat", v :: _ => return some (← statusOf false v (← pathText ev v))
  | "access", v :: mode :: _ => do
    let mode ← numberArgument ev mode
    match ← nodeAt? true (← pathText ev v) with
    | none => return some (.truth false)
    | some (.file _ bits) =>
      return some (.truth (bitsAnd mode 1 = 0 || bits &&& 0o111 != 0))
    | some _ => return some (.truth true)
  | "walk", v :: rest => do
    let fromTop ← match rest with
      | b :: _ => truth ev b
      | [] => flag "topdown" true
    return some (← makeRow "generator" (← walked (← pathText ev v) fromTop 64))
  | "getenv", k :: rest => do
    return some ((keyed? (← environmentTable) k).getD
      (rest.headD ((Members.get? named "default").getD .nothing)))
  | "putenv", _ => return some .nothing
  | "fspath", [v] => do
    match v with
    | .text _ => return some v
    | .octets _ => return some v
    | v => return some (.text (← pathText ev v))
  | "fsdecode", [v] => return some (.text (← pathText ev v))
  | "fsencode", [v] => return some (.octets (← encoded .utf8 "strict" (← pathText ev v)))
  | "strerror", [.number n] =>
    let faults : List Storage.Fault := [.notFound, .denied, .taken, .notDirectory, .isDirectory,
      .outOfRange, .badProgram, .linkLoop, .notEmpty]
    match faults.find? fun f => f.number?.map (fun (k : Nat) => (k : Int)) == some n with
    | some f => return some (.ofString f.reason)
    | none => return some (.ofString s!"Unknown error {n}")
  | "system", [v] => do
    let o ← programOrder ev [v] [("shell", .truth true)] false false
    let (code, _, _) ← runProgram o
    return some (.number (if code < 0 then -code else code * 256))
  | "popen", v :: _ => do
    let o ← programOrder ev [v] [("shell", .truth true)] true false
    let (_, out, _) ← runProgram o
    let bytes := match out with
      | .octets bytes => bytes
      | _ => []
    return some (← make (.file {
      path := "<popen>".toList, mode := ['r'], contents := ⟨bytes.toArray⟩, isStored := false }))
  | "getpid", _ => return some (.number 4242)
  | "getppid", _ => return some (.number 4241)
  | "getuid", _ => return some (.number 0)
  | "geteuid", _ => return some (.number 0)
  | "getgid", _ => return some (.number 0)
  | "getegid", _ => return some (.number 0)
  | "cpu_count", _ => return some (.number 1)
  | "umask", _ => return some (.number 0o22)
  | "_exit", [v] => do raise (← makeFailureFrom "SystemExit" [v] [])
  | "truncate", [v, n] => done do
    let p ← pathText ev v
    let size ← numberArgument ev n
    let c ← stored v ((← get).storage.readContents (storagePath p))
    changeStorage v fun s => s.writeContents (storagePath p) (c.resize size.toNat)
  | _, _ => return none

/-- What a function for whole files does; none when there is no such function. -/
def callShutil (name : String) (given : List Value) (named : Members Value) :
    Run (Option Value) := do
  match name, given with
  | "copy", v :: w :: _ => return some (← copyFile ev v w)
  | "copyfile", v :: w :: _ => return some (← copyFile ev v w)
  | "copyfileobj", v :: w :: _ => do
    match v, w with
    | .thing a, .thing b => do
      let _ ← writeFile b (← readFile a none)
      return some .nothing
    | _, _ => return none
  | "move", v :: w :: _ => do
    let p ← pathText ev v
    let q ← pathText ev w
    let q := if (← get).storage.isDirectory (storagePath q) then PathName.join q (PathName.base p) else q
    changeStorage v fun s => s.move (storagePath p) (storagePath q)
    return some (.text q)
  | "rmtree", v :: rest => do
    let p ← pathText ev v
    let ignores ← match rest, Members.get? named "ignore_errors" with
      | b :: _, _ => truth ev b
      | [], some b => truth ev b
      | [], none => pure false
    if ignores && (← nodeAt? false p).isNone then return some .nothing
    else do
      changeStorage v fun s => s.remove (storagePath p)
      return some .nothing
  | "which", v :: _ => do
    let p ← pathText ev v
    match (← read).start { program := storagePath p, arguments := ["--version"] } (← get).storage with
    | .ok _ => return some (if p.contains '/' then .text p else .text ("/usr/bin/".toList ++ p))
    | .error _ => return some .nothing
  | _, _ => return none

/-! ### Values for paths -/

/-- What a path has under a name without being asked to do something. -/
def pathProperty? (p : List Char) (name : String) : Run (Option Value) := do
  let text (cs : List Char) : Run (Option Value) := return some (.text cs)
  match name with
  | "name" => text (PathName.name p)
  | "suffix" => text (PathName.ending (PathName.name p))
  | "stem" =>
    let n := PathName.name p
    text (n.take (n.length - (PathName.ending n).length))
  | "suffixes" =>
    let n := PathName.name p
    if n.getLast? = some '.' then return some (← makeList [])
    else
      let names := (Text.cut '.' (n.dropWhile (· = '.'))).drop 1
      return some (← makeTexts (names.map fun e => '.' :: e))
  | "parent" => return some (← makePath (PathName.above p))
  | "parents" =>
    let rec go : Nat → List Char → List (List Char)
      | 0, _ => []
      | fuel + 1, p =>
        let q := PathName.above p
        if q = p then [] else q :: go fuel q
    return some (.tuple (← (go p.length p).mapM makePath))
  | "parts" =>
    return some (.tuple (if p = ['.'] then [] else (PathName.parts p).map .text))
  | "anchor" => text (if p.head? = some '/' then ['/'] else [])
  | "root" => text (if p.head? = some '/' then ['/'] else [])
  | "drive" => text []
  | _ => return none

/-- What a path does under a name. -/
def pathAbility (owner : Value) (name : String) (p : List Char) (given : List Value)
    (named : Members Value) : Run Value := do
  let shownPath := Value.text p
  let flag (name : String) : Run Bool := do
    match Members.get? named name with
    | some v => truth ev v
    | none => return false
  let openSelf (mode : List Char) : Run Nat := do
    let encoding ← match Members.get? named "encoding", given with
      | some (.text e), _ => encodingOf e
      | _, [.text e] => if name == "read_text" then encodingOf e else pure .utf8
      | _, _ => pure .utf8
    let errors := match Members.get? named "errors" with
      | some (.text e) => String.ofList e
      | _ => "strict"
    match ← openFile p mode encoding errors with
    | .thing place => return place
    | _ => throw .spent
  let openInner (text : String) : List (List String) :=
    [[s!"  File \"/usr/lib/python3.12/pathlib.py\", line {text}"],
      ["  File \"/usr/lib/python3.12/pathlib.py\", line 1015, in open",
      "    return io.open(self, mode, buffering, encoding, errors, newline)",
      "           ^^^^^^^^^^^^^^^^^^^^^^^^^^^^^^^^^^^^^^^^^^^^^^^^^^^^^^^^^"]]
  match name, given with
  | "exists", _ => return .truth (← nodeAt? true p).isSome
  | "is_file", _ => return .truth ((← get).storage.isFile (storagePath p))
  | "is_dir", _ => return .truth ((← get).storage.isDirectory (storagePath p))
  | "is_symlink", _ => do
    match ← nodeAt? false p with
    | some (.link _) => return .truth true
    | _ => return .truth false
  | "is_absolute", _ => return .truth (p.head? = some '/')
  | "__fspath__", _ => return .text p
  | "read_text", _ => do
    readFile (← inside (openInner "1029, in read_text") (openSelf ['r'])) none
  | "read_bytes", _ => do
    readFile (← inside (openInner "1019, in read_bytes") (openSelf ['r', 'b'])) none
  | "write_text", v :: _ => do
    match v with
    | .text _ => do writeFile (← openSelf ['w']) v
    | v => misfit s!"data must be str, not {← kindName v}"
  | "write_bytes", v :: _ => do writeFile (← openSelf ['w', 'b']) v
  | "open", given => do
    let mode := match given, Members.get? named "mode" with
      | .text m :: _, _ => m
      | [], some (.text m) => m
      | _, _ => ['r']
    return .thing (← openSelf mode)
  | "mkdir", _ => do
    makeDirectoryAt shownPath p (← flag "parents") (← flag "exist_ok")
    return .nothing
  | "touch", _ => do
    if (← nodeAt? true p).isNone then changeStorage shownPath fun s => s.writeBytes (storagePath p) .empty
    return .nothing
  | "unlink", _ => do
    if (← flag "missing_ok") && (← nodeAt? false p).isNone then return .nothing
    else
      match ← nodeAt? false p with
      | some (.directory _) => failStorage .isDirectory shownPath
      | _ => do
        changeStorage shownPath fun s => s.remove (storagePath p)
        return .nothing
  | "rmdir", _ => do
    changeStorage shownPath fun s => s.removeDirectory (storagePath p)
    return .nothing
  | "rename", v :: _ => do
    let q ← pathText ev v
    changeStorage shownPath fun s => s.move (storagePath p) (storagePath q)
    makePath q
  | "replace", v :: _ => do
    let q ← pathText ev v
    changeStorage shownPath fun s => s.move (storagePath p) (storagePath q)
    makePath q
  | "iterdir", _ => do
    let entries ← namesIn shownPath p
    makeRow "generator" (← entries.mapM fun e => makePath (PathName.join p e.1.toList))
  | "glob", v :: _ => do
    let pattern ← pathText ev v
    let storage := (← get).storage
    let names := (Text.cut '/' pattern).filter fun n => !n.isEmpty
    let start := if p = ['.'] then [] else p
    makeRow "generator" (← (globbed storage true 64 start names).mapM makePath)
  | "rglob", v :: _ => do
    let pattern ← pathText ev v
    let storage := (← get).storage
    let names := ['*', '*'] :: (Text.cut '/' pattern).filter fun n => !n.isEmpty
    let start := if p = ['.'] then [] else p
    makeRow "generator" (← (globbed storage true 64 start names).mapM makePath)
  | "joinpath", given => do makePath ((← given.mapM (pathText ev)).foldl PathName.join p)
  | "with_suffix", v :: _ => do
    let e ← pathText ev v
    let n := PathName.name p
    if !e.isEmpty && (e.head? != some '.' || e.length = 1) then
      unfit s!"Invalid suffix {String.ofList (← shown ev v)}"
    else if n.isEmpty then unfit s!"{String.ofList (← shown ev owner)} has an empty name"
    else makePath (p.take (p.length - (PathName.ending n).length) ++ e)
  | "with_name", v :: _ => do
    let n := PathName.name p
    makePath (p.take (p.length - n.length) ++ (← pathText ev v))
  | "with_stem", v :: _ => do
    let n := PathName.name p
    makePath (p.take (p.length - n.length) ++ (← pathText ev v) ++ PathName.ending n)
  | "relative_to", v :: _ => do
    let q := PathName.tidy (← pathText ev v)
    let a := PathName.parts p
    let b := if q = ['.'] then [] else PathName.parts q
    if b.isPrefixOf a then
      let rest := a.drop b.length
      makePath (PathName.joinNames rest)
    else unfit s!"'{String.ofList p}' is not in the subpath of '{String.ofList q}'"
  | "is_relative_to", v :: _ => do
    let q := PathName.tidy (← pathText ev v)
    return .truth ((PathName.parts q).isPrefixOf (PathName.parts p))
  | "resolve", _ => do makePath (← realPath p)
  | "absolute", _ => do makePath (PathName.join (← currentPath) p)
  | "as_posix", _ => return .text p
  | "as_uri", _ => return .text ("file://".toList ++ p)
  | "expanduser", _ => return owner
  | "stat", _ => statusOf true shownPath p
  | "lstat", _ => statusOf false shownPath p
  | "match", v :: _ => do
    let pattern := PathName.parts (PathName.tidy (← pathText ev v))
    let own := PathName.parts p
    let last := own.drop (own.length - pattern.length)
    return .truth (last.length = pattern.length && (pattern.zip last).all fun (a, b) => Text.glob a b)
  | "readlink", _ => do
    match ← stored shownPath ((← get).storage.node? false (storagePath p)) with
    | .link target => makePath target.text.toList
    | _ => failStorage .outOfRange shownPath
  | "symlink_to", v :: _ => do
    let target ← pathText ev v
    changeStorage shownPath fun s => s.makeLink (storagePath p) (storagePath target)
    return .nothing
  | "chmod", v :: _ => do
    let mode ← numberArgument ev v
    changeStorage shownPath fun s => s.setMode (storagePath p) mode.toNat
    return .nothing
  | "samefile", v :: _ => return .truth ((← realPath p) == (← realPath (← pathText ev v)))
  | "cwd", _ => do makePath (← currentPath)
  | "home", _ => do makePath "/root".toList
  | name, given => wrongArguments name given

end Run

end FirmwareSurvey.ResultScript
