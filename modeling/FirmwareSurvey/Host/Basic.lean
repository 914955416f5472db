import FirmwareSurvey.Config.Basic
import FirmwareSurvey.Members
import FirmwareSurvey.Storage.Basic
import FirmwareSurvey.Text.Octets

/-!
# Hosts

A survey runs on a host. The host starts programs, which read and change storage, and knows a few
things about the run: which programs are installed, where the survey's own program lies, what the
environment says and what time it is. All of it is data, so that a statement may range over every
host, whatever its programs do.

A computation on a host may fail; what it did to storage until then stays.
-/

namespace FirmwareSurvey

/-- How a program is started. -/
structure Invocation where
  /-- The program: a path, or the bare name of one that is installed. -/
  program : Path
  /-- The arguments. -/
  arguments : List String := []
  /-- What the program can read. -/
  input : ByteArray := .empty
  /-- The names that it is given, with their values; those of the survey when nothing else is said. -/
  environment : Option (List (String × String)) := none

/-- How a program ended. -/
inductive Status where
  /-- It ended by itself, with a number. -/
  | exited (code : Nat)
  /-- It was ended by a signal. -/
  | killed (signal : Nat)
deriving DecidableEq, Repr

/-- Whether a program reports success. -/
def Status.isSuccess (s : Status) : Bool := s == .exited 0

/-- The wording of how a program ended. -/
def Status.text : Status → String
  | .exited code => s!"status {code}"
  | .killed _ => "signal"

/-- What a program leaves behind when it has ended. -/
structure Completion where
  /-- What it wrote. -/
  output : ByteArray := .empty
  /-- What it wrote about errors. -/
  errors : ByteArray := .empty
  /-- How it ended. -/
  status : Status
  /-- What it left of what it could read, if it read anything. -/
  unread : Option ByteArray := none

/-- What a survey runs on. -/
structure Host where
  /-- Starts a program and waits until it has ended; or tells why it cannot be started. -/
  run : Invocation → Storage → Except Storage.Fault (Completion × Storage)
  /-- Whether a bare name is that of an installed program. -/
  isInstalled : Path → Bool
  /-- Where the survey's own program lies. -/
  ownProgram : Except Storage.Fault Path
  /-- The configuration file that the environment names. -/
  configVariable : Option Path
  /-- The current directory, as an absolute path. -/
  currentDirectory : Path
  /-- The time, as it is written. -/
  now : String

/-- A computation on a host and its storage. -/
abbrev OnHost (ε α : Type) := ReaderT Host (ExceptT ε (StateM Storage)) α

namespace OnHost

variable {ε α : Type}

/-- Looks at storage. -/
def look (f : Storage → α) : OnHost ε α := return f (← get)

/-- Looks at storage where that may fail, and names the failure. -/
def tryLook {β : Type} (f : Storage → Except β α) (wrap : β → ε) : OnHost ε α := do
  match f (← get) with
  | .ok a => return a
  | .error e => throw (wrap e)

/-- Changes storage where that may fail, and names the failure. -/
def tryChange {β : Type} (f : Storage → Except β Storage) (wrap : β → ε) : OnHost ε Unit := do
  match f (← get) with
  | .ok s => set s
  | .error e => throw (wrap e)

/-- Runs a program where that may fail, and names the failure. -/
def runProgram (i : Invocation) (wrap : Storage.Fault → ε) : OnHost ε Completion := do
  match (← read).run i (← get) with
  | .ok (c, s) => do
    set s
    return c
  | .error e => throw (wrap e)

/-- Names the failure of a computation anew. -/
def mapError {β : Type} (wrap : β → ε) (x : OnHost β α) : OnHost ε α := fun host => do
  match ← (x host).run with
  | .ok a => return a
  | .error e => throw (wrap e)

/-- The result of a computation, a failure included. -/
def attempt {β : Type} (x : OnHost β α) : OnHost ε (Except β α) := fun host => do
  let r ← (x host).run
  return r

/-- Runs a computation on a host, from storage to storage. -/
def exec (x : OnHost ε α) (host : Host) (s : Storage) : Except ε α × Storage :=
  (x host).run.run s

end OnHost

end FirmwareSurvey

/-!
## Running the programs of a survey

Every call starts one program and waits for its end. A program that is not there is told apart from
one that cannot be started; the strict calls also fail when the program reports failure.
-/

namespace FirmwareSurvey

namespace Tool

/-- Why a program was of no use. -/
inductive Error where
  /-- It is not there. -/
  | missing (tool : Tool) (path : Path)
  /-- It cannot be started. -/
  | spawn (tool : Tool) (cause : Storage.Fault)
  /-- A directory for its work cannot be made. -/
  | workspace (path : Path) (cause : Storage.Fault)
  /-- It reports failure. -/
  | failed (tool : Tool) (status : Status) (errors : String)
deriving DecidableEq

/-- The wording of an error. -/
def Error.message : Error → String
  | .missing tool path =>
    s!"{tool.name} not found at '{path}'. Run inside the analysis shell that provides binwalk, " ++
      "strings, file, grep, dd, gunzip and curl, or set [tools]." ++ tool.name ++
      " in fwprobe.toml"
  | .spawn tool cause => s!"Failed to spawn {tool.name}: {cause.message}"
  | .workspace path cause => s!"Failed to prepare directory {path}: {cause.message}"
  | .failed tool status errors => s!"{tool.name} exited with {status.text}: {errors}"

/-- Whether an error says that the program is not there. -/
def Error.isMissing : Error → Bool
  | .missing _ _ => true
  | _ => false

/-- The error of a program that was not started. -/
def startError (tool : Tool) (path : Path) (cause : Storage.Fault) : Error :=
  if cause = .notFound then .missing tool path else .spawn tool cause

variable (paths : Config.ToolPaths)

/-- Whether a program is there: at its path, or installed under its bare name. -/
def isAvailable (tool : Tool) : OnHost Error Bool := do
  let path := paths.path tool
  if 1 < path.parts.length then return (← get).isFile path
  else return (← read).isInstalled path

/-- Runs a program whatever it reports. -/
def runLenient (tool : Tool) (arguments : List String) (input : ByteArray) :
    OnHost Error Completion :=
  OnHost.runProgram { program := paths.path tool, arguments, input } (startError tool (paths.path tool))

/-- Runs a program that has to report success. -/
def run (tool : Tool) (arguments : List String) : OnHost Error Completion := do
  let c ← runLenient paths tool arguments .empty
  if c.status.isSuccess then return c
  else throw (.failed tool c.status (Text.trim (Text.lossy c.errors)))

/-- The table of what is found in an image. -/
def scanImage (image : Path) : OnHost Error String := do
  return Text.lossy (← run paths .binwalk [image.text]).output

/-- Unpacks an image into a directory. -/
def unpackImage (image directory : Path) : OnHost Error Unit := do
  let _ ← run paths .binwalk ["-e", "-C", directory.text, image.text]

/-- The printable runs of a file. -/
def listStrings (file : Path) (least : Nat) : OnHost Error (List String) := do
  let c ← run paths .strings ["-a", "-n", toString least, file.text]
  return Text.lines (Text.lossy c.output)

/-- The type of a file. -/
def describeFile (file : Path) : OnHost Error String := do
  return Text.trim (Text.lossy (← run paths .file ["-b", file.text]).output)

/-- The files below a directory in which a pattern is found. -/
def filesMatching (pattern : String) (directory : Path) : OnHost Error (List Path) := do
  let c ← runLenient paths .grep ["-rlIE", pattern, directory.text] .empty
  let files := (Text.lines (Text.lossy c.output)).filter (· != "")
  return Sorting.sort Path.le (files.map Path.mk)

/-- Downloads a file. -/
def download (url : String) (destination : Path) : OnHost Error Unit := do
  let _ ← run paths .curl ["-fL", "-o", destination.text, url]

end Tool

end FirmwareSurvey
