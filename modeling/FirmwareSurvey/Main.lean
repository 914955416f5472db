import FirmwareSurvey.Command.Own
import FirmwareSurvey.Storage.Find
import FirmwareSurvey.Text.Numeral

/-!
# The survey as a program

The program does on files what its arguments ask for, and writes the time of the clock.
-/

/-!
## Writing the time

The time is written as a date of the calendar and a time of day, without offset from the zero
meridian. Years are counted from March here, so that the day that some years have more comes last.
-/

namespace FirmwareSurvey.Clock

/-- A date of the calendar. -/
structure Date where
  /-- The year. -/
  year : Nat
  /-- The month, from one. -/
  month : Nat
  /-- The day of the month, from one. -/
  day : Nat
deriving DecidableEq, Repr

/-- The date of a day, counted from the first of January 1970. -/
def dateOfDay (day : Nat) : Date :=
  let sinceMarch := day + 719468
  let era := sinceMarch / 146097
  let dayOfEra := sinceMarch % 146097
  let yearOfEra := (dayOfEra - dayOfEra / 1460 + dayOfEra / 36524 - dayOfEra / 146096) / 365
  let dayOfYear := dayOfEra - (365 * yearOfEra + yearOfEra / 4 - yearOfEra / 100)
  let month := (5 * dayOfYear + 2) / 153
  let dayOfMonth := dayOfYear - (153 * month + 2) / 5 + 1
  let year := yearOfEra + 400 * era
  if month < 10 then ⟨year, month + 3, dayOfMonth⟩ else ⟨year + 1, month - 9, dayOfMonth⟩

/-- A number of at least a number of digits. -/
def digits (width n : Nat) : String := String.ofList (Text.padZeros width (Text.decimalChars n))

/-- The text of a time, counted in seconds from the beginning of 1970. -/
def text (seconds : Nat) : String :=
  let date := dateOfDay (seconds / 86400)
  let time := seconds % 86400
  digits 4 date.year ++ "-" ++ digits 2 date.month ++ "-" ++ digits 2 date.day ++ "T" ++
    digits 2 (time / 3600) ++ ":" ++ digits 2 (time / 60 % 60) ++ ":" ++ digits 2 (time % 60) ++
    "+00:00"

end FirmwareSurvey.Clock

/-!
## The program

The program reads what lies below the current directory into storage, does what its arguments ask
for, and writes back what has changed. A link to a file is taken for that file, and a link to a
directory is passed over. Every file counts as one that may be started.
-/

namespace FirmwareSurvey.Main

/-- The permission bits that a file is read in with. -/
def readMode : Nat := 0o755

/-- The storage after a change, or as it was when there is none. -/
def changed {ε : Type} (s : Storage) (r : Except ε Storage) : Storage :=
  match r with
  | .ok s => s
  | .error _ => s

/-- Puts a file that may be started into storage. -/
def putProgram (s : Storage) (path : Path) (bytes : ByteArray) : Storage :=
  let s := match path.parent? with
    | some above => changed s (s.makeDirectories above)
    | none => s
  changed s (s.writeContents path ⟨bytes, 0⟩) |> fun s => changed s (s.setMode path readMode)

/-- Reads what a name in a directory stands for, with all below it. -/
partial def readEntry (s : Storage) (e : IO.FS.DirEntry) : IO Storage := do
  let path := e.path.toString
  match (← e.path.symlinkMetadata).type with
  | .dir => do
    let s := changed s (s.makeDirectories ⟨path⟩)
    (← e.path.readDir).foldlM readEntry s
  | _ =>
    if ← e.path.isDir then return s
    else
      try return putProgram s ⟨path⟩ (← IO.FS.readBinFile path)
      catch _ => return s

/-- Writes an entry of storage back if it was not there before. -/
def writeEntry (before : Storage) (e : Storage.Entry) : IO Unit := do
  match e.node with
  | .directory _ => IO.FS.createDirAll e.path.text
  | .link _ => return
  | .file contents _ =>
    let bytes := contents.toBytes
    let same := match before.readBytes e.path with
      | .ok old => old.data == bytes.data
      | .error _ => false
    if !same then IO.FS.writeBinFile e.path.text bytes

/-- Takes away what is no longer in storage. -/
def removeEntry (after : Storage) (e : Storage.Entry) : IO Unit := do
  match e.node, after.node? false e.path with
  | .file _ _, .error _ => IO.FS.removeFile e.path.text
  | _, _ => return

/-- The seconds that have gone by since the beginning of 1970, as a new file tells them. -/
def secondsNow : IO Nat := do
  let (_, path) ← IO.FS.createTempFile
  let seconds := (← path.metadata).modified.sec
  IO.FS.removeFile path
  return seconds.toNat

/-- Runs a command line in the current directory. -/
def run (arguments : List String) : IO UInt32 := do
  let directory ← IO.currentDir
  let program ← IO.appPath
  let home : Path := ⟨directory.toString⟩
  let own : Path := ⟨program.toString⟩
  let empty : Storage := { current := home.steps }
  let start := putProgram (changed empty (empty.makeDirectories home)) own
    (← IO.FS.readBinFile program)
  let before ← (← directory.readDir).foldlM readEntry start
  let setting : CommandLine.Setting :=
    { own, configVariable := (← IO.getEnv "FWPROBE_CONFIG").map Path.mk, currentDirectory := home,
      now := Clock.text (← secondsNow) }
  let (ended, after) := CommandLine.ownProgram setting arguments .empty before
  (after.below home).forM (writeEntry before)
  (before.below home).forM (removeEntry after)
  (← IO.getStdout).write ended.output
  (← IO.getStderr).write ended.errors
  match ended.status with
  | .exited code => return code.toUInt32
  | .killed _ => return 1

end FirmwareSurvey.Main

/-- Runs a command line in the current directory. -/
def main (arguments : List String) : IO UInt32 := FirmwareSurvey.Main.run arguments
