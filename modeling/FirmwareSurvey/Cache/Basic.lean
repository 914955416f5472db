import FirmwareSurvey.Digest.Basic
import FirmwareSurvey.Host.Basic
import FirmwareSurvey.Json.Reader
import FirmwareSurvey.Layout
import FirmwareSurvey.Members
import FirmwareSurvey.Storage.Basic
import FirmwareSurvey.Text.Lines
import FirmwareSurvey.Text.Octets
import FirmwareSurvey.Toml.Printer
import FirmwareSurvey.Toml.Reader

/-!
# Results that are kept

The results of an analysis are made by a script, kept in a directory, and recorded in a manifest with
the fingerprints of what they were made from.
-/

/-!
## Why stored results are of no use

Stored results may be out of reach, may not be readable, or may have to be made anew by a script
that fails.
-/

namespace FirmwareSurvey.Cache

/-- Why there are no results. -/
inductive Error where
  /-- A file cannot be read for its fingerprint. -/
  | fingerprint (path : Path) (cause : Storage.Fault)
  /-- A file cannot be read or written. -/
  | access (path : Path) (cause : Storage.Fault)
  /-- A file does not hold what it should. -/
  | parse (path : Path)
  /-- The program that makes results cannot be started. -/
  | spawn (program : Path) (cause : Storage.Fault)
  /-- A script reports failure. -/
  | failed (script : Path) (status : Status) (errors : String)
  /-- What a script writes is no JSON. -/
  | badOutput (script : Path)
  /-- Results that are no object cannot be stored. -/
  | notATable (type : String)
  /-- The survey's own program cannot be found. -/
  | noProgram (cause : Storage.Fault)
deriving DecidableEq

/-- The wording of an error that has a stable one. -/
def Error.message? : Error → Option String
  | .fingerprint path cause => some s!"Failed to hash {path}: {cause.message}"
  | .access path cause => some s!"Failed to access {path}: {cause.message}"
  | .spawn program cause => some s!"Failed to launch {program}: {cause.message}"
  | .failed script status errors => some s!"{script} exited with {status.text}: {errors}"
  | .notATable type => some s!"Results of '{type}' are not a table"
  | .noProgram cause => some s!"Cannot locate the fwprobe executable: {cause.message}"
  | .parse _ => none
  | .badOutput _ => none

end FirmwareSurvey.Cache

/-!
## The manifest of stored results

The manifest says of each type of analysis what its stored results were made from: the fingerprints
of the image and of the script, and when. It is a TOML document with one table for each type, in the
order of their names.
-/

namespace FirmwareSurvey.Cache

/-- What the stored results of one type were made from. -/
structure Entry where
  /-- The fingerprint of the image. -/
  firmware : String
  /-- The fingerprint of the script. -/
  script : String
  /-- When they were stored. -/
  updated : String
deriving DecidableEq

namespace Entry

/-- An entry as a table. -/
def toToml (e : Entry) : Toml :=
  .table [("firmware_hash", .str e.firmware), ("script_hash", .str e.script),
    ("last_updated", .str e.updated)]

/-- A text of a table. -/
def textOf? (members : List (String × Toml)) (name : String) : Option String :=
  match Members.get? members name with
  | some (.str s) => some s
  | _ => none

/-- The entry of a table, or of a list with the three texts in order; what else stands there does
not count. -/
def ofToml? : Toml → Option Entry
  | .table members => do
    let firmware ← textOf? members "firmware_hash"
    let script ← textOf? members "script_hash"
    let updated ← textOf? members "last_updated"
    return ⟨firmware, script, updated⟩
  | .array (.str firmware :: .str script :: .str updated :: _) => some ⟨firmware, script, updated⟩
  | _ => none

end Entry

/-- The entries of all types. -/
structure Manifest where
  /-- The entries by type. -/
  entries : Members Entry := []

namespace Manifest

/-- The entry of a type. -/
def entry? (m : Manifest) (type : String) : Option Entry := m.entries.get? type

/-- Puts an entry in the place of that of its type. -/
def put (m : Manifest) (type : String) (e : Entry) : Manifest := ⟨m.entries.put type e⟩

/-- The entries, sorted by type. -/
def toList (m : Manifest) : List (String × Entry) := m.entries.sorted

/-- The entries of a document; each of its members has to be one. -/
def entriesOf? : List (String × Toml) → Option (List (String × Entry))
  | [] => some []
  | (type, v) :: rest => do
    let e ← Entry.ofToml? v
    let es ← entriesOf? rest
    return (type, e) :: es

/-- The manifest of a text. -/
def ofText? (body : String) : Option Manifest :=
  ((Toml.parse? body).bind entriesOf?).map Manifest.mk

/-- The text of a manifest. -/
def text (m : Manifest) : String :=
  Toml.documentText (m.toList.map fun (type, e) => (type, e.toToml))

/-- The manifest at a path; one that is missing is empty. -/
def load (s : Storage) (path : Path) : Except Error Manifest :=
  match s.readText path with
  | .error .notFound => .ok {}
  | .error cause => .error (.access path cause)
  | .ok body =>
    match ofText? body with
    | some m => .ok m
    | none => .error (.parse path)

/-- Writes a manifest to a path, whose directory is made if it is missing. -/
def save (m : Manifest) (path : Path) : OnHost Error Unit := do
  match path.parent? with
  | some above => OnHost.tryChange (·.makeDirectories above) (.access above)
  | none => pure ()
  OnHost.tryChange (·.writeText path m.text) (.access path)

end Manifest

end FirmwareSurvey.Cache

/-!
## Scripts that make results

The results of a type are made by a script of its name in the directory of scripts, or else by the
survey's own program. Whatever makes them is handed the image and writes JSON.
-/

namespace FirmwareSurvey.Cache

namespace Script

/-- What a script is run by. -/
inductive Kind where
  /-- The shell. -/
  | shell
  /-- The interpreter of result scripts. -/
  | python
  /-- Itself: it is the survey's own program. -/
  | program
deriving DecidableEq, Repr

end Script

/-- What makes results. -/
structure Script where
  /-- Where it lies. -/
  path : Path
  /-- What it is run by. -/
  kind : Script.Kind
deriving DecidableEq

/-- Where scripts are looked for. -/
structure Locator where
  /-- The directory of scripts. -/
  scriptsDir : Option Path := none
  /-- The program that takes the place of a missing script, if not the survey's own. -/
  program : Option Path := none
deriving DecidableEq

namespace Locator

/-- The names a script of a type may have, without their endings. -/
def stems (type : String) : List String :=
  [type, String.ofList (type.toList.map fun c => if c = '-' then '_' else c)]

/-- The scripts a type may have in a directory, in the order in which they are looked for. -/
def candidates (directory : Path) (type : String) : List Script :=
  (stems type).map (fun stem => ⟨directory.child (stem ++ ".sh"), .shell⟩) ++
    (stems type).map (fun stem => ⟨directory.child (stem ++ ".py"), .python⟩)

/-- The script of a type. -/
def locate (l : Locator) (type : String) : OnHost Error Script := do
  let s ← get
  let found := (l.scriptsDir.map (candidates · type)).getD []
  match found.find? fun script => s.isFile script.path, l.program, (← read).ownProgram with
  | some script, _, _ => return script
  | none, some path, _ => return ⟨path, .program⟩
  | none, none, .ok path => return ⟨path, .program⟩
  | none, none, .error cause => throw (.noProgram cause)

end Locator

/-- What makes the results of a type from a script and an image. -/
abbrev Runner := String → Script → Path → OnHost Error Json

namespace Script

/-- How a script is started. The survey's own program is given the options of every command, the
type, and the format to write. -/
def invocation (script : Script) (options : List String) (type : String) (image : Path) :
    Invocation :=
  match script.kind with
  | .shell => { program := ⟨"bash"⟩, arguments := [script.path.text, image.text] }
  | .python => { program := ⟨"python3"⟩, arguments := [script.path.text, image.text] }
  | .program =>
    { program := script.path, arguments := options ++ [type, "--format", "json", image.text] }

/-- Runs a script and reads what it writes. -/
def run (options : List String) : Runner := fun type script image => do
  let i := script.invocation options type image
  let c ← OnHost.runProgram i (.spawn i.program)
  if c.status.isSuccess then
    match (String.fromUTF8? c.output).bind Json.parse? with
    | some results => return results
    | none => throw (.badOutput script.path)
  else throw (.failed script.path c.status (Text.trim (Text.lossy c.errors)))

end Script

end FirmwareSurvey.Cache

/-!
## Fingerprints of files

The fingerprint of a file is the beginning of the digest of its bytes, in hexadecimal digits.
-/

namespace FirmwareSurvey.Cache

/-- How many digits a fingerprint has. -/
def fingerprintLength : Nat := 16

/-- The fingerprint of bytes. -/
def fingerprintOf (bytes : ByteArray) : String :=
  String.ofList ((Digest.sha256 bytes.data.toList).digits.take fingerprintLength)

/-- The fingerprint of the file at a path. -/
def fingerprint (s : Storage) (path : Path) : Except Storage.Fault String :=
  (s.readBytes path).map fingerprintOf

end FirmwareSurvey.Cache

/-!
## Stored results

Results of an analysis are stored as TOML, with a manifest that says what they were made from. They
are taken from there as long as the fingerprints of the image and of the script are those of the
manifest, and made anew otherwise; results once given out are also kept in memory.

What is read back is not always what was stored: TOML has no null, and its integers are signed.
-/

namespace FirmwareSurvey

namespace Cache

/-- What results are made from. -/
structure Key where
  /-- The type of analysis. -/
  type : String
  /-- The fingerprint of the image. -/
  firmware : String
  /-- The fingerprint of the script. -/
  script : String
deriving DecidableEq

end Cache

/-- Stored results, and those in memory. -/
structure Cache where
  /-- Where files lie. -/
  layout : Layout
  /-- Where scripts are looked for. -/
  locator : Cache.Locator := {}
  /-- The results in memory, the last ones first. -/
  memory : List (Cache.Key × Json) := []

namespace Cache

/-- Whether there are stored results which, as the manifest says, were made from a key. A manifest
that cannot be read says nothing. -/
def matchesManifest (c : Cache) (s : Storage) (key : Key) : Bool :=
  s.isFile (c.layout.resultsPath key.type) &&
    match Manifest.load s c.layout.manifestPath with
    | .error _ => false
    | .ok manifest =>
      match manifest.entry? key.type with
      | none => false
      | some e => e.firmware == key.firmware && e.script == key.script

/-- Whether the stored results of a type were made from an image and a script. -/
def isValid (c : Cache) (s : Storage) (type : String) (image script : Path) : Bool :=
  match fingerprint s image, fingerprint s script with
  | .ok firmware, .ok script => c.matchesManifest s ⟨type, firmware, script⟩
  | _, _ => false

/-- The stored results of a type. -/
def load (c : Cache) (s : Storage) (type : String) : Except Error Json :=
  let path := c.layout.resultsPath type
  match s.readText path with
  | .error cause => .error (.access path cause)
  | .ok body =>
    match Toml.parse? body with
    | some members => .ok (Toml.table members).toJson
    | none => .error (.parse path)

/-- Stores the results of a type. -/
def save (c : Cache) (type : String) (results : Json) : OnHost Error Unit := do
  match Toml.ofJson? results with
  | some (.table members) =>
    OnHost.tryChange (·.makeDirectories c.layout.resultsDir) (.access c.layout.resultsDir)
    let path := c.layout.resultsPath type
    OnHost.tryChange (·.writeText path (Toml.documentText members)) (.access path)
  | _ => throw (.notATable type)

/-- Records what the stored results of a type were made from. -/
def record (c : Cache) (key : Key) : OnHost Error Unit := do
  let path := c.layout.manifestPath
  let manifest ← OnHost.tryLook (Manifest.load · path) id
  (manifest.put key.type ⟨key.firmware, key.script, (← read).now⟩).save path

/-- The results in memory that were made from a key. -/
def known? (c : Cache) (key : Key) : Option Json :=
  (c.memory.find? fun known => known.1 = key).map (·.2)

/-- Keeps results in memory. -/
def remember (c : Cache) (key : Key) (results : Json) : Cache :=
  { c with memory := (key, results) :: c.memory }

/-- The results in store that were made from a key, if they can be read. -/
def stored? (c : Cache) (s : Storage) (key : Key) : Option Json :=
  if c.matchesManifest s key then (c.load s key.type).toOption else none

/-- The key of a type, an image and a script. -/
def key (type : String) (image script : Path) : OnHost Error Key := do
  let firmware ← OnHost.tryLook (fingerprint · image) (.fingerprint image)
  let script ← OnHost.tryLook (fingerprint · script) (.fingerprint script)
  return ⟨type, firmware, script⟩

/-- The results of a type for an image: those in memory, else those in store, else new ones, which
are stored. -/
def analyze (c : Cache) (type : String) (image : Path) (run : Runner) :
    OnHost Error (Json × Cache) := do
  let type := TypeName.normal type
  let script ← c.locator.locate type
  let key ← key type image script.path
  match c.known? key, c.stored? (← get) key with
  | some results, _ => return (results, c)
  | none, some results => return (results, c.remember key results)
  | none, none => do
    let results ← run type script image
    c.save type results
    c.record key
    return (results, c.remember key results)

end Cache

end FirmwareSurvey
