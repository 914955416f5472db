import FirmwareSurvey.Config.Basic
import FirmwareSurvey.Storage.Basic
import FirmwareSurvey.Toml.Reader

/-!
# Configuration files

A configuration file is a TOML document whose members override the defaults; members of unknown
names are passed over, and one of the wrong type spoils the file. The file is the one given, else
the one the environment names, else `fwprobe.toml` where the survey runs, if that is there.
-/

namespace FirmwareSurvey.Config

/-- Why there is no configuration. -/
inductive Error where
  /-- The file cannot be read. -/
  | read (path : Path) (cause : Storage.Fault)
  /-- The file is no configuration. -/
  | parse (path : Path)
deriving DecidableEq

/-- The wording of an error, as far as it is stable. -/
def Error.message : Error → String
  | .read path cause => s!"Failed to read config file {path}: {cause.message}"
  | .parse path => s!"Failed to parse config file {path}"

/-- The file looked for where the survey runs. -/
def defaultFile : Path := ⟨"fwprobe.toml"⟩

/-! ### Settings of a type -/

/-- A text. -/
def textOf? : Toml → Option String
  | .str s => some s
  | _ => none

/-- A path. -/
def pathOf? (v : Toml) : Option Path := (textOf? v).map Path.mk

/-- A count. -/
def countOf? : Toml → Option Nat
  | .int n => if n < 0 then none else some n.toNat
  | _ => none

/-- A strategy by name. -/
def strategyNamed? (s : String) : Option GzipStrategy :=
  if s == "pipeline" then some .pipeline else if s == "strict" then some .strict else none

/-- A strategy: its name, or a table with an empty value under its name. -/
def strategyOf? : Toml → Option GzipStrategy
  | .str s => strategyNamed? s
  | .table [(s, .table [])] => strategyNamed? s
  | .table [(s, .array [])] => strategyNamed? s
  | _ => none

/-- Puts paths in the place of those of the programs, in order. -/
def ToolPaths.setAll? : List Tool → List Toml → ToolPaths → Option ToolPaths
  | tool :: tools, v :: vs, t =>
    match pathOf? v with
    | some p => setAll? tools vs (t.set tool p)
    | none => none
  | _, _, t => some t

/-- The paths of the programs: a table by name, or a list in the order of the programs. A moment
names none of them. -/
def toolsOf? : Toml → Option ToolPaths
  | .table members =>
    Tool.all.foldlM (fun t tool =>
      match Members.get? members tool.name with
      | none => some t
      | some v => (pathOf? v).map (t.set tool)) {}
  | .array items => ToolPaths.setAll? Tool.all items {}
  | .moment _ => some {}
  | _ => none

/-- A setting of a table, or its default when it is missing. -/
def setting? {α : Type} (members : List (String × Toml)) (name : String) (read : Toml → Option α)
    (default : α) : Option α :=
  match Members.get? members name with
  | none => some default
  | some v => read v

/-- The configuration of a document. -/
def ofToml? (members : List (String × Toml)) : Option Config := do
  let d : Config := {}
  let workDir ← setting? members "work_dir" pathOf? d.workDir
  let outputDir ← setting? members "output_dir" pathOf? d.outputDir
  let resultsDir ← setting? members "results_dir" pathOf? d.resultsDir
  let scriptsDir ← setting? members "scripts_dir" (fun v => (pathOf? v).map some) d.scriptsDir
  let firmwareUrl ← setting? members "firmware_url" (fun v => (textOf? v).map some) d.firmwareUrl
  let gzipStrategy ← setting? members "gzip_strategy" strategyOf? d.gzipStrategy
  let weakHashLength ← setting? members "weak_hash_length" countOf? d.weakHashLength
  let minStringLength ← setting? members "min_string_length" countOf? d.minStringLength
  let tools ← setting? members "tools" toolsOf? d.tools
  return ⟨workDir, outputDir, resultsDir, scriptsDir, firmwareUrl, gzipStrategy, weakHashLength,
    minStringLength, tools⟩

/-! ### Files -/

/-- Reads a configuration file. -/
def ofFile (s : Storage) (path : Path) : Except Error Config :=
  match s.readText path with
  | .error cause => .error (.read path cause)
  | .ok body =>
    match (Toml.parse? body).bind ofToml? with
    | some c => .ok c
    | none => .error (.parse path)

/-- The configuration of the file given, of the one the environment names, of the default file if
there is one, or else the defaults. -/
def load (s : Storage) (environment explicit : Option Path) : Except Error Config :=
  match explicit, environment with
  | some path, _ => ofFile s path
  | none, some path => ofFile s path
  | none, none => if s.isFile defaultFile then ofFile s defaultFile else .ok {}

end FirmwareSurvey.Config

/-!
## Options of every command

A configuration file, an output directory and a work directory may be given with every command. The
directories go before those of the configuration. Written as arguments again, the options say the
same to a second run of the program.
-/

namespace FirmwareSurvey

/-- The options of every command. -/
structure Options where
  /-- The configuration file. -/
  config : Option Path := none
  /-- Where reports go. -/
  outputDir : Option Path := none
  /-- Where downloads go. -/
  workDir : Option Path := none
deriving DecidableEq

namespace Options

/-- The arguments of one option. -/
def flagArgs (flag : String) : Option Path → List String
  | none => []
  | some value => [flag, value.text]

/-- The options as arguments. -/
def toArgs (o : Options) : List String :=
  flagArgs "--config" o.config ++ flagArgs "--output-dir" o.outputDir ++
    flagArgs "--work-dir" o.workDir

/-- The configuration under the options. -/
def loadConfig (o : Options) (s : Storage) (environment : Option Path) :
    Except Config.Error Config :=
  (Config.load s environment o.config).map fun c =>
    { c with outputDir := o.outputDir.getD c.outputDir, workDir := o.workDir.getD c.workDir }

end Options

end FirmwareSurvey
