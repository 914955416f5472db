import FirmwareSurvey.Json.Basic
import FirmwareSurvey.Storage.Path

/-!
# Configuration

Where a survey works, where its reports and stored results go, which programs it runs and two
thresholds. Every setting has a default.
-/

namespace FirmwareSurvey

/-- The programs a survey runs. -/
inductive Tool where
  /-- Finds known file types in an image and unpacks them. -/
  | binwalk
  /-- Lists printable runs. -/
  | strings
  /-- Tells the type of a file. -/
  | file
  /-- Searches files for a pattern. -/
  | grep
  /-- Copies a range of bytes. -/
  | dd
  /-- Unpacks a gzip stream. -/
  | gunzip
  /-- Downloads. -/
  | curl
deriving DecidableEq, Repr

/-- The name of a program. -/
def Tool.name : Tool → String
  | .binwalk => "binwalk"
  | .strings => "strings"
  | .file => "file"
  | .grep => "grep"
  | .dd => "dd"
  | .gunzip => "gunzip"
  | .curl => "curl"

/-- All programs. -/
def Tool.all : List Tool := [.binwalk, .strings, .file, .grep, .dd, .gunzip, .curl]

namespace Config

/-- How a gzip stream inside an image is unpacked. -/
inductive GzipStrategy where
  /-- By a row of programs, which put up with bytes after the stream. -/
  | pipeline
  /-- By the survey itself, which does not. -/
  | strict
deriving DecidableEq, Repr

/-- The name of a strategy. -/
def GzipStrategy.name : GzipStrategy → String
  | .pipeline => "pipeline"
  | .strict => "strict"

/-- The paths of the programs; a bare name is looked up among the installed ones. -/
structure ToolPaths where
  /-- The path of `binwalk`. -/
  binwalk : Path := ⟨"binwalk"⟩
  /-- The path of `strings`. -/
  strings : Path := ⟨"strings"⟩
  /-- The path of `file`. -/
  file : Path := ⟨"file"⟩
  /-- The path of `grep`. -/
  grep : Path := ⟨"grep"⟩
  /-- The path of `dd`. -/
  dd : Path := ⟨"dd"⟩
  /-- The path of `gunzip`. -/
  gunzip : Path := ⟨"gunzip"⟩
  /-- The path of `curl`. -/
  curl : Path := ⟨"curl"⟩
deriving DecidableEq

/-- The path of a program. -/
def ToolPaths.path (t : ToolPaths) : Tool → Path
  | .binwalk => t.binwalk
  | .strings => t.strings
  | .file => t.file
  | .grep => t.grep
  | .dd => t.dd
  | .gunzip => t.gunzip
  | .curl => t.curl

/-- Gives a program another path. -/
def ToolPaths.set (t : ToolPaths) (tool : Tool) (p : Path) : ToolPaths :=
  match tool with
  | .binwalk => { t with binwalk := p }
  | .strings => { t with strings := p }
  | .file => { t with file := p }
  | .grep => { t with grep := p }
  | .dd => { t with dd := p }
  | .gunzip => { t with gunzip := p }
  | .curl => { t with curl := p }

/-- The image that is downloaded when none is given. -/
def defaultFirmwareUrl : String := "https://fw.gl-inet.com/kvm/rm1/release/glkvm-RM1-1.2.1.img"

end Config

open Config

/-- The settings of a survey. -/
structure Config where
  /-- Where downloads and what was unpacked go. -/
  workDir : Path := ⟨"/tmp/fw_analysis"⟩
  /-- Where reports and the offsets file go. -/
  outputDir : Path := ⟨"output"⟩
  /-- Where stored results go. -/
  resultsDir : Path := ⟨"results"⟩
  /-- The directory of analysis scripts. -/
  scriptsDir : Option Path := none
  /-- The image to download when none is given. -/
  firmwareUrl : Option String := some defaultFirmwareUrl
  /-- How gzip streams are unpacked. -/
  gzipStrategy : GzipStrategy := .pipeline
  /-- A password hash shorter than this is weak. -/
  weakHashLength : Nat := 13
  /-- The least length of a printable run. -/
  minStringLength : Nat := 4
  /-- The programs. -/
  tools : ToolPaths := {}
deriving DecidableEq

namespace Config

/-- The paths of the programs by name. -/
def ToolPaths.toJson (t : ToolPaths) : Json :=
  .obj (Tool.all.map fun tool => (tool.name, .str (t.path tool).text))

/-- The settings by name; settings without a value are left out. -/
def toJson (c : Config) : Json :=
  .obj ([("work_dir", .str c.workDir.text), ("output_dir", .str c.outputDir.text),
    ("results_dir", .str c.resultsDir.text)] ++
    (c.scriptsDir.map fun p => ("scripts_dir", Json.str p.text)).toList ++
    (c.firmwareUrl.map fun u => ("firmware_url", Json.str u)).toList ++
    [("gzip_strategy", .str c.gzipStrategy.name), ("weak_hash_length", .ofNat c.weakHashLength),
      ("min_string_length", .ofNat c.minStringLength), ("tools", c.tools.toJson)])

end Config

end FirmwareSurvey
