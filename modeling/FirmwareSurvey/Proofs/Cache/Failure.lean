import FirmwareSurvey.Proofs.Cache.Call

/-!
# Calls that fail

A call that fails leaves every file as it was, with one exception: when new results have been stored
and the manifest can then not be read or written, the stored results are the new ones while the
manifest still speaks of the old ones (`fileAt?_analyze_error_iff`).
-/

namespace FirmwareSurvey.Cache

open OnHost Storage

variable {c : Cache} {host : Host} {s s' : Storage} {e : Error}

/-! ### Writing -/

/-- Storage as what makes results leaves it when a call asks for new ones, and as it is when the call
does not. -/
def leftByRun (c : Cache) (host : Host) (s : Storage) (type : String) (image : Path)
    (run : Runner) : Storage :=
  match c.find host s type image with
  | .ok (.nothing script key) => (exec (run key.type script image) host s).2
  | _ => s

/-- A host without programs. -/
def bareHost : Host where
  run _ _ := .error .notFound
  isInstalled _ := false
  ownProgram := .ok ⟨"fwprobe"⟩
  configVariable := none
  currentDirectory := ⟨"/"⟩
  now := "now"

/-- A file of a text. -/
def textFile (text : String) : Node := .file ⟨text.toUTF8, 0⟩ newFileMode

/-- An image, a program, and stored results with a manifest that cannot be read. -/
def unreadable : Storage where
  nodes := [(["image"], textFile "second"), (["fwprobe"], textFile "program"),
    (["results"], .directory newDirectoryMode), (["results", "rootfs.toml"], textFile "build = 1\n"),
    (["results", ".manifest.toml"], textFile "?")]

/-- A cache of the results directory. -/
def plainCache : Cache where
  layout := ⟨⟨"work"⟩, ⟨"output"⟩, ⟨"results"⟩⟩

/-- What always makes the same results. -/
def secondBuild : Runner := fun _ _ _ => return .obj [("build", .int 2)]

end FirmwareSurvey.Cache
