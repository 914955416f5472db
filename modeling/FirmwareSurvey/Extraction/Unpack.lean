import FirmwareSurvey.Host.Basic

/-!
# Unpacking an image

What was unpacked from an image lies in a directory named after it, with or without an underscore
before the name. When such a directory is there, it is trusted as it is; else the image is unpacked.
-/

namespace FirmwareSurvey.Extraction

/-- The directories that what was unpacked from an image may lie in. -/
def candidates (image extractions : Path) : List Path :=
  [extractions.child (image.fileName ++ ".extracted"),
    extractions.child ("_" ++ image.fileName ++ ".extracted")]

/-- The directory that what was unpacked from an image lies in, if it is there. -/
def unpacked? (s : Storage) (image extractions : Path) : Option Path :=
  (candidates image extractions).find? s.isDirectory

/-- The directory that what was unpacked from an image lies in, unpacked when it is not there. -/
def ensureUnpacked (tools : Config.ToolPaths) (image extractions : Path) :
    OnHost Tool.Error Path := do
  match unpacked? (← get) image extractions with
  | some path => return path
  | none =>
    OnHost.tryChange (·.makeDirectories extractions) (.workspace extractions)
    Tool.unpackImage tools image extractions
    return (unpacked? (← get) image extractions).getD
      (extractions.child (image.fileName ++ ".extracted"))

end FirmwareSurvey.Extraction
