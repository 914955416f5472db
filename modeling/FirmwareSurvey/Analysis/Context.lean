import FirmwareSurvey.Analysis.Topic
import FirmwareSurvey.DeviceTree.Lookup
import FirmwareSurvey.Extraction.Payload
import FirmwareSurvey.Extraction.Tree
import FirmwareSurvey.Firmware.Resolve
import FirmwareSurvey.Layout
import FirmwareSurvey.Report.Basic

/-!
# What an analysis can look at

An analysis looks at an image, at what was unpacked from it and at the offsets file, as far as these
were prepared. It gives a report and the files that go with it.
-/

namespace FirmwareSurvey

namespace Analysis

/-- Something that has to be prepared for an analysis. -/
inductive Need where
  /-- What was unpacked from the image. -/
  | extraction
  /-- The offsets file. -/
  | offsets
deriving DecidableEq, Repr

/-- The wording of what has to be prepared. -/
def Need.text : Need → String
  | .extraction => "a binwalk extraction"
  | .offsets => "offsets"

/-- Why there is no analysis. -/
inductive Error where
  /-- A program was of no use. -/
  | tool (cause : Tool.Error)
  /-- There is no image. -/
  | firmware (cause : Firmware.Error)
  /-- There are no offsets. -/
  | offsets (cause : Offsets.Error)
  /-- The report cannot be written. -/
  | report (cause : Report.Error)
  /-- There is no root file system in what was unpacked. -/
  | noRoot (extraction : Path)
  /-- An analysis asks for what was not prepared. -/
  | notPrepared (topic : String) (need : Need)
  /-- There is no topic of a name. -/
  | unknownTopic (name : String)
  /-- A file cannot be written. -/
  | access (path : Path) (cause : Storage.Fault)
  /-- The size of the memory that a device tree tells is too great. -/
  | memory (cause : DeviceTree.Overflow)
deriving DecidableEq

/-- The wording of an error that has a stable one. -/
def Error.message? : Error → Option String
  | .tool cause => some cause.message
  | .firmware cause => some cause.message
  | .offsets cause => some cause.message
  | .report cause => cause.message?
  | .noRoot extraction => some s!"No squashfs-root directory found under {extraction}"
  | .notPrepared topic need => some s!"Analyzer '{topic}' needs {need.text}, which was not prepared"
  | .unknownTopic name =>
    some (s!"Unknown analyzer '{name}' (available: " ++ ", ".intercalate Topic.names ++ ")")
  | .access path cause => some s!"Failed to access {path}: {cause.message}"
  | .memory _ => some "attempt to add with overflow"

/-- A file that goes with a report. -/
structure Artifact where
  /-- Its name. -/
  fileName : String
  /-- Its contents. -/
  contents : String
deriving DecidableEq

/-- What an analysis can look at. -/
structure Context where
  /-- The settings. -/
  config : Config
  /-- Where files lie. -/
  layout : Layout
  /-- The image. -/
  image : Firmware.Image
  /-- The directory of what was unpacked, if that was prepared. -/
  extraction : Option Path
  /-- The offsets, if they are known. -/
  offsets : Option Offsets.Table

end Analysis

/-- An analysis. -/
structure Analysis where
  /-- The report. -/
  report : Report
  /-- The files that go with it. -/
  artifacts : List Analysis.Artifact := []

namespace Analysis.Context

/-- A part of an analysis. -/
abbrev Step (α : Type) := OnHost Analysis.Error α

/-- The directory of what was unpacked. -/
def needExtraction (c : Context) (topic : String) : Except Analysis.Error Path :=
  match c.extraction with
  | some p => .ok p
  | none => .error (.notPrepared topic .extraction)

/-- The offsets. -/
def needOffsets (c : Context) (topic : String) : Except Analysis.Error Offsets.Table :=
  match c.offsets with
  | some t => .ok t
  | none => .error (.notPrepared topic .offsets)

/-- The root file system in what was unpacked. -/
def needRoot (c : Context) (topic : String) (s : Storage) : Except Analysis.Error Path := do
  let extraction ← c.needExtraction topic
  match Extraction.squashfsRoot? s extraction with
  | some root => .ok root
  | none => .error (.noRoot extraction)

/-- The least known offset behind a place. -/
def nextOffset? (offsets : Offsets.Table) (start : Nat) : Option Nat :=
  ((Offsets.vocabulary.filterMap offsets.offset?).filter (start < ·)).min?

/-- The payload at the offset of a name, up to the next known offset. -/
def payloadAt? (c : Context) (name : String) : Step (Option ByteArray) := do
  match c.offsets with
  | none => return none
  | some offsets =>
    match offsets.offset? name with
    | none => return none
    | some start =>
      Extraction.payload? c.config.tools c.config.gzipStrategy c.image.path start
        ((nextOffset? offsets start).map (· - start))

/-- The printable runs of the payload at the offset of a name. -/
def payloadRuns (c : Context) (name : String) : Step (List String) := do
  match ← c.payloadAt? name with
  | some data => return Text.printableRuns data c.config.minStringLength
  | none => return []

end Analysis.Context

end FirmwareSurvey
