import FirmwareSurvey.Analysis.Survey
import FirmwareSurvey.DeviceTree.Survey
import FirmwareSurvey.Extraction.Unpack
import FirmwareSurvey.Rootfs.Inventory
import FirmwareSurvey.Rootfs.Network
import FirmwareSurvey.Rootfs.Vendor

/-!
# Sessions

A session holds the settings of a survey. It prepares what a topic needs, looks into it, and writes
the files that go with the report into the output directory.
-/

namespace FirmwareSurvey

open Analysis

/-- Looks into a topic. -/
def Topic.analyze : Topic → Context → Context.Step Analysis
  | .binwalk => Binwalk.analyze
  | .bootProcess => Boot.analyze
  | .deviceTrees => DeviceTree.analyze
  | .networkServices => Rootfs.analyzeNetwork
  | .partitions => Partition.analyze
  | .proprietaryBlobs => Rootfs.analyzeVendors
  | .rootfs => Rootfs.analyze
  | .secureBoot => SecureBoot.analyze
  | .uboot => Uboot.analyze

/-- The topic of a name that has to be there. -/
def Topic.require (name : String) : Except Analysis.Error Topic :=
  match Topic.named? name with
  | some t => .ok t
  | none => .error (.unknownTopic name)

/-- The settings of a survey, and where its files lie. -/
structure Session where
  /-- The settings. -/
  config : Config
  /-- Where files lie. -/
  layout : Layout

namespace Session

/-- The session of settings, relative paths starting from a base. -/
def ofConfig (config : Config) (base : Path) : Session := ⟨config, .ofConfig config base⟩

/-- The offsets of the output directory; they may be missing unless they are required. -/
def offsets (s : Session) (required : Bool) : Context.Step (Option Offsets.Table) := do
  match Offsets.load (← get) (some s.layout.outputDir) none with
  | .ok table => return some table
  | .error cause => if required then throw (.offsets cause) else return none

/-- Finds the image and prepares what is required. -/
def context (s : Session) (required : Requirements) (given : Option Path) :
    Context.Step Context := do
  let image ← OnHost.mapError .firmware (Firmware.resolve s.config s.layout.workDir given)
  let extraction ← if required.extraction then
      some <$> OnHost.mapError .tool
        (Extraction.ensureUnpacked s.config.tools image.path s.layout.extractionsDir)
    else pure none
  let offsets ← s.offsets required.offsets
  return { config := s.config, layout := s.layout, image, extraction, offsets }

/-- Writes files into a directory, which is made when there are any. -/
def writeArtifacts (directory : Path) (artifacts : List Artifact) : Context.Step Unit := do
  if !artifacts.isEmpty then
    OnHost.tryChange (·.makeDirectories directory) (.access directory)
    artifacts.forM fun a =>
      let path := directory.child a.fileName
      OnHost.tryChange (·.writeText path a.contents) (.access path)

/-- Prepares a topic, looks into it and writes the files that go with the report. -/
def run (s : Session) (topic : Topic) (given : Option Path) : Context.Step Analysis := do
  let context ← s.context topic.requirements given
  let analysis ← topic.analyze context
  writeArtifacts s.layout.outputDir analysis.artifacts
  return analysis

end Session

end FirmwareSurvey
