import FirmwareSurvey.Analysis.Context
import FirmwareSurvey.Binwalk.Survey
import FirmwareSurvey.Boot.Survey
import FirmwareSurvey.Partition
import FirmwareSurvey.Rootfs.Release
import FirmwareSurvey.SecureBoot.Survey
import FirmwareSurvey.Uboot.Survey

/-!
# Scanning an image

The scan of an image gives a report and the offsets file that the other topics start from.
-/

namespace FirmwareSurvey.Binwalk

open Analysis

/-- Scans an image. -/
def analyze (c : Context) : Context.Step Analysis := do
  let scan ← OnHost.mapError .tool (Tool.scanImage c.config.tools c.image.path)
  let (report, found) := survey c.image scan
  return ⟨report, [⟨Offsets.fileName, found.toShellScript c.image.fileName⟩]⟩

end FirmwareSurvey.Binwalk

/-!
## Surveying the boot process

The boot chain follows from the offsets; what runs in it is read off the boot loader, the trusted
system and the root file system, as far as they are there.
-/

namespace FirmwareSurvey.Boot

open Analysis

/-- Surveys the boot process. -/
def analyze (c : Context) : Context.Step Analysis := do
  let topic := Topic.bootProcess.name
  let offsets ← c.needOffsets topic
  let place := c.layout.offsetsPath.text
  let s : Survey :=
    { image := c.image
      stages := stages offsets
      provenance := .ofList [("boot_stages", place, "Present *_OFFSET entries")] }
  let s := s.readLoader (← c.payloadRuns "UBOOT_GZ") s!"U-Boot gzip payload at UBOOT_GZ ({place})"
  let s := s.readTrusted (← c.payloadRuns "OPTEE_GZ") s!"OP-TEE gzip payload at OPTEE_GZ ({place})"
  let storage ← get
  let s := match c.needRoot topic storage with
    | .ok root =>
      { s with kernelVersion := Rootfs.kernelVersion? storage root }.addOrigins
        [("kernel_version", (Rootfs.modulesDirectory root).text,
          "Name of the lib/modules/<version> directory")]
    | .error _ => s
  return ⟨s.report, [⟨Survey.summaryName, s.summary⟩]⟩

end FirmwareSurvey.Boot

/-!
## Surveying the flash layout

The flash layout follows from the offsets file and the size of the image.
-/

namespace FirmwareSurvey.Partition

open Analysis

/-- Surveys the flash layout. -/
def analyze (c : Context) : Context.Step Analysis := do
  let offsets ← c.needOffsets Topic.partitions.name
  let s : Survey :=
    { fileName := c.image.fileName
      imageSize := c.image.size
      provenance := .ofList [("firmware_size", c.image.path.text, "File size on disk")] }
  return ⟨(s.add offsets).report, []⟩

end FirmwareSurvey.Partition

/-!
## Surveying secure boot

Two flattened image trees are inspected for signatures and hashes; every unpacked device tree may
hold keys. A tree that was not decompiled, or cannot be read, tells nothing.
-/

namespace FirmwareSurvey.SecureBoot

open Analysis

/-- The trees that are inspected for signatures: the name of the offset, and what they are called. -/
def inspectedTrees : List (String × String) :=
  [("BOOTLOADER_FIT", "bootloader"), ("KERNEL_FIT", "kernel")]

/-- The first decompiled tree in a directory that can be read, and its text. -/
def readableSource? (s : Storage) (directory : Path) : Option (Path × String) :=
  (Extraction.deviceTreeFiles s directory).findSome? fun p =>
    if p.extension? = some "dts" then
      match s.readText p with
      | .ok text => some (p, text)
      | .error _ => none
    else none

/-- The decompiled tree at the offset of a name, and its text. -/
def treeAt? (s : Storage) (extraction : Path) (offsets : Offsets.Table) (name : String) :
    Option (Path × String) :=
  (offsets.offset? name).bind fun offset =>
    (Extraction.directoryAt? s extraction offset).bind (readableSource? s)

/-- Adds what the inspected trees tell. -/
def inspectTrees (storage : Storage) (extraction : Path) (offsets : Offsets.Table) (s : Survey) :
    Survey :=
  let found := inspectedTrees.filterMap fun (name, label) =>
    (treeAt? storage extraction offsets name).map fun (path, text) =>
      ((path.relativeTo extraction).text, inspect label text)
  let source := ", ".intercalate (found.map (·.1))
  (found.foldl (fun s f => s.addInspection f.2) s).addOrigins
    [("fit_signatures", source, "configurations/*/signature* nodes"),
      ("image_hashes", source, "/images/*/hash* algo properties"),
      ("unsigned_configurations", source, "Configurations without a signature node")]

/-- The keys of all decompiled trees. -/
def keysBelow (storage : Storage) (extraction : Path) : List PublicKey :=
  (Extraction.deviceTreeDirectories storage extraction).flatMap fun d =>
    match readableSource? storage d with
    | some (path, text) => publicKeys (path.relativeTo extraction).text text
    | none => []

/-- The pattern of files that mention verified block devices. -/
def verityPattern : String := "dm-verity|veritysetup|verity_"

/-- Surveys secure boot. -/
def analyze (c : Context) : Context.Step Analysis := do
  let topic := Topic.secureBoot.name
  let extraction ← c.needExtraction topic
  let offsets ← c.needOffsets topic
  let s := inspectTrees (← get) extraction offsets { image := c.image }
  let s := { s with keys := keysBelow (← get) extraction }.addOrigins
    [("public_keys", extraction.text, "/signature/key-* nodes in every extracted DTS")]
  let runs ← c.payloadRuns "UBOOT_GZ"
  let s := { s with verification := verificationStrings runs }.addOrigins
    [("uboot_verification_strings", "U-Boot gzip payload at UBOOT_GZ",
      "Printable strings mentioning hash/signature verification")]
  let s ← match c.needRoot topic (← get) with
    | .error _ => pure s
    | .ok root => do
      let files ← OnHost.mapError .tool (Tool.filesMatching c.config.tools verityPattern root)
      pure ({ s with verityFiles := files.map fun f : Path => (f.relativeTo root).text }.addOrigins
        [("verity_references", root.text, s!"grep -rlIE '{verityPattern}'")])
  let s := s.addOrigins [("secure_boot_status", "fit_signatures, public_keys, image_hashes",
    "Signed and required key: enforced; signed only: not enforced; hashes only: hash-only")]
  return ⟨s.report, []⟩

end FirmwareSurvey.SecureBoot

/-!
## Surveying the boot loader

The boot loader is unpacked from the image; what it tells is read off its printable runs. Without it
the report says only where it should lie.
-/

namespace FirmwareSurvey.Uboot

open Analysis

/-- How a way of unpacking is told in the origins of a report. -/
def strategyWording : Config.GzipStrategy → String
  | .pipeline => "Pipeline"
  | .strict => "Strict"

/-- Adds what an unpacked boot loader tells. -/
def Survey.readPayload (s : Survey) (c : Context) (data : ByteArray) : Survey :=
  let strategy := strategyWording c.config.gzipStrategy
  let source := s!"{c.image.fileName} @ UBOOT_GZ (gzip, {strategy})"
  let provenance := s.provenance.add "decompressed_size" source "Length of gunzipped payload"
  { s with unpackedSize := some data.size, provenance }.readStrings
    (Text.printableRuns data c.config.minStringLength) source

/-- Surveys the boot loader. -/
def analyze (c : Context) : Context.Step Analysis := do
  let offsets ← c.needOffsets Topic.uboot.name
  let s : Survey :=
    { fileName := c.image.fileName
      imageSize := c.image.size
      offset := offsets.offset? "UBOOT_GZ"
      provenance := .ofList [("uboot_offset", c.layout.offsetsPath.text, "UBOOT_GZ_OFFSET")] }
  let s := match ← c.payloadAt? "UBOOT_GZ" with
    | some data => s.readPayload c data
    | none => s
  return ⟨s.report, [⟨Survey.summaryName, s.summary⟩]⟩

end FirmwareSurvey.Uboot
