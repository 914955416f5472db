import FirmwareSurvey.Firmware.Resolve
import FirmwareSurvey.Offsets.Table
import FirmwareSurvey.Report.Basic

/-!
# The flash layout

Four regions of an image are known by the names of their offsets. A region that is present runs to
the next present one, or to the end of the image; the root file system has the size that is recorded
for it, if any. Sizes are whole mebibytes, rounded down.
-/

namespace FirmwareSurvey

namespace Partition

/-- A region of an image. -/
structure Region where
  /-- The name of its offset. -/
  offsetName : String
  /-- What it is called. -/
  title : String
  /-- Its type. -/
  kind : String
  /-- What it holds. -/
  content : String
deriving DecidableEq

/-- The regions, in the order of the layout. -/
def regions : List Region :=
  [⟨"BOOTLOADER_FIT", "Bootloader FIT", "FIT", "U-Boot + OP-TEE"⟩,
    ⟨"KERNEL_FIT", "Kernel FIT", "FIT", "Linux kernel + device tree"⟩,
    ⟨"ROOTFS_CPIO", "Initramfs", "cpio", "Initial ramdisk"⟩,
    ⟨"SQUASHFS", "Root FS", "SquashFS", "Main filesystem"⟩]

/-- The regions that have an offset, in order. -/
def present (offsets : Offsets.Table) : List (Region × Nat) :=
  regions.filterMap fun r => (offsets.offset? r.offsetName).map fun o => (r, o)

end Partition

/-- A region with its place in an image. -/
structure Partition where
  /-- The region. -/
  region : Partition.Region
  /-- Where it starts. -/
  offset : Nat
  /-- Its size in bytes. -/
  size : Nat
deriving DecidableEq

namespace Partition

/-- The bytes of a mebibyte. -/
def mebibyte : Nat := 0x100000

/-- The size of the partition in whole mebibytes. -/
def wholeMebibytes (p : Partition) : Nat := p.size / mebibyte

/-- The size of a region that starts at an offset and runs to the next one. -/
def sizeOf (recorded : Option Nat) (region : Region) (offset stop : Nat) : Nat :=
  if region.offsetName = "SQUASHFS" then recorded.getD (stop - offset) else stop - offset

/-- The partitions of regions, each of which runs to the next or to the end of the image. -/
def layOut (recorded : Option Nat) (imageSize : Nat) : List (Region × Nat) → List Partition
  | [] => []
  | (r, o) :: rest =>
    let stop := (rest.head?.map (·.2)).getD imageSize
    ⟨r, o, sizeOf recorded r o stop⟩ :: layOut recorded imageSize rest

/-- The partitions of an image. -/
def ofOffsets (offsets : Offsets.Table) (imageSize : Nat) : List Partition :=
  layOut offsets.squashfsSize? imageSize (present offsets)

/-- The record of a partition. -/
def toJson (p : Partition) : Json :=
  .obj [("region", .str p.region.title), ("offset", .str (Offsets.formatHex p.offset)),
    ("size_mb", .ofNat p.wholeMebibytes), ("type", .str p.region.kind),
    ("content", .str p.region.content)]

/-! ### The report -/

/-- The flash layout of an image as far as it was surveyed. -/
structure Survey where
  /-- The name of the image's file. -/
  fileName : String
  /-- The size of the image. -/
  imageSize : Nat
  /-- The partitions. -/
  partitions : List Partition := []
  /-- The origins of the report's fields. -/
  provenance : Report.Provenance := []

/-- Adds the partitions that offsets tell. -/
def Survey.add (s : Survey) (offsets : Offsets.Table) : Survey :=
  let partitions := s.partitions ++ ofOffsets offsets s.imageSize
  let source := (offsets.source.map Path.text).getD Offsets.fileName
  { s with
    partitions
    provenance :=
      if partitions.isEmpty then s.provenance
      else s.provenance.add "partitions" source
        "Region starts from *_OFFSET; sizes run to the next region or SQUASHFS_SIZE" }

/-- The report on the flash layout. -/
def Survey.report (s : Survey) : Report :=
  { title := "Firmware Partition Layout"
    value := .obj [("firmware_file", .str s.fileName), ("firmware_size", .ofNat s.imageSize),
      ("partitions", .arr (s.partitions.map toJson))]
    provenance := s.provenance }

end Partition

end FirmwareSurvey
