import FirmwareSurvey.Json.Basic

/-!
# Topics of a survey

A survey has nine topics. Each has a name by which it is asked for, and says what has to be prepared
before it can be looked into: what was unpacked from the image, or the offsets file.
-/

namespace FirmwareSurvey

/-- A topic. -/
inductive Topic where
  /-- What known file types the image holds. -/
  | binwalk
  /-- The boot chain. -/
  | bootProcess
  /-- The device trees. -/
  | deviceTrees
  /-- The network services of the root file system. -/
  | networkServices
  /-- The flash layout. -/
  | partitions
  /-- The closed parts of the root file system. -/
  | proprietaryBlobs
  /-- The root file system. -/
  | rootfs
  /-- Whether the boot chain is verified. -/
  | secureBoot
  /-- The boot loader. -/
  | uboot
deriving DecidableEq, Repr

/-- What has to be prepared for a topic. -/
structure Requirements where
  /-- What was unpacked from the image. -/
  extraction : Bool := false
  /-- The offsets file; without this it is used when it is there. -/
  offsets : Bool := false
deriving DecidableEq

namespace Topic

/-- All topics, sorted by name. -/
def all : List Topic :=
  [.binwalk, .bootProcess, .deviceTrees, .networkServices, .partitions, .proprietaryBlobs,
    .rootfs, .secureBoot, .uboot]

/-- The name of a topic. -/
def name : Topic → String
  | .binwalk => "binwalk"
  | .bootProcess => "boot-process"
  | .deviceTrees => "device-trees"
  | .networkServices => "network-services"
  | .partitions => "partitions"
  | .proprietaryBlobs => "proprietary-blobs"
  | .rootfs => "rootfs"
  | .secureBoot => "secure-boot"
  | .uboot => "uboot"

/-- What a topic is about. -/
def description : Topic → String
  | .binwalk => "Signature scan; writes binwalk-offsets.sh for every other report"
  | .bootProcess => "Boot chain stages, component versions and boot environment"
  | .deviceTrees => "Every extracted device tree: model, memory, bootargs and enabled hardware"
  | .networkServices => "Init scripts, network daemons, configured ports and user accounts"
  | .partitions => "Flash layout (region offsets and sizes) from binwalk-offsets.sh"
  | .proprietaryBlobs =>
    "Vendor libraries and binaries, kernel module licenses and firmware blobs"
  | .rootfs => "OS release, file statistics, setuid binaries and GPL components"
  | .secureBoot => "FIT signatures, embedded public keys, U-Boot verification and dm-verity hints"
  | .uboot => "U-Boot version, toolchain, default environment and features"

/-- What has to be prepared for a topic. -/
def requirements : Topic → Requirements
  | .binwalk => {}
  | .bootProcess => { extraction := true, offsets := true }
  | .deviceTrees => { extraction := true }
  | .networkServices => { extraction := true }
  | .partitions => { offsets := true }
  | .proprietaryBlobs => { extraction := true }
  | .rootfs => { extraction := true }
  | .secureBoot => { extraction := true, offsets := true }
  | .uboot => { offsets := true }

/-- The names of all topics, sorted. -/
def names : List String := all.map name

/-- The topic of a name. -/
def named? (name : String) : Option Topic := all.find? fun t => t.name = name

/-- What is told of a topic. -/
def toJson (t : Topic) : Json :=
  .obj [("name", .str t.name), ("description", .str t.description),
    ("needs_extraction", .bool t.requirements.extraction),
    ("needs_offsets", .bool t.requirements.offsets)]

end Topic

end FirmwareSurvey
