import FirmwareSurvey.Analysis.Context
import FirmwareSurvey.Rootfs.Component
import FirmwareSurvey.Rootfs.Release

/-!
# Surveying the root file system

What system it is, what it consists of, which of its programs run with the rights of their owner,
and which carry a license that asks for an offer of their source.
-/

namespace FirmwareSurvey.Rootfs

open Analysis

/-! ### The release -/

/-- The release files, the first of which that knows a key tells it. -/
def releaseFiles : List String := ["etc/os-release", "usr/lib/os-release", "etc/openwrt_release"]

/-- The keys that are reported. -/
def releaseKeys : List String :=
  ["NAME", "VERSION", "ID", "PRETTY_NAME", "BUILD_ID", "DISTRIB_ID", "DISTRIB_RELEASE",
    "DISTRIB_REVISION"]

/-- The reported assignments of a release file; none when it cannot be read. -/
def reportedRelease (s : Storage) (root : Path) (file : String) : Members String :=
  match s.readText (root.child file) with
  | .ok text => (release text).filter fun e => releaseKeys.contains e.1
  | .error _ => []

/-- The release of a root file system, sorted by key. -/
def releaseOf (s : Storage) (root : Path) : Members String :=
  let all := releaseFiles.flatMap (reportedRelease s root)
  Members.sorted (all.foldl (fun m e => if m.has e.1 then m else m.put e.1 e.2) [])

/-- The value of the first key that is there. -/
def firstOf? (release : Members String) (keys : List String) : Option String :=
  keys.findSome? release.get?

/-! ### Programs with the rights of their owner -/

/-- A program that runs with the rights of its owner. -/
structure OwnedProgram where
  /-- Its path below the root file system. -/
  path : String
  /-- Its permission bits. -/
  mode : Nat
deriving DecidableEq

/-- The bit by which a program runs with the rights of its owner. -/
def ownerBit : Nat := 0o4000

/-- The bit by which a program runs with the rights of its group. -/
def groupBit : Nat := 0o2000

/-- The permission bits as octal digits. -/
def OwnedProgram.modeText (p : OwnedProgram) : String :=
  String.ofList (Text.padZeros 4 (Nat.toDigits 8 (p.mode % 0o10000)))

/-- The record of a program that runs with the rights of its owner. -/
def OwnedProgram.toJson (p : OwnedProgram) : Json :=
  .obj [("path", .str p.path), ("mode", .str p.modeText),
    ("setgid", .bool (p.mode &&& groupBit != 0))]

/-- The programs that run with the rights of their owner. -/
def ownedPrograms (s : Storage) (root : Path) : List OwnedProgram :=
  (s.below root).filterMap fun e =>
    match e.node with
    | .file _ mode =>
      if mode &&& ownerBit != 0 then some ⟨(e.path.relativeTo root).text, mode⟩ else none
    | _ => none

/-! ### The report -/

/-- The record of what there is below a directory. -/
def statisticsJson (s : Storage.Statistics) : Json :=
  .obj [("files", .ofNat s.files), ("directories", .ofNat s.directories),
    ("symlinks", .ofNat s.links), ("total_size", .ofNat s.totalSize)]

/-- The origins of the fields of the report. -/
def inventoryOrigins (root : Path) : List (String × String × String) :=
  let release := "squashfs-root/etc/\x7bos-release,openwrt_release\x7d"
  [("release", release, "KEY=value pairs"),
    ("os_name", release, "NAME, else DISTRIB_ID"),
    ("os_version", release, "VERSION, else DISTRIB_RELEASE"),
    ("kernel_version", "squashfs-root/lib/modules", "Name of the lib/modules/<version> directory"),
    ("statistics", root.text, "walkdir without following symlinks"),
    ("setuid_binaries", root.text, "Regular files with mode & 04000"),
    ("gpl_binaries", "squashfs-root/\x7busr/,\x7d\x7bs,\x7dbin",
      "Known GPL components as regular files; version regex over strings"),
    ("busybox_version", "squashfs-root/bin/busybox", "Regex 'BusyBox vX.Y.Z'")]

/-- The report on a root file system. -/
def inventory (s : Storage) (root : Path) (image : Firmware.Image) (leastRun : Nat) : Report :=
  let release := releaseOf s root
  let programs := publicPrograms s root leastRun
  let allInOne := (programs.find? (·.name == "busybox")).bind (·.version)
  { title := "Root Filesystem Analysis"
    value := .obj (image.members ++ [
      ("os_name", .ofOption? (firstOf? release ["NAME", "DISTRIB_ID"])),
      ("os_version", .ofOption? (firstOf? release ["VERSION", "DISTRIB_RELEASE"])),
      ("kernel_version", .ofOption? (kernelVersion? s root)),
      ("busybox_version", .ofOption? allInOne),
      ("release", .obj (release.map fun e => (e.1, .str e.2))),
      ("statistics", statisticsJson (s.statistics root)),
      ("setuid_binaries", .arr ((ownedPrograms s root).map OwnedProgram.toJson)),
      ("gpl_binaries", .arr (programs.map PublicProgram.toJson))])
    provenance := .ofList (inventoryOrigins root)
    simpleFields := some ["firmware_file", "firmware_size", "os_name", "os_version",
      "kernel_version", "busybox_version"] }

/-- Surveys the root file system. -/
def analyze (c : Context) : Context.Step Analysis := do
  let storage ← get
  let root ← c.needRoot Topic.rootfs.name storage
  return ⟨inventory storage root c.image c.config.minStringLength, []⟩

end FirmwareSurvey.Rootfs
