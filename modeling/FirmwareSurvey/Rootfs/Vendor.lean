import FirmwareSurvey.Analysis.Context
import FirmwareSurvey.Members
import FirmwareSurvey.Rootfs.Module

/-!
# Surveying the closed parts of a root file system

Kernel modules with what they tell of their license, the libraries and programs of vendors, and the
firmware that drivers load. Files of vendors are known by patterns of their names.
-/

namespace FirmwareSurvey.Rootfs

open Analysis Storage

/-- A pattern of names that a vendor uses. -/
structure VendorPattern where
  /-- The pattern. -/
  pattern : String
  /-- The vendor. -/
  vendor : String
  /-- What the file is for. -/
  purpose : String
deriving DecidableEq

/-- The patterns of vendors' libraries. -/
def vendorLibraries : List VendorPattern := [
  ⟨"librockchip_mpp.so*", "Rockchip", "Media Process Platform (video codec)"⟩,
  ⟨"librga.so*", "Rockchip", "RGA 2D graphics accelerator"⟩,
  ⟨"librknn*.so*", "Rockchip", "RKNN NPU runtime"⟩,
  ⟨"librkaiq.so*", "Rockchip", "ISP auto image quality"⟩,
  ⟨"librkmedia*.so*", "Rockchip", "Rockit/RKMedia pipeline"⟩,
  ⟨"libeasymedia.so*", "Rockchip", "EasyMedia pipeline"⟩,
  ⟨"librockit*.so*", "Rockchip", "Rockit media framework"⟩,
  ⟨"librkisp*.so*", "Rockchip", "ISP control"⟩,
  ⟨"libmali*.so*", "Arm", "Mali GPU driver"⟩,
  ⟨"libglsdk*.so*", "GL.iNet", "GL.iNet SDK"⟩,
  ⟨"libgl_*.so*", "GL.iNet", "GL.iNet platform library"⟩,
  ⟨"libwifi*.so*", "Unknown", "Wi-Fi vendor library"⟩]

/-- The patterns of vendors' programs. -/
def vendorPrograms : List VendorPattern := [
  ⟨"rkipc", "Rockchip", "IP camera application"⟩,
  ⟨"mediaserver", "Rockchip", "Media server"⟩,
  ⟨"rkaiq_*", "Rockchip", "ISP tuning server"⟩,
  ⟨"gl_*", "GL.iNet", "GL.iNet platform service"⟩,
  ⟨"gl-*", "GL.iNet", "GL.iNet platform service"⟩,
  ⟨"kvmd*", "GL.iNet", "KVM daemon"⟩,
  ⟨"rk_*", "Rockchip", "Rockchip utility"⟩]

/-- The directories of libraries. -/
def libraryDirectories : List String := ["usr/lib", "lib", "oem/usr/lib"]

/-- The directories of vendors' programs. -/
def vendorProgramDirectories : List String := ["usr/bin", "usr/sbin", "bin", "sbin", "oem/usr/bin"]

/-- The size of what a path leads to; zero when it leads nowhere. -/
def fileSize (s : Storage) (p : Path) : Nat :=
  match s.size? p with
  | .ok n => n
  | .error _ => 0

/-! ### Kernel modules -/

/-- The printable runs of a module, none when they cannot be had; only a missing program is an
error. -/
def moduleRuns (tools : Config.ToolPaths) (file : Path) (leastRun : Nat) :
    OnHost Tool.Error (List String) := do
  match ← OnHost.attempt (Tool.listStrings tools file leastRun) with
  | .ok runs => return runs
  | .error e => if e.isMissing then throw e else return []

/-- The module in a file. -/
def moduleIn (tools : Config.ToolPaths) (root file : Path) (leastRun : Nat) :
    OnHost Tool.Error Module := do
  let size := fileSize (← get) file
  let runs ← moduleRuns tools file leastRun
  return { name := file.fileStem, path := (file.relativeTo root).text, size : Module }.takeAll runs

/-- The kernel modules below a root file system. -/
def modules (tools : Config.ToolPaths) (root : Path) (leastRun : Nat) :
    OnHost Tool.Error (List Module) := do
  let files := ({ wanted := ["*.ko"], kind := some .file } : Query).find (← get) root
  files.mapM (moduleIn tools root · leastRun)

/-! ### Files of vendors -/

/-- A file of a vendor. -/
structure VendorFile where
  /-- Its name. -/
  name : String
  /-- Its path below the root file system. -/
  path : String
  /-- The pattern that it was known by. -/
  row : VendorPattern
  /-- Its size. -/
  size : Nat
  /-- Its type, as far as it can be told. -/
  type : Option String
deriving DecidableEq

/-- The record of a file of a vendor. -/
def VendorFile.toJson (f : VendorFile) : Json :=
  .obj [("name", .str f.name), ("path", .str f.path), ("vendor", .str f.row.vendor),
    ("purpose", .str f.row.purpose), ("size", .ofNat f.size), ("file_type", .ofOption? f.type)]

/-- The type of a file, none when it cannot be told; only a missing program is an error. -/
def typeOf? (tools : Config.ToolPaths) (file : Path) : OnHost Tool.Error (Option String) := do
  match ← OnHost.attempt (Tool.describeFile tools file) with
  | .ok type => return some type
  | .error e => if e.isMissing then throw e else return none

/-- Adds a file that a pattern found, unless a file of its path is known. -/
def addVendorFile (tools : Config.ToolPaths) (root : Path) (row : VendorPattern)
    (known : List VendorFile) (file : Path) : OnHost Tool.Error (List VendorFile) := do
  let path := (file.relativeTo root).text
  if known.any (·.path == path) then return known
  else do
    let size := fileSize (← get) file
    let type ← typeOf? tools file
    return known ++ [⟨file.fileName, path, row, size, type⟩]

/-- The files that a pattern finds in a directory and in those directly inside it. -/
def matchingFiles (s : Storage) (directory : Path) (row : VendorPattern) : List Path :=
  ({ wanted := [row.pattern], kind := some .file, depth := some 2 } : Query).find s directory

/-- Adds the files that a pattern finds in a directory. -/
def addMatching (tools : Config.ToolPaths) (root directory : Path) (known : List VendorFile)
    (row : VendorPattern) : OnHost Tool.Error (List VendorFile) := do
  (matchingFiles (← get) directory row).foldlM (addVendorFile tools root row) known

/-- The files of vendors in some directories, sorted by path. -/
def vendorFiles (tools : Config.ToolPaths) (root : Path) (directories : List String)
    (table : List VendorPattern) : OnHost Tool.Error (List VendorFile) := do
  let found ← directories.foldlM (fun known d =>
    table.foldlM (addMatching tools root (root.child d)) known) []
  return Sorting.sort (fun a b => decide (a.path ≤ b.path)) found

/-! ### Firmware of drivers -/

/-- The records of the firmware that drivers load. -/
def driverFirmware (s : Storage) (root : Path) : List Json :=
  (({ kind := some .file } : Query).find s (root.child "lib/firmware")).map fun p =>
    .obj [("name", .str p.fileName), ("path", .str (p.relativeTo root).text),
      ("size", .ofNat (fileSize s p))]

/-! ### The report -/

/-- The origins of the report's fields. -/
def vendorOrigins : List (String × String × String) :=
  [("kernel_modules", "squashfs-root/**/*.ko",
      "strings -a over each module; license=/vermagic= modinfo entries"),
    ("proprietary_module_count", "kernel_modules",
      "Modules whose license is missing or not GPL-compatible"),
    ("vendor_libraries", "squashfs-root/\x7busr/,oem/usr/,\x7dlib",
      "Known vendor library name patterns; file -b classification"),
    ("vendor_binaries", "squashfs-root/\x7busr/,oem/usr/,\x7d\x7bs,\x7dbin",
      "Known vendor executable name patterns; file -b classification"),
    ("firmware_blobs", "squashfs-root/lib/firmware", "Every regular file")]

/-- The report on the closed parts of a root file system. -/
def vendorReport (image : Firmware.Image) (modules : List Module)
    (libraries programs : List VendorFile) (firmware : List Json) : Report :=
  { title := "Proprietary Blob Analysis"
    value := .obj (image.members ++ [("kernel_module_count", .ofNat modules.length),
      ("proprietary_module_count", .ofNat (modules.filter (·.proprietary)).length),
      ("vendor_library_count", .ofNat libraries.length),
      ("vendor_binary_count", .ofNat programs.length),
      ("firmware_blob_count", .ofNat firmware.length),
      ("kernel_modules", .arr (modules.map Module.toJson)),
      ("vendor_libraries", .arr (libraries.map VendorFile.toJson)),
      ("vendor_binaries", .arr (programs.map VendorFile.toJson)),
      ("firmware_blobs", .arr firmware)])
    provenance := .ofList vendorOrigins }

/-- Surveys the closed parts of a root file system. -/
def analyzeVendors (c : Context) : Context.Step Analysis := do
  let root ← c.needRoot Topic.proprietaryBlobs.name (← get)
  let tools := c.config.tools
  let modules ← OnHost.mapError .tool (modules tools root c.config.minStringLength)
  let libraries ← OnHost.mapError .tool
    (vendorFiles tools root libraryDirectories vendorLibraries)
  let programs ← OnHost.mapError .tool
    (vendorFiles tools root vendorProgramDirectories vendorPrograms)
  return ⟨vendorReport c.image modules libraries programs (driverFirmware (← get) root), []⟩

end FirmwareSurvey.Rootfs
