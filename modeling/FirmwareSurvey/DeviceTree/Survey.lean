import FirmwareSurvey.Analysis.Context
import FirmwareSurvey.DeviceTree.Description

/-!
# Surveying the device trees

Every device tree that lies in a directory named by an offset is described. Its role is the name
under which the offsets file knows that offset. The board is that of the kernel's tree, or else of
the first tree that names one.
-/

namespace FirmwareSurvey.DeviceTree

open Analysis

/-- The description of a tree in a file; none when the file cannot be read. -/
def describeFile (s : Storage) (file : Path) (label : String) (leastRun : Nat) :
    Except Overflow (Option Description) :=
  if file.extension? = some "dts" then
    match s.readText file with
    | .ok text => (describeSource label text).map some
    | .error _ => .ok none
  else
    match s.readBytes file with
    | .ok bytes => .ok (some (describeBinary label bytes leastRun))
    | .error _ => .ok none

/-- The role of what lies at an offset. -/
def roleOf? (offsets : Option Offsets.Table) (offset : Option Nat) : Option String := do
  let offset ← offset
  let offsets ← offsets
  let name ← Offsets.vocabulary.find? fun n => offsets.offset? n = some offset
  return Text.toLower name

/-- The descriptions of the trees in a directory. -/
def describeDirectory (s : Storage) (extraction : Path) (offsets : Option Offsets.Table)
    (leastRun : Nat) (directory : Path) : Except Overflow (List Description) := do
  let offset := Offsets.parseHex? directory.fileName
  let found ← (Extraction.deviceTreeFiles s directory).mapM fun file =>
    describeFile s file (file.relativeTo extraction).text leastRun
  return (found.filterMap id).map fun d =>
    { d with offset := offset.map Offsets.formatHex, role := roleOf? offsets offset }

/-- The descriptions of all trees. -/
def describeAll (s : Storage) (extraction : Path) (offsets : Option Offsets.Table)
    (leastRun : Nat) : Except Overflow (List Description) := do
  let found ← (Extraction.deviceTreeDirectories s extraction).mapM
    (describeDirectory s extraction offsets leastRun)
  return found.flatten

/-- The model of the board. -/
def boardModel? (trees : List Description) : Option String :=
  let named := trees.filter (·.model.isSome)
  ((named.find? fun d => d.role == some "kernel_fit").or named.head?).bind (·.model)

/-- A text without the vendor it starts with, however often. -/
def dropVendor (vendor : List Char) : Nat → List Char → List Char
  | 0, cs => cs
  | fuel + 1, cs =>
    match Text.dropWord? vendor cs with
    | some rest => dropVendor vendor fuel rest
    | none => cs

/-- The chip: the first device of its vendor. -/
def chip? (trees : List Description) : Option String :=
  let vendor := "rockchip,".toList
  ((trees.flatMap (·.compatible)).find? fun t => vendor.isPrefixOf t.toList).map fun t =>
    Text.toUpper (String.ofList (dropVendor vendor t.length t.toList))

/-- The report on the device trees. -/
def reportOn (image : Firmware.Image) (source : String) (trees : List Description) : Report :=
  { title := "Device Tree Analysis"
    value := .obj (image.members ++ [("device_tree_count", .ofNat trees.length),
      ("board_model", .ofOption? (boardModel? trees)), ("soc", .ofOption? (chip? trees)),
      ("device_trees", .arr (trees.map Description.toJson))])
    provenance := .ofList [
      ("device_trees", source, "Hex-named extraction dirs holding .dts (or .dtb string fallback)"),
      ("board_model", source, "Root model of the kernel device tree"),
      ("soc", source, "First rockchip,<soc> compatible string")] }

/-- Surveys the device trees. -/
def analyze (c : Context) : Context.Step Analysis := do
  let extraction ← c.needExtraction Topic.deviceTrees.name
  let trees ← OnHost.tryLook (describeAll · extraction c.offsets c.config.minStringLength) .memory
  return ⟨reportOn c.image extraction.text trees, []⟩

end FirmwareSurvey.DeviceTree
