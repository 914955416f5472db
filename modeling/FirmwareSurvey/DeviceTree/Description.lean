import FirmwareSurvey.DeviceTree.Lookup
import FirmwareSurvey.Json.Basic
import FirmwareSurvey.Text.Case
import FirmwareSurvey.Text.Octets
import FirmwareSurvey.Text.Search

/-!
# Describing a device tree

A decompiled tree is described by its model, its memory, its boot arguments, what it is compatible
with, and the hardware that its nodes in use stand for. Of a tree that was not decompiled only the
texts that look like a vendor and a device are told.
-/

namespace FirmwareSurvey.DeviceTree

/-! ### Hardware -/

/-- The categories of hardware, each with the words that tell it. -/
def categories : List (String × List String) :=
  [("serial", ["uart", "serial"]),
    ("i2c", ["i2c"]),
    ("spi", ["spi"]),
    ("storage", ["mmc", "sdhci", "dwmmc", "nand", "sfc"]),
    ("network", ["ethernet", "gmac", "stmmac", "mdio"]),
    ("usb", ["usb", "dwc3", "ehci", "ohci"]),
    ("gpio", ["gpio", "pinctrl"]),
    ("display", ["hdmi", "vop", "dsi", "lcdc"]),
    ("camera", ["isp", "vicap", "csi", "cif"]),
    ("multimedia", ["vpu", "rkvenc", "rkvdec", "mpp", "rga", "npu"]),
    ("audio", ["i2s", "codec", "sound"]),
    ("power", ["pmic", "regulator", "pwm", "tsadc", "thermal"])]

/-- The first category with a word in a node's name or in what it is compatible with. -/
def category? (n : Node) : Option String :=
  let text := Text.lowerChars (n.name ++ " " ++ " ".intercalate n.compatible).toList
  (categories.find? fun c => c.2.any fun word => Text.occursIn word.toList text).map (·.1)

/-- A piece of hardware. -/
structure Hardware where
  /-- The name of its node. -/
  name : String
  /-- Its category. -/
  category : String
  /-- Its address. -/
  address : Option String
  /-- The label of its node. -/
  label : Option String
  /-- What it is compatible with. -/
  compatible : List String
deriving DecidableEq

/-- The hardware of a node: one in use that says what it is compatible with and has a category. -/
def Hardware.ofNode? (n : Node) : Option Hardware :=
  if n.path == "/" || !n.isEnabled || n.compatible.isEmpty then none
  else
    (category? n).map fun category =>
      { name := n.name, category, address := n.unit.map ("0x" ++ ·), label := n.label
        compatible := n.compatible }

/-- The record of a piece of hardware. -/
def Hardware.toJson (h : Hardware) : Json :=
  .obj ([("name", .str h.name), ("category", .str h.category)] ++
    Json.optional "address" (h.address.map .str) ++ Json.optional "label" (h.label.map .str) ++
    [("compatible", .ofTexts h.compatible)])

/-! ### Descriptions -/

/-- What a description was made from. -/
inductive Format where
  /-- A decompiled tree. -/
  | source
  /-- The printable runs of a tree that was not decompiled. -/
  | runs
deriving DecidableEq, Repr

/-- The name of a format. -/
def Format.name : Format → String
  | .source => "dts"
  | .runs => "dtb-strings"

/-- The description of a device tree. -/
structure Description where
  /-- The file. -/
  path : String
  /-- What the description was made from. -/
  format : Format
  /-- The offset of the tree in the image. -/
  offset : Option String := none
  /-- The part of the boot chain that the tree belongs to. -/
  role : Option String := none
  /-- The board's model. -/
  model : Option String := none
  /-- The size of the memory in whole mebibytes. -/
  memory : Option Nat := none
  /-- The arguments the kernel is started with. -/
  bootArguments : Option String := none
  /-- How many nodes there are. -/
  nodeCount : Nat := 0
  /-- What the board is compatible with. -/
  compatible : List String := []
  /-- The hardware. -/
  hardware : List Hardware := []
deriving DecidableEq

/-- The bytes of a mebibyte. -/
def mebibyte : Nat := 0x100000

/-- Describes a decompiled tree. -/
def describeSource (path text : String) : Except Overflow Description := do
  let memory ← memorySize text
  let all := nodes text
  .ok { path, format := .source, model := model? text, memory := memory.map (· / mebibyte)
        bootArguments := bootArguments? text, nodeCount := all.length
        compatible := DeviceTree.compatible text, hardware := all.filterMap Hardware.ofNode? }

/-- A small ASCII letter. -/
def isSmallLetter (c : Char) : Bool := 'a' ≤ c && c ≤ 'z'

/-- A small ASCII letter or a digit. -/
def isSmallAlphanumeric (c : Char) : Bool := isSmallLetter c || Text.isAsciiDigit c

/-- Whether a text looks like a vendor and a device with a comma between them. -/
def isVendorDevice (cs : List Char) : Bool :=
  match Text.cutOnce? ',' cs with
  | some (v :: vendor, d :: device) =>
    isSmallLetter v && vendor.all (fun c => isSmallAlphanumeric c || c == '-') &&
      isSmallAlphanumeric d &&
      device.all fun c => isSmallAlphanumeric c || c == '.' || c == ',' || c == '_' || c == '-'
  | _ => false

/-- Describes a tree that was not decompiled by the printable runs of at least a length. -/
def describeBinary (path : String) (bytes : ByteArray) (least : Nat) : Description :=
  let found := (Text.printableRuns bytes least).filter fun r => isVendorDevice r.toList
  { path, format := .runs
    compatible := found.foldl (fun seen r => if r ∈ seen then seen else seen ++ [r]) [] }

/-- The record of a description. -/
def Description.toJson (d : Description) : Json :=
  .obj ([("path", .str d.path), ("format", .str d.format.name)] ++
    Json.optional "offset" (d.offset.map .str) ++ Json.optional "role" (d.role.map .str) ++
    Json.optional "model" (d.model.map .str) ++ Json.optional "memory_mb" (d.memory.map .ofNat) ++
    Json.optional "bootargs" (d.bootArguments.map .str) ++ [("node_count", .ofNat d.nodeCount)] ++
    Json.someTexts "compatible" d.compatible ++
    (if d.hardware.isEmpty then [] else [("hardware", .arr (d.hardware.map Hardware.toJson))]))

end FirmwareSurvey.DeviceTree
