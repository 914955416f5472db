import FirmwareSurvey.Firmware.Resolve
import FirmwareSurvey.Json.Basic
import FirmwareSurvey.Offsets.Table
import FirmwareSurvey.Report.Basic
import FirmwareSurvey.Text.Case
import FirmwareSurvey.Uboot.Survey

/-!
# The boot chain

The boot chain starts at the ROM of the chip and goes on through the stages whose offsets are known,
numbered in order.
-/

namespace FirmwareSurvey.Boot

/-- A stage of the boot chain. -/
structure Stage where
  /-- The place in the chain, from one. -/
  order : Nat
  /-- The name. -/
  name : String
  /-- What runs. -/
  component : String
  /-- Where it lies in the image. -/
  offset : Option Nat
  /-- What it does. -/
  description : String
deriving DecidableEq

/-- What is known of a stage beforehand: the name of its offset, its name, what runs and what it
does. -/
def knownStages : List (String × String × String × String) :=
  [("UBOOT_GZ", "Bootloader", "U-Boot", "Loads and verifies the kernel FIT"),
    ("OPTEE_GZ", "Secure world", "OP-TEE", "Trusted execution environment (BL32)"),
    ("KERNEL_FIT", "Kernel", "Linux kernel FIT", "Kernel image with its device tree"),
    ("ROOTFS_CPIO", "Initramfs", "cpio ramdisk",
      "Early userspace that mounts the root filesystem"),
    ("SQUASHFS", "Root filesystem", "SquashFS", "Read-only main filesystem")]

/-- The stage that is always there. -/
def romStage : Stage :=
  ⟨1, "Boot ROM", "SoC mask ROM", none, "Loads the first-stage loader from boot media"⟩

/-- The stages whose offsets are known, numbered from `order` on. -/
def stagesFrom (offsets : Offsets.Table) (order : Nat) :
    List (String × String × String × String) → List Stage
  | [] => []
  | (offsetName, name, component, description) :: rest =>
    match offsets.offset? offsetName with
    | some o =>
      ⟨order, name, component, some o, description⟩ :: stagesFrom offsets (order + 1) rest
    | none => stagesFrom offsets order rest

/-- The boot chain that offsets tell. -/
def stages (offsets : Offsets.Table) : List Stage :=
  romStage :: stagesFrom offsets 2 knownStages

/-- The offset of a stage as it is written. -/
def Stage.hex? (s : Stage) : Option String := s.offset.map Offsets.formatHex

/-- The record of a stage. -/
def Stage.toJson (s : Stage) : Json :=
  .obj ([("order", .ofNat s.order), ("name", .str s.name), ("component", .str s.component)] ++
    Json.optional "offset" (s.hex?.map .str) ++ [("description", .str s.description)])

end FirmwareSurvey.Boot

/-!
## The report on the boot process

The boot chain, the versions of what runs in it, and the variables that decide how it starts. The
strings read here are printable runs, so that letter case matters for ASCII letters alone.
-/

namespace FirmwareSurvey.Boot

/-! ### What strings tell -/

/-- The rest of a text after a word that it starts with in either letter case. -/
def dropWordAnyCase? (word cs : List Char) : Option (List Char) :=
  if (cs.take word.length).map Char.toLower = word then some (cs.drop word.length) else none

/-- The version of the trusted system at the start of a text, after its announcement. -/
def announcedVersion? (cs : List Char) : Option (List Char) :=
  (dropWordAnyCase? "op-tee version:".toList cs).bind fun rest =>
    Text.release? (Text.skipBlanks rest)

/-- The version of the trusted system at the start of a text, after the name of its sources. -/
def sourceVersion? (cs : List Char) : Option (List Char) := do
  let rest ← dropWordAnyCase? "optee_os".toList cs
  let rest ← (Text.dropWord? [' '] rest).or (Text.dropWord? ['-'] rest)
  let rest := (dropWordAnyCase? ['v'] rest).getD rest
  match rest with
  | c :: _ => if Text.isDigit c then Text.release? rest else none
  | [] => none

/-- The version of the trusted system in a line. -/
def trustedVersion? (line : List Char) : Option (List Char) :=
  Text.firstAt? (fun cs => (announcedVersion? cs).or (sourceVersion? cs)) line

/-- The name of a chip at the start of a text, when no word character stands on either side. -/
def chip? (before : Option Char) (cs : List Char) : Option (List Char) :=
  let numbered (word : String) (digits : Nat) : Option (List Char) := do
    let rest ← dropWordAnyCase? word.toList cs
    let (_, rest) ← Text.exactly? digits Text.isDigit rest
    if Text.isBoundary cs[word.length + digits - 1]? rest.head? then
      some (cs.take (word.length + digits))
    else none
  if Text.isBoundary before cs.head? then (numbered "rv11" 2).or (numbered "rk3" 3) else none

/-- The name of the first chip in a line. -/
def chipIn? (line : List Char) : Option (List Char) := Text.firstBehind? chip? none line

/-- The value that a line assigns to a variable. -/
def assigned? (name : String) (line : List Char) : Option (List Char) :=
  match Text.dropWord? (name.toList ++ ['=']) line with
  | some (c :: cs) => if (c :: cs).contains '\n' then none else some (c :: cs)
  | _ => none

/-! ### The report -/

/-- What is known of the boot process. -/
structure Survey where
  /-- The image. -/
  image : Firmware.Image
  /-- The chip. -/
  chip : Option String := none
  /-- The version of the boot loader. -/
  loaderVersion : Option String := none
  /-- The version of the trusted system. -/
  trustedVersion : Option String := none
  /-- The version of the kernel. -/
  kernelVersion : Option String := none
  /-- The command that boots. -/
  command : Option String := none
  /-- The arguments the kernel is started with. -/
  arguments : Option String := none
  /-- The delay before booting. -/
  delay : Option String := none
  /-- The boot chain. -/
  stages : List Stage := []
  /-- The origins of the report's fields. -/
  provenance : Report.Provenance := []

namespace Survey

/-- The origins of what a boot loader's strings tell. -/
def loaderOrigins (source : String) : List (String × String × String) :=
  [("uboot_version", source, "Regex 'U-Boot YYYY.MM'"),
    ("soc", source, "Rockchip SoC name in U-Boot strings"),
    ("boot_command", source, "Default environment bootcmd="),
    ("bootargs", source, "Default environment bootargs="),
    ("boot_delay", source, "Default environment bootdelay=")]

/-- Records origins. -/
def addOrigins (s : Survey) (origins : List (String × String × String)) : Survey :=
  { s with provenance := origins.foldl (fun p o => p.add o.1 o.2.1 o.2.2) s.provenance }

/-- Fills in what the strings of the boot loader tell. -/
def readLoader (s : Survey) (lines : List String) (source : String) : Survey :=
  addOrigins
    { s with
      loaderVersion := Uboot.firstFound? Uboot.version? lines
      chip := (Uboot.firstFound? chipIn? lines).map Text.toUpper
      command := Uboot.firstFound? (assigned? "bootcmd") lines
      arguments := Uboot.firstFound? (assigned? "bootargs") lines
      delay := Uboot.firstFound? (assigned? "bootdelay") lines }
    (loaderOrigins source)

/-- Fills in what the strings of the trusted system tell. -/
def readTrusted (s : Survey) (lines : List String) (source : String) : Survey :=
  addOrigins
    { s with
      trustedVersion := (lines.findSome? fun l => trustedVersion? l.toList).map String.ofList }
    [("optee_version", source, "Regex 'OP-TEE version:' over strings")]

/-- The report on the boot process. -/
def report (s : Survey) : Report :=
  { title := "Boot Process Analysis"
    value := .obj (s.image.members ++ [("soc", .ofOption? s.chip),
      ("uboot_version", .ofOption? s.loaderVersion), ("optee_version", .ofOption? s.trustedVersion),
      ("kernel_version", .ofOption? s.kernelVersion), ("boot_command", .ofOption? s.command),
      ("bootargs", .ofOption? s.arguments), ("boot_delay", .ofOption? s.delay),
      ("boot_stages", .arr (s.stages.map Stage.toJson))])
    provenance := s.provenance
    simpleFields := some ["firmware_file", "firmware_size", "soc", "uboot_version",
      "optee_version", "kernel_version", "boot_command", "bootargs", "boot_delay"] }

/-- The name of the summary's file. -/
def summaryName : String := "boot-process.md"

open Report.Markdown in
/-- The summary of the report. -/
def summary (s : Survey) : String :=
  let number (n : Nat) : String := String.ofList (Text.decimalChars n)
  let known (v : Option String) : String := v.getD "unknown"
  let setting (name : String) (v : Option String) : String :=
    match v with
    | some v => line ("- " ++ code name ++ ": " ++ code v)
    | none => ""
  title "Boot Process Analysis" ++
    line ("Firmware: " ++ code s.image.fileName ++ " (" ++ number s.image.size ++ " bytes)") ++
    "\n" ++ heading "Boot Chain" ++
    table ["#", "Stage", "Component", "Offset", "Description"]
      (s.stages.map fun t => [number t.order, t.name, t.component, t.hex?.getD "-", t.description]) ++
    heading "Versions" ++
    table ["Component", "Version"]
      [["SoC", known s.chip], ["U-Boot", known s.loaderVersion],
        ["OP-TEE", known s.trustedVersion], ["Linux", known s.kernelVersion]] ++
    heading "Boot Configuration" ++ setting "bootcmd" s.command ++
    setting "bootargs" s.arguments ++ setting "bootdelay" s.delay

end Survey

end FirmwareSurvey.Boot
