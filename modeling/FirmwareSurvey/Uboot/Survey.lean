import FirmwareSurvey.Firmware.Resolve
import FirmwareSurvey.Json.Basic
import FirmwareSurvey.Offsets.Table
import FirmwareSurvey.Report.Basic
import FirmwareSurvey.Text.Lines
import FirmwareSurvey.Text.Search

/-!
# What the strings of a boot loader tell

The printable runs of an unpacked boot loader show its version with a banner and a build date, the
compiler that built it, the variables of its default environment, the commands it knows and the
features it has. Of each the first place counts.
-/

namespace FirmwareSurvey.Uboot

/-- What a reader finds in the first line where it finds anything, blanks around it dropped. -/
def firstFound? (read : List Char → Option (List Char)) (lines : List String) : Option String :=
  (lines.findSome? fun l => read l.toList).map fun found => String.ofList (Text.trimChars found)

/-! ### The version -/

/-- The release of a version banner at the start of a text, and the rest: the name, a year, a month
and whatever belongs to the release. -/
def bannerRelease? (cs : List Char) : Option (List Char × List Char) := do
  let rest ← Text.dropWord? "U-Boot ".toList cs
  let (year, rest) ← Text.exactly? 4 Text.isDigit rest
  let rest ← Text.dropWord? ['.'] rest
  let (month, rest) ← Text.exactly? 2 Text.isDigit rest
  some (year ++ '.' :: month ++ rest.takeWhile Text.isReleaseChar,
    rest.dropWhile Text.isReleaseChar)

/-- What stands between parentheses at the start of a text, and the rest. -/
def parenthesized? : List Char → Option (List Char × List Char)
  | '(' :: cs =>
    match cs.dropWhile (· != ')') with
    | _ :: rest => some (cs.takeWhile (· != ')'), rest)
    | [] => none
  | _ => none

/-- The version in a line. -/
def version? (line : List Char) : Option (List Char) :=
  Text.firstAt? (fun cs => (bannerRelease? cs).map (·.1)) line

/-- The banner in a line: the release and, if they follow, parentheses. -/
def banner? (line : List Char) : Option (List Char) :=
  Text.firstAt? (fun cs =>
    (bannerRelease? cs).map fun (_, rest) =>
      match parenthesized? (Text.skipBlanks rest) with
      | some (_, after) => cs.take (cs.length - after.length)
      | none => cs.take (cs.length - rest.length)) line

/-- Whether a text starts like a date: a month of three letters, a day of one or two digits and a
year. -/
def startsWithDate : List Char → Bool
  | a :: b :: c :: ' ' :: rest =>
    let small (x : Char) : Bool := 'a' ≤ x && x ≤ 'z'
    let yearFollows (cs : List Char) : Bool :=
      ((Text.dropWord? [' '] cs).bind (Text.exactly? 4 Text.isDigit)).isSome
    'A' ≤ a && a ≤ 'Z' && small b && small c &&
      (((Text.exactly? 2 Text.isDigit rest).map fun (_, r) => yearFollows r).getD false ||
        ((Text.exactly? 1 Text.isDigit rest).map fun (_, r) => yearFollows r).getD false)
  | _ => false

/-- The build date in a line: what stands in the parentheses after a release, when it starts with a
date. -/
def buildDate? (line : List Char) : Option (List Char) :=
  Text.firstAt? (fun cs => do
    let (_, rest) ← bannerRelease? cs
    let (inside, _) ← parenthesized? (Text.skipBlanks rest)
    if startsWithDate inside then some inside else none) line

/-! ### The compiler -/

/-- A character of the target's name before the compiler's. -/
def isTargetChar (c : Char) : Bool := Text.isWord c || c == '.' || c == '-'

/-- What follows a compiler's version at the start of a text. -/
def afterCompiler? (cs : List Char) : Option (List Char) := do
  let rest ← Text.dropWord? "gcc".toList cs
  let rest := match (Text.dropWord? [' '] rest).bind parenthesized? with
    | some (_, after) => after
    | none => rest
  let rest ← Text.dropWord? [' '] rest
  let (_, rest) ← Text.dottedVersion? rest
  some rest

/-- The compiler in a line, up to the line's end. `target` holds the characters of a target's name
right before, the last one first; they belong to the compiler's name when a hyphen ends them. -/
def compilerFrom? (target : List Char) : List Char → Option (List Char)
  | [] => none
  | c :: cs =>
    match afterCompiler? (c :: cs) with
    | some rest =>
      let after := rest.dropWhile (· != '\n')
      let name := (c :: cs).take (cs.length + 1 - after.length)
      match target with
      | '-' :: _ :: _ => some (target.reverse ++ name)
      | _ => some name
    | none => compilerFrom? (if isTargetChar c then c :: target else []) cs

/-- The compiler in a line. -/
def compiler? (line : List Char) : Option (List Char) := compilerFrom? [] line

/-! ### The environment -/

/-- A variable of the environment. -/
structure Variable where
  /-- The name. -/
  name : String
  /-- The value. -/
  value : String
deriving DecidableEq

/-- Whether a text is a variable's name: three to thirty-two small letters, digits and underscores,
the first a letter. -/
def isVariableName : List Char → Bool
  | c :: cs =>
    'a' ≤ c && c ≤ 'z' && 2 ≤ cs.length && cs.length ≤ 31 &&
      cs.all fun d => ('a' ≤ d && d ≤ 'z') || Text.isAsciiDigit d || d == '_'
  | [] => false

/-- The variable that a line assigns. A value is not empty and has no percent sign in it. -/
def variableOf? (line : String) : Option Variable :=
  match Text.cutOnce? '=' (Text.trimChars line.toList) with
  | some (name, value) =>
    if isVariableName name && !value.isEmpty && !value.contains '%' then
      some ⟨String.ofList name, String.ofList (Text.trimChars value)⟩
    else none
  | none => none

/-- Adds a variable unless its name is known. -/
def addVariable (known : List Variable) (v : Variable) : List Variable :=
  if known.any (·.name == v.name) then known else known ++ [v]

/-- The default environment: the first assignment of every name. -/
def environment (lines : List String) : List Variable :=
  (lines.filterMap variableOf?).foldl addVariable []

/-- The record of a variable. -/
def Variable.toJson (v : Variable) : Json := .obj [("name", .str v.name), ("value", .str v.value)]

/-! ### Commands and features -/

/-- The commands that are looked for. -/
def knownCommands : List String :=
  ["bootm", "bootz", "booti", "bootefi", "fdt", "mmc", "usb", "sf", "nand", "ubi", "gpt", "part",
    "tftpboot", "dhcp", "ping", "setenv", "saveenv", "printenv", "fastboot", "rockusb", "ums",
    "md", "mw", "go", "source", "load", "fatload", "ext4load"]

/-- The known commands that make up a line, in the order in which they are known. -/
def commands (lines : List String) : List String :=
  let trimmed := lines.map Text.trim
  knownCommands.filter (· ∈ trimmed)

/-- A feature and the line that shows it. -/
structure Feature where
  /-- The name. -/
  name : String
  /-- The line. -/
  evidence : String
deriving DecidableEq

/-- The features that are looked for, each with the texts that show it. -/
def knownFeatures : List (String × List String) :=
  [("FIT signature verification", ["Verifying Hash Integrity", "sig-required", "required-node"]),
    ("Android Verified Boot", ["avb_slot_verify", "AVB verification"]),
    ("Fastboot", ["fastboot"]),
    ("Rockusb download mode", ["rockusb"]),
    ("USB mass storage (ums)", ["UMS: "]),
    ("Network boot", ["tftpboot", "TFTP from server"]),
    ("Autoboot interrupt", ["Hit any key to stop autoboot", "autoboot"])]

/-- The known features that a line shows. -/
def features (lines : List String) : List Feature :=
  knownFeatures.filterMap fun (name, marks) =>
    (lines.find? fun l => marks.any fun m => Text.occursIn m.toList l.toList).map fun l =>
      ⟨name, Text.trim l⟩

/-- The record of a feature. -/
def Feature.toJson (f : Feature) : Json :=
  .obj [("name", .str f.name), ("evidence", .str f.evidence)]

end FirmwareSurvey.Uboot

/-!
## The report on a boot loader

The report on an image's boot loader, with what its strings tell, and a summary of it.
-/

namespace FirmwareSurvey.Uboot

/-- What is known of a boot loader. -/
structure Survey where
  /-- The name of the image's file. -/
  fileName : String := ""
  /-- The size of the image. -/
  imageSize : Nat := 0
  /-- Where the boot loader lies. -/
  offset : Option Nat := none
  /-- The size of the unpacked boot loader. -/
  unpackedSize : Option Nat := none
  /-- The version. -/
  version : Option String := none
  /-- The version with what follows it. -/
  banner : Option String := none
  /-- The build date. -/
  buildDate : Option String := none
  /-- The compiler. -/
  compiler : Option String := none
  /-- The delay before booting. -/
  bootDelay : Option String := none
  /-- The commands. -/
  commands : List String := []
  /-- The default environment. -/
  environment : List Variable := []
  /-- The features. -/
  features : List Feature := []
  /-- The origins of the report's fields. -/
  provenance : Report.Provenance := []

namespace Survey

/-- The delay before booting in a default environment. -/
def delayOf? (vs : List Variable) : Option String :=
  (vs.find? (·.name == "bootdelay")).map (·.value)

/-- The origins of what strings tell. -/
def stringOrigins (source : String) : List (String × String × String) :=
  [("version", source, "Regex 'U-Boot YYYY.MM' over strings"),
    ("version_banner", source, "Full U-Boot banner string"),
    ("build_date", source, "Date in parentheses after the banner"),
    ("toolchain", source, "First gcc version string"),
    ("environment", source, "name=value strings of the default env"),
    ("boot_delay", source, "bootdelay= in the default environment"),
    ("commands", source, "Known command names present as exact strings"),
    ("features", source, "Marker strings per feature")]

/-- Fills in what the strings of a boot loader tell. -/
def readStrings (s : Survey) (lines : List String) (source : String) : Survey :=
  { s with
    version := firstFound? version? lines
    banner := firstFound? banner? lines
    buildDate := firstFound? buildDate? lines
    compiler := firstFound? compiler? lines
    environment := Uboot.environment lines
    bootDelay := delayOf? (Uboot.environment lines)
    commands := Uboot.commands lines
    features := Uboot.features lines
    provenance := (stringOrigins source).foldl (fun p o => p.add o.1 o.2.1 o.2.2) s.provenance }

/-- The offset as it is written. -/
def hex? (s : Survey) : Option String := s.offset.map Offsets.formatHex

/-- The report on a boot loader. -/
def report (s : Survey) : Report :=
  { title := "U-Boot Analysis"
    value := .obj [("firmware_file", .str s.fileName), ("firmware_size", .ofNat s.imageSize),
      ("uboot_offset", .ofOption? s.hex?),
      ("decompressed_size", (s.unpackedSize.map Json.ofNat).getD .null),
      ("version", .ofOption? s.version), ("version_banner", .ofOption? s.banner),
      ("build_date", .ofOption? s.buildDate), ("toolchain", .ofOption? s.compiler),
      ("boot_delay", .ofOption? s.bootDelay), ("commands", .ofTexts s.commands),
      ("environment", .arr (s.environment.map Variable.toJson)),
      ("features", .arr (s.features.map Feature.toJson))]
    provenance := s.provenance }

/-- The name of the summary's file. -/
def summaryName : String := "uboot-version.md"

open Report.Markdown in
/-- The summary of the report. -/
def summary (s : Survey) : String :=
  let known (v : Option String) : String := v.getD "unknown"
  title "U-Boot Version Analysis" ++ line ("Firmware: " ++ code s.fileName) ++ "\n" ++
    heading "Version" ++
    table ["Property", "Value"]
      [["Version", known s.version], ["Banner", known s.banner], ["Build date", known s.buildDate],
        ["Toolchain", known s.compiler], ["Offset", known s.hex?],
        ["Boot delay", known s.bootDelay]] ++
    (if s.features.isEmpty then ""
      else heading "Features" ++
        table ["Feature", "Evidence"] (s.features.map fun f => [f.name, f.evidence])) ++
    (if s.commands.isEmpty then ""
      else heading "Commands" ++ line (", ".intercalate (s.commands.map code)))

end Survey

end FirmwareSurvey.Uboot
