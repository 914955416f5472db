import FirmwareSurvey.Firmware.Resolve
import FirmwareSurvey.Json.Basic
import FirmwareSurvey.Offsets.Script
import FirmwareSurvey.Report.Basic
import FirmwareSurvey.Text.Case
import FirmwareSurvey.Text.Lines
import FirmwareSurvey.Text.Numeral
import FirmwareSurvey.Text.Search
import FirmwareSurvey.Text.Word

/-!
# The table of a signature scan

A signature scan prints a table of what it recognized in an image. A row starts with a decimal
offset, followed by the same offset in hexadecimal and a description, with blanks between them; all
other lines are dropped.
-/

namespace FirmwareSurvey.Binwalk

/-- A row of the table. -/
structure Component where
  /-- The hexadecimal offset, as written. -/
  hex : String
  /-- The offset. -/
  offset : Nat
  /-- The first word of the description. -/
  kind : String
  /-- The description. -/
  description : String
deriving DecidableEq

/-- The component of a description at an offset. -/
def Component.of (hex : List Char) (offset : Nat) (description : List Char) : Component :=
  { hex := String.ofList hex, offset, kind := String.ofList (Text.firstWord description)
    description := String.ofList description }

/-- Takes a run of blanks off the start of a text; at least one. -/
def dropGap? (cs : List Char) : Option (List Char) := (Text.someRun? Text.isBlank cs).map (·.2)

/-- The two offsets and the description of a line: digits, a word, and the rest of the line without
blanks at its ends. -/
def columns? (line : List Char) : Option (List Char × List Char × List Char) := do
  let (digits, rest) ← Text.someRun? Text.isDigit line
  let rest ← dropGap? rest
  let (hex, rest) ← Text.someRun? (!Text.isBlank ·) rest
  let rest ← dropGap? rest
  let description := Text.trimEndChars rest
  if description.isEmpty then none else some (digits, hex, description)

/-- The row that stands on a line. -/
def row? (line : List Char) : Option Component :=
  match columns? line with
  | some (digits, hex, description) =>
    if ['0', 'x'].isPrefixOf hex then
      (Text.decimal? digits).map fun offset => Component.of hex offset description
    else none
  | none => none

/-- The rows of a table. -/
def components (text : String) : List Component := (Text.lineChars text.toList).filterMap row?

/-- The record of a row. -/
def Component.toJson (c : Component) : Json :=
  .obj [("offset", .str c.hex), ("offset_dec", .ofNat c.offset), ("type", .str c.kind),
    ("description", .str c.description)]

end FirmwareSurvey.Binwalk

/-!
## Naming the offsets of the boot chain

A landmark is a named offset: the first row of the table whose description has all of the
landmark's terms, in either letter case, and whose offset lies behind the greatest of the landmarks
that have to come before it. The landmarks are looked for in the order of the boot chain. A landmark
that several rows would fit gives a warning.
-/

namespace FirmwareSurvey.Binwalk

/-- What a named offset is told by. -/
structure Landmark where
  /-- The name. -/
  name : String
  /-- The terms of the description. -/
  terms : List String
  /-- The landmarks that have to come before it, as far as they were found. -/
  after : List String
deriving DecidableEq

/-- The name of the landmark at the root file system. -/
def squashfs : String := "SQUASHFS"

/-- The landmarks, in the order of the boot chain. -/
def landmarks : List Landmark :=
  [⟨"BOOTLOADER_FIT", ["device tree blob"], []⟩,
    ⟨"UBOOT_GZ", ["gzip compressed data", "u-boot"], ["BOOTLOADER_FIT"]⟩,
    ⟨"OPTEE_GZ", ["gzip compressed data", "tee"], ["BOOTLOADER_FIT"]⟩,
    ⟨"KERNEL_FIT", ["device tree blob"], ["BOOTLOADER_FIT", "UBOOT_GZ", "OPTEE_GZ"]⟩,
    ⟨"ROOTFS_CPIO", ["cpio archive"], ["KERNEL_FIT"]⟩,
    ⟨squashfs, ["squashfs"], []⟩]

/-- Whether the description of a row has all terms, in either letter case. -/
def Component.hasTerms (c : Component) (terms : List String) : Bool :=
  let description := Text.lowerChars c.description.toList
  terms.all fun t => Text.occursIn (Text.lowerChars t.toList) description

/-- Whether a row lies behind an offset. -/
def Component.isBehind (c : Component) : Option Nat → Bool
  | none => true
  | some least => decide (least < c.offset)

/-- The rows that have all terms and lie behind an offset. -/
def candidates (components : List Component) (terms : List String) (least : Option Nat) :
    List Component :=
  components.filter fun c => c.isBehind least && c.hasTerms terms

/-- The offset of the first row that has all terms. -/
def firstOffset? (components : List Component) (terms : List String) : Option Nat :=
  (components.find? (·.hasTerms terms)).map (·.offset)

/-- The first of the rows that fit, and how many fit. -/
def pick? (components : List Component) (terms : List String) (least : Option Nat) :
    Option (Component × Nat) :=
  match candidates components terms least with
  | [] => none
  | c :: cs => some (c, cs.length + 1)

/-- The greatest of the offsets that are recorded under names. -/
def greatest? (found : Offsets.Found) (names : List String) : Option Nat :=
  (names.filterMap found.get?).max?

/-- The size that a description of a root file system states. -/
def statedSize? (description : List Char) : Option Nat :=
  let digits := Text.firstAt? (fun cs =>
    (Text.dropWord? "image size:".toList cs).bind fun rest =>
      (Text.someRun? Text.isDigit (Text.skipBlanks rest)).map (·.1)) description
  digits.bind Text.decimal?

/-- The offsets found, and the warnings. -/
structure Resolution where
  /-- The offsets found. -/
  offsets : Offsets.Found := {}
  /-- A warning for every landmark that several rows fit. -/
  warnings : List String := []

/-- The warning for a landmark that several rows fit. -/
def ambiguity (l : Landmark) (picked : Component) (count : Nat) : String :=
  let n := String.ofList (Text.decimalChars count)
  s!"{l.name}: {n} rows matched {Text.quotedList l.terms}; using the first at {picked.hex}"

/-- Looks for one landmark. -/
def Resolution.step (components : List Component) (r : Resolution) (l : Landmark) : Resolution :=
  match pick? components l.terms (greatest? r.offsets l.after) with
  | none => r
  | some (c, count) =>
    let offsets := r.offsets.insert l.name c.offset
    { offsets := if l.name = squashfs then offsets.setSquashfsSize (statedSize? c.description.toList)
        else offsets
      warnings := if count > 1 then r.warnings ++ [ambiguity l c count] else r.warnings }

/-- Looks for all landmarks, in order. -/
def resolve (components : List Component) : Resolution :=
  landmarks.foldl (Resolution.step components) {}

end FirmwareSurvey.Binwalk

/-!
## The report on a signature scan

The report and the offsets file are both filled from the resolved landmarks, so that they agree.
-/

namespace FirmwareSurvey.Binwalk

/-- The field of a landmark's offset. -/
def Landmark.field (l : Landmark) : String := Text.toLower l.name ++ "_offset"

/-- The members of the landmarks' offsets. -/
def offsetMembers (found : Offsets.Found) : List (String × Json) :=
  landmarks.map fun l => (l.field, .ofOption? ((found.get? l.name).map Offsets.formatHex))

/-- The origins of the landmarks' offsets. -/
def offsetOrigins (found : Offsets.Found) : List (String × String × String) :=
  (landmarks.filter fun l => (found.get? l.name).isSome).map fun l =>
    (l.field, "binwalk", "First row matching " ++ " + ".intercalate l.terms)

/-- The origin of the root file system's size. -/
def sizeOrigins (found : Offsets.Found) : List (String × String × String) :=
  match found.squashfsSize with
  | some _ => [("squashfs_size", "binwalk", "image size: field of the SquashFS row")]
  | none => []

/-- The report on a table of components and what was resolved from it. -/
def reportOn (image : Firmware.Image) (rows : List Component) (r : Resolution) : Report :=
  { title := "Binwalk Firmware Analysis"
    value := .obj (image.members ++ [("component_count", .ofNat rows.length)] ++
      offsetMembers r.offsets ++
      [("squashfs_size", ((r.offsets.squashfsSize).map Json.ofNat).getD .null),
        ("offset_warnings", .ofTexts r.warnings),
        ("components", .arr (rows.map Component.toJson))])
    provenance := .ofList
      ([("firmware_size", image.path.text, "File size on disk"),
        ("component_count", "binwalk", "Rows of the binwalk signature table")] ++
        offsetOrigins r.offsets ++ sizeOrigins r.offsets) }

/-- The report on a scan's output, and the offsets found. -/
def survey (image : Firmware.Image) (scan : String) : Report × Offsets.Found :=
  let rows := components scan
  let r := resolve rows
  (reportOn image rows r, r.offsets)

end FirmwareSurvey.Binwalk
