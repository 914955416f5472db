import FirmwareSurvey.Members
import FirmwareSurvey.Storage.Basic
import FirmwareSurvey.Text.Lines
import FirmwareSurvey.Text.Numeral
import FirmwareSurvey.Text.Quoted

/-!
# How offsets are written

An offset shows as `0x` with capital hexadecimal digits; the directory that holds what was unpacked
at an offset is named by the digits alone. Reading takes either form, in either letter case, with
blanks around it and with the mark repeated or missing.
-/

namespace FirmwareSurvey.Offsets

/-- An offset with its hexadecimal mark. -/
def formatHex (n : Nat) : String := "0x" ++ Text.upperHex n

/-- The name of the directory for what was unpacked at an offset. -/
def directoryName (n : Nat) : String := Text.upperHex n

/-- A text without the hexadecimal marks it starts with, each a zero followed by `x`. -/
def dropMarks (x : Char) : List Char → List Char
  | '0' :: c :: rest => if c = x then dropMarks x rest else '0' :: c :: rest
  | cs => cs

/-- Reads a hexadecimal offset, with or without marks. -/
def hexChars? (cs : List Char) : Option Nat :=
  Text.unsigned? 16 Text.wordLimit (dropMarks 'X' (dropMarks 'x' (Text.trimChars cs)))

/-- Reads a hexadecimal offset, with or without marks. -/
def parseHex? (s : String) : Option Nat := hexChars? s.toList

end FirmwareSurvey.Offsets

/-!
## The offsets file

The offsets file is a shell script of assignments. Each line that is neither blank nor a comment and
holds an equals sign assigns a value to a key, blanks around both dropped and one pair of quotes
around the value taken off. A key that ends in `_DEC` takes a decimal number and nothing else; any
other value is kept as written. A later assignment of a key replaces an earlier one.

A name `N` of the vocabulary owns the keys `N_OFFSET` and `N_OFFSET_DEC`; the decimal one wins.
-/

namespace FirmwareSurvey

namespace Offsets

/-- The vocabulary of offset names, in the order of the boot chain. -/
def vocabulary : List String :=
  ["BOOTLOADER_FIT", "UBOOT_GZ", "OPTEE_GZ", "KERNEL_FIT", "ROOTFS_CPIO", "SQUASHFS"]

/-- The name of the offsets file inside the output directory. -/
def fileName : String := "binwalk-offsets.sh"

/-- Why there are no offsets. -/
inductive Error where
  /-- Neither a file nor a directory was given. -/
  | noLocation
  /-- There is no such file. -/
  | notFound (path : Path)
  /-- The file cannot be read. -/
  | read (path : Path) (cause : Storage.Fault)
  /-- A value that has to be a decimal number is none. -/
  | invalidDecimal (key value : String)
deriving DecidableEq

/-- The wording of an error. -/
def Error.message : Error → String
  | .noLocation => "No offsets location given (need an output directory or an explicit path)"
  | .notFound path => s!"Offsets file not found at {path} (run \x60fwprobe binwalk\x60 first)"
  | .read path cause => s!"Failed to read offsets file {path}: {cause.message}"
  | .invalidDecimal key value => s!"Invalid decimal value for {key}: {Text.quoted value}"

/-- The value of a key. -/
inductive Value where
  /-- A value kept as written. -/
  | raw (text : String)
  /-- A decimal number. -/
  | dec (n : Nat)
deriving DecidableEq

/-- The text of a value. -/
def Value.text : Value → String
  | .raw s => s
  | .dec n => String.ofList (Text.decimalChars n)

/-- The values of a file, and where it was read. -/
structure Table where
  /-- The values by key. -/
  values : Members Value := []
  /-- The file the values were read from. -/
  source : Option Path := none

/-! ### Reading a file -/

/-- The key and the value text of a line, when it assigns one. -/
def assignment? (line : List Char) : Option (String × List Char) :=
  match Text.trimChars line with
  | [] => none
  | '#' :: _ => none
  | cs =>
    (Text.cutOnce? '=' cs).map fun (key, value) =>
      (String.ofList (Text.trimChars key), Text.unquote (Text.trimChars value))

/-- Whether a key takes a decimal number. -/
def isDecimalKey (key : String) : Bool := key.toList.reverse.take 4 == ['C', 'E', 'D', '_']

/-- The value an assignment gives its key. -/
def value? (key : String) (text : List Char) : Except Error Value :=
  if isDecimalKey key then
    match Text.decimal? text with
    | some n => .ok (.dec n)
    | none => .error (.invalidDecimal key (String.ofList text))
  else .ok (.raw (String.ofList text))

/-- Carries out one assignment. -/
def assign (values : Members Value) (a : String × List Char) : Except Error (Members Value) :=
  (value? a.1 a.2).map (values.put a.1)

/-- The assignments of a text, in order. -/
def assignments (cs : List Char) : List (String × List Char) :=
  (Text.lineChars cs).filterMap assignment?

/-- Reads a file's text. The first value that is not a number where one is wanted is the error. -/
def parse (body : String) : Except Error Table :=
  ((assignments body.toList).foldlM assign []).map fun values => ⟨values, none⟩

/-- Reads the offsets file at a path, or else the one in the output directory. -/
def load (s : Storage) (outputDir path : Option Path) : Except Error Table := do
  let path ← match path, outputDir with
    | some p, _ => .ok p
    | none, some dir => .ok (dir.child fileName)
    | none, none => .error .noLocation
  if !s.isFile path then .error (.notFound path)
  else
    match s.readText path with
    | .error cause => .error (.read path cause)
    | .ok body => (parse body).map fun table => { table with source := some path }

/-! ### Looking up -/

namespace Table

/-- The value of a key. -/
def get? (t : Table) (key : String) : Option Value := t.values.get? key

/-- The hexadecimal offset of a name, as written. -/
def hex? (t : Table) (name : String) : Option String :=
  match t.get? (name ++ "_OFFSET") with
  | some (.raw s) => some s
  | _ => none

/-- The decimal offset of a name. -/
def dec? (t : Table) (name : String) : Option Nat :=
  match t.get? (name ++ "_OFFSET_DEC") with
  | some (.dec n) => some n
  | _ => none

/-- The offset of a name: the decimal one, or else the value of the hexadecimal one. -/
def offset? (t : Table) (name : String) : Option Nat :=
  match t.dec? name with
  | some n => some n
  | none => (t.hex? name).bind parseHex?

/-- The size of the root file system, written in decimal or else in hexadecimal. -/
def squashfsSize? (t : Table) : Option Nat :=
  match t.get? "SQUASHFS_SIZE" with
  | none => none
  | some (.dec n) => some n
  | some (.raw s) =>
    match Text.decimal? s.toList with
    | some n => some n
    | none => parseHex? s

/-- Whether no key is defined. -/
def isEmpty (t : Table) : Bool := t.values.isEmpty

end Table

end Offsets

end FirmwareSurvey
