import FirmwareSurvey.Offsets.Table
import FirmwareSurvey.Storage.Find

/-!
# The tree of what was unpacked

Unpacking an image leaves a directory tree. What was found at an offset lies in a directory named
by the offset in capital hexadecimal digits; the root file system lies in a directory of its own
name.
-/

namespace FirmwareSurvey.Extraction

open Storage

/-- The name of the directory that holds the root file system. -/
def squashfsRootName : String := "squashfs-root"

/-- The directory of the root file system. -/
def squashfsRoot? (s : Storage) (extraction : Path) : Option Path :=
  ({ wanted := [squashfsRootName], kind := some .directory } : Query).first? s extraction

/-- The directory of what was found at an offset. -/
def directoryAt? (s : Storage) (extraction : Path) (offset : Nat) : Option Path :=
  ({ wanted := [Offsets.directoryName offset], kind := some .directory } : Query).first? s extraction

/-- The files directly inside a directory whose name matches a pattern. -/
def filesNamed (s : Storage) (directory : Path) (pattern : String) : List Path :=
  ({ wanted := [pattern], kind := some .file, depth := some 1 } : Query).find s directory

/-- The device trees directly inside a directory: the source files, or else the binary ones. -/
def deviceTreeFiles (s : Storage) (directory : Path) : List Path :=
  let sources := filesNamed s directory "*.dts"
  if sources.isEmpty then filesNamed s directory "*.dtb" else sources

/-- A capital hexadecimal digit. -/
def isUpperHexDigit (c : Char) : Bool := ('0' ≤ c && c ≤ '9') || ('A' ≤ c && c ≤ 'F')

/-- Whether a name may be that of a directory for an offset. -/
def isOffsetName (name : String) : Bool := !name.isEmpty && name.toList.all isUpperHexDigit

/-- The directories named by offsets that hold device trees. -/
def deviceTreeDirectories (s : Storage) (extraction : Path) : List Path :=
  (({ kind := some .directory } : Query).find s extraction).filter fun d =>
    isOffsetName d.fileName && !(deviceTreeFiles s d).isEmpty

end FirmwareSurvey.Extraction
