import FirmwareSurvey.Members
import FirmwareSurvey.Storage.Find
import FirmwareSurvey.Text.Lines

/-!
# Release files

A release file describes a system by assignments, one on a line, with one pair of quotes around a
value taken off. The last assignment of a key counts.
-/

namespace FirmwareSurvey.Rootfs

/-- The assignment of a line. -/
def releaseEntry? (line : List Char) : Option (String × String) :=
  match Text.cutOnce? '=' (Text.trimChars line) with
  | some (k :: key, value) =>
    if k = '#' then none
    else some (String.ofList (k :: key), String.ofList (Text.unquote (Text.trimChars value)))
  | _ => none

/-- The assignments of a release file, sorted by key. -/
def release (text : String) : Members String :=
  Members.sorted (Members.ofList ((Text.lineChars text.toList).filterMap releaseEntry?))

end FirmwareSurvey.Rootfs

/-!
## The version of the kernel

The modules of a kernel lie in a directory named after its version. The first such directory tells
the version.
-/

namespace FirmwareSurvey.Rootfs

/-- The directory of the kernel's modules below a root file system. -/
def modulesDirectory (root : Path) : Path := root.child "lib/modules"

/-- The version of the kernel of a root file system. -/
def kernelVersion? (s : Storage) (root : Path) : Option String :=
  (({ kind := some .directory, depth := some 1 } : Storage.Query).first? s
    (modulesDirectory root)).bind Path.fileName?

end FirmwareSurvey.Rootfs
