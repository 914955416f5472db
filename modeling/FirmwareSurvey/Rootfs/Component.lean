import FirmwareSurvey.Json.Basic
import FirmwareSurvey.Storage.Basic
import FirmwareSurvey.Text.Octets
import FirmwareSurvey.Text.Search

/-!
# Components under a public license

Programs whose license asks for an offer of their source. Such a program counts when it lies in one
of the directories of programs as a file of its own; a link to an all-in-one program does not. Its
version is read off the printable runs in it, behind a mark of the program's own.
-/

namespace FirmwareSurvey.Rootfs

/-- How the version of a program is written behind its mark. -/
inductive VersionForm where
  /-- As two or three numbers. -/
  | dotted
  /-- As a digit and any word characters and points. -/
  | digits
  /-- The same, with an optional mark of snapshots before. -/
  | snapshot
  /-- As any characters of a release. -/
  | release
deriving DecidableEq, Repr

/-- Reads a version at the start of a text. -/
def VersionForm.read? : VersionForm → List Char → Option (List Char)
  | .dotted, cs => (Text.dottedVersion? cs).map (·.1)
  | .digits, cs => Text.digitRelease? cs
  | .snapshot, cs => Text.digitRelease? ((Text.dropWord? ['s', 's'] cs).getD cs)
  | .release, cs => Text.release? cs

/-- A program under a public license. -/
structure Component where
  /-- The name of its file. -/
  name : String
  /-- Its license. -/
  license : String
  /-- What stands before its version. -/
  mark : String
  /-- How its version is written. -/
  form : VersionForm

/-- The programs looked for. -/
def components : List Component := [
  ⟨"busybox", "GPL-2.0", "BusyBox v", .dotted⟩,
  ⟨"bash", "GPL-3.0", "GNU bash, version ", .dotted⟩,
  ⟨"dnsmasq", "GPL-2.0", "dnsmasq-", .dotted⟩,
  ⟨"iptables", "GPL-2.0", "iptables v", .dotted⟩,
  ⟨"ip", "GPL-2.0", "iproute2-", .snapshot⟩,
  ⟨"e2fsck", "GPL-2.0", "e2fsck ", .dotted⟩,
  ⟨"mtd", "GPL-2.0", "mtd-utils ", .dotted⟩,
  ⟨"opkg", "GPL-2.0", "opkg version ", .release⟩,
  ⟨"ubusd", "LGPL-2.1", "ubus ", .digits⟩]

/-- The directories of programs. -/
def programDirectories : List String := ["bin", "sbin", "usr/bin", "usr/sbin"]

/-- The greatest size of a file that is searched for a version. -/
def versionSearchLimit : Nat := 16 * 1024 * 1024

/-- The version of a program that a text tells. -/
def Component.version? (c : Component) (text : String) : Option String :=
  (Text.firstAt? (fun cs => (Text.dropWord? c.mark.toList cs).bind c.form.read?) text.toList).map
    String.ofList

/-- The version of a program that the first printable run tells that tells any. -/
def Component.versionIn? (c : Component) (s : Storage) (path : Path) (leastRun : Nat) :
    Option String :=
  match s.readContents path with
  | .error _ => none
  | .ok contents =>
    if versionSearchLimit < contents.size then none
    else (Text.printableRuns contents.toBytes leastRun).findSome? c.version?

/-- A program under a public license that was found. -/
structure PublicProgram where
  /-- The name of its file. -/
  name : String
  /-- Its path below the root file system. -/
  path : String
  /-- Its version, as far as it tells. -/
  version : Option String
  /-- Its license. -/
  license : String

/-- The program with its members by name. -/
def PublicProgram.toJson (p : PublicProgram) : Json :=
  .obj [("name", .str p.name), ("path", .str p.path), ("version", .ofOption? p.version),
    ("license", .str p.license)]

/-- Whether a path leads to a file that is no link. -/
def isPlainFile (s : Storage) (path : Path) : Bool :=
  match s.node? false path with
  | .ok (.file _ _) => true
  | _ => false

/-- A program where it lies below the root file system, if it does. -/
def Component.find? (c : Component) (s : Storage) (root : Path) (leastRun : Nat) :
    Option PublicProgram :=
  ((programDirectories.map fun d => (root.child d).child c.name).find? (isPlainFile s)).map
    fun path => ⟨c.name, (path.relativeTo root).text, c.versionIn? s path leastRun, c.license⟩

/-- The programs under a public license below a root file system. -/
def publicPrograms (s : Storage) (root : Path) (leastRun : Nat) : List PublicProgram :=
  components.filterMap fun c => c.find? s root leastRun

end FirmwareSurvey.Rootfs
