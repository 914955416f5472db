import FirmwareSurvey.Json.Basic
import FirmwareSurvey.Text.Lines

/-!
# Kernel modules

A kernel module carries its license, the kernel it was built for, its author and a description as
assignments among its strings. The first value of each counts. A module is proprietary when it has
no license or one that is not compatible with the kernel's.
-/

namespace FirmwareSurvey.Rootfs

/-- A kernel module. -/
structure Module where
  /-- The name. -/
  name : String := ""
  /-- The file. -/
  path : String := ""
  /-- The size of the file. -/
  size : Nat := 0
  /-- The license. -/
  license : Option String := none
  /-- The kernel it was built for. -/
  vermagic : Option String := none
  /-- The author. -/
  author : Option String := none
  /-- A description. -/
  description : Option String := none
  /-- Whether it has no license that is compatible with the kernel's. -/
  proprietary : Bool := false
deriving DecidableEq

/-- The licenses that are compatible with the kernel's. -/
def compatibleLicenses : List String :=
  ["GPL", "GPL v2", "GPL and additional rights", "Dual BSD/GPL", "Dual MIT/GPL", "Dual MPL/GPL"]

/-- Whether a license, blanks at its ends dropped, is compatible with the kernel's. -/
def isCompatibleLicense (license : String) : Bool := compatibleLicenses.contains (Text.trim license)

/-- The first of two values. -/
def keepFirst (old : Option String) (new : String) : Option String := old.or (some new)

namespace Module

/-- Takes the value of one key. -/
def take (m : Module) (key value : String) : Module :=
  if key = "license" then { m with license := keepFirst m.license value }
  else if key = "vermagic" then { m with vermagic := keepFirst m.vermagic value }
  else if key = "author" then { m with author := keepFirst m.author value }
  else if key = "description" then { m with description := keepFirst m.description value }
  else m

/-- The key and the value that a string assigns; an empty value counts for nothing. -/
def entry? (s : String) : Option (String × String) :=
  match Text.cutOnce? '=' (Text.trimChars s.toList) with
  | some (key, v :: value) =>
    some (String.ofList key, String.ofList (Text.trimChars (v :: value)))
  | _ => none

/-- Takes what strings tell. -/
def takeAll (m : Module) (strings : List String) : Module :=
  let m := (strings.filterMap entry?).foldl (fun m e => m.take e.1 e.2) m
  { m with proprietary := !m.license.any isCompatibleLicense }

/-- The record of a module. -/
def toJson (m : Module) : Json :=
  .obj [("name", .str m.name), ("path", .str m.path), ("size", .ofNat m.size),
    ("license", .ofOption? m.license), ("vermagic", .ofOption? m.vermagic),
    ("author", .ofOption? m.author), ("description", .ofOption? m.description),
    ("proprietary", .bool m.proprietary)]

end Module

end FirmwareSurvey.Rootfs
