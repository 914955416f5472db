import FirmwareSurvey.Offsets.Table

/-!
# Writing the offsets file

The offsets found in one scan, in the order in which they were first recorded, and the script that
carries them: a group of two assignments a name, with a blank line before each group, and at the end
the size of the root file system when it is known.
-/

namespace FirmwareSurvey.Offsets

/-- Offsets by name, and the size of the root file system. -/
structure Found where
  /-- The offsets, in the order of first recording. -/
  entries : Members Nat := []
  /-- The size of the root file system. -/
  squashfsSize : Option Nat := none

namespace Found

/-- Records an offset; a second one under the same name replaces the first in its place. -/
def insert (f : Found) (name : String) (offset : Nat) : Found :=
  { f with entries := f.entries.put name offset }

/-- Records the size of the root file system. -/
def setSquashfsSize (f : Found) (size : Option Nat) : Found := { f with squashfsSize := size }

/-- The offset recorded under a name. -/
def get? (f : Found) (name : String) : Option Nat := f.entries.get? name

/-- Whether no offset is recorded. -/
def isEmpty (f : Found) : Bool := f.entries.isEmpty

/-- The lines of one offset's group. -/
def groupLines (entry : String × Nat) : List String :=
  ["", s!"{entry.1}_OFFSET={formatHex entry.2}",
    s!"{entry.1}_OFFSET_DEC={String.ofList (Text.decimalChars entry.2)}"]

/-- The lines that close the script. -/
def sizeLines : Option Nat → List String
  | some size => ["", s!"SQUASHFS_SIZE={String.ofList (Text.decimalChars size)}"]
  | none => []

/-- The lines of the script. -/
def scriptLines (f : Found) (firmwareName : String) : List String :=
  ["#!/bin/sh", "# Firmware offsets generated by fwprobe binwalk", s!"# Firmware: {firmwareName}"] ++
    f.entries.flatMap groupLines ++ sizeLines f.squashfsSize

/-- The script that assigns the offsets. -/
def toShellScript (f : Found) (firmwareName : String) : String :=
  String.join ((f.scriptLines firmwareName).map (· ++ "\n"))

/-- The fold that builds the record of a list of insertions. -/
def ofList (l : List (String × Nat)) : Found := l.foldl (fun f p => f.insert p.1 p.2) {}

@[simp] theorem get?_insert_self (f : Found) (name : String) (offset : Nat) :
    (f.insert name offset).get? name = some offset := by
  simp [insert, get?]

theorem get?_insert_of_ne (f : Found) {name other : String} (offset : Nat) (h : name ≠ other) :
    (f.insert name offset).get? other = f.get? other := by
  simp [insert, get?, Members.get?_put_of_ne, h]

end Found

end FirmwareSurvey.Offsets
