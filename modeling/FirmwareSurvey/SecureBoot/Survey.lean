import FirmwareSurvey.Firmware.Resolve
import FirmwareSurvey.Report.Basic
import FirmwareSurvey.SecureBoot.Verdict
import FirmwareSurvey.Text.Numeral
import FirmwareSurvey.Text.Search
import FirmwareSurvey.Text.Word

/-!
# The report on secure boot

The report gathers the signatures, hashes and keys of the unpacked device trees, the strings by which
the boot loader speaks of verification, and the files that mention verified block devices; the
verdict follows from the first three.
-/

namespace FirmwareSurvey.SecureBoot

/-! ### How a boot loader speaks of verification -/

/-- The words that speak of verification. -/
def verificationWords : List String :=
  ["verifying hash", "signature check", "sig-required", "required-node", "sha256,rsa", "bad hash",
    "verification failed"]

/-- Whether a text in small letters starts with the name of a signature algorithm. -/
def startsWithAlgorithm (cs : List Char) : Bool :=
  match cs with
  | 'r' :: 's' :: 'a' :: rest => (Text.exactly? 4 Text.isDigit rest).isSome
  | _ => false

/-- Whether a printable run speaks of verification, in either letter case. -/
def speaksOfVerification (run : String) : Bool :=
  let cs := run.toList.map Char.toLower
  verificationWords.any (fun w => Text.occursIn w.toList cs) ||
    (Text.firstAt? (fun cs => if startsWithAlgorithm cs then some () else none) cs).isSome

/-- How many strings on verification are kept. -/
def verificationLimit : Nat := 20

/-- The printable runs that speak of verification, each once, up to the limit. -/
def verificationStrings (runs : List String) : List String :=
  ((runs.filter speaksOfVerification).foldl (fun seen r => if r ∈ seen then seen else seen ++ [r])
    []).take verificationLimit

/-! ### The report -/

/-- What is known of secure boot. -/
structure Survey where
  /-- The image. -/
  image : Firmware.Image
  /-- The signatures. -/
  signatures : List FitSignature := []
  /-- The hashes of images. -/
  hashes : List ImageHash := []
  /-- The configurations without a signature node. -/
  unsigned : List String := []
  /-- The public keys. -/
  keys : List PublicKey := []
  /-- The strings that speak of verification. -/
  verification : List String := []
  /-- The files that mention verified block devices. -/
  verityFiles : List String := []
  /-- The origins of the report's fields. -/
  provenance : Report.Provenance := []

namespace Survey

/-- The verdict. -/
def verdict (s : Survey) : Verdict := SecureBoot.verdict s.signatures s.keys s.hashes

/-- Adds what a tree tells. -/
def addInspection (s : Survey) (i : Inspection) : Survey :=
  { s with
    signatures := s.signatures ++ i.signatures
    hashes := s.hashes ++ i.hashes
    unsigned := s.unsigned ++ i.unsigned }

/-- Records origins. -/
def addOrigins (s : Survey) (origins : List (String × String × String)) : Survey :=
  { s with provenance := origins.foldl (fun p o => p.add o.1 o.2.1 o.2.2) s.provenance }

/-- The report on secure boot. -/
def report (s : Survey) : Report :=
  { title := "Secure Boot Analysis"
    value := .obj (s.image.members ++ [("secure_boot_status", .str s.verdict.status),
      ("verdict_reason", .str s.verdict.reason),
      ("unsigned_configurations", .ofTexts s.unsigned),
      ("uboot_verification_strings", .ofTexts s.verification),
      ("verity_references", .ofTexts s.verityFiles),
      ("fit_signatures", .arr (s.signatures.map FitSignature.toJson)),
      ("image_hashes", .arr (s.hashes.map ImageHash.toJson)),
      ("public_keys", .arr (s.keys.map PublicKey.toJson))])
    provenance := s.provenance }

end Survey

end FirmwareSurvey.SecureBoot
