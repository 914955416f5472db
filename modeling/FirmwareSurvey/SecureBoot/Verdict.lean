import FirmwareSurvey.DeviceTree.Fit
import FirmwareSurvey.Json.Basic

/-!
# Whether the boot chain is verified

The signatures, hashes and keys of the flattened image trees decide on a verdict: enforced, signed
but not enforced, signature nodes without a signature, hashes only, or nothing at all.
-/

namespace FirmwareSurvey.SecureBoot

/-- A signature of a configuration. -/
structure FitSignature where
  /-- The tree. -/
  fit : String
  /-- The configuration. -/
  configuration : String
  /-- The algorithm. -/
  algorithm : Option String
  /-- The name of the key. -/
  keyHint : Option String
  /-- The images it covers. -/
  images : List String
  /-- Whether something was signed. -/
  signed : Bool
deriving DecidableEq

/-- The hashes of an image. -/
structure ImageHash where
  /-- The tree. -/
  fit : String
  /-- The image. -/
  image : String
  /-- The algorithms. -/
  algorithms : List String
deriving DecidableEq

/-- A public key of the boot loader. -/
structure PublicKey where
  /-- The file that holds it. -/
  source : String
  /-- The name. -/
  name : String
  /-- The algorithm. -/
  algorithm : Option String
  /-- What a signature by it is required for. -/
  required : Option String
  /-- Whether it has a modulus. -/
  hasModulus : Bool
deriving DecidableEq

/-! ### The verdict -/

/-- How far the boot chain is verified. -/
inductive Verdict where
  /-- Signatures are there and a key is required. -/
  | enforced
  /-- Signatures are there, but no key is required. -/
  | notEnforced
  /-- There are only signature nodes without a value. -/
  | unsigned
  /-- There are only hashes. -/
  | hashOnly
  /-- There is nothing. -/
  | none
deriving DecidableEq, Repr

/-- The name of a verdict. -/
def Verdict.status : Verdict → String
  | .enforced => "enforced"
  | .notEnforced => "signed-not-enforced"
  | .unsigned => "unsigned-signature-nodes"
  | .hashOnly => "hash-only"
  | .none => "none"

/-- The reason for a verdict. -/
def Verdict.reason : Verdict → String
  | .enforced => "FIT configurations are signed and U-Boot holds a required public key"
  | .notEnforced => "FIT signatures present but no U-Boot key is marked required"
  | .unsigned => "Signature nodes present without signature values"
  | .hashOnly => "FIT images carry hashes only (integrity, not authenticity)"
  | .none => "No FIT signatures, image hashes or public keys found"

/-- The verdict on what was found. -/
def verdict (signatures : List FitSignature) (keys : List PublicKey) (hashes : List ImageHash) :
    Verdict :=
  if signatures.any (·.signed) then
    if keys.any (·.required.isSome) then .enforced else .notEnforced
  else if !signatures.isEmpty then .unsigned
  else if !hashes.isEmpty then .hashOnly
  else .none

/-! ### Inspecting a tree -/

/-- What a flattened image tree tells. -/
structure Inspection where
  /-- The signatures. -/
  signatures : List FitSignature
  /-- The hashes of images that have any. -/
  hashes : List ImageHash
  /-- The configurations without a signature node. -/
  unsigned : List String
deriving DecidableEq

/-- The signature of a configuration. -/
def FitSignature.ofSignature (label : String) (c : DeviceTree.Configuration)
    (s : DeviceTree.Signature) : FitSignature :=
  { fit := label, configuration := c.name, algorithm := s.algorithm, keyHint := s.keyHint
    images := s.images, signed := s.hasValue }

/-- Inspects a flattened image tree. -/
def inspect (label text : String) : Inspection :=
  let configurations := DeviceTree.configurations text
  { signatures := configurations.flatMap fun c =>
      c.signatures.map (FitSignature.ofSignature label c)
    hashes := ((DeviceTree.images text).filter (!·.hashes.isEmpty)).map fun i =>
      ⟨label, i.name, i.hashes⟩
    unsigned := (configurations.filter (·.signatures.isEmpty)).map fun c =>
      label ++ ":" ++ c.name }

/-- The public keys of a tree. -/
def publicKeys (source text : String) : List PublicKey :=
  (DeviceTree.keys text).map fun k => ⟨source, k.name, k.algorithm, k.required, k.hasModulus⟩

/-! ### Records -/

/-- The record of a signature. -/
def FitSignature.toJson (s : FitSignature) : Json :=
  .obj [("fit", .str s.fit), ("configuration", .str s.configuration),
    ("algo", .ofOption? s.algorithm), ("key_name_hint", .ofOption? s.keyHint),
    ("sign_images", .ofTexts s.images), ("signed", .bool s.signed)]

/-- The record of an image's hashes. -/
def ImageHash.toJson (h : ImageHash) : Json :=
  .obj [("fit", .str h.fit), ("image", .str h.image), ("algos", .ofTexts h.algorithms)]

/-- The record of a public key. -/
def PublicKey.toJson (k : PublicKey) : Json :=
  .obj [("source", .str k.source), ("name", .str k.name), ("algo", .ofOption? k.algorithm),
    ("required", .ofOption? k.required), ("has_modulus", .bool k.hasModulus)]

end FirmwareSurvey.SecureBoot
