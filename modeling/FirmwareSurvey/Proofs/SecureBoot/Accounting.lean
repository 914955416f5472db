import FirmwareSurvey.Proofs.DeviceTree.Nesting
import FirmwareSurvey.SecureBoot.Verdict

/-!
# Every signature is accounted for

Inspecting a flattened image tree goes through the configurations and takes the signature nodes
below each, by the paths. When no path occurs twice this is what the braces say: a configuration has
a signature for each signature node inside it, however deep, and only a configuration without any is
reported as unsigned (`inspect_accounts`). The same holds of the images and their hashes.
-/

namespace FirmwareSurvey.SecureBoot

open DeviceTree

variable {label text : String} {c : Placed}

/-! ### What a node adds -/

/-- The signatures of a configuration: one for each signature node inside it. -/
def signaturesOf (label text : String) (c : Placed) : List FitSignature :=
  (below text "signature" c).map fun s =>
    { fit := label, configuration := c.node.name, algorithm := s.node.text? "algo"
      keyHint := s.node.text? "key-name-hint", images := s.node.texts "sign-images"
      signed := s.node.has "value" }

/-- The entry for a configuration among those without a signature, if it has none. -/
def unsignedOf? (label text : String) (c : Placed) : Option String :=
  if below text "signature" c = [] then some (label ++ ":" ++ c.node.name) else none

/-- The hashes of an image, if it has any: the algorithms of the hash nodes inside it. -/
def hashesOf? (label text : String) (i : Placed) : Option ImageHash :=
  match (below text "hash" i).filterMap (·.node.text? "algo") with
  | [] => none
  | algorithms => some ⟨label, i.node.name, algorithms⟩

/-- **A configuration is reported as unsigned or with its signatures**, never both. -/
theorem unsignedOf?_or_signaturesOf (label text : String) (c : Placed) :
    (unsignedOf? label text c = some (label ++ ":" ++ c.node.name) ∧
        signaturesOf label text c = []) ∨
      (unsignedOf? label text c = none ∧ signaturesOf label text c ≠ []) := by
  by_cases h : below text "signature" c = []
  · exact .inl (by simp [unsignedOf?, signaturesOf, h])
  · exact .inr (by simp [unsignedOf?, signaturesOf, h])

/-! ### What is read of a tree -/

theorem signatures_ofNode (hnodup : ((nodes text).map (·.path)).Nodup)
    (hc : c ∈ inside text "/configurations") :
    (Configuration.ofNode (nodes text) c.node).signatures =
      (below text "signature" c).map fun s => Signature.ofNode s.node := by
  obtain ⟨hslash, hc0⟩ := path_of_mem_inside hnodup rfl hc
  rw [Configuration.ofNode, filter_isBelow hnodup (mem_inside.1 hc).1 hslash hc0, List.map_map]
  rfl

theorem hashes_ofNode (hnodup : ((nodes text).map (·.path)).Nodup)
    (hc : c ∈ inside text "/images") :
    (Image.ofNode (nodes text) c.node).hashes =
      (below text "hash" c).filterMap (·.node.text? "algo") := by
  obtain ⟨hslash, hc0⟩ := path_of_mem_inside hnodup rfl hc
  rw [Image.ofNode, filter_isBelow hnodup (mem_inside.1 hc).1 hslash hc0, List.filterMap_map]
  rfl

theorem signatures_inspect (hnodup : ((nodes text).map (·.path)).Nodup) :
    (inspect label text).signatures =
      (inside text "/configurations").flatMap (signaturesOf label text) := by
  simp only [inspect, configurations]
  rw [children_eq hnodup rfl (by decide), List.map_map, List.flatMap_map]
  refine List.flatMap_congr fun c hc => ?_
  rw [Function.comp_apply, signatures_ofNode hnodup hc, List.map_map]
  rfl

theorem unsigned_inspect (hnodup : ((nodes text).map (·.path)).Nodup) :
    (inspect label text).unsigned =
      (inside text "/configurations").filterMap (unsignedOf? label text) := by
  simp only [inspect, configurations]
  rw [children_eq hnodup rfl (by decide), List.map_map, ← List.filterMap_eq_map,
    List.filterMap_filter, List.filterMap_map]
  refine List.filterMap_congr fun c hc => ?_
  simp only [Function.comp_apply, signatures_ofNode hnodup hc, List.isEmpty_iff, unsignedOf?,
    List.map_eq_nil_iff]
  rfl

theorem hashes_inspect (hnodup : ((nodes text).map (·.path)).Nodup) :
    (inspect label text).hashes = (inside text "/images").filterMap (hashesOf? label text) := by
  simp only [inspect, images]
  rw [children_eq hnodup rfl (by decide), List.map_map, ← List.filterMap_eq_map,
    List.filterMap_filter, List.filterMap_map]
  refine List.filterMap_congr fun i hi => ?_
  simp only [Function.comp_apply, hashes_ofNode hnodup hi, hashesOf?]
  cases (below text "hash" i).filterMap (·.node.text? "algo") <;> rfl

/-! ### The account -/

/-- **Every signature node is accounted for, once.** Each configuration adds an entry to those
without a signature or its signatures, one for each signature node inside it; no signature node is
inside two configurations. Each image adds the algorithms of the hash nodes inside it, if any. -/
theorem inspect_accounts (label text : String) (hnodup : ((nodes text).map (·.path)).Nodup) :
    (inspect label text).unsigned =
        (inside text "/configurations").filterMap (unsignedOf? label text) ∧
      (inspect label text).signatures =
        (inside text "/configurations").flatMap (signaturesOf label text) ∧
      (∀ c ∈ inside text "/configurations",
        (unsignedOf? label text c = some (label ++ ":" ++ c.node.name) ∧
            signaturesOf label text c = []) ∨
          (unsignedOf? label text c = none ∧ signaturesOf label text c ≠ [])) ∧
      ((inside text "/configurations").flatMap (below text "signature")).Nodup ∧
      (∀ s, s ∈ (inside text "/configurations").flatMap (below text "signature") ↔
        s ∈ placed text ∧ s.node.isNamed "signature" = true ∧
          ∃ c ∈ inside text "/configurations", s.IsBelow c) ∧
      (inspect label text).hashes = (inside text "/images").filterMap (hashesOf? label text) := by
  refine ⟨unsigned_inspect hnodup, signatures_inspect hnodup,
    fun c _ => unsignedOf?_or_signaturesOf label text c, nodup_flatMap_below hnodup _ _,
    fun s => ?_, hashes_inspect hnodup⟩
  simp only [List.mem_flatMap, mem_below]
  constructor
  · rintro ⟨c, hc, hs, hbelow, hnamed⟩
    exact ⟨hs, hnamed, c, hc, hbelow⟩
  · rintro ⟨hs, hnamed, c, hc, hbelow⟩
    exact ⟨c, hc, hs, hbelow, hnamed⟩

/-- A tree with a configuration whose name starts with that of another, a signature that lies
deeper, an image without hashes, and lines out of place. -/
def signedTree : String :=
  "\x7d;\n/ \x7b\nimages \x7b\nkernel \x7b\nhash-1 \x7b\nalgo = \"sha256\";\n\x7d;\n\x7d;\n" ++
    "fdt \x7b\n\x7d;\n\x7d;\nconfigurations \x7b\nconf \x7b\n\x7d;\nconf-1 \x7b\nparts \x7b\n" ++
    "signature@1 \x7b\nalgo = \"sha256,rsa2048\";\nvalue = <0x1>;\n\x7d;\n\x7d;\n\x7d;\n? ? ?\n\x7d;\n"

theorem inspect_accounts_signedTree :
    ((nodes signedTree).map (·.path)).Nodup ∧
      (inspect "fit" signedTree).unsigned = ["fit:conf"] ∧
      (inspect "fit" signedTree).signatures =
        [⟨"fit", "conf-1", some "sha256,rsa2048", none, [], true⟩] ∧
      (inspect "fit" signedTree).hashes = [⟨"fit", "kernel", ["sha256"]⟩] := by
  -- what the theorem is about, computed together as it is read off one list of nodes
  have haccount : ((nodes signedTree).map (·.path)).Nodup ∧
      (inside signedTree "/configurations").filterMap (unsignedOf? "fit" signedTree) =
        ["fit:conf"] ∧
      (inside signedTree "/configurations").flatMap (signaturesOf "fit" signedTree) =
        [⟨"fit", "conf-1", some "sha256,rsa2048", none, [], true⟩] ∧
      (inside signedTree "/images").filterMap (hashesOf? "fit" signedTree) =
        [⟨"fit", "kernel", ["sha256"]⟩] := by
    decide +kernel
  obtain ⟨hnodup, hconf, hconf1, hkernel⟩ := haccount
  obtain ⟨hunsigned, hsignatures, -, -, -, hhashes⟩ := inspect_accounts "fit" signedTree hnodup
  exact ⟨hnodup, hunsigned.trans hconf, hsignatures.trans hconf1, hhashes.trans hkernel⟩

end FirmwareSurvey.SecureBoot
