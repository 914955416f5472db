import FirmwareSurvey.DeviceTree.Fit
import FirmwareSurvey.Proofs.DeviceTree.Nesting
import FirmwareSurvey.Proofs.DeviceTree.Tree

/-!
# Names of images and configurations

Inside a node, its parts are told apart by their full names: the name, and the unit address behind
an at sign if there is one (`fullNames_nodup`). Texts in a tree refer to its parts by these. A record
of an image or a configuration has the name without the address, so records of parts that differ by
their addresses only are called the same. A name has no at sign, since every node was opened by a
line (`exists_opening`), and there the name ends at the sign. So a text that refers to an image is
the name of its record exactly when the image has no address (`parts_named`).
-/

namespace FirmwareSurvey.DeviceTree

open Text

/-! ### Nodes and the lines that open them -/

variable {s : Scan} {text path : String} {n : Node} {c d : Placed}

/-- **A line adds no node but the one that it opens.** -/
theorem mem_headings_step {l : Line} {h : Heading} (hmem : h ∈ (s.step l).headings) :
    h ∈ s.headings ∨ ∃ label, l = .opening label h.name h.unit := by
  cases l with
  | opening label name unit =>
    simp only [Scan.headings, Scan.step, Array.toList_push, List.map_append, List.map_cons,
      List.map_nil, List.mem_append, List.mem_singleton] at hmem
    rcases hmem with hmem | rfl
    · exact .inl hmem
    · exact .inr ⟨label, rfl⟩
  | closing => exact .inl hmem
  | property key value =>
    rw [headings_property] at hmem
    exact .inl hmem
  | other => exact .inl hmem

theorem mem_headings_run {ls : List Line} {h : Heading} (hmem : h ∈ (Scan.run {} ls).headings) :
    ∃ label, Line.opening label h.name h.unit ∈ ls := by
  induction ls using List.reverseRecOn with
  | nil => simp [Scan.run, Scan.headings] at hmem
  | append_singleton ls l ih =>
    rw [Scan.run, List.foldl_append] at hmem
    rcases mem_headings_step hmem with hmem | ⟨label, rfl⟩
    · obtain ⟨label, hlabel⟩ := ih hmem
      exact ⟨label, List.mem_append_left _ hlabel⟩
    · exact ⟨label, List.mem_append_right _ List.mem_cons_self⟩

/-- **Every node was opened by a line**, with its name and its unit address. -/
theorem exists_opening (hn : n ∈ nodes text) :
    ∃ label, Line.opening label n.name n.unit ∈ lines text :=
  mem_headings_run (h := n.heading) (List.mem_map_of_mem hn)

/-! ### Names have no at sign -/

theorem sign_not_mem_of_name? {cs name rest : List Char} (h : name? cs = some (name, rest)) :
    '@' ∉ name := by
  rcases name?_chars h with rfl | ⟨-, hchars⟩
  · decide
  · exact fun hmem => absurd (hchars _ hmem) (by decide)

/-- **A name has no at sign.** -/
theorem sign_not_mem_name (hn : n ∈ nodes text) : '@' ∉ n.name.toList := by
  obtain ⟨label, hlabel⟩ := exists_opening hn
  obtain ⟨cs, -, hcs⟩ := List.mem_map.1 hlabel
  obtain ⟨start, run, rest, hrun, hname, -⟩ := opening?_parts (opening?_of_ofChars hcs)
  rw [hname, String.toList_ofList]
  exact sign_not_mem_of_name? hrun

/-- A full name has an at sign exactly when there is a unit address. -/
theorem sign_mem_fullName (hn : n ∈ nodes text) :
    '@' ∈ n.fullName.toList ↔ n.unit ≠ none := by
  have hname := sign_not_mem_name hn
  rw [Node.fullName, toList_fullName]
  cases n.unit <;> simp [hname]

/-! ### Full names tell siblings apart -/

/-- Inside a node, a full name is that of one node. -/
theorem eq_of_fullName (hnodup : ((nodes text).map (·.path)).Nodup)
    (hslash : path.toList.head? = some '/') (hc : c ∈ inside text path)
    (hd : d ∈ inside text path) (h : c.node.fullName = d.node.fullName) : c = d := by
  have hcroot := (path_of_mem_inside hnodup hslash hc).2
  have hdroot := (path_of_mem_inside hnodup hslash hd).2
  obtain ⟨hcplaced, q, hq, hqpath, hcq⟩ := mem_inside.1 hc
  obtain ⟨hdplaced, q', hq', hqpath', hdq⟩ := mem_inside.1 hd
  obtain rfl := eq_of_path hnodup hq' hq (hqpath'.trans hqpath.symm)
  refine eq_of_path hnodup hcplaced hdplaced (String.toList_injective ?_)
  rw [path_eq_fullName hcplaced hcroot hq (hcq.around_eq hcplaced hq),
    path_eq_fullName hdplaced hdroot hq (hdq.around_eq hdplaced hq), h]

/-- **The full names inside a node are distinct**, when no path occurs twice. -/
theorem fullNames_nodup (hnodup : ((nodes text).map (·.path)).Nodup)
    (hslash : path.toList.head? = some '/') (hpath0 : path ≠ "/") :
    ((children (nodes text) path).map Node.fullName).Nodup := by
  rw [children_eq hnodup hslash hpath0, List.map_map]
  exact ((placed_nodup hnodup).filter _).map_on fun c hc d hd h => eq_of_fullName hnodup hslash hc hd h

/-- Names are distinct as they are where no node has a unit address. -/
theorem names_nodup (hnodup : ((nodes text).map (·.path)).Nodup)
    (hslash : path.toList.head? = some '/') (hpath0 : path ≠ "/")
    (hunit : ∀ n ∈ children (nodes text) path, n.unit = none) :
    ((children (nodes text) path).map (·.name)).Nodup := by
  have hnames : (children (nodes text) path).map (·.name) =
      (children (nodes text) path).map Node.fullName :=
    List.map_congr_left fun n hn => by rw [Node.fullName, hunit n hn, Scan.fullName]
  exact hnames ▸ fullNames_nodup hnodup hslash hpath0

/-! ### The records of images and configurations -/

/-- The texts by which a configuration refers to images. -/
def Configuration.references (c : Configuration) : List String :=
  c.kernel.toList ++ c.firmware.toList ++ c.fdt.toList ++ c.loadables

theorem names_images (text : String) :
    (images text).map (·.name) = (children (nodes text) "/images").map (·.name) := by
  rw [images, List.map_map]
  rfl

theorem names_configurations (text : String) : (configurations text).map (·.name) =
    (children (nodes text) "/configurations").map (·.name) := by
  rw [configurations, List.map_map]
  rfl

/-- **The full name of an image is the name of a record exactly when it has no unit address.** -/
theorem exists_image_iff (hn : n ∈ children (nodes text) "/images") :
    (∃ i ∈ images text, i.name = n.fullName) ↔ n.unit = none := by
  have hmem (name : String) : (∃ i ∈ images text, i.name = name) ↔
      ∃ m ∈ children (nodes text) "/images", m.name = name := by
    rw [← List.mem_map, names_images, List.mem_map]
  rw [hmem]
  constructor
  · rintro ⟨m, hm, hname⟩
    by_contra hunit
    have hsign := (sign_mem_fullName (List.mem_of_mem_filter hn)).2 hunit
    rw [← hname] at hsign
    exact sign_not_mem_name (List.mem_of_mem_filter hm) hsign
  · intro hunit
    exact ⟨n, hn, by rw [Node.fullName, hunit, Scan.fullName]⟩

/-- **Full names identify the parts of a tree, and records have them up to the unit address.** The
images have distinct full names, and so have the configurations. The records of either have distinct
names where no part has a unit address. What a configuration refers to by the full name of an image
is the name of a record exactly when the image has no unit address. -/
theorem parts_named (hnodup : ((nodes text).map (·.path)).Nodup) :
    ((children (nodes text) "/images").map Node.fullName).Nodup ∧
      ((children (nodes text) "/configurations").map Node.fullName).Nodup ∧
      ((∀ n ∈ children (nodes text) "/images", n.unit = none) →
        ((images text).map (·.name)).Nodup) ∧
      ((∀ n ∈ children (nodes text) "/configurations", n.unit = none) →
        ((configurations text).map (·.name)).Nodup) ∧
      ∀ c ∈ configurations text, ∀ r ∈ c.references,
        ∀ n ∈ children (nodes text) "/images", n.fullName = r →
          ((∃ i ∈ images text, i.name = r) ↔ n.unit = none) := by
  refine ⟨fullNames_nodup hnodup rfl (by decide), fullNames_nodup hnodup rfl (by decide),
    fun hunit => ?_, fun hunit => ?_, ?_⟩
  · rw [names_images]
    exact names_nodup hnodup rfl (by decide) hunit
  · rw [names_configurations]
    exact names_nodup hnodup rfl (by decide) hunit
  · rintro c - r - n hn rfl
    exact exists_image_iff hn

/-! ### Parts that are told apart by their addresses -/

/-- The first line of a node without a label. -/
def addressed (indent name : String) (unit : Option String) : Head := { indent, name, unit }

/-- Two images and two configurations that differ by their unit addresses, and one more image. -/
def addressedTree : Tree where
  entries := []
  below :=
    .node (addressed "\t" "images" none) []
      (.node (addressed "\t\t" "kernel" (some "1")) [] .nil "\t\t"
        (.node (addressed "\t\t" "kernel" (some "2")) [] .nil "\t\t"
          (.node (addressed "\t\t" "fdt" none) [] .nil "\t\t" .nil)))
      "\t"
      (.node (addressed "\t" "configurations" none) []
        (.node (addressed "\t\t" "conf" (some "1"))
          [{ indent := "\t\t\t", key := "kernel", value := some "\"kernel@1\"" },
            { indent := "\t\t\t", key := "fdt", value := some "\"fdt\"" }] .nil "\t\t"
          (.node (addressed "\t\t" "conf" (some "2")) [] .nil "\t\t" .nil))
        "\t" .nil)

theorem isWritten_addressed {indent name : String} {unit : Option String}
    (h : allBlank indent.toList = true ∧ (name ≠ "" ∧ name.toList.all isNameChar = true) ∧
      ∀ u ∈ unit, u ≠ "" ∧ u.toList.all isUnitChar = true) :
    (addressed indent name unit).IsWritten where
  indent := h.1
  label := by simp [addressed]
  gap := (by decide : allBlank " ".toList = true ∧ '\n' ∉ " ".toList)
  name := ⟨h.2.1.1, List.all_eq_true.1 h.2.1.2⟩
  unit := fun u hu => ⟨(h.2.2 u hu).1, List.all_eq_true.1 (h.2.2 u hu).2⟩

theorem isWritten_addressedTree : addressedTree.IsWritten := by
  have hnone : ∀ e ∈ ([] : List Entry), e.IsWritten := fun e he => absurd he List.not_mem_nil
  have hentry (key value : String) (hkey : key ≠ "" ∧ key.toList.all isKeyChar = true)
      (hvalue : trim value = value ∧ '\n' ∉ value.toList) :
      Entry.IsWritten { indent := "\t\t\t", key, value := some value } :=
    ⟨(by decide : allBlank "\t\t\t".toList = true), ⟨hkey.1, List.all_eq_true.1 hkey.2⟩,
      fun v hv => Option.some.inj hv ▸ hvalue⟩
  have hblank : allBlank "\t".toList = true ∧ allBlank "\t\t".toList = true := by decide
  exact
    { indent := by decide
      entries := hnone
      below :=
        ⟨isWritten_addressed (by decide), hnone,
          ⟨isWritten_addressed (by decide), hnone, trivial, hblank.2,
            isWritten_addressed (by decide), hnone, trivial, hblank.2,
            isWritten_addressed (by decide), hnone, trivial, hblank.2, trivial⟩,
          hblank.1,
          isWritten_addressed (by decide), hnone,
          ⟨isWritten_addressed (by decide),
            List.forall_mem_cons.2 ⟨hentry _ _ (by decide) (by decide),
              List.forall_mem_singleton.2 (hentry _ _ (by decide) (by decide))⟩,
            trivial, hblank.2,
            isWritten_addressed (by decide), hnone, trivial, hblank.2, trivial⟩,
          hblank.1, trivial⟩
      ending := by decide }

theorem parts_named_addressedTree :
    ((nodes addressedTree.text).map (·.path)).Nodup ∧
      (∃ i ∈ images addressedTree.text, i.name = "fdt") ∧
      ¬∃ i ∈ images addressedTree.text, i.name = "kernel@1" := by
  -- what is read off the tree, computed together
  have hread : ((nodes addressedTree.text).map (·.path)).Nodup ∧
      ∃ c ∈ configurations addressedTree.text, c.references = ["kernel@1", "fdt"] ∧
        ∃ fdt ∈ children (nodes addressedTree.text) "/images",
          (fdt.fullName = "fdt" ∧ fdt.unit = none) ∧
        ∃ kernel ∈ children (nodes addressedTree.text) "/images",
          kernel.fullName = "kernel@1" ∧ kernel.unit ≠ none := by
    simp only [configurations, Tree.nodes_text isWritten_addressedTree]
    decide +kernel
  obtain ⟨hnodup, c, hc, hreferences, fdt, hfdt, ⟨hfdtName, hfdtUnit⟩, kernel, hkernel, hkernelName,
    hkernelUnit⟩ := hread
  obtain ⟨-, -, -, -, hnamed⟩ := parts_named hnodup
  refine ⟨hnodup, ?_, fun h => hkernelUnit ?_⟩
  · exact (hnamed c hc "fdt" (by simp [hreferences]) fdt hfdt hfdtName).2 hfdtUnit
  · exact (hnamed c hc "kernel@1" (by simp [hreferences]) kernel hkernel hkernelName).1 h

/-- **Records of parts that differ by their addresses are called the same**, and a configuration
refers to an image by a name that no record has. -/
theorem not_named_addressedTree :
    addressedTree.IsWritten ∧ ((nodes addressedTree.text).map (·.path)).Nodup ∧
      ¬((images addressedTree.text).map (·.name)).Nodup ∧
      ¬((configurations addressedTree.text).map (·.name)).Nodup ∧
      ∃ c ∈ configurations addressedTree.text, c.kernel = some "kernel@1" ∧
        (∃ n ∈ children (nodes addressedTree.text) "/images", n.fullName = "kernel@1") ∧
        ¬∃ i ∈ images addressedTree.text, i.name = "kernel@1" := by
  refine ⟨isWritten_addressedTree, ?_⟩
  simp only [images, configurations, Tree.nodes_text isWritten_addressedTree]
  decide +kernel

end FirmwareSurvey.DeviceTree
