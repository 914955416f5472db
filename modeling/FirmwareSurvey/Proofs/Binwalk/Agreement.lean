import FirmwareSurvey.Binwalk.Survey
import FirmwareSurvey.Proofs.Binwalk.Landmarks
import FirmwareSurvey.Proofs.Offsets.Script

/-!
# The report and the offsets file agree

The report on a scan and the script that carries its offsets are filled apart from one another, both
from what was resolved. Everything resolved fits a 64-bit word, since it was read as one
(`isSound_resolve`), so the script can be read back; and the report has no field twice, so each of
its fields is what was put there. Hence report and table say the same of every name of the
vocabulary (`survey_agrees`).
-/

namespace FirmwareSurvey.Binwalk

open Offsets Text

variable {image : Firmware.Image} {rows : List Component} {r : Resolution} {l : Landmark}
  {scan : String}

/-! ### What is resolved can be written -/

theorem offset_lt_of_mem {c : Component} (hc : c ∈ components scan) : c.offset < wordLimit := by
  obtain ⟨line, -, hrow⟩ := List.mem_filterMap.1 hc
  rw [row?] at hrow
  split at hrow
  · split at hrow
    · obtain ⟨n, hn, rfl⟩ := Option.map_eq_some_iff.1 hrow
      exact lt_of_decimal? hn
    · cases hrow
  · cases hrow

theorem statedSize?_lt {description : List Char} {n : Nat} (h : statedSize? description = some n) :
    n < wordLimit := by
  obtain ⟨digits, -, hn⟩ := Option.bind_eq_some_iff.1 h
  exact lt_of_decimal? hn

theorem vocabulary_eq : vocabulary = landmarks.map (·.name) := rfl

theorem isWritable_landmark (hl : l ∈ landmarks) : Offsets.IsWritable l.name :=
  isWritable_of_mem_vocabulary (vocabulary_eq ▸ List.mem_map_of_mem hl)

theorem mem_of_pick? {terms : List String} {least : Option Nat} {c : Component} {n : Nat}
    (h : pick? rows terms least = some (c, n)) : c ∈ rows := by
  rw [pick?] at h
  split at h
  · cases h
  · rename_i c' cs hcandidates
    obtain ⟨rfl, -⟩ := Prod.mk.inj (Option.some.inj h)
    exact List.mem_of_mem_filter (hcandidates ▸ List.mem_cons_self)

/-- **Looking for a landmark keeps what is found sound.** -/
theorem isSound_step (h : r.offsets.IsSound) (hrows : ∀ c ∈ rows, c.offset < wordLimit)
    (hl : Offsets.IsWritable l.name) : (Resolution.step rows r l).offsets.IsSound := by
  rw [Resolution.step]
  split
  · exact h
  · rename_i c count hpick
    have hoffset : (r.offsets.insert l.name c.offset).IsSound :=
      h.record (r := .offset l.name c.offset) ⟨hl, hrows c (mem_of_pick? hpick)⟩
    dsimp only
    split
    · exact hoffset.record (r := .size (statedSize? c.description.toList)) fun n =>
        statedSize?_lt
    · exact hoffset

/-- **Everything resolved can be written.** -/
theorem isSound_resolve (hrows : ∀ c ∈ rows, c.offset < wordLimit) :
    (resolve rows).offsets.IsSound := by
  have hfold : ∀ ls : List Landmark, (∀ l ∈ ls, Offsets.IsWritable l.name) →
      ∀ r : Resolution, r.offsets.IsSound →
        (ls.foldl (Resolution.step rows) r).offsets.IsSound := by
    intro ls
    induction ls with
    | nil => exact fun _ _ hr => hr
    | cons l ls ih =>
      intro hls r hr
      obtain ⟨hl, hls⟩ := List.forall_mem_cons.1 hls
      exact ih hls _ (isSound_step hr hrows hl)
  exact hfold landmarks (fun l hl => isWritable_landmark hl) {}
    (Found.isSound_recorded (List.forall_mem_nil _))

/-! ### The fields of the report -/

/-- The field of the offset of a name. -/
def offsetField (name : String) : String := Text.toLower name ++ "_offset"

theorem offsetField_name (l : Landmark) : offsetField l.name = l.field := rfl

/-- The names of the fields of a report on a scan. -/
def fieldNames : List String :=
  ["firmware_file", "firmware_size", "component_count"] ++ landmarks.map Landmark.field ++
    ["squashfs_size", "offset_warnings", "components"]

theorem fieldNames_nodup : fieldNames.Nodup := by decide

/-- The fields of a report on a scan. -/
def fields (image : Firmware.Image) (rows : List Component) (r : Resolution) : Members Json :=
  image.members ++ [("component_count", .ofNat rows.length)] ++ offsetMembers r.offsets ++
    [("squashfs_size", ((r.offsets.squashfsSize).map Json.ofNat).getD .null),
      ("offset_warnings", .ofTexts r.warnings),
      ("components", .arr (rows.map Component.toJson))]

theorem value_reportOn : (reportOn image rows r).value = .obj (fields image rows r) := rfl

theorem keys_fields : Members.keys (fields image rows r) = fieldNames := rfl

/-- **No field is there twice**, so a field has the value that was put there. -/
theorem get?_reportOn {field : String} {value : Json} (h : (field, value) ∈ fields image rows r) :
    (reportOn image rows r).value.get? field = some value := by
  rw [value_reportOn]
  exact Members.get?_of_mem (keys_fields ▸ fieldNames_nodup) h

theorem get?_reportOn_field (hl : l ∈ landmarks) :
    (reportOn image rows r).value.get? l.field =
      some (.ofOption? ((r.offsets.get? l.name).map formatHex)) := by
  refine get?_reportOn (List.mem_append_left _ (List.mem_append_right _ ?_))
  exact List.mem_map_of_mem
    (f := fun l => (l.field, Json.ofOption? ((r.offsets.get? l.name).map formatHex))) hl

theorem get?_reportOn_size : (reportOn image rows r).value.get? "squashfs_size" =
    some ((r.offsets.squashfsSize.map Json.ofNat).getD .null) :=
  get?_reportOn (List.mem_append_right _ List.mem_cons_self)

theorem get?_reportOn_components : (reportOn image rows r).value.get? "components" =
    some (.arr (rows.map Component.toJson)) :=
  get?_reportOn (List.mem_append_right _
    (List.mem_cons_of_mem _ (List.mem_cons_of_mem _ List.mem_cons_self)))

theorem get?_reportOn_count : (reportOn image rows r).value.get? "component_count" =
    some (.ofNat rows.length) :=
  get?_reportOn (List.mem_append_left _ (List.mem_append_left _
    (List.mem_append_right _ List.mem_cons_self)))

/-! ### The origins of the fields -/

theorem has_ofList {origins : List (String × String × String)} {field : String} :
    Members.has (Report.Provenance.ofList origins) field = true ↔
      ∃ o ∈ origins, o.1 = field := by
  rw [Members.has_iff]
  refine (Members.mem_keys_foldl_put (fun o : String × String × String => o.1)
    (fun o => (⟨o.2.1, o.2.2⟩ : Report.Origin))).trans ?_
  simp

/-- A landmark is known by its field, and no other field is called like one. -/
theorem field_inj (hl : l ∈ landmarks) : (∀ l' ∈ landmarks, l'.field = l.field → l' = l) ∧
    l.field ≠ "firmware_size" ∧ l.field ≠ "component_count" ∧ l.field ≠ "squashfs_size" := by
  have hspec : ∀ l ∈ landmarks, (∀ l' ∈ landmarks, l'.field = l.field → l' = l) ∧
      l.field ≠ "firmware_size" ∧ l.field ≠ "component_count" ∧ l.field ≠ "squashfs_size" := by
    decide
  exact hspec l hl

/-- **An offset has an origin exactly when it was found.** -/
theorem has_provenance_field (hl : l ∈ landmarks) :
    (reportOn image rows r).provenance.has l.field = (r.offsets.get? l.name).isSome := by
  obtain ⟨hinj, hfirmware, hcount, hsize⟩ := field_inj hl
  have hsizes : ∀ o ∈ sizeOrigins r.offsets, o.1 ≠ l.field := by
    intro o ho
    rw [sizeOrigins] at ho
    split at ho
    · exact List.mem_singleton.1 ho ▸ hsize.symm
    · cases ho
  rw [Bool.eq_iff_iff, reportOn, has_ofList]
  simp only [List.mem_append, List.mem_cons, List.not_mem_nil, or_false]
  constructor
  · rintro ⟨o, ((rfl | rfl) | ho) | ho, hfield⟩
    · exact absurd hfield.symm hfirmware
    · exact absurd hfield.symm hcount
    · obtain ⟨l', hl', rfl⟩ := List.mem_map.1 ho
      obtain ⟨hl', hfound⟩ := List.mem_filter.1 hl'
      rwa [hinj l' hl' hfield] at hfound
    · exact absurd hfield (hsizes o ho)
  · intro hfound
    exact ⟨_, .inl (.inr (List.mem_map_of_mem (List.mem_filter.2 ⟨hl, hfound⟩))), rfl⟩

/-- The size has an origin exactly when it is known. -/
theorem has_provenance_size :
    (reportOn image rows r).provenance.has "squashfs_size" = r.offsets.squashfsSize.isSome := by
  have hoffsets : ∀ o ∈ offsetOrigins r.offsets, o.1 ≠ "squashfs_size" := by
    intro o ho
    obtain ⟨l, hl, rfl⟩ := List.mem_map.1 ho
    exact (field_inj (List.mem_of_mem_filter hl)).2.2.2
  rw [Bool.eq_iff_iff, reportOn, has_ofList]
  simp only [List.mem_append, List.mem_cons, List.not_mem_nil, or_false]
  constructor
  · rintro ⟨o, ((rfl | rfl) | ho) | ho, hfield⟩
    · exact absurd (show "firmware_size" = "squashfs_size" from hfield) (by decide)
    · exact absurd (show "component_count" = "squashfs_size" from hfield) (by decide)
    · exact absurd hfield (hoffsets o ho)
    · cases hs : r.offsets.squashfsSize with
      | none => simp [sizeOrigins, hs] at ho
      | some size => rfl
  · intro hs
    obtain ⟨size, hs⟩ := Option.isSome_iff_exists.1 hs
    exact ⟨_, .inr (by rw [sizeOrigins, hs]; exact List.mem_singleton_self _), rfl⟩

/-! ### Report and table -/

/-- Whether a report on rows says of the offset of a name what a table has: the field is the
hexadecimal offset as it is written in the table, null if it is not there, and it has an origin if it
is; the decimal offset is its value, and is that of a row. -/
structure AgreesOn (report : Report) (table : Offsets.Table) (rows : List Component)
    (name : String) : Prop where
  /-- The field is the hexadecimal offset. -/
  field : report.value.get? (offsetField name) = some (.ofOption? (table.hex? name))
  /-- The hexadecimal offset is there when the offset is. -/
  present : (table.hex? name).isSome = (table.offset? name).isSome
  /-- The hexadecimal offset has the value of the offset. -/
  hexadecimal : (table.hex? name).bind parseHex? = table.offset? name
  /-- The decimal offset is the offset. -/
  decimal : table.dec? name = table.offset? name
  /-- The field has an origin when the offset is there. -/
  origin : report.provenance.has (offsetField name) = (table.offset? name).isSome
  /-- The offset is that of a row. -/
  row : ∀ n, table.offset? name = some n → ∃ c ∈ rows, c.offset = n

/-- Report and script agree on every landmark, whatever was resolved, when it can be written and
comes from rows. -/
theorem agreesOn_reportOn (hsound : r.offsets.IsSound)
    (hrow : ∀ n, r.offsets.get? l.name = some n → ∃ c ∈ rows, c.offset = n) (hl : l ∈ landmarks) :
    AgreesOn (reportOn image rows r) ⟨r.offsets.members, none⟩ rows l.name where
  field := by
    rw [Found.hex?_members, offsetField_name]
    exact get?_reportOn_field hl
  present := by rw [Found.hex?_members, Found.offset?_members, Option.isSome_map]
  hexadecimal := by
    rw [Found.hex?_members, Found.offset?_members]
    cases hget : r.offsets.get? l.name with
    | none => rfl
    | some n =>
      rw [Option.map_some, Option.bind_some]
      exact parseHex?_formatHex (hsound.offsets _ (Members.mem_of_get? hget))
  decimal := by rw [Found.dec?_members, Found.offset?_members]
  origin := by
    rw [Found.offset?_members, offsetField_name]
    exact has_provenance_field hl
  row := by
    rw [Found.offset?_members]
    exact hrow

/-- Every offset that is resolved is that of a row. -/
theorem exists_row_of_resolve {name : String} {n : Nat}
    (h : (resolve rows).offsets.get? name = some n) : ∃ c ∈ rows, c.offset = n := by
  obtain ⟨_, -, -, c, hc, hoffset⟩ := (resolved_foldl rows inOrder_landmarks).exists_row h
  exact ⟨c, (exists_of_first? hc).1, hoffset⟩

/-- **Scan, report and offsets file agree.** The script that goes with the report on a scan can be
read, for an image whose name has no line feed. Report and table say the same of the offset of every
name of the vocabulary, and of the size of the root file system; and the report counts the rows that
it lists. -/
theorem survey_agrees (image : Firmware.Image) (scan : String)
    (hfeed : '\n' ∉ image.fileName.toList) :
    ∃ table, parse ((survey image scan).2.toShellScript image.fileName) = .ok table ∧
      (∀ name ∈ vocabulary, AgreesOn (survey image scan).1 table (components scan) name) ∧
      (survey image scan).1.value.get? "squashfs_size" =
        some ((table.squashfsSize?.map Json.ofNat).getD .null) ∧
      (survey image scan).1.provenance.has "squashfs_size" = table.squashfsSize?.isSome ∧
      ∃ listed, (survey image scan).1.value.get? "components" = some (.arr listed) ∧
        listed = (components scan).map Component.toJson ∧
        (survey image scan).1.value.get? "component_count" = some (.ofNat listed.length) := by
  have hsound : (resolve (components scan)).offsets.IsSound :=
    isSound_resolve fun c hc => offset_lt_of_mem hc
  refine ⟨_, Found.parse_toShellScript hsound hfeed, fun name hname => ?_, ?_, ?_, _,
    get?_reportOn_components, rfl, ?_⟩
  · obtain ⟨l, hl, rfl⟩ := List.mem_map.1 (vocabulary_eq ▸ hname)
    exact agreesOn_reportOn hsound (fun n => exists_row_of_resolve) hl
  · rw [Found.squashfsSize?_members hsound.size]
    exact get?_reportOn_size
  · rw [Found.squashfsSize?_members hsound.size]
    exact has_provenance_size
  · rw [List.length_map]
    exact get?_reportOn_count

/-- A scan that found a root file system. -/
def oneRow : String := "4096 0x1000 SquashFS, image size: 512 bytes\n"

/-- An image. -/
def someImage : Firmware.Image := ⟨⟨"router.bin"⟩, "router.bin", 4608⟩

theorem survey_agrees_oneRow :
    (survey someImage oneRow).2.get? squashfs = some 4096 ∧
      ∃ table, parse ((survey someImage oneRow).2.toShellScript someImage.fileName) = .ok table ∧
        AgreesOn (survey someImage oneRow).1 table (components oneRow) squashfs := by
  obtain ⟨table, hparse, hagrees, -⟩ := survey_agrees someImage oneRow (by decide)
  exact ⟨by decide +kernel, table, hparse, hagrees _ (by decide)⟩

end FirmwareSurvey.Binwalk
