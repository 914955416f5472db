import FirmwareSurvey.Proofs.Cache.History
import FirmwareSurvey.Proofs.Results.Tracked
import FirmwareSurvey.Proofs.Storage.Written
import FirmwareSurvey.Proofs.Toml.Arranged
import FirmwareSurvey.Template.Render

/-!
# Results stored and loaded again

Where a results file can be written, results that are a table are stored and loaded again without
their nulls and with their great integers as texts; what is loaded then does not change any more
(`load_save`). Whether they can be stored is up to storage alone.
-/

namespace FirmwareSurvey.Cache

open OnHost Storage

variable {c : Cache} {host : Host} {s s' : Storage} {type : String} {v n : Json}

/-- Whether results of a type can be stored: the results directory can be made, and the results file
be written. -/
def CanStore (c : Cache) (s : Storage) (type : String) : Prop :=
  s.CanWrite c.layout.resultsDir (c.layout.resultsPath type)

/-- Results of a type with a file of its own can be stored in a vacant directory. -/
theorem canStore_of_vacant (h : s.Vacant c.layout.resultsDir) (htype : '/' ∉ type.toList) :
    c.CanStore s type :=
  h.canWrite (isName_toml htype)

/-- **Results that are a table are stored** where results can be stored. -/
theorem exec_save_of_canStore (host : Host) (hstore : c.CanStore s type)
    (hv : v.isObject = true) : ∃ s', exec (c.save type v) host s = (.ok (), s') := by
  obtain ⟨members, rfl⟩ := exists_of_isObject hv
  obtain ⟨opened, s', hopened, hwrite⟩ :=
    hstore.writeText (Toml.documentText (Toml.ofJsonMembers members))
  exact ⟨s', save_eq_ok_iff.2 ⟨_, opened, rfl, hopened, hwrite⟩⟩

/-- Where results were stored, results can be stored. -/
theorem canStore_of_save (h : exec (c.save type v) host s = (.ok (), s')) : c.CanStore s' type := by
  obtain ⟨members, opened, -, hopened, hwrite⟩ := save_eq_ok_iff.1 h
  exact canWrite_written hopened hwrite

/-- **What was stored is loaded**, as it comes back. -/
theorem load_of_save (hstorable : IsStorable v)
    (h : exec (c.save type v) host s = (.ok (), s')) :
    ∃ w, c.load s' type = .ok w ∧ ComesBack v w := by
  obtain ⟨members, opened, hmembers, -, hwrite⟩ := save_eq_ok_iff.1 h
  exact load_of_readText hmembers hstorable.1 (hstorable.2 members hmembers)
    (readText_of_writeText hwrite)

/-- **What lasts is loaded arranged.** -/
theorem load_of_save_lasting {members : List (String × Json)}
    (hstorable : IsStorable (.obj members)) (hlasting : (Json.obj members).Lasting)
    (h : exec (c.save type (.obj members)) host s = (.ok (), s')) :
    c.load s' type = .ok (.obj (Json.arrangedMembers members)) := by
  obtain ⟨stored, opened, hstored, -, hwrite⟩ := save_eq_ok_iff.1 h
  obtain ⟨hkeys, hproper⟩ : (Toml.table stored).Proper := Toml.proper_ofJson? hstorable.1 hstored
  obtain ⟨read, hread, -⟩ := hstorable.2 stored hstored
  have harranged : read = Toml.arrangedMembers stored := by
    rw [Toml.parse?_documentText hkeys hproper, Option.ite_none_right_eq_some] at hread
    exact (Option.some.inj hread.2).symm
  simp only [load_eq, readText_of_writeText hwrite, hread, harranged]
  exact congrArg Except.ok (Toml.toJson_arranged hstorable.1 hlasting rfl hstored)

/-- What is left without the nulls can be stored as well, and nothing goes a second time. -/
theorem IsStorable.withoutNulls? (h : IsStorable v) (hn : v.withoutNulls? = some n) :
    IsStorable n ∧ n.withoutNulls? = some n := by
  have hproper := Json.proper_withoutNulls? h.1 hn
  have hsame := Toml.ofJson?_withoutNulls? hn
  refine ⟨⟨hproper, fun members hmembers => h.2 members (hsame ▸ hmembers)⟩, ?_⟩
  rw [← Toml.toJson_ofJson? hproper, hsame, Toml.toJson_ofJson? h.1, hn]

/-- **Results are loaded as they were stored, without their nulls and with their great integers as
texts**, up to the order of members, and what is left can be stored and loaded again without a
change. What is no table is refused, and nothing is changed. -/
theorem load_save (c : Cache) (host : Host) (type : String) (v : Json) :
    (v.isObject = false → ∀ s, exec (c.save type v) host s = (.error (.notATable type), s)) ∧
    (v.isObject = true → IsStorable v → ∃ n, v.withoutNulls? = some n ∧ n.withoutNulls? = some n ∧
      ∀ s, c.CanStore s type →
        ∃ s' w, exec (c.save type v) host s = (.ok (), s') ∧ c.load s' type = .ok w ∧ w.Same n ∧
          ∃ s'' w', exec (c.save type n) host s' = (.ok (), s'') ∧ c.load s'' type = .ok w' ∧
            w'.Same n) := by
  refine ⟨fun hv s => exec_save_of_not_object c type hv, fun hv hstorable => ?_⟩
  obtain ⟨members, rfl⟩ := exists_of_isObject hv
  obtain ⟨hstorable', hagain⟩ := hstorable.withoutNulls? rfl
  refine ⟨_, rfl, hagain, fun s hstore => ?_⟩
  obtain ⟨s', hsave⟩ := exec_save_of_canStore host hstore hv
  obtain ⟨w, hload, n, hn, hsame⟩ := load_of_save hstorable hsave
  obtain rfl := Option.some.inj hn
  obtain ⟨s'', hsave'⟩ := exec_save_of_canStore host (canStore_of_save hsave) (v := .obj _) rfl
  obtain ⟨w', hload', n', hn', hsame'⟩ := load_of_save hstorable' hsave'
  obtain rfl := Option.some.inj (hn'.symm.trans hagain)
  exact ⟨s', w, hsave, hload, hsame, s'', w', hsave', hload', hsame'⟩

/-- Results with nulls, one of them inside a list, and an integer beyond the signed words. -/
def wideResults : Json :=
  .obj [("offsets", .arr [.int 1, .null, .int 2]), ("size", .int 0xFFFFFFFFFFFFFFFF),
    ("gap", .null), ("parts", .obj [("share", .float ⟨0x3FE0000000000000⟩), ("label", .null)])]

theorem isStorable_wideResults : IsStorable wideResults := by
  have hfinite : (⟨0x3FE0000000000000⟩ : Binary64).isFinite = true := by decide +kernel
  have hproper : wideResults.Proper := by
    simp [wideResults, Json.Proper, Json.ProperMembers, Json.ProperItems, Json.IsWord, hfinite]
  exact (isStorable_iff hproper).2 (by decide +kernel)

theorem load_save_wideResults :
    ∃ s' w, exec (plainCache.save "uboot" wideResults) bareHost unsurveyed = (.ok (), s') ∧
      plainCache.load s' "uboot" = .ok w ∧
        w.Same (.obj [("offsets", .arr [.int 1, .int 2]), ("size", .str "18446744073709551615"),
          ("parts", .obj [("share", .float ⟨0x3FE0000000000000⟩)])]) := by
  obtain ⟨n, hn, -, hstored⟩ :=
    (load_save plainCache bareHost "uboot" wideResults).2 rfl isStorable_wideResults
  obtain ⟨s', w, hsave, hload, hsame, -⟩ :=
    hstored unsurveyed (canStore_of_vacant vacant_unsurveyed (by decide))
  have htext : Json.intText 0xFFFFFFFFFFFFFFFF = "18446744073709551615" := by decide +kernel
  have hleft : wideResults.withoutNulls? = some (.obj [("offsets", .arr [.int 1, .int 2]),
      ("size", .str "18446744073709551615"),
      ("parts", .obj [("share", .float ⟨0x3FE0000000000000⟩)])]) := by
    simp [wideResults, Json.withoutNulls?, Json.withoutNullMembers, Json.withoutNullItems, htext]
  exact ⟨s', w, hsave, hload, Option.some.inj (hn.symm.trans hleft) ▸ hsame⟩

end FirmwareSurvey.Cache

/-!
## Documents of results from store

Results that lose nothing in store still come back in another order. A document takes fields by
their names, so it does not matter in which order these are; but an object in a field is written
with its members in the order they have. So a document of results from store is the document of the
same results with the value of every field arranged (`Renderer.render?_reloaded`), which may be
another one than that of the results as they were made (`Renderer.render?_reloaded_nestedParts`).
-/

namespace FirmwareSurvey.Template.Renderer

open Cache OnHost

theorem add_perm {m n : Members Json} (h : m.Perm n) (hm : (Members.keys m).Nodup) (r : Renderer)
    (type : String) : r.add type (.obj m) = r.add type (.obj n) := by
  rw [add, add, Tracked.ofMembers_perm h hm]

/-- **A document of results from store** is that of the results with the value of every field
arranged. It is the document of the results as they were made when these are arranged already. -/
theorem render?_reloaded (c : Cache) (host : Host) {s : Storage} {type : String}
    {members : Members Json} (hlasting : (Json.obj members).Lasting)
    (hstorable : IsStorable (.obj members)) (hstore : c.CanStore s type) :
    ∃ s' w, exec (c.save type (.obj members)) host s = (.ok (), s') ∧ c.load s' type = .ok w ∧
      ∀ (r : Renderer) (template : String),
        (r.add type w).render? template =
          (r.add type (.obj (members.map fun m => (m.1, m.2.arranged)))).render? template ∧
        ((∀ m ∈ members, m.2.arranged = m.2) →
          (r.add type w).render? template = (r.add type (.obj members)).render? template) := by
  obtain ⟨s', hsave⟩ := exec_save_of_canStore host hstore (v := .obj members) rfl
  refine ⟨s', _, hsave, load_of_save_lasting hstorable hlasting hsave, fun r template => ?_⟩
  have hkeys : (Members.keys (members.map fun m => (m.1, m.2.arranged))).Nodup := by
    rw [Members.keys, List.map_map]
    exact hstorable.1.1
  have hadd := add_perm (Json.arrangedMembers_perm members).symm hkeys r type
  refine ⟨by rw [hadd], fun hsame => ?_⟩
  have hmap : (members.map fun m => (m.1, m.2.arranged)) = members :=
    (List.map_congr_left fun m hm => by rw [hsame m hm]).trans (List.map_id' members)
  rw [← hadd, hmap]

/-- A template that writes what is known of the parts. -/
def partsTemplate : String := "Parts: \x7b\x7b uboot.parts \x7d\x7d"

/-- Parts with the one that is an object last. -/
def sortedParts : Members Json :=
  [("parts", .obj [("count", .int 2), ("boot", .obj [("size", .int 1)])])]

theorem render?_reloaded_sortedParts :
    ∃ s' w, exec (plainCache.save "uboot" (.obj sortedParts)) bareHost unsurveyed = (.ok (), s') ∧
      plainCache.load s' "uboot" = .ok w ∧
        (({} : Renderer).add "uboot" w).render? partsTemplate =
          some "Parts: \x7b\"count\":2,\"boot\":\x7b\"size\":1\x7d\x7d" := by
  have hlasting : (Json.obj sortedParts).Lasting := by
    simp [sortedParts, Json.Lasting, Json.LastingMembers]
  have hproper : (Json.obj sortedParts).Proper := by
    simp [sortedParts, Json.Proper, Json.ProperMembers, Json.IsWord]
  have hstorable : IsStorable (.obj sortedParts) := (isStorable_iff hproper).2 (by decide +kernel)
  have hstore : plainCache.CanStore unsurveyed "uboot" :=
    canStore_of_vacant vacant_unsurveyed (by decide)
  obtain ⟨s', w, hsave, hload, hrender⟩ :=
    render?_reloaded plainCache bareHost hlasting hstorable hstore
  refine ⟨s', w, hsave, hload, ((hrender {} partsTemplate).2 ?_).trans (by decide +kernel)⟩
  intro m hm
  obtain rfl := List.mem_singleton.1 hm
  decide +kernel

/-- Parts with the one that is an object first. -/
def nestedParts : Members Json :=
  [("parts", .obj [("boot", .obj [("size", .int 1)]), ("count", .int 2)])]

/-- **An object in a field is written in another order** when the results are from store, though
nothing of them was lost. -/
theorem render?_reloaded_nestedParts :
    (Json.obj nestedParts).Lasting ∧ IsStorable (.obj nestedParts) ∧
      (({} : Renderer).add "uboot" (.obj nestedParts)).render? partsTemplate =
        some "Parts: \x7b\"boot\":\x7b\"size\":1\x7d,\"count\":2\x7d" ∧
      ∃ s' w, exec (plainCache.save "uboot" (.obj nestedParts)) bareHost unsurveyed =
          (.ok (), s') ∧ plainCache.load s' "uboot" = .ok w ∧
        (({} : Renderer).add "uboot" w).render? partsTemplate =
          some "Parts: \x7b\"count\":2,\"boot\":\x7b\"size\":1\x7d\x7d" := by
  have hlasting : (Json.obj nestedParts).Lasting := by
    simp [nestedParts, Json.Lasting, Json.LastingMembers]
  have hproper : (Json.obj nestedParts).Proper := by
    simp [nestedParts, Json.Proper, Json.ProperMembers, Json.IsWord]
  have hstorable : IsStorable (.obj nestedParts) := (isStorable_iff hproper).2 (by decide +kernel)
  have hstore : plainCache.CanStore unsurveyed "uboot" :=
    canStore_of_vacant vacant_unsurveyed (by decide)
  obtain ⟨s', hsave⟩ := exec_save_of_canStore bareHost hstore (v := .obj nestedParts) rfl
  exact ⟨hlasting, hstorable, by decide +kernel, s', _, hsave,
    load_of_save_lasting hstorable hlasting hsave, by decide +kernel⟩

end FirmwareSurvey.Template.Renderer
