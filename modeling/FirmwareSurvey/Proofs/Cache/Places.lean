import FirmwareSurvey.Proofs.Cache.History
import FirmwareSurvey.Proofs.Storage.Elsewhere

/-!
# The two places of a type

New results of a type are written to two places: the results file of the type, and the manifest.
They are written once the results directory is made and if the manifest can be read
(`Places.store`). Each place then holds what was written to it, and any other what it held
(`Stored.readText`).

What is stored of a key depends on the results file and on what the manifest records of its type
(`stored?_eq`). So after new results were stored it is what their document reads back as
(`Stored.stored?_eq`).
-/

namespace FirmwareSurvey.Cache

open OnHost Storage

variable {c : Cache} {l : Layout} {host : Host} {s s' opened written recorded : Storage} {key : Key}
  {type : String} {a b : Location} {m : Manifest} {members : List (String × Toml)}

/-! ### What is stored of a key -/

/-- The text of the results file of a type, if there is one. -/
def textOf (l : Layout) (s : Storage) (type : String) : Option String :=
  (s.readText (l.resultsPath type)).toOption

/-- What the manifest records of a type. -/
def recordOf (l : Layout) (s : Storage) (type : String) : Option (String × String) :=
  (Manifest.load s l.manifestPath).toOption.bind (·.recorded? type)

theorem matchesManifest_iff :
    c.matchesManifest s key = true ↔ s.isFile (c.layout.resultsPath key.type) = true ∧
      recordOf c.layout s key.type = some (key.firmware, key.script) := by
  rw [matchesManifest, Bool.and_eq_true, recordOf]
  refine and_congr_right fun _ => ?_
  cases hload : Manifest.load s c.layout.manifestPath with
  | error e => simp [Except.toOption]
  | ok m =>
    simp only [Except.toOption, Option.bind_some, Manifest.recorded?]
    cases m.entry? key.type <;> simp

/-- **What is stored of a key** depends on the results file of its type and on what the manifest
records of it. -/
theorem stored?_eq : c.stored? s key =
    if recordOf c.layout s key.type = some (key.firmware, key.script) then
      ((textOf c.layout s key.type).bind Toml.parse?).map fun members => (Toml.table members).toJson
    else none := by
  rw [stored?, textOf, load_eq]
  cases htext : s.readText (c.layout.resultsPath key.type) with
  | error e => simp [Except.toOption]
  | ok text =>
    have hmatches : c.matchesManifest s key = true ↔
        recordOf c.layout s key.type = some (key.firmware, key.script) :=
      matchesManifest_iff.trans (and_iff_right (isFile_of_readText htext))
    simp only [hmatches]
    cases hparse : Toml.parse? text <;> simp [Except.toOption, hparse]

/-! ### Writing to both places -/

/-- Where the results of a type and the manifest are written once the results directory is made: two
places. -/
structure Places (l : Layout) (s opened : Storage) (type : String) (a b : Location) : Prop where
  /-- The results directory is made. -/
  makes : s.makeDirectories l.resultsDir = .ok opened
  /-- The place of the results. -/
  results : opened.target? (l.resultsPath type) = some a
  /-- The place of the manifest. -/
  manifest : opened.target? l.manifestPath = some b
  /-- They are two. -/
  ne : a ≠ b

/-- The directory around the manifest is the results directory, which is not made again. -/
theorem exists_parent_of_makes (h : s.makeDirectories l.resultsDir = .ok opened) :
    ∃ above, l.manifestPath.parent? = some above ∧
      ∀ t, KeepsWays opened t → t.makeDirectories above = .ok t := by
  rcases opens_of_makeDirectories h with hempty | ⟨D, hopens⟩
  · have hdir : l.resultsDir = ⟨""⟩ := by
      cases hpath : l.resultsDir
      rw [hpath] at hempty
      exact congrArg Path.mk hempty
    refine ⟨⟨""⟩, ?_, fun t _ => by simp [makeDirectories, makeDirectoriesUpTo]⟩
    rw [Layout.manifestPath, hdir]
    decide +kernel
  · obtain ⟨above, habove, htext, hsteps, habsolute⟩ :=
      Path.parent?_child hopens.text_ne isName_manifest
    exact ⟨above, habove, fun t hways =>
      ((hopens.keepsWays hways).congr htext hsteps habsolute).makeDirectories⟩

/-- The two writes of new results, one after the other. -/
structure Stored (l : Layout) (opened written recorded : Storage) (type : String)
    (members : List (String × Toml)) (m : Manifest) : Prop where
  /-- The results are written. -/
  results : opened.writeText (l.resultsPath type) (Toml.documentText members) = .ok written
  /-- The manifest is written. -/
  manifest : written.writeText l.manifestPath m.text = .ok recorded

/-- **What the two places hold** after both are written, and that any other is as it was. -/
theorem Stored.readText (h : Stored l opened written recorded type members m)
    (hplaces : Places l s opened type a b) :
    recorded.readText (l.resultsPath type) = .ok (Toml.documentText members) ∧
      recorded.readText l.manifestPath = .ok m.text ∧
      ∀ p d, opened.target? p = some d → d ≠ a → d ≠ b →
        recorded.target? p = some d ∧ recorded.readText p = opened.readText p := by
  have ha : written.target? (l.resultsPath type) = some a :=
    (target?_of_writeText h.results).trans hplaces.results
  obtain ⟨hb, -⟩ := of_writeText_of_ne h.results hplaces.results hplaces.manifest hplaces.ne.symm
  refine ⟨?_, readText_of_writeText h.manifest, fun p d hd hda hdb => ?_⟩
  · rw [(of_writeText_of_ne h.manifest hb ha hplaces.ne).2]
    exact readText_of_writeText h.results
  · obtain ⟨hd', hread⟩ := of_writeText_of_ne h.results hplaces.results hd hda
    obtain ⟨hd'', hread'⟩ := of_writeText_of_ne h.manifest hb hd' hdb
    exact ⟨hd'', hread'.trans hread⟩

/-- **New results are written to both places** if the manifest can be read. -/
theorem Places.store (h : Places c.layout s opened key.type a b)
    (hm : Manifest.load opened c.layout.manifestPath = .ok m) (results : List (String × Json))
    (host : Host) :
    ∃ written recorded, exec (c.save key.type (.obj results)) host s = (.ok (), written) ∧
      exec (c.record key) host written = (.ok (), recorded) ∧
      Stored c.layout opened written recorded key.type (Toml.ofJsonMembers results)
        (m.put key.type ⟨key.firmware, key.script, host.now⟩) := by
  have hwrite : opened.writeText (c.layout.resultsPath key.type)
      (Toml.documentText (Toml.ofJsonMembers results)) = .ok _ :=
    writeContents_of_target? _ h.results
  obtain ⟨hb, hsame⟩ := of_writeText_of_ne hwrite h.results h.manifest h.ne.symm
  obtain ⟨above, habove, hmake⟩ := exists_parent_of_makes h.makes
  have hrecord := writeContents_of_target?
    ⟨(m.put key.type ⟨key.firmware, key.script, host.now⟩).text.toUTF8, 0⟩ hb
  refine ⟨_, _, save_eq_ok_iff.2 ⟨_, opened, rfl, h.makes, hwrite⟩, ?_, hwrite, hrecord⟩
  rw [exec_record ((Manifest.load_congr hsame).trans hm)]
  exact Manifest.exec_save habove (hmake _ (keepsWays_writeText hwrite)) hrecord

/-- **New results are recorded only** if the manifest can be read. -/
theorem Places.exists_load (h : Places c.layout s opened key.type a b) {results : Json}
    (hsave : exec (c.save key.type results) host s = (.ok (), written))
    (hrecord : exec (c.record key) host written = (.ok (), recorded)) :
    ∃ m, Manifest.load opened c.layout.manifestPath = .ok m := by
  obtain ⟨members, opened', -, hmakes, hwrite⟩ := save_eq_ok_iff.1 hsave
  cases hmakes.symm.trans h.makes
  obtain ⟨-, hsame⟩ := of_writeText_of_ne hwrite h.results h.manifest h.ne.symm
  rw [← Manifest.load_congr hsame]
  rw [record, exec_bind, exec_tryLook] at hrecord
  cases hload : Manifest.load written c.layout.manifestPath with
  | error e =>
    rw [hload] at hrecord
    cases hrecord
  | ok m => exact ⟨m, rfl⟩

/-! ### Looking in both places -/

/-- What a manifest records once a key was put into it. -/
theorem Manifest.recorded?_put_key (m : Manifest) (key : Key) (now type : String) :
    (m.put key.type ⟨key.firmware, key.script, now⟩).recorded? type =
      if key.type = type then some (key.firmware, key.script) else m.recorded? type := by
  rw [recorded?, entry?, put, Members.get?_put, recorded?, entry?]
  split <;> rfl

/-- A manifest that a key was put into is read back with it. -/
theorem Stored.load_manifest {now : String}
    (h : Stored l opened written recorded type members
      (m.put key.type ⟨key.firmware, key.script, now⟩))
    (hplaces : Places l s opened type a b) (hkeys : m.entries.keys.Nodup) :
    ∃ m', Manifest.load recorded l.manifestPath = .ok m' ∧ ∀ type, m'.recorded? type =
      if key.type = type then some (key.firmware, key.script) else m.recorded? type := by
  have hput : (m.put key.type ⟨key.firmware, key.script, now⟩).entries.keys.Nodup :=
    Members.keys_nodup_put hkeys _ _
  obtain ⟨hload, -, hrecorded⟩ := Manifest.load_of_readText hput (h.readText hplaces).2.1
  exact ⟨_, hload, fun type => by rw [hrecorded, Manifest.recorded?_put_key]⟩

/-- **What is stored of a key after new results were stored** is what their document reads back
as. -/
theorem Stored.stored?_eq {now : String}
    (h : Stored c.layout opened written recorded key.type members
      (m.put key.type ⟨key.firmware, key.script, now⟩))
    (hplaces : Places c.layout s opened key.type a b) (hkeys : m.entries.keys.Nodup) :
    c.stored? recorded key =
      (Toml.parse? (Toml.documentText members)).map fun read => (Toml.table read).toJson := by
  obtain ⟨m', hload, hrecorded⟩ := h.load_manifest hplaces hkeys
  rw [Cache.stored?_eq, recordOf, hload, textOf, (h.readText hplaces).1]
  simp [Except.toOption, hrecorded]

end FirmwareSurvey.Cache
