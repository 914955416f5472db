import FirmwareSurvey.Proofs.Cache.Damaged

/-!
# Results that were just stored

New results are stored, and recorded, under the normal name of their type. Whoever asks for them
under that name finds them valid as long as the image and the script are still what they were made
from (`isValid_of_analyze`). Validity and loading take a name as it is, though: asked under any other
spelling they answer what they answered before the call, so a type that was asked for with an
underscore is not valid afterwards (`not_isValid_underscored`).

The reason is where a call writes. It writes two files, one behind the other (`Stored`); a path that
leads to the second reads the manifest, one that leads to the first alone reads the results, and any
other reads what it read before.
-/

namespace FirmwareSurvey.Cache

open OnHost Storage

variable {c known : Cache} {l : Layout} {host : Host} {s s' made opened written recorded : Storage}
  {type name now : String} {image path above : Path} {run : Runner} {script : Script} {key : Key}
  {m : Manifest} {members : List (String × Toml)} {w : Json}

/-! ### What a call writes -/

/-- What a call has made anew is made from what it looked at. -/
theorem keyOf_of_find (h : c.find host s type image = .ok (.nothing script key)) :
    c.scriptOf host s type = .ok script ∧ c.keyOf host s type image = .ok key := by
  obtain ⟨script', hscript, h⟩ := exists_of_bind_ok h
  obtain ⟨key', hkey, h⟩ := exists_of_bind_ok h
  simp only [findBy, pure, Except.pure, Except.ok.injEq] at h
  split at h <;> cases h
  exact ⟨hscript, hkey⟩

/-- A manifest that is saved is written, when the directory around its path is there. -/
theorem Manifest.writeText_of_save (habove : path.parent? = some above)
    (hdir : s.makeDirectories above = .ok s) (h : exec (m.save path) host s = (.ok (), s')) :
    s.writeText path m.text = .ok s' := by
  simp only [Manifest.save, habove] at h
  rw [exec_bind, exec_tryChange, hdir] at h
  dsimp only at h
  rw [exec_tryChange] at h
  split at h
  · rename_i hwrite
    cases h
    exact hwrite
  · cases h

/-- **A call that has new results made writes them, and then the manifest with one more entry.** -/
theorem exists_stored_of_analyze
    (hasks : c.find host s type image = .ok (.nothing script key))
    (hcall : exec (c.analyze type image run) host s = (.ok (w, known), s')) :
    ∃ members opened written m, Toml.ofJson? w = some (.table members) ∧
      (c.leftByRun host s type image run).makeDirectories c.layout.resultsDir = .ok opened ∧
      Manifest.load written c.layout.manifestPath = .ok m ∧
      Stored c.layout opened written s' key.type members
        (m.put key.type ⟨key.firmware, key.script, host.now⟩) := by
  rw [exec_analyze, hasks] at hcall
  dsimp only at hcall
  obtain ⟨made, hmade, -⟩ := exists_made_of_renew hcall
  obtain ⟨written, hsave, hrecord⟩ := exists_of_renew hmade hcall
  obtain ⟨members, opened, hmembers, hopened, hwrite⟩ := save_eq_ok_iff.1 hsave
  have hleft : c.leftByRun host s type image run = made := by simp only [leftByRun, hasks, hmade]
  obtain ⟨above, habove, hmake⟩ := exists_parent_of_makes hopened
  cases hload : Manifest.load written c.layout.manifestPath with
  | error e =>
    rw [record, exec_bind, exec_tryLook, hload] at hrecord
    cases hrecord
  | ok m =>
    rw [exec_record hload] at hrecord
    exact ⟨members, opened, written, m, hmembers, hleft ▸ hopened, hload, hwrite,
      Manifest.writeText_of_save habove (hmake _ (keepsWays_writeText hwrite)) hrecord⟩

/-! ### What is read afterwards -/

/-- Whether a path leads to neither of the two places of a type. -/
def IsElsewhere (l : Layout) (s : Storage) (type : String) (p : Path) : Prop :=
  s.target? p ≠ s.target? (l.resultsPath type) ∧ s.target? p ≠ s.target? l.manifestPath

namespace Stored

/-- The results file is where it was written. -/
theorem target?_results (h : Stored l opened written recorded type members m) :
    ∃ a, written.target? (l.resultsPath type) = some a ∧
      recorded.target? (l.resultsPath type) = some a := by
  obtain ⟨a, ha, -⟩ := target?_of_writeContents h.results
  have hwritten := (target?_of_writeText h.results).trans ha
  exact ⟨a, hwritten, target?_eq_some_of_writeText h.manifest hwritten⟩

/-- The manifest is where it was written. -/
theorem target?_manifest (h : Stored l opened written recorded type members m) :
    ∃ b, written.target? l.manifestPath = some b ∧ recorded.target? l.manifestPath = some b := by
  obtain ⟨b, hb, -⟩ := target?_of_writeContents h.manifest
  exact ⟨b, hb, (target?_of_writeText h.manifest).trans hb⟩

/-- A path that leads away from the results afterwards did so when they were written. -/
theorem target?_ne (h : Stored l opened written recorded type members m) {p : Path}
    (hp : recorded.target? p ≠ recorded.target? (l.resultsPath type)) :
    written.target? p ≠ written.target? (l.resultsPath type) := by
  obtain ⟨a, ha, ha'⟩ := h.target?_results
  intro hsame
  rw [ha] at hsame
  exact hp ((target?_eq_some_of_writeText h.manifest hsame).trans ha'.symm)

/-- **The results file reads as the results**, or as the manifest if that is the same file. -/
theorem readText_results (h : Stored l opened written recorded type members m) :
    recorded.readText (l.resultsPath type) =
      .ok (if recorded.target? (l.resultsPath type) = recorded.target? l.manifestPath then m.text
        else Toml.documentText members) := by
  split
  · rename_i hsame
    exact readText_of_target?_eq h.manifest hsame
  · rename_i hne
    exact (readText_eq_ok_iff_of_writeText h.manifest hne).2 (readText_of_writeText h.results)

/-- **A file elsewhere reads as before.** -/
theorem readText_elsewhere {p : Path} {body : String}
    (h : Stored l opened written recorded type members m) (hp : IsElsewhere l recorded type p) :
    recorded.readText p = .ok body ↔ opened.readText p = .ok body :=
  (readText_eq_ok_iff_of_writeText h.manifest hp.2).trans
    (readText_eq_ok_iff_of_writeText h.results (h.target?_ne hp.1))

/-- **What is recorded afterwards** is what was recorded when the manifest was read, but for the key
that was put into it. -/
theorem recordOf_eq
    (h : Stored l opened written recorded type members
      (m.put key.type ⟨key.firmware, key.script, now⟩))
    (hload : Manifest.load written l.manifestPath = .ok m) (name : String) :
    recordOf l recorded name =
      if key.type = name then some (key.firmware, key.script) else recordOf l written name := by
  have hkeys : (m.put key.type ⟨key.firmware, key.script, now⟩).entries.keys.Nodup :=
    Members.keys_nodup_put (Manifest.keys_nodup_of_load hload) _ _
  obtain ⟨hload', -, hrecorded⟩ :=
    Manifest.load_of_readText hkeys (readText_of_writeText h.manifest)
  rw [recordOf, recordOf, hload', hload]
  exact (hrecorded name).trans (Manifest.recorded?_put_key m key now name)

/-- Storing results records nothing, unless they are written over the manifest. -/
theorem recordOf_written (h : Stored l opened written recorded type members m)
    (hne : recorded.target? l.manifestPath ≠ recorded.target? (l.resultsPath type)) (name : String) :
    recordOf l written name = recordOf l opened name := by
  obtain ⟨b, hb, -⟩ := h.target?_manifest
  obtain ⟨-, hread⟩ := of_target?_of_writeText h.results hb (h.target?_ne hne)
  rw [recordOf, recordOf, Manifest.load_congr hread.symm]

end Stored

/-! ### What is valid and what is loaded -/

/-- **Results are valid for an image and a script** when there is a results file, and what the
manifest records of their type are the fingerprints of the two. -/
theorem isValid_iff : c.isValid s name image path = true ↔
    s.isFile (c.layout.resultsPath name) = true ∧ ∃ key, keyIn s name image path = .ok key ∧
      recordOf c.layout s name = some (key.firmware, key.script) := by
  rw [isValid]
  constructor
  · intro h
    split at h
    · rename_i firmware hash hfirmware hhash
      exact ⟨(matchesManifest_iff.1 h).1, ⟨name, firmware, hash⟩,
        keyIn_eq_ok_iff.2 ⟨rfl, hfirmware, hhash⟩, (matchesManifest_iff.1 h).2⟩
    · cases h
  · rintro ⟨hfile, key, hkey, hrecord⟩
    obtain ⟨rfl, hfirmware, hhash⟩ := keyIn_eq_ok_iff.1 hkey
    rw [hfirmware, hhash]
    exact matchesManifest_iff.2 ⟨hfile, hrecord⟩

/-- **Results are loaded** from a results file that reads back. -/
theorem load_eq_ok_iff {v : Json} : c.load s name = .ok v ↔
    ∃ body members, s.readText (c.layout.resultsPath name) = .ok body ∧
      Toml.parse? body = some members ∧ (Toml.table members).toJson = v := by
  rw [load_eq]
  cases hread : s.readText (c.layout.resultsPath name) with
  | error cause => simp
  | ok body => cases hparse : Toml.parse? body <;> simp [hparse]

theorem exists_load_iff {body : String} (h : s.readText (c.layout.resultsPath name) = .ok body) :
    (∃ v, c.load s name = .ok v) ↔ (Toml.parse? body).isSome = true := by
  simp [load_eq_ok_iff, h, Option.isSome_iff_exists]

/-- A manifest that was written reads back as a document. -/
theorem Manifest.isSome_parse?_text (h : m.entries.keys.Nodup) :
    (Toml.parse? m.text).isSome = true := by
  have hback := ofText?_text h
  rw [ofText?, Option.map_eq_some_iff] at hback
  obtain ⟨entries, hentries, -⟩ := hback
  obtain ⟨members, hmembers, -⟩ := Option.bind_eq_some_iff.1 hentries
  rw [hmembers]
  rfl

/-- **What a call has just stored** is valid under the normal name of its type exactly as long as
the image and the script have the fingerprints it was made from, and loads under that name exactly
when the document of the results reads back, or the results file is the manifest, which does. Under
any other name validity and loading answer from what was there before. -/
theorem isValid_of_analyze
    (hasks : c.find host s type image = .ok (.nothing script key))
    (hcall : exec (c.analyze type image run) host s = (.ok (w, known), s')) :
    (known.isValid s' (TypeName.normal type) image script.path = true ↔
      keyIn s' (TypeName.normal type) image script.path = .ok key) ∧
    ((∃ v, known.load s' (TypeName.normal type) = .ok v) ↔
      (∃ members, Toml.ofJson? w = some (.table members) ∧
        (Toml.parse? (Toml.documentText members)).isSome = true) ∨
      s'.target? (c.layout.resultsPath (TypeName.normal type)) =
        s'.target? c.layout.manifestPath) ∧
    ∃ opened, (c.leftByRun host s type image run).makeDirectories c.layout.resultsDir =
        .ok opened ∧
      ∀ name, name ≠ TypeName.normal type →
        (s'.target? (c.layout.resultsPath (TypeName.normal type)) ≠
            s'.target? c.layout.manifestPath →
          ∀ path, known.isValid s' name image path = true ↔
            s'.isFile (c.layout.resultsPath name) = true ∧
              ∃ key, keyIn s' name image path = .ok key ∧
                recordOf c.layout opened name = some (key.firmware, key.script)) ∧
        (IsElsewhere c.layout s' (TypeName.normal type) (c.layout.resultsPath name) →
          ∀ v, known.load s' name = .ok v ↔ c.load opened name = .ok v) := by
  obtain ⟨memory, hknown⟩ := eq_of_analyze hcall
  have hlayout : known.layout = c.layout := by rw [hknown]
  obtain ⟨members, opened, written, m, hmembers, hopened, hload, hstored⟩ :=
    exists_stored_of_analyze hasks hcall
  have htype := type_of_keyOf (keyOf_of_find hasks).2
  rw [← htype]
  have hresults := hstored.readText_results
  rw [exists_load_iff (hlayout ▸ hresults)]
  simp only [isValid_iff, load_eq_ok_iff, hlayout]
  refine ⟨?_, ?_, opened, hopened, fun name hname => ⟨fun hne path => ?_, fun helse v => ?_⟩⟩
  · -- the record under the normal name is that of the key
    rw [isFile_of_readText hresults, hstored.recordOf_eq hload, if_pos rfl]
    constructor
    · rintro ⟨-, key', hkey', hrecord⟩
      obtain ⟨-, hfirmware, hhash⟩ := keyIn_eq_ok_iff.1 hkey'
      obtain ⟨hfirmware', hhash'⟩ := Prod.mk.inj (Option.some.inj hrecord)
      exact keyIn_eq_ok_iff.2 ⟨rfl, hfirmware' ▸ hfirmware, hhash' ▸ hhash⟩
    · exact fun hkey => ⟨rfl, key, hkey, rfl⟩
  · split
    · rename_i hsame
      exact iff_of_true (Manifest.isSome_parse?_text
        (Members.keys_nodup_put (Manifest.keys_nodup_of_load hload) _ _)) (.inr hsame)
    · rename_i hne
      simp [hmembers, hne]
  · rw [hstored.recordOf_eq hload, if_neg (htype ▸ hname.symm), hstored.recordOf_written hne.symm]
  · simp only [hstored.readText_elsewhere helse]

/-! ### A type with an underscore -/

/-- The key of the image and the program of `unsurveyed`. -/
def bootKey : Key := ⟨"boot-process", "16367aacb67a4a01", "1310ca2c8932dbd1"⟩

/-- A call for a type that is written with an underscore. -/
def underscoredCall : Except Error (Json × Cache) × Storage :=
  exec (plainCache.analyze "boot_process" ⟨"image"⟩ secondBuild) bareHost unsurveyed

/-- What the call looks at, and what can be seen afterwards. -/
theorem underscoredCall_spec :
    (plainCache.scriptOf bareHost unsurveyed "boot_process" = .ok ⟨⟨"fwprobe"⟩, .program⟩ ∧
      plainCache.keyOf bareHost unsurveyed "boot_process" ⟨"image"⟩ = .ok bootKey) ∧
    underscoredCall.1.toOption.isSome = true ∧
    keyIn underscoredCall.2 bootKey.type ⟨"image"⟩ ⟨"fwprobe"⟩ = .ok bootKey ∧
    plainCache.isValid underscoredCall.2 "boot_process" ⟨"image"⟩ ⟨"fwprobe"⟩ = false ∧
    (plainCache.load underscoredCall.2 "boot_process").toOption.isSome = false ∧
    (Toml.parse? (Toml.documentText [("build", .int 2)])).isSome = true := by
  decide +kernel

theorem find_underscored : plainCache.find bareHost unsurveyed "boot_process" ⟨"image"⟩ =
    .ok (.nothing ⟨⟨"fwprobe"⟩, .program⟩ bootKey) := by
  obtain ⟨⟨hscript, hkey⟩, -⟩ := underscoredCall_spec
  have hknown : plainCache.known? bootKey = none := rfl
  have hstored : plainCache.stored? unsurveyed bootKey = none :=
    stored?_of_vacant vacant_unsurveyed ⟨by decide, by decide⟩
  obtain ⟨script, hscript', hfind⟩ := find_of_keyOf hkey
  cases hscript.symm.trans hscript'
  rw [hfind, findBy, hknown, hstored]

theorem exists_underscoredCall :
    ∃ known s', underscoredCall = (.ok (.obj [("build", .int 2)], known), s') := by
  obtain ⟨-, hok, -⟩ := underscoredCall_spec
  rcases hcall : underscoredCall with ⟨e | ⟨w, known⟩, s'⟩
  · rw [hcall] at hok
    cases hok
  · rw [underscoredCall, exec_analyze, find_underscored] at hcall
    obtain ⟨rfl, -⟩ := eq_of_renew rfl hcall
    exact ⟨known, s', rfl⟩

/-- The results of a type that was asked for with an underscore are valid, and load, under its name
with a hyphen. -/
theorem isValid_of_analyze_underscored :
    ∃ w known s', plainCache.find bareHost unsurveyed "boot_process" ⟨"image"⟩ =
        .ok (.nothing ⟨⟨"fwprobe"⟩, .program⟩ bootKey) ∧
      underscoredCall = (.ok (w, known), s') ∧
      known.isValid s' "boot-process" ⟨"image"⟩ ⟨"fwprobe"⟩ = true ∧
      ∃ v, known.load s' "boot-process" = .ok v := by
  obtain ⟨-, -, hkey, -, -, hback⟩ := underscoredCall_spec
  obtain ⟨known, s', hcall⟩ := exists_underscoredCall
  rw [hcall] at hkey
  have hnormal : TypeName.normal "boot_process" = "boot-process" := by decide
  obtain ⟨hvalid, hload, -⟩ := isValid_of_analyze find_underscored hcall
  rw [hnormal] at hvalid hload
  exact ⟨_, known, s', find_underscored, hcall, hvalid.2 hkey, hload.2 (.inl ⟨_, rfl, hback⟩)⟩

/-- **Under the name they were asked for they are not**: it has no results file, though the image
and the program are what the results were made from. -/
theorem not_isValid_underscored :
    ∃ w known s', plainCache.find bareHost unsurveyed "boot_process" ⟨"image"⟩ =
        .ok (.nothing ⟨⟨"fwprobe"⟩, .program⟩ bootKey) ∧
      underscoredCall = (.ok (w, known), s') ∧
      keyIn s' bootKey.type ⟨"image"⟩ ⟨"fwprobe"⟩ = .ok bootKey ∧
      known.isValid s' "boot_process" ⟨"image"⟩ ⟨"fwprobe"⟩ = false ∧
      ∀ v, known.load s' "boot_process" ≠ .ok v := by
  obtain ⟨-, -, hkey, hvalid, hload, -⟩ := underscoredCall_spec
  obtain ⟨known, s', hcall⟩ := exists_underscoredCall
  obtain ⟨memory, rfl⟩ := eq_of_analyze hcall
  rw [hcall] at hkey hvalid hload
  refine ⟨_, _, s', find_underscored, hcall, hkey, hvalid, fun v hv => ?_⟩
  have hv' : plainCache.load s' "boot_process" = .ok v := hv
  rw [hv'] at hload
  cases hload

end FirmwareSurvey.Cache
