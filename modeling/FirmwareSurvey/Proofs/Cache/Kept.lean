import FirmwareSurvey.Proofs.Cache.Call
import FirmwareSurvey.Proofs.Cache.Manifest
import FirmwareSurvey.Proofs.Storage.Vacant
import FirmwareSurvey.Proofs.Toml.Json

/-!
# What a results directory says

The runs whose results were stored in a directory are kept there as far as the last one of each type
goes: the manifest says what it was made from, and the results file reads back as its results. So
results are found in store exactly when the last run of their type was made from the same key, and
storing the results of another run adds that run.
-/

namespace FirmwareSurvey.Cache

open OnHost Storage

/-! ### Types and runs -/

/-- Whether the results of a type have a file of their own: its name has no slash and is not that of
the manifest. -/
structure IsPlainType (type : String) : Prop where
  /-- There is no slash. -/
  slash : '/' ∉ type.toList
  /-- The file is not the manifest. -/
  manifest : type ≠ ".manifest"

theorem isName_toml {type : String} (h : '/' ∉ type.toList) : Path.IsName (type ++ ".toml") := by
  have hlength : 5 ≤ (type ++ ".toml").toList.length := by simp
  have hne : ∀ s : String, s.toList.length < 5 → type ++ ".toml" ≠ s := by
    rintro s hs rfl
    omega
  refine ⟨?_, ?_, hne _ (by decide)⟩
  · have hending : '/' ∉ ".toml".toList := by decide
    simp only [String.toList_append, List.mem_append, not_or]
    exact ⟨h, hending⟩
  · simp [Path.isStep, hne "" (by decide), hne "." (by decide)]

theorem isName_manifest : Path.IsName Layout.manifestName :=
  isName_toml (by decide : '/' ∉ ".manifest".toList)

theorem append_toml_inj {type type' : String} (h : type ++ ".toml" = type' ++ ".toml") :
    type = type' := by
  have hlist := congrArg String.toList h
  simp only [String.toList_append] at hlist
  exact String.toList_inj.1 (List.append_cancel_right hlist)

theorem IsPlainType.ne_manifest {type : String} (h : IsPlainType type) :
    type ++ ".toml" ≠ Layout.manifestName :=
  fun heq => h.manifest (append_toml_inj (heq : type ++ ".toml" = ".manifest" ++ ".toml"))

/-- A run whose results were stored: what they were made from, and the results as they were made. -/
abbrev Run := Key × Json

/-- The last run of a type; the last runs come first. -/
def last? (runs : List Run) (type : String) : Option Run := runs.find? (·.1.type = type)

theorem last?_cons (r : Run) (runs : List Run) (type : String) :
    last? (r :: runs) type = if r.1.type = type then some r else last? runs type := by
  by_cases h : r.1.type = type <;> simp [last?, h]

theorem type_of_last? {runs : List Run} {type : String} {r : Run} (h : last? runs type = some r) :
    r ∈ runs ∧ r.1.type = type :=
  ⟨List.mem_of_find?_eq_some h, by simpa using List.find?_some h⟩

/-- Whether a value is another one as it comes back from store. -/
def ComesBack (v w : Json) : Prop := ∃ n, v.withoutNulls? = some n ∧ w.Same n

/-! ### The directory -/

/-- What a manifest records of a type. -/
def Manifest.recorded? (m : Manifest) (type : String) : Option (String × String) :=
  (m.entry? type).map fun e => (e.firmware, e.script)

/-- Whether a results directory at a location keeps the last run of each type. -/
structure Kept (l : Layout) (s : Storage) (D : Location) (runs : List Run) : Prop where
  /-- The directory is open. -/
  opened : s.Opens l.resultsDir D
  /-- It holds nothing but files. -/
  files : s.HoldsFiles D
  /-- Every type has a file of its own. -/
  plain : ∀ r ∈ runs, IsPlainType r.1.type
  /-- The manifest says what the last run of each type was made from. -/
  manifest : ∃ m, Manifest.load s l.manifestPath = .ok m ∧ m.entries.keys.Nodup ∧
    ∀ type, m.recorded? type = (last? runs type).map fun r => (r.1.firmware, r.1.script)
  /-- The results of the last run of each type come back. -/
  results : ∀ type r, last? runs type = some r →
    ∃ w, load { layout := l } s type = .ok w ∧ ComesBack r.2 w

variable {l : Layout} {s s' : Storage} {D : Location} {runs : List Run}

/-- What loading does. The equation that unfolding asks for says the same, but is found by evaluating
the reader of documents. -/
theorem load_eq (c : Cache) (s : Storage) (type : String) :
    c.load s type =
      match s.readText (c.layout.resultsPath type) with
      | .error cause => .error (.access (c.layout.resultsPath type) cause)
      | .ok body =>
        match Toml.parse? body with
        | some members => .ok (Toml.table members).toJson
        | none => .error (.parse (c.layout.resultsPath type)) := by
  rfl

theorem load_congr {type : String}
    (h : s'.readText (l.resultsPath type) = s.readText (l.resultsPath type)) :
    load { layout := l } s' type = load { layout := l } s type := by
  simp only [load_eq, h]

theorem Manifest.load_congr {path : Path} (h : s'.readText path = s.readText path) :
    Manifest.load s' path = Manifest.load s path := by
  simp only [Manifest.load, h]

/-- **A directory that is left alone keeps its runs.** -/
theorem Kept.untouched (h : Kept l s D runs) (hun : Untouched l.resultsDir s s') :
    Kept l s' D runs := by
  obtain ⟨hopened, hnodes⟩ := hun.opened D h.opened
  have hfiles : s'.HoldsFiles D := fun name n hn => h.files name n (hnodes name ▸ hn)
  have hread : ∀ {name}, Path.IsName name →
      s'.readText (l.resultsDir.child name) = s.readText (l.resultsDir.child name) :=
    fun {name} hname => h.opened.readText_congr h.files hopened hfiles hname
      (fileAt?_congr (hnodes name))
  refine ⟨hopened, hfiles, h.plain, ?_, fun type r hr => ?_⟩
  · have hload : Manifest.load s' l.manifestPath = Manifest.load s l.manifestPath :=
      Manifest.load_congr (hread isName_manifest)
    rw [hload]
    exact h.manifest
  · obtain ⟨hmem, rfl⟩ := type_of_last? hr
    rw [load_congr (hread (isName_toml (h.plain r hmem).slash))]
    exact h.results _ r hr

/-- Only the place of the results directory counts. -/
theorem Kept.congr {l' : Layout} (h : Kept l s D runs) (hdir : l'.resultsDir = l.resultsDir) :
    Kept l' s D runs := by
  have hpath : ∀ type, l'.resultsPath type = l.resultsPath type := fun type => by
    rw [Layout.resultsPath, Layout.resultsPath, hdir]
  have hload : ∀ type, load { layout := l' } s type = load { layout := l } s type := fun type => by
    simp only [load_eq, hpath]
  refine ⟨hdir ▸ h.opened, h.files, h.plain, ?_, fun type r hr => ?_⟩
  · rw [Layout.manifestPath, hdir]
    exact h.manifest
  · rw [hload]
    exact h.results type r hr

/-- An empty directory keeps no runs. -/
theorem kept_nil (h : s.Opens l.resultsDir D) (hempty : ∀ name, s.at? (D ++ [name]) = none) :
    Kept l s D [] := by
  have hfiles : s.HoldsFiles D := fun name n hn => by
    rw [hempty] at hn
    cases hn
  refine ⟨h, hfiles, by simp, ⟨{}, ?_, by simp [Members.keys], fun _ => rfl⟩, by simp [last?]⟩
  rw [Manifest.load, Layout.manifestPath, h.readText_missing hfiles isName_manifest]
  simp [fileAt?, hempty]

/-! ### Looking results up -/

variable {c : Cache} {key : Key}

theorem isFile_of_load {type : String} {w : Json} (h : load { layout := l } s type = .ok w) :
    s.isFile (l.resultsPath type) = true := by
  rw [load_eq] at h
  split at h
  · cases h
  · rename_i text htext
    exact isFile_of_readText htext

/-- **The manifest matches a key exactly when the last run of its type was made from it.** -/
theorem Kept.matchesManifest_iff (h : Kept c.layout s D runs) :
    c.matchesManifest s key = true ↔ ∃ v, last? runs key.type = some (key, v) := by
  obtain ⟨m, hm, -, hrecorded⟩ := h.manifest
  have hrecorded := hrecorded key.type
  rw [Manifest.recorded?] at hrecorded
  rw [matchesManifest, hm, Bool.and_eq_true]
  cases he : m.entry? key.type with
  | none =>
    rw [he] at hrecorded
    have hnone := Option.map_eq_none_iff.1 hrecorded.symm
    simp [he, hnone]
  | some e =>
    rw [he] at hrecorded
    obtain ⟨⟨key', v⟩, hr, hpair⟩ := Option.map_eq_some_iff.1 hrecorded.symm
    obtain ⟨-, htype⟩ := type_of_last? hr
    obtain ⟨w, hw, -⟩ := h.results _ _ hr
    obtain ⟨hfirmware, hscript⟩ := Prod.mk.inj hpair
    -- The types are the same, so the keys are when the fingerprints are.
    have hkey : key' = key ↔ e.firmware = key.firmware ∧ e.script = key.script := by
      rw [← hfirmware, ← hscript]
      constructor
      · rintro rfl
        exact ⟨rfl, rfl⟩
      · rintro ⟨hf, hs⟩
        cases key
        cases key'
        simp_all
    simp [isFile_of_load hw, he, hkey, hr]

/-- **Results are found in store when the last run of their type was made from the key**, and they
come back as they were stored. -/
theorem Kept.stored? (h : Kept c.layout s D runs) {v : Json}
    (hv : last? runs key.type = some (key, v)) :
    ∃ w, c.stored? s key = some w ∧ ComesBack v w := by
  obtain ⟨w, hw, hback⟩ := h.results _ _ hv
  have hw : c.load s key.type = .ok w := hw
  exact ⟨w, by rw [Cache.stored?, if_pos (h.matchesManifest_iff.2 ⟨v, hv⟩), hw]; rfl, hback⟩

/-- Results that are found in store are those of the last run of their type. -/
theorem Kept.last?_of_stored? (h : Kept c.layout s D runs) {w : Json}
    (hw : c.stored? s key = some w) : ∃ v, last? runs key.type = some (key, v) ∧ ComesBack v w := by
  have hmatches : c.matchesManifest s key = true := by
    rw [Cache.stored?] at hw
    split at hw
    · assumption
    · cases hw
  obtain ⟨v, hv⟩ := h.matchesManifest_iff.1 hmatches
  obtain ⟨w', hw', hback⟩ := h.stored? hv
  rw [hw] at hw'
  cases hw'
  exact ⟨v, hv, hback⟩

/-! ### Storing results -/

/-- A results file holds the document of a table, so the results come back. -/
theorem load_of_readText {type : String} {results : Json} {members : List (String × Toml)}
    (hmembers : Toml.ofJson? results = some (.table members)) (hproper : results.Proper)
    (hback : Toml.ReadsBack members)
    (htext : s.readText (l.resultsPath type) = .ok (Toml.documentText members)) :
    ∃ w, load { layout := l } s type = .ok w ∧ ComesBack results w := by
  obtain ⟨read, hread, hsame⟩ := hback
  refine ⟨(Toml.table read).toJson, ?_, (Toml.table members).toJson, ?_, Toml.same_toJson hsame⟩
  · simp only [load_eq, htext, hread]
  · rw [← Toml.toJson_ofJson? hproper, hmembers]
    rfl

/-- A manifest that was written says what it was to say. -/
theorem Manifest.load_of_readText {m : Manifest} {path : Path} (h : m.entries.keys.Nodup)
    (htext : s.readText path = .ok m.text) :
    Manifest.load s path = .ok ⟨m.toList⟩ ∧ (Members.keys m.toList).Nodup ∧
      ∀ type, recorded? ⟨m.toList⟩ type = m.recorded? type := by
  refine ⟨?_, keys_toList_nodup h, fun type => ?_⟩
  · simp only [Manifest.load, htext, ofText?_text h]
  · rw [recorded?, recorded?, entry?_toList h]

/-- A manifest with one more entry says what the runs with one more run are made from. -/
theorem Manifest.recorded?_put {m : Manifest} (results : Json) (now : String)
    (h : ∀ type, m.recorded? type = (last? runs type).map fun r => (r.1.firmware, r.1.script))
    (type : String) :
    (m.put key.type ⟨key.firmware, key.script, now⟩).recorded? type =
      (last? ((key, results) :: runs) type).map fun r => (r.1.firmware, r.1.script) := by
  rw [last?_cons, recorded?, entry?, put, Members.get?_put]
  by_cases htype : key.type = type
  · simp [htype]
  · simpa [htype, recorded?, entry?] using h type

/-- **Storing the results of a run adds the run.** -/
theorem Kept.store {opened : Storage} (host : Host) (h : Kept c.layout opened D runs)
    (hdir : s.makeDirectories c.layout.resultsDir = .ok opened) (hplain : IsPlainType key.type)
    {results : Json} {members : List (String × Toml)}
    (hmembers : Toml.ofJson? results = some (.table members)) (hproper : results.Proper)
    (hback : Toml.ReadsBack members) :
    ∃ written recorded, exec (c.save key.type results) host s = (.ok (), written) ∧
      exec (c.record key) host written = (.ok (), recorded) ∧
      Kept c.layout recorded D ((key, results) :: runs) := by
  have hname := isName_toml hplain.slash
  obtain ⟨m, hm, hkeys, hrecorded⟩ := h.manifest
  -- the results file is written first, and the manifest is still what it was
  obtain ⟨written, hwrite, hopened, hfiles, hat⟩ :=
    h.opened.writeText_child h.files hname (Toml.documentText members)
  have hload : Manifest.load written c.layout.manifestPath = .ok m := by
    rw [← hm]
    refine Manifest.load_congr (h.opened.readText_congr h.files hopened hfiles isName_manifest ?_)
    rw [hat, if_neg (Ne.symm hplain.ne_manifest)]
  -- then the manifest with one more entry
  have hput : (m.put key.type ⟨key.firmware, key.script, host.now⟩).entries.keys.Nodup :=
    Members.keys_nodup_put hkeys _ _
  obtain ⟨recorded, hrecord, hopened', hfiles', hat'⟩ := hopened.writeText_child hfiles
    isName_manifest (m.put key.type ⟨key.firmware, key.script, host.now⟩).text
  obtain ⟨above, habove, hmake⟩ := hopened.makeDirectories_parent isName_manifest
  refine ⟨written, recorded, save_eq_ok_iff.2 ⟨members, opened, hmembers, hdir, hwrite⟩, ?_,
    hopened', hfiles', ?_, ?_, fun type r hr => ?_⟩
  · rw [exec_record hload]
    exact Manifest.exec_save habove hmake hrecord
  · exact List.forall_mem_cons.2 ⟨hplain, h.plain⟩
  · obtain ⟨hload', hkeys', hrecorded'⟩ := Manifest.load_of_readText hput
      (hopened'.readText_child hfiles' isName_manifest (by rw [hat', if_pos rfl]))
    exact ⟨_, hload', hkeys', fun type => (hrecorded' type).trans
      (Manifest.recorded?_put results host.now hrecorded type)⟩
  · rw [last?_cons] at hr
    split at hr
    · rename_i htype
      cases hr
      subst htype
      refine load_of_readText hmembers hproper hback
        (hopened'.readText_child hfiles' hname ?_)
      rw [hat', if_neg hplain.ne_manifest, hat, if_pos rfl]
    · rename_i htype
      obtain ⟨hmem, rfl⟩ := type_of_last? hr
      have hplain' := h.plain r hmem
      rw [load_congr (h.opened.readText_congr h.files hopened' hfiles'
        (isName_toml hplain'.slash) ?_)]
      · exact h.results _ r hr
      · rw [hat', if_neg hplain'.ne_manifest, hat, if_neg]
        exact fun heq => htype (append_toml_inj heq).symm

end FirmwareSurvey.Cache
