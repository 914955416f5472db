import FirmwareSurvey.Proofs.Cache.Failure
import FirmwareSurvey.Proofs.Cache.Kept

/-!
# Calls one after another

What caches of one results directory do to it, from a directory that is vacant on: calls for results
that store them, caches that are opened anew with nothing in memory, and changes of storage in
between that leave the directory alone. A history remembers the runs whose results were stored. Its
invariant ties the three places where results lie to these runs: what is in memory is what a run
made, or what came back of it, and the directory keeps the last run of each type (`Sound`). So every
result that is given out goes back to a run made from the same fingerprints (`analyze_reached`).
-/

namespace FirmwareSurvey.Cache

open OnHost Storage

/-- A cache, its storage, and the runs whose results were stored so far, the last ones first. -/
structure History where
  /-- The cache in use. -/
  cache : Cache
  /-- Storage. -/
  storage : Storage
  /-- The runs whose results were stored. -/
  runs : List Run := []

/-- The run that a call adds: the answer of what makes results, if it is asked and makes a table. -/
def newRuns (c : Cache) (host : Host) (s : Storage) (type : String) (image : Path)
    (run : Runner) : List Run :=
  match c.find host s type image with
  | .ok (.nothing script key) =>
    match (exec (run key.type script image) host s).1 with
    | .ok results => if results.isObject then [(key, results)] else []
    | .error _ => []
  | _ => []

/-- A history after a call. -/
def History.call (h : History) (host : Host) (type : String) (image : Path) (run : Runner) :
    History :=
  let r := exec (h.cache.analyze type image run) host h.storage
  { cache := match r.1 with
      | .ok (_, c) => c
      | .error _ => h.cache
    storage := r.2
    runs := h.cache.newRuns host h.storage type image run ++ h.runs }

/-- Whether a value can be stored: it is proper, and as TOML it reads back. -/
def IsStorable (v : Json) : Prop :=
  v.Proper ∧ ∀ members, Toml.ofJson? v = some (.table members) → Toml.ReadsBack members

/-- **A proper object can be stored exactly when the lines of its document fit.** -/
theorem isStorable_iff {members : List (String × Json)} (h : (Json.obj members).Proper) :
    IsStorable (.obj members) ↔
      (Toml.documentSteps (Toml.ofJsonMembers members)).all Toml.Line.fits = true := by
  obtain ⟨hkeys, hmembers⟩ : (Toml.table _).Proper := Toml.proper_ofJson? h rfl
  rw [← Toml.readsBack_iff hkeys hmembers]
  refine ⟨fun hstorable => hstorable.2 _ rfl, fun hback => ⟨h, ?_⟩⟩
  rintro _ ⟨⟩
  exact hback

/-- Whether a call may be part of a history: its type has a file of its own, what makes results
leaves the results directory alone, and what it makes can be stored. -/
structure IsFair (c : Cache) (host : Host) (s : Storage) (type : String) (image : Path)
    (run : Runner) : Prop where
  /-- The type has a file of its own. -/
  plain : IsPlainType (TypeName.normal type)
  /-- The results directory is left alone. -/
  untouched : ∀ script, c.scriptOf host s type = .ok script →
    Untouched c.layout.resultsDir s (exec (run (TypeName.normal type) script image) host s).2
  /-- What is made can be stored. -/
  answers : ∀ script results, c.scriptOf host s type = .ok script →
    (exec (run (TypeName.normal type) script image) host s).1 = .ok results → IsStorable results

/-- The histories of a results directory that is vacant at first and that only caches change. -/
inductive Reached (d : Path) : History → Prop
  /-- Nothing is in memory, and there is no results directory. -/
  | start {c : Cache} {s : Storage} : c.layout.resultsDir = d → c.memory = [] → s.Vacant d →
      Reached d { cache := c, storage := s }
  /-- Storage changes elsewhere. -/
  | change {h : History} {s : Storage} : Reached d h → Untouched d h.storage s →
      Reached d { h with storage := s }
  /-- Another cache is opened. -/
  | reopen {h : History} {c : Cache} : Reached d h → c.layout.resultsDir = d → c.memory = [] →
      Reached d { h with cache := c }
  /-- Results are asked for. -/
  | call {h : History} {host : Host} {type : String} {image : Path} {run : Runner} : Reached d h →
      h.cache.IsFair host h.storage type image run → Reached d (h.call host type image run)

/-! ### The invariant -/

/-- Whether a value is what a run made, or what comes back of it. -/
def GivenBy (v w : Json) : Prop := w = v ∨ ComesBack v w

/-- Whether what is in memory and in store goes back to the runs. -/
structure Sound (d : Path) (h : History) : Prop where
  /-- The cache is one of the results directory. -/
  layout : h.cache.layout.resultsDir = d
  /-- What is in memory was given by a run. -/
  memory : ∀ m ∈ h.cache.memory, ∃ v, (m.1, v) ∈ h.runs ∧ GivenBy v m.2
  /-- The directory is vacant, or it keeps the runs. -/
  directory : h.storage.Vacant d ∧ h.runs = [] ∨ ∃ D, Kept h.cache.layout h.storage D h.runs

variable {d : Path} {h : History} {host : Host} {type : String} {image : Path} {run : Runner}
  {key : Key}

theorem mem_of_known? {c : Cache} {w : Json} (h : c.known? key = some w) : (key, w) ∈ c.memory := by
  rw [known?] at h
  obtain ⟨m, hm, rfl⟩ := Option.map_eq_some_iff.1 h
  have hkey : m.1 = key := by simpa using List.find?_some hm
  rw [← hkey]
  exact List.mem_of_find?_eq_some hm

/-- Nothing is found in a vacant directory. -/
theorem stored?_of_vacant {c : Cache} {s : Storage} (h : s.Vacant c.layout.resultsDir)
    (hplain : IsPlainType key.type) : c.stored? s key = none := by
  have hfile : s.isFile (c.layout.resultsPath key.type) = false :=
    h.files _ (isName_toml hplain.slash)
  simp [stored?, matchesManifest, hfile]

/-- What is found in store was given by the last run of its type. -/
theorem Sound.stored? (hs : Sound d h) (hplain : IsPlainType key.type) {w : Json}
    (hw : h.cache.stored? h.storage key = some w) :
    ∃ v, last? h.runs key.type = some (key, v) ∧ ComesBack v w := by
  rcases hs.directory with ⟨hvacant, -⟩ | ⟨D, hkept⟩
  · rw [← hs.layout] at hvacant
    rw [stored?_of_vacant hvacant hplain] at hw
    cases hw
  · exact hkept.last?_of_stored? hw

/-- New results of a sound history are stored. -/
theorem Sound.renew (hs : Sound d h) (hplain : IsPlainType key.type) {script : Script}
    {members : List (String × Json)} {made : Storage}
    (hmade : exec (run key.type script image) host h.storage = (.ok (.obj members), made))
    (hun : Untouched d h.storage made) (hstorable : IsStorable (.obj members)) :
    ∃ D s, exec (h.cache.renew image run script key) host h.storage =
        (.ok (.obj members, h.cache.remember key (.obj members)), s) ∧
      Kept h.cache.layout s D ((key, .obj members) :: h.runs) := by
  obtain rfl := hs.layout
  obtain ⟨hproper, hback⟩ := hstorable
  have hopened : ∃ D opened, made.makeDirectories h.cache.layout.resultsDir = .ok opened ∧
      Kept h.cache.layout opened D h.runs := by
    rcases hs.directory with ⟨hvacant, hruns⟩ | ⟨D, hkept⟩
    · obtain ⟨opened, D, hdir, hopens, hempty⟩ := (hun.vacant hvacant).makes
      exact ⟨D, opened, hdir, hruns ▸ kept_nil hopens hempty⟩
    · have hkept := hkept.untouched hun
      exact ⟨D, made, hkept.opened.makeDirectories, hkept⟩
  obtain ⟨D, opened, hdir, hkept⟩ := hopened
  obtain ⟨written, recorded, hsave, hrecord, hstored⟩ :=
    hkept.store host hdir hplain rfl hproper (hback _ rfl)
  exact ⟨D, recorded, exec_renew hmade hsave hrecord, hstored⟩

/-- Results that are no table are not stored. -/
theorem exec_renew_of_not_object (c : Cache) {s made : Storage} {script : Script} {results : Json}
    (hmade : exec (run key.type script image) host s = (.ok results, made))
    (hresults : results.isObject = false) :
    exec (c.renew image run script key) host s = (.error (.notATable key.type), made) := by
  rw [renew, exec_bind_ok hmade,
    exec_bind_error (exec_save_of_not_object c key.type hresults)]

/-- A history in which storage has changed elsewhere stays sound. -/
theorem Sound.change (hs : Sound d h) {s : Storage} (hun : Untouched d h.storage s) :
    Sound d { h with storage := s } := by
  obtain rfl := hs.layout
  refine ⟨rfl, hs.memory, ?_⟩
  rcases hs.directory with ⟨hvacant, hruns⟩ | ⟨D, hkept⟩
  · exact Or.inl ⟨hun.vacant hvacant, hruns⟩
  · exact Or.inr ⟨D, hkept.untouched hun⟩

/-- A history in which another cache is opened stays sound. -/
theorem Sound.reopen (hs : Sound d h) {c : Cache} (hlayout : c.layout.resultsDir = d)
    (hmemory : c.memory = []) : Sound d { h with cache := c } :=
  ⟨hlayout, by simp [hmemory], hs.directory.imp_right fun ⟨D, hkept⟩ =>
    ⟨D, hkept.congr (hlayout.trans hs.layout.symm)⟩⟩

/-- A history in which something is kept in memory stays sound when a run has given it. -/
theorem Sound.remember (hs : Sound d h) {v w : Json} (hv : (key, v) ∈ h.runs) (hw : GivenBy v w) :
    Sound d { h with cache := h.cache.remember key w } :=
  ⟨hs.layout, List.forall_mem_cons.2 ⟨⟨v, hv, hw⟩, hs.memory⟩, hs.directory⟩

/-- A history in which results are stored stays sound: they are in memory as the run made them, and
the directory keeps the run before all others. -/
theorem Sound.record (hs : Sound d h) {v : Json} {s : Storage} {D : Location}
    (hkept : Kept h.cache.layout s D ((key, v) :: h.runs)) :
    Sound d { cache := h.cache.remember key v, storage := s, runs := (key, v) :: h.runs } := by
  refine ⟨hs.layout, List.forall_mem_cons.2 ⟨?_, fun m hm => ?_⟩, Or.inr ⟨D, hkept⟩⟩
  · exact ⟨v, List.mem_cons_self, Or.inl rfl⟩
  · obtain ⟨u, hu, hgiven⟩ := hs.memory m hm
    exact ⟨u, List.mem_cons_of_mem _ hu, hgiven⟩

/-- **A call keeps a history sound.** -/
theorem Sound.call (hs : Sound d h) (hfair : h.cache.IsFair host h.storage type image run) :
    Sound d (h.call host type image run) := by
  obtain rfl := hs.layout
  cases hkey : h.cache.keyOf host h.storage type image with
  | error e =>
    simpa [History.call, exec_analyze, newRuns, find_of_keyOf_error hkey] using hs
  | ok key =>
    obtain ⟨script, hscript, hfind⟩ := find_of_keyOf hkey
    have htype := type_of_keyOf hkey
    have hplain : IsPlainType key.type := htype ▸ hfair.plain
    rw [findBy] at hfind
    -- What is asked for is in memory, in store, or has to be made; only what is made adds a run.
    split at hfind
    · simpa [History.call, exec_analyze, newRuns, hfind] using hs
    · rename_i w _ hw
      obtain ⟨v, hv, hback⟩ := hs.stored? hplain hw
      simpa [History.call, exec_analyze, newRuns, hfind] using
        hs.remember (type_of_last? hv).1 (Or.inr hback)
    · have hun := hfair.untouched script hscript
      have hanswer := fun results => hfair.answers script results hscript
      rw [← htype] at hun hanswer
      rcases hmade : exec (run key.type script image) host h.storage with ⟨e | results, made⟩
      · rw [hmade] at hun
        simpa [History.call, exec_analyze, newRuns, hfind, hmade, exec_renew_error hmade] using
          hs.change hun
      · rw [hmade] at hun hanswer
        cases hobject : results.isObject with
        | false =>
          have hrenew := exec_renew_of_not_object h.cache hmade hobject
          simpa [History.call, exec_analyze, newRuns, hfind, hmade, hrenew, hobject] using
            hs.change hun
        | true =>
          obtain ⟨members, rfl⟩ := exists_of_isObject hobject
          obtain ⟨D, s, hrenew, hkept⟩ := hs.renew hplain hmade hun (hanswer _ rfl)
          simpa [History.call, exec_analyze, newRuns, hfind, hmade, hrenew, Json.isObject] using
            hs.record hkept

/-- **Every history is sound.** -/
theorem Reached.sound (hr : Reached d h) : Sound d h := by
  induction hr with
  | start hlayout hmemory hvacant => exact ⟨hlayout, by simp [hmemory], Or.inl ⟨hvacant, rfl⟩⟩
  | change _ hun ih => exact ih.change hun
  | reopen _ hlayout hmemory ih => exact ih.reopen hlayout hmemory
  | call _ hfair ih => exact ih.call hfair

/-- **Results go back to a run made from the same fingerprints**: what is given out is what such a
run made, or what comes back of it. What makes results is not asked when the last run of the type
was made from the fingerprints of now. -/
theorem analyze_reached (hr : Reached d h) (hplain : IsPlainType (TypeName.normal type)) :
    (∀ run w c s, exec (h.cache.analyze type image run) host h.storage = (.ok (w, c), s) →
      ∃ key v, h.cache.keyOf host h.storage type image = .ok key ∧
        (key, v) ∈ (h.call host type image run).runs ∧ GivenBy v w) ∧
    ∀ key v, h.cache.keyOf host h.storage type image = .ok key →
      last? h.runs (TypeName.normal type) = some (key, v) →
        ∃ w c, ∀ run, exec (h.cache.analyze type image run) host h.storage =
          (.ok (w, c), h.storage) := by
  have hs := hr.sound
  refine ⟨fun run w c s hok => ?_, fun key v hkey hlast => ?_⟩
  · cases hkey : h.cache.keyOf host h.storage type image with
    | error e =>
      rw [exec_analyze, find_of_keyOf_error hkey] at hok
      cases hok
    | ok key =>
      obtain ⟨script, -, hfind⟩ := find_of_keyOf hkey
      have hplain : IsPlainType key.type := type_of_keyOf hkey ▸ hplain
      rw [exec_analyze] at hok
      refine ⟨key, ?_⟩
      rw [findBy] at hfind
      split at hfind
      · rename_i w' _ hw
        rw [hfind] at hok
        cases hok
        obtain ⟨v, hv, hgiven⟩ := hs.memory _ (mem_of_known? hw)
        exact ⟨v, rfl, List.mem_append_right _ hv, hgiven⟩
      · rename_i w' _ hw
        rw [hfind] at hok
        cases hok
        obtain ⟨v, hv, hback⟩ := hs.stored? hplain hw
        exact ⟨v, rfl, List.mem_append_right _ (type_of_last? hv).1, Or.inr hback⟩
      · rw [hfind] at hok
        dsimp only at hok
        rcases hmade : exec (run key.type script image) host h.storage with ⟨e | results, made⟩
        · rw [exec_renew_error hmade] at hok
          cases hok
        · cases hobject : results.isObject with
          | false =>
            rw [exec_renew_of_not_object h.cache hmade hobject] at hok
            cases hok
          | true =>
            refine ⟨results, rfl, List.mem_append_left _ ?_, Or.inl ((eq_of_renew hmade hok).1)⟩
            simp [newRuns, hfind, hmade, hobject]
  · obtain ⟨script, -, hfind⟩ := find_of_keyOf hkey
    rw [← type_of_keyOf hkey] at hlast
    rw [findBy] at hfind
    cases hknown : h.cache.known? key with
    | some w => exact ⟨w, h.cache, fun run => by simp [exec_analyze, hfind, hknown]⟩
    | none =>
      have hstored : ∃ w, h.cache.stored? h.storage key = some w := by
        rcases hs.directory with ⟨-, hruns⟩ | ⟨D, hkept⟩
        · simp [hruns, last?] at hlast
        · obtain ⟨w, hw, -⟩ := hkept.stored? hlast
          exact ⟨w, hw⟩
      obtain ⟨w, hw⟩ := hstored
      exact ⟨w, h.cache.remember key w, fun run => by simp [exec_analyze, hfind, hknown, hw]⟩

/-! ### Two caches of one directory -/

/-- An image and a program, and no results directory. -/
def unsurveyed : Storage where
  nodes := [(["image"], textFile "second"), (["fwprobe"], textFile "program")]

theorem isTree_unsurveyed : unsurveyed.IsTree :=
  isTree_of_nodes (by simp [unsurveyed])

theorem vacant_unsurveyed : unsurveyed.Vacant plainCache.layout.resultsDir :=
  vacant_of_freeAt? isTree_unsurveyed (by decide +kernel)

/-- A history of one call that has results made. -/
def firstCall : History :=
  History.call { cache := plainCache, storage := unsurveyed } bareHost "rootfs" ⟨"image"⟩ secondBuild

theorem reached_firstCall : Reached plainCache.layout.resultsDir firstCall := by
  refine .call (.start rfl rfl vacant_unsurveyed)
    ⟨⟨by decide +kernel, by decide +kernel⟩, fun _ _ => .refl _ _, ?_⟩
  rintro _ _ - ⟨⟩
  exact (isStorable_iff (by simp [Json.Proper, Json.ProperMembers, Json.IsWord])).2
    (by decide +kernel)

/-- A second cache has nothing made again. -/
theorem secondCache_takes_stored :
    ∃ w c, ∀ run, exec (plainCache.analyze "rootfs" ⟨"image"⟩ run) bareHost firstCall.storage =
      (.ok (w, c), firstCall.storage) := by
  have hr : Reached plainCache.layout.resultsDir { firstCall with cache := plainCache } :=
    reached_firstCall.reopen rfl rfl
  have hplain : IsPlainType (TypeName.normal "rootfs") := ⟨by decide +kernel, by decide +kernel⟩
  have hkey : (plainCache.keyOf bareHost firstCall.storage "rootfs" ⟨"image"⟩).toOption =
      some ⟨"rootfs", "16367aacb67a4a01", "1310ca2c8932dbd1"⟩ := by
    decide +kernel
  have hlast : last? firstCall.runs (TypeName.normal "rootfs") = some
      (⟨"rootfs", "16367aacb67a4a01", "1310ca2c8932dbd1"⟩, .obj [("build", .int 2)]) := by
    decide +kernel
  cases h : plainCache.keyOf bareHost firstCall.storage "rootfs" ⟨"image"⟩ with
  | error e =>
    rw [h] at hkey
    cases hkey
  | ok key =>
    rw [h] at hkey
    cases hkey
    generalize firstCall = f at hr hlast h ⊢
    exact (analyze_reached hr hplain).2 _ _ h hlast

end FirmwareSurvey.Cache
