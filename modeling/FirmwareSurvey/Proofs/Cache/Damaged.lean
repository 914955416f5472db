import FirmwareSurvey.Proofs.Cache.Places
import Mathlib.Control.Monad.Basic

/-!
# Stored results that are damaged

Whatever the results file and the manifest hold, a call whose two places can be written gives
results if it needs no new ones, or if the manifest can be read: a damaged results file is written
anew, a damaged manifest is not (`analyze_ok_iff`). What such a call leaves behind is served to a
cache just opened exactly when the document of the new results reads back (`analyze_damaged`).
-/

namespace FirmwareSurvey.Cache

open OnHost Storage

variable {c known fresh : Cache} {host host' : Host} {s s' made opened : Storage} {type : String}
  {image : Path} {run : Runner} {script : Script} {key : Key} {members : List (String × Json)}
  {a b : Location} {w : Json}

/-! ### Results that are served -/

/-- Whether a call gives results without asking what makes them, and changes nothing. -/
def Serves (c : Cache) (host : Host) (s : Storage) (type : String) (image : Path) : Prop :=
  ∃ w c', ∀ run, exec (c.analyze type image run) host s = (.ok (w, c'), s)

/-- **Results are served** when they are known or stored. -/
theorem serves_iff (hkey : c.keyOf host s type image = .ok key) :
    c.Serves host s type image ↔
      (c.known? key).isSome = true ∨ (c.stored? s key).isSome = true := by
  obtain ⟨script, -, hfind⟩ := find_of_keyOf hkey
  rw [Serves]
  simp only [exec_analyze, hfind, findBy]
  cases hknown : c.known? key with
  | some w => simp
  | none =>
    cases hstored : c.stored? s key with
    | some w => simp
    | none =>
      refine iff_of_false ?_ (by simp)
      rintro ⟨w, c', hrun⟩
      have hno := hrun fun _ _ _ => throw (.parse image)
      cases hno

theorem stored?_congr (h : fresh.layout = c.layout) : fresh.stored? s key = c.stored? s key := by
  rw [stored?_eq, stored?_eq, h]

/-! ### New results -/

/-- New results that are given out were stored and recorded. -/
theorem exists_of_renew {results : Json}
    (hmade : exec (run key.type script image) host s = (.ok results, made))
    (h : exec (c.renew image run script key) host s = (.ok (w, known), s')) :
    ∃ written, exec (c.save key.type results) host made = (.ok (), written) ∧
      exec (c.record key) host written = (.ok (), s') := by
  rw [renew, exec_bind_ok hmade] at h
  obtain ⟨_, written, hsave, h⟩ := exists_of_exec_bind h
  obtain ⟨_, recorded, hrecord, h⟩ := exists_of_exec_bind h
  cases h
  exact ⟨written, hsave, hrecord⟩

/-- **A call gives results** when it needs no new ones, or the manifest can be read. What the
results file holds does not matter. -/
theorem analyze_ok_iff (hkey : c.keyOf host s type image = .ok key)
    (hscript : c.scriptOf host s type = .ok script)
    (hmade : exec (run key.type script image) host s = (.ok (.obj members), made))
    (hplaces : Places c.layout made opened key.type a b) :
    (∃ w known s', exec (c.analyze type image run) host s = (.ok (w, known), s')) ↔
      (c.known? key).isSome = true ∨ (c.stored? s key).isSome = true ∨
        ∃ m, Manifest.load opened c.layout.manifestPath = .ok m := by
  obtain ⟨script', hscript', hfind⟩ := find_of_keyOf hkey
  cases hscript.symm.trans hscript'
  simp only [exec_analyze, hfind, findBy]
  cases hknown : c.known? key with
  | some w => simp
  | none =>
    cases hstored : c.stored? s key with
    | some w => simp
    | none =>
      simp only [Option.isSome_none, Bool.false_eq_true, false_or]
      constructor
      · rintro ⟨w, known, s', hrenew⟩
        obtain ⟨written, hsave, hrecord⟩ := exists_of_renew hmade hrenew
        exact hplaces.exists_load hsave hrecord
      · rintro ⟨m, hm⟩
        obtain ⟨written, recorded, hsave, hrecord, -⟩ := hplaces.store hm members host
        exact ⟨_, _, _, exec_renew hmade hsave hrecord⟩

/-- **A call with damaged results in store** gives results exactly when it needs no new ones, or the
manifest can be read. A cache that is opened afterwards on the same inputs is served exactly when
the results were stored before, or new ones were made whose document reads back. -/
theorem analyze_damaged (hkey : c.keyOf host s type image = .ok key)
    (hscript : c.scriptOf host s type = .ok script)
    (hmade : exec (run key.type script image) host s = (.ok (.obj members), made))
    (hplaces : Places c.layout made opened key.type a b) :
    ((∃ w known s', exec (c.analyze type image run) host s = (.ok (w, known), s')) ↔
      (c.known? key).isSome = true ∨ (c.stored? s key).isSome = true ∨
        ∃ m, Manifest.load opened c.layout.manifestPath = .ok m) ∧
    ∀ w known s', exec (c.analyze type image run) host s = (.ok (w, known), s') →
      ∀ (fresh : Cache) (host' : Host), fresh.layout = c.layout → fresh.memory = [] →
        fresh.keyOf host' s' type image = .ok key →
          (fresh.Serves host' s' type image ↔ (c.stored? s key).isSome = true ∨
            c.known? key = none ∧
              (Toml.parse? (Toml.documentText (Toml.ofJsonMembers members))).isSome = true) := by
  refine ⟨analyze_ok_iff hkey hscript hmade hplaces, ?_⟩
  intro w known s' hok fresh host' hlayout hmemory hkey'
  have hnone : fresh.known? key = none := by simp [known?, hmemory]
  rw [serves_iff hkey', hnone, stored?_congr hlayout]
  simp only [Option.isSome_none, Bool.false_eq_true, false_or]
  obtain ⟨script', hscript', hfind⟩ := find_of_keyOf hkey
  cases hscript.symm.trans hscript'
  rw [exec_analyze, hfind, findBy] at hok
  cases hknown : c.known? key with
  | some v =>
    simp only [hknown] at hok
    cases hok
    simp
  | none =>
    cases hstored : c.stored? s key with
    | some v =>
      simp only [hknown, hstored] at hok
      cases hok
      simp [hstored]
    | none =>
      simp only [hknown, hstored] at hok
      obtain ⟨written, hsave, hrecord⟩ := exists_of_renew hmade hok
      obtain ⟨m, hm⟩ := hplaces.exists_load hsave hrecord
      -- the same two writes are those of storing
      obtain ⟨written', recorded, hsave', hrecord', hwrites⟩ := hplaces.store hm members host
      cases hsave.symm.trans hsave'
      cases hrecord.symm.trans hrecord'
      rw [hwrites.stored?_eq hplaces (Manifest.keys_nodup_of_load hm)]
      simp

/-! ### A damaged file at each place -/

/-- The key of the image and the program below. -/
def secondKey : Key := ⟨"rootfs", "16367aacb67a4a01", "1310ca2c8932dbd1"⟩

/-- An image, a program, and a results file that cannot be read. -/
def spoiled : Storage where
  nodes := [(["image"], textFile "second"), (["fwprobe"], textFile "program"),
    (["results"], .directory newDirectoryMode), (["results", "rootfs.toml"], textFile "?")]

/-- A results file that cannot be read is written anew, and served from then on. -/
theorem analyze_damaged_spoiled :
    ∃ w known s', exec (plainCache.analyze "rootfs" ⟨"image"⟩ secondBuild) bareHost spoiled =
        (.ok (w, known), s') ∧
      plainCache.Serves bareHost s' "rootfs" ⟨"image"⟩ := by
  have hkey : plainCache.keyOf bareHost spoiled "rootfs" ⟨"image"⟩ = .ok secondKey := by
    decide +kernel
  have hscript : plainCache.scriptOf bareHost spoiled "rootfs" = .ok ⟨⟨"fwprobe"⟩, .program⟩ := by
    decide +kernel
  have hplaces : Places plainCache.layout spoiled spoiled secondKey.type ["results", "rootfs.toml"]
      ["results", ".manifest.toml"] :=
    ⟨by decide +kernel, by decide +kernel, by decide +kernel, by decide⟩
  have hread : Manifest.load spoiled plainCache.layout.manifestPath = .ok {} := rfl
  have hmade : exec (secondBuild secondKey.type ⟨⟨"fwprobe"⟩, .program⟩ ⟨"image"⟩) bareHost
      spoiled = (.ok (.obj [("build", .int 2)]), spoiled) := rfl
  obtain ⟨hok, hserved⟩ := analyze_damaged hkey hscript hmade hplaces
  obtain ⟨w, known, s', hcall⟩ := hok.2 (.inr (.inr ⟨_, hread⟩))
  have hkey' : plainCache.keyOf bareHost
      (exec (plainCache.analyze "rootfs" ⟨"image"⟩ secondBuild) bareHost spoiled).2 "rootfs"
      ⟨"image"⟩ = .ok secondKey := by
    decide +kernel
  rw [hcall] at hkey'
  refine ⟨w, known, s', hcall, (hserved w known s' hcall plainCache bareHost rfl rfl hkey').2 ?_⟩
  exact .inr ⟨by decide, by decide +kernel⟩

/-- **A manifest that cannot be read stands in the way** of a call whose script is found, whose
files have fingerprints, whose new results are a table, and whose two places can be written. -/
theorem analyze_fails_unreadable :
    plainCache.keyOf bareHost unreadable "rootfs" ⟨"image"⟩ = .ok secondKey ∧
      (∀ script, exec (secondBuild "rootfs" script ⟨"image"⟩) bareHost unreadable =
        (.ok (.obj [("build", .int 2)]), unreadable)) ∧
      Places plainCache.layout unreadable unreadable "rootfs" ["results", "rootfs.toml"]
        ["results", ".manifest.toml"] ∧
      (exec (plainCache.analyze "rootfs" ⟨"image"⟩ secondBuild) bareHost unreadable).1.map
        (fun _ => ()) = .error (.parse plainCache.layout.manifestPath) := by
  refine ⟨by decide +kernel, fun _ => rfl,
    ⟨by decide +kernel, by decide +kernel, by decide +kernel, by decide⟩, by decide +kernel⟩

end FirmwareSurvey.Cache
