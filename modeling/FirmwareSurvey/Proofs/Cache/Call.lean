import FirmwareSurvey.Cache.Basic
import FirmwareSurvey.Proofs.Host.Exec
import FirmwareSurvey.Proofs.Storage.Nodes

/-!
# The shape of a call

A call for results has two parts. It first looks, without changing anything, for what makes the
results, for what they would be made from, and for results that are known or stored (`find`). Only
if there are none it has them made, stores them and records what they were made from (`renew`).
-/

namespace FirmwareSurvey.Cache

open OnHost

variable {c : Cache} {host : Host} {s s' : Storage}

/-! ### Looking -/

/-- What makes the results of a type, as things are. -/
def scriptOf (c : Cache) (host : Host) (s : Storage) (type : String) : Except Error Script :=
  (exec (c.locator.locate (TypeName.normal type)) host s).1

/-- The key of a type, an image and a script, as things are. -/
def keyIn (s : Storage) (type : String) (image script : Path) : Except Error Key := do
  let firmware ← (fingerprint s image).mapError (Error.fingerprint image)
  let script ← (fingerprint s script).mapError (Error.fingerprint script)
  return ⟨type, firmware, script⟩

/-- What the results of a type for an image are made from, as things are. -/
def keyOf (c : Cache) (host : Host) (s : Storage) (type : String) (image : Path) :
    Except Error Key := do
  let script ← c.scriptOf host s type
  keyIn s (TypeName.normal type) image script.path

/-- What a call finds before it asks for new results. -/
inductive Found where
  /-- Results, and the cache that knows them from now on. -/
  | results (results : Json) (cache : Cache)
  /-- No results. -/
  | nothing (script : Script) (key : Key)

/-- What is known or stored of a key, else nothing. -/
def findBy (c : Cache) (s : Storage) (script : Script) (key : Key) : Found :=
  match c.known? key, c.stored? s key with
  | some results, _ => .results results c
  | none, some results => .results results (c.remember key results)
  | none, none => .nothing script key

/-- What a call finds before it asks for new results. -/
def find (c : Cache) (host : Host) (s : Storage) (type : String) (image : Path) :
    Except Error Found := do
  let script ← c.scriptOf host s type
  let key ← c.keyOf host s type image
  return c.findBy s script key

/-! ### New results -/

/-- Has results made, stores them and records what they were made from. -/
def renew (c : Cache) (image : Path) (run : Runner) (script : Script) (key : Key) :
    OnHost Error (Json × Cache) := do
  let results ← run key.type script image
  c.save key.type results
  c.record key
  return (results, c.remember key results)

/-- Looking for a script changes nothing. -/
theorem exec_locate (c : Cache) (type : String) :
    exec (c.locator.locate (TypeName.normal type)) host s = (c.scriptOf host s type, s) := by
  have hsame : (exec (c.locator.locate (TypeName.normal type)) host s).2 = s := by
    rw [Locator.locate, exec_bind_ok (exec_get host s), exec_bind_ok (exec_read host s)]
    split <;> rfl
  exact Prod.ext rfl hsame

/-- Taking fingerprints changes nothing. -/
theorem exec_key (type : String) (image script : Path) :
    exec (key type image script) host s = (keyIn s type image script, s) := by
  rw [key, keyIn, exec_bind, exec_tryLook]
  cases (fingerprint s image).mapError (Error.fingerprint image) with
  | error e => rfl
  | ok firmware =>
    dsimp only
    rw [exec_bind, exec_tryLook]
    cases (fingerprint s script).mapError (Error.fingerprint script) <;> rfl

/-- What is given is given part by part. -/
theorem exists_of_bind_ok {ε α β : Type} {x : Except ε α} {f : α → Except ε β} {b : β}
    (h : x >>= f = .ok b) : ∃ a, x = .ok a ∧ f a = .ok b := by
  cases x with
  | error e => cases h
  | ok a => exact ⟨a, rfl, h⟩

/-- A key is a type with the fingerprints of two files. -/
theorem keyIn_eq_ok_iff {type : String} {image script : Path} {key : Key} :
    keyIn s type image script = .ok key ↔
      key.type = type ∧ fingerprint s image = .ok key.firmware ∧
        fingerprint s script = .ok key.script := by
  obtain ⟨type', firmware', hash'⟩ := key
  rw [keyIn]
  cases fingerprint s image with
  | error e => exact iff_of_false nofun (by simp)
  | ok firmware =>
    cases fingerprint s script with
    | error e => exact iff_of_false nofun (by simp)
    | ok hash =>
      constructor
      · rintro ⟨⟩
        exact ⟨rfl, rfl, rfl⟩
      · rintro ⟨rfl, ⟨⟩, ⟨⟩⟩
        rfl

theorem type_of_keyIn {type : String} {image script : Path} {key : Key}
    (h : keyIn s type image script = .ok key) : key.type = type := (keyIn_eq_ok_iff.1 h).1

/-- **A call looks first, and has results made only if it finds none.** -/
theorem exec_analyze (c : Cache) (type : String) (image : Path) (run : Runner) :
    exec (c.analyze type image run) host s =
      match c.find host s type image with
      | .error e => (.error e, s)
      | .ok (.results results c) => (.ok (results, c), s)
      | .ok (.nothing script key) => exec (c.renew image run script key) host s := by
  rw [analyze, find, keyOf, exec_bind, exec_locate]
  cases c.scriptOf host s type with
  | error e => rfl
  | ok script =>
    dsimp only
    rw [exec_bind, exec_key]
    cases hkey : keyIn s (TypeName.normal type) image script.path with
    | error e =>
      simp only [bind, Except.bind, hkey]
    | ok key =>
      obtain ⟨type', firmware, hash⟩ := key
      obtain rfl : type' = TypeName.normal type := type_of_keyIn hkey
      simp only [bind, Except.bind, hkey, findBy]
      change exec (get >>= _) host s = _
      rw [exec_bind_ok (exec_get host s)]
      cases c.known? ⟨TypeName.normal type, firmware, hash⟩ with
      | some results => rfl
      | none => cases c.stored? s ⟨TypeName.normal type, firmware, hash⟩ <;> rfl

theorem find_of_keyOf_error {type : String} {image : Path} {e : Error}
    (h : c.keyOf host s type image = .error e) : c.find host s type image = .error e := by
  rw [find, h]
  cases hscript : c.scriptOf host s type with
  | error e' =>
    rw [keyOf, hscript] at h
    cases h
    rfl
  | ok script => rfl

/-- What a call finds is what is known or stored of the key of things as they are. -/
theorem find_of_keyOf {type : String} {image : Path} {key : Key}
    (h : c.keyOf host s type image = .ok key) :
    ∃ script, c.scriptOf host s type = .ok script ∧
      c.find host s type image = .ok (c.findBy s script key) := by
  obtain ⟨script, hscript, -⟩ := exists_of_bind_ok h
  refine ⟨script, hscript, ?_⟩
  rw [find, hscript, h]
  rfl

theorem type_of_keyOf {type : String} {image : Path} {key : Key}
    (h : c.keyOf host s type image = .ok key) : key.type = TypeName.normal type := by
  obtain ⟨script, -, hkey⟩ := exists_of_bind_ok h
  exact type_of_keyIn hkey

/-! ### Storing and recording -/

/-- **Results are stored as the document of a table**, in a directory that is made if it is
missing. -/
theorem save_eq_ok_iff {type : String} {results : Json} :
    exec (c.save type results) host s = (.ok (), s') ↔
      ∃ members opened, Toml.ofJson? results = some (.table members) ∧
        s.makeDirectories c.layout.resultsDir = .ok opened ∧
        opened.writeText (c.layout.resultsPath type) (Toml.documentText members) = .ok s' := by
  rw [save]
  split
  · rename_i members hmembers
    rw [exec_bind, exec_tryChange, hmembers]
    cases hdir : s.makeDirectories c.layout.resultsDir with
    | error cause => simp
    | ok opened =>
      dsimp only
      rw [exec_tryChange]
      cases hwrite : opened.writeText (c.layout.resultsPath type) (Toml.documentText members) with
      | error cause => simp [hwrite]
      | ok t => simp [hwrite]
  · rename_i hno
    simp only [exec_throw, Prod.mk.injEq, reduceCtorEq, false_and, false_iff, not_exists, not_and]
    exact fun members _ hmembers => absurd hmembers (hno members)

theorem exists_of_isObject {v : Json} (h : v.isObject = true) : ∃ members, v = .obj members := by
  cases v with
  | obj members => exact ⟨members, rfl⟩
  | _ => cases h

/-- **Results that are no table are refused** before anything is changed. -/
theorem exec_save_of_not_object (c : Cache) (type : String) {results : Json}
    (h : results.isObject = false) :
    exec (c.save type results) host s = (.error (.notATable type), s) := by
  rw [save]
  split
  · rename_i members hmembers
    cases results with
    | obj ms => cases h
    | int n => by_cases hn : n < 0x8000000000000000 <;> simp [Toml.ofJson?, hn] at hmembers
    | _ => simp [Toml.ofJson?] at hmembers
  · rfl

/-- Once a manifest is read, recording is saving it with one more entry. -/
theorem exec_record {key : Key} {m : Manifest}
    (h : Manifest.load s c.layout.manifestPath = .ok m) :
    exec (c.record key) host s =
      exec ((m.put key.type ⟨key.firmware, key.script, host.now⟩).save c.layout.manifestPath)
        host s := by
  rw [record, exec_bind, exec_tryLook, h]
  change exec (read >>= _) host s = _
  rw [exec_bind_ok (exec_read host s)]

/-- A manifest is written into the directory around its path, which is made. -/
theorem Manifest.exec_save {m : Manifest} {path above : Path} {opened : Storage}
    (habove : path.parent? = some above) (hdir : s.makeDirectories above = .ok opened)
    (hwrite : opened.writeText path m.text = .ok s') :
    exec (m.save path) host s = (.ok (), s') := by
  rw [Manifest.save]
  split
  · rename_i above' habove'
    cases habove.symm.trans habove'
    rw [exec_bind, exec_tryChange, hdir]
    dsimp only
    rw [exec_tryChange, hwrite]
  · rename_i habove'
    rw [habove] at habove'
    cases habove'

/-- New results are given out once they are made, stored and recorded. -/
theorem exec_renew {image : Path} {run : Runner} {script : Script} {key : Key} {results : Json}
    {made written recorded : Storage}
    (hmade : exec (run key.type script image) host s = (.ok results, made))
    (hsave : exec (c.save key.type results) host made = (.ok (), written))
    (hrecord : exec (c.record key) host written = (.ok (), recorded)) :
    exec (c.renew image run script key) host s =
      (.ok (results, c.remember key results), recorded) := by
  rw [renew, exec_bind_ok hmade, exec_bind_ok hsave, exec_bind_ok hrecord]
  rfl

/-- What is given out anew is what was made, and it is kept in memory. -/
theorem eq_of_renew {image : Path} {run : Runner} {script : Script} {key : Key}
    {results w : Json} {known : Cache} {made : Storage}
    (hmade : exec (run key.type script image) host s = (.ok results, made))
    (h : exec (c.renew image run script key) host s = (.ok (w, known), s')) :
    w = results ∧ known = c.remember key results := by
  rw [renew, exec_bind_ok hmade, exec_bind] at h
  rcases hsave : exec (c.save key.type results) host made with ⟨e | u, written⟩
  · rw [hsave] at h
    cases h
  · rw [hsave] at h
    dsimp only at h
    rw [exec_bind] at h
    rcases hrecord : exec (c.record key) host written with ⟨e | u, recorded⟩
    · rw [hrecord] at h
      cases h
    · rw [hrecord] at h
      cases h
      exact ⟨rfl, rfl⟩

theorem exec_renew_error {image : Path} {run : Runner} {script : Script} {key : Key} {made : Storage}
    {e : Error} (hmade : exec (run key.type script image) host s = (.error e, made)) :
    exec (c.renew image run script key) host s = (.error e, made) := by
  rw [renew, exec_bind_error hmade]

/-- What is given out anew was made by what makes results. -/
theorem exists_made_of_renew {image : Path} {run : Runner} {script : Script} {key : Key} {w : Json}
    {known : Cache} (h : exec (c.renew image run script key) host s = (.ok (w, known), s')) :
    ∃ made, exec (run key.type script image) host s = (.ok w, made) ∧
      known = c.remember key w := by
  rcases hmade : exec (run key.type script image) host s with ⟨e | results, made⟩
  · rw [exec_renew_error hmade] at h
    cases h
  · obtain ⟨rfl, hknown⟩ := eq_of_renew hmade h
    exact ⟨made, rfl, hknown⟩

/-- A call that gives results knows what they are made from. -/
theorem exists_keyOf_of_analyze {type : String} {image : Path} {run : Runner} {r : Json × Cache}
    (h : exec (c.analyze type image run) host s = (.ok r, s')) :
    ∃ key, c.keyOf host s type image = .ok key := by
  cases hkey : c.keyOf host s type image with
  | error e =>
    rw [exec_analyze, find_of_keyOf_error hkey] at h
    cases h
  | ok key => exact ⟨key, rfl⟩

/-- A call changes no more of a cache than what is in memory. -/
theorem eq_of_analyze {c' : Cache} {type : String} {image : Path} {run : Runner} {w : Json}
    (h : exec (c.analyze type image run) host s = (.ok (w, c'), s')) :
    ∃ memory, c' = { c with memory := memory } := by
  obtain ⟨key, hkey⟩ := exists_keyOf_of_analyze h
  obtain ⟨script, -, hfind⟩ := find_of_keyOf hkey
  rw [exec_analyze, hfind, findBy] at h
  cases hknown : c.known? key with
  | some results =>
    simp only [hknown] at h
    cases h
    exact ⟨c.memory, rfl⟩
  | none =>
    cases hstored : c.stored? s key with
    | some results =>
      simp only [hknown, hstored] at h
      cases h
      exact ⟨_, rfl⟩
    | none =>
      simp only [hknown, hstored] at h
      obtain ⟨made, -, hmemory⟩ := exists_made_of_renew h
      exact ⟨_, hmemory⟩

end FirmwareSurvey.Cache
