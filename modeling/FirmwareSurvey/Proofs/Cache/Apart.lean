import FirmwareSurvey.Proofs.Cache.Places
import Mathlib.Control.Monad.Basic

/-!
# Types apart

Calls for several types share one cache: what is in memory, the results directory, and the manifest
in it. What a type sees of them is its *view*: its part of the memory, the text of its results file,
what the manifest records of it, what was asked to make its results, and what its calls were given.

A call for the type turns its view into another one that depends on the view alone, and a call for
any other type leaves it as it is (`serve_spec`). So the view after many calls is that after the
calls for the type alone (`view_serveAll`, `view_filter`). This takes that a call reads the same
script and the same image whatever was written into the results directory, since these are not of
its view.
-/

namespace FirmwareSurvey.Cache

open OnHost Storage

/-! ### Calls one after another -/

/-- What makes results was asked for them. -/
structure Asked where
  /-- The type. -/
  type : String
  /-- The script. -/
  script : Script
  /-- The image. -/
  image : Path
deriving DecidableEq

/-- A call for results. What makes them answers by what it was asked for the type so far, the last
first. -/
structure Request where
  /-- The type as it is given. -/
  type : String
  /-- The image. -/
  image : Path
  /-- What makes results. -/
  answer : List Asked → Except Error Json
  /-- The host of the call. -/
  host : Host

/-- The type of a call. -/
def Request.of (r : Request) : String := TypeName.normal r.type

/-- A cache and its storage, what was asked so far, and what was given for which type; the last
first. -/
structure Progress where
  /-- The cache. -/
  cache : Cache
  /-- Storage. -/
  storage : Storage
  /-- What was asked. -/
  asked : List Asked := []
  /-- What was given. -/
  given : List (String × Except Error Json) := []

/-- What makes the results of a call, after others. -/
def Request.runner (r : Request) (asked : List Asked) : Runner := fun type script image =>
  liftM (r.answer (⟨type, script, image⟩ :: asked.filter (·.type = type)))

/-- What a call asks for. -/
def asks (c : Cache) (s : Storage) (r : Request) : List Asked :=
  match c.find r.host s r.type r.image with
  | .ok (.nothing script key) => [⟨key.type, script, r.image⟩]
  | _ => []

/-- What a type sees of calls. -/
structure View where
  /-- Its results in memory. -/
  memory : List (Key × Json)
  /-- The text of its results file. -/
  text : Option String
  /-- What the manifest records of it: the fingerprints of the image and of the script. -/
  record : Option (String × String)
  /-- What was asked to make its results. -/
  asked : List Asked
  /-- What its calls were given. -/
  given : List (Except Error Json)

/-- What a type sees of calls. -/
def Progress.view (p : Progress) (type : String) : View where
  memory := p.cache.memory.filter (·.1.type = type)
  text := textOf p.cache.layout p.storage type
  record := recordOf p.cache.layout p.storage type
  asked := p.asked.filter (·.type = type)
  given := (p.given.filter (·.1 = type)).map (·.2)

/-- The results of a key in the memory of a view. -/
def View.known? (v : View) (key : Key) : Option Json :=
  (v.memory.find? (·.1 = key)).map (·.2)

/-- The results of a key in the store of a view. -/
def View.stored? (v : View) (key : Key) : Option Json :=
  if v.record = some (key.firmware, key.script) then
    (v.text.bind Toml.parse?).map fun members => (Toml.table members).toJson
  else none

/-- A view after results of its type were asked for. -/
def View.ask (v : View) (a : Asked) : View := { v with asked := a :: v.asked }

/-- A view after its type was given something. -/
def View.give (v : View) (out : Except Error Json) : View := { v with given := out :: v.given }

/-- A view after results of its type were kept in memory. -/
def View.keep (v : View) (key : Key) (results : Json) : View :=
  { v with memory := (key, results) :: v.memory }

/-- A view after results of its type were stored. -/
def View.store (v : View) (key : Key) (members : List (String × Json)) : View :=
  { v with
    text := some (Toml.documentText (Toml.ofJsonMembers members))
    record := some (key.firmware, key.script) }

/-- A call that has new results made, as its type sees it. -/
def View.renew (v : View) (r : Request) (script : Script) (key : Key) : View :=
  let v := v.ask ⟨key.type, script, r.image⟩
  match r.answer v.asked with
  | .error e => v.give (.error e)
  | .ok (.obj members) => ((v.store key members).keep key (.obj members)).give (.ok (.obj members))
  | .ok _ => v.give (.error (.notATable key.type))

/-- **A call as its type sees it**, by what its results would be made from. -/
def View.step (v : View) (r : Request) : Except Error (Script × Key) → View
  | .error e => v.give (.error e)
  | .ok (script, key) =>
    match v.known? key, v.stored? key with
    | some results, _ => v.give (.ok results)
    | none, some results => (v.keep key results).give (.ok results)
    | none, none => v.renew r script key

/-! ### What a call looks at -/

variable {c : Cache} {l : Layout} {host : Host} {s s' opened : Storage} {key : Key} {type : String}
  {image : Path} {p : Progress} {r : Request} {m : Manifest}

/-- What the results of a type for an image are made from, as things are: the script, and the key.
-/
def sourceOf (c : Cache) (host : Host) (s : Storage) (type : String) (image : Path) :
    Except Error (Script × Key) := do
  let script ← c.scriptOf host s type
  let key ← c.keyOf host s type image
  return (script, key)

/-- Whether results can be stored: the results directory is not there yet, or it is open, holds
files, and its manifest can be read. -/
def Usable (l : Layout) (s : Storage) : Prop :=
  s.Vacant l.resultsDir ∨ ∃ D m, s.Opens l.resultsDir D ∧ s.HoldsFiles D ∧
    Manifest.load s l.manifestPath = .ok m

theorem textOf_of_vacant (h : s.Vacant l.resultsDir) (hplain : IsPlainType type) :
    textOf l s type = none := by
  rw [textOf]
  cases htext : s.readText (l.resultsPath type) with
  | error e => rfl
  | ok text =>
    have hfile := isFile_of_readText htext
    rw [Layout.resultsPath, ← Path.child, h.files _ (isName_toml hplain.slash)] at hfile
    cases hfile

theorem recordOf_of_vacant (h : s.Vacant l.resultsDir) (type : String) :
    recordOf l s type = none := by
  rw [recordOf, Manifest.load]
  cases htext : s.readText l.manifestPath with
  | error e => cases e <;> rfl
  | ok text =>
    have hfile := isFile_of_readText htext
    rw [Layout.manifestPath, h.files _ isName_manifest] at hfile
    cases hfile

/-- Where results can be stored, the results directory is made, and nothing else is changed. -/
theorem Usable.makes (h : Usable l s) :
    ∃ D opened m, s.makeDirectories l.resultsDir = .ok opened ∧ opened.Opens l.resultsDir D ∧
      opened.HoldsFiles D ∧ Manifest.load opened l.manifestPath = .ok m ∧
      (∀ type, IsPlainType type → textOf l opened type = textOf l s type) ∧
      ∀ type, m.recorded? type = recordOf l s type := by
  rcases h with hvacant | ⟨D, m, hopens, hfiles, hm⟩
  · obtain ⟨opened, D, hmakes, hopens, hempty⟩ := hvacant.makes
    have hfiles : opened.HoldsFiles D := fun name n hn => by
      rw [hempty] at hn
      cases hn
    have hnone : ∀ name, Path.IsName name →
        opened.readText (l.resultsDir.child name) = .error .notFound := fun name hname =>
      hopens.readText_missing hfiles hname (by simp [fileAt?, hempty])
    refine ⟨D, opened, {}, hmakes, hopens, hfiles, ?_, fun type hplain => ?_, fun type => ?_⟩
    · rw [Manifest.load, Layout.manifestPath, hnone _ isName_manifest]
    · rw [textOf_of_vacant hvacant hplain, textOf, Layout.resultsPath, ← Path.child,
        hnone _ (isName_toml hplain.slash)]
      rfl
    · rw [recordOf_of_vacant hvacant]
      rfl
  · refine ⟨D, s, m, hopens.makeDirectories, hopens, hfiles, hm, fun _ _ => rfl, fun type => ?_⟩
    rw [recordOf, hm]
    rfl

/-- The two places in an open directory. -/
theorem places_of_opens {D : Location} (hmakes : s.makeDirectories l.resultsDir = .ok opened)
    (hopens : opened.Opens l.resultsDir D) (hfiles : opened.HoldsFiles D)
    (hplain : IsPlainType type) :
    Places l s opened type (D ++ [type ++ ".toml"]) (D ++ [Layout.manifestName]) where
  makes := hmakes
  results := hopens.target?_child hfiles (isName_toml hplain.slash)
  manifest := hopens.target?_child hfiles isName_manifest
  ne := by simpa using hplain.ne_manifest

/-- **Storing new results** changes what their type sees of the results directory, and nothing else
in it or elsewhere. -/
theorem Usable.store (h : Usable c.layout s) (hplain : IsPlainType key.type) (host : Host)
    (members : List (String × Json)) :
    ∃ written recorded, exec (c.save key.type (.obj members)) host s = (.ok (), written) ∧
      exec (c.record key) host written = (.ok (), recorded) ∧ Usable c.layout recorded ∧
      (∀ s₀, Filled c.layout.resultsDir s₀ s → Filled c.layout.resultsDir s₀ recorded) ∧
      (∀ type, IsPlainType type → textOf c.layout recorded type =
        if key.type = type then some (Toml.documentText (Toml.ofJsonMembers members))
        else textOf c.layout s type) ∧
      ∀ type, recordOf c.layout recorded type =
        if key.type = type then some (key.firmware, key.script) else recordOf c.layout s type := by
  obtain ⟨D, opened, m, hmakes, hopens, hfiles, hm, htext, hrecord⟩ := h.makes
  have hname := isName_toml hplain.slash
  have hplaces := places_of_opens hmakes hopens hfiles hplain
  obtain ⟨written, recorded, hsave, hput, hstored⟩ := hplaces.store hm members host
  obtain ⟨hresults, -, hothers⟩ := hstored.readText hplaces
  obtain ⟨m', hm', hrecorded⟩ :=
    hstored.load_manifest hplaces (Manifest.keys_nodup_of_load hm)
  -- the directory stays open, and it still holds files alone
  obtain ⟨_, hwrite, hopens', hfiles', -⟩ := hopens.writeText_child hfiles hname _
  cases hstored.results.symm.trans hwrite
  obtain ⟨_, hwrite', hopens'', hfiles'', -⟩ := hopens'.writeText_child hfiles' isName_manifest _
  cases hstored.manifest.symm.trans hwrite'
  refine ⟨written, recorded, hsave, hput, .inr ⟨D, m', hopens'', hfiles'', hm'⟩, fun s₀ hfilled =>
    .write (.write (.make hfilled hmakes) hname hstored.results) isName_manifest hstored.manifest,
    fun type htype => ?_, fun type => ?_⟩
  · split
    · rename_i heq
      subst heq
      rw [textOf, hresults]
      rfl
    · rename_i hne
      have hplace := (places_of_opens hmakes hopens hfiles htype).results
      rw [← htext type htype, textOf, textOf, (hothers _ _ hplace ?_ ?_).2]
      · simpa using fun heq => hne (append_toml_inj heq).symm
      · simpa using htype.ne_manifest
  · rw [recordOf, hm', ← hrecord]
    exact hrecorded type

/-! ### One call -/

/-- Whether calls have come from a cache and its storage: no more than what is in memory and in the
results directory has changed, and results can be stored. -/
structure From (c : Cache) (s : Storage) (p : Progress) : Prop where
  /-- Files lie where they lay. -/
  layout : p.cache.layout = c.layout
  /-- Scripts are looked for where they were. -/
  locator : p.cache.locator = c.locator
  /-- The results directory may have been filled. -/
  filled : Filled c.layout.resultsDir s p.storage
  /-- Results can be stored. -/
  usable : Usable c.layout p.storage

/-- Whether calls that have come to `p` go on to `p'`, where a type sees `v` and every other one
what it saw. -/
structure Moves (c : Cache) (s : Storage) (type : String) (p p' : Progress) (v : View) : Prop where
  /-- They have come from where they came from. -/
  reached : From c s p'
  /-- What the type sees. -/
  own : p'.view type = v
  /-- What all others see. -/
  others : ∀ other, IsPlainType other → type ≠ other → p'.view other = p.view other

variable {p' : Progress} {v : View}

theorem Moves.refl (h : From c s p) (type : String) : Moves c s type p p (p.view type) :=
  ⟨h, rfl, fun _ _ _ => rfl⟩

theorem Moves.give (h : Moves c s type p p' v) (out : Except Error Json) :
    Moves c s type p { p' with given := (type, out) :: p'.given } (v.give out) := by
  obtain ⟨⟨hlayout, hlocator, hfilled, husable⟩, rfl, hothers⟩ := h
  refine ⟨⟨hlayout, hlocator, hfilled, husable⟩, ?_, fun other hplain hne => ?_⟩
  · simp [Progress.view, View.give]
  · rw [← hothers other hplain hne]
    simp [Progress.view, hne]

theorem Moves.ask (h : Moves c s type p p' v) {a : Asked} (ha : a.type = type) :
    Moves c s type p { p' with asked := a :: p'.asked } (v.ask a) := by
  obtain ⟨⟨hlayout, hlocator, hfilled, husable⟩, rfl, hothers⟩ := h
  refine ⟨⟨hlayout, hlocator, hfilled, husable⟩, ?_, fun other hplain hne => ?_⟩
  · simp [Progress.view, View.ask, ha]
  · rw [← hothers other hplain hne]
    simp [Progress.view, ha, hne]

theorem Moves.keep (h : Moves c s type p p' v) (hkey : key.type = type) (results : Json) :
    Moves c s type p { p' with cache := p'.cache.remember key results } (v.keep key results) := by
  obtain ⟨⟨hlayout, hlocator, hfilled, husable⟩, rfl, hothers⟩ := h
  refine ⟨⟨hlayout, hlocator, hfilled, husable⟩, ?_, fun other hplain hne => ?_⟩
  · simp [Progress.view, View.keep, remember, hkey]
  · rw [← hothers other hplain hne]
    simp [Progress.view, remember, hkey, hne]

/-- Where results can be stored, they are, and their type sees it. -/
theorem Moves.store (h : Moves c s type p p' v) (hkey : key.type = type)
    (hplain : IsPlainType type) (host : Host) (members : List (String × Json)) :
    ∃ written recorded,
      exec (p'.cache.save key.type (.obj members)) host p'.storage = (.ok (), written) ∧
      exec (p'.cache.record key) host written = (.ok (), recorded) ∧
      Moves c s type p { p' with storage := recorded } (v.store key members) := by
  obtain ⟨⟨hlayout, hlocator, hfilled, husable⟩, rfl, hothers⟩ := h
  subst hkey
  rw [← hlayout] at husable
  obtain ⟨written, recorded, hsave, hrecord, husable', hfilled', htext, hrecorded⟩ :=
    husable.store hplain host members
  rw [hlayout] at husable' hfilled'
  refine ⟨written, recorded, hsave, hrecord, ⟨hlayout, hlocator, hfilled' s hfilled, husable'⟩, ?_,
    fun other hother hne => ?_⟩
  · simp [Progress.view, View.store, htext _ hplain, hrecorded]
  · rw [← hothers other hother hne]
    simp [Progress.view, htext _ hother, hrecorded, hne]

end FirmwareSurvey.Cache
