import FirmwareSurvey.Cache.Basic
import FirmwareSurvey.Proofs.Toml.Distinct

/-!
# Manifests read back

A manifest is written as one table of texts for each type, which always fits: it reads back as its
entries in the order of their types, so that every type has the entry it had.
-/

namespace FirmwareSurvey.Cache

open Toml

/-- The members of the document of entries. -/
def entryMembers (entries : List (String × Entry)) : List (String × Toml) :=
  entries.map fun (type, e) => (type, e.toToml)

theorem keys_entryMembers (entries : List (String × Entry)) :
    Members.keys (entryMembers entries) = Members.keys entries := by
  simp [entryMembers, Members.keys]

theorem entriesOf?_entryMembers (entries : List (String × Entry)) :
    Manifest.entriesOf? (entryMembers entries) = some entries := by
  induction entries with
  | nil => rfl
  | cons p entries ih =>
    obtain ⟨type, e⟩ := p
    rw [entryMembers, List.map_cons, ← entryMembers, Manifest.entriesOf?, ih]
    rfl

theorem arrangedMembers_entryMembers (entries : List (String × Entry)) :
    arrangedMembers (entryMembers entries) = entryMembers entries := by
  have hlines : ∀ entries : List (String × Entry), linesFirst (entryMembers entries) = [] := by
    intro entries
    induction entries with
    | nil => rfl
    | cons p entries ih => exact ih
  rw [arrangedMembers, hlines, List.nil_append]
  induction entries with
  | nil => rfl
  | cons p entries ih =>
    obtain ⟨type, e⟩ := p
    rw [entryMembers, List.map_cons, ← entryMembers]
    change (type, arranged e.toToml) :: tablesLast (entryMembers entries) = _
    rw [ih]
    rfl

theorem properMembers_entryMembers (entries : List (String × Entry)) :
    ProperMembers (entryMembers entries) := by
  refine properMembers_iff.2 fun m hm => ?_
  obtain ⟨⟨type, e⟩, -, rfl⟩ := List.mem_map.1 hm
  have hnames : ["firmware_hash", "script_hash", "last_updated"].Nodup := by decide
  exact ⟨hnames, trivial, trivial, trivial, trivial⟩

/-- Every line of a manifest fits. -/
theorem fits_entryMembers (entries : List (String × Entry)) :
    (documentSteps (entryMembers entries)).all Line.fits = true := by
  have hlines : ∀ entries : List (String × Entry), lineSteps (entryMembers entries) = [] := by
    intro entries
    induction entries with
    | nil => rfl
    | cons p entries ih => exact ih
  rw [documentSteps, hlines, List.nil_append]
  induction entries with
  | nil => rfl
  | cons p entries ih =>
    obtain ⟨type, e⟩ := p
    rw [entryMembers, List.map_cons, ← entryMembers, tableSteps, tableParts, List.flatMap_append,
      List.all_append, ← tableSteps, ih, Bool.and_true]
    rfl

namespace Manifest

theorem toList_perm (m : Manifest) : m.toList.Perm m.entries := Sorting.sort_perm _ m.entries

/-- The entries of a manifest in their order are the same entries. -/
theorem entry?_toList {m : Manifest} (h : m.entries.keys.Nodup) (type : String) :
    entry? ⟨m.toList⟩ type = m.entry? type :=
  (Members.get?_perm m.toList_perm.symm h type).symm

theorem keys_toList_nodup {m : Manifest} (h : m.entries.keys.Nodup) :
    (Members.keys m.toList).Nodup :=
  (m.toList_perm.map fun p : String × Entry => p.1).nodup_iff.2 h

/-- **A manifest reads back as its entries, in the order of their types.** -/
theorem ofText?_text {m : Manifest} (h : m.entries.keys.Nodup) :
    ofText? m.text = some ⟨m.toList⟩ := by
  have hkeys : (Members.keys (entryMembers m.toList)).Nodup := by
    rw [keys_entryMembers]
    exact keys_toList_nodup h
  have hparse : parse? m.text = some (entryMembers m.toList) := by
    rw [text, ← entryMembers, parse?_documentText hkeys (properMembers_entryMembers _),
      if_pos (fits_entryMembers _), arrangedMembers_entryMembers]
  rw [ofText?, hparse, Option.bind_some, entriesOf?_entryMembers]
  rfl

theorem keys_of_entriesOf? : ∀ {members : List (String × Toml)} {entries : List (String × Entry)},
    entriesOf? members = some entries → Members.keys entries = Members.keys members
  | [], _, h => by
    cases h
    rfl
  | (type, v) :: rest, entries, h => by
    obtain ⟨e, -, h⟩ := Option.bind_eq_some_iff.1 h
    obtain ⟨es, hes, h⟩ := Option.bind_eq_some_iff.1 h
    cases h
    rw [Members.keys_cons, Members.keys_cons, keys_of_entriesOf? hes]

/-- **A manifest that is read has one entry for each type**, whatever wrote it. -/
theorem keys_nodup_of_load {s : Storage} {path : Path} {m : Manifest} (h : load s path = .ok m) :
    m.entries.keys.Nodup := by
  rw [load] at h
  split at h
  · cases h
    simp [Members.keys]
  · cases h
  · split at h
    · rename_i hm
      cases h
      obtain ⟨entries, hentries, rfl⟩ := Option.map_eq_some_iff.1 hm
      obtain ⟨members, hparse, hentries⟩ := Option.bind_eq_some_iff.1 hentries
      rw [keys_of_entriesOf? hentries]
      exact keys_nodup_of_parse? hparse
    · cases h

end Manifest

end FirmwareSurvey.Cache
