import FirmwareSurvey.Proofs.Toml.Glue

/-!
# Names are distinct

No table that is read has a name twice: whatever a line changes it puts under a name, in the place
of what was there or where nothing was (`keys_nodup_within?`). So lines keep the names of the
document distinct, whether or not the document is one that was ever printed
(`keys_nodup_of_parse?`).
-/

namespace FirmwareSurvey.Toml

open Entry

variable {es es' : List (String × Entry)}

/-- Whether a change of entries keeps their names distinct. -/
def KeepsDistinct (change : Bool → List (String × Entry) → Option (List (String × Entry))) : Prop :=
  ∀ made es es', change made es = some es' → (Members.keys es).Nodup → (Members.keys es').Nodup

theorem keys_nodup_drop (h : (Members.keys es).Nodup) (k : String) :
    (Members.keys (Members.drop es k)).Nodup :=
  ((List.filter_sublist).map _).nodup h

/-- **A change below a name keeps the names distinct**, and so does a change on the spot if it does
so by itself. -/
theorem keys_nodup_within? {dotted : Bool}
    {change : Bool → List (String × Entry) → Option (List (String × Entry))}
    (hchange : KeepsDistinct change) (path : List String) :
    KeepsDistinct (within? dotted change path) := by
  intro made es es' h hes
  cases path with
  | nil => exact hchange made es es' h hes
  | cons k ks =>
    rw [within?] at h
    split at h
    · obtain ⟨inner, -, rfl⟩ := Option.map_eq_some_iff.1 h
      exact Members.keys_nodup_put hes k _
    · cases h
    · split at h
      · cases h
      · obtain ⟨inner, -, rfl⟩ := Option.map_eq_some_iff.1 h
        exact Members.keys_nodup_put hes k _
    · split at h
      · cases h
      · obtain ⟨inner, -, rfl⟩ := Option.map_eq_some_iff.1 h
        exact Members.keys_nodup_put hes k _

theorem keys_nodup_addValue? (plain : Bool) (k : String) (v : Toml) :
    KeepsDistinct (addValue? plain k v) := by
  intro made es es' h hes
  rw [addValue?] at h
  split at h
  · cases h
  · split at h
    · cases h
    · cases h
      exact Members.keys_nodup_put hes k _

theorem keys_nodup_assign? {header key : List String} {v : Toml}
    (h : assign? header key v es = some es') (hes : (Members.keys es).Nodup) :
    (Members.keys es').Nodup := by
  rw [assign?] at h
  split at h
  · cases h
  · rename_i path k _
    exact keys_nodup_within? (fun made inner inner' hinner =>
      keys_nodup_within? (keys_nodup_addValue? path.isEmpty k v) path made inner inner' hinner)
      header false es es' h hes

theorem keys_nodup_openTable? {header : List String} (h : openTable? header es = some es')
    (hes : (Members.keys es).Nodup) : (Members.keys es').Nodup := by
  rw [openTable?] at h
  split at h
  · cases h
  · rename_i path k _
    refine keys_nodup_within? (fun made inner inner' hinner hnodup => ?_) path false es es' h hes
    split at hinner
    · cases hinner
      exact Members.keys_nodup_put hnodup k _
    · cases hinner
      exact Members.keys_nodup_put (keys_nodup_drop hnodup k) k _
    · cases hinner

theorem keys_nodup_openElement? {header : List String} (h : openElement? header es = some es')
    (hes : (Members.keys es).Nodup) : (Members.keys es').Nodup := by
  rw [openElement?] at h
  split at h
  · cases h
  · rename_i path k _
    refine keys_nodup_within? (fun made inner inner' hinner hnodup => ?_) path false es es' h hes
    split at hinner
    · cases hinner
      exact Members.keys_nodup_put hnodup k _
    · cases hinner
      exact Members.keys_nodup_put hnodup k _
    · cases hinner

/-- **A line keeps the names of the document distinct.** -/
theorem keys_nodup_step? {d d' : Draft} {line : Line} (h : d.step? line = some d')
    (hd : (Members.keys d.entries).Nodup) : (Members.keys d'.entries).Nodup := by
  cases line with
  | blank =>
    cases h
    exact hd
  | table path =>
    obtain ⟨es, hes, rfl⟩ := Option.map_eq_some_iff.1 h
    exact keys_nodup_openTable? hes hd
  | element path =>
    obtain ⟨es, hes, rfl⟩ := Option.map_eq_some_iff.1 h
    exact keys_nodup_openElement? hes hd
  | assign key v =>
    obtain ⟨es, hes, rfl⟩ := Option.map_eq_some_iff.1 h
    exact keys_nodup_assign? hes hd

theorem keys_nodup_run? : ∀ {ls : List Line} {d d' : Draft}, run? d ls = some d' →
    (Members.keys d.entries).Nodup → (Members.keys d'.entries).Nodup
  | [], _, _, h, hd => by
    cases h
    exact hd
  | line :: ls, d, d', h, hd => by
    rw [run?_cons] at h
    obtain ⟨e, hstep, hrun⟩ := Option.bind_eq_some_iff.1 h
    exact keys_nodup_run? hrun (keys_nodup_step? hstep hd)

/-- **The names of a document that is read are distinct.** -/
theorem keys_nodup_of_parse? {text : String} {members : List (String × Toml)}
    (h : parse? text = some members) : (Members.keys members).Nodup := by
  rw [parse?, parseChars?] at h
  split at h
  · cases h
  · obtain ⟨d, hrun, rfl⟩ := Option.map_eq_some_iff.1 h
    rw [keys_toMembers]
    exact keys_nodup_run? hrun (by simp)

end FirmwareSurvey.Toml
