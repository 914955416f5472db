import FirmwareSurvey.Proofs.Report.Sidecars

/-!
# Tracked values in any order

A table is read field by field: what a sidecar tells is noted on the field it belongs to and on no
other (`foldl_readMember`), and no two sidecars tell the same about one field. So it does not matter
in which order the members of a table stand (`ofMembers_perm`).
-/

namespace FirmwareSurvey.Tracked

open Report

variable {m n : Members Json}

/-! ### One field at a time -/

/-- A field after a member of a table: a sidecar of the field is noted on it. -/
def noted (m : Members Json) (f : String × Tracked) (p : String × Json) : String × Tracked :=
  match sidecar? m p.1 with
  | some (base, role) => if f.1 = base then (f.1, f.2.note role (plainText p.2)) else f
  | none => f

theorem noted_fst (m : Members Json) (f : String × Tracked) (p : String × Json) :
    (noted m f p).1 = f.1 := by
  rw [noted]
  split
  · split <;> rfl
  · rfl

theorem foldl_noted_fst (m l : Members Json) (f : String × Tracked) :
    (l.foldl (noted m) f).1 = f.1 := by
  induction l generalizing f with
  | nil => rfl
  | cons p l ih => rw [List.foldl_cons, ih, noted_fst]

theorem noteAt_eq_map {fields : Members Tracked} (h : (Members.keys fields).Nodup) (base : String)
    (role : Role) (text : String) :
    noteAt fields base role text =
      fields.map fun f => if f.1 = base then (f.1, f.2.note role text) else f := by
  have hothers {fs : Members Tracked} (hfs : base ∉ Members.keys fs) :
      (fs.map fun f => if f.1 = base then (f.1, f.2.note role text) else f) = fs := by
    refine (List.map_congr_left fun f hf => if_neg ?_).trans (List.map_id' fs)
    rintro rfl
    exact hfs (List.mem_map_of_mem hf)
  cases hget : fields.get? base with
  | none =>
    rw [hothers (Members.get?_eq_none_iff.1 hget), noteAt, hget]
  | some t =>
    obtain ⟨done, rest, rfl⟩ := List.append_of_mem (Members.mem_of_get? hget)
    rw [Members.keys_append, Members.keys_cons, List.nodup_append] at h
    have hdone : base ∉ Members.keys done := fun hb => h.2.2 _ hb _ List.mem_cons_self rfl
    have hrest : base ∉ Members.keys rest := (List.nodup_cons.1 h.2.1).1
    rw [noteAt_append hdone, List.map_append, List.map_cons, hothers hdone, hothers hrest, if_pos rfl]

theorem readMember_eq_map {fields : Members Tracked} (h : (Members.keys fields).Nodup)
    (m : Members Json) (p : String × Json) :
    readMember m fields p = fields.map fun f => noted m f p := by
  cases hside : sidecar? m p.1 with
  | none => simp [readMember, noted, hside]
  | some side =>
    obtain ⟨base, role⟩ := side
    rw [readMember_of_some hside, noteAt_eq_map h]
    simp [noted, hside]

/-- **Members are noted on every field by itself.** -/
theorem foldl_readMember {fields : Members Tracked} (h : (Members.keys fields).Nodup)
    (m l : Members Json) :
    l.foldl (readMember m) fields = fields.map fun f => l.foldl (noted m) f := by
  induction l generalizing fields with
  | nil => simp
  | cons p l ih =>
    have hkeys : Members.keys (fields.map fun f => noted m f p) = Members.keys fields := by
      simp [Members.keys, noted_fst]
    rw [List.foldl_cons, readMember_eq_map h, ih (hkeys ▸ h), List.map_map]
    rfl

/-- **The fields of a table**, each with what all members tell about it. -/
theorem ofMembers_eq (hm : (Members.keys m).Nodup) :
    ofMembers m = Members.sorted
      (((m.filter fun p => (sidecar? m p.1).isNone).map untracked).map fun f =>
        m.foldl (noted m) f) := by
  have hfields : (Members.keys
      ((m.filter fun p => (sidecar? m p.1).isNone).map untracked)).Nodup := by
    rw [Members.keys, List.map_map]
    exact hm.sublist (List.filter_sublist.map _)
  rw [← foldl_readMember hfields]
  rfl

/-! ### Members in any order -/

theorem note_comm (t : Tracked) {role role' : Role} (h : role ≠ role') (text text' : String) :
    (t.note role text).note role' text' = (t.note role' text').note role text := by
  cases role <;> cases role'
  · exact absurd rfl h
  · rfl
  · rfl
  · exact absurd rfl h

/-- Two members tell different things, whichever comes first. -/
theorem noted_comm (m : Members Json) (f : String × Tracked) {p q : String × Json}
    (h : p.1 ≠ q.1) : noted m (noted m f p) q = noted m (noted m f q) p := by
  cases hp : sidecar? m p.1 with
  | none => simp [noted, hp]
  | some side =>
    cases hq : sidecar? m q.1 with
    | none => simp [noted, hq]
    | some side' =>
      obtain ⟨base, role⟩ := side
      obtain ⟨base', role'⟩ := side'
      by_cases hbase : f.1 = base <;> by_cases hbase' : f.1 = base'
      · -- Sidecars of one field that tell the same have one name.
        have hrole : role ≠ role' := by
          rintro rfl
          rw [(eq_append_of_sidecar? hp).1, (eq_append_of_sidecar? hq).1, ← hbase, ← hbase'] at h
          exact h rfl
        simp [noted, hp, hq, ← hbase, ← hbase', note_comm _ hrole]
      · simp [noted, hp, hq, if_pos hbase, if_neg hbase']
      · simp [noted, hp, hq, if_neg hbase, if_pos hbase']
      · simp [noted, hp, hq, if_neg hbase, if_neg hbase']

theorem foldl_noted_perm (h : m.Perm n) (hm : (Members.keys m).Nodup) (fields : Members Json)
    (f : String × Tracked) : m.foldl (noted fields) f = n.foldl (noted fields) f := by
  refine h.foldl_eq' (fun p hp q hq f => ?_) f
  by_cases hpq : p.1 = q.1
  · have hget := Members.get?_of_mem hm hp
    rw [hpq, Members.get?_of_mem hm hq] at hget
    rw [Prod.ext hpq (Option.some.inj hget).symm]
  · exact noted_comm fields f hpq

theorem sidecar?_perm (h : m.Perm n) : sidecar? m = sidecar? n := by
  have hhas : Members.has m = Members.has n := by
    funext k
    rw [Bool.eq_iff_iff, Members.has_iff, Members.has_iff]
    exact (h.map fun p => p.1).mem_iff
  funext name
  rw [sidecar?, sidecar?, hhas]

/-- **The order of members does not matter** for the fields of a table. -/
theorem ofMembers_perm (h : m.Perm n) (hm : (Members.keys m).Nodup) :
    ofMembers m = ofMembers n := by
  have hn : (Members.keys n).Nodup := (h.map fun p : String × Json => p.1).nodup_iff.1 hm
  have hside := sidecar?_perm h
  have hnoted : noted m = noted n := by
    funext f p
    rw [noted, noted, hside]
  rw [ofMembers_eq hm, ofMembers_eq hn, hside, hnoted]
  simp only [foldl_noted_perm h hm]
  refine Members.sorted_eq_of_perm (((h.filter _).map _).map _) ?_
  rw [Members.keys, List.map_map, List.map_map]
  simp only [Function.comp_def, foldl_noted_fst, untracked]
  exact hm.sublist (List.filter_sublist.map _)

end FirmwareSurvey.Tracked
