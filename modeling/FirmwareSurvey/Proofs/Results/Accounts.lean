import FirmwareSurvey.Proofs.Results.Tracked

/-!
# What becomes of the members of a table

A member of a table becomes a field, or what it tells is noted on the field whose sidecar it is. But
sidecars are told by the names of all members, and only fields have anything noted on them: a sidecar
can have a sidecar of its own, and what that tells is noted nowhere (`not_isAccounted`). Nothing else
is lost, and nothing is made up (`isAccounted_iff`).
-/

namespace FirmwareSurvey.Tracked

open Report

variable {m l : Members Json} {f : String × Tracked}

/-! ### What is noted on a field -/

/-- What is told of a value. -/
def told (t : Tracked) : Role → Option String
  | .source => t.source
  | .method => t.method

theorem told_note (t : Tracked) (role role' : Role) (text : String) :
    (t.note role text).told role' = if role = role' then some text else t.told role' := by
  cases role <;> cases role' <;> rfl

theorem value_note (t : Tracked) (role : Role) (text : String) :
    (t.note role text).value = t.value := by
  cases role <;> rfl

theorem value_foldl_noted (m l : Members Json) (f : String × Tracked) :
    (l.foldl (noted m) f).2.value = f.2.value := by
  induction l generalizing f with
  | nil => rfl
  | cons p l ih =>
    rw [List.foldl_cons, ih, noted]
    split
    · split
      · exact value_note _ _ _
      · rfl
    · rfl

/-- A member is noted on a field when it has the name of one of its sidecars. -/
theorem told_noted (hf : f.1 ∈ Members.keys m) (p : String × Json) (role : Role) :
    (noted m f p).2.told role =
      if p.1 = f.1 ++ role.ending then some (plainText p.2) else f.2.told role := by
  rw [noted]
  cases hside : sidecar? m p.1 with
  | none =>
    rw [if_neg]
    intro hname
    rw [sidecar?_eq_some_iff.2 ⟨hname, hf⟩] at hside
    cases hside
  | some side =>
    obtain ⟨base, role'⟩ := side
    obtain ⟨hname, -⟩ := sidecar?_eq_some_iff.1 hside
    -- no ending is the end of another, so a name says which field and which role
    have hiff : p.1 = f.1 ++ role.ending ↔ f.1 = base ∧ role' = role := by
      rw [hname]
      constructor
      · intro h
        obtain ⟨hbase, hrole⟩ := append_ending_inj h
        exact ⟨hbase.symm, hrole⟩
      · rintro ⟨rfl, rfl⟩
        rfl
    simp only [hiff]
    by_cases hbase : f.1 = base
    · simp [hbase, told_note]
    · simp [hbase]

/-- **A field has noted on it what its sidecars tell**, and what it had before otherwise. -/
theorem told_foldl_noted (hf : f.1 ∈ Members.keys m) (hl : (Members.keys l).Nodup) (role : Role) :
    (l.foldl (noted m) f).2.told role =
      ((Members.get? l (f.1 ++ role.ending)).map plainText).or (f.2.told role) := by
  induction l generalizing f with
  | nil => simp
  | cons p l ih =>
    obtain ⟨name, v⟩ := p
    obtain ⟨hnew, hl⟩ := List.nodup_cons.1 hl
    rw [List.foldl_cons, ih (by rwa [noted_fst]) hl, noted_fst, told_noted hf, Members.get?_cons]
    by_cases hname : name = f.1 ++ role.ending
    · have hnone : Members.get? l (f.1 ++ role.ending) = none :=
        Members.get?_eq_none_iff.2 (hname ▸ hnew)
      simp [hname, hnone]
    · simp [hname]

/-! ### The fields of a table -/

/-- A member with what its sidecars tell. -/
def foldedIn (m : Members Json) (p : String × Json) : String × Tracked :=
  m.foldl (noted m) (untracked p)

theorem foldedIn_fst (m : Members Json) (p : String × Json) : (foldedIn m p).1 = p.1 :=
  foldl_noted_fst m m (untracked p)

theorem value_foldedIn (m : Members Json) (p : String × Json) : (foldedIn m p).2.value = p.2 :=
  value_foldl_noted m m (untracked p)

theorem told_foldedIn (hm : (Members.keys m).Nodup) {p : String × Json} (hp : p ∈ m)
    (role : Role) : (foldedIn m p).2.told role = (m.get? (p.1 ++ role.ending)).map plainText := by
  have hname : (untracked p).1 ∈ Members.keys m := List.mem_map_of_mem (f := (·.1)) hp
  have hnone : (untracked p).2.told role = none := by cases role <;> rfl
  rw [foldedIn, told_foldl_noted hname hm, hnone, Option.or_none]
  rfl

/-- **The fields of a table** are its members that are no sidecars, with what their sidecars tell. -/
theorem mem_ofMembers_iff (hm : (Members.keys m).Nodup) :
    f ∈ ofMembers m ↔ ∃ p ∈ m, sidecar? m p.1 = none ∧ foldedIn m p = f := by
  rw [ofMembers_eq hm, (Members.sorted_perm _).mem_iff, List.map_map, List.mem_map]
  simp only [List.mem_filter, Option.isNone_iff_eq_none, and_assoc]
  rfl

/-! ### Accounts -/

/-- Whether a member is found again: as the value of a field of its name, or as what is told of the
field whose sidecar it is. -/
def IsAccounted (fields : Members Tracked) (p : String × Json) : Prop :=
  (∃ t, (p.1, t) ∈ fields ∧ t.value = p.2) ∨
    ∃ (base : String) (role : Role) (t : Tracked), p.1 = base ++ role.ending ∧
      (base, t) ∈ fields ∧ t.told role = some (plainText p.2)

/-- Whether a name is that of a sidecar of a sidecar. -/
def IsSidecarOfSidecar (m : Members Json) (name : String) : Prop :=
  ∃ (base : String) (role role' : Role), name = base ++ role.ending ++ role'.ending ∧
    base ∈ Members.keys m ∧ base ++ role.ending ∈ Members.keys m

/-- Whether a field has nothing but members of a table: its value under its name, and what is told
of it under the names of its sidecars. -/
def ComesFrom (m : Members Json) (f : String × Tracked) : Prop :=
  (f.1, f.2.value) ∈ m ∧
    ∀ role text, f.2.told role = some text → ∃ v, (f.1 ++ role.ending, v) ∈ m ∧ plainText v = text

theorem isSidecarOfSidecar_iff {name : String} :
    IsSidecarOfSidecar m name ↔
      ∃ base role, sidecar? m name = some (base, role) ∧ sidecar? m base ≠ none := by
  constructor
  · rintro ⟨base, role, role', rfl, hbase, hside⟩
    refine ⟨base ++ role.ending, role', sidecar?_eq_some_iff.2 ⟨rfl, hside⟩, ?_⟩
    rw [sidecar?_eq_some_iff.2 ⟨rfl, hbase⟩]
    exact Option.some_ne_none _
  · rintro ⟨base, role', hside, hbase⟩
    obtain ⟨⟨base', role⟩, hbase⟩ := Option.ne_none_iff_exists'.1 hbase
    obtain ⟨rfl, hmem⟩ := sidecar?_eq_some_iff.1 hside
    obtain ⟨rfl, hmem'⟩ := sidecar?_eq_some_iff.1 hbase
    exact ⟨base', role, role', rfl, hmem', hmem⟩

theorem isAccounted_of_sidecar?_none (hm : (Members.keys m).Nodup) {p : String × Json}
    (hp : p ∈ m) (hside : sidecar? m p.1 = none) : IsAccounted (ofMembers m) p := by
  refine .inl ⟨(foldedIn m p).2, (mem_ofMembers_iff hm).2 ⟨p, hp, hside, ?_⟩, value_foldedIn m p⟩
  exact Prod.ext (foldedIn_fst m p) rfl

/-- A sidecar of a field is noted on it. -/
theorem isAccounted_of_sidecar?_some (hm : (Members.keys m).Nodup) {p : String × Json}
    (hp : p ∈ m) {base : String} {role : Role} (hside : sidecar? m p.1 = some (base, role))
    (hbase : sidecar? m base = none) : IsAccounted (ofMembers m) p := by
  obtain ⟨hname, hmem⟩ := sidecar?_eq_some_iff.1 hside
  obtain ⟨⟨_, v⟩, hv, rfl⟩ := List.mem_map.1 hmem
  refine .inr ⟨_, role, (foldedIn m _).2, hname,
    (mem_ofMembers_iff hm).2 ⟨_, hv, hbase, Prod.ext (foldedIn_fst m _) rfl⟩, ?_⟩
  rw [told_foldedIn hm hv, ← hname, Members.get?_of_mem hm hp]
  rfl

/-- **What a sidecar of a sidecar tells is noted nowhere.** -/
theorem not_isAccounted (hm : (Members.keys m).Nodup) {p : String × Json}
    (h : IsSidecarOfSidecar m p.1) : ¬IsAccounted (ofMembers m) p := by
  obtain ⟨base, role, hside, hbase⟩ := isSidecarOfSidecar_iff.1 h
  have hfield {name : String} {t : Tracked} (ht : (name, t) ∈ ofMembers m) :
      sidecar? m name = none := by
    obtain ⟨q, -, hq, heq⟩ := (mem_ofMembers_iff hm).1 ht
    have hname : q.1 = name := by rw [← foldedIn_fst m q, heq]
    exact hname ▸ hq
  rintro (⟨t, ht, -⟩ | ⟨base', role', t, hname, ht, -⟩)
  · cases hside.symm.trans (hfield ht)
  · obtain ⟨rfl, -⟩ := append_ending_inj (hname.symm.trans (sidecar?_eq_some_iff.1 hside).1)
    exact hbase (hfield ht)

/-- **Nothing is lost but what sidecars of sidecars tell**, and every field, with what is told of it,
comes from the table. -/
theorem isAccounted_iff (hm : (Members.keys m).Nodup) :
    (∀ p ∈ m, IsAccounted (ofMembers m) p ↔ ¬IsSidecarOfSidecar m p.1) ∧
      ∀ f ∈ ofMembers m, ComesFrom m f := by
  refine ⟨fun p hp => ⟨fun h hside => not_isAccounted hm hside h, fun h => ?_⟩, fun f hf => ?_⟩
  · cases hside : sidecar? m p.1 with
    | none => exact isAccounted_of_sidecar?_none hm hp hside
    | some side =>
      refine isAccounted_of_sidecar?_some hm hp hside (Decidable.not_not.1 fun hbase => ?_)
      exact h (isSidecarOfSidecar_iff.2 ⟨_, _, hside, hbase⟩)
  · obtain ⟨p, hp, -, rfl⟩ := (mem_ofMembers_iff hm).1 hf
    rw [ComesFrom, foldedIn_fst, value_foldedIn]
    refine ⟨hp, fun role text htext => ?_⟩
    rw [told_foldedIn hm hp] at htext
    obtain ⟨v, hv, rfl⟩ := Option.map_eq_some_iff.1 htext
    exact ⟨v, Members.mem_of_get? hv, rfl⟩

/-- A table with a name that looks like that of a sidecar and is none, and its sidecar. -/
def loneSource : Members Json := [("a_source", .str "x"), ("a_source_method", .str "y")]

theorem isAccounted_loneSource :
    (Members.keys loneSource).Nodup ∧
      IsAccounted (ofMembers loneSource) ("a_source_method", .str "y") := by
  have hm : (Members.keys loneSource).Nodup := by decide
  refine ⟨hm, ((isAccounted_iff hm).1 _ (by simp [loneSource])).2 ?_⟩
  rintro ⟨base, role, role', hname, hbase, -⟩
  have hname : "a" ++ Role.source.ending ++ Role.method.ending =
      base ++ role.ending ++ role'.ending := hname
  obtain ⟨hname, -⟩ := append_ending_inj hname
  obtain ⟨rfl, -⟩ := append_ending_inj hname
  revert hbase
  decide

/-- **The method of a field's source is lost.** -/
theorem not_isAccounted_methodOfSource :
    (Members.keys [("a", Json.int 1), ("a_source", .str "x"), ("a_source_method", .str "y")]).Nodup ∧
      ¬IsAccounted (ofMembers [("a", .int 1), ("a_source", .str "x"), ("a_source_method", .str "y")])
        ("a_source_method", .str "y") :=
  ⟨by decide, not_isAccounted (by decide) ⟨"a", .source, .method, rfl, by decide, by decide⟩⟩

end FirmwareSurvey.Tracked
