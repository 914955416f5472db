import FirmwareSurvey.Proofs.Members
import FirmwareSurvey.Report.Basic
import FirmwareSurvey.Results.Tracked
import Mathlib.Data.List.Nodup

/-!
# Sidecars told apart from fields

A sidecar is known by its name alone: a field's name with an ending behind it. So a report's table
is told apart into fields and sidecars as it was put together when no kept field's name is another
one's with endings behind it (`IsApart`). One ending would make a field look like a sidecar of
another field; with two it would look like a sidecar of a sidecar.

Where names are apart the table is a list of groups, each a field and what it has of sidecars
(`flatten_eq_flatMap_group`), and reading it back goes through the groups one by one, with the
fields that have been read before those that have not (`foldl_readMember_flatMap_group`). So every
field comes back with its value and its origin (`ofMembers_toMap`).
-/

namespace FirmwareSurvey.Report

open Tracked

/-! ### Names with endings -/

/-- A name with endings behind it. -/
def withEndings (name : String) (roles : List Role) : String :=
  roles.foldl (fun s role => s ++ role.ending) name

/-- Whether no name is another one of them with endings behind it. -/
def IsApart (names : List String) : Prop :=
  ∀ a ∈ names, ∀ b ∈ names, ∀ roles : List Role, roles ≠ [] → a ≠ withEndings b roles

theorem withEndings_concat (name : String) (roles : List Role) (role : Role) :
    withEndings name (roles ++ [role]) = withEndings name roles ++ role.ending := by
  rw [withEndings, List.foldl_append]
  rfl

theorem getLast?_withEndings (name : String) {roles : List Role} (h : roles ≠ []) :
    (withEndings name roles).toList.getLast? = some 'e' ∨
      (withEndings name roles).toList.getLast? = some 'd' := by
  obtain ⟨roles, role, rfl⟩ := (List.eq_nil_or_concat' roles).resolve_left h
  rw [withEndings_concat]
  cases role <;> simp [Role.ending, List.getLast?_append]

theorem sourceName_ne_methodName (a b : String) : sourceName a ≠ methodName b := by
  intro h
  have hlast := congrArg (fun s : String => s.toList.getLast?) h
  simp [sourceName, methodName, List.getLast?_append] at hlast

/-- An ending can be told from what stands before it. -/
theorem append_ending_inj {a b : String} {role role' : Role}
    (h : a ++ role.ending = b ++ role'.ending) : a = b ∧ role = role' := by
  cases role <;> cases role'
  · exact ⟨(String.append_left_inj _).1 h, rfl⟩
  · exact absurd h (sourceName_ne_methodName a b)
  · exact absurd h.symm (sourceName_ne_methodName b a)
  · exact ⟨(String.append_left_inj _).1 h, rfl⟩

theorem dropEnding?_append (name ending : String) :
    dropEnding? ending (name ++ ending) = some name := by
  have hsuffix : ending.toList.isSuffixOf (name ++ ending).toList = true := by
    simp [List.isSuffixOf_iff_suffix]
  rw [dropEnding?, if_pos hsuffix]
  simp

theorem eq_append_of_dropEnding? {ending name base : String}
    (h : dropEnding? ending name = some base) : name = base ++ ending := by
  rw [dropEnding?] at h
  split at h
  · rename_i hsuffix
    obtain ⟨cs, hcs⟩ := List.isSuffixOf_iff_suffix.1 hsuffix
    rw [← Option.some.inj h, ← String.toList_inj, String.toList_append, ← hcs]
    simp
  · cases h

theorem eq_append_of_sidecar? {m : Members Json} {name base : String} {role : Role}
    (h : sidecar? m name = some (base, role)) :
    name = base ++ role.ending ∧ base ∈ Members.keys m := by
  have hknown {base' : String} {role' : Role}
      (hk : (if m.has base' then some (base', role') else none) = some (base, role)) :
      base' = base ∧ role' = role ∧ base ∈ Members.keys m := by
    split at hk
    · rename_i hhas
      obtain ⟨rfl, rfl⟩ := Prod.mk.inj (Option.some.inj hk)
      exact ⟨rfl, rfl, Members.has_iff.1 hhas⟩
    · cases hk
  rw [sidecar?] at h
  split at h
  · rename_i hdrop
    obtain ⟨rfl, rfl, hmem⟩ := hknown h
    exact ⟨eq_append_of_dropEnding? hdrop, hmem⟩
  · obtain ⟨base', hdrop, h⟩ := Option.bind_eq_some_iff.1 h
    obtain ⟨rfl, rfl, hmem⟩ := hknown h
    exact ⟨eq_append_of_dropEnding? hdrop, hmem⟩

theorem sidecar?_sourceName {m : Members Json} {name : String} (h : name ∈ Members.keys m) :
    sidecar? m (sourceName name) = some (name, .source) := by
  rw [sidecar?, sourceName, dropEnding?_append]
  exact if_pos (Members.has_iff.2 h)

theorem sidecar?_methodName {m : Members Json} {name : String} (h : name ∈ Members.keys m) :
    sidecar? m (methodName name) = some (name, .method) := by
  have hnone : dropEnding? "_source" (methodName name) = none := by
    rw [Option.eq_none_iff_forall_ne_some]
    exact fun base hdrop => sourceName_ne_methodName base name (eq_append_of_dropEnding? hdrop).symm
  rw [sidecar?, hnone, methodName, dropEnding?_append]
  exact if_pos (Members.has_iff.2 h)

/-- **A name with an ending is that of a sidecar** when the name before the ending is known, and no
other names are. -/
theorem sidecar?_eq_some_iff {m : Members Json} {name base : String} {role : Role} :
    sidecar? m name = some (base, role) ↔ name = base ++ role.ending ∧ base ∈ Members.keys m := by
  refine ⟨eq_append_of_sidecar?, ?_⟩
  rintro ⟨rfl, hbase⟩
  cases role with
  | source => exact sidecar?_sourceName hbase
  | method => exact sidecar?_methodName hbase

/-! ### Groups -/

/-- The sidecars of a field with an origin. -/
def sidecars (field : String) : Option Origin → Members Json
  | none => []
  | some o => [(sourceName field, .str o.source), (methodName field, .str o.method)]

/-- A field and its sidecars. -/
def group (provenance : Provenance) (f : String × Json) : Members Json :=
  f :: sidecars f.1 (provenance.get? f.1)

/-- The keys of a group are the field's name with at most one ending behind it. -/
theorem mem_keys_group {provenance : Provenance} {f : String × Json} {key : String}
    (h : key ∈ Members.keys (group provenance f)) :
    ∃ roles : List Role, roles.length ≤ 1 ∧ key = withEndings f.1 roles := by
  obtain ⟨name, value⟩ := f
  rw [group, Members.keys_cons] at h
  rcases List.mem_cons.1 h with rfl | h
  · exact ⟨[], by simp, rfl⟩
  · cases ho : provenance.get? name with
    | none => simp [ho, sidecars] at h
    | some o =>
      have h : key = sourceName name ∨ key = methodName name := by simpa [ho, sidecars] using h
      rcases h with rfl | rfl
      · exact ⟨[.source], by simp, rfl⟩
      · exact ⟨[.method], by simp, rfl⟩

theorem keys_flatMap_group (provenance : Provenance) (kept : Members Json) :
    Members.keys (kept.flatMap (group provenance)) =
      kept.flatMap fun f => Members.keys (group provenance f) :=
  List.map_flatMap

theorem mem_keys_flatMap_group (provenance : Provenance) {kept : Members Json} {name : String}
    (h : name ∈ Members.keys kept) : name ∈ Members.keys (kept.flatMap (group provenance)) := by
  obtain ⟨f, hf, rfl⟩ := List.mem_map.1 h
  rw [keys_flatMap_group]
  exact List.mem_flatMap.2 ⟨f, hf, List.mem_cons_self⟩

/-- **A field is no sidecar** in a table of groups whose names are apart. -/
theorem sidecar?_eq_none {provenance : Provenance} {kept : Members Json}
    (hapart : IsApart (Members.keys kept)) {name : String} (h : name ∈ Members.keys kept) :
    sidecar? (kept.flatMap (group provenance)) name = none := by
  rw [Option.eq_none_iff_forall_ne_some]
  rintro ⟨base, role⟩ hside
  obtain ⟨hname, hbase⟩ := eq_append_of_sidecar? hside
  rw [keys_flatMap_group] at hbase
  obtain ⟨f, hf, hbase⟩ := List.mem_flatMap.1 hbase
  obtain ⟨roles, -, rfl⟩ := mem_keys_group hbase
  refine hapart name h f.1 (List.mem_map_of_mem hf) (roles ++ [role]) (by simp) ?_
  rw [hname, withEndings_concat]

/-! ### Putting groups together -/

theorem withEndings_injective {names : List String} (hapart : IsApart names) {a b : String}
    (ha : a ∈ names) (hb : b ∈ names) {roles roles' : List Role} (hroles : roles.length ≤ 1)
    (hroles' : roles'.length ≤ 1) (h : withEndings a roles = withEndings b roles') :
    a = b ∧ roles = roles' := by
  -- A bare name is no other one with an ending; and with an ending on either side, its last letters
  -- tell which one it is.
  match roles, roles' with
  | [], [] => exact ⟨h, rfl⟩
  | [], role' :: rest' => exact absurd h (hapart a ha b hb _ (by simp))
  | role :: rest, [] => exact absurd h.symm (hapart b hb a ha _ (by simp))
  | [role], [role'] =>
    obtain ⟨hname, rfl⟩ := append_ending_inj h
    exact ⟨hname, rfl⟩

/-- **The keys of all groups are distinct** when the names are apart. -/
theorem keys_nodup_flatMap_group (provenance : Provenance) {kept : Members Json}
    (hnodup : (Members.keys kept).Nodup) (hapart : IsApart (Members.keys kept)) :
    (Members.keys (kept.flatMap (group provenance))).Nodup := by
  rw [keys_flatMap_group, List.nodup_flatMap]
  refine ⟨fun f hf => ?_, (List.pairwise_map.1 hnodup).imp_of_mem fun {f g} hf hg hne => ?_⟩
  · have hname : f.1 ∈ Members.keys kept := List.mem_map_of_mem hf
    have hself (role : Role) : f.1 ≠ withEndings f.1 [role] := hapart _ hname _ hname _ (by simp)
    cases ho : provenance.get? f.1 with
    | none => simp [group, Members.keys, ho, sidecars]
    | some o =>
      have hsource : f.1 ≠ sourceName f.1 := hself .source
      have hmethod : f.1 ≠ methodName f.1 := hself .method
      simp [group, Members.keys, ho, sidecars, hsource, hmethod, sourceName_ne_methodName]
  · intro key hkey hkey'
    obtain ⟨roles, hroles, rfl⟩ := mem_keys_group hkey
    obtain ⟨roles', hroles', heq⟩ := mem_keys_group hkey'
    exact hne (withEndings_injective hapart (List.mem_map_of_mem hf) (List.mem_map_of_mem hg)
      hroles hroles' heq).1

/-- **The table with sidecars is the list of groups**, in the order of declaration. -/
theorem flatten_eq_flatMap_group (provenance : Provenance) {declared : Members Json}
    (hnodup : (Members.keys declared).Nodup)
    (hapart : IsApart (Members.keys (declared.filter isKept))) :
    flatten provenance true declared = (declared.filter isKept).flatMap (group provenance) := by
  have hkept : (Members.keys (declared.filter isKept)).Nodup :=
    hnodup.sublist (List.filter_sublist.map _)
  -- A field and its origin are put in as the members of its group are, one by one; as all their
  -- keys are new, that appends them.
  have hput (m : Members Json) (f : String × Json) :
      putOrigin (Members.put m f.1 f.2) f.1 (provenance.get? f.1) =
        (group provenance f).foldl (fun m p => m.put p.1 p.2) m := by
    rw [group]
    cases provenance.get? f.1 <;> rfl
  rw [← Members.ofList_eq_self (keys_nodup_flatMap_group provenance hkept hapart), Members.ofList,
    List.foldl_flatMap, flatten]
  simp only [hput, if_true]

/-! ### Reading groups back -/

/-- A field without an origin. -/
def untracked (f : String × Json) : String × Tracked := (f.1, ⟨f.2, none, none⟩)

/-- A field with the origin that is recorded for it. -/
def tracked (provenance : Provenance) (f : String × Json) : String × Tracked :=
  (f.1, ⟨f.2, (provenance.get? f.1).map (·.source), (provenance.get? f.1).map (·.method)⟩)

theorem filter_flatMap_group {provenance : Provenance} {kept : Members Json}
    {p : String × Json → Bool} (hfield : ∀ f ∈ kept, p f = true)
    (hsidecar : ∀ f ∈ kept, ∀ s ∈ sidecars f.1 (provenance.get? f.1), p s = false) :
    (kept.flatMap (group provenance)).filter p = kept := by
  induction kept with
  | nil => rfl
  | cons f kept ih =>
    obtain ⟨hf, hfield⟩ := List.forall_mem_cons.1 hfield
    obtain ⟨hs, hsidecar⟩ := List.forall_mem_cons.1 hsidecar
    have hnone : (sidecars f.1 (provenance.get? f.1)).filter p = [] := by
      rw [List.filter_eq_nil_iff]
      exact fun s hmem => by simp [hs s hmem]
    rw [List.flatMap_cons, List.filter_append, group, List.filter_cons_of_pos hf, hnone,
      ih hfield hsidecar]
    rfl

/-- Reads one member of a table: what a sidecar tells is noted on its field. -/
def readMember (m : Members Json) (fields : Members Tracked) (p : String × Json) :
    Members Tracked :=
  match sidecar? m p.1 with
  | some (base, role) => noteAt fields base role (plainText p.2)
  | none => fields

theorem readMember_of_none {m : Members Json} {p : String × Json} (h : sidecar? m p.1 = none)
    (fields : Members Tracked) : readMember m fields p = fields := by
  rw [readMember, h]

theorem readMember_of_some {m : Members Json} {p : String × Json} {base : String} {role : Role}
    (h : sidecar? m p.1 = some (base, role)) (fields : Members Tracked) :
    readMember m fields p = noteAt fields base role (plainText p.2) := by
  rw [readMember, h]

theorem noteAt_append {done rest : Members Tracked} {name : String}
    (h : name ∉ Members.keys done) (t : Tracked) (role : Role) (text : String) :
    noteAt (done ++ (name, t) :: rest) name role text =
      done ++ (name, t.note role text) :: rest := by
  have hget : Members.get? (done ++ (name, t) :: rest) name = some t := by
    rw [Members.get?_append, Members.get?_eq_none_iff.2 h, Option.none_or, Members.get?_cons,
      if_pos rfl]
  rw [noteAt, hget]
  simp only
  rw [Members.put_append_of_not_mem h, Members.put, if_pos rfl]

/-- **A group is folded into its field.** -/
theorem foldl_readMember_group {m : Members Json} {f : String × Json}
    (hmem : f.1 ∈ Members.keys m) (hside : sidecar? m f.1 = none) {done : Members Tracked}
    (hdone : f.1 ∉ Members.keys done) (provenance : Provenance) (rest : Members Tracked) :
    (group provenance f).foldl (readMember m) (done ++ untracked f :: rest) =
      done ++ tracked provenance f :: rest := by
  rw [group, List.foldl_cons, readMember_of_none hside, tracked, untracked]
  cases provenance.get? f.1 with
  | none => rfl
  | some o =>
    have hsource := readMember_of_some (p := (sourceName f.1, .str o.source))
      (sidecar?_sourceName hmem)
    have hmethod := readMember_of_some (p := (methodName f.1, .str o.method))
      (sidecar?_methodName hmem)
    rw [sidecars, List.foldl_cons, hsource, noteAt_append hdone, List.foldl_cons, hmethod,
      noteAt_append hdone]
    rfl

/-- The fields that have been read have their origins, those to come have none yet. -/
theorem foldl_readMember_flatMap_group {m : Members Json} (provenance : Provenance)
    (done rest : Members Json) (hnodup : (Members.keys (done ++ rest)).Nodup)
    (hrest : ∀ f ∈ rest, f.1 ∈ Members.keys m ∧ sidecar? m f.1 = none) :
    (rest.flatMap (group provenance)).foldl (readMember m)
        (done.map (tracked provenance) ++ rest.map untracked) =
      (done ++ rest).map (tracked provenance) := by
  induction rest generalizing done with
  | nil => simp
  | cons f rest ih =>
    obtain ⟨⟨hmem, hside⟩, hrest⟩ := List.forall_mem_cons.1 hrest
    have hdone : f.1 ∉ Members.keys (done.map (tracked provenance)) := by
      have hkeys : Members.keys (done.map (tracked provenance)) = Members.keys done := by
        simp [Members.keys, tracked]
      rw [Members.keys_append, List.nodup_append] at hnodup
      rw [hkeys]
      exact fun hdone => hnodup.2.2 _ hdone _ List.mem_cons_self rfl
    have hassoc : done ++ f :: rest = (done ++ [f]) ++ rest := by simp
    rw [List.flatMap_cons, List.foldl_append, List.map_cons,
      foldl_readMember_group hmem hside hdone, hassoc, ← ih _ (hassoc ▸ hnodup) hrest]
    simp

/-- **Groups are read back as tracked fields**, sorted by name. -/
theorem ofMembers_flatMap_group (provenance : Provenance) {kept : Members Json}
    (hnodup : (Members.keys kept).Nodup) (hapart : IsApart (Members.keys kept)) :
    ofMembers (kept.flatMap (group provenance)) =
      Members.sorted (kept.map (tracked provenance)) := by
  have hname {f : String × Json} (hf : f ∈ kept) : f.1 ∈ Members.keys kept :=
    List.mem_map_of_mem hf
  -- Exactly the sidecars are told as such, so the fields are the kept ones.
  have hfields : (kept.flatMap (group provenance)).filter
      (fun p => (sidecar? (kept.flatMap (group provenance)) p.1).isNone) = kept := by
    refine filter_flatMap_group (fun f hf => ?_) fun f hf s hs => ?_
    · rw [sidecar?_eq_none hapart (hname hf)]
      rfl
    · have hmem := mem_keys_flatMap_group provenance (hname hf)
      cases ho : provenance.get? f.1 with
      | none => simp [ho, sidecars] at hs
      | some o =>
        simp only [ho, sidecars, List.mem_cons, List.not_mem_nil, or_false] at hs
        rcases hs with rfl | rfl
        · rw [sidecar?_sourceName hmem]
          rfl
        · rw [sidecar?_methodName hmem]
          rfl
  have hread := foldl_readMember_flatMap_group provenance [] kept hnodup fun f hf =>
    ⟨mem_keys_flatMap_group provenance (hname hf), sidecar?_eq_none hapart (hname hf)⟩
  rw [ofMembers, hfields]
  exact congrArg Members.sorted hread

/-- **Sidecars fold back onto their fields.** When the names of a report's kept fields are apart,
its table lists each kept field with its source and its method behind it; and the table is read back
as the kept fields, each with its value and with the origin that is recorded for it. -/
theorem ofMembers_toMap {r : Report} {declared : Members Json} (hvalue : r.value = .obj declared)
    (hnodup : (Members.keys declared).Nodup)
    (hapart : IsApart (Members.keys (declared.filter isKept))) :
    ∃ fields, r.toMap true = .ok fields ∧
      fields = (declared.filter isKept).flatMap (group r.provenance) ∧
      (Members.keys (ofMembers fields)).Perm (Members.keys (declared.filter isKept)) ∧
      ∀ f ∈ declared.filter isKept,
        (ofMembers fields).get? f.1 =
          some ⟨f.2, (r.provenance.get? f.1).map (·.source),
            (r.provenance.get? f.1).map (·.method)⟩ := by
  have hkept : (Members.keys (declared.filter isKept)).Nodup :=
    hnodup.sublist (List.filter_sublist.map _)
  have hkeys : Members.keys ((declared.filter isKept).map (tracked r.provenance)) =
      Members.keys (declared.filter isKept) := by
    simp [Members.keys, tracked]
  have hperm := Members.sorted_perm ((declared.filter isKept).map (tracked r.provenance))
  refine ⟨_, ?_, rfl, ?_, fun f hf => ?_⟩
  · rw [toMap, declared?, hvalue, Except.map, flatten_eq_flatMap_group r.provenance hnodup hapart]
  · rw [ofMembers_flatMap_group r.provenance hkept hapart, ← hkeys]
    exact hperm.map _
  · rw [ofMembers_flatMap_group r.provenance hkept hapart,
      ← Members.get?_perm hperm.symm (hkeys ▸ hkept)]
    exact Members.get?_of_mem (hkeys ▸ hkept)
      (List.mem_map_of_mem (f := tracked r.provenance) hf)

/-- A report with an origin for one of its fields and one for a field it drops. -/
def originReport : Report where
  title := "Origins"
  value := .obj [("size", .null), ("label_source", .str "board"), ("_draft", .str "x"),
    ("kernel", .str "5.4")]
  provenance := [("kernel", ⟨"boot log", "grep"⟩), ("size", ⟨"header", "read"⟩)]

theorem isApart_label_source_kernel : IsApart ["label_source", "kernel"] := by
  have hlabel (name : String) {roles : List Role} (hroles : roles ≠ []) :
      "label" ≠ withEndings name roles := by
    intro heq
    rcases getLast?_withEndings name hroles with h | h <;> rw [← heq] at h <;> cases h
  intro a ha b hb roles hroles heq
  simp only [List.mem_cons, List.not_mem_nil, or_false] at ha hb
  rcases ha with rfl | rfl
  · obtain ⟨roles, role, rfl⟩ := (List.eq_nil_or_concat' roles).resolve_left hroles
    rw [withEndings_concat] at heq
    cases role with
    | source =>
      have heq : "label" = _ := (String.append_left_inj "_source").1 heq
      by_cases hroles : roles = []
      · subst hroles
        rcases hb with rfl | rfl <;> exact absurd heq (by decide)
      · exact hlabel b hroles heq
    | method =>
      have hlast := congrArg (fun s : String => s.toList.getLast?) heq
      simp [Role.ending, List.getLast?_append] at hlast
  · rcases getLast?_withEndings b hroles with h | h <;> rw [← heq] at h <;> cases h

theorem ofMembers_originReport :
    ∃ fields, originReport.toMap true = .ok fields ∧
      Members.keys fields = ["label_source", "kernel", "kernel_source", "kernel_method"] ∧
      (ofMembers fields).get? "kernel" = some ⟨.str "5.4", some "boot log", some "grep"⟩ := by
  have hkept : [("size", Json.null), ("label_source", .str "board"), ("_draft", .str "x"),
      ("kernel", .str "5.4")].filter isKept =
        [("label_source", .str "board"), ("kernel", .str "5.4")] := by
    decide
  obtain ⟨fields, hfields, hgroups, -, hread⟩ :=
    ofMembers_toMap (r := originReport) rfl (by decide) (hkept ▸ isApart_label_source_kernel)
  rw [hkept] at hgroups hread
  exact ⟨fields, hfields, by rw [hgroups]; rfl, hread ("kernel", .str "5.4") (by simp)⟩

end FirmwareSurvey.Report
