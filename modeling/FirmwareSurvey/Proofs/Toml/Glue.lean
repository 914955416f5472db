import FirmwareSurvey.Proofs.Toml.RoundTrip

/-!
# Documents one behind another

Members that are written each as a document of its own, one behind another, read back as one table
exactly when no member that is no table stands behind a table: `run?_gluedSteps_iff`. In that order
the lines are those of one document. In any other order, a line that stands behind a header
belongs to the table of that header, so its name is missing from the table around it
(`Lacks` is what every further line preserves).
-/

namespace FirmwareSurvey.Toml

open Entry

/-- The lines of members that are written each as a document of its own. -/
def gluedSteps (members : List (String × Toml)) : List Line :=
  members.flatMap fun m => documentSteps [m]

theorem documentSteps_line {k : String} {v : Toml} (h : isLine v = true) :
    documentSteps [(k, v)] = [.assign [k] v] := by
  simp [documentSteps, lineSteps, h, tableSteps, tableParts, memberParts_eq_nil h]

theorem documentSteps_table {k : String} {v : Toml} (h : isLine v = false) :
    documentSteps [(k, v)] = (memberParts [k] v).flatMap Part.steps := by
  simp [documentSteps, lineSteps, h, tableSteps, tableParts]

/-- **Lines before tables are one document.** -/
theorem gluedSteps_eq_documentSteps {members : List (String × Toml)}
    (h : members.Pairwise fun a b => isLine b.2 = true → isLine a.2 = true) :
    gluedSteps members = documentSteps members := by
  induction members with
  | nil => rfl
  | cons m ms ih =>
    obtain ⟨k, v⟩ := m
    obtain ⟨hfirst, hrest⟩ := List.pairwise_cons.1 h
    have ih := ih hrest
    rw [gluedSteps, List.flatMap_cons, ← gluedSteps, ih]
    by_cases hline : isLine v = true
    · rw [documentSteps_line hline]
      simp [documentSteps, lineSteps, hline, tableSteps, tableParts, memberParts_eq_nil hline]
    · have hno : lineSteps ms = [] := by
        refine lineSteps_eq_nil (memberLines_eq_nil_iff.2 fun m hm => ?_)
        by_contra hm'
        exact hline (hfirst m hm (by simpa using hm'))
      rw [documentSteps_table (by simpa using hline)]
      simp [documentSteps, lineSteps, hline, hno, tableSteps, tableParts]

/-! ### What no line adds -/

/-- A change below a name adds that name at most. -/
theorem mem_keys_within? {dotted : Bool}
    {change : Bool → List (String × Entry) → Option (List (String × Entry))} {k : String}
    {ks : List String} {made : Bool} {es es' : List (String × Entry)}
    (h : within? dotted change (k :: ks) made es = some es') {j : String}
    (hj : j ∈ Members.keys es') : j ∈ Members.keys es ∨ j = k := by
  rw [within?] at h
  split at h
  · obtain ⟨e, -, rfl⟩ := Option.map_eq_some_iff.1 h
    exact Members.mem_keys_put.1 hj
  · cases h
  · split at h
    · cases h
    · obtain ⟨e, -, rfl⟩ := Option.map_eq_some_iff.1 h
      exact Members.mem_keys_put.1 hj
  · split at h
    · cases h
    · obtain ⟨e, -, rfl⟩ := Option.map_eq_some_iff.1 h
      exact Members.mem_keys_put.1 hj

/-- A change below all names of a header but the last adds the first of them at most, if the change
adds the last one at most. -/
theorem mem_keys_below {change : String → List (String × Entry) → Option (List (String × Entry))}
    (hchange : ∀ {k : String} {es es' : List (String × Entry)}, change k es = some es' →
      ∀ {j : String}, j ∈ Members.keys es' → j ∈ Members.keys es ∨ j = k)
    {k : String} {path : List String} {es es' : List (String × Entry)}
    (h : (match splitLast? (k :: path) with
      | none => none
      | some (path, k) => within? false (fun _ inner => change k inner) path false es) = some es')
    {j : String} (hj : j ∈ Members.keys es') : j ∈ Members.keys es ∨ j = k := by
  by_cases hpath : path = []
  · subst hpath
    exact hchange h hj
  · rw [splitLast?_cons k hpath] at h
    cases hlast : splitLast? path with
    | none => simp [hlast] at h
    | some p =>
      simp only [hlast, Option.map_some] at h
      exact mem_keys_within? h hj

/-- A header adds the first part of its path at most. -/
theorem mem_keys_openTable? {k : String} {path : List String} {es es' : List (String × Entry)}
    (h : openTable? (k :: path) es = some es') {j : String} (hj : j ∈ Members.keys es') :
    j ∈ Members.keys es ∨ j = k := by
  refine mem_keys_below (fun hchange j hj => ?_) h hj
  split at hchange
  · cases hchange
    exact Members.mem_keys_put.1 hj
  · -- the table that is taken over is dropped from its place first
    cases hchange
    exact (Members.mem_keys_put.1 hj).imp_left fun hj => ((List.filter_sublist).map _).subset hj
  · cases hchange

/-- A header of an element adds the first part of its path at most. -/
theorem mem_keys_openElement? {k : String} {path : List String} {es es' : List (String × Entry)}
    (h : openElement? (k :: path) es = some es') {j : String} (hj : j ∈ Members.keys es') :
    j ∈ Members.keys es ∨ j = k := by
  refine mem_keys_below (fun hchange j hj => ?_) h hj
  split at hchange
  · cases hchange
    exact Members.mem_keys_put.1 hj
  · cases hchange
    exact Members.mem_keys_put.1 hj
  · cases hchange

/-- Whether a draft has no entry of a name and is not at work below it. -/
def Lacks (k : String) (d : Draft) : Prop :=
  k ∉ Members.keys d.entries ∧ d.path.head? ≠ some k

/-- Whether a line opens a table below another name, if it opens one. -/
def Line.Avoids (k : String) : Line → Prop
  | .table path => ∃ l path', path = l :: path' ∧ l ≠ k
  | .element path => ∃ l path', path = l :: path' ∧ l ≠ k
  | _ => True

/-- **Under a header no line adds a name but the first of a header.** -/
theorem Lacks.step {k : String} {d d' : Draft} (h : Lacks k d) {line : Line}
    (hline : line.Avoids k) (hwork : line.IsHeader ∨ d.path ≠ [])
    (hstep : d.step? line = some d') : Lacks k d' ∧ d'.path ≠ [] := by
  cases line with
  | blank =>
    cases hstep
    exact ⟨h, hwork.resolve_left (by simp [Line.IsHeader])⟩
  | table path =>
    obtain ⟨l, path, rfl, hne⟩ := hline
    obtain ⟨es, hes, rfl⟩ := Option.map_eq_some_iff.1 hstep
    refine ⟨⟨fun hk => ?_, by simpa using hne⟩, by simp⟩
    rcases mem_keys_openTable? hes hk with hk | hk
    · exact h.1 hk
    · exact hne hk.symm
  | element path =>
    obtain ⟨l, path, rfl, hne⟩ := hline
    obtain ⟨es, hes, rfl⟩ := Option.map_eq_some_iff.1 hstep
    refine ⟨⟨fun hk => ?_, by simpa using hne⟩, by simp⟩
    rcases mem_keys_openElement? hes hk with hk | hk
    · exact h.1 hk
    · exact hne hk.symm
  -- a line goes into the table of the last header, whose name is another one
  | assign key v =>
    have hpath := hwork.resolve_left (by simp [Line.IsHeader])
    obtain ⟨l, path, hl⟩ := List.exists_cons_of_ne_nil hpath
    obtain ⟨es, hes, rfl⟩ := Option.map_eq_some_iff.1 hstep
    refine ⟨⟨fun hk => ?_, h.2⟩, hpath⟩
    rw [assign?, hl] at hes
    split at hes
    · cases hes
    · rcases mem_keys_within? hes hk with hk | hk
      · exact h.1 hk
      · exact h.2 (by rw [hl, hk]; rfl)

theorem Lacks.run {k : String} {ls : List Line} (hls : ∀ line ∈ ls, line.Avoids k) {d d' : Draft}
    (h : Lacks k d) (hpath : d.path ≠ []) (hrun : run? d ls = some d') :
    Lacks k d' ∧ d'.path ≠ [] := by
  induction ls generalizing d with
  | nil =>
    cases hrun
    exact ⟨h, hpath⟩
  | cons line ls ih =>
    obtain ⟨hline, hls⟩ := List.forall_mem_cons.1 hls
    obtain ⟨e, hstep, hrun⟩ := Option.bind_eq_some_iff.1 hrun
    obtain ⟨he, hpath⟩ := h.step hline (Or.inr hpath) hstep
    exact ih hls he hpath hrun

/-! ### Members in any order -/

theorem avoids_steps {k l : String} (hne : l ≠ k) (v : Toml) :
    ∀ line ∈ (memberParts [l] v).flatMap Part.steps, line.Avoids k := by
  have hlines : ∀ members, ∀ line ∈ lineSteps members, line.Avoids k := by
    intro members line hline
    induction members with
    | nil => simp [lineSteps] at hline
    | cons m ms ih =>
      obtain ⟨j, w⟩ := m
      simp only [lineSteps] at hline
      split at hline
      · rcases List.mem_cons.1 hline with rfl | hline
        · trivial
        · exact ih hline
      · exact ih hline
  intro line hline
  rw [memberParts_cons, List.mem_flatMap] at hline
  obtain ⟨p, hp, hline⟩ := hline
  obtain ⟨q, -, rfl⟩ := List.mem_map.1 hp
  rcases List.mem_cons.1 hline with rfl | hline
  · rw [Part.header]
    split <;> exact ⟨l, q.path, rfl, hne⟩
  · exact hlines _ line hline

/-- A table is written behind a header. -/
theorem exists_header_documentSteps {l : String} {v : Toml} (h : isLine v = false) :
    ∃ header rest, documentSteps [(l, v)] = header :: rest ∧ header.IsHeader := by
  obtain ⟨p, ps, hps⟩ := List.exists_cons_of_ne_nil (memberParts_ne_nil [l] h)
  refine ⟨p.header, lineSteps p.members ++ ps.flatMap Part.steps, ?_, p.isHeader_header⟩
  rw [documentSteps_table h, hps]
  rfl

/-- **A member of another name does not add a name** behind a header, and neither does a member
that is no table. -/
theorem Lacks.member {k : String} {m : String × Toml} {d d' : Draft} (h : Lacks k d)
    (hm : m.1 ≠ k ∨ isLine m.2 = true ∧ d.path ≠ []) (hrun : run? d (documentSteps [m]) = some d') :
    Lacks k d' ∧ (d.path ≠ [] ∨ isLine m.2 = false → d'.path ≠ []) := by
  obtain ⟨l, v⟩ := m
  by_cases hline : isLine v = true
  · rw [documentSteps_line hline, run?_cons] at hrun
    obtain ⟨e, hstep, hrun⟩ := Option.bind_eq_some_iff.1 hrun
    cases hrun
    by_cases hpath : d.path = []
    · -- the line stands before all headers and adds its own name
      have hne := hm.resolve_right fun hm => hm.2 hpath
      obtain ⟨es, hes, rfl⟩ := Option.map_eq_some_iff.1 hstep
      refine ⟨⟨fun hk => ?_, h.2⟩, fun hor => ?_⟩
      · rw [hpath, assign?_singleton] at hes
        split at hes
        · cases hes
        · cases hes
          rcases Members.mem_keys_put.1 hk with hk | hk
          · exact h.1 hk
          · exact hne hk.symm
      · simp [hline, hpath] at hor
    · obtain ⟨he, hpath⟩ := h.step (show (Line.assign [l] v).Avoids k from trivial) (Or.inr hpath) hstep
      exact ⟨he, fun _ => hpath⟩
  · have hline : isLine v = false := by simpa using hline
    have hne : l ≠ k := hm.resolve_right fun hm => by simp [hline] at hm
    have havoids := avoids_steps hne v
    obtain ⟨header, rest, hsteps, hheader⟩ := exists_header_documentSteps (l := l) hline
    rw [← documentSteps_table hline, hsteps] at havoids
    rw [hsteps] at hrun
    obtain ⟨hfirst, hrest⟩ := List.forall_mem_cons.1 havoids
    obtain ⟨e, hstep, hrun⟩ := Option.bind_eq_some_iff.1 hrun
    obtain ⟨he, hpath⟩ := h.step hfirst (Or.inl hheader) hstep
    obtain ⟨hd', hpath'⟩ := he.run hrest hpath hrun
    exact ⟨hd', fun _ => hpath'⟩

theorem Lacks.glued {k : String} {members : List (String × Toml)} {d d' : Draft} (h : Lacks k d)
    (hm : ∀ m ∈ members, m.1 ≠ k) (hrun : run? d (gluedSteps members) = some d') :
    Lacks k d' ∧ (d.path ≠ [] → d'.path ≠ []) := by
  induction members generalizing d with
  | nil =>
    cases hrun
    exact ⟨h, id⟩
  | cons m ms ih =>
    obtain ⟨hfirst, hrest⟩ := List.forall_mem_cons.1 hm
    rw [gluedSteps, List.flatMap_cons, ← gluedSteps, run?_append] at hrun
    obtain ⟨e, hmember, hrun⟩ := Option.bind_eq_some_iff.1 hrun
    obtain ⟨he, hpath⟩ := h.member (Or.inl hfirst) hmember
    obtain ⟨hd', hpath'⟩ := ih he hrest hrun
    exact ⟨hd', fun hne => hpath' (hpath (Or.inl hne))⟩

theorem gluedSteps_append (ms ns : List (String × Toml)) :
    gluedSteps (ms ++ ns) = gluedSteps ms ++ gluedSteps ns :=
  List.flatMap_append

/-- **A line behind a table loses its name.** -/
theorem not_mem_keys_of_glued {before between behind : List (String × Toml)} {a b : String × Toml}
    (hkeys : (Members.keys (before ++ a :: (between ++ b :: behind))).Nodup)
    (ha : isLine a.2 = false) (hb : isLine b.2 = true) {d : Draft}
    (hrun : run? ⟨[], []⟩ (gluedSteps (before ++ a :: (between ++ b :: behind))) = some d) :
    b.1 ∉ Members.keys d.entries := by
  have hother : ∀ m ∈ before ++ a :: between ++ behind, m.1 ≠ b.1 := by
    have hperm : (before ++ a :: (between ++ b :: behind)).Perm
        (b :: (before ++ a :: between ++ behind)) := by
      simpa using @List.perm_middle _ b (before ++ a :: between) behind
    have hnodup : (Members.keys (b :: (before ++ a :: between ++ behind))).Nodup :=
      (hperm.map fun m : String × Toml => m.1).nodup_iff.1 hkeys
    intro m hm heq
    exact (List.nodup_cons.1 hnodup).1 (List.mem_map.2 ⟨m, hm, heq⟩)
  have hsplit : gluedSteps (before ++ a :: (between ++ b :: behind)) =
      gluedSteps before ++ (documentSteps [a] ++ (gluedSteps between ++
        (documentSteps [b] ++ gluedSteps behind))) := by
    simp [gluedSteps]
  rw [hsplit, run?_append] at hrun
  obtain ⟨d1, h1, hrun⟩ := Option.bind_eq_some_iff.1 hrun
  rw [run?_append] at hrun
  obtain ⟨d2, h2, hrun⟩ := Option.bind_eq_some_iff.1 hrun
  rw [run?_append] at hrun
  obtain ⟨d3, h3, hrun⟩ := Option.bind_eq_some_iff.1 hrun
  rw [run?_append] at hrun
  obtain ⟨d4, h4, h5⟩ := Option.bind_eq_some_iff.1 hrun
  -- The name is lacking before the table, so it is lacking at the line; and the line stands behind a
  -- header, so that it does not add its own name.
  have h0 : Lacks b.1 ⟨[], []⟩ := ⟨by simp, by simp⟩
  have l1 := h0.glued (fun m hm => hother m (by simp [hm])) h1
  have l2 := l1.1.member (Or.inl (hother a (by simp))) h2
  have l3 := l2.1.glued (fun m hm => hother m (by simp [hm])) h3
  have hpath : d3.path ≠ [] := l3.2 (l2.2 (Or.inr ha))
  have l4 := l3.1.member (Or.inr ⟨hb, hpath⟩) h4
  exact (l4.1.glued (fun m hm => hother m (by simp [hm])) h5).1.1

theorem keys_toMembers (entries : List (String × Entry)) :
    Members.keys (toMembers entries) = Members.keys entries := by
  induction entries with
  | nil => rfl
  | cons e es ih =>
    obtain ⟨k, e⟩ := e
    rw [toMembers, Members.keys_cons, ih, Members.keys_cons]

/-- **Members written one behind another read back exactly when no line stands behind a table.** -/
theorem run?_gluedSteps_iff {members : List (String × Toml)}
    (hkeys : (Members.keys members).Nodup) (hv : ProperMembers members) :
    (∃ d, run? ⟨[], []⟩ (gluedSteps members) = some d ∧
        Same (.table (toMembers d.entries)) (.table members)) ↔
      members.Pairwise fun a b => isLine b.2 = true → isLine a.2 = true := by
  constructor
  · rintro ⟨d, hrun, hsame⟩
    rw [List.pairwise_iff_forall_sublist]
    intro a b hsub hb
    by_contra ha
    obtain ⟨before, between, behind, rfl⟩ :
        ∃ before between behind, members = before ++ a :: (between ++ b :: behind) := by
      obtain ⟨l, r, rfl, hl, hr⟩ := List.cons_sublist_iff.1 hsub
      obtain ⟨before, s, rfl⟩ := List.append_of_mem hl
      obtain ⟨t, behind, rfl⟩ := List.append_of_mem (List.singleton_sublist.1 hr)
      exact ⟨before, s ++ t, behind, by simp⟩
    rw [Same, keys_toMembers] at hsame
    refine not_mem_keys_of_glued hkeys (by simpa using ha) hb hrun (hsame.1.mem_iff.2 ?_)
    simp [Members.keys]
  · intro hsorted
    obtain ⟨path, hrun⟩ := run?_documentSteps hkeys hv
    rw [gluedSteps_eq_documentSteps hsorted]
    exact ⟨_, hrun, by rw [toMembers_documentEntries]; exact same_arrangedMembers hkeys hv⟩

end FirmwareSurvey.Toml
