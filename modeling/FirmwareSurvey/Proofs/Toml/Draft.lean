import FirmwareSurvey.Proofs.Toml.Lines

/-!
# Tables built line by line

The lines of a document build its table up to the order of members: those that are no tables come
first, in every table (`arranged`).

What is at work on a table is at its end: the lines under a header change only the last entry of the
table around it. So the lines of a table may be carried out on their own and the result put in place
afterwards, and this is how the induction over a value goes (`Frame`).
-/

namespace FirmwareSurvey.Toml

open Entry

/-! ### Places in a table -/

/-- The place of a table within an entry: the entry itself, or the last element of an array. -/
inductive Frame where
  /-- A table, which longer paths made or not. -/
  | table (passing : Bool)
  /-- The element of an array behind those before it. -/
  | element (before : List (List (String × Entry)))

/-- The entry with a table at the place. -/
def Frame.fill : Frame → List (String × Entry) → Entry
  | .table passing, entries => .table passing false entries
  | .element before, entries => .elements (before ++ [entries])

/-- A line under a further header. -/
def Line.under (k : String) : Line → Line
  | .blank => .blank
  | .table path => .table (k :: path)
  | .element path => .element (k :: path)
  | .assign key v => .assign key v

/-- Whether a line is no header or one of a path. -/
def Line.HasPath : Line → Prop
  | .table path => path ≠ []
  | .element path => path ≠ []
  | _ => True

theorem splitLast?_append {α : Type} (as : List α) (a : α) :
    splitLast? (as ++ [a]) = some (as, a) := by
  induction as with
  | nil => rfl
  | cons b as ih =>
    rw [List.cons_append, splitLast?, ih]

theorem splitLast?_cons {α : Type} (a : α) {as : List α} (h : as ≠ []) :
    splitLast? (a :: as) = (splitLast? as).map fun p => (a :: p.1, p.2) := by
  rw [← List.dropLast_append_getLast h, splitLast?_append, ← List.cons_append, splitLast?_append]
  rfl

/-- **A change below the last entry changes nothing else.** -/
theorem within?_last {change : Bool → List (String × Entry) → Option (List (String × Entry))}
    {before : List (String × Entry)} {k : String} (h : k ∉ Members.keys before) (frame : Frame)
    (path : List String) (made : Bool) (entries : List (String × Entry)) :
    within? false change (k :: path) made (before ++ [(k, frame.fill entries)]) =
      (within? false change path false entries).map fun e => before ++ [(k, frame.fill e)] := by
  have hnone := Members.get?_eq_none_iff.2 h
  have hget : Members.get? (before ++ [(k, frame.fill entries)]) k = some (frame.fill entries) := by
    simp [Members.get?_append, hnone, Members.get?]
  have hput : ∀ e, Members.put (before ++ [(k, frame.fill entries)]) k e = before ++ [(k, e)] := by
    intro e
    simp [Members.put_append_of_not_mem h, Members.put]
  cases frame with
  | table passing =>
    simp only [Frame.fill] at hget hput ⊢
    rw [within?, hget]
    simp [hput]
  | element rows =>
    simp only [Frame.fill] at hget hput ⊢
    rw [within?, hget]
    simp [splitLast?_append, hput]

/-- A change below a name that is new makes a table there. -/
theorem within?_new {change : Bool → List (String × Entry) → Option (List (String × Entry))}
    {before : List (String × Entry)} {k : String} (h : k ∉ Members.keys before)
    (path : List String) (made : Bool) :
    within? false change (k :: path) made before =
      (within? false change path false []).map fun e =>
        before ++ [(k, (Frame.table true).fill e)] := by
  rw [within?, Members.get?_eq_none_iff.2 h]
  simp [Members.put_eq_append h, Frame.fill]

/-- **A line under a header is carried out in the table of that header.** -/
theorem step?_under {before : List (String × Entry)} {k : String} (h : k ∉ Members.keys before)
    (frame : Frame) (path : List String) (entries : List (String × Entry)) {line : Line}
    (hline : line.HasPath) :
    Draft.step? ⟨k :: path, before ++ [(k, frame.fill entries)]⟩ (line.under k) =
      (Draft.step? ⟨path, entries⟩ line).map fun d =>
        ⟨k :: d.path, before ++ [(k, frame.fill d.entries)]⟩ := by
  cases line with
  | blank => rfl
  | table p =>
    obtain ⟨init, last, rfl⟩ : ∃ init last, p = init ++ [last] :=
      ⟨_, _, (List.dropLast_append_getLast hline).symm⟩
    simp only [Line.under, Draft.step?, openTable?, splitLast?_append,
      splitLast?_cons k (show init ++ [last] ≠ [] by simp), Option.map_some,
      within?_last h frame, Option.map_map, Function.comp_def]
  | element p =>
    obtain ⟨init, last, rfl⟩ : ∃ init last, p = init ++ [last] :=
      ⟨_, _, (List.dropLast_append_getLast hline).symm⟩
    simp only [Line.under, Draft.step?, openElement?, splitLast?_append,
      splitLast?_cons k (show init ++ [last] ≠ [] by simp), Option.map_some,
      within?_last h frame, Option.map_map, Function.comp_def]
  | assign key v =>
    simp only [Line.under, Draft.step?, assign?]
    cases splitLast? key with
    | none => rfl
    | some p => simp only [within?_last h frame, Option.map_map, Function.comp_def]

theorem run?_under {before : List (String × Entry)} {k : String} (h : k ∉ Members.keys before)
    (frame : Frame) {ls : List Line} (hls : ∀ line ∈ ls, line.HasPath) (path : List String)
    (entries : List (String × Entry)) :
    run? ⟨k :: path, before ++ [(k, frame.fill entries)]⟩ (ls.map (Line.under k)) =
      (run? ⟨path, entries⟩ ls).map fun d =>
        ⟨k :: d.path, before ++ [(k, frame.fill d.entries)]⟩ := by
  induction ls generalizing path entries with
  | nil => rfl
  | cons line ls ih =>
    obtain ⟨hline, hls⟩ := List.forall_mem_cons.1 hls
    rw [List.map_cons, run?_cons, run?_cons, step?_under h frame path entries hline]
    cases Draft.step? ⟨path, entries⟩ line with
    | none => rfl
    | some d => exact ih hls d.path d.entries

/-- Whether a line is a header. -/
def Line.IsHeader : Line → Prop
  | .table _ => True
  | .element _ => True
  | _ => False

theorem Part.isHeader_header (p : Part) : p.header.IsHeader := by
  rw [Part.header]
  split <;> trivial

/-- A header below a name that is new makes a table there, and works in it. -/
theorem run?_new {before : List (String × Entry)} {k : String} (h : k ∉ Members.keys before)
    {line : Line} (hheader : line.IsHeader) {ls : List Line}
    (hls : ∀ line' ∈ line :: ls, line'.HasPath) (path : List String) :
    run? ⟨path, before⟩ ((line :: ls).map (Line.under k)) =
      (run? ⟨[], []⟩ (line :: ls)).map fun d =>
        ⟨k :: d.path, before ++ [(k, (Frame.table true).fill d.entries)]⟩ := by
  obtain ⟨hline, hls⟩ := List.forall_mem_cons.1 hls
  have hstep : Draft.step? ⟨path, before⟩ (line.under k) =
      (Draft.step? ⟨[], []⟩ line).map fun d =>
        ⟨k :: d.path, before ++ [(k, (Frame.table true).fill d.entries)]⟩ := by
    -- a header is opened within the table in front, which is made for it
    cases line with
    | blank => exact hheader.elim
    | assign key v => exact hheader.elim
    | table p =>
      obtain ⟨init, last, rfl⟩ : ∃ init last, p = init ++ [last] :=
        ⟨_, _, (List.dropLast_append_getLast hline).symm⟩
      simp only [Line.under, Draft.step?, openTable?, splitLast?_append,
        splitLast?_cons k (show init ++ [last] ≠ [] by simp), Option.map_some,
        within?_new h, Option.map_map, Function.comp_def]
    | element p =>
      obtain ⟨init, last, rfl⟩ : ∃ init last, p = init ++ [last] :=
        ⟨_, _, (List.dropLast_append_getLast hline).symm⟩
      simp only [Line.under, Draft.step?, openElement?, splitLast?_append,
        splitLast?_cons k (show init ++ [last] ≠ [] by simp), Option.map_some,
        within?_new h, Option.map_map, Function.comp_def]
  rw [List.map_cons, run?_cons, run?_cons, hstep]
  cases Draft.step? ⟨[], []⟩ line with
  | none => rfl
  | some d => exact run?_under h (Frame.table true) hls d.path d.entries

/-! ### Parts under a further header -/

/-- A part under a further header. -/
def Part.under (k : String) (p : Part) : Part := { p with path := k :: p.path }

mutual

theorem memberParts_cons : ∀ (k : String) (path : List String) (v : Toml),
    memberParts (k :: path) v = (memberParts path v).map (Part.under k)
  | k, path, .table members => by
    rw [memberParts, memberParts, List.map_append, tableParts_cons k path members]
    split <;> rfl
  | k, path, .array (v :: vs) => by
    rw [memberParts, memberParts]
    split
    · exact elementParts_cons k path (v :: vs)
    · rfl
  | _, _, .array [] => rfl
  | _, _, .str _ => rfl
  | _, _, .int _ => rfl
  | _, _, .float _ => rfl
  | _, _, .bool _ => rfl
  | _, _, .moment _ => rfl

theorem tableParts_cons : ∀ (k : String) (path : List String) (members : List (String × Toml)),
    tableParts (k :: path) members = (tableParts path members).map (Part.under k)
  | _, _, [] => rfl
  | k, path, (l, v) :: ms => by
    rw [tableParts, tableParts, List.map_append, List.cons_append,
      memberParts_cons k (path ++ [l]) v, tableParts_cons k path ms]

theorem elementParts_cons : ∀ (k : String) (path : List String) (items : List Toml),
    elementParts (k :: path) items = (elementParts path items).map (Part.under k)
  | _, _, [] => rfl
  | k, path, .table members :: vs => by
    rw [elementParts, elementParts, List.map_cons, List.map_append, tableParts_cons k path members,
      elementParts_cons k path vs]
    rfl
  | k, path, .array _ :: vs => by simpa [elementParts] using elementParts_cons k path vs
  | k, path, .str _ :: vs => by simpa [elementParts] using elementParts_cons k path vs
  | k, path, .int _ :: vs => by simpa [elementParts] using elementParts_cons k path vs
  | k, path, .float _ :: vs => by simpa [elementParts] using elementParts_cons k path vs
  | k, path, .bool _ :: vs => by simpa [elementParts] using elementParts_cons k path vs
  | k, path, .moment _ :: vs => by simpa [elementParts] using elementParts_cons k path vs

end

theorem map_under_lineSteps (k : String) (members : List (String × Toml)) :
    (lineSteps members).map (Line.under k) = lineSteps members := by
  induction members with
  | nil => rfl
  | cons m ms ih =>
    obtain ⟨l, v⟩ := m
    simp only [lineSteps]
    split
    · rw [List.map_cons, ih]
      rfl
    · exact ih

theorem steps_under (k : String) (p : Part) : (p.under k).steps = p.steps.map (Line.under k) := by
  obtain ⟨element, path, members⟩ := p
  cases element <;> simp [Part.steps, Part.under, Part.header, map_under_lineSteps, Line.under]

theorem flatMap_steps_under (k : String) (ps : List Part) :
    (ps.map (Part.under k)).flatMap Part.steps = (ps.flatMap Part.steps).map (Line.under k) := by
  rw [List.flatMap_map, List.map_flatMap]
  exact congrArg (ps.flatMap ·) (funext (steps_under k))

theorem tableSteps_cons (k : String) (members : List (String × Toml)) :
    tableSteps [k] members = (tableSteps [] members).map (Line.under k) := by
  rw [tableSteps, tableParts_cons, flatMap_steps_under]
  rfl

theorem hasPath_lineSteps (members : List (String × Toml)) :
    ∀ line ∈ lineSteps members, line.HasPath := by
  induction members with
  | nil => simp [lineSteps]
  | cons m ms ih =>
    obtain ⟨l, v⟩ := m
    simp only [lineSteps]
    split
    · exact List.forall_mem_cons.2 ⟨trivial, ih⟩
    · exact ih

theorem hasPath_parts {ps : List Part} (h : ∀ p ∈ ps, p.path ≠ []) :
    ∀ line ∈ ps.flatMap Part.steps, line.HasPath := by
  intro line hline
  obtain ⟨p, hp, hline⟩ := List.mem_flatMap.1 hline
  rcases List.mem_cons.1 hline with rfl | hline
  · rw [Part.header]
    split <;> exact h p hp
  · exact hasPath_lineSteps _ line hline

theorem memberLines_eq_nil_iff {members : List (String × Toml)} :
    memberLines members = [] ↔ ∀ m ∈ members, isLine m.2 = false := by
  induction members with
  | nil => simp [memberLines]
  | cons m ms ih =>
    obtain ⟨k, v⟩ := m
    by_cases h : isLine v = true <;> simp [memberLines, h, ih]

theorem lineSteps_eq_nil {members : List (String × Toml)} (h : memberLines members = []) :
    lineSteps members = [] := by
  induction members with
  | nil => rfl
  | cons m ms ih =>
    obtain ⟨k, v⟩ := m
    by_cases hline : isLine v = true
    · simp [memberLines, hline] at h
    · simp only [memberLines, hline] at h
      simpa [lineSteps, hline] using ih h

mutual

/-- What is no line has a part, if only for its header. -/
theorem memberParts_ne_nil : ∀ (path : List String) {v : Toml}, isLine v = false →
    memberParts path v ≠ []
  | path, .table members, _ => by
    rw [memberParts]
    by_cases h : (members.isEmpty || !(memberLines members).isEmpty) = true
    · simp [h]
    · simp only [h]
      simp only [Bool.or_eq_true, List.isEmpty_iff, Bool.not_eq_true', not_or,
        Bool.not_eq_false] at h
      simpa using tableParts_ne_nil path h.1 (memberLines_eq_nil_iff.1 h.2)
  | path, .array (v :: vs), h => by
    have hall : (v :: vs).all isTable = true := by
      simpa [isLine, isTable, isTableArray] using h
    rw [memberParts, if_pos hall]
    cases v <;> simp [isTable] at hall
    simp [elementParts]
  | _, .array [], h => by simp [isLine, isTable, isTableArray] at h
  | _, .str _, h => by simp [isLine, isTable, isTableArray] at h
  | _, .int _, h => by simp [isLine, isTable, isTableArray] at h
  | _, .float _, h => by simp [isLine, isTable, isTableArray] at h
  | _, .bool _, h => by simp [isLine, isTable, isTableArray] at h
  | _, .moment _, h => by simp [isLine, isTable, isTableArray] at h

theorem tableParts_ne_nil : ∀ (path : List String) {members : List (String × Toml)},
    members ≠ [] → (∀ m ∈ members, isLine m.2 = false) → tableParts path members ≠ []
  | _, [], hne, _ => absurd rfl hne
  | path, (k, v) :: ms, _, h => by
    rw [tableParts]
    have := memberParts_ne_nil (path ++ [k]) (h (k, v) (by simp))
    simp [this]

end

/-! ### The entries of a document -/

/-- The entries of the members that are no tables. -/
def lineEntries : List (String × Toml) → List (String × Entry)
  | [] => []
  | (k, v) :: ms => if isLine v then (k, .value v) :: lineEntries ms else lineEntries ms

mutual

/-- The entry of a member as its lines make it. -/
def entryOf : Toml → Entry
  | .table members =>
    (Frame.table (!(members.isEmpty || !(memberLines members).isEmpty))).fill
      (lineEntries members ++ tableEntries members)
  | .array items => .elements (rowEntries items)
  | v => .value v

/-- The entries of the members that stand under headers. -/
def tableEntries : List (String × Toml) → List (String × Entry)
  | [] => []
  | (k, v) :: ms => if isLine v then tableEntries ms else (k, entryOf v) :: tableEntries ms

/-- The entries of the elements of an array of tables. -/
def rowEntries : List Toml → List (List (String × Entry))
  | [] => []
  | .table members :: vs => (lineEntries members ++ tableEntries members) :: rowEntries vs
  | _ :: vs => rowEntries vs

end

/-- The entries of a document. -/
def documentEntries (members : List (String × Toml)) : List (String × Entry) :=
  lineEntries members ++ tableEntries members

/-- A document has an entry for every member. -/
theorem keys_documentEntries_perm (members : List (String × Toml)) :
    (Members.keys (documentEntries members)).Perm (Members.keys members) := by
  induction members with
  | nil => simp [documentEntries, lineEntries, tableEntries]
  | cons m ms ih =>
    obtain ⟨k, v⟩ := m
    simp only [documentEntries, Members.keys_append] at ih
    simp only [documentEntries, lineEntries, tableEntries, Members.keys_append, Members.keys_cons]
    split
    · simpa using ih
    · exact List.perm_middle.trans (ih.cons k)

/-- The lines of members with new names add their entries. -/
theorem run?_lineSteps : ∀ {members : List (String × Toml)} {before : List (String × Entry)},
    (Members.keys (before ++ lineEntries members)).Nodup →
      run? ⟨[], before⟩ (lineSteps members) = some ⟨[], before ++ lineEntries members⟩
  | [], before, _ => by simp [lineSteps, lineEntries]
  | (k, v) :: ms, before, h => by
    simp only [lineSteps, lineEntries] at h ⊢
    split at h
    · rename_i hline
      have hk : k ∉ Members.keys before := by
        rw [Members.keys_append] at h
        intro hmem
        exact (List.nodup_append.1 h).2.2 k hmem k (by simp) rfl
      have hstep : Draft.step? ⟨[], before⟩ (.assign [k] v) =
          some ⟨[], before ++ [(k, .value v)]⟩ := by
        simp only [Draft.step?, assign?_singleton]
        rw [if_neg (by rw [Members.has_iff]; exact hk), Members.put_eq_append hk]
        rfl
      rw [if_pos hline, if_pos hline, run?_cons, hstep, Option.bind_some,
        run?_lineSteps (by simpa using h), List.append_assoc]
      rfl
    · rename_i hline
      rw [if_neg hline, if_neg hline]
      exact run?_lineSteps h

/-- A document makes its entries as soon as its tables add theirs. -/
theorem run?_documentSteps_of_tables {members : List (String × Toml)}
    (h : (Members.keys members).Nodup)
    (htables : (Members.keys (lineEntries members ++ tableEntries members)).Nodup →
      ∃ path, run? ⟨[], lineEntries members⟩ (tableSteps [] members) =
        some ⟨path, lineEntries members ++ tableEntries members⟩) :
    ∃ path, run? ⟨[], []⟩ (documentSteps members) = some ⟨path, documentEntries members⟩ := by
  have hkeys : (Members.keys (documentEntries members)).Nodup :=
    (keys_documentEntries_perm members).nodup_iff.2 h
  obtain ⟨path, hpath⟩ := htables hkeys
  rw [documentEntries, Members.keys_append] at hkeys
  have hlines : run? ⟨[], []⟩ (lineSteps members) = some ⟨[], [] ++ lineEntries members⟩ :=
    run?_lineSteps (by simpa using (List.nodup_append.1 hkeys).1)
  exact ⟨path, by rw [documentSteps, run?_append, hlines]; simpa [documentEntries] using hpath⟩

theorem hasPath_documentSteps {members : List (String × Toml)} (h : ProperMembers members) :
    ∀ line ∈ documentSteps members, line.HasPath := by
  intro line hline
  rcases List.mem_append.1 hline with hline | hline
  · exact hasPath_lineSteps members line hline
  · exact hasPath_parts (fun p hp => (proper_of_mem_tableParts h p hp).1) line hline

/-- A table adds its entry under a name that is new as soon as its document makes it. -/
theorem run?_table_of_document {members : List (String × Toml)} (hv : ProperMembers members)
    {path' : List String}
    (hdocument : run? ⟨[], []⟩ (documentSteps members) = some ⟨path', documentEntries members⟩)
    {k : String} {before : List (String × Entry)} (hk : k ∉ Members.keys before)
    (path : List String) :
    run? ⟨path, before⟩ ((memberParts [k] (.table members)).flatMap Part.steps) =
      some ⟨k :: path', before ++ [(k, entryOf (.table members))]⟩ := by
  have hsteps : (documentSteps members).map (Line.under k) =
      lineSteps members ++ tableSteps [k] members := by
    rw [documentSteps, List.map_append, map_under_lineSteps, ← tableSteps_cons]
  have hpaths := hasPath_documentSteps hv
  rw [memberParts, List.flatMap_append, ← tableSteps, entryOf, ← documentEntries]
  by_cases hheader : (members.isEmpty || !(memberLines members).isEmpty) = true
  · -- the table has a header of its own, and all else stands under it
    have hopen : Draft.step? ⟨path, before⟩ (.table [k]) =
        some ⟨[k], before ++ [(k, (Frame.table false).fill [])]⟩ := by
      simp [Draft.step?, openTable?, splitLast?, within?, Members.get?_eq_none_iff.2 hk,
        Members.put_eq_append hk, Frame.fill]
    have hrun := run?_under hk (Frame.table false) hpaths [] []
    rw [hdocument, hsteps] at hrun
    rw [if_pos hheader, hheader]
    simpa [Part.steps, Part.header, hopen] using hrun
  · -- the first header below makes the table
    simp only [Bool.or_eq_true, List.isEmpty_iff, Bool.not_eq_true', not_or,
      Bool.not_eq_false] at hheader
    have hfirst := tableParts_ne_nil [] hheader.1 (memberLines_eq_nil_iff.1 hheader.2)
    obtain ⟨p, ps, hps⟩ := List.exists_cons_of_ne_nil hfirst
    have hshape : documentSteps members = p.header :: (lineSteps p.members ++
        ps.flatMap Part.steps) := by
      rw [documentSteps, lineSteps_eq_nil hheader.2, tableSteps, hps]
      rfl
    rw [hshape] at hpaths
    have hrun := run?_new hk p.isHeader_header hpaths path
    rw [← hshape, hdocument, hsteps, lineSteps_eq_nil hheader.2] at hrun
    have hno : (members.isEmpty || !(memberLines members).isEmpty) = false := by
      simp [hheader]
    rw [hno]
    simpa using hrun

/-- Entries with the rows of an array of tables behind them; as long as there is no row there is no
array. -/
def withRows (before : List (String × Entry)) (k : String) (rows : List (List (String × Entry))) :
    List (String × Entry) :=
  if rows = [] then before else before ++ [(k, .elements rows)]

/-- The header of an element adds an empty row. -/
theorem step?_element {before : List (String × Entry)} {k : String}
    (hk : k ∉ Members.keys before) (rows : List (List (String × Entry))) (path : List String) :
    Draft.step? ⟨path, withRows before k rows⟩ (.element [k]) =
      some ⟨[k], before ++ [(k, (Frame.element rows).fill [])]⟩ := by
  have hnone := Members.get?_eq_none_iff.2 hk
  by_cases hrows : rows = []
  · simp [withRows, hrows, Draft.step?, openElement?, splitLast?, within?, hnone,
      Members.put_eq_append hk, Frame.fill]
  · simp [withRows, hrows, Draft.step?, openElement?, splitLast?, within?, Members.get?_append,
      hnone, Members.get?, Members.put_append_of_not_mem hk, Members.put, Frame.fill]

/-- An element adds its row as soon as its document makes it. -/
theorem run?_element_of_document {members : List (String × Toml)} (hv : ProperMembers members)
    {path' : List String}
    (hdocument : run? ⟨[], []⟩ (documentSteps members) = some ⟨path', documentEntries members⟩)
    {k : String} {before : List (String × Entry)} (hk : k ∉ Members.keys before)
    (rows : List (List (String × Entry))) (path : List String) :
    run? ⟨path, withRows before k rows⟩
        (.element [k] :: (lineSteps members ++ tableSteps [k] members)) =
      some ⟨k :: path', withRows before k (rows ++ [documentEntries members])⟩ := by
  have hsteps : (documentSteps members).map (Line.under k) =
      lineSteps members ++ tableSteps [k] members := by
    rw [documentSteps, List.map_append, map_under_lineSteps, ← tableSteps_cons]
  have hrun := run?_under hk (Frame.element rows) (hasPath_documentSteps hv) [] []
  rw [hdocument, hsteps] at hrun
  rw [run?_cons, step?_element hk, Option.bind_some, hrun]
  simp [withRows, Frame.fill]

theorem memberParts_eq_nil {v : Toml} (h : isLine v = true) (path : List String) :
    memberParts path v = [] := by
  cases v with
  | table members => simp [isLine, isTable] at h
  | array items =>
    cases items with
    | nil => rfl
    | cons v vs =>
      have hall : ¬(v :: vs).all isTable = true := by
        intro hall
        rw [show isLine (.array (v :: vs)) = (true && !(v :: vs).all isTable) from rfl, hall] at h
        simp at h
      rw [memberParts, if_neg hall]
  | _ => rfl

mutual

/-- **The lines of a table add its entry under a name that is new.** -/
theorem run?_memberParts : ∀ {v : Toml}, isLine v = false → v.Proper →
    ∀ {k : String} {before : List (String × Entry)}, k ∉ Members.keys before →
      ∀ (path : List String), ∃ path',
        run? ⟨path, before⟩ ((memberParts [k] v).flatMap Part.steps) =
          some ⟨path', before ++ [(k, entryOf v)]⟩
  | .table members, _, hv, k, before, hk, path => by
    obtain ⟨path', hdocument⟩ := run?_documentSteps_of_tables hv.1 fun h =>
      run?_tableSteps hv.2 h []
    exact ⟨k :: path', run?_table_of_document hv.2 hdocument hk path⟩
  | .array (v :: vs), hline, hv, k, before, hk, path => by
    have hall : (v :: vs).all isTable = true := by
      simpa [isLine, isTable, isTableArray] using hline
    obtain ⟨path', hrun⟩ := run?_elementParts hv hall hk [] path
    have hrows : rowEntries (v :: vs) ≠ [] := by
      cases v <;> simp [isTable] at hall
      simp [rowEntries]
    rw [memberParts, if_pos hall, entryOf]
    exact ⟨path', by simpa [withRows, hrows] using hrun⟩
  | .array [], h, _, _, _, _, _ => by simp [isLine, isTable, isTableArray] at h
  | .str _, h, _, _, _, _, _ => by simp [isLine, isTable, isTableArray] at h
  | .int _, h, _, _, _, _, _ => by simp [isLine, isTable, isTableArray] at h
  | .float _, h, _, _, _, _, _ => by simp [isLine, isTable, isTableArray] at h
  | .bool _, h, _, _, _, _, _ => by simp [isLine, isTable, isTableArray] at h
  | .moment _, h, _, _, _, _, _ => by simp [isLine, isTable, isTableArray] at h

/-- The lines of the tables among some members add their entries. -/
theorem run?_tableSteps : ∀ {members : List (String × Toml)}, ProperMembers members →
    ∀ {before : List (String × Entry)},
      (Members.keys (before ++ tableEntries members)).Nodup →
      ∀ (path : List String), ∃ path', run? ⟨path, before⟩ (tableSteps [] members) =
        some ⟨path', before ++ tableEntries members⟩
  | [], _, before, _, path => ⟨path, by simp [tableSteps, tableParts, tableEntries]⟩
  | (k, v) :: ms, hv, before, hkeys, path => by
    simp only [tableEntries] at hkeys ⊢
    rw [tableSteps, tableParts, List.flatMap_append, ← tableSteps, List.nil_append]
    by_cases hline : isLine v = true
    · rw [if_pos hline] at hkeys ⊢
      rw [memberParts_eq_nil hline]
      exact run?_tableSteps hv.2 hkeys path
    · rw [if_neg hline] at hkeys ⊢
      have hk : k ∉ Members.keys before := by
        rw [Members.keys_append] at hkeys
        intro hmem
        exact (List.nodup_append.1 hkeys).2.2 k hmem k (by simp) rfl
      obtain ⟨path', hmember⟩ := run?_memberParts (by simpa using hline) hv.1 hk path
      rw [List.append_cons] at hkeys
      obtain ⟨path'', hrest⟩ := run?_tableSteps hv.2 hkeys path'
      exact ⟨path'', by rw [run?_append, hmember, Option.bind_some, hrest]; simp⟩

/-- The lines of the elements of an array of tables add their rows. -/
theorem run?_elementParts : ∀ {items : List Toml}, ProperItems items → items.all isTable = true →
    ∀ {k : String} {before : List (String × Entry)}, k ∉ Members.keys before →
      ∀ (rows : List (List (String × Entry))) (path : List String), ∃ path',
        run? ⟨path, withRows before k rows⟩ ((elementParts [k] items).flatMap Part.steps) =
          some ⟨path', withRows before k (rows ++ rowEntries items)⟩
  | [], _, _, _, before, _, rows, path => ⟨path, by simp [elementParts, rowEntries]⟩
  | .table members :: vs, hv, htable, k, before, hk, rows, path => by
    obtain ⟨path', hdocument⟩ := run?_documentSteps_of_tables hv.1.1 fun h =>
      run?_tableSteps hv.1.2 h []
    have hrow := run?_element_of_document hv.1.2 hdocument hk rows path
    obtain ⟨path'', hrest⟩ := run?_elementParts hv.2 (by simpa [isTable] using htable) hk
      (rows ++ [documentEntries members]) (k :: path')
    have hsteps : (elementParts [k] (.table members :: vs)).flatMap Part.steps =
        .element [k] :: (lineSteps members ++ tableSteps [k] members) ++
          (elementParts [k] vs).flatMap Part.steps := by
      simp [elementParts, Part.steps, Part.header, tableSteps]
    exact ⟨path'', by
      rw [hsteps, run?_append, hrow, Option.bind_some, hrest]
      simp [rowEntries, documentEntries]⟩
  | .array _ :: vs, _, htable, _, _, _, _, _ => by simp [isTable] at htable
  | .str _ :: vs, _, htable, _, _, _, _, _ => by simp [isTable] at htable
  | .int _ :: vs, _, htable, _, _, _, _, _ => by simp [isTable] at htable
  | .float _ :: vs, _, htable, _, _, _, _, _ => by simp [isTable] at htable
  | .bool _ :: vs, _, htable, _, _, _, _, _ => by simp [isTable] at htable
  | .moment _ :: vs, _, htable, _, _, _, _, _ => by simp [isTable] at htable

end

/-- **The lines of a document make its entries.** -/
theorem run?_documentSteps {members : List (String × Toml)} (hkeys : (Members.keys members).Nodup)
    (hv : ProperMembers members) :
    ∃ path, run? ⟨[], []⟩ (documentSteps members) = some ⟨path, documentEntries members⟩ :=
  run?_documentSteps_of_tables hkeys fun h => run?_tableSteps hv h []

end FirmwareSurvey.Toml
