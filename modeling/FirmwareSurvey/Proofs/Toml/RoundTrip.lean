import FirmwareSurvey.Proofs.Toml.Draft

/-!
# Documents read back

A table written as a document reads back as the same table up to the order of members, if it is
proper and its lines fit: `readsBack_iff`. A JSON value goes into a proper TOML value, so this is
what becomes of reports and results that are written as TOML.
-/

namespace FirmwareSurvey.Toml

open Entry

/-! ### What a document reads back as -/

/-- The members that are no tables, in order. -/
def linesFirst : List (String × Toml) → List (String × Toml)
  | [] => []
  | (k, v) :: ms => if isLine v then (k, v) :: linesFirst ms else linesFirst ms

mutual

/-- A value as it reads back under headers: in every table the members that are no tables first. -/
def arranged : Toml → Toml
  | .table members => .table (linesFirst members ++ tablesLast members)
  | .array items => .array (arrangedRows items)
  | v => v

/-- The members that stand under headers, in order, each as it reads back. -/
def tablesLast : List (String × Toml) → List (String × Toml)
  | [] => []
  | (k, v) :: ms => if isLine v then tablesLast ms else (k, arranged v) :: tablesLast ms

/-- The elements of an array of tables, each as it reads back. -/
def arrangedRows : List Toml → List Toml
  | [] => []
  | .table members :: vs => .table (linesFirst members ++ tablesLast members) :: arrangedRows vs
  | _ :: vs => arrangedRows vs

end

/-- The members of a document as they read back. -/
def arrangedMembers (members : List (String × Toml)) : List (String × Toml) :=
  linesFirst members ++ tablesLast members

theorem toMembers_append (es fs : List (String × Entry)) :
    toMembers (es ++ fs) = toMembers es ++ toMembers fs := by
  induction es with
  | nil => rfl
  | cons e es ih =>
    obtain ⟨k, e⟩ := e
    simp [toMembers, ih]

theorem toMembers_lineEntries (members : List (String × Toml)) :
    toMembers (lineEntries members) = linesFirst members := by
  induction members with
  | nil => rfl
  | cons m ms ih =>
    obtain ⟨k, v⟩ := m
    simp only [lineEntries, linesFirst]
    split
    · rw [toMembers, ih]
      rfl
    · exact ih

mutual

theorem toToml_entryOf : ∀ {v : Toml}, isLine v = false → (entryOf v).toToml = arranged v
  | .table members, _ => by
    rw [entryOf, Frame.fill, toToml, arranged, toMembers_append, toMembers_lineEntries,
      toMembers_tableEntries members]
  | .array items, _ => by
    rw [entryOf, toToml, arranged, toRows_rowEntries items]
  | .str _, h => by simp [isLine, isTable, isTableArray] at h
  | .int _, h => by simp [isLine, isTable, isTableArray] at h
  | .float _, h => by simp [isLine, isTable, isTableArray] at h
  | .bool _, h => by simp [isLine, isTable, isTableArray] at h
  | .moment _, h => by simp [isLine, isTable, isTableArray] at h

theorem toMembers_tableEntries : ∀ members : List (String × Toml),
    toMembers (tableEntries members) = tablesLast members
  | [] => rfl
  | (k, v) :: ms => by
    rw [tableEntries, tablesLast]
    by_cases hline : isLine v = true
    · rw [if_pos hline, if_pos hline, toMembers_tableEntries ms]
    · rw [if_neg hline, if_neg hline, toMembers, toToml_entryOf (by simpa using hline),
        toMembers_tableEntries ms]

theorem toRows_rowEntries : ∀ items : List Toml, toRows (rowEntries items) = arrangedRows items
  | [] => rfl
  | .table members :: vs => by
    rw [rowEntries, arrangedRows, toRows, toMembers_append, toMembers_lineEntries,
      toMembers_tableEntries members, toRows_rowEntries vs]
  | .array _ :: vs => by simpa [rowEntries, arrangedRows] using toRows_rowEntries vs
  | .str _ :: vs => by simpa [rowEntries, arrangedRows] using toRows_rowEntries vs
  | .int _ :: vs => by simpa [rowEntries, arrangedRows] using toRows_rowEntries vs
  | .float _ :: vs => by simpa [rowEntries, arrangedRows] using toRows_rowEntries vs
  | .bool _ :: vs => by simpa [rowEntries, arrangedRows] using toRows_rowEntries vs
  | .moment _ :: vs => by simpa [rowEntries, arrangedRows] using toRows_rowEntries vs

end

theorem toMembers_documentEntries (members : List (String × Toml)) :
    toMembers (documentEntries members) = arrangedMembers members := by
  rw [documentEntries, toMembers_append, toMembers_lineEntries, toMembers_tableEntries,
    arrangedMembers]

theorem head?_sectionsText (ps : List Part) :
    (sectionsText true (ps.map Part.section)).toList.head? ≠ some '\uFEFF' := by
  cases ps with
  | nil => simp [sectionsText]
  | cons p ps =>
    by_cases hp : p.element = true <;>
      simp [sectionsText, Part.section, hp, elementHeader, tableHeader]

theorem head?_memberLines {ms : List (String × Toml)} (hne : memberLines ms ≠ [])
    (rest : List Char) :
    ((String.join (memberLines ms)).toList ++ rest).head? ≠ some '\uFEFF' := by
  induction ms with
  | nil => exact absurd rfl hne
  | cons m ms ih =>
    obtain ⟨k, v⟩ := m
    simp only [memberLines] at hne ⊢
    split
    · obtain ⟨c, r, hc, hkind⟩ := exists_keyChars k.toList
      have hmark : c ≠ '\uFEFF' := by
        rintro rfl
        rcases hkind with h | h | h <;> exact absurd h (by decide)
      simp [keyText, hc, hmark]
    · rename_i hline
      rw [if_neg hline] at hne
      exact ih hne

/-- No document starts with a byte order mark. -/
theorem head?_documentText (members : List (String × Toml)) :
    (documentText members).toList.head? ≠ some '\uFEFF' := by
  rw [documentText, ← map_section_tableParts, sectionsText]
  by_cases hne : memberLines members = []
  · simpa [hne] using head?_sectionsText (tableParts [] members)
  · simpa using head?_memberLines hne _

/-- **A document reads back as its members arranged** when all of its lines fit, and is refused when
one does not. -/
theorem parse?_documentText {members : List (String × Toml)} (hkeys : (Members.keys members).Nodup)
    (hv : ProperMembers members) :
    parse? (documentText members) =
      if (documentSteps members).all Line.fits then some (arrangedMembers members) else none := by
  have hreads := readsAs_documentText (2 * (documentText members).toList.length + 4) hv (by omega)
  obtain ⟨path, hrun⟩ := run?_documentSteps hkeys hv
  rw [hreads.parse? (head?_documentText members), hrun]
  simp [toMembers_documentEntries]

/-! ### Values that differ in the order of members -/

mutual

/-- Whether two values are the same up to the order of members. -/
def Same : Toml → Toml → Prop
  | .array as, .array bs => SameItems as bs
  | .table ms, .table ns => (Members.keys ms).Perm (Members.keys ns) ∧ SameMembers ms ns
  | .array _, _ => False
  | .table _, _ => False
  | .str s, w => .str s = w
  | .int n, w => .int n = w
  | .float x, w => .float x = w
  | .bool b, w => .bool b = w
  | .moment t, w => .moment t = w

/-- Whether the items of two arrays are the same one by one. -/
def SameItems : List Toml → List Toml → Prop
  | [], [] => True
  | v :: vs, w :: ws => Same v w ∧ SameItems vs ws
  | _, _ => False

/-- Whether every member of a table has the same value in another. -/
def SameMembers : List (String × Toml) → List (String × Toml) → Prop
  | [], _ => True
  | (k, v) :: ms, ns => (∃ w, Members.get? ns k = some w ∧ Same v w) ∧ SameMembers ms ns

end

theorem sameMembers_append {ms ms' ns : List (String × Toml)} :
    SameMembers (ms ++ ms') ns ↔ SameMembers ms ns ∧ SameMembers ms' ns := by
  induction ms with
  | nil => simp [SameMembers]
  | cons m ms ih =>
    obtain ⟨k, v⟩ := m
    rw [List.cons_append, SameMembers, SameMembers, ih, and_assoc]

mutual

theorem same_self : ∀ {v : Toml}, v.Proper → Same v v
  | .array items, hv => by
    rw [Same]
    exact sameItems_self hv
  | .table members, hv => by
    rw [Same]
    exact ⟨List.Perm.refl _, sameMembers_self hv.2 fun m hm => Members.get?_of_mem hv.1 hm⟩
  | .str _, _ => rfl
  | .int _, _ => rfl
  | .float _, _ => rfl
  | .bool _, _ => rfl
  | .moment _, _ => rfl

theorem sameItems_self : ∀ {items : List Toml}, ProperItems items → SameItems items items
  | [], _ => trivial
  | _ :: _, hv => ⟨same_self hv.1, sameItems_self hv.2⟩

theorem sameMembers_self : ∀ {members ns : List (String × Toml)}, ProperMembers members →
    (∀ m ∈ members, Members.get? ns m.1 = some m.2) → SameMembers members ns
  | [], _, _, _ => trivial
  | (k, v) :: ms, ns, hv, h =>
    ⟨⟨v, h (k, v) (by simp), same_self hv.1⟩,
      sameMembers_self hv.2 fun m hm => h m (List.mem_cons_of_mem _ hm)⟩

end

theorem mem_of_mem_linesFirst {members : List (String × Toml)} {m : String × Toml}
    (h : m ∈ linesFirst members) : m ∈ members := by
  induction members with
  | nil => simp [linesFirst] at h
  | cons p ms ih =>
    obtain ⟨k, v⟩ := p
    simp only [linesFirst] at h
    split at h
    · rcases List.mem_cons.1 h with rfl | h
      · simp
      · exact List.mem_cons_of_mem _ (ih h)
    · exact List.mem_cons_of_mem _ (ih h)

theorem properMembers_iff {members : List (String × Toml)} :
    ProperMembers members ↔ ∀ m ∈ members, m.2.Proper := by
  induction members with
  | nil => simp [ProperMembers]
  | cons m ms ih =>
    obtain ⟨k, v⟩ := m
    simp [ProperMembers, ih]

theorem keys_arrangedMembers_perm (members : List (String × Toml)) :
    (Members.keys (arrangedMembers members)).Perm (Members.keys members) := by
  induction members with
  | nil => simp [arrangedMembers, linesFirst, tablesLast]
  | cons m ms ih =>
    obtain ⟨k, v⟩ := m
    simp only [arrangedMembers, Members.keys_append] at ih
    simp only [arrangedMembers, linesFirst, tablesLast, Members.keys_append, Members.keys_cons]
    split
    · simpa using ih
    · exact List.perm_middle.trans (ih.cons k)

/-- Members that are no tables are the same wherever they stand. -/
theorem sameMembers_linesFirst {members : List (String × Toml)}
    (hkeys : (Members.keys members).Nodup) (hv : ProperMembers members) :
    SameMembers (linesFirst members) members := by
  refine sameMembers_self (properMembers_iff.2 fun m hm => ?_) fun m hm => ?_
  · exact properMembers_iff.1 hv m (mem_of_mem_linesFirst hm)
  · exact Members.get?_of_mem hkeys (mem_of_mem_linesFirst hm)

mutual

/-- **A value arranged is the same value.** -/
theorem same_arranged : ∀ {v : Toml}, isLine v = false → v.Proper → Same (arranged v) v
  | .table members, _, hv => by
    rw [arranged, Same]
    exact ⟨keys_arrangedMembers_perm members, sameMembers_append.2
      ⟨sameMembers_linesFirst hv.1 hv.2,
        sameMembers_tablesLast hv.2 fun m hm => Members.get?_of_mem hv.1 hm⟩⟩
  | .array (v :: vs), h, hv => by
    have hall : (v :: vs).all isTable = true := by
      simpa [isLine, isTable, isTableArray] using h
    rw [arranged, Same]
    exact sameItems_arrangedRows hall hv
  | .array [], h, _ => by simp [isLine, isTable, isTableArray] at h
  | .str _, h, _ => by simp [isLine, isTable, isTableArray] at h
  | .int _, h, _ => by simp [isLine, isTable, isTableArray] at h
  | .float _, h, _ => by simp [isLine, isTable, isTableArray] at h
  | .bool _, h, _ => by simp [isLine, isTable, isTableArray] at h
  | .moment _, h, _ => by simp [isLine, isTable, isTableArray] at h

theorem sameMembers_tablesLast : ∀ {members ns : List (String × Toml)}, ProperMembers members →
    (∀ m ∈ members, Members.get? ns m.1 = some m.2) → SameMembers (tablesLast members) ns
  | [], _, _, _ => trivial
  | (k, v) :: ms, ns, hv, h => by
    have hrest := sameMembers_tablesLast hv.2 fun m hm => h m (List.mem_cons_of_mem _ hm)
    rw [tablesLast]
    by_cases hline : isLine v = true
    · rw [if_pos hline]
      exact hrest
    · rw [if_neg hline]
      exact ⟨⟨v, h (k, v) (by simp), same_arranged (by simpa using hline) hv.1⟩, hrest⟩

theorem sameItems_arrangedRows : ∀ {items : List Toml}, items.all isTable = true →
    ProperItems items → SameItems (arrangedRows items) items
  | [], _, _ => trivial
  | .table members :: vs, h, hv => by
    rw [arrangedRows, SameItems, Same]
    exact ⟨⟨keys_arrangedMembers_perm members, sameMembers_append.2
      ⟨sameMembers_linesFirst hv.1.1 hv.1.2,
        sameMembers_tablesLast hv.1.2 fun m hm => Members.get?_of_mem hv.1.1 hm⟩⟩,
      sameItems_arrangedRows (by simpa [isTable] using h) hv.2⟩
  | .array _ :: vs, h, _ => by simp [isTable] at h
  | .str _ :: vs, h, _ => by simp [isTable] at h
  | .int _ :: vs, h, _ => by simp [isTable] at h
  | .float _ :: vs, h, _ => by simp [isTable] at h
  | .bool _ :: vs, h, _ => by simp [isTable] at h
  | .moment _ :: vs, h, _ => by simp [isTable] at h

end

theorem same_arrangedMembers {members : List (String × Toml)}
    (hkeys : (Members.keys members).Nodup) (hv : ProperMembers members) :
    Same (.table (arrangedMembers members)) (.table members) :=
  same_arranged (v := .table members) rfl ⟨hkeys, hv⟩

/-- Whether a table written as a document reads back as the same table. -/
def ReadsBack (members : List (String × Toml)) : Prop :=
  ∃ read, parse? (documentText members) = some read ∧ Same (.table read) (.table members)

/-- **A proper table reads back exactly when all of its lines fit.** -/
theorem readsBack_iff {members : List (String × Toml)} (hkeys : (Members.keys members).Nodup)
    (hv : ProperMembers members) :
    ReadsBack members ↔ (documentSteps members).all Line.fits = true := by
  rw [ReadsBack, parse?_documentText hkeys hv]
  by_cases hfits : (documentSteps members).all Line.fits = true
  · simp [hfits, same_arrangedMembers hkeys hv]
  · simp [hfits]

end FirmwareSurvey.Toml
