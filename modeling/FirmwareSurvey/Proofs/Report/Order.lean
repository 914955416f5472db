import FirmwareSurvey.Proofs.Toml.Json
import FirmwareSurvey.Report.Document
import Mathlib.Data.List.Induction

/-!
# The order of fields

Every kept field is written once, whatever the lists of names say: `fieldOrder_perm`. Scalars and
lists without objects come before the rest, so what is not written on one line comes last. The shape
of a list decides only roughly how it is written, though: a list that holds an object counts as one
written under headers, but stands on a line of its own when it holds anything else (`isMixed`).

The lists of names that come with a report are wishes: they may name a field twice, name it in the
wrong list, or name none at all. What decides is where a name comes up first when the lists are read
one behind the other and the declared names behind them (`goesBefore_iff`), so that a row without
repetitions is in order as soon as it takes every name at its first mention
(`pairwise_distinct_filter`). This holds of each of the three rows that a document is made of: the
scalars, the lists that hold no object, and the rest (`isFieldOrder_fieldOrder`).
-/

namespace FirmwareSurvey.Report

/-! ### Names, each once -/

theorem mem_distinct {names : List String} {k : String} : k ∈ distinct names ↔ k ∈ names := by
  rw [distinct, Members.mem_foldl_distinct]
  simp

theorem nodup_distinct (names : List String) : (distinct names).Nodup := by
  have hseen : ∀ (names seen : List String), seen.Nodup →
      (names.foldl (fun seen n => if n ∈ seen then seen else seen ++ [n]) seen).Nodup := by
    intro names
    induction names with
    | nil => exact fun _ h => h
    | cons n names ih =>
      intro seen h
      rw [List.foldl_cons]
      split
      · exact ih seen h
      · rename_i hn
        refine ih _ (List.nodup_append.2 ⟨h, by simp, ?_⟩)
        intro a ha b hb heq
        rw [List.mem_singleton.1 hb] at heq
        exact hn (heq ▸ ha)
  exact hseen names [] List.nodup_nil

/-- **The names of a class are those of its fields**, listed or not. -/
theorem mem_ordered {p : Json → Bool} {fields : Members Json} (h : (Members.keys fields).Nodup)
    (listed : List String) {k : String} :
    k ∈ ordered p fields listed ↔ ∃ v, fields.get? k = some v ∧ p v = true := by
  rw [ordered, mem_distinct, List.mem_append, List.mem_filter]
  constructor
  · rintro (⟨-, hk⟩ | hk)
    · cases hv : Members.get? fields k with
      | none => simp [hv] at hk
      | some v => exact ⟨v, rfl, by simpa [hv] using hk⟩
    · obtain ⟨⟨l, v⟩, hmem, rfl⟩ := List.mem_map.1 hk
      obtain ⟨hmem, hp⟩ := List.mem_filter.1 hmem
      exact ⟨v, Members.get?_of_mem h hmem, hp⟩
  · rintro ⟨v, hv, hp⟩
    exact Or.inr (List.mem_map.2 ⟨(k, v), List.mem_filter.2 ⟨Members.mem_of_get? hv, hp⟩, rfl⟩)

theorem mem_fieldOrder_fst {fields : Members Json} (h : (Members.keys fields).Nodup)
    {simple complex : Option (List String)} {k : String} :
    k ∈ (fieldOrder fields simple complex).1 ↔
      ∃ v, fields.get? k = some v ∧ isComplex v = false := by
  simpa [fieldOrder] using mem_ordered (p := fun v => !isComplex v) h _

theorem mem_fieldOrder_snd {fields : Members Json} (h : (Members.keys fields).Nodup)
    {simple complex : Option (List String)} {k : String} :
    k ∈ (fieldOrder fields simple complex).2 ↔
      ∃ v, fields.get? k = some v ∧ isComplex v = true := by
  rw [← mem_ordered (p := isComplex) h (simple.getD [] ++ complex.getD [])]
  simp only [fieldOrder, List.mem_append, List.mem_filter, Bool.not_eq_true']
  constructor
  · rintro (h | h) <;> exact h.1
  · intro hk
    cases ((Members.get? fields k).map rendersInline).getD false
    · exact Or.inr ⟨hk, rfl⟩
    · exact Or.inl ⟨hk, rfl⟩

/-- The complex fields are those in order, cut in two by how they are rendered. -/
theorem nodup_fieldOrder_snd (fields : Members Json) (simple complex : Option (List String)) :
    (fieldOrder fields simple complex).2.Nodup := by
  have hperm := List.filter_append_perm
    (fun k => ((fields.get? k).map rendersInline).getD false)
    (ordered isComplex fields (simple.getD [] ++ complex.getD []))
  exact hperm.nodup_iff.2 (nodup_distinct _)

theorem nodup_fieldOrder {fields : Members Json} (h : (Members.keys fields).Nodup)
    (simple complex : Option (List String)) :
    ((fieldOrder fields simple complex).1 ++ (fieldOrder fields simple complex).2).Nodup := by
  refine List.nodup_append.2 ⟨nodup_distinct _, nodup_fieldOrder_snd fields simple complex, ?_⟩
  -- no field is both simple and complex
  rintro a ha b hb rfl
  obtain ⟨v, hv, hsimple⟩ := (mem_fieldOrder_fst h).1 ha
  obtain ⟨w, hw, hcomplex⟩ := (mem_fieldOrder_snd h).1 hb
  rw [hv, Option.some.injEq] at hw
  rw [hw, hcomplex] at hsimple
  cases hsimple

/-- **Every field is written once**, whatever the lists of names are. -/
theorem fieldOrder_perm {fields : Members Json} (h : (Members.keys fields).Nodup)
    (simple complex : Option (List String)) :
    ((fieldOrder fields simple complex).1 ++ (fieldOrder fields simple complex).2).Perm
      (Members.keys fields) := by
  rw [List.perm_ext_iff_of_nodup (nodup_fieldOrder h simple complex) h]
  intro k
  rw [List.mem_append, mem_fieldOrder_fst h, mem_fieldOrder_snd h, ← Members.isSome_get?_iff]
  constructor
  · rintro (⟨v, hv, -⟩ | ⟨v, hv, -⟩) <;> simp [hv]
  · intro hk
    obtain ⟨v, hv⟩ := Option.isSome_iff_exists.1 hk
    cases hc : isComplex v
    · exact Or.inl ⟨v, hv, hc⟩
    · exact Or.inr ⟨v, hv, hc⟩

/-! ### First mentions -/

section

variable {fields : Members Json}

/-- Whether a name goes before another, by the names that are mentioned and those that are declared.
-/
inductive GoesBefore (mentioned declared : List String) (a b : String) : Prop where
  /-- Both are mentioned, this one first. -/
  | sooner (ha : a ∈ mentioned) (hb : b ∈ mentioned) (h : mentioned.idxOf a < mentioned.idxOf b)
  /-- Only this one is mentioned. -/
  | mentioned (ha : a ∈ mentioned) (hb : b ∉ mentioned)
  /-- None is mentioned, and this one is declared first. -/
  | declared (ha : a ∉ mentioned) (hb : b ∉ mentioned) (h : declared.idxOf a < declared.idxOf b)

/-- **What is mentioned and what is declared make one row**, in which the first place counts. -/
theorem goesBefore_iff {mentioned declared : List String} {a b : String} :
    GoesBefore mentioned declared a b ↔
      (mentioned ++ declared).idxOf a < (mentioned ++ declared).idxOf b := by
  constructor
  · rintro (⟨ha, hb, h⟩ | ⟨ha, hb⟩ | ⟨ha, hb, h⟩)
    · rwa [List.idxOf_append_of_mem ha, List.idxOf_append_of_mem hb]
    · have hlt := List.idxOf_lt_length_of_mem ha
      rw [List.idxOf_append_of_mem ha, List.idxOf_append_of_notMem hb]
      omega
    · rw [List.idxOf_append_of_notMem ha, List.idxOf_append_of_notMem hb]
      omega
  · intro h
    by_cases ha : a ∈ mentioned <;> by_cases hb : b ∈ mentioned
    · rw [List.idxOf_append_of_mem ha, List.idxOf_append_of_mem hb] at h
      exact .sooner ha hb h
    · exact .mentioned ha hb
    · have hlt := List.idxOf_lt_length_of_mem hb
      rw [List.idxOf_append_of_notMem ha, List.idxOf_append_of_mem hb] at h
      omega
    · rw [List.idxOf_append_of_notMem ha, List.idxOf_append_of_notMem hb] at h
      exact .declared ha hb (by omega)

theorem distinct_concat (names : List String) (n : String) :
    distinct (names ++ [n]) =
      if n ∈ distinct names then distinct names else distinct names ++ [n] := by
  rw [distinct, List.foldl_append]
  rfl

/-- **Names that are taken at their first mention are in order**, also when some are left out. -/
theorem pairwise_distinct_filter (p : String → Bool) (names : List String) :
    (distinct (names.filter p)).Pairwise fun a b => names.idxOf a < names.idxOf b := by
  -- on the last name: it is behind all names before it, unless it was among them
  induction names using List.reverseRecOn with
  | nil => exact List.Pairwise.nil
  | append_singleton names n ih =>
    have hmem : ∀ {a}, a ∈ distinct (names.filter p) → a ∈ names := fun ha =>
      List.mem_of_mem_filter (mem_distinct.1 ha)
    have hkept : (distinct (names.filter p)).Pairwise fun a b =>
        (names ++ [n]).idxOf a < (names ++ [n]).idxOf b := by
      refine ih.imp_of_mem fun ha hb hlt => ?_
      rwa [List.idxOf_append_of_mem (hmem ha), List.idxOf_append_of_mem (hmem hb)]
    rw [List.filter_append]
    by_cases hp : p n = true
    · rw [List.filter_cons_of_pos hp, List.filter_nil, distinct_concat]
      split
      · exact hkept
      · rename_i hnew
        refine List.pairwise_append.2 ⟨hkept, List.pairwise_singleton _ _, ?_⟩
        intro a ha b hb
        have hn : n ∉ names := fun hn => hnew (mem_distinct.2 (List.mem_filter.2 ⟨hn, hp⟩))
        have hlt := List.idxOf_lt_length_of_mem (hmem ha)
        rw [List.mem_singleton.1 hb, List.idxOf_append_of_mem (hmem ha),
          List.idxOf_append_of_notMem hn]
        omega
    · rw [List.filter_cons_of_neg hp, List.filter_nil, List.append_nil]
      exact hkept

/-! ### The rows of a document -/

/-- The names of a class are taken from those that are mentioned and those that are declared. -/
theorem ordered_eq (h : (Members.keys fields).Nodup) (p : Json → Bool) (listed : List String) :
    ordered p fields listed = distinct ((listed ++ Members.keys fields).filter fun k =>
      ((fields.get? k).map p).getD false) := by
  have hdeclared : Members.keys (fields.filter fun f => p f.2) =
      (Members.keys fields).filter fun k => ((fields.get? k).map p).getD false := by
    rw [Members.keys, Members.keys, List.filter_map]
    refine congrArg _ (List.filter_congr fun f hf => ?_)
    simp [Members.get?_of_mem h hf]
  rw [ordered, hdeclared, List.filter_append]

/-- **The names of a class go by their first mention.** -/
theorem pairwise_ordered (h : (Members.keys fields).Nodup) (p : Json → Bool)
    (listed : List String) :
    (ordered p fields listed).Pairwise (GoesBefore listed (Members.keys fields)) := by
  rw [ordered_eq h]
  exact (pairwise_distinct_filter _ _).imp goesBefore_iff.2

/-- Whether the field of a name is a list in which there is no object. -/
def IsPlainList (fields : Members Json) (k : String) : Prop :=
  ∃ items, fields.get? k = some (.arr items) ∧ ∀ v ∈ items, v.isObject = false

/-- Among the lists and objects, it is the lists without objects that fit on a line. -/
theorem isPlainList_iff {k : String} {v : Json} (hv : fields.get? k = some v)
    (hcomplex : isComplex v = true) : IsPlainList fields k ↔ rendersInline v = true := by
  rw [IsPlainList, hv]
  cases v with
  | arr items => simp [rendersInline]
  | obj members => simp [rendersInline]
  | _ => cases hcomplex

/-- Whether two rows of names are the order of a report's fields, for the names that are mentioned.
-/
structure IsFieldOrder (fields : Members Json) (mentioned : List String)
    (order : List String × List String) : Prop where
  /-- Every field is there once, and nothing else is. -/
  once : (order.1 ++ order.2).Perm (Members.keys fields)
  /-- The first row holds the scalars. -/
  scalar : ∀ k, k ∈ order.1 ↔ ∃ v, fields.get? k = some v ∧ isComplex v = false
  /-- The second row holds the lists and the objects. -/
  composite : ∀ k, k ∈ order.2 ↔ ∃ v, fields.get? k = some v ∧ isComplex v = true
  /-- In the first row names go by their first mention. -/
  first : order.1.Pairwise (GoesBefore mentioned (Members.keys fields))
  /-- In the second row the lists without objects go before the rest, and each part goes by first
  mention. -/
  second : ∃ lists rest, order.2 = lists ++ rest ∧ (∀ k ∈ lists, IsPlainList fields k) ∧
    (∀ k ∈ rest, ¬IsPlainList fields k) ∧
    lists.Pairwise (GoesBefore mentioned (Members.keys fields)) ∧
    rest.Pairwise (GoesBefore mentioned (Members.keys fields))

/-- **Every field has one place, whatever the lists of names say.** Scalars stand in the first row
and everything else in the second, there the lists without objects before the rest. Within each of
these the names that are mentioned come first, in the order of their first mention, and then the
others as they are declared. -/
theorem isFieldOrder_fieldOrder (h : (Members.keys fields).Nodup)
    (simple complex : Option (List String)) :
    IsFieldOrder fields (simple.getD [] ++ complex.getD [])
      (fieldOrder fields simple complex) where
  once := fieldOrder_perm h simple complex
  scalar _ := mem_fieldOrder_fst h
  composite _ := mem_fieldOrder_snd h
  first := pairwise_ordered h _ _
  second := by
    have hplain : ∀ {k}, k ∈ ordered isComplex fields (simple.getD [] ++ complex.getD []) →
        (IsPlainList fields k ↔ ((fields.get? k).map rendersInline).getD false = true) := by
      intro k hk
      obtain ⟨v, hv, hcomplex⟩ := (mem_ordered h _).1 hk
      rw [isPlainList_iff hv hcomplex, hv]
      rfl
    have hsorted := pairwise_ordered h isComplex (simple.getD [] ++ complex.getD [])
    refine ⟨_, _, rfl, ?_, ?_, hsorted.filter _, hsorted.filter _⟩
    · intro k hk
      obtain ⟨hk, hinline⟩ := List.mem_filter.1 hk
      exact (hplain hk).2 hinline
    · intro k hk hlist
      obtain ⟨hk, hinline⟩ := List.mem_filter.1 hk
      simp [(hplain hk).1 hlist] at hinline

/-- Fields of all kinds, two of them lists. -/
def kindsOfFields : Members Json :=
  [("version", .int 1), ("entries", .arr [.obj []]), ("name", .str "rm1"),
    ("commands", .arr [.str "go"]), ("board", .obj []), ("size", .int 2)]

theorem isFieldOrder_kindsOfFields :
    (Members.keys kindsOfFields).Nodup ∧
      fieldOrder kindsOfFields (some ["entries", "size", "absent", "size"])
          (some ["board", "name", "commands", "entries"]) =
        (["size", "name", "version"], ["commands", "entries", "board"]) ∧
      IsFieldOrder kindsOfFields
        ["entries", "size", "absent", "size", "board", "name", "commands", "entries"]
        (["size", "name", "version"], ["commands", "entries", "board"]) := by
  have hnodup : (Members.keys kindsOfFields).Nodup := by decide
  have horder : fieldOrder kindsOfFields (some ["entries", "size", "absent", "size"])
      (some ["board", "name", "commands", "entries"]) =
        (["size", "name", "version"], ["commands", "entries", "board"]) := by decide
  exact ⟨hnodup, horder, horder ▸ isFieldOrder_fieldOrder hnodup
    (some ["entries", "size", "absent", "size"]) (some ["board", "name", "commands", "entries"])⟩

end

/-! ### Lines and headers -/

/-- An item of a list that keeps the list from being an array of tables. -/
def isPlainItem : Json → Bool
  | .null => false
  | .obj _ => false
  | _ => true

/-- Whether a value is a list that holds an object and something else, nulls apart. -/
def isMixed : Json → Bool
  | .arr items => items.any Json.isObject && items.any isPlainItem
  | _ => false

/-- Whether a value is written under headers: an object, or a list of objects. -/
def isHeaded (v : Json) : Bool := !rendersInline v && !isMixed v

theorem all_isTable_ofJsonItems (items : List Json) :
    (Toml.ofJsonItems items).all Toml.isTable = !items.any isPlainItem := by
  induction items with
  | nil => rfl
  | cons v vs ih =>
    cases v with
    | int n => by_cases h : n < 0x8000000000000000 <;>
        simp [Toml.ofJsonItems, Toml.ofJson?, Toml.isTable, isPlainItem, h]
    | _ => simp [Toml.ofJsonItems, Toml.ofJson?, Toml.isTable, isPlainItem, ih]

theorem ofJsonItems_eq_nil_iff (items : List Json) :
    Toml.ofJsonItems items = [] ↔
      items.any isPlainItem = false ∧ items.any Json.isObject = false := by
  induction items with
  | nil => simp [Toml.ofJsonItems]
  | cons v vs ih =>
    cases v with
    | int n => by_cases h : n < 0x8000000000000000 <;>
        simp [Toml.ofJsonItems, Toml.ofJson?, isPlainItem, h]
    | _ => simp [Toml.ofJsonItems, Toml.ofJson?, isPlainItem, Json.isObject, ih]

/-- **A field stands on a line of its own exactly when it is not headed.** -/
theorem isLine_ofJson? {v : Json} {t : Toml} (h : Toml.ofJson? v = some t) :
    Toml.isLine t = !isHeaded v := by
  cases v with
  | null => cases h
  | int n =>
    by_cases hn : n < 0x8000000000000000 <;> simp only [Toml.ofJson?, hn, if_true, if_false,
      Option.some.injEq] at h <;> subst h <;> rfl
  | arr items =>
    cases h
    have htables := all_isTable_ofJsonItems items
    have hnil := ofJsonItems_eq_nil_iff items
    have hline : Toml.isLine (.array (Toml.ofJsonItems items)) =
        (Toml.ofJsonItems items = [] || !(Toml.ofJsonItems items).all Toml.isTable) := by
      cases Toml.ofJsonItems items <;> simp [Toml.isLine, Toml.isTable, Toml.isTableArray]
    rw [hline, htables]
    simp only [isHeaded, rendersInline, isMixed]
    cases h1 : items.any Json.isObject <;> cases h2 : items.any isPlainItem <;> simp_all
  | _ =>
    cases h
    rfl

/-- The fields as members of a TOML table, in the order of some names. -/
def writtenMembers (fields : Members Json) (names : List String) : List (String × Toml) :=
  names.filterMap fun k => ((fields.get? k).bind Toml.ofJson?).map fun t => (k, t)

/-- Whether a list of mixed items comes behind a field under headers, in whose table it ends up. -/
def Swallows (fields : Members Json) (names : List String) : Prop :=
  ∃ a b v w, [a, b].Sublist names ∧ fields.get? a = some v ∧ isHeaded v = true ∧
    fields.get? b = some w ∧ isMixed w = true

/-- The field of a name, as it is written, is a line or not as its value is headed or not. -/
theorem isLine_written {fields : Members Json} {k : String} {v : Json} {a : String × Toml}
    (hv : fields.get? k = some v)
    (ha : ((fields.get? k).bind Toml.ofJson?).map (fun t => (k, t)) = some a) :
    Toml.isLine a.2 = !isHeaded v := by
  rw [hv, Option.bind_some, Option.map_eq_some_iff] at ha
  obtain ⟨t, ht, rfl⟩ := ha
  exact isLine_ofJson? ht

/-- The names of the fields that are no scalars, the lists without objects first. -/
theorem fieldOrder_snd (fields : Members Json) (simple complex : Option (List String)) :
    (fieldOrder fields simple complex).2 =
      (ordered isComplex fields (simple.getD [] ++ complex.getD [])).filter
          (fun k => ((fields.get? k).map rendersInline).getD false) ++
        (ordered isComplex fields (simple.getD [] ++ complex.getD [])).filter
          (fun k => !((fields.get? k).map rendersInline).getD false) :=
  rfl

/-- Scalars and lists without objects are written on one line. -/
theorem exists_rendersInline {fields : Members Json} (h : (Members.keys fields).Nodup)
    {simple complex : Option (List String)} {k : String}
    (hk : k ∈ (fieldOrder fields simple complex).1 ++
      (ordered isComplex fields (simple.getD [] ++ complex.getD [])).filter
        (fun k => ((fields.get? k).map rendersInline).getD false)) :
    ∃ v, fields.get? k = some v ∧ rendersInline v = true := by
  rcases List.mem_append.1 hk with hk | hk
  · obtain ⟨v, hv, hsimple⟩ := (mem_fieldOrder_fst h).1 hk
    exact ⟨v, hv, by cases v <;> simp [isComplex] at hsimple <;> rfl⟩
  · obtain ⟨hk, hinline⟩ := List.mem_filter.1 hk
    obtain ⟨v, hv, -⟩ := (mem_ordered h _).1 hk
    exact ⟨v, hv, by simpa [hv] using hinline⟩

/-- **Fields are in an order that keeps them apart exactly when no mixed list comes behind a field
under headers.** -/
theorem pairwise_writtenMembers_iff {fields : Members Json} (h : (Members.keys fields).Nodup)
    (hnull : ∀ f ∈ fields, f.2 ≠ .null) (simple complex : Option (List String)) :
    (writtenMembers fields ((fieldOrder fields simple complex).1 ++
        (fieldOrder fields simple complex).2)).Pairwise
          (fun a b => Toml.isLine b.2 = true → Toml.isLine a.2 = true) ↔
      ¬Swallows fields (fieldOrder fields simple complex).2 := by
  rw [writtenMembers, List.pairwise_filterMap]
  constructor
  · rintro hsorted ⟨a, b, v, w, hsub, hv, hheaded, hw, hmixed⟩
    have hwritten : ∀ {k : String} {v : Json}, fields.get? k = some v → ∃ a,
        ((fields.get? k).bind Toml.ofJson?).map (fun t => (k, t)) = some a := by
      intro k v hv
      obtain ⟨t, ht⟩ := Toml.ofJson?_ne_none (hnull (k, v) (Members.mem_of_get? hv))
      exact ⟨(k, t), by simp [hv, ht]⟩
    obtain ⟨t, ht⟩ := hwritten hv
    obtain ⟨u, hu⟩ := hwritten hw
    have hpair := (List.pairwise_iff_forall_sublist.1 hsorted)
      (hsub.trans (List.sublist_append_right _ _)) _ ht _ hu
    have hw' : isHeaded w = false := by simp [isHeaded, hmixed]
    simp [isLine_written hv ht, isLine_written hw hu, hheaded, hw'] at hpair
  · intro hkeep
    have hlines : ∀ k ∈ (fieldOrder fields simple complex).1 ++
        (ordered isComplex fields (simple.getD [] ++ complex.getD [])).filter
          (fun k => ((fields.get? k).map rendersInline).getD false), ∀ a,
        ((fields.get? k).bind Toml.ofJson?).map (fun t => (k, t)) = some a →
          Toml.isLine a.2 = true := by
      intro k hk a ha
      obtain ⟨v, hv, hinline⟩ := exists_rendersInline h hk
      simp [isLine_written hv ha, isHeaded, hinline]
    -- what is surely a line comes first, so only two names of the rest can be in the wrong order
    rw [fieldOrder_snd, ← List.append_assoc, List.pairwise_append]
    refine ⟨?_, ?_, fun k hk _ _ a ha _ _ _ => hlines k hk a ha⟩
    · refine List.Pairwise.imp_of_mem ?_ (List.pairwise_of_forall (fun _ _ => trivial))
      intro k _ hk _ _ a ha _ _ _
      exact hlines k hk a ha
    · rw [List.pairwise_iff_forall_sublist]
      intro k l hsub a ha b hb hlb
      by_contra hla
      have hmem := hsub.subset
      obtain ⟨hk, -⟩ := List.mem_filter.1 (hmem (show k ∈ [k, l] by simp))
      obtain ⟨hl, hinline⟩ := List.mem_filter.1 (hmem (show l ∈ [k, l] by simp))
      obtain ⟨v, hv, -⟩ := (mem_ordered h _).1 hk
      obtain ⟨w, hw, -⟩ := (mem_ordered h _).1 hl
      rw [isLine_written hv ha] at hla
      rw [isLine_written hw hb] at hlb
      -- a name of the rest whose field is a line stands for a mixed list
      have hnot : rendersInline w = false := by simpa [hw] using hinline
      refine hkeep ⟨k, l, v, w, ?_, hv, by simpa using hla, hw, by simpa [isHeaded, hnot] using hlb⟩
      rw [fieldOrder_snd]
      exact hsub.trans (List.sublist_append_right _ _)

end FirmwareSurvey.Report
