import FirmwareSurvey.Proofs.Report.Order
import FirmwareSurvey.Proofs.Toml.Glue

/-!
# Reports read back

A report written as a TOML document is glued together from one document for each field, with
comments between them. The comments are read as nothing as long as they stay on their lines, so the
lines of the text are those of its fields, one field behind another, and the text reads back as the
table of its fields exactly when no mixed list comes behind a field under headers:
`toToml_readsBack_iff`.
-/

namespace FirmwareSurvey.Report

open Toml

/-! ### The kept fields -/

/-- **The kept fields have distinct names**, and each is a declared one that says something. -/
theorem flatten_spec (provenance : Provenance) (declared : Members Json) :
    (Members.keys (flatten provenance false declared)).Nodup ∧
      ∀ f ∈ flatten provenance false declared, f ∈ declared ∧ isKept f = true := by
  have hfold : ∀ (l m : Members Json), (Members.keys m).Nodup →
      (∀ f ∈ m, f ∈ declared ∧ isKept f = true) → (∀ f ∈ l, f ∈ declared ∧ isKept f = true) →
      (Members.keys (l.foldl (fun m f => Members.put m f.1 f.2) m)).Nodup ∧
        ∀ f ∈ l.foldl (fun m f => Members.put m f.1 f.2) m, f ∈ declared ∧ isKept f = true := by
    intro l
    induction l with
    | nil => exact fun m hm hkept _ => ⟨hm, hkept⟩
    | cons f l ih =>
      intro m hm hkept hl
      obtain ⟨hf, hl⟩ := List.forall_mem_cons.1 hl
      refine ih _ (Members.keys_nodup_put hm f.1 f.2) (fun g hg => ?_) hl
      rcases Members.mem_put hg with hg | rfl
      · exact hkept g hg
      · exact hf
  refine hfold (declared.filter isKept) [] (by simp) (by simp) fun f hf => ?_
  exact List.mem_filter.1 hf

/-! ### Comments -/

/-- Whether a text has no control characters but tabs and line ends. -/
def IsPlain (s : String) : Prop := ∀ c ∈ s.toList, isCommentChar c = true ∨ c = '\r' ∨ c = '\n'

theorem isCommentChar_singleLine {s : String} (h : IsPlain s) :
    ∀ c ∈ singleLine s.toList, isCommentChar c = true := by
  intro c hc
  obtain ⟨d, hd, rfl⟩ := List.mem_map.1 hc
  split
  · rfl
  · rename_i hends
    simp only [Bool.or_eq_true, beq_iff_eq, not_or] at hends
    rcases h d hd with h | h | h
    · exact h
    · exact absurd h hends.1
    · exact absurd h hends.2

theorem isCommentChar_truncateMethod {cs : List Char} (h : ∀ c ∈ cs, isCommentChar c = true) :
    ∀ c ∈ truncateMethod cs, isCommentChar c = true := by
  intro c hc
  rw [truncateMethod] at hc
  split at hc
  · exact h c hc
  · rcases List.mem_append.1 hc with hc | hc
    · exact h c (List.mem_of_mem_take hc)
    · have : c = '.' := by simpa using hc
      rw [this]
      rfl

/-- A comment line is read as nothing. -/
theorem readsAs_commentLine (room : Nat) (cs : List Char) (h : ∀ c ∈ cs, isCommentChar c = true) :
    ReadsAs room (commentLine cs).toList [] := by
  have hspace : ∀ c ∈ ' ' :: cs, isCommentChar c = true := List.forall_mem_cons.2 ⟨rfl, h⟩
  simpa [commentLine] using readsAs_comment room hspace

/-- The comments on an origin are read as nothing. -/
theorem readsAs_originLines (room : Nat) {origin : Option Origin}
    (h : ∀ o, origin = some o → IsPlain o.source ∧ IsPlain o.method) :
    ReadsAs room (originLines origin).toList [] := by
  cases origin with
  | none => exact ReadsAs.nil room
  | some o =>
    obtain ⟨hsource, hmethod⟩ := h o rfl
    have hword : ∀ word ∈ ["Source: ", "Method: "], ∀ c ∈ word.toList, isCommentChar c = true := by
      simp only [← List.all_eq_true]
      decide
    have h1 := readsAs_commentLine room ("Source: ".toList ++ singleLine o.source.toList)
      fun c hc => (List.mem_append.1 hc).elim (hword _ (by simp) c)
        (isCommentChar_singleLine hsource c)
    have h2 := readsAs_commentLine room
      ("Method: ".toList ++ truncateMethod (singleLine o.method.toList))
      fun c hc => (List.mem_append.1 hc).elim (hword _ (by simp) c)
        (isCommentChar_truncateMethod (isCommentChar_singleLine hmethod) c)
    rw [originLines, String.toList_append]
    exact h1.append h2

/-! ### Fields -/

theorem length_le_length_join (text : String → String) {names : List String} {k : String}
    (hk : k ∈ names) :
    (text k).toList.length ≤ (String.join (names.map text)).toList.length := by
  induction names with
  | nil => cases hk
  | cons l names ih =>
    rw [List.map_cons, String.join_cons, String.toList_append, List.length_append]
    rcases List.mem_cons.1 hk with rfl | hk
    · omega
    · have := ih hk
      omega

/-- What is kept when texts are put one behind another holds of texts in a row. -/
theorem join_of_append {P : List Char → List Line → Prop} (hnil : P [] [])
    (happend : ∀ {t u : List Char} {ls ms : List Line}, P t ls → P u ms → P (t ++ u) (ls ++ ms))
    {text : String → String} {steps : String → List Line} {names : List String}
    (h : ∀ k ∈ names, P (text k).toList (steps k)) :
    P (String.join (names.map text)).toList (names.flatMap steps) := by
  induction names with
  | nil => exact hnil
  | cons k names ih =>
    obtain ⟨hk, hnames⟩ := List.forall_mem_cons.1 h
    rw [List.map_cons, String.join_cons, String.toList_append, List.flatMap_cons]
    exact happend hk (ih hnames)

/-- Texts in a row are read as their lines in a row. -/
theorem readsAs_join {room : Nat} {text : String → String} {steps : String → List Line}
    {names : List String} (h : ∀ k ∈ names, 2 * (text k).toList.length ≤ room →
      ReadsAs room (text k).toList (steps k))
    (hroom : 2 * (String.join (names.map text)).toList.length ≤ room) :
    ReadsAs room (String.join (names.map text)).toList (names.flatMap steps) := by
  refine join_of_append (ReadsAs.nil room) ReadsAs.append fun k hk => h k hk ?_
  have := length_le_length_join text hk
  omega

/-- The lines of a field. -/
def fieldSteps (fields : Members Json) (k : String) : List Line :=
  gluedSteps (writtenMembers fields [k])

theorem gluedSteps_writtenMembers (fields : Members Json) (names : List String) :
    gluedSteps (writtenMembers fields names) = names.flatMap (fieldSteps fields) := by
  induction names with
  | nil => rfl
  | cons k names ih =>
    rw [show k :: names = [k] ++ names from rfl, writtenMembers, List.filterMap_append,
      gluedSteps_append, List.flatMap_append, ← writtenMembers, ← writtenMembers, ih]
    simp [fieldSteps]

/-- A field as a document of its own is read as its lines. -/
theorem readsAs_entryText {room : Nat} {fields : Members Json} {k : String} {v : Json}
    (hv : fields.get? k = some v) (hproper : v.Proper)
    (hroom : 2 * (entryText k v).toList.length ≤ room) :
    ReadsAs room (entryText k v).toList (fieldSteps fields k) := by
  rw [entryText] at hroom ⊢
  cases ht : Toml.ofJson? v with
  | none =>
    have hno : fieldSteps fields k = [] := by simp [fieldSteps, writtenMembers, hv, ht, gluedSteps]
    rw [hno]
    exact ReadsAs.nil room
  | some t =>
    have hsteps : fieldSteps fields k = documentSteps [(k, t)] := by
      simp [fieldSteps, writtenMembers, hv, ht, gluedSteps]
    rw [hsteps]
    exact readsAs_documentText room ⟨proper_ofJson? hproper ht, trivial⟩ (by simpa [ht] using hroom)

variable {r : Report} {fields : Members Json} {room : Nat}

theorem readsAs_simpleText (hproper : ∀ f ∈ fields, f.2.Proper)
    (horigin : ∀ k o, r.provenance.get? k = some o → IsPlain o.source ∧ IsPlain o.method)
    {k : String} {v : Json} (hv : fields.get? k = some v)
    (hroom : 2 * (r.simpleText fields k).toList.length ≤ room) :
    ReadsAs room (r.simpleText fields k).toList (fieldSteps fields k) := by
  simp only [simpleText, hv, String.toList_append, List.length_append] at hroom ⊢
  exact (readsAs_originLines room (horigin k)).append
    (readsAs_entryText hv (hproper _ (Members.mem_of_get? hv)) (by omega))

theorem readsAs_complexText (hproper : ∀ f ∈ fields, f.2.Proper)
    (horigin : ∀ k o, r.provenance.get? k = some o → IsPlain o.source ∧ IsPlain o.method)
    {k : String} {v : Json} (hv : fields.get? k = some v)
    (hheading : ∀ c ∈ (heading k).toList, isCommentChar c = true)
    (hroom : 2 * (r.complexText fields k).toList.length ≤ room) :
    ReadsAs room (r.complexText fields k).toList (fieldSteps fields k) := by
  simp only [complexText, hv, String.toList_append, List.length_append, List.append_assoc]
    at hroom ⊢
  exact (readsAs_feed room).append ((readsAs_commentLine room _ hheading).append
    ((readsAs_originLines room (horigin k)).append
      (readsAs_entryText hv (hproper _ (Members.mem_of_get? hv)) (by omega))))

/-- A field whose heading has a control character is refused. -/
theorem refused_complexText {k : String} {v : Json} (hv : fields.get? k = some v)
    (hends : ∀ c ∈ (heading k).toList, c ≠ '\n' ∧ c ≠ '\r')
    (hheading : ¬∀ c ∈ (heading k).toList, isCommentChar c = true) :
    Refused room (r.complexText fields k).toList := by
  have hbad : ∃ c ∈ ' ' :: (heading k).toList, isCommentChar c = false := by
    by_contra hno
    exact hheading fun c hc => by
      by_contra hc'
      exact hno ⟨c, List.mem_cons_of_mem _ hc, by simpa using hc'⟩
  have hcomment := refused_comment room (List.forall_mem_cons.2 ⟨by decide, hends⟩) hbad
  have htext : (r.complexText fields k).toList = ['\n'] ++ (('#' :: ' ' :: (heading k).toList) ++
      ['\n'] ++ ((originLines (r.provenance.get? k)).toList ++ (entryText k v).toList)) := by
    simp [complexText, hv, commentLine]
  rw [htext]
  exact (readsAs_feed room).refused (hcomment.append _)

/-- Texts in a row are refused as soon as one of them is and those before it are read. -/
theorem refused_join {text : String → String} (steps : String → List Line) :
    ∀ {names : List String}, (∀ k ∈ names, 2 * (text k).toList.length ≤ room →
        ReadsAs room (text k).toList (steps k) ∨ Refused room (text k).toList) →
      (∃ k ∈ names, Refused room (text k).toList) →
      2 * (String.join (names.map text)).toList.length ≤ room →
        Refused room (String.join (names.map text)).toList
  | [], _, hbad, _ => by simp at hbad
  | k :: names, h, hbad, hroom => by
    rw [List.map_cons, String.join_cons, String.toList_append] at hroom ⊢
    rw [List.length_append] at hroom
    rcases h k (by simp) (by omega) with hk | hk
    · by_cases hrefused : Refused room (text k).toList
      · exact hrefused.append _
      · obtain ⟨l, hl, hbad⟩ := hbad
        rcases List.mem_cons.1 hl with rfl | hl
        · exact absurd hbad hrefused
        · exact hk.refused (refused_join steps (fun l hl => h l (List.mem_cons_of_mem _ hl))
            ⟨l, hl, hbad⟩ (by omega))
    · exact hk.append _

/-! ### The document -/

/-- Whether the comments of a document say nothing but what stands on their lines: stamp, title and
origins have no control characters but tabs and, apart from the stamp, line ends. -/
structure PlainComments (r : Report) (stamp title : String) : Prop where
  /-- The stamp. -/
  stamp : ∀ c ∈ stamp.toList, isCommentChar c = true
  /-- The title. -/
  title : IsPlain title
  /-- The origins of fields. -/
  origins : ∀ o ∈ r.provenance, IsPlain o.2.source ∧ IsPlain o.2.method

/-- The names of the fields in the order in which they are written. -/
def writtenOrder (r : Report) (fields : Members Json) (simple complex : Option (List String)) :
    List String × List String :=
  fieldOrder fields (simple.or r.simpleFields) (complex.or r.complexFields)

/-- The fields as members of a TOML table in the order in which they are written. -/
def written (r : Report) (fields : Members Json) (simple complex : Option (List String)) :
    List (String × Toml) :=
  writtenMembers fields
    ((r.writtenOrder fields simple complex).1 ++ (r.writtenOrder fields simple complex).2)

/-- What stands before the first field; `bare` tells that no scalar field follows. -/
def opening (stamp title : String) (bare : Bool) : String :=
  commentLine (singleLine title.toList) ++ commentLine ("Generated: ".toList ++ stamp.toList) ++
    (if bare then "" else "\n")

theorem tomlText_eq (stamp title : String) (simple complex : Option (List String)) :
    r.tomlText fields stamp title simple complex =
      opening stamp title (r.writtenOrder fields simple complex).1.isEmpty ++
        String.join ((r.writtenOrder fields simple complex).1.map (r.simpleText fields)) ++
        String.join ((r.writtenOrder fields simple complex).2.map (r.complexText fields)) :=
  rfl

theorem readsAs_opening {stamp title : String} (h : PlainComments r stamp title) (bare : Bool) :
    ReadsAs room (opening stamp title bare).toList [] := by
  have h1 := readsAs_commentLine room _ (isCommentChar_singleLine h.title)
  have hword : ∀ c ∈ "Generated: ".toList, isCommentChar c = true :=
    List.all_eq_true.1 (by decide)
  have h2 := readsAs_commentLine room ("Generated: ".toList ++ stamp.toList)
    fun c hc => (List.mem_append.1 hc).elim (hword c) (h.stamp c)
  have h3 : ReadsAs room (if bare then "" else "\n").toList [] := by
    cases bare
    · exact readsAs_feed room
    · exact ReadsAs.nil room
  rw [opening, String.toList_append, String.toList_append]
  exact (h1.append h2).append h3

theorem PlainComments.origin {stamp title : String} (h : PlainComments r stamp title) :
    ∀ k o, r.provenance.get? k = some o → IsPlain o.source ∧ IsPlain o.method :=
  fun k o ho => h.origins (k, o) (Members.mem_of_get? ho)

/-- No document starts with a byte order mark. -/
theorem head?_tomlText (stamp title : String) (simple complex : Option (List String)) :
    (r.tomlText fields stamp title simple complex).toList.head? ≠ some '\uFEFF' := by
  rw [tomlText_eq]
  simp [opening, commentLine]

variable {stamp title : String} (hkeys : (Members.keys fields).Nodup)
  (hproper : ∀ f ∈ fields, f.2.Proper) (h : PlainComments r stamp title)
  (simple complex : Option (List String))

include hkeys hproper h

theorem readsAs_simpleTexts
    (hroom : 2 * (String.join ((r.writtenOrder fields simple complex).1.map
      (r.simpleText fields))).toList.length ≤ room) :
    ReadsAs room (String.join ((r.writtenOrder fields simple complex).1.map
      (r.simpleText fields))).toList
        ((r.writtenOrder fields simple complex).1.flatMap (fieldSteps fields)) := by
  refine readsAs_join (fun k hk hlen => ?_) hroom
  obtain ⟨v, hv, -⟩ := (mem_fieldOrder_fst hkeys).1 hk
  exact readsAs_simpleText hproper h.origin hv hlen

variable (room) in
/-- **The text of a report is read as the lines of its fields**, if no heading has a control
character. -/
theorem readsAs_tomlText
    (hheadings : ∀ k ∈ (r.writtenOrder fields simple complex).2,
      ∀ c ∈ (heading k).toList, isCommentChar c = true)
    (hroom : 2 * (r.tomlText fields stamp title simple complex).toList.length ≤ room) :
    ReadsAs room (r.tomlText fields stamp title simple complex).toList
      (gluedSteps (r.written fields simple complex)) := by
  rw [tomlText_eq, String.toList_append, String.toList_append] at hroom ⊢
  simp only [List.length_append] at hroom
  rw [written, gluedSteps_writtenMembers, List.flatMap_append]
  refine ((readsAs_opening h _).append
    (readsAs_simpleTexts hkeys hproper h simple complex (by omega))).append
    (readsAs_join (fun k hk hlen => ?_) (by omega))
  obtain ⟨v, hv, -⟩ := (mem_fieldOrder_snd hkeys).1 hk
  exact readsAs_complexText hproper h.origin hv (hheadings k hk) hlen

variable (room) in
/-- The text of a report is refused when a heading has a control character. -/
theorem refused_tomlText
    (hends : ∀ k ∈ (r.writtenOrder fields simple complex).2,
      ∀ c ∈ (heading k).toList, c ≠ '\n' ∧ c ≠ '\r')
    (hheading : ¬∀ k ∈ (r.writtenOrder fields simple complex).2,
      ∀ c ∈ (heading k).toList, isCommentChar c = true)
    (hroom : 2 * (r.tomlText fields stamp title simple complex).toList.length ≤ room) :
    Refused room (r.tomlText fields stamp title simple complex).toList := by
  rw [tomlText_eq, String.toList_append, String.toList_append] at hroom ⊢
  simp only [List.length_append] at hroom
  refine ((readsAs_opening h _).append
    (readsAs_simpleTexts hkeys hproper h simple complex (by omega))).refused
    (refused_join (fieldSteps fields) (fun k hk hlen => ?_) ?_ (by omega))
  · obtain ⟨v, hv, -⟩ := (mem_fieldOrder_snd hkeys).1 hk
    by_cases hplain : ∀ c ∈ (heading k).toList, isCommentChar c = true
    · exact Or.inl (readsAs_complexText hproper h.origin hv hplain hlen)
    · exact Or.inr (refused_complexText hv (hends k hk) hplain)
  · by_contra hno
    refine hheading fun k hk => ?_
    by_contra hplain
    obtain ⟨v, hv, -⟩ := (mem_fieldOrder_snd hkeys).1 hk
    exact hno ⟨k, hk, refused_complexText hv (hends k hk) hplain⟩

omit hkeys hproper h

/-- In the order of declaration the fields are those of the object in TOML. -/
theorem writtenMembers_keys (hkeys : (Members.keys fields).Nodup) :
    writtenMembers fields (Members.keys fields) = ofJsonMembers fields := by
  have hsub : ∀ {l : Members Json}, (∀ f ∈ l, fields.get? f.1 = some f.2) →
      writtenMembers fields (Members.keys l) = ofJsonMembers l := by
    intro l hl
    induction l with
    | nil => rfl
    | cons f l ih =>
      obtain ⟨k, v⟩ := f
      obtain ⟨hv, hl⟩ := List.forall_mem_cons.1 hl
      have ih := ih hl
      rw [writtenMembers] at ih
      rw [writtenMembers, Members.keys_cons, List.filterMap_cons, hv, ofJsonMembers, ih]
      cases ht : ofJson? v <;> simp [ht]
  exact hsub fun f hf => Members.get?_of_mem hkeys hf

/-- **The fields are written as the members of the object in TOML**, in another order. -/
theorem written_perm (hkeys : (Members.keys fields).Nodup) (simple complex : Option (List String)) :
    (r.written fields simple complex).Perm (ofJsonMembers fields) := by
  rw [← writtenMembers_keys hkeys]
  exact (fieldOrder_perm hkeys _ _).filterMap _

theorem keys_written_nodup (hkeys : (Members.keys fields).Nodup)
    (simple complex : Option (List String)) :
    (Members.keys (r.written fields simple complex)).Nodup :=
  ((written_perm hkeys simple complex).map fun m : String × Toml => m.1).nodup_iff.2
    (hkeys.sublist (keys_ofJsonMembers_sublist fields))

theorem proper_written (hkeys : (Members.keys fields).Nodup)
    (hproper : ∀ f ∈ fields, f.2.Proper) (simple complex : Option (List String)) :
    ∀ m ∈ r.written fields simple complex, m.2.Proper := fun m hm =>
  properMembers_iff.1 (proper_ofJsonMembers (Json.properMembers_iff.2 hproper)) m
    ((written_perm hkeys simple complex).mem_iff.1 hm)

/-- Every line of the text fits, for every field reads back on its own. -/
theorem fits_written (hkeys : (Members.keys fields).Nodup)
    (hproper : ∀ f ∈ fields, f.2.Proper) (simple complex : Option (List String))
    (hback : ∀ m ∈ ofJsonMembers fields, Toml.ReadsBack [m]) :
    (gluedSteps (r.written fields simple complex)).all Line.fits = true := by
  rw [gluedSteps, List.all_flatMap, List.all_eq_true]
  intro m hm
  have hone : ProperMembers [m] :=
    properMembers_iff.2 (by simpa using proper_written hkeys hproper simple complex m hm)
  exact (readsBack_iff (by simp [Members.keys]) hone).1
    (hback m ((written_perm hkeys simple complex).mem_iff.1 hm))

theorem toToml_eq (hfields : r.toMap false = .ok fields) (stamp title : String)
    (simple complex : Option (List String)) :
    r.toToml stamp title simple complex =
      match parse? (r.tomlText fields stamp title simple complex) with
      | some _ => .ok (r.tomlText fields stamp title simple complex)
      | none => .error .invalidToml := by
  cases hparse : parse? (r.tomlText fields stamp title simple complex) <;>
    simp [toToml, hfields, hparse, bind, Except.bind]

/-- A report reads back when its text is a TOML document that has every field of the report under
its name, and nothing else. -/
def ReadsBack (r : Report) (fields : Members Json) (stamp title : String)
    (simple complex : Option (List String)) : Prop :=
  ∃ text read, r.toToml stamp title simple complex = .ok text ∧ parse? text = some read ∧
    Same (.table read) (.table (ofJsonMembers fields))

theorem readsBack_iff_parse? (hfields : r.toMap false = .ok fields)
    (simple complex : Option (List String)) :
    r.ReadsBack fields stamp title simple complex ↔
      ∃ read, parse? (r.tomlText fields stamp title simple complex) = some read ∧
        Same (.table read) (.table (ofJsonMembers fields)) := by
  rw [Report.ReadsBack, toToml_eq hfields]
  cases hread : parse? (r.tomlText fields stamp title simple complex) with
  | none => simp
  | some read => simp [hread]

/-- The kept fields are flattened from the declared ones. -/
theorem exists_declared (hfields : r.toMap false = .ok fields) :
    ∃ declared, r.value = .obj declared ∧ flatten r.provenance false declared = fields := by
  rw [toMap, declared?] at hfields
  split at hfields
  · rename_i members hmembers
    exact ⟨members, hmembers, by simpa [Except.map] using hfields⟩
  · simp [Except.map] at hfields

/-- The kept fields of a proper report have distinct names and proper values, and none is null. -/
theorem kept_spec (hfields : r.toMap false = .ok fields) (hvalue : r.value.Proper) :
    (Members.keys fields).Nodup ∧ (∀ f ∈ fields, f.2.Proper) ∧ ∀ f ∈ fields, f.2 ≠ .null := by
  obtain ⟨declared, hdeclared, hflatten⟩ := exists_declared hfields
  rw [hdeclared] at hvalue
  obtain ⟨hkeys, hkept⟩ := flatten_spec r.provenance declared
  rw [hflatten] at hkeys hkept
  refine ⟨hkeys, fun f hf => Json.properMembers_iff.1 hvalue.2 f (hkept f hf).1, ?_⟩
  intro f hf heq
  have := (hkept f hf).2
  simp [isKept, heq, isEmptyValue] at this

/-- **A report reads back exactly when its headings stay comments and no mixed list comes behind a
field under headers**: such a list is written as a line, and the line belongs to the table of the
last header. -/
theorem toToml_readsBack_iff (hfields : r.toMap false = .ok fields) (hvalue : r.value.Proper)
    (hplain : PlainComments r stamp title) (simple complex : Option (List String))
    (hends : ∀ k ∈ (r.writtenOrder fields simple complex).2,
      ∀ c ∈ (heading k).toList, c ≠ '\n' ∧ c ≠ '\r')
    (hback : ∀ m ∈ ofJsonMembers fields, Toml.ReadsBack [m]) :
    r.ReadsBack fields stamp title simple complex ↔
      (∀ k ∈ (r.writtenOrder fields simple complex).2,
        ∀ c ∈ (heading k).toList, isCommentChar c = true) ∧
      ¬Swallows fields (r.writtenOrder fields simple complex).2 := by
  obtain ⟨hkeys, hproper, hnull⟩ := kept_spec hfields hvalue
  rw [readsBack_iff_parse? hfields simple complex]
  -- a heading with a character that no comment may have is refused
  by_cases hheadings : ∀ k ∈ (r.writtenOrder fields simple complex).2,
      ∀ c ∈ (heading k).toList, isCommentChar c = true
  · have hreads := readsAs_tomlText
      (2 * (r.tomlText fields stamp title simple complex).toList.length + 4) hkeys hproper hplain
      simple complex hheadings (by omega)
    have hperm := written_perm (r := r) hkeys simple complex
    have hnodup := keys_written_nodup (r := r) hkeys simple complex
    have hglued := run?_gluedSteps_iff hnodup
      (properMembers_iff.2 (proper_written hkeys hproper simple complex))
    rw [written, writtenOrder, pairwise_writtenMembers_iff hkeys hnull, ← writtenOrder,
      ← written] at hglued
    rw [hreads.parse? (head?_tomlText _ _ _ _),
      if_pos (fits_written hkeys hproper simple complex hback), and_iff_right hheadings, ← hglued]
    constructor
    · rintro ⟨read, hread, hsame⟩
      obtain ⟨d, hd, rfl⟩ := Option.map_eq_some_iff.1 hread
      exact ⟨d, hd, (same_table_perm hperm hnodup).2 hsame⟩
    · rintro ⟨d, hd, hsame⟩
      exact ⟨_, Option.map_eq_some_iff.2 ⟨d, hd, rfl⟩, (same_table_perm hperm hnodup).1 hsame⟩
  · have hrefused := refused_tomlText
      (2 * (r.tomlText fields stamp title simple complex).toList.length + 4) hkeys hproper hplain
      simple complex hends hheadings (by omega)
    rw [hrefused.parse? (head?_tomlText _ _ _ _)]
    simp [hheadings]

/-- A report of a table and a list of numbers; the list is written first. -/
def listReport : Report where
  title := "Parts"
  value := .obj [("map", .obj [("boot", .int 1)]), ("sizes", .arr [.int 1, .int 2])]

theorem readsBack_listReport :
    listReport.ReadsBack [("map", .obj [("boot", .int 1)]), ("sizes", .arr [.int 1, .int 2])]
      "now" "Parts" none none := by
  have hback : ∀ m ∈ ofJsonMembers
      [("map", .obj [("boot", .int 1)]), ("sizes", .arr [.int 1, .int 2])],
      Toml.ReadsBack [m] := by
    intro m hm
    have hm : m = ("map", .table [("boot", .int 1)]) ∨
        m = ("sizes", .array [.int 1, .int 2]) := by
      simpa [ofJsonMembers, ofJson?, ofJsonItems] using hm
    rcases hm with rfl | rfl
    · exact (readsBack_iff (by decide) (by simp [Proper, ProperMembers, IsWord])).2
        (by decide +kernel)
    · exact (readsBack_iff (by decide) (by simp [Proper, ProperMembers, ProperItems, IsWord])).2
        (by decide +kernel)
  have hfields : listReport.toMap false =
      .ok [("map", .obj [("boot", .int 1)]), ("sizes", .arr [.int 1, .int 2])] := rfl
  have hheadings : ((listReport.writtenOrder
      [("map", .obj [("boot", .int 1)]), ("sizes", .arr [.int 1, .int 2])] none none).2.all
        fun k => (heading k).toList.all fun c => isCommentChar c && c != '\n' && c != '\r') = true := by
    decide +kernel
  simp only [List.all_eq_true, Bool.and_eq_true, bne_iff_ne] at hheadings
  have hstamp : ∀ c ∈ "now".toList, isCommentChar c = true := List.all_eq_true.1 (by decide)
  have htitle : ∀ c ∈ "Parts".toList, isCommentChar c = true := List.all_eq_true.1 (by decide)
  refine (toToml_readsBack_iff hfields ?_
    ⟨hstamp, fun c hc => Or.inl (htitle c hc), by simp [listReport]⟩ none none
    (fun k hk c hc => ⟨(hheadings k hk c hc).1.2, (hheadings k hk c hc).2⟩) hback).2
    ⟨fun k hk c hc => (hheadings k hk c hc).1.1, ?_⟩
  · simp [listReport, Json.Proper, Json.ProperMembers, Json.ProperItems, Json.IsWord]
  · rintro ⟨a, b, v, w, -, -, -, hw, hmixed⟩
    have hw := Members.mem_of_get? hw
    simp only [List.mem_cons, Prod.mk.injEq, List.not_mem_nil, or_false] at hw
    rcases hw with ⟨-, rfl⟩ | ⟨-, rfl⟩
    · cases hmixed
    · exact absurd hmixed (by decide)

/-- A report of a table and a list that holds a number and a table. -/
def mixedReport : Report where
  title := "Parts"
  value := .obj [("map", .obj [("boot", .int 1)]), ("sizes", .arr [.int 1, .obj [("boot", .int 2)]])]

/-- The list of a mixed report ends up in the table written before it. -/
theorem not_readsBack_mixedReport :
    ¬mixedReport.ReadsBack
      [("map", .obj [("boot", .int 1)]), ("sizes", .arr [.int 1, .obj [("boot", .int 2)]])]
      "now" "Parts" none none := by
  rw [readsBack_iff_parse? rfl none none]
  rintro ⟨read, hread, hsame⟩
  have hkeys : (parse? (mixedReport.tomlText
      [("map", .obj [("boot", .int 1)]), ("sizes", .arr [.int 1, .obj [("boot", .int 2)]])]
      "now" "Parts" none none)).map Members.keys = some ["map"] := by
    decide +kernel
  rw [hread, Option.map_some, Option.some.injEq] at hkeys
  have hlength := hsame.1.length_eq
  rw [hkeys] at hlength
  simp [ofJsonMembers, ofJson?, ofJsonItems] at hlength

end FirmwareSurvey.Report
