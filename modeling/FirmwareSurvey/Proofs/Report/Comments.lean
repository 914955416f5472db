import FirmwareSurvey.Proofs.Report.Document
import FirmwareSurvey.Proofs.Text.Lines

/-!
# Comments that say nothing

A comment of a document may say whatever it likes: its line feeds become spaces before it is written,
so that it stays on its line, and a comment on one line is either read as nothing or refused with
the whole text (`Toml.settled_comment`). Only the headings are written as they come, letter case
apart, and stay on their lines when the names of the fields do. So a document that is handed out is
read as the lines of its fields, whatever its title and its origins are: `toToml_inert`.
-/

namespace FirmwareSurvey.Text

/-! ### Line feeds -/

theorem eq_of_toUpper_eq_feed : ∀ n < 0x80, (Char.ofNat n).toUpper = '\n' → n = 10 := by
  decide

/-- **No character but the line feed has one in its upper case.** -/
theorem eq_feed_of_mem_upperChar {c : Char} (h : '\n' ∈ upperChar c) : c = '\n' := by
  rw [upperChar] at h
  -- A character is mapped as in ASCII, by an expansion, by the shift of a range, or to itself.
  split at h
  · rename_i hascii
    have hupper : (Char.ofNat c.toNat).toUpper = '\n' := by
      rw [Char.ofNat_toNat]
      exact (List.mem_singleton.1 h).symm
    rw [← Char.ofNat_toNat c, eq_of_toUpper_eq_feed c.toNat hascii hupper]
  · rw [mapCase] at h
    dsimp only at h
    split at h
    · rename_i cs hfind
      obtain ⟨n, hn, hfeed⟩ := List.mem_map.1 h
      have hall : upperExpansions.all (fun e => e.2.all (· != 10)) = true := by decide
      have := List.all_eq_true.1 (List.all_eq_true.1 hall _ (List.mem_of_find?_eq_some hfind)) n hn
      rw [eq_of_ofNat_eq_feed hfeed] at this
      cases this
    · split at h
      · rename_i first last step shift hfind
        have hshift := eq_of_ofNat_eq_feed (List.mem_singleton.1 h).symm
        have hall : upperShifts.all (fun e => decide (10 < (e.1 : Int) + e.2.2.2)) = true := by decide
        have hlow := List.all_eq_true.1 hall _ (List.mem_of_find?_eq_some hfind)
        have hin := List.find?_some hfind
        simp only [Bool.and_eq_true, decide_eq_true_eq] at hlow hin
        omega
      · exact (List.mem_singleton.1 h).symm

end FirmwareSurvey.Text

namespace FirmwareSurvey.Report

open Toml

/-! ### What stands on one line -/

theorem feed_not_mem_singleLine (cs : List Char) : '\n' ∉ singleLine cs := by
  intro h
  obtain ⟨c, -, hc⟩ := List.mem_map.1 h
  split at hc
  · cases hc
  · rename_i hends
    exact hends (by simp [hc])

theorem feed_not_mem_truncateMethod {cs : List Char} (h : '\n' ∉ cs) :
    '\n' ∉ truncateMethod cs := by
  rw [truncateMethod]
  split
  · exact h
  · intro hmem
    rcases List.mem_append.1 hmem with hmem | hmem
    · exact h (List.mem_of_mem_take hmem)
    · simp at hmem

/-- **A heading stays on its line** when the name of its field does. -/
theorem feed_not_mem_heading {field : String} (h : '\n' ∉ field.toList) :
    '\n' ∉ (heading field).toList := by
  intro hmem
  rw [heading, String.toList_ofList] at hmem
  rcases Text.mem_joinWith hmem with hspace | ⟨word, hword, hmem⟩
  · cases hspace
  · obtain ⟨piece, hpiece, rfl⟩ := List.mem_map.1 hword
    have hsub := fun hc => h (Text.mem_of_mem_cut (List.mem_filter.1 hpiece).1 hc)
    cases piece with
    | nil => cases hmem
    | cons c cs =>
      rcases List.mem_append.1 hmem with hmem | hmem
      · rw [Text.eq_feed_of_mem_upperChar hmem] at hsub
        exact hsub List.mem_cons_self
      · exact hsub (List.mem_cons_of_mem _ hmem)

/-! ### Texts with comments -/

/-- A comment line is settled, whatever it says. -/
theorem settled_commentLine (room : Nat) {cs : List Char} (h : '\n' ∉ cs) :
    Settled room (commentLine cs).toList [] := by
  have hspace : '\n' ∉ ' ' :: cs := by simpa using h
  simpa [commentLine] using settled_comment room hspace

/-- **The comments on an origin are settled**, whatever they say. -/
theorem settled_originLines (room : Nat) (origin : Option Origin) :
    Settled room (originLines origin).toList [] := by
  cases origin with
  | none => exact Or.inl (ReadsAs.nil room)
  | some o =>
    have hword : ∀ word ∈ ["Source: ", "Method: "], '\n' ∉ word.toList := by decide
    have hsource := settled_commentLine room fun h => (List.mem_append.1 h).elim
      (hword "Source: " (by simp)) (feed_not_mem_singleLine o.source.toList)
    have hmethod := settled_commentLine room fun h => (List.mem_append.1 h).elim
      (hword "Method: " (by simp))
      (feed_not_mem_truncateMethod (feed_not_mem_singleLine o.method.toList))
    rw [originLines, String.toList_append]
    exact hsource.append hmethod

variable {r : Report} {fields : Members Json} {room : Nat}

theorem settled_simpleText (hproper : ∀ f ∈ fields, f.2.Proper) {k : String} {v : Json}
    (hv : fields.get? k = some v) (hroom : 2 * (r.simpleText fields k).toList.length ≤ room) :
    Settled room (r.simpleText fields k).toList (fieldSteps fields k) := by
  simp only [simpleText, hv, String.toList_append, List.length_append] at hroom ⊢
  exact (settled_originLines room _).append
    (Or.inl (readsAs_entryText hv (hproper _ (Members.mem_of_get? hv)) (by omega)))

theorem settled_complexText (hproper : ∀ f ∈ fields, f.2.Proper) {k : String} {v : Json}
    (hv : fields.get? k = some v) (hname : '\n' ∉ k.toList)
    (hroom : 2 * (r.complexText fields k).toList.length ≤ room) :
    Settled room (r.complexText fields k).toList (fieldSteps fields k) := by
  simp only [complexText, hv, String.toList_append, List.length_append, List.append_assoc]
    at hroom ⊢
  have hfeed : Settled room "\n".toList [] := Or.inl (readsAs_feed room)
  exact hfeed.append ((settled_commentLine room (feed_not_mem_heading hname)).append
    ((settled_originLines room _).append
      (Or.inl (readsAs_entryText hv (hproper _ (Members.mem_of_get? hv)) (by omega)))))

theorem settled_opening (room : Nat) {stamp : String} (hstamp : '\n' ∉ stamp.toList)
    (title : String) (bare : Bool) : Settled room (opening stamp title bare).toList [] := by
  have hword : '\n' ∉ "Generated: ".toList := by decide
  have htitle := settled_commentLine room (feed_not_mem_singleLine title.toList)
  have hmade := settled_commentLine room fun h => (List.mem_append.1 h).elim hword hstamp
  have hfeed : Settled room (if bare then "" else "\n").toList [] := by
    cases bare
    · exact Or.inl (readsAs_feed room)
    · exact Or.inl (ReadsAs.nil room)
  rw [opening, String.toList_append, String.toList_append]
  exact (htitle.append hmade).append hfeed

variable (room) in
/-- **The text of a report is read as the lines of its fields or refused**, whatever its comments
say. -/
theorem settled_tomlText (hkeys : (Members.keys fields).Nodup)
    (hproper : ∀ f ∈ fields, f.2.Proper) (hnames : ∀ f ∈ fields, '\n' ∉ f.1.toList)
    {stamp : String} (hstamp : '\n' ∉ stamp.toList) (title : String)
    (simple complex : Option (List String))
    (hroom : 2 * (r.tomlText fields stamp title simple complex).toList.length ≤ room) :
    Settled room (r.tomlText fields stamp title simple complex).toList
      (gluedSteps (r.written fields simple complex)) := by
  rw [tomlText_eq, String.toList_append, String.toList_append] at hroom ⊢
  simp only [List.length_append] at hroom
  rw [written, gluedSteps_writtenMembers, List.flatMap_append]
  have hnil : Settled room [] [] := Or.inl (ReadsAs.nil room)
  refine ((settled_opening room hstamp title _).append
    (join_of_append hnil Settled.append fun k hk => ?_)).append
    (join_of_append hnil Settled.append fun k hk => ?_)
  · obtain ⟨v, hv, -⟩ := (mem_fieldOrder_fst hkeys).1 hk
    have := length_le_length_join (r.simpleText fields) hk
    exact settled_simpleText hproper hv (by omega)
  · obtain ⟨v, hv, -⟩ := (mem_fieldOrder_snd hkeys).1 hk
    have := length_le_length_join (r.complexText fields) hk
    exact settled_complexText hproper hv (hnames _ (Members.mem_of_get? hv)) (by omega)

/-! ### Two documents of one report -/

/-- A report with other origins of its fields. -/
def withOrigins (r : Report) (origins : Provenance) : Report := { r with provenance := origins }

/-- The kept fields do not depend on where they come from. -/
theorem toMap_withOrigins (r : Report) (origins : Provenance) :
    (r.withOrigins origins).toMap false = r.toMap false := rfl

/-- A document that is handed out is a text that can be read. -/
theorem exists_of_toToml {stamp title text : String} {simple complex : Option (List String)}
    (h : r.toToml stamp title simple complex = .ok text) :
    ∃ fields table, r.toMap false = .ok fields ∧
      text = r.tomlText fields stamp title simple complex ∧ parse? text = some table := by
  cases hfields : r.toMap false with
  | error e => simp [toToml, hfields, bind, Except.bind] at h
  | ok fields =>
    rw [toToml_eq hfields] at h
    split at h
    · rename_i table hparse
      cases h
      exact ⟨fields, table, rfl, rfl, hparse⟩
    · cases h

/-- Whether every field of a report has a name without line feeds. -/
def NamedOnOneLine (r : Report) : Prop :=
  ∀ declared, r.value = .obj declared → ∀ f ∈ declared, '\n' ∉ f.1.toList

/-- **What a document says is what its fields say**, whatever its comments are. -/
theorem run?_of_toToml (hvalue : r.value.Proper) (hnames : r.NamedOnOneLine)
    (hfields : r.toMap false = .ok fields) {stamp title text : String}
    (hstamp : '\n' ∉ stamp.toList) {simple complex : Option (List String)} {origins : Provenance}
    (h : (r.withOrigins origins).toToml stamp title simple complex = .ok text) :
    ∃ table, parse? text = some table ∧
      (run? ⟨[], []⟩ (gluedSteps (r.written fields simple complex))).map
        (fun d => Entry.toMembers d.entries) = some table := by
  obtain ⟨_, table, hsame, rfl, hparse⟩ := exists_of_toToml h
  rw [toMap_withOrigins, hfields, Except.ok.injEq] at hsame
  subst hsame
  obtain ⟨hkeys, hproper, -⟩ := kept_spec hfields hvalue
  have hkept : ∀ f ∈ fields, '\n' ∉ f.1.toList := by
    obtain ⟨declared, hdeclared, rfl⟩ := exists_declared hfields
    exact fun f hf => hnames declared hdeclared f ((flatten_spec r.provenance declared).2 f hf).1
  have hsettled := settled_tomlText (r := r.withOrigins origins)
    (2 * ((r.withOrigins origins).tomlText fields stamp title simple complex).toList.length + 4)
    hkeys hproper hkept hstamp title simple complex (Nat.le_add_right _ _)
  exact ⟨table, hparse, hsettled.parse? (head?_tomlText _ _ _ _) hparse⟩

/-- **Comments are inert**: documents of one report, written with any two titles and any origins of
its fields, are read as the same table, as far as they are handed out. -/
theorem toToml_inert (hvalue : r.value.Proper) (hnames : r.NamedOnOneLine)
    {origins origins' : Provenance} {title title' stamp stamp' text text' : String}
    (hstamp : '\n' ∉ stamp.toList) (hstamp' : '\n' ∉ stamp'.toList)
    {simple complex : Option (List String)}
    (h : (r.withOrigins origins).toToml stamp title simple complex = .ok text)
    (h' : (r.withOrigins origins').toToml stamp' title' simple complex = .ok text') :
    ∃ table, parse? text = some table ∧ parse? text' = some table := by
  obtain ⟨fields, -, hfields, -⟩ := exists_of_toToml h
  rw [toMap_withOrigins] at hfields
  obtain ⟨table, hparse, hrun⟩ := run?_of_toToml hvalue hnames hfields hstamp h
  obtain ⟨table', hparse', hrun'⟩ := run?_of_toToml hvalue hnames hfields hstamp' h'
  rw [hrun, Option.some.injEq] at hrun'
  exact ⟨table, hparse, hrun' ▸ hparse'⟩

/-- Origins whose texts look like the lines of a document. -/
def spuriousOrigins : Provenance :=
  [("sizes", ⟨"a\nmap = 1\r\n[sizes]", "\"\"\"\nsizes = '''"⟩), ("map", ⟨"[[map]]\n", "boot = 2"⟩)]

/-- A list of sizes is read as it was written, whatever its title and its origins look like. -/
theorem inert_listReport : ∃ text text' table,
    (listReport.withOrigins []).toToml "now" "Parts" none none = .ok text ∧
    (listReport.withOrigins spuriousOrigins).toToml "later" "]\nsizes = []" none none =
      .ok text' ∧
    parse? text = some table ∧ parse? text' = some table := by
  have hfields : listReport.toMap false =
      .ok [("map", .obj [("boot", .int 1)]), ("sizes", .arr [.int 1, .int 2])] := rfl
  have hvalue : listReport.value.Proper := by
    simp [listReport, Json.Proper, Json.ProperMembers, Json.ProperItems, Json.IsWord]
  have hnames : listReport.NamedOnOneLine := by
    rintro _ ⟨⟩
    decide
  have hgiven : ∀ (origins : Provenance) (stamp title : String),
      (parse? ((listReport.withOrigins origins).tomlText
        [("map", .obj [("boot", .int 1)]), ("sizes", .arr [.int 1, .int 2])] stamp title none
        none)).isSome = true →
      ∃ text, (listReport.withOrigins origins).toToml stamp title none none =
        .ok text := by
    intro origins stamp title hread
    obtain ⟨table, hparse⟩ := Option.isSome_iff_exists.1 hread
    exact ⟨_, by rw [toToml_eq ((toMap_withOrigins _ _).trans hfields), hparse]⟩
  obtain ⟨text, h⟩ := hgiven [] "now" "Parts" (by decide +kernel)
  obtain ⟨text', h'⟩ := hgiven spuriousOrigins "later" "]\nsizes = []" (by decide +kernel)
  obtain ⟨table, hparse, hparse'⟩ := toToml_inert hvalue hnames (by decide) (by decide) h h'
  exact ⟨text, text', table, h, h', hparse, hparse'⟩

end FirmwareSurvey.Report
