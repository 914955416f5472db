import FirmwareSurvey.Proofs.Toml.Inline

/-!
# Documents read line by line

What is written under `documentText` is a row of lines (`documentSteps`): the members that are no
tables, then for every table a header and its own lines. A text is read as a row of lines whatever
follows it, and so the texts of several documents may be put one behind another: `ReadsAs` is this
property, and it is closed under appending. A text is refused as soon as one of its lines does not
fit, be it a header of too many parts or a value that nests too deep.
-/

namespace FirmwareSurvey.Toml

/-! ### The lines of a document -/

/-- Whether a line says nothing. -/
def Line.isBlank : Line → Bool
  | .blank => true
  | _ => false

/-- Whether a line can be read: a header has only so many parts, and a value nests only so deep. -/
def Line.fits : Line → Bool
  | .blank => true
  | .table path => path.length ≤ nestingLimit
  | .element path => path.length ≤ nestingLimit
  | .assign _ v => fitsInline 0 v

/-- The lines that say something. -/
def solid (ls : List Line) : List Line := ls.filter (!·.isBlank)

/-- The lines of the members that are no tables. -/
def lineSteps : List (String × Toml) → List Line
  | [] => []
  | (k, v) :: ms => if isLine v then .assign [k] v :: lineSteps ms else lineSteps ms

/-- A header and the members of the table it opens; the tables among them have headers of their
own. -/
structure Part where
  /-- Whether the table is an element of an array. -/
  element : Bool
  /-- The path of the header. -/
  path : List String
  /-- The members of the table. -/
  members : List (String × Toml)

/-- The header of a part, as a line. -/
def Part.header (p : Part) : Line := if p.element then .element p.path else .table p.path

/-- The lines of a part. -/
def Part.steps (p : Part) : List Line := p.header :: lineSteps p.members

/-- A part as it is written. -/
def Part.section (p : Part) : Section :=
  ⟨some (if p.element then elementHeader p.path else tableHeader p.path), memberLines p.members⟩

mutual

/-- The parts of a member, as many as it has sections. -/
def memberParts (path : List String) : Toml → List Part
  | .table members =>
    (if members.isEmpty || !(memberLines members).isEmpty then [⟨false, path, members⟩] else []) ++
      tableParts path members
  | .array (v :: vs) => if (v :: vs).all isTable then elementParts path (v :: vs) else []
  | _ => []

/-- The parts of the members of a table. -/
def tableParts (path : List String) : List (String × Toml) → List Part
  | [] => []
  | (k, v) :: ms => memberParts (path ++ [k]) v ++ tableParts path ms

/-- The parts of the elements of an array of tables. -/
def elementParts (path : List String) : List Toml → List Part
  | [] => []
  | .table members :: vs =>
    ⟨true, path, members⟩ :: (tableParts path members ++ elementParts path vs)
  | _ :: vs => elementParts path vs

end

mutual

theorem map_section_memberParts : ∀ (path : List String) (v : Toml),
    (memberParts path v).map Part.section = memberSections path v
  | path, .table members => by
    rw [memberParts, memberSections, List.map_append, map_section_tableParts path members]
    split <;> rfl
  | path, .array (v :: vs) => by
    rw [memberParts, memberSections]
    split
    · exact map_section_elementParts path (v :: vs)
    · rfl
  | _, .array [] => rfl
  | _, .str _ => rfl
  | _, .int _ => rfl
  | _, .float _ => rfl
  | _, .bool _ => rfl
  | _, .moment _ => rfl

theorem map_section_tableParts : ∀ (path : List String) (members : List (String × Toml)),
    (tableParts path members).map Part.section = tableSections path members
  | _, [] => rfl
  | path, (k, v) :: ms => by
    rw [tableParts, tableSections, List.map_append, map_section_memberParts (path ++ [k]) v,
      map_section_tableParts path ms]

theorem map_section_elementParts : ∀ (path : List String) (items : List Toml),
    (elementParts path items).map Part.section = elementSections path items
  | _, [] => rfl
  | path, .table members :: vs => by
    rw [elementParts, elementSections, List.map_cons, List.map_append,
      map_section_tableParts path members, map_section_elementParts path vs]
    rfl
  | path, .array _ :: vs => by
    rw [elementParts, elementSections, map_section_elementParts path vs] <;> simp
  | path, .str _ :: vs => by
    rw [elementParts, elementSections, map_section_elementParts path vs] <;> simp
  | path, .int _ :: vs => by
    rw [elementParts, elementSections, map_section_elementParts path vs] <;> simp
  | path, .float _ :: vs => by
    rw [elementParts, elementSections, map_section_elementParts path vs] <;> simp
  | path, .bool _ :: vs => by
    rw [elementParts, elementSections, map_section_elementParts path vs] <;> simp
  | path, .moment _ :: vs => by
    rw [elementParts, elementSections, map_section_elementParts path vs] <;> simp

end

/-- The lines of the members of a table that stand under headers. -/
def tableSteps (path : List String) (members : List (String × Toml)) : List Line :=
  (tableParts path members).flatMap Part.steps

/-- The lines of a table as a document. -/
def documentSteps (members : List (String × Toml)) : List Line :=
  lineSteps members ++ tableSteps [] members

/-! ### Texts that are read as lines -/

/-- Whether a text is read as a row of lines, whatever follows; `count` lines when the blank ones
are counted too. -/
def ReadsAs (room : Nat) (text : List Char) (ls : List Line) : Prop :=
  ∃ count ≤ text.length, ∀ n rest, (documentLines? room (n + count) (text ++ rest)).map solid =
    if ls.all Line.fits then ((documentLines? room n rest).map solid).map (ls ++ ·) else none

theorem ReadsAs.nil (room : Nat) : ReadsAs room [] [] := by
  refine ⟨0, Nat.le_refl 0, fun n rest => ?_⟩
  rw [List.nil_append, Nat.add_zero]
  cases documentLines? room n rest <;> rfl

/-- **Texts that are read as lines may be put one behind another.** -/
theorem ReadsAs.append {room : Nat} {t u : List Char} {ls ms : List Line}
    (ht : ReadsAs room t ls) (hu : ReadsAs room u ms) : ReadsAs room (t ++ u) (ls ++ ms) := by
  obtain ⟨m, hm, ht⟩ := ht
  obtain ⟨n, hn, hu⟩ := hu
  refine ⟨m + n, by rw [List.length_append]; omega, fun k rest => ?_⟩
  rw [List.append_assoc, show k + (m + n) = k + n + m by omega, ht, hu]
  by_cases h1 : ls.all Line.fits = true <;> by_cases h2 : ms.all Line.fits = true <;>
    simp [h1, h2, List.append_assoc, Function.comp_def]

/-- One line is read as soon as its statement is. -/
theorem documentLines?_cons {room n : Nat} {cs after rest : List Char} {line : Line} {c : Char}
    (hstart : skipLineBlanks cs = c :: after)
    (hstatement : statement? room (c :: after) = some (line, '\n' :: rest)) :
    documentLines? room (n + 1) cs = (documentLines? room n rest).map (line :: ·) := by
  have hne : cs ≠ [] := by
    rintro rfl
    simp [skipLineBlanks] at hstart
  obtain ⟨d, ds, rfl⟩ := List.exists_cons_of_ne_nil hne
  have hend : lineEnd? (skipComment (skipLineBlanks ('\n' :: rest))) = some rest := rfl
  rw [documentLines?, hstart, hstatement]
  · simp only [hend]
  · exact hne

theorem documentLines?_none {room n : Nat} {cs after : List Char} {c : Char}
    (hstart : skipLineBlanks cs = c :: after) (hstatement : statement? room (c :: after) = none) :
    documentLines? room (n + 1) cs = none := by
  have hne : cs ≠ [] := by
    rintro rfl
    simp [skipLineBlanks] at hstart
  obtain ⟨d, ds, rfl⟩ := List.exists_cons_of_ne_nil hne
  rw [documentLines?, hstart, hstatement]
  exact hne

/-- A text is read as one line when its statement is that line, or is refused if the line does not
fit. -/
theorem ReadsAs.line {room : Nat} {after : List Char} {line : Line} {c : Char}
    (hc : isLineBlank c = false)
    (hstatement : ∀ rest, statement? room (c :: (after ++ rest)) =
      if line.fits then some (line, '\n' :: rest) else none)
    (hblank : line.isBlank = false) : ReadsAs room (c :: after) [line] := by
  refine ⟨1, by simp, fun n rest => ?_⟩
  have hstart : skipLineBlanks (c :: after ++ rest) = c :: (after ++ rest) := by
    simp [skipLineBlanks, hc]
  by_cases hfits : line.fits = true
  · rw [documentLines?_cons hstart (by rw [hstatement, if_pos hfits])]
    simp [hfits, solid, hblank, Function.comp_def]
  · rw [documentLines?_none hstart (by rw [hstatement, if_neg hfits])]
    simp [hfits]

/-- A blank line is read as nothing. -/
theorem readsAs_feed (room : Nat) : ReadsAs room ['\n'] [] := by
  refine ⟨1, by simp, fun n rest => ?_⟩
  have hblank : statement? room ('\n' :: rest) = some (.blank, '\n' :: rest) := rfl
  rw [List.singleton_append, documentLines?_cons rfl hblank]
  simp [solid, Line.isBlank, Function.comp_def]

/-- How a comment is read: what follows its characters has to end the line. -/
theorem documentLines?_comment (room n : Nat) (cs : List Char) :
    documentLines? room (n + 1) ('#' :: cs) =
      (lineEnd? (cs.dropWhile isCommentChar)).bind fun rest =>
        (documentLines? room n rest).map (Line.blank :: ·) := by
  rw [documentLines?, show skipLineBlanks ('#' :: cs) = '#' :: cs from rfl,
    show statement? room ('#' :: cs) = some (.blank, '#' :: cs) from rfl]
  · simp only
    rw [show skipLineBlanks ('#' :: cs) = '#' :: cs from rfl, skipComment]
    cases lineEnd? (cs.dropWhile isCommentChar) <;> rfl
  · simp

/-- A comment is read as nothing when what follows its characters ends the line. -/
theorem readsAs_comment_of_lineEnd (room : Nat) {cs : List Char}
    (h : ∀ rest, lineEnd? ((cs ++ '\n' :: rest).dropWhile isCommentChar) = some rest) :
    ReadsAs room ('#' :: cs ++ ['\n']) [] := by
  refine ⟨1, by simp, fun n rest => ?_⟩
  rw [List.append_assoc, List.cons_append, List.singleton_append, documentLines?_comment, h]
  simp [solid, Line.isBlank, Function.comp_def]

/-- **A comment is read as nothing.** -/
theorem readsAs_comment (room : Nat) {cs : List Char} (h : ∀ c ∈ cs, isCommentChar c = true) :
    ReadsAs room ('#' :: cs ++ ['\n']) [] := by
  refine readsAs_comment_of_lineEnd room fun rest => ?_
  rw [List.dropWhile_append_of_pos h]
  rfl

/-- Whether a text is refused wherever a line may start, whatever follows. -/
def Refused (room : Nat) (text : List Char) : Prop :=
  ∃ count ≤ text.length, ∀ n rest, documentLines? room (n + count) (text ++ rest) = none

theorem Refused.append {room : Nat} {t : List Char} (h : Refused room t) (u : List Char) :
    Refused room (t ++ u) := by
  obtain ⟨count, hcount, h⟩ := h
  exact ⟨count, by rw [List.length_append]; omega, fun n rest => by rw [List.append_assoc, h]⟩

/-- What is read before a text that is refused does not help. -/
theorem ReadsAs.refused {room : Nat} {t u : List Char} {ls : List Line} (ht : ReadsAs room t ls)
    (hu : Refused room u) : Refused room (t ++ u) := by
  obtain ⟨m, hm, ht⟩ := ht
  obtain ⟨n, hn, hu⟩ := hu
  refine ⟨m + n, by rw [List.length_append]; omega, fun k rest => ?_⟩
  have hread := ht (k + n) (u ++ rest)
  rw [hu] at hread
  rw [List.append_assoc, show k + (m + n) = k + n + m by omega]
  simpa using hread

/-- What follows the characters of a comment, if something does. -/
theorem exists_behindComment {cs : List Char} (h : ∃ c ∈ cs, isCommentChar c = false) :
    ∃ c ds, c :: ds <:+ cs ∧
      ∀ rest, (cs ++ rest).dropWhile isCommentChar = c :: (ds ++ rest) := by
  cases hdrop : cs.dropWhile isCommentChar with
  | nil =>
    obtain ⟨c, hc, hno⟩ := h
    have := List.dropWhile_eq_nil_iff.1 hdrop c hc
    rw [hno] at this
    cases this
  | cons c ds =>
    refine ⟨c, ds, hdrop ▸ List.dropWhile_suffix _, fun rest => ?_⟩
    rw [List.dropWhile_append, hdrop]
    rfl

/-- A comment is refused when what follows its characters does not end the line. -/
theorem refused_comment_of_lineEnd (room : Nat) {cs : List Char}
    (h : ∀ rest, lineEnd? ((cs ++ '\n' :: rest).dropWhile isCommentChar) = none) :
    Refused room ('#' :: cs ++ ['\n']) := by
  refine ⟨1, by simp, fun n rest => ?_⟩
  rw [List.append_assoc, List.cons_append, List.singleton_append, documentLines?_comment, h,
    Option.bind_none]

/-- **A comment with a control character is refused**, tabs apart. -/
theorem refused_comment (room : Nat) {cs : List Char} (hends : ∀ c ∈ cs, c ≠ '\n' ∧ c ≠ '\r')
    (h : ∃ c ∈ cs, isCommentChar c = false) : Refused room ('#' :: cs ++ ['\n']) := by
  obtain ⟨c, ds, hsuffix, hdrop⟩ := exists_behindComment h
  obtain ⟨hfeed, hreturn⟩ := hends c (hsuffix.subset List.mem_cons_self)
  refine refused_comment_of_lineEnd room fun rest => ?_
  rw [hdrop]
  unfold lineEnd?
  split <;> simp_all

/-! ### Texts that are settled -/

/-- Whether a text is read as a row of lines or else refused, whatever follows it. -/
def Settled (room : Nat) (text : List Char) (ls : List Line) : Prop :=
  ReadsAs room text ls ∨ Refused room text

/-- **Texts that are settled may be put one behind another.** -/
theorem Settled.append {room : Nat} {t u : List Char} {ls ms : List Line}
    (ht : Settled room t ls) (hu : Settled room u ms) : Settled room (t ++ u) (ls ++ ms) := by
  rcases ht with ht | ht
  · rcases hu with hu | hu
    · exact Or.inl (ht.append hu)
    · exact Or.inr (ht.refused hu)
  · exact Or.inr (ht.append u)

/-- **A comment on one line is settled**, whatever it says: it is read as nothing or refused. -/
theorem settled_comment (room : Nat) {cs : List Char} (hfeed : '\n' ∉ cs) :
    Settled room ('#' :: cs ++ ['\n']) [] := by
  by_cases h : ∀ c ∈ cs, isCommentChar c = true
  · exact Or.inl (readsAs_comment room h)
  · have hbad : ∃ c ∈ cs, isCommentChar c = false := by simpa using h
    obtain ⟨c, ds, hsuffix, hdrop⟩ := exists_behindComment hbad
    have hc : c ≠ '\n' := fun heq => hfeed (heq ▸ hsuffix.subset List.mem_cons_self)
    have hds : '\n' ∉ ds := fun hmem => hfeed (hsuffix.subset (List.mem_cons_of_mem _ hmem))
    -- A carriage return right before the line feed belongs to the end of the line.
    by_cases hreturn : c = '\r' ∧ ds = []
    · refine Or.inl (readsAs_comment_of_lineEnd room fun rest => ?_)
      rw [hdrop, hreturn.1, hreturn.2]
      rfl
    · refine Or.inr (refused_comment_of_lineEnd room fun rest => ?_)
      rw [hdrop]
      unfold lineEnd?
      split
      · simp_all
      · simp_all
      · rename_i after heq
        obtain ⟨rfl, hafter⟩ := List.cons.inj heq
        cases ds with
        | nil => exact absurd ⟨rfl, rfl⟩ hreturn
        | cons d ds => exact absurd (List.cons.inj hafter).1 fun hd => hds (by simp [hd])
      · rfl

/-! ### The lines that are written -/

/-- The line of a member that is no table. -/
def memberLine (k : String) (v : Toml) : List Char :=
  (keyText k ++ " = " ++ inlineText v ++ "\n").toList

theorem memberLine_eq (k : String) (v : Toml) :
    memberLine k v =
      keyPathChars [k] ++ ' ' :: '=' :: ' ' :: ((inlineText v).toList ++ ['\n']) := by
  simp [memberLine, keyPathChars_singleton, keyText]

/-- How a key starts opens no line of another kind. -/
theorem exists_keyPathChars (k : String) (path : List String) : ∃ c r,
    keyPathChars (k :: path) = c :: r ∧
      c ∉ ['[', ']', '#', '\n', '\r', ' ', '\t'] := by
  obtain ⟨c, r, hc, hkind⟩ := exists_keyChars k.toList
  have hother : c ∉ ['[', ']', '#', '\n', '\r', ' ', '\t'] := by
    intro hmem
    simp only [List.mem_cons, List.not_mem_nil, or_false] at hmem
    rcases hkind with h | h | h
    · simp [h] at hmem
    · simp [h] at hmem
    · rcases hmem with rfl | rfl | rfl | rfl | rfl | rfl | rfl <;> exact absurd h (by decide)
  cases path with
  | nil => exact ⟨c, r, by rw [keyPathChars_singleton, hc], hother⟩
  | cons l path => exact ⟨c, _, by rw [keyPathChars_cons, hc, List.cons_append], hother⟩

theorem readsAs_memberLine {room : Nat} (k : String) {v : Toml} (hv : v.Proper)
    (hroom : 2 * (inlineText v).toList.length ≤ room) :
    ReadsAs room (memberLine k v) [.assign [k] v] := by
  obtain ⟨c, r, hc, hother⟩ := exists_keyPathChars k []
  simp only [List.mem_cons, List.not_mem_nil, or_false, not_or] at hother
  obtain ⟨h1, -, h3, h4, h5, h6, h7⟩ := hother
  rw [memberLine_eq, hc, List.cons_append]
  refine ReadsAs.line (by simp [isLineBlank, h6, h7]) (fun rest => ?_) rfl
  have hkey := key?_keyPathChars k (' ' :: ((inlineText v).toList ++ '\n' :: rest))
    (Or.inl rfl)
  have hvalue := value?_inlineText hv room hroom 0 ('\n' :: rest) ⟨_, _, rfl, by simp⟩
  obtain ⟨d, ds, hds, -, -, hskip⟩ := skip_inlineText hv [' '] (Or.inr rfl)
    ('\n' :: rest)
  rw [List.singleton_append] at hskip
  rw [hc, List.nil_append, List.cons_append] at hkey
  simp only [List.append_assoc, List.cons_append]
  unfold statement?
  simp [h1, h3, h4, h5, hkey, hskip, ← hds, hvalue, Line.fits]
  by_cases hfits : fitsInline 0 v = true <;> simp [hfits]

theorem readsAs_tableHeader {room : Nat} {path : List String} (hne : path ≠ []) :
    ReadsAs room (tableHeader path).toList [.table path] := by
  obtain ⟨k, path, rfl⟩ := List.exists_cons_of_ne_nil hne
  have htext : (tableHeader (k :: path)).toList =
      '[' :: (keyPathChars (k :: path) ++ [']', '\n']) := by
    simp [tableHeader, keyPathChars]
  rw [htext]
  refine ReadsAs.line rfl (fun rest => ?_) rfl
  have hkey := keyParts?_keyPathChars hne nestingLimit (']' :: '\n' :: rest)
    ⟨_, _, rfl, by simp⟩ (by simp [skipLineBlanks, isLineBlank])
  obtain ⟨c, r, hc, hother⟩ := exists_keyPathChars k path
  have h1 : c ≠ '[' := fun h => hother (by simp [h])
  rw [List.append_assoc]
  simp only [List.cons_append, List.nil_append]
  rw [hc, List.cons_append] at hkey ⊢
  rw [statement?, key?, hkey]
  · by_cases hfits : (k :: path).length ≤ nestingLimit
    · rw [if_pos hfits, if_pos (by simpa [Line.fits] using hfits)]
      rfl
    · rw [if_neg hfits, if_neg (by simpa [Line.fits] using hfits)]
  · rintro _ ⟨⟩
    exact h1 rfl

theorem readsAs_elementHeader {room : Nat} {path : List String} (hne : path ≠ []) :
    ReadsAs room (elementHeader path).toList [.element path] := by
  have htext : (elementHeader path).toList =
      '[' :: '[' :: (keyPathChars path ++ [']', ']', '\n']) := by
    simp [elementHeader, keyPathChars]
  rw [htext]
  refine ReadsAs.line rfl (fun rest => ?_) rfl
  have hkey := keyParts?_keyPathChars hne nestingLimit (']' :: ']' :: '\n' :: rest)
    ⟨_, _, rfl, by simp⟩ (by simp [skipLineBlanks, isLineBlank])
  rw [List.cons_append, List.append_assoc]
  simp only [List.cons_append, List.nil_append]
  rw [statement?, key?, hkey]
  by_cases hfits : path.length ≤ nestingLimit
  · rw [if_pos hfits, if_pos (by simpa [Line.fits] using hfits)]
    rfl
  · rw [if_neg hfits, if_neg (by simpa [Line.fits] using hfits)]

/-! ### Documents -/

/-- What is written for the members that are no tables is read as their lines. -/
theorem readsAs_memberLines (room : Nat) : ∀ {members : List (String × Toml)},
    ProperMembers members → 2 * (String.join (memberLines members)).toList.length ≤ room →
      ReadsAs room (String.join (memberLines members)).toList (lineSteps members)
  | [], _, _ => ReadsAs.nil room
  | (k, v) :: ms, hv, hroom => by
    simp only [memberLines, lineSteps] at hroom ⊢
    by_cases hline : isLine v = true
    · rw [if_pos hline, String.join_cons, String.toList_append] at hroom ⊢
      rw [if_pos hline]
      have hlen : 2 * (inlineText v).toList.length ≤ room := by
        simp only [String.toList_append, List.length_append] at hroom
        omega
      rw [List.length_append] at hroom
      exact ReadsAs.append (readsAs_memberLine k hv.1 hlen)
        (readsAs_memberLines room hv.2 (by omega))
    · rw [if_neg hline] at hroom ⊢
      rw [if_neg hline]
      exact readsAs_memberLines room hv.2 hroom

/-- **Parts are read as their lines**, wherever in a text they stand. -/
theorem readsAs_parts (room : Nat) : ∀ (ps : List Part),
    (∀ p ∈ ps, p.path ≠ [] ∧ ProperMembers p.members) → ∀ (first : Bool),
      2 * (sectionsText first (ps.map Part.section)).toList.length ≤ room →
        ReadsAs room (sectionsText first (ps.map Part.section)).toList (ps.flatMap Part.steps)
  | [], _, _, _ => ReadsAs.nil room
  | p :: ps, hps, first, hroom => by
    obtain ⟨hpath, hmembers⟩ := hps p (by simp)
    have htext : (sectionsText first ((p :: ps).map Part.section)).toList =
        (if first then [] else ['\n']) ++
          ((if p.element then elementHeader p.path else tableHeader p.path).toList ++
            ((String.join (memberLines p.members)).toList ++
              (sectionsText false (ps.map Part.section)).toList)) := by
      cases first <;> simp [sectionsText, Part.section]
    rw [htext] at hroom ⊢
    simp only [List.length_append] at hroom
    have hfeed : ReadsAs room (if first then [] else ['\n']) [] := by
      cases first
      · exact readsAs_feed room
      · exact ReadsAs.nil room
    have hheader : ReadsAs room
        (if p.element then elementHeader p.path else tableHeader p.path).toList [p.header] := by
      cases hp : p.element
      · simpa [Part.header, hp] using readsAs_tableHeader hpath
      · simpa [Part.header, hp] using readsAs_elementHeader hpath
    have hlines := readsAs_memberLines room hmembers (by omega)
    have hrest := readsAs_parts room ps (fun q hq => hps q (by simp [hq])) false (by omega)
    simpa [Part.steps] using hfeed.append (hheader.append (hlines.append hrest))

mutual

theorem proper_of_mem_memberParts : ∀ {path : List String} {v : Toml}, path ≠ [] → v.Proper →
    ∀ p ∈ memberParts path v, p.path ≠ [] ∧ ProperMembers p.members
  | path, .table members, hpath, hv, p, hp => by
    rw [memberParts, List.mem_append] at hp
    rcases hp with hp | hp
    · split at hp
      · rw [List.mem_singleton.1 hp]
        exact ⟨hpath, hv.2⟩
      · simp at hp
    · exact proper_of_mem_tableParts hv.2 p hp
  | path, .array (v :: vs), hpath, hv, p, hp => by
    rw [memberParts] at hp
    split at hp
    · exact proper_of_mem_elementParts hpath hv p hp
    · simp at hp
  | _, .array [], _, _, _, hp => by simp [memberParts] at hp
  | _, .str _, _, _, _, hp => by simp [memberParts] at hp
  | _, .int _, _, _, _, hp => by simp [memberParts] at hp
  | _, .float _, _, _, _, hp => by simp [memberParts] at hp
  | _, .bool _, _, _, _, hp => by simp [memberParts] at hp
  | _, .moment _, _, _, _, hp => by simp [memberParts] at hp

theorem proper_of_mem_tableParts : ∀ {path : List String} {members : List (String × Toml)},
    ProperMembers members → ∀ p ∈ tableParts path members, p.path ≠ [] ∧ ProperMembers p.members
  | _, [], _, _, hp => by simp [tableParts] at hp
  | path, (k, v) :: ms, hv, p, hp => by
    rw [tableParts, List.mem_append] at hp
    rcases hp with hp | hp
    · exact proper_of_mem_memberParts (by simp) hv.1 p hp
    · exact proper_of_mem_tableParts hv.2 p hp

theorem proper_of_mem_elementParts : ∀ {path : List String} {items : List Toml}, path ≠ [] →
    ProperItems items → ∀ p ∈ elementParts path items, p.path ≠ [] ∧ ProperMembers p.members
  | _, [], _, _, _, hp => by simp [elementParts] at hp
  | path, .table members :: vs, hpath, hv, p, hp => by
    rw [elementParts, List.mem_cons, List.mem_append] at hp
    rcases hp with rfl | hp | hp
    · exact ⟨hpath, hv.1.2⟩
    · exact proper_of_mem_tableParts hv.1.2 p hp
    · exact proper_of_mem_elementParts hpath hv.2 p hp
  | path, .array _ :: vs, hpath, hv, p, hp => by
    exact proper_of_mem_elementParts hpath hv.2 p (by simpa [elementParts] using hp)
  | path, .str _ :: vs, hpath, hv, p, hp => by
    exact proper_of_mem_elementParts hpath hv.2 p (by simpa [elementParts] using hp)
  | path, .int _ :: vs, hpath, hv, p, hp => by
    exact proper_of_mem_elementParts hpath hv.2 p (by simpa [elementParts] using hp)
  | path, .float _ :: vs, hpath, hv, p, hp => by
    exact proper_of_mem_elementParts hpath hv.2 p (by simpa [elementParts] using hp)
  | path, .bool _ :: vs, hpath, hv, p, hp => by
    exact proper_of_mem_elementParts hpath hv.2 p (by simpa [elementParts] using hp)
  | path, .moment _ :: vs, hpath, hv, p, hp => by
    exact proper_of_mem_elementParts hpath hv.2 p (by simpa [elementParts] using hp)

end

/-- **A document is read as its lines**, wherever in a text it stands. -/
theorem readsAs_documentText (room : Nat) {members : List (String × Toml)}
    (h : ProperMembers members) (hroom : 2 * (documentText members).toList.length ≤ room) :
    ReadsAs room (documentText members).toList (documentSteps members) := by
  have htext : (documentText members).toList = (String.join (memberLines members)).toList ++
      (sectionsText (memberLines members).isEmpty
        ((tableParts [] members).map Part.section)).toList := by
    simp [documentText, sectionsText, map_section_tableParts]
  rw [htext] at hroom ⊢
  rw [List.length_append] at hroom
  exact (readsAs_memberLines room h (by omega)).append
    (readsAs_parts room _ (proper_of_mem_tableParts h) _ (by omega))

/-! ### Reading lines as a table -/

/-- The entries that lines make out of those there are. -/
def run? (d : Draft) (ls : List Line) : Option Draft := ls.foldlM Draft.step? d

@[simp] theorem run?_nil (d : Draft) : run? d [] = some d := rfl

@[simp] theorem run?_cons (d : Draft) (line : Line) (ls : List Line) :
    run? d (line :: ls) = (d.step? line).bind fun d => run? d ls := rfl

theorem run?_append (d : Draft) (ls ms : List Line) :
    run? d (ls ++ ms) = (run? d ls).bind fun d => run? d ms := by
  induction ls generalizing d with
  | nil => rfl
  | cons line ls ih =>
    rw [List.cons_append, run?_cons, run?_cons]
    cases d.step? line with
    | none => rfl
    | some d => exact ih d

/-- Blank lines make no difference. -/
theorem run?_solid (d : Draft) (ls : List Line) : run? d (solid ls) = run? d ls := by
  induction ls generalizing d with
  | nil => rfl
  | cons line ls ih =>
    cases line with
    | blank => exact ih d
    | table path =>
      rw [run?_cons, ← funext fun d => ih d]
      rfl
    | element path =>
      rw [run?_cons, ← funext fun d => ih d]
      rfl
    | assign path v =>
      rw [run?_cons, ← funext fun d => ih d]
      rfl

theorem dropMark_of_head? {cs : List Char} (h : cs.head? ≠ some '\uFEFF') : dropMark cs = cs := by
  unfold dropMark
  split
  · simp_all
  · rfl

theorem Refused.parse? {s : String} (h : Refused (2 * s.toList.length + 4) s.toList)
    (hmark : s.toList.head? ≠ some '\uFEFF') : parse? s = none := by
  obtain ⟨count, hcount, hlines⟩ := h
  have hread := hlines (s.toList.length - count) []
  rw [Nat.sub_add_cancel hcount, List.append_nil] at hread
  rw [Toml.parse?, parseChars?, dropMark_of_head? hmark, hread]

/-- **A text that is read as lines is read as the table they make**, if all of them fit. -/
theorem ReadsAs.parse? {s : String} {ls : List Line}
    (h : ReadsAs (2 * s.toList.length + 4) s.toList ls) (hmark : s.toList.head? ≠ some '\uFEFF') :
    parse? s = if ls.all Line.fits then
      (run? ⟨[], []⟩ ls).map fun d => Entry.toMembers d.entries else none := by
  obtain ⟨count, hcount, hlines⟩ := h
  have hread := hlines (s.toList.length - count) []
  have hnil : documentLines? (2 * s.toList.length + 4) (s.toList.length - count) [] = some [] := by
    rw [documentLines?]
  rw [Nat.sub_add_cancel hcount, List.append_nil, hnil] at hread
  rw [Toml.parse?, parseChars?, dropMark_of_head? hmark]
  cases hdoc : documentLines? (2 * s.toList.length + 4) s.toList.length s.toList with
  | none =>
    rw [hdoc] at hread
    by_cases hfits : ls.all Line.fits = true
    · simp [hfits] at hread
    · simp [hfits]
  | some ms =>
    rw [hdoc] at hread
    by_cases hfits : ls.all Line.fits = true
    · rw [if_pos hfits] at hread
      simp only [Option.map_some, Option.some.injEq] at hread
      have hls : solid ms = ls := by simpa [solid] using hread
      rw [if_pos hfits, ← hls, run?_solid]
      rfl
    · simp [hfits] at hread

/-- A text that is settled is refused or read as the table of its lines. -/
theorem Settled.parse? {s : String} {ls : List Line} {table : List (String × Toml)}
    (h : Settled (2 * s.toList.length + 4) s.toList ls) (hmark : s.toList.head? ≠ some '\uFEFF')
    (htable : Toml.parse? s = some table) :
    (run? ⟨[], []⟩ ls).map (fun d => Entry.toMembers d.entries) = some table := by
  rcases h with h | h
  · rw [h.parse? hmark] at htable
    split at htable
    · exact htable
    · cases htable
  · rw [h.parse? hmark] at htable
    cases htable

end FirmwareSurvey.Toml
