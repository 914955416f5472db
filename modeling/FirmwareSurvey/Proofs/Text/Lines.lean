import FirmwareSurvey.Text.Lines
import FirmwareSurvey.Text.Word

/-!
# Lines written and read back

Texts without a line feed, each ended by one, are read as these texts, up to a carriage return that
one of them ends in (`lineChars_ended`). Trimming does not see that return, nor anything else at the
two ends of a text that starts and ends in characters which are not blank.
-/

namespace FirmwareSurvey.Text

/-- A run up to a character that is not there takes all of a text. -/
theorem bne_of_not_mem {d : Char} {cs : List Char} (h : d ∉ cs) : ∀ c ∈ cs, (c != d) = true :=
  fun _ hc => bne_iff_ne.2 fun heq => h (heq ▸ hc)

/-- Only one number is that of the line feed. -/
theorem eq_of_ofNat_eq_feed {n : Nat} (h : Char.ofNat n = '\n') : n = 10 := by
  by_cases hn : n.isValidChar
  · have hvalue : (Char.ofNatAux n hn).toNat = n := rfl
    rw [Char.ofNat, dif_pos hn] at h
    rw [← hvalue, h]
    rfl
  · rw [Char.ofNat, dif_neg hn] at h
    exact absurd h (by decide)

/-! ### Letters and digits of ASCII -/

section

variable {c : Char}

theorem isBlank_of_printable (h : 0x21 ≤ c.toNat ∧ c.toNat ≤ 0x7E) : isBlank c = false := by
  simp only [isBlank, Bool.or_eq_false_iff, Bool.and_eq_false_iff, decide_eq_false_iff_not,
    beq_eq_false_iff_ne]
  omega

theorem printable_of_isAsciiLetter (h : isAsciiLetter c = true) :
    0x21 ≤ c.toNat ∧ c.toNat ≤ 0x7E := by
  simp only [isAsciiLetter, Bool.or_eq_true, Bool.and_eq_true, decide_eq_true_eq, Char.le_def,
    UInt32.le_iff_toNat_le] at h
  rw [Char.toNat]
  have ha : 'a'.val.toNat = 97 ∧ 'z'.val.toNat = 122 := by decide
  have hA : 'A'.val.toNat = 65 ∧ 'Z'.val.toNat = 90 := by decide
  omega

theorem printable_of_isAsciiDigit (h : isAsciiDigit c = true) :
    0x21 ≤ c.toNat ∧ c.toNat ≤ 0x7E := by
  simp only [isAsciiDigit, Bool.and_eq_true, decide_eq_true_eq, Char.le_def,
    UInt32.le_iff_toNat_le] at h
  rw [Char.toNat]
  have h0 : '0'.val.toNat = 48 ∧ '9'.val.toNat = 57 := by decide
  omega

end

/-! ### Runs of characters -/

theorem takeWhile_run {p : Char → Bool} {run rest : List Char} (hrun : ∀ c ∈ run, p c = true)
    (hrest : ∀ c ∈ rest.head?, p c = false) : (run ++ rest).takeWhile p = run := by
  rw [List.takeWhile_append_of_pos hrun]
  cases rest with
  | nil => simp
  | cons c rest => simp [hrest c rfl]

theorem dropWhile_run {p : Char → Bool} {run rest : List Char} (hrun : ∀ c ∈ run, p c = true)
    (hrest : ∀ c ∈ rest.head?, p c = false) : (run ++ rest).dropWhile p = rest := by
  rw [List.dropWhile_append_of_pos hrun]
  cases rest with
  | nil => rfl
  | cons c rest => simp [hrest c rfl]

/-! ### Lines with their ends -/

/-- The pieces around an occurrence of `d` are cut on their own. -/
theorem cut_append (d : Char) (a b : List Char) : cut d (a ++ d :: b) = cut d a ++ cut d b := by
  induction a with
  | nil => exact cut_cons_self d b
  | cons c cs ih =>
    by_cases hc : c = d
    · rw [hc, List.cons_append, cut_cons_self, cut_cons_self, ih]
      rfl
    · obtain ⟨p, ps, hp⟩ : ∃ p ps, cut d cs = p :: ps := ⟨_, _, rfl⟩
      rw [List.cons_append, cut_cons_of_ne hc, cut_cons_of_ne hc]
      simp [ih, hp]

/-- A piece has nothing but what is in the text. -/
theorem mem_of_mem_cut {d c : Char} {cs : List Char} : ∀ {p : List Char}, p ∈ cut d cs → c ∈ p →
    c ∈ cs := by
  induction cs with
  | nil =>
    intro p hp hc
    rw [cut_nil, List.mem_singleton] at hp
    rwa [hp] at hc
  | cons b cs ih =>
    intro p hp hc
    by_cases hb : b = d
    · rw [hb, cut_cons_self, List.mem_cons] at hp
      rcases hp with rfl | hp
      · cases hc
      · exact List.mem_cons_of_mem _ (ih hp hc)
    · rw [cut_cons_of_ne hb, List.mem_cons] at hp
      rcases hp with rfl | hp
      · rcases List.mem_cons.1 hc with rfl | hc
        · exact List.mem_cons_self
        · exact List.mem_cons_of_mem _ (ih (List.head_mem _) hc)
      · exact List.mem_cons_of_mem _ (ih (List.mem_of_mem_tail hp) hc)

theorem not_mem_of_mem_cut {d : Char} {cs : List Char} :
    ∀ {p : List Char}, p ∈ cut d cs → d ∉ p := by
  induction cs with
  | nil =>
    intro p hp
    rw [cut_nil, List.mem_singleton] at hp
    simp [hp]
  | cons b cs ih =>
    intro p hp
    by_cases hb : b = d
    · rw [hb, cut_cons_self, List.mem_cons] at hp
      rcases hp with rfl | hp
      · simp
      · exact ih hp
    · rw [cut_cons_of_ne hb, List.mem_cons] at hp
      rcases hp with rfl | hp
      · rw [List.mem_cons, not_or]
        exact ⟨Ne.symm hb, ih (List.head_mem _)⟩
      · exact ih (List.mem_of_mem_tail hp)

theorem joinWith_eq_intercalate (d : Char) : ∀ ps : List (List Char),
    joinWith d ps = [d].intercalate ps
  | [] => rfl
  | [p] => by simp [joinWith]
  | p :: q :: ps => by
    rw [joinWith, List.intercalate_cons_cons, joinWith_eq_intercalate d (q :: ps)]
    simp

/-- What is in joined pieces is what joins them, or is in one of them. -/
theorem mem_joinWith {d c : Char} : ∀ {ps : List (List Char)}, c ∈ joinWith d ps →
    c = d ∨ ∃ p ∈ ps, c ∈ p
  | [], h => by cases h
  | [p], h => Or.inr ⟨p, by simp, h⟩
  | p :: q :: ps, h => by
    rw [joinWith, List.mem_append, List.mem_cons] at h
    rcases h with h | h | h
    · exact Or.inr ⟨p, by simp, h⟩
    · exact Or.inl h
    · rcases mem_joinWith h with h | ⟨r, hr, hc⟩
      · exact Or.inl h
      · exact Or.inr ⟨r, List.mem_cons_of_mem _ hr, hc⟩

/-- **Pieces that are joined are cut apart again.** -/
theorem cut_joinWith {d : Char} : ∀ {ps : List (List Char)}, ps ≠ [] → (∀ p ∈ ps, d ∉ p) →
    cut d (joinWith d ps) = ps
  | [], hne, _ => absurd rfl hne
  | [p], _, h => cut_of_not_mem (h p (by simp))
  | p :: q :: ps, _, h => by
    obtain ⟨hp, hps⟩ := List.forall_mem_cons.1 h
    rw [joinWith, cut_append_cons hp, cut_joinWith (by simp) hps]

theorem linesOfPieces_append (ps : List (List Char)) {qs : List (List Char)} (h : qs ≠ []) :
    linesOfPieces (ps ++ qs) = ps.map dropReturn ++ linesOfPieces qs := by
  induction ps with
  | nil => rfl
  | cons p ps ih =>
    obtain ⟨r, rs, hr⟩ := List.exists_cons_of_ne_nil (List.append_ne_nil_of_right_ne_nil ps h)
    rw [List.cons_append, hr, linesOfPieces, ← hr, ih]
    rfl

theorem linesOfPieces_concat_nil (pieces : List (List Char)) :
    linesOfPieces (pieces ++ [[]]) = pieces.map dropReturn := by
  rw [linesOfPieces_append pieces (by simp)]
  exact List.append_nil _

/-- **A text behind whole lines is read line by line on its own.** -/
theorem lineChars_append {before : String}
    (h : before = "" ∨ before.toList.getLast? = some '\n') (text : String) :
    lineChars (before ++ text).toList = lineChars before.toList ++ lineChars text.toList := by
  have hlines (as bs : List Char) :
      lineChars (as ++ '\n' :: bs) = (cut '\n' as).map dropReturn ++ lineChars bs := by
    rw [lineChars, cut_append, linesOfPieces_append _ (by simp [cut])]
    rfl
  rw [String.toList_append]
  rcases h with rfl | hlast
  · rfl
  · obtain ⟨as, has⟩ := List.getLast?_eq_some_iff.1 hlast
    rw [has, List.append_assoc, List.singleton_append, hlines, hlines as []]
    simp [lineChars, linesOfPieces]

theorem cut_ended {ls : List (List Char)} (h : ∀ l ∈ ls, '\n' ∉ l) (rest : List Char) :
    cut '\n' (ls.flatMap (· ++ ['\n']) ++ rest) = ls ++ cut '\n' rest := by
  induction ls with
  | nil => rfl
  | cons l ls ih =>
    obtain ⟨hl, hls⟩ := List.forall_mem_cons.1 h
    have hsplit : (l :: ls).flatMap (· ++ ['\n']) ++ rest =
        l ++ '\n' :: (ls.flatMap (· ++ ['\n']) ++ rest) := by
      simp
    rw [hsplit, cut_append_cons hl, ih hls, List.cons_append]

/-- **Lines that were ended by line feeds are read again**, each without a carriage return at its
end. -/
theorem lineChars_ended {ls : List (List Char)} (h : ∀ l ∈ ls, '\n' ∉ l) :
    lineChars (ls.flatMap (· ++ ['\n'])) = ls.map dropReturn := by
  have hcut := cut_ended h []
  rw [List.append_nil, cut_nil] at hcut
  rw [lineChars, hcut, linesOfPieces_concat_nil]

/-- A line that is ended is the first one of its text. -/
theorem lineChars_append_cons {l : List Char} (h : '\n' ∉ l) (rest : List Char) :
    lineChars (l ++ '\n' :: rest) = dropReturn l :: lineChars rest := by
  rw [lineChars, cut_append_cons h, cut]
  rfl

theorem dropReturn_concat {c : Char} (h : c ≠ '\r') (cs : List Char) :
    dropReturn (cs ++ [c]) = cs ++ [c] := by
  rw [dropReturn, List.reverse_concat]
  split
  · rename_i r hr
    exact absurd (List.cons.inj hr).1 h
  · rfl

theorem dropReturn_return (cs : List Char) : dropReturn (cs ++ ['\r']) = cs := by
  simp [dropReturn]

/-- A return that ends a line belongs to the blanks at its end. -/
theorem exists_dropReturn_append {as bs : List Char} (hlast : ∀ c ∈ as.getLast?, isBlank c = false)
    (hbs : allBlank bs = true) :
    ∃ bs', allBlank bs' = true ∧ dropReturn (as ++ bs) = as ++ bs' := by
  rcases List.eq_nil_or_concat bs with rfl | ⟨t, c, rfl⟩
  · refine ⟨[], rfl, ?_⟩
    rcases List.eq_nil_or_concat as with rfl | ⟨ds, d, rfl⟩
    · rfl
    · rw [List.concat_eq_append] at hlast ⊢
      have hd : d ≠ '\r' := fun hd =>
        absurd (hlast d List.getLast?_concat) (by rw [hd]; decide)
      rw [List.append_nil, dropReturn_concat hd]
  · rw [List.concat_eq_append] at hbs ⊢
    rw [← List.append_assoc]
    by_cases hc : c = '\r'
    · rw [allBlank, List.all_append, Bool.and_eq_true] at hbs
      exact ⟨t, hbs.1, by rw [hc, dropReturn_return]⟩
    · exact ⟨t ++ [c], hbs, by rw [dropReturn_concat hc, List.append_assoc]⟩

theorem dropReturn_prefix (cs : List Char) : dropReturn cs <+: cs := by
  rcases List.eq_nil_or_concat cs with rfl | ⟨ds, c, rfl⟩
  · exact List.prefix_rfl
  · rw [List.concat_eq_append]
    by_cases hc : c = '\r'
    · subst hc
      rw [dropReturn_return]
      exact List.prefix_append _ _
    · exact ⟨[], by rw [List.append_nil, dropReturn_concat hc]⟩

/-- **What is read from lines is read from the pieces between line feeds**, by a reader that finds
nothing in an empty line and does not mind a carriage return at the end of one. -/
theorem filterMap_lineChars {α : Type} {f : List Char → Option α} (hnil : f [] = none)
    {cs : List Char} (hreturn : ∀ p ∈ cut '\n' cs, f (dropReturn p) = f p) :
    (lineChars cs).filterMap f = (cut '\n' cs).filterMap f := by
  rw [lineChars]
  generalize cut '\n' cs = pieces at hreturn
  induction pieces with
  | nil => rfl
  | cons p ps ih =>
    obtain ⟨hp, hps⟩ := List.forall_mem_cons.1 hreturn
    cases ps with
    | nil =>
      -- The last piece is no line when it is empty, but then nothing is read from it.
      cases p with
      | nil => simp [linesOfPieces, hnil]
      | cons c cs => rfl
    | cons q qs =>
      rw [linesOfPieces, List.filterMap_cons, hp, ih hps, ← List.filterMap_cons]

theorem allBlank_dropReturn {cs : List Char} (h : allBlank cs = true) :
    allBlank (dropReturn cs) = true := by
  rcases List.eq_nil_or_concat cs with rfl | ⟨ds, c, rfl⟩
  · rfl
  · rw [List.concat_eq_append] at h ⊢
    by_cases hc : c = '\r'
    · subst hc
      rw [dropReturn_return]
      simp only [allBlank, List.all_append, Bool.and_eq_true] at h
      exact h.1
    · rwa [dropReturn_concat hc]

/-! ### Cutting once -/

theorem cutOnce?_eq_some_iff {d : Char} {cs a b : List Char} :
    cutOnce? d cs = some (a, b) ↔ cs = a ++ d :: b ∧ d ∉ a := by
  have hspan := List.takeWhile_append_dropWhile (p := (· != d)) (l := cs)
  constructor
  · intro h
    rw [cutOnce?] at h
    split at h
    · cases h
    · rename_i e after hdrop
      cases h
      have hhead : (e != d) = false := by
        simpa [hdrop] using List.head?_dropWhile_not (· != d) cs
      rw [bne_eq_false_iff_eq] at hhead
      rw [hdrop, hhead] at hspan
      refine ⟨hspan.symm, fun hmem => ?_⟩
      have hall := List.all_takeWhile (p := (· != d)) (l := cs)
      simpa using List.all_eq_true.1 hall d hmem
  · rintro ⟨rfl, hnot⟩
    rw [cutOnce?, List.dropWhile_append_of_pos (bne_of_not_mem hnot),
      List.takeWhile_append_of_pos (bne_of_not_mem hnot)]
    simp

/-! ### Trimming -/

theorem dropEndWhile_concat {p : Char → Bool} {c : Char} (h : p c = false) (cs : List Char) :
    dropEndWhile p (cs ++ [c]) = cs ++ [c] := by
  simp [dropEndWhile, h]

theorem trimEndChars_append_of_allBlank {bs : List Char} (h : allBlank bs = true) (cs : List Char) :
    trimEndChars (cs ++ bs) = trimEndChars cs := by
  have hall : ∀ b ∈ bs.reverse, isBlank b = true := by
    simpa [allBlank] using h
  rw [trimEndChars, dropEndWhile, List.reverse_append, List.dropWhile_append_of_pos hall]
  rfl

/-- What trimming the end of a text takes away is blank. -/
theorem exists_trimEndChars (cs : List Char) :
    ∃ as bs, cs = as ++ bs ∧ allBlank bs = true ∧ trimEndChars cs = as := by
  refine ⟨_, (cs.reverse.takeWhile isBlank).reverse, ?_, ?_, rfl⟩
  · rw [trimEndChars, dropEndWhile, ← List.reverse_append, List.takeWhile_append_dropWhile,
      List.reverse_reverse]
  · rw [allBlank, List.all_reverse]
    exact List.all_takeWhile

/-- Trimming the end of a text leaves alone what stands up to a character that is not blank. -/
theorem trimEndChars_append_cons {c : Char} (h : isBlank c = false) (cs ds : List Char) :
    trimEndChars (cs ++ c :: ds) = cs ++ c :: trimEndChars ds := by
  have hreverse : (cs ++ c :: ds).reverse = ds.reverse ++ c :: cs.reverse := by simp
  rw [trimEndChars, trimEndChars, dropEndWhile, dropEndWhile, hreverse, List.dropWhile_append]
  split
  · rename_i hempty
    rw [List.isEmpty_iff.1 hempty]
    simp [h]
  · simp

theorem head?_append_of_ne_nil {as : List Char} (h : as ≠ []) (bs : List Char) :
    (as ++ bs).head? = as.head? := by
  cases as with
  | nil => exact absurd rfl h
  | cons a as => rfl

theorem getLast?_append_of_ne_nil {cs : List Char} (h : cs ≠ []) (bs : List Char) :
    (bs ++ cs).getLast? = cs.getLast? := by
  rw [List.getLast?_append, Option.or_of_isSome]
  simpa [List.getLast?_isSome] using h

theorem skipBlanks_eq_self {cs : List Char} (hhead : ∀ c ∈ cs.head?, isBlank c = false) :
    skipBlanks cs = cs := by
  cases cs with
  | nil => rfl
  | cons c cs => exact skipBlanks_of_not_isBlank (hhead c rfl)

theorem trimEndChars_eq_self {cs : List Char} (hlast : ∀ c ∈ cs.getLast?, isBlank c = false) :
    trimEndChars cs = cs := by
  rcases List.eq_nil_or_concat cs with rfl | ⟨ds, c, rfl⟩
  · rfl
  · rw [List.concat_eq_append] at hlast ⊢
    exact dropEndWhile_concat (hlast c List.getLast?_concat) ds

/-- A text keeps its ends when they are not blank. -/
theorem trimChars_eq_self {cs : List Char} (hhead : ∀ c ∈ cs.head?, isBlank c = false)
    (hlast : ∀ c ∈ cs.getLast?, isBlank c = false) : trimChars cs = cs := by
  rw [trimChars, skipBlanks_eq_self hhead, trimEndChars_eq_self hlast]

theorem skipBlanks_eq_nil_iff {cs : List Char} : skipBlanks cs = [] ↔ allBlank cs = true := by
  induction cs with
  | nil => simp [skipBlanks, allBlank]
  | cons c cs ih =>
    simp only [skipBlanks, allBlank, List.all_cons, Bool.and_eq_true] at ih ⊢
    by_cases hc : isBlank c = true
    · rw [List.dropWhile_cons_of_pos hc, ih, and_iff_right hc]
    · simp [hc]

theorem skipBlanks_append {cs : List Char} (h : allBlank cs = false) (ds : List Char) :
    skipBlanks (cs ++ ds) = skipBlanks cs ++ ds := by
  have hne : skipBlanks cs ≠ [] := by
    rw [ne_eq, skipBlanks_eq_nil_iff, h]
    exact Bool.false_ne_true
  rw [skipBlanks] at hne
  rw [skipBlanks, List.dropWhile_append, if_neg (by simpa using hne), skipBlanks]

theorem trimEndChars_eq_nil_iff {cs : List Char} : trimEndChars cs = [] ↔ allBlank cs = true := by
  constructor
  · intro hnil
    obtain ⟨as, bs, rfl, hbs, htrim⟩ := exists_trimEndChars cs
    rwa [← htrim, hnil]
  · intro hblank
    exact trimEndChars_append_of_allBlank hblank []

theorem mem_trimEndChars_iff {c : Char} (h : isBlank c = false) {cs : List Char} :
    c ∈ trimEndChars cs ↔ c ∈ cs := by
  obtain ⟨as, bs, rfl, hbs, htrim⟩ := exists_trimEndChars cs
  have hnot : c ∉ bs := by
    intro hc
    rw [List.all_eq_true.1 hbs c hc] at h
    cases h
  simp [htrim, hnot]

/-- Trimming a text whose end is trimmed is trimming the text. -/
theorem trimChars_trimEndChars (cs : List Char) : trimChars (trimEndChars cs) = trimChars cs := by
  obtain ⟨as, bs, rfl, hbs, htrim⟩ := exists_trimEndChars cs
  rw [htrim, trimChars, trimChars]
  cases hblank : allBlank as with
  | true =>
    rw [skipBlanks_append_of_allBlank hblank, skipBlanks_eq_nil_iff.2 hblank,
      skipBlanks_eq_nil_iff.2 hbs]
  | false => rw [skipBlanks_append hblank, trimEndChars_append_of_allBlank hbs]

theorem skipBlanks_of_trimChars {cs : List Char} (h : trimChars cs = cs) : skipBlanks cs = cs := by
  obtain ⟨as, bs, hcs, -, htrim⟩ := exists_trimEndChars (skipBlanks cs)
  rw [← trimChars, h] at htrim
  have hle : cs.length ≤ (skipBlanks cs).length := by
    rw [hcs, htrim, List.length_append]
    exact Nat.le_add_right _ _
  exact (List.dropWhile_suffix isBlank).eq_of_length_le hle

theorem trimChars_eq_nil_iff {cs : List Char} : trimChars cs = [] ↔ allBlank cs = true := by
  rw [trimChars, trimEndChars_eq_nil_iff, ← skipBlanks_eq_nil_iff, skipBlanks_idem,
    skipBlanks_eq_nil_iff]

theorem mem_trimChars_iff {c : Char} (h : isBlank c = false) {cs : List Char} :
    c ∈ trimChars cs ↔ c ∈ cs := by
  rw [trimChars, mem_trimEndChars_iff h]
  induction cs with
  | nil => rfl
  | cons d cs ih =>
    by_cases hd : isBlank d = true
    · have hne : c ≠ d := by
        rintro rfl
        rw [h] at hd
        cases hd
      rw [skipBlanks, List.dropWhile_cons_of_pos hd, ← skipBlanks, ih]
      simp [hne]
    · rw [skipBlanks_of_not_isBlank (Bool.not_eq_true _ ▸ hd)]

/-- **Trimming does not see a carriage return that ends a line.** -/
theorem trimChars_dropReturn (cs : List Char) : trimChars (dropReturn cs) = trimChars cs := by
  have hreturn : allBlank ['\r'] = true := by decide
  rcases List.eq_nil_or_concat cs with rfl | ⟨ds, c, rfl⟩
  · rfl
  · rw [List.concat_eq_append]
    by_cases hc : c = '\r'
    · subst hc
      rw [dropReturn_return, trimChars, trimChars]
      cases hds : allBlank ds with
      | true => rw [skipBlanks_append_of_allBlank hds, skipBlanks_eq_nil_iff.2 hds,
          skipBlanks_eq_nil_iff.2 hreturn]
      | false => rw [skipBlanks_append hds, trimEndChars_append_of_allBlank hreturn]
    · rw [dropReturn_concat hc]

/-! ### Quotes -/

/-- Whether a text has quotes of one kind around another text. -/
def IsQuoted (cs ds : List Char) : Prop := ∃ q, (q = '"' ∨ q = '\'') ∧ cs = q :: (ds ++ [q])

theorem unquote_quoted {q : Char} (hq : q = '"' ∨ q = '\'') (ds : List Char) :
    unquote (q :: (ds ++ [q])) = ds := by
  cases ds with
  | nil => rcases hq with rfl | rfl <;> rfl
  | cons d ds =>
    have hlast : (d :: (ds ++ [q])).getLast? = some q := List.getLast?_concat (l := d :: ds)
    have hinit : (d :: (ds ++ [q])).dropLast = d :: ds := by
      rw [← List.cons_append, List.dropLast_concat]
    rcases hq with rfl | rfl <;> simp [unquote, hlast, hinit]

/-- A text that starts and ends with a quote has it around what stands between. -/
theorem isQuoted_of_getLast? {q : Char} (hq : q = '"' ∨ q = '\'') {cs : List Char}
    (hlast : cs.getLast? = some q) : IsQuoted (q :: cs) cs.dropLast := by
  refine ⟨q, hq, ?_⟩
  obtain ⟨ds, rfl⟩ := List.getLast?_eq_some_iff.1 hlast
  rw [List.dropLast_concat]

theorem unquote_of_not_isQuoted {cs : List Char} (h : ∀ ds, ¬IsQuoted cs ds) :
    unquote cs = cs := by
  match cs with
  | [] => rfl
  | [_] => rfl
  | c :: d :: rest =>
    have hno {q : Char} (hq : q = '"' ∨ q = '\'') :
        (c = q && (d :: rest).getLast? == some q) = false := by
      rw [Bool.eq_false_iff]
      intro hboth
      simp only [Bool.and_eq_true, decide_eq_true_eq, beq_iff_eq] at hboth
      obtain ⟨rfl, hlast⟩ := hboth
      exact h _ (isQuoted_of_getLast? hq hlast)
    simp only [unquote, hno (.inl rfl), hno (.inr rfl)]
    rfl

/-- **One pair of quotes is taken off**, and a text without one is left alone. -/
theorem unquote_eq_iff {cs ds : List Char} :
    unquote cs = ds ↔ IsQuoted cs ds ∨ (∀ es, ¬IsQuoted cs es) ∧ cs = ds := by
  constructor
  · intro h
    by_cases hquoted : ∃ es, IsQuoted cs es
    · obtain ⟨es, q, hq, rfl⟩ := hquoted
      rw [unquote_quoted hq] at h
      exact .inl ⟨q, hq, h ▸ rfl⟩
    · have hno := not_exists.1 hquoted
      exact .inr ⟨hno, (unquote_of_not_isQuoted hno).symm.trans h⟩
  · rintro (⟨q, hq, rfl⟩ | ⟨hno, rfl⟩)
    · exact unquote_quoted hq ds
    · exact unquote_of_not_isQuoted hno

end FirmwareSurvey.Text
