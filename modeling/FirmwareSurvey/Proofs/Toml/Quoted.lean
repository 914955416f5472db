import FirmwareSurvey.Toml.Printer
import FirmwareSurvey.Toml.Reader
import Mathlib.Data.List.TakeWhile
import Mathlib.Tactic.SplitIfs

/-!
# Texts read back

A text is written in one of five spellings, and each reads back as the text: `text?_textChars`.

Between single marks every character is read by itself, an escape as the character it was written
for. Between three marks the reader takes marks in runs, since a run of three or more closes the
text; what carries the induction there is the length of the run that the rest of the text starts
with (`leading`), which the writer keeps at two by escaping every third quote, and which is at most
two by the choice of spelling where nothing can be escaped.
-/

namespace FirmwareSurvey.Toml

attribute [local simp] quoted? tripleQuoted?

/-! ### Characters -/

theorem isTextChar_of_not_isControl {c : Char} (h : isControl c = false) (hn : c ≠ '\n') :
    isTextChar c = true := by
  by_cases ht : c = '\t'
  · simp [isTextChar, isCommentChar, ht]
  · simp only [isControl, Bool.or_eq_false_iff, Bool.and_eq_false_iff, decide_eq_false_iff_not,
      bne_eq_false_iff_eq, ht, hn, or_false, beq_eq_false_iff_ne] at h
    simp only [isTextChar, isCommentChar, Bool.or_eq_true, Bool.and_eq_true, decide_eq_true_eq,
      bne_iff_ne]
    exact Or.inr ⟨by omega, h.2⟩

/-- **An escape by number reads back**, for every character that is written so. -/
theorem codePoint?_padZeros : ∀ n < 128, n < 0x20 ∨ n = 0x7F →
    codePoint? (Text.padZeros 4 (Text.upperHexChars n)) = some (Char.ofNat n) ∧
      (Text.padZeros 4 (Text.upperHexChars n)).length = 4 := by
  decide

theorem quoted?_numbered {c : Char} (hc : c.toNat < 0x20 ∨ c.toNat = 0x7F) (read rest : List Char) :
    quoted? read ('\\' :: 'u' :: (Text.padZeros 4 (Text.upperHexChars c.toNat) ++ rest)) =
      quoted? (c :: read) rest := by
  obtain ⟨hcode, hlength⟩ := codePoint?_padZeros c.toNat (by omega) hc
  match hd : Text.padZeros 4 (Text.upperHexChars c.toNat), hlength with
  | [a, b, d, e], _ =>
    rw [hd] at hcode
    simp [hcode]

theorem quoted?_cons {c : Char} (hc : isTextChar c = true) (hq : c ≠ '"') (hb : c ≠ '\\')
    (read rest : List Char) : quoted? read (c :: rest) = quoted? (c :: read) rest := by
  rw [quoted?]
  · simp [hc]
  all_goals simp_all

/-- What is escaped starts with neither a quote nor the end of a line. -/
theorem escaped_eq_cons {c : Char} (hq : c ≠ '"') (hn : c ≠ '\n') :
    ∃ d ds, escaped c = d :: ds ∧ d ≠ '"' ∧ d ≠ '\n' ∧ d ≠ '\r' := by
  unfold escaped
  split_ifs with hb ht hf hr hs hu
  case neg => exact ⟨c, [], rfl, hq, hn, by simpa using hr⟩
  all_goals exact ⟨'\\', _, rfl, by decide, by decide, by decide⟩

theorem quoted?_escaped {c : Char} (hq : c ≠ '"') (read rest : List Char) :
    quoted? read (escaped c ++ rest) = quoted? (c :: read) rest := by
  unfold escaped
  split_ifs with hb ht hf hr hs hn
  · simp_all [shortEscape?]
  · simp_all [shortEscape?]
  · simp_all [shortEscape?]
  · simp_all [shortEscape?]
  · simp_all [shortEscape?]
  · simp only [Bool.or_eq_true, decide_eq_true_eq, beq_iff_eq] at hn
    simpa using quoted?_numbered hn read rest
  · simp only [Bool.or_eq_true, decide_eq_true_eq, beq_iff_eq, not_or, Nat.not_lt] at hn hs
    refine quoted?_cons ?_ hq hs read rest
    simp [isTextChar, isCommentChar, hn]


/-- **A text between quotes reads back.** -/
theorem quoted?_quotedChars (cs read rest : List Char) :
    quoted? read (quotedChars cs ++ '"' :: rest) = some (read.reverse ++ cs, rest) := by
  induction cs generalizing read with
  | nil => simp [quotedChars]
  | cons c cs ih =>
    have hstep : quoted? read ((if c == '"' then ['\\', '"'] else if c == '\n' then ['\\', 'n']
        else escaped c) ++ (quotedChars cs ++ '"' :: rest)) =
        quoted? (c :: read) (quotedChars cs ++ '"' :: rest) := by
      split_ifs with hq hn
      · simp_all [shortEscape?]
      · simp_all [shortEscape?]
      · exact quoted?_escaped (by simpa using hq) _ _
    have hcons : quotedChars (c :: cs) ++ '"' :: rest = (if c == '"' then ['\\', '"']
        else if c == '\n' then ['\\', 'n'] else escaped c) ++ (quotedChars cs ++ '"' :: rest) := by
      simp [quotedChars]
    rw [hcons, hstep, ih]
    simp

/-- **A text between apostrophes reads back**, when it holds none and no control character. -/
theorem literal?_append {cs : List Char} (h : ∀ c ∈ cs, isTextChar c = true ∧ c ≠ '\'')
    (read rest : List Char) :
    literal? read (cs ++ '\'' :: rest) = some (read.reverse ++ cs, rest) := by
  induction cs generalizing read with
  | nil => simp [literal?]
  | cons c cs ih =>
    obtain ⟨⟨hc, hq⟩, hcs⟩ := List.forall_mem_cons.1 h
    rw [List.cons_append, literal?]
    · simp [hc, ih hcs]
    · simpa using hq

/-! ### Three marks -/

/-- The number of marks a text starts with. -/
def leading (q : Char) (cs : List Char) : Nat := (cs.takeWhile (· == q)).length

@[simp] theorem leading_cons_self (q : Char) (cs : List Char) :
    leading q (q :: cs) = leading q cs + 1 := by
  simp [leading]

theorem leading_cons_of_ne {q c : Char} (h : c ≠ q) (cs : List Char) :
    leading q (c :: cs) = 0 := by
  simp [leading, h]

theorem leading_eq_zero {q : Char} {cs : List Char} (h : cs.head? ≠ some q) :
    leading q cs = 0 := by
  cases cs with
  | nil => rfl
  | cons c cs => exact leading_cons_of_ne (by simpa using h) cs

theorem leading_replicate_append (q : Char) (n : Nat) (cs : List Char) :
    leading q (List.replicate n q ++ cs) = n + leading q cs := by
  induction n with
  | zero => simp
  | succ n ih => rw [List.replicate_succ, List.cons_append, leading_cons_self, ih]; omega

theorem closing?_eq_none {q : Char} {cs : List Char} (h : leading q cs < 3) (read : List Char) :
    closing? q read cs = none := by
  exact if_pos h

/-- **Three marks close a text**, and up to two before them belong to it. -/
theorem closing?_replicate {q : Char} {n : Nat} (hn : n ≤ 2) {rest : List Char}
    (h : rest.head? ≠ some q) (read : List Char) :
    closing? q read (List.replicate n q ++ q :: q :: q :: rest) =
      some (read.reverse ++ List.replicate n q, rest) := by
  have hrun : leading q (List.replicate n q ++ q :: q :: q :: rest) = n + 3 := by
    simp [leading_replicate_append, leading_eq_zero h]
  have hdrop : (List.replicate n q ++ q :: q :: q :: rest).drop (3 + n) = rest := by
    rw [show List.replicate n q ++ q :: q :: q :: rest =
      (List.replicate n q ++ [q, q, q]) ++ rest by simp,
      List.drop_append_of_le_length (by simp; omega)]
    simp; omega
  have hmin : min (n + 3 - 3) 2 = n := by omega
  simp only [leading] at hrun
  simp only [closing?, hrun, hmin, hdrop]
  simp

theorem tripleQuotedChars_replicate {n run : Nat} (h : run + n ≤ 2) :
    tripleQuotedChars run (List.replicate n '"') = List.replicate n '"' := by
  induction n generalizing run with
  | zero => rfl
  | succ n ih =>
    have hrun : (run == 2) = false := by simp; omega
    simp [List.replicate_succ, tripleQuotedChars, hrun, ih (by omega : run + 1 + n ≤ 2)]

/-- **No run of quotes grows to three**: up to the closing marks, or else to the next character that
is no quote, a text between three quotes shows at most two quotes in a row. -/
theorem leading_tripleQuotedChars (cs : List Char) {run : Nat} (hrun : run ≤ 2) :
    (∃ n, cs = List.replicate n '"' ∧ run + n ≤ 2) ∨
      ∀ rest, leading '"' (tripleQuotedChars run cs ++ rest) ≤ 2 - run := by
  induction cs generalizing run with
  | nil => exact Or.inl ⟨0, rfl, hrun⟩
  | cons c cs ih =>
    by_cases hq : c = '"'
    · subst hq
      by_cases hr : run = 2
      · refine Or.inr fun rest => ?_
        simp [tripleQuotedChars, hr, leading_cons_of_ne]
      · rcases ih (by omega : run + 1 ≤ 2) with ⟨n, rfl, hn⟩ | hleading
        · exact Or.inl ⟨n + 1, rfl, by omega⟩
        · refine Or.inr fun rest => ?_
          have := hleading rest
          simp only [tripleQuotedChars, beq_self_eq_true, if_true, beq_iff_eq, if_neg hr,
            List.cons_append, leading_cons_self]
          omega
    · refine Or.inr fun rest => ?_
      by_cases hn : c = '\n'
      · simp [tripleQuotedChars, hn, leading_cons_of_ne]
      · obtain ⟨d, ds, hd, hne⟩ := escaped_eq_cons hq hn
        simp [tripleQuotedChars, hq, hn, hd, leading_cons_of_ne hne.1]

theorem tripleQuoted?_quote_none {rest : List Char} (h : leading '"' ('"' :: rest) < 3)
    (read : List Char) :
    tripleQuoted? false read ('"' :: rest) = tripleQuoted? false ('"' :: read) rest := by
  rw [tripleQuoted?, closing?_eq_none h]

theorem tripleQuoted?_numbered {c : Char} (hc : c.toNat < 0x20 ∨ c.toNat = 0x7F)
    (read rest : List Char) :
    tripleQuoted? false read
        ('\\' :: 'u' :: (Text.padZeros 4 (Text.upperHexChars c.toNat) ++ rest)) =
      tripleQuoted? false (c :: read) rest := by
  obtain ⟨hcode, hlength⟩ := codePoint?_padZeros c.toNat (by omega) hc
  match hd : Text.padZeros 4 (Text.upperHexChars c.toNat), hlength with
  | [a, b, d, e], _ =>
    rw [hd] at hcode
    simp [hcode]

theorem tripleQuoted?_cons {c : Char} (hc : isTextChar c = true) (hq : c ≠ '"') (hb : c ≠ '\\')
    (hn : c ≠ '\n') (hr : c ≠ '\r') (read rest : List Char) :
    tripleQuoted? false read (c :: rest) = tripleQuoted? false (c :: read) rest := by
  rw [tripleQuoted?]
  · simp [hc]
  all_goals simp_all

/-- An escape of one letter is none that joins lines. -/
theorem tripleQuoted?_short {c x : Char} (h : shortEscape? c = some x)
    (hc : c ∈ ['"', '\\', 'b', 't', 'f', 'r']) (read rest : List Char) :
    tripleQuoted? false read ('\\' :: c :: rest) = tripleQuoted? false (x :: read) rest := by
  have hend : endsLine (c :: rest) = false := by
    simp only [List.mem_cons, List.not_mem_nil, or_false] at hc
    rcases hc with rfl | rfl | rfl | rfl | rfl | rfl <;>
      simp [endsLine, skipLineBlanks, isLineBlank]
  rw [tripleQuoted?]
  · simp [hend, h]
  all_goals
    simp only [List.mem_cons, List.not_mem_nil, or_false] at hc
    rcases hc with rfl | rfl | rfl | rfl | rfl | rfl <;> simp

theorem tripleQuoted?_escaped {c : Char} (hq : c ≠ '"') (hn : c ≠ '\n') (read rest : List Char) :
    tripleQuoted? false read (escaped c ++ rest) = tripleQuoted? false (c :: read) rest := by
  unfold escaped
  split_ifs with hb ht hf hr hs hu
  · simp only [beq_iff_eq] at hb
    exact hb ▸ tripleQuoted?_short (c := 'b') rfl (by simp) read rest
  · simp only [beq_iff_eq] at ht
    exact ht ▸ tripleQuoted?_short (c := 't') rfl (by simp) read rest
  · simp only [beq_iff_eq] at hf
    exact hf ▸ tripleQuoted?_short (c := 'f') rfl (by simp) read rest
  · simp only [beq_iff_eq] at hr
    exact hr ▸ tripleQuoted?_short (c := 'r') rfl (by simp) read rest
  · simp only [beq_iff_eq] at hs
    exact hs ▸ tripleQuoted?_short (c := '\\') rfl (by simp) read rest
  · simp only [Bool.or_eq_true, decide_eq_true_eq, beq_iff_eq] at hu
    simpa using tripleQuoted?_numbered hu read rest
  · simp only [Bool.or_eq_true, decide_eq_true_eq, beq_iff_eq, not_or, Nat.not_lt] at hu hs hr
    refine tripleQuoted?_cons ?_ hq hs hn hr read rest
    simp [isTextChar, isCommentChar, hu]

theorem tripleQuoted?_replicate {n : Nat} (hn : n ≤ 2) {rest : List Char}
    (h : rest.head? ≠ some '"') (read : List Char) :
    tripleQuoted? false read (List.replicate n '"' ++ '"' :: '"' :: '"' :: rest) =
      some (read.reverse ++ List.replicate n '"', rest) := by
  obtain ⟨cs, hcs⟩ : ∃ cs, List.replicate n '"' ++ '"' :: '"' :: '"' :: rest = '"' :: cs := by
    cases n <;> simp [List.replicate_succ]
  have := closing?_replicate hn h read
  rw [hcs] at this ⊢
  rw [tripleQuoted?, this]

/-- **A text between three quotes reads back**: each quote before the closing marks is passed over
because the run it stands in is too short to close the text. -/
theorem tripleQuoted?_tripleQuotedChars (cs : List Char) {run : Nat} (hrun : run ≤ 2)
    (read : List Char) {rest : List Char} (h : rest.head? ≠ some '"') :
    tripleQuoted? false read (tripleQuotedChars run cs ++ '"' :: '"' :: '"' :: rest) =
      some (read.reverse ++ cs, rest) := by
  induction cs generalizing run read with
  | nil => simpa [tripleQuotedChars] using tripleQuoted?_replicate (n := 0) (by omega) h read
  | cons c cs ih =>
    by_cases hq : c = '"'
    · subst hq
      rcases leading_tripleQuotedChars ('"' :: cs) hrun with ⟨n, hcs, hn⟩ | hleading
      · -- nothing but quotes is left, so they run into the closing marks
        rw [hcs, tripleQuotedChars_replicate hn]
        exact tripleQuoted?_replicate (by omega) h read
      · by_cases hr : run = 2
        · -- a third quote in a row is written escaped
          simp only [tripleQuotedChars, hr, beq_self_eq_true, if_true, List.cons_append]
          rw [tripleQuoted?_short (x := '"') rfl (by simp), ih (by omega)]
          simp
        · -- a quote that is written as it is has too few behind it to close the text
          have hlt := hleading ('"' :: '"' :: '"' :: rest)
          simp only [tripleQuotedChars, beq_self_eq_true, if_true, beq_iff_eq, if_neg hr,
            List.cons_append] at hlt ⊢
          rw [tripleQuoted?_quote_none (by omega), ih (by omega)]
          simp
    · by_cases hn : c = '\n'
      · subst hn
        simp [tripleQuotedChars, ih (by omega : 0 ≤ 2)]
      · have hcons : tripleQuotedChars run (c :: cs) = escaped c ++ tripleQuotedChars 0 cs := by
          simp [tripleQuotedChars, hq, hn]
        rw [hcons, List.append_assoc, tripleQuoted?_escaped hq hn, ih (by omega)]
        simp

theorem leading_append (q : Char) (cs rest : List Char) :
    cs = List.replicate (leading q cs) q ∨ leading q (cs ++ rest) = leading q cs := by
  induction cs with
  | nil => exact Or.inl rfl
  | cons c cs ih =>
    by_cases hc : c = q
    · subst hc
      rcases ih with ih | ih
      · exact Or.inl (by rw [leading_cons_self, List.replicate_succ, ← ih])
      · exact Or.inr (by rw [List.cons_append, leading_cons_self, leading_cons_self, ih])
    · exact Or.inr (by rw [List.cons_append, leading_cons_of_ne hc, leading_cons_of_ne hc])

theorem add_leading_le_longestRun (q : Char) (run : Nat) (cs : List Char) :
    run + leading q cs ≤ longestRun q run cs := by
  induction cs generalizing run with
  | nil => exact Nat.le_refl run
  | cons c cs ih =>
    by_cases hc : c = q
    · subst hc
      have := ih (run + 1)
      rw [longestRun, if_pos rfl, leading_cons_self]
      omega
    · rw [longestRun, if_neg hc, leading_cons_of_ne hc]
      exact Nat.le_max_left _ _

theorem longestRun_mono (q : Char) (cs : List Char) {m n : Nat} (h : m ≤ n) :
    longestRun q m cs ≤ longestRun q n cs := by
  induction cs generalizing m n with
  | nil => exact h
  | cons c cs ih =>
    by_cases hc : c = q
    · simpa [longestRun, hc] using ih (Nat.succ_le_succ h)
    · simp only [longestRun, if_neg hc]
      omega

theorem longestRun_tail_le (q c : Char) (cs : List Char) :
    longestRun q 0 cs ≤ longestRun q 0 (c :: cs) := by
  by_cases hc : c = q
  · simpa [longestRun, hc] using longestRun_mono q cs (Nat.zero_le 1)
  · simp only [longestRun, if_neg hc]
    exact Nat.le_max_right _ _

theorem tripleLiteral?_replicate {n : Nat} (hn : n ≤ 2) {rest : List Char}
    (h : rest.head? ≠ some '\'') (read : List Char) :
    tripleLiteral? read (List.replicate n '\'' ++ '\'' :: '\'' :: '\'' :: rest) =
      some (read.reverse ++ List.replicate n '\'', rest) := by
  obtain ⟨cs, hcs⟩ :
      ∃ cs, List.replicate n '\'' ++ '\'' :: '\'' :: '\'' :: rest = '\'' :: cs := by
    cases n <;> simp [List.replicate_succ]
  have := closing?_replicate hn h read
  rw [hcs] at this ⊢
  rw [tripleLiteral?, this]

/-- **A text between three apostrophes reads back**, when no run in it grows to three and none of
its characters is a control character. -/
theorem tripleLiteral?_append {cs : List Char} (hcs : ∀ c ∈ cs, isControl c = false)
    (hrun : longestRun '\'' 0 cs ≤ 2) (read : List Char) {rest : List Char}
    (h : rest.head? ≠ some '\'') :
    tripleLiteral? read (cs ++ '\'' :: '\'' :: '\'' :: rest) = some (read.reverse ++ cs, rest) := by
  induction cs generalizing read with
  | nil => simpa using tripleLiteral?_replicate (n := 0) (by omega) h read
  | cons c cs ih =>
    obtain ⟨hc, hcs⟩ := List.forall_mem_cons.1 hcs
    have htail := ih hcs ((longestRun_tail_le '\'' c cs).trans hrun)
    by_cases hq : c = '\''
    · subst hq
      have hle := add_leading_le_longestRun '\'' 0 ('\'' :: cs)
      rcases leading_append '\'' ('\'' :: cs) ('\'' :: '\'' :: '\'' :: rest) with hall | hleading
      · rw [hall]
        exact tripleLiteral?_replicate (by omega) h read
      · -- the run ends before the closing marks, and it is too short to close the text
        have hnone : leading '\'' ('\'' :: cs ++ '\'' :: '\'' :: '\'' :: rest) < 3 := by omega
        rw [List.cons_append] at hnone ⊢
        rw [tripleLiteral?, closing?_eq_none hnone]
        simp [htail]
    · by_cases hn : c = '\n'
      · subst hn
        simp [tripleLiteral?, htail]
      · have hr : c ≠ '\r' := by
          rintro rfl
          simp [isControl] at hc
        rw [List.cons_append, tripleLiteral?]
        · simp [isTextChar_of_not_isControl hc hn, htail]
        all_goals simp_all

/-! ### Texts as values -/

/-- The part of a text behind a value. -/
def AfterValue (rest : List Char) : Prop :=
  ∃ c cs, rest = c :: cs ∧ (c = ',' ∨ c = ' ' ∨ c = ']' ∨ c = '\n')

theorem AfterValue.head?_ne {rest : List Char} (h : AfterValue rest) {q : Char}
    (hq : q ∉ [',', ' ', ']', '\n']) : rest.head? ≠ some q := by
  obtain ⟨c, cs, rfl, hc⟩ := h
  rintro ⟨⟩
  simp_all

theorem head?_quotedChars (cs : List Char) : (quotedChars cs).head? ≠ some '"' := by
  cases cs with
  | nil => simp [quotedChars]
  | cons c cs =>
    by_cases hq : c = '"'
    · simp [quotedChars, hq]
    · by_cases hn : c = '\n'
      · simp [quotedChars, hn]
      · obtain ⟨d, ds, hd, hne⟩ := escaped_eq_cons hq hn
        simp [quotedChars, hq, hn, hd, hne.1]

theorem text?_quotes (cs : List Char) {rest : List Char} (h : AfterValue rest) :
    text? ('"' :: quotedChars cs ++ ['"'] ++ rest) = some (cs, rest) := by
  have hread : quoted? [] (quotedChars cs ++ '"' :: rest) = some (cs, rest) := by
    simpa using quoted?_quotedChars cs [] rest
  have hhead := head?_quotedChars cs
  have hrest := h.head?_ne (q := '"') (by simp)
  have hcs : '"' :: quotedChars cs ++ ['"'] ++ rest = '"' :: (quotedChars cs ++ '"' :: rest) := by
    simp
  rw [hcs, ← hread, text?]
  -- three quotes do not come first: a second one closes an empty text, and no third one follows
  rintro r hr
  cases hqs : quotedChars cs with
  | nil => simp_all
  | cons d ds => simp_all

theorem text?_apostrophes {cs : List Char} (hne : cs ≠ [])
    (hcs : ∀ c ∈ cs, isTextChar c = true ∧ c ≠ '\'') (rest : List Char) :
    text? ('\'' :: cs ++ ['\''] ++ rest) = some (cs, rest) := by
  have hread : literal? [] (cs ++ '\'' :: rest) = some (cs, rest) := by
    simpa using literal?_append hcs [] rest
  rw [← hread]
  cases cs with
  | nil => exact absurd rfl hne
  | cons c cs =>
    have hq := (hcs c (by simp)).2
    simp [text?, hq]

/-- The line feed that leads a text of several lines is dropped, and no other. -/
theorem dropFirstFeed_lead {cs ds : List Char} (hhead : ds.head? = some '\n' → '\n' ∈ cs)
    (hr : ds.head? ≠ some '\r') :
    dropFirstFeed ((if cs.contains '\n' then ['\n'] else []) ++ ds) = ds := by
  by_cases hn : '\n' ∈ cs
  · simp [hn, dropFirstFeed]
  · have hn' : ds.head? ≠ some '\n' := fun h => hn (hhead h)
    cases ds with
    | nil => simp [hn, dropFirstFeed]
    | cons d ds =>
      simp only [List.contains_iff_mem, hn, if_false, List.nil_append]
      rw [dropFirstFeed] <;> simp_all

theorem head?_tripleQuotedChars (cs rest : List Char) :
    ((tripleQuotedChars 0 cs ++ '"' :: rest).head? = some '\n' → '\n' ∈ cs) ∧
      (tripleQuotedChars 0 cs ++ '"' :: rest).head? ≠ some '\r' := by
  cases cs with
  | nil => simp [tripleQuotedChars]
  | cons c cs =>
    by_cases hq : c = '"'
    · simp [tripleQuotedChars, hq]
    · by_cases hn : c = '\n'
      · simp [tripleQuotedChars, hn]
      · obtain ⟨d, ds, hd, hne⟩ := escaped_eq_cons hq hn
        simp [tripleQuotedChars, hq, hn, hd, hne.2.1, hne.2.2]

theorem text?_tripleQuotes (cs : List Char) {rest : List Char} (h : AfterValue rest) :
    text? (['"', '"', '"'] ++ (if cs.contains '\n' then ['\n'] else []) ++ tripleQuotedChars 0 cs ++
      ['"', '"', '"'] ++ rest) = some (cs, rest) := by
  obtain ⟨hfeed, hreturn⟩ := head?_tripleQuotedChars cs ('"' :: '"' :: rest)
  have hread := tripleQuoted?_tripleQuotedChars cs (Nat.zero_le 2) []
    (h.head?_ne (q := '"') (by simp))
  rw [← dropFirstFeed_lead hfeed hreturn] at hread
  simpa [text?] using hread

theorem text?_tripleApostrophes {cs : List Char} (hcs : ∀ c ∈ cs, isControl c = false)
    (hrun : longestRun '\'' 0 cs ≤ 2) {rest : List Char} (h : AfterValue rest) :
    text? (['\'', '\'', '\''] ++ (if cs.contains '\n' then ['\n'] else []) ++ cs ++
      ['\'', '\'', '\''] ++ rest) = some (cs, rest) := by
  have hread := tripleLiteral?_append hcs hrun [] (h.head?_ne (q := '\'') (by simp))
  have hfeed : (cs ++ '\'' :: '\'' :: '\'' :: rest).head? = some '\n' → '\n' ∈ cs := by
    cases cs <;> simp
    rintro rfl
    simp
  have hreturn : (cs ++ '\'' :: '\'' :: '\'' :: rest).head? ≠ some '\r' := by
    cases cs with
    | nil => simp
    | cons c cs =>
      rintro ⟨⟩
      simp [isControl] at hcs
  rw [← dropFirstFeed_lead hfeed hreturn] at hread
  simpa [text?] using hread

theorem not_mem_of_longestRun {q : Char} {cs : List Char} (h : longestRun q 0 cs = 0) :
    q ∉ cs := by
  induction cs with
  | nil => simp
  | cons c cs ih =>
    have hc : c ≠ q := by
      rintro rfl
      have := add_leading_le_longestRun c 0 (c :: cs)
      rw [leading_cons_self] at this
      omega
    have htail := longestRun_tail_le q c cs
    rw [List.mem_cons, not_or]
    exact ⟨Ne.symm hc, ih (by omega)⟩

theorem of_spelling_apostrophes {cs : List Char} (h : spelling cs = .apostrophes) :
    cs ≠ [] ∧ ∀ c ∈ cs, isTextChar c = true ∧ c ≠ '\'' := by
  have hcs : (!cs.any isControl && longestRun '\'' 0 cs == 0 && !cs.contains '\n') = true := by
    by_contra hno
    unfold spelling at h
    simp only [hno] at h
    split_ifs at h
    contradiction
  simp only [Bool.and_eq_true, Bool.not_eq_true', List.any_eq_false, beq_iff_eq,
    List.contains_eq_mem, decide_eq_false_iff_not] at hcs
  obtain ⟨⟨hcontrol, hrun⟩, hfeed⟩ := hcs
  refine ⟨?_, fun c hc => ⟨isTextChar_of_not_isControl (by simpa using hcontrol c hc) ?_, ?_⟩⟩
  · rintro rfl
    simp [spelling, longestRun] at h
  · exact fun hn => hfeed (hn ▸ hc)
  · exact fun hq => not_mem_of_longestRun hrun (hq ▸ hc)

theorem of_spelling_tripleApostrophes {cs : List Char} (h : spelling cs = .tripleApostrophes) :
    (∀ c ∈ cs, isControl c = false) ∧ longestRun '\'' 0 cs ≤ 2 := by
  have hcs : (!cs.any isControl && decide (longestRun '\'' 0 cs ≤ 2)) = true := by
    by_contra hno
    unfold spelling at h
    simp only [hno] at h
    split_ifs at h
    contradiction
  simpa using hcs

/-- **Every text reads back**, in whichever spelling it is written. -/
theorem text?_textChars (cs : List Char) {rest : List Char} (h : AfterValue rest) :
    text? (textChars cs ++ rest) = some (cs, rest) := by
  unfold textChars
  match hs : spelling cs with
  | .quotes => exact text?_quotes cs h
  | .apostrophes =>
    obtain ⟨hne, hcs⟩ := of_spelling_apostrophes hs
    exact text?_apostrophes hne hcs rest
  | .tripleQuotes => exact text?_tripleQuotes cs h
  | .tripleApostrophes =>
    obtain ⟨hcs, hrun⟩ := of_spelling_tripleApostrophes hs
    exact text?_tripleApostrophes hcs hrun h

end FirmwareSurvey.Toml

/-!
## Keys read back

A key is a row of parts with dots between them, and each part is bare or a text on one line. A key
reads back as its parts as long as it has no more of them than keys may have:
`keyParts?_keyPathChars`. Blanks behind a key are passed over with it.
-/

namespace FirmwareSurvey.Toml

theorem isBareChar_eq (c : Char) : isBareChar c = isBareKeyChar c := by
  simp only [isBareChar, isBareKeyChar, Text.isAsciiDigit, Text.isAsciiLetter]
  ac_rfl

/-- The part of a text behind a part of a key. -/
def AfterKey (rest : List Char) : Prop :=
  ∃ c cs, rest = c :: cs ∧ (c = ' ' ∨ c = '.' ∨ c = ']')

theorem keyPart?_bare {cs : List Char} (hne : cs ≠ []) (hcs : ∀ c ∈ cs, isBareChar c = true)
    {rest : List Char} (h : AfterKey rest) :
    keyPart? (cs ++ rest) = some (String.ofList cs, rest) := by
  obtain ⟨d, ds, rfl, hd⟩ := h
  have hbare : isBareChar d = false := by rcases hd with rfl | rfl | rfl <;> rfl
  obtain ⟨c, r, rfl⟩ := List.exists_cons_of_ne_nil hne
  have hc := hcs c (by simp)
  have htake : (c :: r ++ d :: ds).takeWhile isBareChar = c :: r := by
    rw [List.takeWhile_append_of_pos hcs]
    simp [hbare]
  have hdrop : (c :: r ++ d :: ds).dropWhile isBareChar = d :: ds := by
    rw [List.dropWhile_append_of_pos hcs]
    simp [hbare]
  rw [keyPart?]
  · simp only [htake, hdrop]
    rfl
  · rintro _ ⟨⟩
    exact absurd hc (by decide)
  · rintro _ ⟨⟩
    exact absurd hc (by decide)

/-- **Every part of a key reads back.** -/
theorem keyPart?_keyChars (cs : List Char) {rest : List Char} (h : AfterKey rest) :
    keyPart? (keyChars cs ++ rest) = some (String.ofList cs, rest) := by
  have hquoted : keyPart? ('"' :: quotedChars cs ++ ['"'] ++ rest) =
      some (String.ofList cs, rest) := by
    have := quoted?_quotedChars cs [] rest
    simp [keyPart?, this]
  unfold keyChars
  simp only
  split_ifs with hbare hquote hliteral
  · simp only [Bool.and_eq_true, Bool.not_eq_true', List.isEmpty_eq_false_iff, List.all_eq_true]
      at hbare
    exact keyPart?_bare hbare.1 (fun c hc => isBareChar_eq c ▸ hbare.2 c hc) h
  · exact hquoted
  · simp only [Bool.and_eq_true, Bool.not_eq_true', List.any_eq_false, Bool.or_eq_true,
      beq_iff_eq, not_or, Bool.not_eq_true, List.contains_eq_mem, decide_eq_false_iff_not]
      at hliteral
    obtain ⟨hcontrol, hmark⟩ := hliteral
    have hcs : ∀ c ∈ cs, isTextChar c = true ∧ c ≠ '\'' := fun c hc =>
      ⟨isTextChar_of_not_isControl (hcontrol c hc).1 (hcontrol c hc).2, fun hq => hmark (hq ▸ hc)⟩
    simp [keyPart?, literal?_append hcs]
  · exact hquoted

/-- A key as it is written: its parts with dots between them. -/
def keyPathChars (path : List String) : List Char :=
  (".".intercalate (path.map keyText)).toList

theorem keyPathChars_singleton (k : String) : keyPathChars [k] = keyChars k.toList := by
  simp [keyPathChars, keyText]

theorem keyPathChars_cons (k l : String) (path : List String) :
    keyPathChars (k :: l :: path) = keyChars k.toList ++ '.' :: keyPathChars (l :: path) := by
  simp [keyPathChars, keyText]

/-- What a key starts with is no blank and opens no line of another kind. -/
theorem exists_keyChars (cs : List Char) : ∃ c r, keyChars cs = c :: r ∧
    (c = '"' ∨ c = '\'' ∨ isBareChar c = true) := by
  unfold keyChars
  simp only
  split_ifs with hbare
  · cases cs with
    | nil => simp at hbare
    | cons c r =>
      simp only [List.all_cons, Bool.and_eq_true] at hbare
      exact ⟨c, r, rfl, Or.inr (Or.inr (isBareChar_eq c ▸ hbare.2.1))⟩
  all_goals simp

theorem skipLineBlanks_keyChars (cs rest : List Char) :
    skipLineBlanks (keyChars cs ++ rest) = keyChars cs ++ rest := by
  obtain ⟨c, r, hc, hkind⟩ := exists_keyChars cs
  have hblank : isLineBlank c = false := by
    rcases hkind with rfl | rfl | hbare
    · rfl
    · rfl
    · by_contra hno
      simp only [isLineBlank, Bool.not_eq_false, Bool.or_eq_true, beq_iff_eq] at hno
      rcases hno with rfl | rfl <;> exact absurd hbare (by decide)
  rw [hc]
  simp [skipLineBlanks, hblank]

/-- **A key reads back** as far as keys may go: one of more parts than that is refused. -/
theorem keyParts?_keyPathChars {path : List String} (hne : path ≠ []) (parts : Nat)
    (rest : List Char) (h : AfterKey rest) (hdot : (skipLineBlanks rest).head? ≠ some '.') :
    keyParts? parts (keyPathChars path ++ rest) =
      if path.length ≤ parts then some (path, skipLineBlanks rest) else none := by
  -- by the parts of the key, with as many fewer that may still follow
  induction path generalizing parts with
  | nil => exact absurd rfl hne
  | cons k path ih =>
    cases parts with
    | zero => simp [keyParts?]
    | succ parts =>
      cases path with
      | nil =>
        rw [keyPathChars_singleton, keyParts?, skipLineBlanks_keyChars, keyPart?_keyChars _ h]
        simp only [String.ofList_toList]
        split
        · simp_all
        · simp
      | cons l path =>
        have hafter : AfterKey ('.' :: (keyPathChars (l :: path) ++ rest)) := ⟨_, _, rfl, by simp⟩
        rw [keyPathChars_cons, List.append_assoc, List.cons_append, keyParts?,
          skipLineBlanks_keyChars, keyPart?_keyChars _ hafter]
        simp only [String.ofList_toList]
        rw [show skipLineBlanks ('.' :: (keyPathChars (l :: path) ++ rest)) =
          '.' :: (keyPathChars (l :: path) ++ rest) from rfl]
        simp only [ih (by simp) parts, List.length_cons]
        split_ifs with h1 h2 h2
        · rfl
        · omega
        · omega
        · rfl

end FirmwareSurvey.Toml
