import FirmwareSurvey.Binwalk.Survey
import FirmwareSurvey.Proofs.Text.Lines
import FirmwareSurvey.Proofs.Text.Numeral
import Mathlib.Tactic.IntervalCases

/-!
# A table that is printed and read back

The columns of a row run into each other but for the blanks between them, and the last one may hold
anything, numbers and runs of blanks included. What tells them apart is that each column but the
last is a run of characters that the gap behind it has none of, and each gap a run of blanks that
the column behind it does not start with; so every run ends where the next begins
(`someRun?_append`), and a row has one reading (`columns?_line`). The blanks behind the description
are no part of it, and a carriage return that ends the line is one of them.

A line that does not start with an ASCII digit is no row (`row?_eq_none`). So a table gives its
rows, in their order, whatever stands between them (`components_text`).
-/

namespace FirmwareSurvey.Binwalk

open Text

/-! ### Runs -/

/-- No blank is a digit, of any script. -/
theorem isDigit_of_isBlank {c : Char} (h : isBlank c = true) : isDigit c = false := by
  simp only [isBlank, Bool.or_eq_true, Bool.and_eq_true, decide_eq_true_eq, beq_iff_eq] at h
  rw [isDigit]
  split
  · rw [Bool.eq_false_iff, ne_eq, isAsciiDigit_iff]
    omega
  · generalize c.toNat = n at *
    have hn : n = 0x85 ∨ n = 0xA0 ∨ n = 0x1680 ∨ (0x2000 ≤ n ∧ n ≤ 0x200A) ∨ n = 0x2028 ∨
        n = 0x2029 ∨ n = 0x202F ∨ n = 0x205F ∨ n = 0x3000 := by omega
    rcases hn with rfl | rfl | rfl | ⟨hlow, hhigh⟩ | rfl | rfl | rfl | rfl | rfl
    case inr.inr.inr.inl => interval_cases n <;> rfl
    all_goals rfl

/-- **A run ends where something else begins.** -/
theorem someRun?_append {p : Char → Bool} {run rest : List Char} (hne : run ≠ [])
    (hrun : ∀ c ∈ run, p c = true) (hrest : ∀ c ∈ rest.head?, p c = false) :
    someRun? p (run ++ rest) = some (run, rest) := by
  rw [someRun?]
  simp only [takeWhile_run hrun hrest, dropWhile_run hrun hrest]
  rw [if_neg (by simpa using hne)]

/-- A run starts where the text does. -/
theorem exists_of_someRun? {p : Char → Bool} {cs run rest : List Char}
    (h : someRun? p cs = some (run, rest)) :
    ∃ c tail, run = c :: tail ∧ p c = true ∧ cs.head? = some c := by
  cases cs with
  | nil => cases h
  | cons c cs =>
    by_cases hc : p c = true
    · rw [someRun?, List.takeWhile_cons_of_pos hc] at h
      cases h
      exact ⟨c, _, rfl, hc, rfl⟩
    · rw [someRun?, List.takeWhile_cons_of_neg hc] at h
      cases h

theorem dropGap?_append {gap rest : List Char} (hne : gap ≠ []) (hgap : allBlank gap = true)
    (hrest : ∀ c ∈ rest.head?, isBlank c = false) : dropGap? (gap ++ rest) = some rest := by
  rw [dropGap?, someRun?_append hne (List.all_eq_true.1 hgap) hrest]
  rfl

/-- What follows a run of blanks starts with no character of a class that has no blank. -/
theorem head?_gap {p : Char → Bool} (hp : ∀ c, isBlank c = true → p c = false) {gap : List Char}
    (hne : gap ≠ []) (hgap : allBlank gap = true) (rest : List Char) :
    ∀ c ∈ (gap ++ rest).head?, p c = false := by
  obtain ⟨b, bs, rfl⟩ := List.exists_cons_of_ne_nil hne
  rintro c hc
  obtain rfl : b = c := by simpa using hc
  exact hp b (List.all_eq_true.1 hgap b (by simp))

/-! ### Lines of a table -/

/-- A row as it is printed: what it says, and the blanks it is written with. -/
structure PrintedRow where
  /-- The offset. -/
  offset : Nat
  /-- The offset in hexadecimal, behind its mark. -/
  hex : List Char
  /-- The description. -/
  description : List Char
  /-- The blanks behind the first column. -/
  gap : List Char
  /-- The blanks behind the second column. -/
  gap' : List Char
  /-- The blanks at the end. -/
  tail : List Char
  /-- The offset fits a word. -/
  offset_lt : offset < wordLimit
  /-- The second column has no blank. -/
  hex_solid : ∀ c ∈ hex, isBlank c = false
  /-- There is a description. -/
  description_ne : description ≠ []
  /-- It starts with no blank. -/
  description_head : ∀ c ∈ description.head?, isBlank c = false
  /-- It ends with no blank. -/
  description_last : ∀ c ∈ description.getLast?, isBlank c = false
  /-- It stands on one line. -/
  description_feed : '\n' ∉ description
  /-- The first two columns are apart. -/
  gap_ne : gap ≠ []
  /-- Nothing but blanks is between them. -/
  gap_blank : allBlank gap = true
  /-- They stand on one line. -/
  gap_feed : '\n' ∉ gap
  /-- The last two columns are apart. -/
  gap'_ne : gap' ≠ []
  /-- Nothing but blanks is between them. -/
  gap'_blank : allBlank gap' = true
  /-- They stand on one line. -/
  gap'_feed : '\n' ∉ gap'
  /-- Nothing but blanks is at the end. -/
  tail_blank : allBlank tail = true
  /-- They stand on the same line. -/
  tail_feed : '\n' ∉ tail

namespace PrintedRow

variable (r : PrintedRow)

/-- The three columns, without the blanks at the end. -/
def columns : List Char :=
  decimalChars r.offset ++ (r.gap ++ ('0' :: 'x' :: r.hex ++ (r.gap' ++ r.description)))

/-- What the row says; the kind is the first word of the description. -/
def component : Component :=
  { hex := String.ofList ('0' :: 'x' :: r.hex)
    offset := r.offset
    kind := String.ofList (r.description.takeWhile (!isBlank ·))
    description := String.ofList r.description }

/-- **A row is read column by column**, whatever blanks end it. -/
theorem columns?_line {tail : List Char} (htail : allBlank tail = true) :
    columns? (r.columns ++ tail) =
      some (decimalChars r.offset, '0' :: 'x' :: r.hex, r.description) := by
  -- one fact for each column, with all that stands behind it
  have hdigits : someRun? isDigit (r.columns ++ tail) = some (decimalChars r.offset,
      r.gap ++ ('0' :: 'x' :: r.hex ++ (r.gap' ++ (r.description ++ tail)))) := by
    rw [columns, List.append_assoc, List.append_assoc, List.append_assoc, List.append_assoc]
    exact someRun?_append Nat.toDigits_ne_nil
      (fun c hc => isDigit_of_isAsciiDigit (isAsciiDigit_of_mem_toDigits hc))
      (head?_gap (fun _ => isDigit_of_isBlank) r.gap_ne r.gap_blank _)
  have hgap : dropGap? (r.gap ++ ('0' :: 'x' :: r.hex ++ (r.gap' ++ (r.description ++ tail)))) =
      some ('0' :: 'x' :: r.hex ++ (r.gap' ++ (r.description ++ tail))) := by
    refine dropGap?_append r.gap_ne r.gap_blank ?_
    simp only [List.cons_append, List.head?_cons, Option.mem_some]
    rintro c rfl
    decide
  have hhex : someRun? (!isBlank ·)
      ('0' :: 'x' :: r.hex ++ (r.gap' ++ (r.description ++ tail))) =
        some ('0' :: 'x' :: r.hex, r.gap' ++ (r.description ++ tail)) := by
    refine someRun?_append (by simp) ?_
      (head?_gap (fun c hc => by simp [hc]) r.gap'_ne r.gap'_blank _)
    simp only [List.forall_mem_cons, Bool.not_eq_true']
    exact ⟨by decide, by decide, r.hex_solid⟩
  have hgap' : dropGap? (r.gap' ++ (r.description ++ tail)) = some (r.description ++ tail) := by
    refine dropGap?_append r.gap'_ne r.gap'_blank ?_
    rw [head?_append_of_ne_nil r.description_ne]
    exact r.description_head
  have htrim : trimEndChars (r.description ++ tail) = r.description := by
    rw [trimEndChars_append_of_allBlank htail]
    exact trimEndChars_eq_self r.description_last
  simp only [columns?, hdigits, hgap, hhex, hgap', htrim, bind, Option.bind_some]
  rw [if_neg (by simpa using r.description_ne)]

/-- **A row gives its component.** -/
theorem row?_line {tail : List Char} (htail : allBlank tail = true) :
    row? (r.columns ++ tail) = some r.component := by
  have hword : firstWord r.description = r.description.takeWhile (!isBlank ·) := by
    rw [firstWord, skipBlanks_eq_self r.description_head]
  rw [row?, r.columns?_line htail]
  simp [decimal?_decimalChars r.offset_lt, Component.of, component, hword, List.isPrefixOf]

theorem getLast?_columns : r.columns.getLast? = r.description.getLast? := by
  rw [columns, getLast?_append_of_ne_nil (by simp [r.gap_ne]),
    getLast?_append_of_ne_nil (by simp), getLast?_append_of_ne_nil (by simp [r.gap'_ne]),
    getLast?_append_of_ne_nil r.description_ne]

theorem feed_not_mem : '\n' ∉ r.columns ++ r.tail := by
  have hfeed : isBlank '\n' = true ∧ isAsciiDigit '\n' = false := by decide
  have hoffset : '\n' ∉ decimalChars r.offset := fun h =>
    absurd (isAsciiDigit_of_mem_toDigits h) (by simp [hfeed.2])
  have hhex : '\n' ∉ r.hex := fun h => absurd (r.hex_solid _ h) (by simp [hfeed.1])
  simp [columns, hoffset, hhex, r.gap_feed, r.gap'_feed, r.description_feed, r.tail_feed]

end PrintedRow

/-- A run of digits that starts with none of ASCII is no numeral. -/
theorem decimal?_eq_none {d : Char} {ds : List Char} (hdigit : isDigit d = true)
    (hascii : isAsciiDigit d = false) : decimal? (d :: ds) = none := by
  rw [Option.eq_none_iff_forall_not_mem]
  intro n hn
  obtain ⟨⟨es, hes | hes, -, hall, -⟩, -⟩ := decimal?_eq_some_iff.1 hn
  · rw [hall d (hes ▸ List.mem_cons_self)] at hascii
    cases hascii
  · rw [(List.cons.inj hes).1] at hdigit
    exact absurd hdigit (by decide)

/-- The first column is the run of digits that a line starts with. -/
theorem someRun?_of_columns? {line digits hex description : List Char}
    (h : columns? line = some (digits, hex, description)) :
    ∃ rest, someRun? isDigit line = some (digits, rest) := by
  obtain ⟨⟨run, rest⟩, hrun, h⟩ := Option.bind_eq_some_iff.1 h
  obtain ⟨_, -, h⟩ := Option.bind_eq_some_iff.1 h
  obtain ⟨_, -, h⟩ := Option.bind_eq_some_iff.1 h
  obtain ⟨_, -, h⟩ := Option.bind_eq_some_iff.1 h
  obtain ⟨-, heq⟩ := Option.ite_none_left_eq_some.1 h
  exact ⟨rest, (Prod.mk.inj (Option.some.inj heq)).1 ▸ hrun⟩

/-- **What does not start with an ASCII digit is no row.** -/
theorem row?_eq_none {line : List Char} (h : ∀ c ∈ line.head?, isAsciiDigit c = false) :
    row? line = none := by
  rw [row?]
  split
  · rename_i digits hex description hcolumns
    obtain ⟨rest, hrun⟩ := someRun?_of_columns? hcolumns
    obtain ⟨c, cs, rfl, hdigit, hhead⟩ := exists_of_someRun? hrun
    rw [decimal?_eq_none hdigit (h c hhead), Option.map_none, ite_self]
  · rfl

/-- A line of a table. -/
inductive Line where
  /-- A row. -/
  | row (r : PrintedRow)
  /-- Any other line: it does not start with a digit. -/
  | other (line : List Char) (feed : '\n' ∉ line)
      (head : ∀ c ∈ line.head?, isAsciiDigit c = false)

namespace Line

/-- The characters of a line. -/
def chars : Line → List Char
  | .row r => r.columns ++ r.tail
  | .other line _ _ => line

/-- What a line says. -/
def component? : Line → Option Component
  | .row r => some r.component
  | .other _ _ _ => none

theorem feed_not_mem : ∀ l : Line, '\n' ∉ l.chars
  | .row r => r.feed_not_mem
  | .other _ feed _ => feed

theorem row?_chars : ∀ l : Line, row? l.chars = l.component?
  | .row r => r.row?_line r.tail_blank
  | .other _ _ head => row?_eq_none head

/-- A return that ends a line does not matter to what it says. -/
theorem row?_dropReturn : ∀ l : Line, row? (dropReturn l.chars) = row? l.chars
  | .row r => by
    obtain ⟨tail, htail, hdrop⟩ := exists_dropReturn_append
      (r.getLast?_columns ▸ r.description_last) r.tail_blank
    rw [row?_chars, chars, hdrop, r.row?_line htail]
    rfl
  | .other line _ head => by
    rw [row?_chars, chars, component?]
    refine row?_eq_none fun c hc => head c ?_
    obtain ⟨rest, hrest⟩ := dropReturn_prefix line
    rw [← hrest, List.head?_append, hc]
    rfl

end Line

/-- **A table that was printed is read back.** Its rows give what they say, in their order, however
wide the blanks between their columns and at their ends are, and whatever other lines stand between
them. -/
theorem components_text (ls : List Line) :
    components (String.ofList (joinWith '\n' (ls.map Line.chars))) =
      ls.filterMap Line.component? := by
  rw [components, String.toList_ofList]
  by_cases hls : ls = []
  · subst hls
    rfl
  · have hcut : cut '\n' (joinWith '\n' (ls.map Line.chars)) = ls.map Line.chars :=
      cut_joinWith (by simpa using hls) (List.forall_mem_map.2 fun l _ => l.feed_not_mem)
    have hchars : row? ∘ Line.chars = Line.component? := funext Line.row?_chars
    rw [filterMap_lineChars (row?_eq_none (by simp)), hcut, List.filterMap_map, hchars]
    · rw [hcut]
      exact List.forall_mem_map.2 fun l _ => l.row?_dropReturn

/-- A row whose description looks like further columns. -/
def columnedRow : PrintedRow where
  offset := 18446744073709551615
  hex := "FFFFFFFFFFFFFFFF".toList
  description := "gzip  12  0x34 data".toList
  gap := ['\t', ' ']
  gap' := ['\u3000']
  tail := [' ', '\r']
  offset_lt := by decide
  hex_solid := by simp [isBlank]
  description_ne := by decide
  description_head := by simp [isBlank]
  description_last := by simp [isBlank]
  description_feed := by decide
  gap_ne := by decide
  gap_blank := by decide
  gap_feed := by decide
  gap'_ne := by decide
  gap'_blank := by decide
  gap'_feed := by decide
  tail_blank := by decide
  tail_feed := by decide

/-- The line above the rows of a table. -/
def headingLine : Line := .other "DECIMAL  0x1".toList (by decide) (by simp [isAsciiDigit])

/-- A line of nothing. -/
def emptyLine : Line := .other [] (by decide) (by simp)

theorem components_text_columnedRow :
    components (String.ofList (joinWith '\n'
        ([headingLine, .row columnedRow, emptyLine].map Line.chars))) =
      [⟨"0xFFFFFFFFFFFFFFFF", 18446744073709551615, "gzip", "gzip  12  0x34 data"⟩] := by
  rw [components_text]
  decide

end FirmwareSurvey.Binwalk
