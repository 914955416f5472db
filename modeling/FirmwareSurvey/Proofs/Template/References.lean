import FirmwareSurvey.Proofs.Members
import FirmwareSurvey.Proofs.Text.Lines
import FirmwareSurvey.Template.References
import Mathlib.Data.List.Chain

/-!
# What the scan for types finds

The scan looks for pairs of braces and signs on its own, without knowing where tags really start and
end. From any place in a text on it gives tags as they stand from there, up to one character that it
has read ahead (`tagsFrom_append`). So where a tag starts the scan is in some state, open or not,
and from there to the first pair that may end a tag it reads all characters
(`tagsFrom_some_append`). Inside of what it reads, a name before a point is found wherever no word
character and no point stands before it (`mem_accesses`), and with it the type of that name
(`normal_mem_referencedTypes`).
-/

namespace FirmwareSurvey.Template

/-! ### Pairs of characters -/

/-- Whether two characters may end a tag. -/
def Ends (c d : Char) : Prop := (c = '}' ∨ c = '%') ∧ d = '}'

/-- Whether two characters may start a tag. -/
def Starts (c d : Char) : Prop := c = '{' ∧ (d = '{' ∨ d = '%')

instance (c d : Char) : Decidable (Ends c d) :=
  inferInstanceAs (Decidable ((c = '}' ∨ c = '%') ∧ d = '}'))

/-- Whether a text has no two characters that may end a tag. -/
def IsUnended (cs : List Char) : Prop := cs.IsChain fun c d => ¬Ends c d

instance (cs : List Char) : Decidable (IsUnended cs) :=
  inferInstanceAs (Decidable (cs.IsChain fun c d => ¬Ends c d))

/-- Whether two characters that may end a tag stand somewhere in a text. -/
def HasEnd (cs : List Char) : Prop := ∃ c d rest, Ends c d ∧ c :: d :: rest <:+ cs

theorem HasEnd.ne_nil {cs : List Char} (h : HasEnd cs) : cs ≠ [] := by
  rintro rfl
  obtain ⟨c, d, rest, -, hrest⟩ := h
  simp at hrest

/-- An end is not in characters that none starts with. -/
theorem HasEnd.of_append {m cs : List Char} (h : HasEnd (m ++ cs))
    (hm : ∀ c ∈ m, c ≠ '}' ∧ c ≠ '%') : HasEnd cs := by
  induction m with
  | nil => exact h
  | cons b m ih =>
    obtain ⟨hb, hm⟩ := List.forall_mem_cons.1 hm
    obtain ⟨c, d, more, hend, hmore⟩ := h
    rcases List.suffix_cons_iff.1 hmore with heq | hsuffix
    · obtain ⟨rfl, -⟩ := List.cons.inj heq
      exact (hend.1.elim hb.1 hb.2).elim
    · exact ih ⟨c, d, more, hend, hsuffix⟩ hm

/-- Characters that are in no end go on with a text that has none, whatever comes next. -/
theorem IsUnended.append {cs m : List Char} (h : IsUnended cs) (hne : m ≠ [])
    (hm : ∀ c ∈ m, c ≠ '}' ∧ c ≠ '%') (e : Char) : IsUnended (cs ++ (m ++ [e])) := by
  have hrest : IsUnended (m ++ [e]) := by
    clear hne
    induction m with
    | nil => exact List.isChain_singleton e
    | cons b m ih =>
      obtain ⟨hb, hm⟩ := List.forall_mem_cons.1 hm
      exact List.isChain_cons.2 ⟨fun _ _ hend => hend.1.elim hb.1 hb.2, ih hm⟩
  refine List.IsChain.append h hrest fun c _ d hd hend => ?_
  obtain ⟨b, m, rfl⟩ := List.exists_cons_of_ne_nil hne
  obtain rfl : b = d := by simpa using hd
  exact (hm b (by simp)).1 hend.2

/-! ### From one place to another -/

/-- Whether a text is a name. -/
def IsName (cs : List Char) : Prop :=
  ∃ b n, cs = b :: n ∧ isNameStart b = true ∧ ∀ d ∈ n, isNameChar d = true

/-- Whether a name may start behind a text. -/
def IsApart (before : List Char) : Prop :=
  ∀ c ∈ before.getLast?, Text.isWord c = false ∧ c ≠ '.'

theorem IsApart.append {before : List Char} (h : IsApart before) (hne : before ≠ [])
    (w : List Char) : IsApart (w ++ before) := by
  intro c hc
  obtain ⟨v, d, rfl⟩ := (List.eq_nil_or_concat' before).resolve_left hne
  exact h c (by simpa using hc)

end FirmwareSurvey.Template
