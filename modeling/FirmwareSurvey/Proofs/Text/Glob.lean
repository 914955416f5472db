import FirmwareSurvey.Text.Search
import Mathlib.Data.List.Basic
import Mathlib.Data.List.Forall2

/-!
# What a name pattern matches

A pattern matches a text that can be cut into pieces, one for each character of the pattern: any
piece for a star, one character for a question mark, and for every other character itself. The signs
that the characters stand for ask for one thing more: a piece for a star or a question mark must
have no line feed in it.

Matching builds a row that tells of every tail of the text whether it can be cut into pieces for the
signs read so far (`Tells`). The row of no sign tells of the empty tail alone; a sign in front takes
a row that tells of what may follow its piece to one that tells of the piece and what follows
(`Tells.sign`). So the first entry, for the whole text, is the answer (`glob_iff`), however many
stars there are to try.
-/

namespace FirmwareSurvey.Text

/-! ### Cutting a text into pieces -/

/-- What a character of a pattern may stand for. -/
inductive StandsFor : Char → List Char → Prop where
  /-- A star stands for any characters. -/
  | star (piece : List Char) : StandsFor '*' piece
  /-- A question mark stands for any one character. -/
  | mark (c : Char) : StandsFor '?' [c]
  /-- Any character stands for itself. -/
  | same (p : Char) : StandsFor p [p]

/-- Whether a character of a pattern stands for others than itself. -/
def IsWild (p : Char) : Prop := p = '*' ∨ p = '?'

/-- Whether a text can be cut into pieces that the characters of a pattern stand for. -/
def Fits (pattern text : List Char) : Prop :=
  ∃ pieces, pieces.flatten = text ∧ List.Forall₂ StandsFor pattern pieces

/-- Whether a text can be cut into such pieces without a line feed in one for a star or a question
mark. -/
def FitsOnLine (pattern text : List Char) : Prop :=
  ∃ pieces, pieces.flatten = text ∧
    List.Forall₂ (fun p piece => StandsFor p piece ∧ (IsWild p → '\n' ∉ piece)) pattern pieces

theorem FitsOnLine.fits {pattern text : List Char} (h : FitsOnLine pattern text) :
    Fits pattern text := by
  obtain ⟨pieces, hflat, hpieces⟩ := h
  exact ⟨pieces, hflat, hpieces.imp fun _ _ h => h.1⟩

/-- **In a text without line feeds no piece has one.** -/
theorem fitsOnLine_iff_fits {pattern text : List Char} (h : '\n' ∉ text) :
    FitsOnLine pattern text ↔ Fits pattern text := by
  refine ⟨FitsOnLine.fits, ?_⟩
  rintro ⟨pieces, rfl, hpieces⟩
  refine ⟨pieces, rfl, List.forall₂_iff_get.2 ⟨hpieces.length_eq, fun i hi hi' => ?_⟩⟩
  refine ⟨(List.forall₂_iff_get.1 hpieces).2 i hi hi', fun _ hfeed => h ?_⟩
  exact List.mem_flatten.2 ⟨_, List.get_mem pieces ⟨i, hi'⟩, hfeed⟩

/-! ### Rows that tell of tails -/

/-- What a sign may stand for. -/
def Sign.StandsFor : Sign → List Char → Prop
  | .run fits, piece => ∀ c ∈ piece, fits c = true
  | .one fits, piece => ∃ c, piece = [c] ∧ fits c = true

/-- Whether a row tells of every tail of a text, the whole text first, whether it has a property. -/
def Tells (P : List Char → Prop) (row : List Bool) (text : List Char) : Prop :=
  List.Forall₂ (fun b tail => b = true ↔ P tail) row text.tails

section

variable {P : List Char → Prop} {row : List Bool} {text : List Char} {fits : Char → Bool}

theorem Tells.headD (h : Tells P row text) : row.headD false = true ↔ P text := by
  cases text <;> cases h <;> assumption

theorem Tells.congr {Q : List Char → Prop} (h : Tells P row text) (hpq : ∀ t, P t ↔ Q t) :
    Tells Q row text :=
  h.imp fun _ _ hb => hb.trans (hpq _)

theorem tells_emptyRow (text : List Char) : Tells (· = []) (emptyRow text) text := by
  induction text with
  | nil => exact .cons (by simp) .nil
  | cons c cs ih => exact .cons (by simp) ih

/-- **A run in front** takes as many characters as it likes. -/
theorem Tells.run (h : Tells P row text) :
    Tells (fun t => ∃ a b, t = a ++ b ∧ (∀ c ∈ a, fits c = true) ∧ P b) (runRow fits text row)
      text := by
  induction text generalizing row with
  | nil =>
    cases h with
    | cons hb hrest =>
      cases hrest
      refine .cons (hb.trans ⟨fun hP => ⟨[], [], rfl, by simp, hP⟩, ?_⟩) .nil
      rintro ⟨a, b, hab, -, hP⟩
      obtain ⟨rfl, rfl⟩ := List.append_eq_nil_iff.1 hab.symm
      exact hP
  | cons c cs ih =>
    cases h with
    | cons hb hrest =>
      have ih := ih hrest
      -- the run ends here, or takes this character and what a run takes of the rest
      refine .cons ?_ ih
      rw [Bool.or_eq_true, Bool.and_eq_true, hb, ih.headD]
      constructor
      · rintro (hP | ⟨hc, a, b, rfl, ha, hP⟩)
        · exact ⟨[], _, rfl, by simp, hP⟩
        · exact ⟨c :: a, b, rfl, List.forall_mem_cons.2 ⟨hc, ha⟩, hP⟩
      · rintro ⟨a, b, hab, ha, hP⟩
        cases a with
        | nil => exact .inl (by rwa [hab])
        | cons d a =>
          obtain ⟨rfl, rfl⟩ := List.cons.inj hab
          obtain ⟨hc, ha⟩ := List.forall_mem_cons.1 ha
          exact .inr ⟨hc, a, b, rfl, ha, hP⟩

/-- **One character in front** takes one. -/
theorem Tells.one (h : Tells P row text) :
    Tells (fun t => ∃ c b, t = c :: b ∧ fits c = true ∧ P b) (oneRow fits text row) text := by
  induction text generalizing row with
  | nil =>
    cases h with
    | cons hb hrest => exact .cons (by simp) .nil
  | cons c cs ih =>
    cases h with
    | cons hb hrest =>
      refine .cons ?_ (ih hrest)
      rw [Bool.and_eq_true, Tells.headD hrest]
      constructor
      · rintro ⟨hc, hP⟩
        exact ⟨c, cs, rfl, hc, hP⟩
      · rintro ⟨d, b, hcs, hd, hP⟩
        obtain ⟨rfl, rfl⟩ := List.cons.inj hcs
        exact ⟨hd, hP⟩

/-- **A sign in front** takes a piece that it may stand for. -/
theorem Tells.sign (h : Tells P row text) (sign : Sign) :
    Tells (fun t => ∃ piece rest, t = piece ++ rest ∧ sign.StandsFor piece ∧ P rest)
      (sign.row text row) text := by
  cases sign with
  | run fits => exact h.run
  | one fits =>
    refine h.one.congr fun t => ⟨?_, ?_⟩
    · rintro ⟨c, b, rfl, hc, hP⟩
      exact ⟨[c], b, rfl, ⟨c, rfl, hc⟩, hP⟩
    · rintro ⟨piece, rest, rfl, ⟨c, rfl, hc⟩, hP⟩
      exact ⟨c, rest, rfl, hc, hP⟩

end

/-- **Signs match a text that can be cut into pieces for them.** -/
theorem signsMatch_iff {signs : List Sign} {text : List Char} :
    signsMatch signs text = true ↔
      ∃ pieces, pieces.flatten = text ∧ List.Forall₂ Sign.StandsFor signs pieces := by
  have htells : Tells (fun t => ∃ pieces, pieces.flatten = t ∧
      List.Forall₂ Sign.StandsFor signs pieces)
      (signs.foldr (fun sign row => sign.row text row) (emptyRow text)) text := by
    induction signs with
    | nil => exact (tells_emptyRow text).congr fun t => by simp [eq_comm]
    | cons sign signs ih =>
      refine (ih.sign sign).congr fun t => ⟨?_, ?_⟩
      · rintro ⟨piece, rest, rfl, hpiece, pieces, rfl, hpieces⟩
        exact ⟨piece :: pieces, rfl, .cons hpiece hpieces⟩
      · rintro ⟨pieces, rfl, hpieces⟩
        cases hpieces with
        | cons hpiece hpieces => exact ⟨_, _, rfl, hpiece, _, rfl, hpieces⟩
  exact htells.headD

/-! ### Characters of patterns -/

/-- The sign of a character stands for what the character stands for, line feeds apart. -/
theorem standsFor_globSign {p : Char} {piece : List Char} :
    (globSign p).StandsFor piece ↔ StandsFor p piece ∧ (IsWild p → '\n' ∉ piece) := by
  -- a wild character stands for all but line feeds; another one stands for itself
  rw [globSign.eq_def]
  split
  case h_1 =>
    simp only [Sign.StandsFor, bne_iff_ne]
    constructor
    · exact fun h => ⟨.star piece, fun _ hfeed => h _ hfeed rfl⟩
    · rintro ⟨-, hfeed⟩ c hc rfl
      exact hfeed (.inl rfl) hc
  case h_2 =>
    simp only [Sign.StandsFor, bne_iff_ne]
    constructor
    · rintro ⟨c, rfl, hc⟩
      exact ⟨.mark c, fun _ hfeed => hc (List.mem_singleton.1 hfeed).symm⟩
    · rintro ⟨hpiece, hfeed⟩
      obtain ⟨c, rfl⟩ : ∃ c, piece = [c] := by
        cases hpiece with
        | mark c => exact ⟨c, rfl⟩
        | same => exact ⟨_, rfl⟩
      exact ⟨c, rfl, fun hc => hfeed (.inr rfl) (by simp [hc])⟩
  case h_3 hstar hmark =>
    simp only [Sign.StandsFor, beq_iff_eq]
    constructor
    · rintro ⟨c, rfl, rfl⟩
      exact ⟨.same c, fun hwild => (hwild.elim hstar hmark).elim⟩
    · rintro ⟨hpiece, -⟩
      cases hpiece with
      | star => exact absurd rfl hstar
      | mark => exact absurd rfl hmark
      | same => exact ⟨p, rfl, rfl⟩

/-- **A name pattern matches a text that can be cut into pieces for its characters**, with no line
feed in one for a star or a question mark. -/
theorem glob_iff {pattern text : List Char} :
    glob pattern text = true ↔ FitsOnLine pattern text := by
  rw [glob, signsMatch_iff]
  simp only [List.forall₂_map_left_iff, standsFor_globSign]
  rfl

end FirmwareSurvey.Text
