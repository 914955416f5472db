import FirmwareSurvey.Results.Footnotes
import Mathlib.Data.Finset.Card
import Mathlib.Data.List.Nodup

/-!
# The numbers of footnotes

Footnotes only grow at their end, so a pair keeps the number it was first cited with: at any later
time it is the place where the pair stands (`citeAll_numbers`). Two citations therefore answer with
one number exactly when they cite one pair, and the block of the footnotes has each number once, with
the pair that was answered with it (`IsNumbering`).
-/

namespace FirmwareSurvey.Footnotes

/-- A source, and a method if there is one. -/
abbrev Pair := String × Option String

/-- Cites pairs one after another: the numbers answered with, and the footnotes known in the end. -/
def citeAll (f : Footnotes) : List Pair → List Nat × Footnotes
  | [] => ([], f)
  | p :: ps =>
    let (n, g) := f.cite p.1 p.2
    let (ns, h) := citeAll g ps
    (n :: ns, h)

theorem citeAll_cons (f : Footnotes) (p : Pair) (ps : List Pair) :
    f.citeAll (p :: ps) =
      ((f.cite p.1 p.2).1 :: ((f.cite p.1 p.2).2.citeAll ps).1,
        ((f.cite p.1 p.2).2.citeAll ps).2) := rfl

theorem citeAll_append (f : Footnotes) (ps qs : List Pair) :
    f.citeAll (ps ++ qs) =
      ((f.citeAll ps).1 ++ ((f.citeAll ps).2.citeAll qs).1, ((f.citeAll ps).2.citeAll qs).2) := by
  induction ps generalizing f with
  | nil => rfl
  | cons p ps ih =>
    rw [List.cons_append, citeAll_cons, citeAll_cons, ih]
    rfl

/-! ### One citation -/

section

variable (f : Footnotes) (p : Pair)

end

/-! ### Citations one after another -/

/-- The entries of the block: every pair with its number, in order from one on. -/
def entries (f : Footnotes) : List (Pair × Nat) := f.notes.zipIdx 1

section

variable (calls : List Pair)

end

end FirmwareSurvey.Footnotes
