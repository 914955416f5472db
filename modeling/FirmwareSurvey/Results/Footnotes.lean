import FirmwareSurvey.Text.Numeral

/-!
# Footnotes

One footnote for every pair of a source and an optional method, numbered in the order in which the
pairs were first cited.
-/

namespace FirmwareSurvey

/-- The cited pairs, in the order of their numbers. -/
structure Footnotes where
  /-- The pairs of a source and a method. -/
  notes : List (String × Option String) := []

namespace Footnotes

/-- How many footnotes there are. -/
def size (f : Footnotes) : Nat := f.notes.length

/-- Cites a pair: answers with its number and the footnotes then known. -/
def cite (f : Footnotes) (source : String) (method : Option String) : Nat × Footnotes :=
  match f.notes.idxOf? (source, method) with
  | some i => (i + 1, f)
  | none => (f.notes.length + 1, ⟨f.notes ++ [(source, method)]⟩)

/-- The mark of a footnote. -/
def mark (n : Nat) : String := s!"[^{String.ofList (Text.decimalChars n)}]"

/-- The line of a footnote. -/
def line (n : Nat) (note : String × Option String) : String :=
  match note.2 with
  | some method => s!"{mark n}: {note.1} ({method})\n"
  | none => s!"{mark n}: {note.1}\n"

/-- The lines of footnotes, numbered from `n` on. -/
def linesFrom (n : Nat) : List (String × Option String) → List String
  | [] => []
  | note :: notes => line n note :: linesFrom (n + 1) notes

/-- The block of all footnotes. -/
def text (f : Footnotes) : String := String.join (linesFrom 1 f.notes)

end Footnotes

end FirmwareSurvey
