import FirmwareSurvey.Text.Lines

/-!
# Paths

A path is kept as the text it was given as, so that it shows again as it was written. Read as a row
of steps, empty pieces and single dots drop out; joining two paths puts one slash between them, and
an absolute right side replaces the left one.
-/

namespace FirmwareSurvey

/-- A path, as written. -/
structure Path where
  /-- The text of the path. -/
  text : String
deriving DecidableEq, Repr, Inhabited

namespace Path

instance : ToString Path := ⟨Path.text⟩

/-- Whether a path starts at the root. -/
def isAbsolute (p : Path) : Bool := p.text.toList.head? == some '/'

/-- The pieces of a path between its slashes. -/
def pieces (p : Path) : List String := Text.splitAt '/' p.text

/-- Whether a piece of a path is a step; the empty piece and a single dot lead nowhere. -/
def isStep (piece : String) : Bool := piece != "" && piece != "."

/-- The steps a path takes. -/
def steps (p : Path) : List String := p.pieces.filter isStep

/-- Whether a path ends in a slash or a single dot after one, so that it can only name a
directory. -/
def namesDirectory (p : Path) : Bool :=
  match p.pieces.reverse with
  | "" :: _ :: _ => true
  | "." :: _ :: _ => true
  | _ => false

/-- The parts a path consists of: the root, a single dot at the start of a relative path, and the
steps. -/
def parts (p : Path) : List String :=
  if p.isAbsolute then "/" :: p.steps
  else match p.pieces with
    | "." :: _ => "." :: p.steps
    | _ => p.steps

/-- One path behind another. -/
def join (p q : Path) : Path :=
  if q.isAbsolute then q
  else if p.text == "" then q
  else if p.text.toList.getLast? == some '/' then ⟨p.text ++ q.text⟩
  else ⟨p.text ++ "/" ++ q.text⟩

/-- A name inside the directory at a path. -/
def child (p : Path) (name : String) : Path := p.join ⟨name⟩

/-- The last step of a path, unless that leads upwards. -/
def fileName? (p : Path) : Option String :=
  match p.parts.getLast? with
  | some name => if name == ".." || name == "/" || name == "." then none else some name
  | none => none

/-- The last step of a path; empty when there is none. -/
def fileName (p : Path) : String := p.fileName?.getD ""

/-- A path without slashes and lone dots at its end; the root stays. -/
def dropTrailing : List Char → List Char
  | '/' :: [] => ['/']
  | '/' :: rest => dropTrailing rest
  | '.' :: '/' :: [] => ['/']
  | '.' :: '/' :: rest => dropTrailing rest
  | cs => cs

/-- The path that leads to the directory around; none for the root and the empty path. -/
def parent? (p : Path) : Option Path :=
  match p.parts with
  | [] => none
  | ["/"] => none
  | _ =>
    let written := dropTrailing p.text.toList.reverse
    let above := written.dropWhile (· != '/')
    some ⟨String.ofList (dropTrailing above).reverse⟩

/-- The place of a part in the order of parts: the root first, then the dots, then names. -/
def partRank (part : String) : Nat :=
  if part == "/" then 0 else if part == "." then 1 else if part == ".." then 2 else 3

/-- Whether a row of parts does not come after another: that of the first parts that differ
decides. -/
def partsLe : List String → List String → Bool
  | [], _ => true
  | _ :: _, [] => false
  | a :: as, b :: bs =>
    if a = b then partsLe as bs
    else partRank a < partRank b || (partRank a = partRank b && a < b)

/-- Whether a path does not come after another in the order of paths. -/
def le (p q : Path) : Bool := partsLe p.parts q.parts

/-- The pieces behind so many steps. -/
def afterSteps : Nat → List String → List String
  | n + 1, piece :: pieces => afterSteps (if isStep piece then n else n + 1) pieces
  | _, pieces => pieces

/-- Pieces without those at the ends that are no steps. -/
def trimmed (pieces : List String) : List String :=
  ((pieces.dropWhile (!isStep ·)).reverse.dropWhile (!isStep ·)).reverse

/-- A path as seen from a directory, written as it was; the path itself when it does not lie
below. -/
def relativeTo (p base : Path) : Path :=
  if base.parts.isPrefixOf p.parts then
    ⟨"/".intercalate (trimmed (afterSteps base.steps.length p.pieces))⟩
  else p

/-- A file name cut at its last dot: what stands before, and what stands after. A name whose only
dot comes first is not cut. -/
def cutName (name : String) : String × Option String :=
  if name == ".." then (name, none)
  else
    match Text.cutOnce? '.' name.toList.reverse with
    | some (after, before) =>
      if before.isEmpty then (name, none)
      else (String.ofList before.reverse, some (String.ofList after.reverse))
    | none => (name, none)

/-- The last step of a path without its extension; empty when there is none. -/
def fileStem (p : Path) : String :=
  match p.fileName? with
  | some name => (cutName name).1
  | none => ""

/-- The extension of the last step of a path. -/
def extension? (p : Path) : Option String := p.fileName?.bind fun name => (cutName name).2

end Path

end FirmwareSurvey
