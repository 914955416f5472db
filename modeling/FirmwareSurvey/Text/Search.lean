import FirmwareSurvey.Text.Word

/-!
# Finding a text inside another
-/

namespace FirmwareSurvey.Text

/-- Whether a text occurs in another. -/
def occursIn (needle : List Char) : List Char → Bool
  | [] => needle.isEmpty
  | c :: cs => needle.isPrefixOf (c :: cs) || occursIn needle cs

/-- What stands before and after the first occurrence of a text in another. -/
def cutAt? (needle : List Char) : List Char → Option (List Char × List Char)
  | [] => if needle.isEmpty then some ([], []) else none
  | c :: cs =>
    if needle.isPrefixOf (c :: cs) then some ([], (c :: cs).drop needle.length)
    else (cutAt? needle cs).map fun (before, after) => (c :: before, after)

/-- The rest of a text after one that it starts with. -/
def dropWord? (word cs : List Char) : Option (List Char) :=
  if word.isPrefixOf cs then some (cs.drop word.length) else none

/-- What a reader finds at the first place of a text where it finds anything. -/
def firstAt? {α : Type} (read : List Char → Option α) : List Char → Option α
  | [] => read []
  | c :: cs =>
    match read (c :: cs) with
    | some a => some a
    | none => firstAt? read cs

/-- What a reader that knows the character before finds at the first place of a text where it finds
anything. -/
def firstBehind? {α : Type} (read : Option Char → List Char → Option α) (before : Option Char) :
    List Char → Option α
  | [] => read before []
  | c :: cs =>
    match read before (c :: cs) with
    | some a => some a
    | none => firstBehind? read (some c) cs

/-- The run of characters of a class that a text starts with, and the rest; at least one. -/
def someRun? (p : Char → Bool) (cs : List Char) : Option (List Char × List Char) :=
  let run := cs.takeWhile p
  if run.isEmpty then none else some (run, cs.dropWhile p)

/-- As many characters of a class as wanted at the start of a text, and the rest. -/
def exactly? (n : Nat) (p : Char → Bool) (cs : List Char) : Option (List Char × List Char) :=
  let run := cs.take n
  if run.length = n && run.all p then some (run, cs.drop n) else none

/-- A text occurs in another exactly when the other is made of it with something on both sides. -/
theorem occursIn_iff {needle cs : List Char} :
    occursIn needle cs = true ↔ ∃ a b, cs = a ++ needle ++ b := by
  induction cs with
  | nil =>
    simp only [occursIn, List.isEmpty_iff]
    constructor
    · rintro rfl
      exact ⟨[], [], rfl⟩
    · rintro ⟨a, b, h⟩
      simp only [List.nil_eq, List.append_eq_nil_iff] at h
      exact h.1.2
  | cons c cs ih =>
    simp only [occursIn, Bool.or_eq_true, ih, List.isPrefixOf_iff_prefix]
    constructor
    · rintro (⟨b, hb⟩ | ⟨a, b, h⟩)
      · exact ⟨[], b, by simpa using hb.symm⟩
      · exact ⟨c :: a, b, by simp [h]⟩
    · rintro ⟨a, b, h⟩
      cases a with
      | nil => exact Or.inl ⟨b, by simpa using h.symm⟩
      | cons d a =>
        simp only [List.cons_append, List.cons.injEq] at h
        exact Or.inr ⟨a, b, h.2⟩

end FirmwareSurvey.Text

/-!
## Version numbers in a text

A dotted version is two or three numbers with points between them; a release is a run of word
characters, points, plus signs and hyphens. Digits are those of any script.
-/

namespace FirmwareSurvey.Text

/-- A character of a release. -/
def isReleaseChar (c : Char) : Bool := isWord c || c == '.' || c == '+' || c == '-'

/-- A point and a number at the start of a text, and the rest. -/
def pointNumber? : List Char → Option (List Char × List Char)
  | '.' :: cs => (someRun? isDigit cs).map fun (ds, rest) => ('.' :: ds, rest)
  | _ => none

/-- A dotted version at the start of a text, and the rest. -/
def dottedVersion? (cs : List Char) : Option (List Char × List Char) :=
  match someRun? isDigit cs with
  | none => none
  | some (major, rest) =>
    match pointNumber? rest with
    | none => none
    | some (minor, rest) =>
      match pointNumber? rest with
      | some (patch, rest) => some (major ++ minor ++ patch, rest)
      | none => some (major ++ minor, rest)

/-- A release at the start of a text: at least one of its characters. -/
def release? (cs : List Char) : Option (List Char) := (someRun? isReleaseChar cs).map (·.1)

/-- A release at the start of a text that starts with a digit and has no sign in it. -/
def digitRelease? : List Char → Option (List Char)
  | c :: cs => if isDigit c then some (c :: cs.takeWhile fun d => isWord d || d == '.') else none
  | [] => none

end FirmwareSurvey.Text

/-!
## Name patterns

A pattern is a row of signs, each of which stands for a run of characters of a kind or for one
character of a kind. It matches a text as a whole.

A pattern is read from its end. For what was read of it there is a row that tells of every tail of
the text, the whole text first, whether it matches; a sign before that gives the next row.
-/

namespace FirmwareSurvey.Text

/-- A sign of a pattern. -/
inductive Sign where
  /-- Any number of characters of a kind. -/
  | run (fits : Char → Bool)
  /-- One character of a kind. -/
  | one (fits : Char → Bool)

/-- The row of the empty pattern: of all tails of a text, only the empty one matches. -/
def emptyRow (text : List Char) : List Bool := text.map (fun _ => false) ++ [true]

/-- The row of a pattern with a run before it. A tail matches when it did, or when its first character
fits and the next tail matches. -/
def runRow (fits : Char → Bool) : List Char → List Bool → List Bool
  | c :: cs, b :: bs =>
    let row := runRow fits cs bs
    (b || (fits c && row.headD false)) :: row
  | _, row => row

/-- The row of a pattern with one character before it. A tail matches when its first character fits
and the next tail did. -/
def oneRow (fits : Char → Bool) : List Char → List Bool → List Bool
  | c :: cs, _ :: bs => (fits c && bs.headD false) :: oneRow fits cs bs
  | _, _ => [false]

/-- The row of a pattern with a sign before it. -/
def Sign.row (text : List Char) (row : List Bool) : Sign → List Bool
  | .run fits => runRow fits text row
  | .one fits => oneRow fits text row

/-- Whether a row of signs matches a text. -/
def signsMatch (signs : List Sign) (text : List Char) : Bool :=
  (signs.foldr (fun sign row => sign.row text row) (emptyRow text)).headD false

/-- The sign of a character of a name pattern: a star stands for any run and a question mark for any
one character, but neither stands for a line feed; every other character stands for itself. -/
def globSign : Char → Sign
  | '*' => .run (· != '\n')
  | '?' => .one (· != '\n')
  | p => .one (· == p)

/-- Whether a name pattern matches a text. -/
def glob (pattern text : List Char) : Bool := signsMatch (pattern.map globSign) text

end FirmwareSurvey.Text
