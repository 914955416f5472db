
/-!
# Blanks and lines

Texts are trimmed of blanks, cut at a character, and taken line by line.
-/

/-!
## Blank characters and trimming

A character is *blank* when it has the Unicode property `White_Space`: the six ASCII blanks,
next line, the no-break space and the separators of general punctuation. Everything the survey
calls a space – between the columns of a table, around a key, at the end of a line – is a run of
such characters.

Texts are taken apart as lists of characters; the functions on `String` wrap those on lists.
-/

namespace FirmwareSurvey.Text

/-- The Unicode property `White_Space`. -/
def isBlank (c : Char) : Bool :=
  let n := c.toNat
  (0x09 ≤ n && n ≤ 0x0D) || n == 0x20 || n == 0x85 || n == 0xA0 || n == 0x1680 ||
    (0x2000 ≤ n && n ≤ 0x200A) || n == 0x2028 || n == 0x2029 || n == 0x202F || n == 0x205F ||
    n == 0x3000

/-- The rest of a text after the blanks it starts with. -/
def skipBlanks (cs : List Char) : List Char := cs.dropWhile isBlank

/-- A text without the characters in `p` that end it. -/
def dropEndWhile (p : Char → Bool) (cs : List Char) : List Char :=
  (cs.reverse.dropWhile p).reverse

/-- A text without the blanks at its end. -/
def trimEndChars (cs : List Char) : List Char := dropEndWhile isBlank cs

/-- A text without the blanks at its two ends. -/
def trimChars (cs : List Char) : List Char := trimEndChars (skipBlanks cs)

/-- A text without the blanks at its two ends. -/
def trim (s : String) : String := String.ofList (trimChars s.toList)

/-- Whether a text holds nothing but blanks. -/
def allBlank (cs : List Char) : Bool := cs.all isBlank

/-- The first maximal run of non-blank characters; empty when there is none. -/
def firstWord (cs : List Char) : List Char := (skipBlanks cs).takeWhile (!isBlank ·)

/-! ### What trimming leaves -/

theorem skipBlanks_of_not_isBlank {c : Char} {cs : List Char} (h : isBlank c = false) :
    skipBlanks (c :: cs) = c :: cs := by
  simp [skipBlanks, h]

theorem skipBlanks_append_of_allBlank {bs cs : List Char} (h : allBlank bs = true) :
    skipBlanks (bs ++ cs) = skipBlanks cs := by
  induction bs with
  | nil => rfl
  | cons b bs ih =>
    simp only [allBlank, List.all_cons, Bool.and_eq_true] at h
    simp only [skipBlanks, List.cons_append, List.dropWhile_cons, h.1, if_true] at ih ⊢
    exact ih h.2

theorem skipBlanks_idem (cs : List Char) : skipBlanks (skipBlanks cs) = skipBlanks cs := by
  induction cs with
  | nil => rfl
  | cons c cs ih =>
    by_cases h : isBlank c = true
    · simpa [skipBlanks, h] using ih
    · simp [skipBlanks, h]

end FirmwareSurvey.Text

/-!
## Cutting a text at a character

`cut d` splits a text at every occurrence of the character `d`; its pieces, joined by `d`, are the
text again (`join_cut`). Lines are the pieces between line feeds: a last piece is a line only when
it is not empty, and a carriage return right before a line feed belongs to the line's end.
-/

namespace FirmwareSurvey.Text

/-- The pieces of a text between the occurrences of `d`. There is always at least one. -/
def cut (d : Char) (cs : List Char) : List (List Char) :=
  let pieces := cs.foldr
    (fun c p => if c = d then ([], p.1 :: p.2) else (c :: p.1, p.2)) (([], []) : List Char × List (List Char))
  pieces.1 :: pieces.2

/-- The pieces of a text between the occurrences of `d`. -/
def splitAt (d : Char) (s : String) : List String := (cut d s.toList).map String.ofList

/-- Pieces joined by a character. -/
def joinWith (d : Char) : List (List Char) → List Char
  | [] => []
  | [p] => p
  | p :: q :: ps => p ++ d :: joinWith d (q :: ps)

/-- A line without the carriage return that ends it. -/
def dropReturn (cs : List Char) : List Char :=
  match cs.reverse with
  | '\r' :: r => r.reverse
  | _ => cs

/-- Reads the pieces between line feeds as lines. -/
def linesOfPieces : List (List Char) → List (List Char)
  | [] => []
  | [p] => if p.isEmpty then [] else [p]
  | p :: q :: ps => dropReturn p :: linesOfPieces (q :: ps)

/-- The lines of a text, without their ends. -/
def lineChars (cs : List Char) : List (List Char) := linesOfPieces (cut '\n' cs)

/-- The lines of a text, without their ends. -/
def lines (s : String) : List String := (lineChars s.toList).map String.ofList

/-- A text cut at the first occurrence of `d`: what stands before it and what stands after. -/
def cutOnce? (d : Char) (cs : List Char) : Option (List Char × List Char) :=
  match cs.dropWhile (· != d) with
  | [] => none
  | _ :: after => some (cs.takeWhile (· != d), after)

/-- A text without one pair of quotes around it, of either kind. -/
def unquote (cs : List Char) : List Char :=
  let between (q : Char) : Option (List Char) :=
    match cs with
    | c :: d :: rest =>
      if c = q && (d :: rest).getLast? == some q then some (d :: rest).dropLast else none
    | _ => none
  (between '"').getD ((between '\'').getD cs)

/-! ### Laws of `cut` -/

@[simp] theorem cut_nil (d : Char) : cut d [] = [[]] := rfl

theorem cut_cons_self (d : Char) (cs : List Char) : cut d (d :: cs) = [] :: cut d cs := by
  simp [cut]

theorem cut_cons_of_ne {c d : Char} (h : c ≠ d) (cs : List Char) :
    cut d (c :: cs) = (c :: (cut d cs).head (by simp [cut])) :: (cut d cs).tail := by
  simp [cut, h]

/-- A text without `d` is its own only piece. -/
theorem cut_of_not_mem {d : Char} {cs : List Char} (h : d ∉ cs) : cut d cs = [cs] := by
  induction cs with
  | nil => rfl
  | cons c cs ih =>
    simp only [List.mem_cons, not_or] at h
    rw [cut_cons_of_ne (Ne.symm h.1)]
    simp [ih h.2]

/-- Up to the first `d`, a text gives one piece; the rest is cut on its own. -/
theorem cut_append_cons {d : Char} {a : List Char} (h : d ∉ a) (b : List Char) :
    cut d (a ++ d :: b) = a :: cut d b := by
  induction a with
  | nil => exact cut_cons_self d b
  | cons c cs ih =>
    simp only [List.mem_cons, not_or] at h
    rw [List.cons_append, cut_cons_of_ne (Ne.symm h.1)]
    simp [ih h.2]

/-- Cutting loses nothing: the pieces joined by `d` are the text. -/
theorem join_cut (d : Char) (cs : List Char) : joinWith d (cut d cs) = cs := by
  induction cs with
  | nil => rfl
  | cons c cs ih =>
    obtain ⟨p, ps, hp⟩ : ∃ p ps, cut d cs = p :: ps := ⟨_, _, rfl⟩
    by_cases h : c = d
    · subst h
      rw [cut_cons_self, hp, joinWith, ← hp, ih]
      rfl
    · rw [cut_cons_of_ne h]
      simp only [hp, List.head_cons, List.tail_cons]
      rw [hp] at ih
      cases ps with
      | nil => simpa [joinWith] using ih
      | cons q qs => simpa [joinWith] using ih

end FirmwareSurvey.Text
