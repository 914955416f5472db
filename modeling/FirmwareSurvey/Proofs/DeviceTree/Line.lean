import FirmwareSurvey.DeviceTree.Line
import FirmwareSurvey.Proofs.Text.Lines

/-!
# Lines written and told

What a line says is told from its first character that is not blank and from its last one. An
opening ends in a brace (`opening?_eq_none`) and a closing starts with one, so neither can be a
property, whatever stands in the property's value.
-/

namespace FirmwareSurvey.DeviceTree

open Text

/-! ### Characters -/

theorem isBlank_of_isKeyChar {c : Char} (h : isKeyChar c = true) : isBlank c = false := by
  simp only [isKeyChar, isNameChar, isAlphanumeric, Bool.or_eq_true, beq_iff_eq] at h
  rcases h with ((((((((h | h) | rfl) | rfl) | rfl) | rfl) | rfl) | rfl) | rfl)
  · exact isBlank_of_printable (printable_of_isAsciiLetter h)
  · exact isBlank_of_printable (printable_of_isAsciiDigit h)
  all_goals decide

theorem isBlank_of_isNameChar {c : Char} (h : isNameChar c = true) : isBlank c = false :=
  isBlank_of_isKeyChar (by simp [isKeyChar, h])

theorem isBlank_of_isLabelStart {c : Char} (h : isLabelStart c = true) : isBlank c = false := by
  simp only [isLabelStart, Bool.or_eq_true, beq_iff_eq] at h
  rcases h with h | rfl
  · exact isBlank_of_printable (printable_of_isAsciiLetter h)
  · decide

/-! ### Openings end in a brace -/

theorem skipBlanks_suffix (cs : List Char) : skipBlanks cs <:+ cs := List.dropWhile_suffix _

theorem label?_suffix {cs l rest : List Char} (h : label? cs = some (l, rest)) : rest <:+ cs := by
  match cs with
  | [] => cases h
  | c :: cs =>
    rw [label?] at h
    split at h
    · split at h
      · rename_i after hafter
        obtain ⟨-, rfl⟩ := Prod.mk.inj (Option.some.inj h)
        have hcolon : ':' :: after <:+ cs :=
          hafter ▸ (skipBlanks_suffix _).trans (List.dropWhile_suffix _)
        exact (skipBlanks_suffix after).trans ((List.suffix_cons _ _).trans
          (hcolon.trans (List.suffix_cons _ _)))
      · cases h
    · cases h

theorem name?_suffix {cs name rest : List Char} (h : name? cs = some (name, rest)) :
    rest <:+ cs := by
  rw [name?.eq_def] at h
  split at h
  · obtain ⟨-, rfl⟩ := Prod.mk.inj (Option.some.inj h)
    exact List.suffix_cons _ _
  · dsimp only at h
    split at h
    · cases h
    · obtain ⟨-, rfl⟩ := Prod.mk.inj (Option.some.inj h)
      exact (List.dropWhile_suffix _).trans (List.suffix_cons _ _)
  · dsimp only at h
    split at h
    · cases h
    · obtain ⟨-, rfl⟩ := Prod.mk.inj (Option.some.inj h)
      exact List.dropWhile_suffix _

theorem unit?_suffix (cs : List Char) : (unit? cs).2 <:+ cs := by
  rw [unit?.eq_def]
  split
  · dsimp only
    split
    · exact List.suffix_refl _
    · exact (List.dropWhile_suffix _).trans (List.suffix_cons _ _)
  · exact List.suffix_refl _

/-- What ends in a mark between blanks ends in no other character that is not blank. -/
theorem endsIn_eq_false {mark d : Char} {cs rest : List Char} (hblank : isBlank d = false)
    (hne : d ≠ mark) (hrest : rest <:+ cs ++ [d]) : endsIn mark rest = false := by
  rw [Bool.eq_false_iff]
  intro h
  rw [endsIn] at h
  split at h
  · rename_i c after hskip
    rw [Bool.and_eq_true, beq_iff_eq] at h
    obtain ⟨rfl, hafter⟩ := h
    have hsuffix : c :: after <:+ cs ++ [d] := hskip ▸ (skipBlanks_suffix rest).trans hrest
    have hlast : (c :: after).getLast? = some d := by
      obtain ⟨before, hbefore⟩ := hsuffix
      have hcongr := congrArg List.getLast? hbefore
      rwa [getLast?_append_of_ne_nil (by simp), List.getLast?_concat] at hcongr
    rcases List.mem_cons.1 (List.mem_of_getLast? hlast) with rfl | hmem
    · exact hne rfl
    · rw [allBlank, List.all_eq_true] at hafter
      exact absurd (hafter d hmem) (by simp [hblank])
  · cases h

/-- **A line that ends in anything but a brace is no opening.** -/
theorem opening?_eq_none {d : Char} (hblank : isBlank d = false) (hne : d ≠ '\x7b')
    (cs : List Char) : opening? (cs ++ [d]) = none := by
  have hends : ∀ start, start <:+ cs ++ [d] → ∀ name rest, name? start = some (name, rest) →
      endsIn '\x7b' (unit? rest).2 = false := fun start hsuffix name rest hname =>
    endsIn_eq_false hblank hne ((unit?_suffix rest).trans ((name?_suffix hname).trans hsuffix))
  rw [opening?]
  cases hlabel : label? (skipBlanks (cs ++ [d])) with
  | none =>
    dsimp only
    split
    · rfl
    · rename_i name rest hname
      rw [if_neg (by simp [hends _ (skipBlanks_suffix _) name rest hname])]
  | some p =>
    dsimp only
    split
    · rfl
    · rename_i name rest hname
      have hsuffix := (label?_suffix hlabel).trans (skipBlanks_suffix _)
      rw [if_neg (by simp [hends _ hsuffix name rest hname])]

/-! ### Openings told -/

theorem label?_eq_none {cs : List Char} (h : ':' ∉ cs) : label? cs = none := by
  match cs with
  | [] => rfl
  | c :: cs =>
    rw [label?]
    split
    · split
      · rename_i after hafter
        have hcolon : ':' :: after <:+ c :: cs :=
          hafter ▸ (skipBlanks_suffix _).trans
            ((List.dropWhile_suffix _).trans (List.suffix_cons _ _))
        exact absurd (hcolon.subset List.mem_cons_self) h
      · rfl
    · rfl

theorem label?_run {c : Char} {cs : List Char} (hc : isLabelStart c = true)
    (hcs : ∀ d ∈ cs, isLabelChar d = true) (rest : List Char) :
    label? (c :: cs ++ ':' :: rest) = some (c :: cs, skipBlanks rest) := by
  have hcolon : ∀ d ∈ (':' :: rest).head?, isLabelChar d = false := fun d hd =>
    Option.some.inj hd ▸ (by decide : isLabelChar ':' = false)
  rw [List.cons_append, label?, if_pos hc, takeWhile_run hcs hcolon, dropWhile_run hcs hcolon,
    skipBlanks_of_not_isBlank (by decide)]
  rfl

theorem name?_run {name rest : List Char} (hne : name ≠ [])
    (hname : ∀ c ∈ name, isNameChar c = true) (hrest : ∀ c ∈ rest.head?, isNameChar c = false) :
    name? (name ++ rest) = some (name, rest) := by
  obtain ⟨c, cs, rfl⟩ := List.exists_cons_of_ne_nil hne
  have hc := hname c List.mem_cons_self
  rw [name?.eq_def]
  split
  · rename_i heq
    rw [(List.cons.inj heq).1] at hc
    exact absurd hc (by decide)
  · rename_i heq
    rw [(List.cons.inj heq).1] at hc
    exact absurd hc (by decide)
  · dsimp only
    rw [takeWhile_run hname hrest, dropWhile_run hname hrest, if_neg (by simp)]

theorem unit?_run {unit rest : List Char} (hne : unit ≠ [])
    (hunit : ∀ c ∈ unit, isUnitChar c = true) (hrest : ∀ c ∈ rest.head?, isUnitChar c = false) :
    unit? ('@' :: (unit ++ rest)) = (some unit, rest) := by
  have hrun : unit.isEmpty = false := by simpa using hne
  rw [unit?, takeWhile_run hunit hrest, dropWhile_run hunit hrest, hrun]
  rfl

/-- **An opening is told part by part**: the label if there is one, the name and the unit
address. -/
theorem opening?_of_told {cs start name rest : List Char} {label : Option String}
    {unit : Option (List Char)}
    (hlabel : label? (skipBlanks cs) = none ∧ label = none ∧ skipBlanks cs = start ∨
      ∃ l, label? (skipBlanks cs) = some (l, start) ∧ label = some (String.ofList l))
    (hname : name? start = some (name, rest)) (hunit : unit? rest = (unit, [' ', '\x7b'])) :
    opening? cs = some (.opening label (String.ofList name) (unit.map String.ofList)) := by
  rw [opening?]
  rcases hlabel with ⟨hnone, rfl, rfl⟩ | ⟨l, hsome, rfl⟩
  · simp only [hnone, hname, hunit]
    rfl
  · simp only [hsome, hname, hunit]
    rfl

/-! ### Lines told -/

/-- **Indentation is not seen.** -/
theorem ofChars_append_of_allBlank {bs : List Char} (h : allBlank bs = true) (cs : List Char) :
    Line.ofChars (bs ++ cs) = Line.ofChars cs := by
  have hskip : skipBlanks (bs ++ cs) = skipBlanks cs := skipBlanks_append_of_allBlank h
  have hopening : opening? (bs ++ cs) = opening? cs := by
    rw [opening?, hskip]
    rfl
  have hclosing : isClosing (bs ++ cs) = isClosing cs := by
    rw [isClosing, hskip]
    rfl
  have hproperty : property? (bs ++ cs) = property? cs := by
    rw [property?, hskip]
    rfl
  rw [Line.ofChars, hopening, hclosing, hproperty]
  rfl

/-- A blank line says nothing. -/
theorem ofChars_of_allBlank {bs : List Char} (h : allBlank bs = true) :
    Line.ofChars bs = .other := by
  rw [← List.append_nil bs, ofChars_append_of_allBlank h]
  rfl

/-- **A line that starts like a key and ends in a semicolon is told as a property.** -/
theorem ofChars_of_key {c : Char} (hc : isKeyChar c = true) (cs : List Char) :
    Line.ofChars (c :: cs ++ [';']) = (property? (c :: cs ++ [';'])).getD .other := by
  have hclosing : isClosing (c :: cs ++ [';']) = false := by
    rw [isClosing, List.cons_append, skipBlanks_of_not_isBlank (isBlank_of_isKeyChar hc)]
    split
    · rename_i heq
      rw [(List.cons.inj heq).1] at hc
      exact absurd hc (by decide)
    · rfl
  rw [Line.ofChars, opening?_eq_none (by decide) (by decide), hclosing]
  rfl

/-- A key starts at its first character. -/
theorem skipBlanks_key {key : List Char} (hne : key ≠ []) (hkey : ∀ c ∈ key, isKeyChar c = true)
    (rest : List Char) : skipBlanks (key ++ rest) = key ++ rest := by
  obtain ⟨c, cs, rfl⟩ := List.exists_cons_of_ne_nil hne
  exact skipBlanks_of_not_isBlank (isBlank_of_isKeyChar (hkey c List.mem_cons_self))

/-- A property without a value. -/
theorem ofChars_flag {key : List Char} (hne : key ≠ []) (hkey : ∀ c ∈ key, isKeyChar c = true) :
    Line.ofChars (key ++ [';']) = .property (String.ofList key) none := by
  have hstop : ∀ c ∈ [';'].head?, isKeyChar c = false := by
    rintro _ ⟨⟩
    decide
  have htold : property? (key ++ [';']) = some (.property (String.ofList key) none) := by
    rw [property?, skipBlanks_key hne hkey, takeWhile_run hkey hstop, dropWhile_run hkey hstop,
      if_neg (by simpa using hne)]
    rfl
  obtain ⟨c, cs, rfl⟩ := List.exists_cons_of_ne_nil hne
  rw [ofChars_of_key (hkey c List.mem_cons_self), htold]
  rfl

/-- **A property's value is all that stands between its equals sign and the last semicolon.** -/
theorem ofChars_value {key value : List Char} (hne : key ≠ [])
    (hkey : ∀ c ∈ key, isKeyChar c = true) (hvalue : trimChars value = value) :
    Line.ofChars (key ++ ' ' :: '=' :: ' ' :: value ++ [';']) =
      .property (String.ofList key) (some (String.ofList value)) := by
  have hstop : ∀ c ∈ (' ' :: '=' :: ' ' :: (value ++ [';'])).head?, isKeyChar c = false :=
    fun c hc => Option.some.inj hc ▸ (by decide : isKeyChar ' ' = false)
  have hline : key ++ ' ' :: '=' :: ' ' :: value ++ [';'] =
      key ++ ' ' :: '=' :: ' ' :: (value ++ [';']) := by
    simp
  -- The last semicolon ends the value, whichever others it has.
  have hbefore : beforeSemicolon? (' ' :: (value ++ [';'])) = some (' ' :: value) := by
    rw [beforeSemicolon?, ← List.cons_append, List.reverse_concat,
      List.dropWhile_cons_of_neg (by decide)]
    simp
  have htrim : trimChars (' ' :: value) = value := by
    rw [trimChars, skipBlanks, List.dropWhile_cons_of_pos (by decide)]
    exact hvalue
  have htold : property? (key ++ ' ' :: '=' :: ' ' :: (value ++ [';'])) =
      some (.property (String.ofList key) (some (String.ofList value))) := by
    rw [property?, skipBlanks_key hne hkey, takeWhile_run hkey hstop, dropWhile_run hkey hstop,
      if_neg (by simpa using hne)]
    have hequals : skipBlanks (' ' :: '=' :: ' ' :: (value ++ [';'])) =
        '=' :: ' ' :: (value ++ [';']) := rfl
    rw [hequals]
    simp only [hbefore, Option.map_some, htrim]
  obtain ⟨c, cs, rfl⟩ := List.exists_cons_of_ne_nil hne
  have htell := ofChars_of_key (hkey c List.mem_cons_self) (cs ++ ' ' :: '=' :: ' ' :: value)
  rw [← List.cons_append, hline] at htell
  rw [hline, htell, htold]
  rfl

end FirmwareSurvey.DeviceTree
