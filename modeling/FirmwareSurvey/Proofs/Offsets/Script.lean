import FirmwareSurvey.Offsets.Script
import FirmwareSurvey.Proofs.Members
import FirmwareSurvey.Proofs.Text.Lines
import FirmwareSurvey.Proofs.Text.Numeral
import Mathlib.Data.List.Induction

/-!
# The offsets file read back

What a scan found is written as a script of assignments, and the script is read back as a table. The
table has exactly the assignments of the script (`parse_toShellScript`), and nothing that is looked
up in it can be mixed up: the keys of an offset end differently from one another and from that of
the size, so each is found under its own name. So a series of recordings reads back as the last
offset recorded under each name and the last size (`parse_toShellScript_recorded`).
-/

namespace FirmwareSurvey.Offsets

open Text

/-! ### Hexadecimal offsets -/

theorem upperHexChar_spec : ∀ d < 16,
    let c := (Nat.digitChar d).toUpper
    isBlank c = false ∧ c ≠ 'x' ∧ c ≠ 'X' ∧ c ≠ '+' ∧ c ≠ '\n' := by
  decide

theorem dropMarks_eq_self {x : Char} {cs : List Char} (h : x ∉ cs) : dropMarks x cs = cs := by
  rw [dropMarks.eq_def]
  split
  · rename_i c rest
    have hc : c ≠ x := by
      rintro rfl
      simp at h
    rw [if_neg hc]
  · rfl

theorem upperHexChars_spec {n : Nat} {c : Char} (hc : c ∈ upperHexChars n) :
    isBlank c = false ∧ c ≠ 'x' ∧ c ≠ 'X' ∧ c ≠ '+' ∧ c ≠ '\n' := by
  obtain ⟨d, hd, rfl⟩ := exists_of_mem_upperHexChars hc
  exact upperHexChar_spec d hd

theorem upperHexChars_ne_nil (n : Nat) : upperHexChars n ≠ [] := by simp [upperHexChars]

/-- There is no mark within digits. -/
theorem dropMarks_upperHexChars (n : Nat) :
    dropMarks 'X' (dropMarks 'x' (upperHexChars n)) = upperHexChars n := by
  rw [dropMarks_eq_self fun h => (upperHexChars_spec h).2.1 rfl,
    dropMarks_eq_self fun h => (upperHexChars_spec h).2.2.1 rfl]

theorem unsigned?_upperHexChars {n : Nat} (hn : n < wordLimit) :
    unsigned? 16 wordLimit (upperHexChars n) = some n := by
  refine unsigned?_eq_some (upperHexChars_ne_nil n) (fun h => ?_) (digitsValue?_upperHexChars n) hn
  exact (upperHexChars_spec (List.mem_of_mem_head? h)).2.2.2.1 rfl

/-- **Hexadecimal offsets read back.** -/
theorem parseHex?_formatHex {n : Nat} (hn : n < wordLimit) : parseHex? (formatHex n) = some n := by
  have htext : (formatHex n).toList = '0' :: 'x' :: upperHexChars n := by
    simp [formatHex, upperHex]
  have hlast : ∀ c ∈ ('0' :: 'x' :: upperHexChars n).getLast?, isBlank c = false := by
    intro c hc
    rw [List.getLast?_cons_cons, List.getLast?_cons_of_ne_nil (upperHexChars_ne_nil n)] at hc
    exact (upperHexChars_spec (List.mem_of_getLast? hc)).1
  have htrim : trimChars ('0' :: 'x' :: upperHexChars n) = '0' :: 'x' :: upperHexChars n :=
    trimChars_eq_self (fun c hc => Option.some.inj hc ▸ (by decide : isBlank '0' = false)) hlast
  have hmark : dropMarks 'x' ('0' :: 'x' :: upperHexChars n) = dropMarks 'x' (upperHexChars n) := by
    rw [dropMarks, if_pos rfl]
  rw [parseHex?, hexChars?, htext, htrim, hmark, dropMarks_upperHexChars,
    unsigned?_upperHexChars hn]

/-- Whether a name can be written in the offsets file: it has neither an equals sign nor a line
feed, and starts with neither a blank nor a number sign. -/
structure IsWritable (name : String) : Prop where
  /-- There is no equals sign. -/
  sign : '=' ∉ name.toList
  /-- There is no line feed. -/
  feed : '\n' ∉ name.toList
  /-- The first character is not blank, and starts no comment. -/
  head : ∀ c ∈ name.toList.head?, isBlank c = false ∧ c ≠ '#'

/-- **Every name of the vocabulary can be written.** -/
theorem isWritable_of_mem_vocabulary {name : String} (h : name ∈ vocabulary) :
    IsWritable name := by
  have hspec : ∀ name ∈ vocabulary, '=' ∉ name.toList ∧ '\n' ∉ name.toList ∧
      name.toList.head?.all (fun c => !isBlank c && c != '#') = true := by
    decide
  obtain ⟨hsign, hfeed, hhead⟩ := hspec name h
  exact ⟨hsign, hfeed, by simpa [Option.all_eq_true] using hhead⟩

/-- Whether a text can stand as a value: it is there, and has neither blanks nor quotes. -/
structure IsPlainValue (value : List Char) : Prop where
  /-- There is a value. -/
  ne_nil : value ≠ []
  /-- There are neither blanks nor quotes. -/
  chars : ∀ c ∈ value, isBlank c = false ∧ c ≠ '"' ∧ c ≠ '\''

/-- **A key and a value that stand on a line are read from it.** -/
theorem assignment?_eq_some {key value : List Char} (hne : key ≠ [])
    (hhead : ∀ c ∈ key.head?, isBlank c = false ∧ c ≠ '#')
    (hlast : ∀ c ∈ key.getLast?, isBlank c = false) (hsign : '=' ∉ key)
    (hvalue : IsPlainValue value) :
    assignment? (dropReturn (key ++ '=' :: value)) = some (String.ofList key, value) := by
  obtain ⟨hvne, hchars⟩ := hvalue
  obtain ⟨c, cs, rfl⟩ := List.exists_cons_of_ne_nil hne
  obtain ⟨d, ds, rfl⟩ := List.exists_cons_of_ne_nil hvne
  have hc := hhead c rfl
  have hlastOf : ∀ v ∈ (d :: ds).getLast?, isBlank v = false := fun v hv =>
    (hchars v (List.mem_of_getLast? hv)).1
  -- Neither end of the line is blank: the key starts it and the value ends it.
  have hline :
      trimChars (dropReturn (c :: cs ++ '=' :: d :: ds)) = c :: (cs ++ '=' :: d :: ds) := by
    rw [trimChars_dropReturn]
    refine trimChars_eq_self (fun b hb => ?_) fun b hb => ?_
    · exact Option.some.inj hb ▸ hc.1
    · rw [getLast?_append_of_ne_nil (by simp), List.getLast?_cons_cons] at hb
      exact hlastOf b hb
  have hcut : cutOnce? '=' (c :: (cs ++ '=' :: d :: ds)) = some (c :: cs, d :: ds) := by
    have hall : ∀ a ∈ c :: cs, (a != '=') = true := fun a ha => by
      simpa using fun h : a = '=' => hsign (h ▸ ha)
    rw [cutOnce?, ← List.cons_append, List.dropWhile_append_of_pos hall,
      List.takeWhile_append_of_pos hall]
    simp
  have htrimKey : trimChars (c :: cs) = c :: cs :=
    trimChars_eq_self (fun b hb => Option.some.inj hb ▸ hc.1) hlast
  have htrimValue : trimChars (d :: ds) = d :: ds :=
    trimChars_eq_self (fun b hb => (hchars b (List.mem_of_mem_head? hb)).1) hlastOf
  have hunquote : unquote (d :: ds) = d :: ds := by
    have hd := (hchars d List.mem_cons_self).2
    cases ds <;> simp [unquote, hd.1, hd.2]
  rw [assignment?, hline]
  split
  · rename_i heq
    cases heq
  · rename_i heq
    exact absurd (List.cons.inj heq).1 hc.2
  · rw [hcut, Option.map_some]
    simp only [htrimKey, htrimValue, hunquote]

theorem isPlainValue_decimalChars (n : Nat) : IsPlainValue (decimalChars n) where
  ne_nil := Nat.toDigits_ne_nil
  chars c hc := by
    have hspec : ∀ d < 10, isBlank (Nat.digitChar d) = false ∧ Nat.digitChar d ≠ '"' ∧
        Nat.digitChar d ≠ '\'' := by
      decide
    obtain ⟨d, hd, rfl⟩ := exists_of_mem_toDigits (by omega) hc
    exact hspec d hd

theorem isPlainValue_formatHex (n : Nat) : IsPlainValue (formatHex n).toList where
  ne_nil := by simp [formatHex]
  chars c hc := by
    have hspec : ∀ d < 16, isBlank (Nat.digitChar d).toUpper = false ∧
        (Nat.digitChar d).toUpper ≠ '"' ∧ (Nat.digitChar d).toUpper ≠ '\'' := by
      decide
    have hc : c = '0' ∨ c = 'x' ∨ c ∈ upperHexChars n := by
      simpa [formatHex, upperHex] using hc
    rcases hc with rfl | rfl | hc
    · decide
    · decide
    · obtain ⟨d, hd, rfl⟩ := exists_of_mem_upperHexChars hc
      exact hspec d hd

/-- A line that assigns to a name with an ending. -/
theorem assignment?_name {name ending : String} {value : List Char} (hname : IsWritable name)
    (hending : ending = "_OFFSET" ∨ ending = "_OFFSET_DEC") (hvalue : IsPlainValue value) :
    assignment? (dropReturn ((name ++ ending).toList ++ '=' :: value)) =
      some (name ++ ending, value) := by
  have hspec : ending.toList ≠ [] ∧ (∀ c ∈ ending.toList.head?, isBlank c = false ∧ c ≠ '#') ∧
      (∀ c ∈ ending.toList.getLast?, isBlank c = false) ∧ '=' ∉ ending.toList := by
    rcases hending with rfl | rfl <;>
      exact ⟨by decide, by rintro _ ⟨⟩; decide, by rintro _ ⟨⟩; decide, by decide⟩
  obtain ⟨hne, hhead, hlast, hsign⟩ := hspec
  rw [String.toList_append, assignment?_eq_some (by simp [hne]) ?_ ?_ ?_ hvalue,
    ← String.toList_append, String.ofList_toList]
  · intro c hc
    rw [List.head?_append] at hc
    cases hfirst : name.toList.head? with
    | none => exact hhead c (by simpa [hfirst] using hc)
    | some b => exact hname.head c (by simpa [hfirst] using hc)
  · intro c hc
    rw [getLast?_append_of_ne_nil hne] at hc
    exact hlast c hc
  · simp [hname.sign, hsign]

/-! ### The table of a script -/

/-- A member, as it is written in an assignment. -/
def written (p : String × Value) : String × List Char := (p.1, p.2.text.toList)

namespace Found

/-- The members that a table has for one offset. -/
def groupMembers (e : String × Nat) : Members Value :=
  [(e.1 ++ "_OFFSET", .raw (formatHex e.2)), (e.1 ++ "_OFFSET_DEC", .dec e.2)]

/-- The member that a table has for the size. -/
def sizeMembers : Option Nat → Members Value
  | some size => [("SQUASHFS_SIZE", .raw (String.ofList (decimalChars size)))]
  | none => []

/-- The members of the table that a script is read as. -/
def members (f : Found) : Members Value :=
  f.entries.flatMap groupMembers ++ sizeMembers f.squashfsSize

/-! ### The lines of a script -/

/-- The assignments on the lines that a script is written with. -/
def readLines (ls : List String) : List (String × List Char) :=
  ls.filterMap fun l => assignment? (dropReturn l.toList)

theorem readLines_append (ls ls' : List String) :
    readLines (ls ++ ls') = readLines ls ++ readLines ls' := List.filterMap_append

theorem readLines_cons_of_none {l : String} (h : assignment? (dropReturn l.toList) = none)
    (ls : List String) : readLines (l :: ls) = readLines ls := by
  rw [readLines, List.filterMap_cons, h]
  rfl

theorem readLines_cons_of_some {l : String} {a : String × List Char}
    (h : assignment? (dropReturn l.toList) = some a) (ls : List String) :
    readLines (l :: ls) = a :: readLines ls := by
  rw [readLines, List.filterMap_cons, h]
  rfl

theorem assignment?_empty : assignment? (dropReturn "".toList) = none := by decide

theorem assignment?_comment (cs : List Char) : assignment? (dropReturn ('#' :: cs)) = none := by
  obtain ⟨ds, hds⟩ : ∃ ds, trimChars ('#' :: cs) = '#' :: ds := by
    rw [trimChars, skipBlanks_of_not_isBlank (by decide), trimEndChars, dropEndWhile,
      List.reverse_cons, List.dropWhile_append]
    split
    · exact ⟨[], rfl⟩
    · exact ⟨_, by rw [List.reverse_append]; rfl⟩
  rw [assignment?, trimChars_dropReturn, hds]
  rfl

theorem readLines_groupLines {e : String × Nat} (h : IsWritable e.1) :
    readLines (groupLines e) = (groupMembers e).map written := by
  have hhex : assignment? (dropReturn (s!"{e.1}_OFFSET={formatHex e.2}").toList) =
      some (e.1 ++ "_OFFSET", (formatHex e.2).toList) := by
    rw [← assignment?_name h (Or.inl rfl) (isPlainValue_formatHex e.2)]
    simp [toString]
  have hdec : assignment? (dropReturn
      (s!"{e.1}_OFFSET_DEC={String.ofList (decimalChars e.2)}").toList) =
        some (e.1 ++ "_OFFSET_DEC", decimalChars e.2) := by
    rw [← assignment?_name h (Or.inr rfl) (isPlainValue_decimalChars e.2)]
    simp [toString]
  rw [groupLines, readLines_cons_of_none assignment?_empty, readLines_cons_of_some hhex,
    readLines_cons_of_some hdec]
  simp [readLines, groupMembers, written, Value.text]

theorem readLines_sizeLines (size : Option Nat) :
    readLines (sizeLines size) = (sizeMembers size).map written := by
  cases size with
  | none => rfl
  | some n =>
    have hkey : assignment? (dropReturn ("SQUASHFS_SIZE".toList ++ '=' :: decimalChars n)) =
        some (String.ofList "SQUASHFS_SIZE".toList, decimalChars n) :=
      assignment?_eq_some (by decide) (by rintro _ ⟨⟩; decide) (by rintro _ ⟨⟩; decide) (by decide)
        (isPlainValue_decimalChars n)
    have hsize : assignment? (dropReturn
        (s!"SQUASHFS_SIZE={String.ofList (decimalChars n)}").toList) =
          some ("SQUASHFS_SIZE", decimalChars n) := by
      rw [String.ofList_toList] at hkey
      rw [← hkey]
      simp [toString]
    rw [sizeLines, readLines_cons_of_none assignment?_empty, readLines_cons_of_some hsize]
    simp [readLines, sizeMembers, written, Value.text]

/-- **The lines of a script carry the members of its table.** -/
theorem readLines_scriptLines {f : Found} (h : ∀ e ∈ f.entries, IsWritable e.1)
    (firmware : String) : readLines (f.scriptLines firmware) = f.members.map written := by
  have hgroups : readLines (f.entries.flatMap groupLines) =
      (f.entries.flatMap groupMembers).map written := by
    rw [readLines, List.filterMap_flatMap, List.map_flatMap, List.flatMap_def, List.flatMap_def]
    exact congrArg List.flatten (List.map_congr_left fun e he => readLines_groupLines (h e he))
  have hcomment {l : String} (hl : ∃ cs, l.toList = '#' :: cs) :
      assignment? (dropReturn l.toList) = none := by
    obtain ⟨cs, hl⟩ := hl
    rw [hl, assignment?_comment]
  rw [scriptLines, readLines_append, readLines_append, hgroups, readLines_sizeLines,
    readLines_cons_of_none (hcomment ⟨_, rfl⟩), readLines_cons_of_none (hcomment ⟨_, rfl⟩),
    readLines_cons_of_none (hcomment ⟨" Firmware: ".toList ++ firmware.toList, by simp [toString]⟩),
    members, List.map_append]
  rfl

theorem not_mem_scriptLines {f : Found} (h : ∀ e ∈ f.entries, IsWritable e.1) {firmware : String}
    (hfirmware : '\n' ∉ firmware.toList) : ∀ l ∈ f.scriptLines firmware, '\n' ∉ l.toList := by
  have hplain {value : List Char} (hvalue : IsPlainValue value) : '\n' ∉ value := fun hmem =>
    absurd (hvalue.chars _ hmem).1 (by decide)
  -- values are written without line feeds, and so are names that may be written
  have hgroup : ∀ e ∈ f.entries, ∀ l ∈ groupLines e, '\n' ∉ l.toList := by
    intro e he l hl
    have hhex := hplain (isPlainValue_formatHex e.2)
    have hdec := hplain (isPlainValue_decimalChars e.2)
    simp only [groupLines, List.mem_cons, List.not_mem_nil, or_false] at hl
    rcases hl with rfl | rfl | rfl <;> simp [toString, (h e he).feed, hhex, hdec]
  have hsize : ∀ l ∈ sizeLines f.squashfsSize, '\n' ∉ l.toList := by
    intro l hl
    cases hs : f.squashfsSize with
    | none => simp [hs, sizeLines] at hl
    | some n =>
      have hdec := hplain (isPlainValue_decimalChars n)
      simp only [hs, sizeLines, List.mem_cons, List.not_mem_nil, or_false] at hl
      rcases hl with rfl | rfl <;> simp [toString, hdec]
  intro l hl
  simp only [scriptLines, List.mem_append, List.mem_flatMap] at hl
  rcases hl with (hl | ⟨e, he, hl⟩) | hl
  · simp only [List.mem_cons, List.not_mem_nil, or_false] at hl
    rcases hl with rfl | rfl | rfl <;> simp [toString, hfirmware]
  · exact hgroup e he l hl
  · exact hsize l hl

theorem assignments_toShellScript {f : Found} (h : ∀ e ∈ f.entries, IsWritable e.1)
    {firmware : String} (hfirmware : '\n' ∉ firmware.toList) :
    assignments (f.toShellScript firmware).toList = f.members.map written := by
  have hchars : (f.toShellScript firmware).toList =
      ((f.scriptLines firmware).map String.toList).flatMap (· ++ ['\n']) := by
    simp [toShellScript, String.toList_join, List.flatMap_map]
  rw [assignments, hchars, lineChars_ended, List.map_map, List.filterMap_map,
    ← readLines_scriptLines h firmware]
  · rfl
  · intro l hl
    obtain ⟨s, hs, rfl⟩ := List.mem_map.1 hl
    exact not_mem_scriptLines h hfirmware s hs

/-! ### The keys of a table -/

/-- Texts with endings whose last characters differ are different. -/
theorem append_ne_append {a b : String} {c d : Char} (ha : a.toList.getLast? = some c)
    (hb : b.toList.getLast? = some d) (hne : c ≠ d) (s t : String) : s ++ a ≠ t ++ b := by
  intro h
  have hlast := congrArg (fun s : String => s.toList.getLast?) h
  simp only [String.toList_append, List.getLast?_append, ha, hb, Option.some_or,
    Option.some.injEq] at hlast
  exact hne hlast

theorem append_offset_ne (n name : String) : n ++ "_OFFSET" ≠ name ++ "_OFFSET_DEC" :=
  append_ne_append (c := 'T') (d := 'C') (by decide) (by decide) (by decide) n name

theorem append_offset_ne_size (n : String) : n ++ "_OFFSET" ≠ "SQUASHFS_SIZE" := by
  have h := append_ne_append (a := "_OFFSET") (b := "SQUASHFS_SIZE") (c := 'T') (d := 'E')
    (by decide) (by decide) (by decide) n ""
  rwa [String.empty_append] at h

theorem append_dec_ne_size (n : String) : n ++ "_OFFSET_DEC" ≠ "SQUASHFS_SIZE" := by
  have h := append_ne_append (a := "_OFFSET_DEC") (b := "SQUASHFS_SIZE") (c := 'C') (d := 'E')
    (by decide) (by decide) (by decide) n ""
  rwa [String.empty_append] at h

theorem mem_keys_flatMap_groupMembers {entries : Members Nat} {key : String} :
    key ∈ Members.keys (entries.flatMap groupMembers) ↔
      ∃ n ∈ Members.keys entries, key = n ++ "_OFFSET" ∨ key = n ++ "_OFFSET_DEC" := by
  induction entries with
  | nil => simp
  | cons e entries ih =>
    obtain ⟨n, v⟩ := e
    simp only [List.flatMap_cons, groupMembers, Members.keys_append, Members.keys_cons,
      Members.keys_nil, List.mem_append, List.mem_cons, List.not_mem_nil, or_false, ih,
      exists_eq_or_imp]

/-- **The keys of a table** are the two of each offset, and that of the size. -/
theorem mem_keys_members {f : Found} {key : String} :
    key ∈ Members.keys f.members ↔
      (∃ n ∈ Members.keys f.entries, key = n ++ "_OFFSET" ∨ key = n ++ "_OFFSET_DEC") ∨
        f.squashfsSize.isSome = true ∧ key = "SQUASHFS_SIZE" := by
  rw [members, Members.keys_append, List.mem_append, mem_keys_flatMap_groupMembers]
  cases f.squashfsSize <;> simp [sizeMembers]

theorem keys_nodup_flatMap_groupMembers {entries : Members Nat}
    (h : (Members.keys entries).Nodup) :
    (Members.keys (entries.flatMap groupMembers)).Nodup := by
  induction entries with
  | nil => simp
  | cons e entries ih =>
    obtain ⟨n, v⟩ := e
    obtain ⟨hn, h⟩ := List.nodup_cons.1 h
    rw [List.flatMap_cons, Members.keys_append, List.nodup_append]
    refine ⟨by simp [groupMembers], ih h, fun a ha b hb => ?_⟩
    obtain ⟨n', hn', hb⟩ := mem_keys_flatMap_groupMembers.1 hb
    have hne : n ≠ n' := fun heq => hn (heq ▸ hn')
    have ha : a = n ++ "_OFFSET" ∨ a = n ++ "_OFFSET_DEC" := by simpa [groupMembers] using ha
    -- Keys with the same ending differ in the name, the others in the ending.
    rcases ha with rfl | rfl <;> rcases hb with rfl | rfl
    · simpa [String.append_left_inj] using hne
    · exact append_offset_ne n n'
    · exact (append_offset_ne n' n).symm
    · simpa [String.append_left_inj] using hne

theorem keys_nodup_members {f : Found} (h : (Members.keys f.entries).Nodup) :
    (Members.keys f.members).Nodup := by
  rw [members, Members.keys_append, List.nodup_append]
  refine ⟨keys_nodup_flatMap_groupMembers h, by cases f.squashfsSize <;> simp [sizeMembers],
    fun a ha b hb => ?_⟩
  obtain ⟨n, -, ha⟩ := mem_keys_flatMap_groupMembers.1 ha
  have hb : b = "SQUASHFS_SIZE" := by
    cases hs : f.squashfsSize with
    | none => simp [hs, sizeMembers] at hb
    | some size => simpa [hs, sizeMembers] using hb
  subst hb
  rcases ha with rfl | rfl
  · exact append_offset_ne_size n
  · exact append_dec_ne_size n

/-! ### Looking up in the table -/

theorem get?_sizeMembers_of_ne {size : Option Nat} {key : String} (h : key ≠ "SQUASHFS_SIZE") :
    Members.get? (sizeMembers size) key = none := by
  cases size <;> simp [sizeMembers, Members.get?, h.symm]

/-- A key that each offset has for its own name alone is found for the name it was made of. -/
theorem get?_flatMap_groupMembers {key n : String} {g : Nat → Value}
    (hkey : ∀ e, Members.get? (groupMembers e) key = if e.1 = n then some (g e.2) else none)
    (entries : Members Nat) :
    Members.get? (entries.flatMap groupMembers) key = (entries.get? n).map g := by
  induction entries with
  | nil => rfl
  | cons e entries ih =>
    obtain ⟨n', v⟩ := e
    rw [List.flatMap_cons, Members.get?_append, ih, hkey]
    by_cases hn : n' = n <;> simp [Members.get?, hn]

theorem get?_members_dec (f : Found) (n : String) :
    f.members.get? (n ++ "_OFFSET_DEC") = (f.get? n).map .dec := by
  rw [members, Members.get?_append, get?_sizeMembers_of_ne (append_dec_ne_size n), Option.or_none]
  refine get?_flatMap_groupMembers (fun e => ?_) f.entries
  by_cases hn : e.1 = n <;>
    simp [groupMembers, Members.get?, hn, append_offset_ne, String.append_left_inj]

theorem get?_members_hex (f : Found) (n : String) :
    f.members.get? (n ++ "_OFFSET") = (f.get? n).map fun v => .raw (formatHex v) := by
  rw [members, Members.get?_append, get?_sizeMembers_of_ne (append_offset_ne_size n),
    Option.or_none]
  refine get?_flatMap_groupMembers (g := fun v => .raw (formatHex v)) (fun e => ?_) f.entries
  by_cases hn : e.1 = n <;>
    simp [groupMembers, Members.get?, hn, (append_offset_ne n _).symm, String.append_left_inj]

theorem get?_members_size (f : Found) :
    f.members.get? "SQUASHFS_SIZE" =
      f.squashfsSize.map fun size => .raw (String.ofList (decimalChars size)) := by
  have hnone : Members.get? (f.entries.flatMap groupMembers) "SQUASHFS_SIZE" = none := by
    rw [Members.get?_eq_none_iff, mem_keys_flatMap_groupMembers]
    rintro ⟨n, -, h | h⟩
    · exact append_offset_ne_size n h.symm
    · exact append_dec_ne_size n h.symm
  rw [members, Members.get?_append, hnone, Option.none_or]
  cases f.squashfsSize <;> simp [sizeMembers, Members.get?]

theorem dec?_members (f : Found) (n : String) : Table.dec? ⟨f.members, none⟩ n = f.get? n := by
  rw [Table.dec?, Table.get?, get?_members_dec]
  cases f.get? n <;> rfl

theorem hex?_members (f : Found) (n : String) :
    Table.hex? ⟨f.members, none⟩ n = (f.get? n).map formatHex := by
  rw [Table.hex?, Table.get?, get?_members_hex]
  cases f.get? n <;> rfl

theorem offset?_members (f : Found) (n : String) :
    Table.offset? ⟨f.members, none⟩ n = f.get? n := by
  rw [Table.offset?, dec?_members, hex?_members]
  cases f.get? n <;> rfl

theorem squashfsSize?_members {f : Found} (h : ∀ size ∈ f.squashfsSize, size < wordLimit) :
    Table.squashfsSize? ⟨f.members, none⟩ = f.squashfsSize := by
  rw [Table.squashfsSize?, Table.get?, get?_members_size]
  cases hsize : f.squashfsSize with
  | none => rfl
  | some size => simp [decimal?_decimalChars (h size hsize)]

/-! ### The script as a table -/

/-- What holds of everything found: every name can be written and none is there twice, and all
numbers are 64-bit words. -/
structure IsSound (f : Found) : Prop where
  /-- Every name can be written. -/
  names : ∀ e ∈ f.entries, IsWritable e.1
  /-- Every offset is a word. -/
  offsets : ∀ e ∈ f.entries, e.2 < wordLimit
  /-- No name is recorded twice. -/
  nodup : (Members.keys f.entries).Nodup
  /-- The size is a word. -/
  size : ∀ size ∈ f.squashfsSize, size < wordLimit

/-- The endings of the keys that are written tell how their values are read. -/
theorem isDecimalKey_append (n : String) :
    isDecimalKey (n ++ "_OFFSET_DEC") = true ∧ isDecimalKey (n ++ "_OFFSET") = false := by
  simp [isDecimalKey]

/-- Every member is what its key and its text are read as. -/
theorem value?_of_mem_members {f : Found} (h : f.IsSound) {p : String × Value}
    (hp : p ∈ f.members) : value? p.1 p.2.text.toList = .ok p.2 := by
  rw [members, List.mem_append, List.mem_flatMap] at hp
  rcases hp with ⟨e, he, hp⟩ | hp
  · simp only [groupMembers, List.mem_cons, List.not_mem_nil, or_false] at hp
    rcases hp with rfl | rfl
    · simp [value?, isDecimalKey_append, Value.text]
    · simp [value?, isDecimalKey_append, Value.text, decimal?_decimalChars (h.offsets e he)]
  · cases hs : f.squashfsSize with
    | none => simp [hs, sizeMembers] at hp
    | some size =>
      rw [hs, sizeMembers, List.mem_singleton] at hp
      subst hp
      simp [value?, show isDecimalKey "SQUASHFS_SIZE" = false by decide, Value.text]

/-- Assignments to keys that are all new are appended in order. -/
theorem foldlM_assign_written {ms : Members Value}
    (hread : ∀ p ∈ ms, value? p.1 p.2.text.toList = .ok p.2) {m : Members Value}
    (hm : (Members.keys (m ++ ms)).Nodup) :
    (ms.map written).foldlM assign m = .ok (m ++ ms) := by
  induction ms generalizing m with
  | nil =>
    rw [List.append_nil]
    rfl
  | cons p ms ih =>
    have hnew : p.1 ∉ Members.keys m := by
      rw [Members.keys_append, List.nodup_append] at hm
      exact fun hmem => hm.2.2 _ hmem _ List.mem_cons_self rfl
    have hstep : assign m (written p) = .ok (m ++ [p]) := by
      rw [assign, written, hread p List.mem_cons_self, Except.map, Members.put_eq_append hnew]
    have hassoc : m ++ p :: ms = (m ++ [p]) ++ ms := by simp
    rw [hassoc] at hm ⊢
    rw [List.map_cons, List.foldlM_cons, hstep]
    exact ih (fun q hq => hread q (List.mem_cons_of_mem _ hq)) hm

/-- **A script is read as its table.** -/
theorem parse_toShellScript {f : Found} (h : f.IsSound) {firmware : String}
    (hfirmware : '\n' ∉ firmware.toList) :
    parse (f.toShellScript firmware) = .ok ⟨f.members, none⟩ := by
  have hfold := foldlM_assign_written (m := []) (fun p hp => value?_of_mem_members h hp)
    (keys_nodup_members h.nodup)
  rw [parse, assignments_toShellScript h.names hfirmware, hfold]
  rfl

end Found

/-! ### Recordings -/

/-- One recording of a scan. -/
inductive Recording where
  /-- An offset under a name. -/
  | offset (name : String) (n : Nat)
  /-- The size of the root file system, or that it is not known. -/
  | size (size : Option Nat)

namespace Recording

/-- Whether a recording can be written: a name fits on its line, and numbers are 64-bit words. -/
def IsWritable : Recording → Prop
  | offset name n => Offsets.IsWritable name ∧ n < wordLimit
  | size s => ∀ n ∈ s, n < wordLimit

/-- The offset that a recording puts under a name. -/
def offsetFor? (name : String) : Recording → Option Nat
  | offset name' n => if name' = name then some n else none
  | size _ => none

/-- The size that a recording sets. -/
def size? : Recording → Option (Option Nat)
  | offset _ _ => none
  | size s => some s

end Recording

namespace Found

/-- Carries out a recording. -/
def record (f : Found) : Recording → Found
  | .offset name n => f.insert name n
  | .size s => f.setSquashfsSize s

/-- What is found after a series of recordings. -/
def recorded (rs : List Recording) : Found := rs.foldl record {}

end Found

/-- The offset that is recorded last under a name. -/
def lastOffset? (rs : List Recording) (name : String) : Option Nat :=
  (rs.filterMap (Recording.offsetFor? name)).getLast?

/-- The size that is set last. -/
def lastSize? (rs : List Recording) : Option Nat := (rs.filterMap Recording.size?).getLast?.join

theorem lastOffset?_concat (rs : List Recording) (r : Recording) (name : String) :
    lastOffset? (rs ++ [r]) name = (r.offsetFor? name).or (lastOffset? rs name) := by
  rw [lastOffset?, List.filterMap_append, List.getLast?_append, lastOffset?]
  cases h : r.offsetFor? name <;> simp [h]

theorem lastSize?_concat (rs : List Recording) (r : Recording) :
    lastSize? (rs ++ [r]) = r.size?.getD (lastSize? rs) := by
  rw [lastSize?, List.filterMap_append, List.getLast?_append, lastSize?]
  cases h : r.size? <;> simp [h]

namespace Found

theorem recorded_concat (rs : List Recording) (r : Recording) :
    recorded (rs ++ [r]) = (recorded rs).record r := by
  rw [recorded, List.foldl_append]
  rfl

/-- **A recording keeps what is found sound.** -/
theorem IsSound.record {f : Found} (h : f.IsSound) {r : Recording} (hr : r.IsWritable) :
    (f.record r).IsSound := by
  cases r with
  | offset name n =>
    exact
      { names := fun e he => by
          rcases Members.mem_put he with he | rfl
          · exact h.names e he
          · exact hr.1
        offsets := fun e he => by
          rcases Members.mem_put he with he | rfl
          · exact h.offsets e he
          · exact hr.2
        nodup := Members.keys_nodup_put h.nodup name n
        size := h.size }
  | size s => exact { names := h.names, offsets := h.offsets, nodup := h.nodup, size := hr }

/-- **Everything found in a series of writable recordings is sound.** -/
theorem isSound_recorded {rs : List Recording} (h : ∀ r ∈ rs, r.IsWritable) :
    (recorded rs).IsSound := by
  induction rs using List.reverseRecOn with
  | nil => exact ⟨by simp [recorded], by simp [recorded], by simp [recorded], by simp [recorded]⟩
  | append_singleton rs r ih =>
    rw [recorded_concat]
    exact (ih fun r' hr' => h r' (List.mem_append_left _ hr')).record (h r (by simp))

/-- **What is found under a name is the offset recorded last under it.** -/
theorem get?_recorded (rs : List Recording) (name : String) :
    (recorded rs).get? name = lastOffset? rs name := by
  induction rs using List.reverseRecOn with
  | nil => rfl
  | append_singleton rs r ih =>
    rw [recorded_concat, lastOffset?_concat, ← ih]
    cases r with
    | offset name' n =>
      by_cases hname : name' = name
      · subst hname
        simp [record, Recording.offsetFor?]
      · simp [record, Recording.offsetFor?, hname, get?_insert_of_ne]
    | size s => rfl

/-- The size found is the one set last. -/
theorem squashfsSize_recorded (rs : List Recording) :
    (recorded rs).squashfsSize = lastSize? rs := by
  induction rs using List.reverseRecOn with
  | nil => rfl
  | append_singleton rs r ih =>
    rw [recorded_concat, lastSize?_concat, ← ih]
    cases r <;> rfl

/-- **Recordings read back.** A series of recordings is written as a script that is read as a table.
Under every name the table has the offset recorded last, in decimal, in hexadecimal and as the
offset of the name; the size is the one set last; and there are no other keys. -/
theorem parse_toShellScript_recorded {rs : List Recording} (h : ∀ r ∈ rs, r.IsWritable)
    {firmware : String} (hfirmware : '\n' ∉ firmware.toList) :
    ∃ t, parse ((recorded rs).toShellScript firmware) = .ok t ∧
      (∀ name, (recorded rs).get? name = lastOffset? rs name ∧
        t.offset? name = lastOffset? rs name ∧
        t.dec? name = lastOffset? rs name ∧
        (t.hex? name).bind parseHex? = lastOffset? rs name) ∧
      t.squashfsSize? = lastSize? rs ∧
      ∀ key, (t.get? key).isSome = true ↔
        (∃ name, (lastOffset? rs name).isSome = true ∧
          (key = name ++ "_OFFSET" ∨ key = name ++ "_OFFSET_DEC")) ∨
        (lastSize? rs).isSome = true ∧ key = "SQUASHFS_SIZE" := by
  have hsound := isSound_recorded h
  have hdec (name : String) :
      Table.dec? ⟨(recorded rs).members, none⟩ name = lastOffset? rs name := by
    rw [Table.dec?, Table.get?, get?_members_dec, get?_recorded]
    cases lastOffset? rs name <;> rfl
  have hhex (name : String) :
      (Table.hex? ⟨(recorded rs).members, none⟩ name).bind parseHex? = lastOffset? rs name := by
    rw [Table.hex?, Table.get?, get?_members_hex]
    cases hget : (recorded rs).get? name with
    | none => rw [← get?_recorded, hget]; rfl
    | some n =>
      have hn : n < wordLimit := hsound.offsets _ (Members.mem_of_get? hget)
      simp [← get?_recorded, hget, parseHex?_formatHex hn]
  refine ⟨_, parse_toShellScript hsound hfirmware,
    fun name => ⟨get?_recorded rs name, ?_, hdec name, hhex name⟩, ?_, fun key => ?_⟩
  · rw [Table.offset?, hdec, hhex]
    cases lastOffset? rs name <;> rfl
  · rw [Table.squashfsSize?, Table.get?, get?_members_size, squashfsSize_recorded]
    cases hsize : lastSize? rs with
    | none => rfl
    | some size =>
      have hlt : size < wordLimit := hsound.size _ (squashfsSize_recorded rs ▸ hsize)
      simp [decimal?_decimalChars hlt]
  · rw [Table.get?, Members.isSome_get?_iff, mem_keys_members, squashfsSize_recorded]
    simp only [← Members.isSome_get?_iff, ← get?_recorded, Found.get?]

/-- An offset that is recorded twice, another one, and a size. -/
def someRecordings : List Recording :=
  [.offset "KERNEL_FIT" 64, .offset "SQUASHFS" 0x1E240, .size (some 52428800),
    .offset "KERNEL_FIT" 0x400000]

theorem recorded_someRecordings :
    ∃ t, parse ((recorded someRecordings).toShellScript "router.bin") = .ok t ∧
      t.offset? "KERNEL_FIT" = some 0x400000 ∧ t.squashfsSize? = some 52428800 := by
  have hnames : Offsets.IsWritable "KERNEL_FIT" ∧ Offsets.IsWritable "SQUASHFS" := by
    constructor <;> exact ⟨by decide, by decide, by rintro _ ⟨⟩; decide⟩
  have hwritable : ∀ r ∈ someRecordings, r.IsWritable := by
    simp [someRecordings, Recording.IsWritable, hnames, wordLimit]
  have hfirmware : '\n' ∉ "router.bin".toList := by decide
  obtain ⟨t, hparse, hlookup, hsize, -⟩ := parse_toShellScript_recorded hwritable hfirmware
  exact ⟨t, hparse, (hlookup "KERNEL_FIT").2.1, hsize⟩

end Found

end FirmwareSurvey.Offsets
