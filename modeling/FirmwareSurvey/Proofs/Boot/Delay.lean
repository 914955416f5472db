import FirmwareSurvey.Boot.Survey
import FirmwareSurvey.Proofs.Text.Runs

/-!
# Two readings of the delay before booting

The report on the boot process and that on the boot loader tell the delay before booting, and both
read it off the same printable runs. The first takes the first line that starts with the name of the
variable and has something behind the equals sign; the second takes it from the default environment,
which lets blanks stand before the name, but wants more than blanks for a value and no percent sign
in it. So they do not always agree: that they do hangs on the first line that either of them takes
(`delay_eq_iff`).
-/

/-!
## The default environment line by line

The environment keeps the first assignment of each name, so that a name has the value that the first
line gives which is taken as an assignment of it (`value?_environment`). Blanks may stand before
such a line; its value has to be more than blanks, and to have no percent sign in it
(`variableOf?_eq_some_iff`).
-/

namespace FirmwareSurvey.Uboot

open Text

variable {name : String} {line : String} {rest : List Char}

/-! ### What a line gives -/

/-- The text that a line gives a variable: what follows the name and the equals sign, when nothing
but blanks stands before them. -/
def givenText? (name : String) (line : List Char) : Option (List Char) :=
  dropWord? (name.toList ++ ['=']) (skipBlanks line)

/-- The value that a line gives a variable, blanks around it dropped. -/
def givenValue (name line : String) : String :=
  String.ofList (trimChars ((givenText? name line.toList).getD []))

/-- Whether the environment takes a line as an assignment of a variable: the value is not just
blanks, and has no percent sign in it. -/
def isTaken (name line : String) : Bool :=
  (givenText? name line.toList).any fun text => !allBlank text && !text.contains '%'

theorem dropWord?_eq_some_iff {word cs : List Char} :
    dropWord? word cs = some rest ↔ cs = word ++ rest := by
  rw [dropWord?]
  split
  · rename_i hstarts
    obtain ⟨r, rfl⟩ := List.isPrefixOf_iff_prefix.1 hstarts
    simp
  · rename_i hstarts
    refine ⟨fun h => (by cases h), fun h => ?_⟩
    exact absurd (List.isPrefixOf_iff_prefix.2 ⟨rest, h.symm⟩) hstarts

theorem givenText?_eq_some_iff {cs : List Char} :
    givenText? name cs = some rest ↔ skipBlanks cs = name.toList ++ '=' :: rest := by
  rw [givenText?, dropWord?_eq_some_iff, List.append_assoc, List.singleton_append]

/-! ### The names of variables -/

theorem not_mem_of_isVariableName {cs : List Char} (h : isVariableName cs = true) : '=' ∉ cs := by
  cases cs with
  | nil => cases h
  | cons c cs =>
    simp only [isVariableName, Bool.and_eq_true, List.all_eq_true, decide_eq_true_eq] at h
    intro hmem
    rcases List.mem_cons.1 hmem with rfl | hmem
    · exact absurd h.1.1.1.1 (by decide)
    · exact absurd (h.2 _ hmem) (by decide)

/-! ### Assignments -/

/-- A line without the blanks around it is an assignment when it is one without those before it. -/
theorem trimChars_eq_iff {cs value : List Char} :
    trimChars cs = name.toList ++ '=' :: value ↔
      ∃ text, givenText? name cs = some text ∧ trimEndChars text = value := by
  have hsign : isBlank '=' = false := by decide
  simp only [givenText?_eq_some_iff]
  constructor
  · intro h
    obtain ⟨as, bs, hcs, -, htrim⟩ := exists_trimEndChars (skipBlanks cs)
    rw [← trimChars, h] at htrim
    rw [← htrim, List.append_assoc, List.cons_append] at hcs
    refine ⟨value ++ bs, hcs, ?_⟩
    rw [trimChars, hcs, trimEndChars_append_cons hsign] at h
    exact (List.cons.inj (List.append_cancel_left h)).2
  · rintro ⟨text, htext, rfl⟩
    rw [trimChars, htext, trimEndChars_append_cons hsign]

/-- Blanks at the end do not count when it is asked whether a line is taken. -/
theorem isTaken_eq {text : List Char} (h : givenText? name line.toList = some text) :
    isTaken name line =
      (!(trimEndChars text).isEmpty && !(trimEndChars text).contains '%') := by
  have hpercent : isBlank '%' = false := by decide
  rw [isTaken, h, Option.any_some, Bool.eq_iff_iff]
  simp [trimEndChars_eq_nil_iff, mem_trimEndChars_iff hpercent]

/-- **Whether a line is taken can be told from the value it gives**: it is not empty and has no
percent sign in it. -/
theorem isTaken_iff : isTaken name line = true ↔ (givenText? name line.toList).isSome = true ∧
    givenValue name line ≠ "" ∧ '%' ∉ (givenValue name line).toList := by
  have hpercent : isBlank '%' = false := by decide
  rw [isTaken, givenValue]
  cases givenText? name line.toList with
  | none => simp
  | some text => simp [trimChars_eq_nil_iff, mem_trimChars_iff hpercent]

/-- **A line assigns a variable** when it gives it a text that is not just blanks and has no percent
sign in it; the value is that text without the blanks around it. -/
theorem variableOf?_eq_some_iff (hname : isVariableName name.toList = true) {value : String} :
    variableOf? line = some ⟨name, value⟩ ↔
      isTaken name line = true ∧ value = givenValue name line := by
  -- the cut at the equals sign gives the name and what is given to it
  have hcut : ∀ written, cutOnce? '=' (trimChars line.toList) = some (name.toList, written) ↔
      ∃ text, givenText? name line.toList = some text ∧ trimEndChars text = written := by
    intro written
    rw [cutOnce?_eq_some_iff, trimChars_eq_iff, and_iff_left (not_mem_of_isVariableName hname)]
  have hvalue : ∀ {text}, givenText? name line.toList = some text →
      givenValue name line = String.ofList (trimChars (trimEndChars text)) := by
    intro text htext
    rw [givenValue, htext, Option.getD_some, trimChars_trimEndChars]
  constructor
  · intro h
    rw [variableOf?] at h
    split at h
    · rename_i key written hline
      split at h
      · rename_i htaken
        injection h with h
        injection h with hkey hwritten
        obtain rfl : key = name.toList := by simp [← hkey]
        obtain ⟨text, htext, rfl⟩ := (hcut _).1 hline
        rw [hname, Bool.true_and] at htaken
        exact ⟨by rw [isTaken_eq htext, htaken], by rw [hvalue htext, hwritten]⟩
      · cases h
    · cases h
  · rintro ⟨htaken, rfl⟩
    cases htext : givenText? name line.toList with
    | none => rw [isTaken, htext] at htaken; cases htaken
    | some text =>
      rw [isTaken_eq htext] at htaken
      rw [variableOf?, (hcut _).2 ⟨text, htext, rfl⟩]
      simp only [hname, Bool.true_and, htaken, if_true, String.ofList_toList, hvalue htext]

/-! ### The first assignment of a name -/

/-- **Among the first assignments of all names a name is found as among all assignments.** -/
theorem find?_foldl_addVariable (name : String) (known vs : List Variable) :
    (vs.foldl addVariable known).find? (·.name == name) = (known ++ vs).find? (·.name == name) := by
  induction vs generalizing known with
  | nil => simp
  | cons v vs ih =>
    rw [List.foldl_cons, ih, addVariable]
    split
    · rename_i hknown
      rw [List.find?_append, List.find?_append, List.find?_cons]
      split
      · rename_i hv
        rw [beq_iff_eq] at hv
        rw [List.any_eq_true] at hknown
        obtain ⟨w, hw, hsame⟩ := hknown
        have hsome : (known.find? (·.name == name)).isSome = true := by
          rw [List.find?_isSome]
          exact ⟨w, hw, by rwa [← hv]⟩
        rw [Option.or_of_isSome hsome, Option.or_of_isSome hsome]
      · rfl
    · simp

/-- **The value of a name in the environment** is what the first line gives it that is taken as an
assignment of it. -/
theorem value?_environment (hname : isVariableName name.toList = true) (lines : List String) :
    ((environment lines).find? (·.name == name)).map (·.value) =
      (lines.find? (isTaken name)).map (givenValue name) := by
  rw [environment, find?_foldl_addVariable, List.nil_append]
  induction lines with
  | nil => rfl
  | cons line lines ih =>
    rw [List.find?_cons]
    cases htaken : isTaken name line with
    | true =>
      rw [List.filterMap_cons_some ((variableOf?_eq_some_iff hname).2 ⟨htaken, rfl⟩)]
      simp
    | false =>
      rw [← ih]
      cases hvariable : variableOf? line with
      | none => rw [List.filterMap_cons_none hvariable]
      | some v =>
        have hne : (v.name == name) = false := by
          rw [beq_eq_false_iff_ne]
          rintro rfl
          rw [((variableOf?_eq_some_iff hname).1 hvariable).1] at htaken
          cases htaken
        rw [List.filterMap_cons_some hvariable, List.find?_cons, hne]

end FirmwareSurvey.Uboot

/-!
## The lines that the boot process is told by
-/

namespace FirmwareSurvey.Boot

open Text Uboot

variable {name line : String} {lines : List String}

/-- Whether the report on the boot process takes a line for a variable: no blank stands before the
name, and there is something behind the equals sign. -/
def isRead (name line : String) : Bool :=
  line.toList.head?.all (!isBlank ·) && (givenText? name line.toList).any (!·.isEmpty)

theorem isBlank_of_isVariableName {c : Char} {cs : List Char} (h : isVariableName (c :: cs) = true) :
    isBlank c = false := by
  simp only [isVariableName, Bool.and_eq_true, decide_eq_true_eq] at h
  refine isBlank_of_printable ?_
  have ha := h.1.1.1.1
  have hz := h.1.1.1.2
  simp only [Char.le_def, UInt32.le_iff_toNat_le] at ha hz
  have hbounds : 'a'.val.toNat = 97 ∧ 'z'.val.toNat = 122 := by decide
  rw [Char.toNat]
  omega

/-- Blanks before the name hide it. -/
theorem dropWord?_of_isBlank {c : Char} {cs : List Char} (hname : isVariableName name.toList = true)
    (hc : isBlank c = true) : dropWord? (name.toList ++ ['=']) (c :: cs) = none := by
  rw [Option.eq_none_iff_forall_ne_some]
  intro rest hrest
  rw [dropWord?_eq_some_iff] at hrest
  cases hchars : name.toList with
  | nil => rw [hchars] at hname; cases hname
  | cons n ns =>
    rw [hchars] at hname hrest
    obtain ⟨rfl, -⟩ := List.cons.inj hrest
    rw [isBlank_of_isVariableName hname] at hc
    cases hc

/-- **A line is read for a variable** as what stands behind the equals sign. -/
theorem assigned?_eq (hname : isVariableName name.toList = true) (hfeed : '\n' ∉ line.toList) :
    assigned? name line.toList =
      if isRead name line then givenText? name line.toList else none := by
  rw [assigned?, isRead]
  cases hline : line.toList with
  | nil =>
    have hnone : dropWord? (name.toList ++ ['=']) [] = none := by
      rw [dropWord?, if_neg (by simp)]
    simp [givenText?, skipBlanks, hnone]
  | cons c cs =>
    -- a line that begins with a blank is not read, for the name is looked for at its start
    cases hc : isBlank c with
    | true => simp [dropWord?_of_isBlank hname hc, hc]
    | false =>
      have hgiven : dropWord? (name.toList ++ ['=']) (c :: cs) = givenText? name (c :: cs) := by
        rw [givenText?, skipBlanks_of_not_isBlank hc]
      rw [hgiven]
      cases htext : givenText? name (c :: cs) with
      | none => simp
      | some text =>
        have hnot : '\n' ∉ text := by
          rw [hline, ← skipBlanks_of_not_isBlank hc, givenText?_eq_some_iff.1 htext] at hfeed
          exact fun h => hfeed (by simp [h])
        cases text with
        | nil => simp
        | cons d ds => simp [hc, hnot]

/-- What the boot process is told by lines is what the first one gives that is read. -/
theorem firstFound?_assigned? (hname : isVariableName name.toList = true)
    (hfeed : ∀ line ∈ lines, '\n' ∉ line.toList) :
    firstFound? (assigned? name) lines = (lines.find? (isRead name)).map (givenValue name) := by
  rw [firstFound?]
  induction lines with
  | nil => rfl
  | cons line lines ih =>
    obtain ⟨hline, hlines⟩ := List.forall_mem_cons.1 hfeed
    rw [List.findSome?_cons, assigned?_eq hname hline, List.find?_cons]
    cases hread : isRead name line with
    | true =>
      obtain ⟨text, htext⟩ : ∃ text, givenText? name line.toList = some text := by
        rw [isRead, Bool.and_eq_true, Option.any_eq_true] at hread
        exact ⟨hread.2.choose, hread.2.choose_spec.1⟩
      simp [htext, givenValue]
    | false => simpa using ih hlines

/-! ### Two readings of the same lines -/

/-- Of two readings that never give the same when one does not take the line of the other, it is the
first line that either takes which decides whether they agree. -/
theorem map_find?_eq_iff {α β : Type} {p q : α → Bool} {value : α → β}
    (hapart : ∀ a b, p a = true → q a = false → q b = true → value a ≠ value b) (items : List α) :
    (items.find? p).map value = (items.find? q).map value ↔
      ∀ a, items.find? (fun a => p a || q a) = some a →
        q a = true ∧ (p a = true ∨ (items.find? p).map value = some (value a)) := by
  induction items with
  | nil => simp
  | cons a items ih =>
    cases hp : p a with
    | true =>
      cases hq : q a with
      | true => simp [hp, hq]
      | false =>
        have hne : (items.find? q).map value ≠ some (value a) := by
          intro heq
          obtain ⟨b, hb, hvalue⟩ := Option.map_eq_some_iff.1 heq
          exact hapart a b hp hq (List.find?_some hb) hvalue.symm
        simp [hp, hq, Ne.symm hne]
    | false =>
      cases hq : q a with
      | true => simp [hp, hq]
      | false => simpa [hp, hq] using ih

/-- What a line gives that is read and not taken is never what a line gives that is taken. -/
theorem givenValue_ne {line line' : String} (hread : isRead name line = true)
    (hnot : isTaken name line = false) (htaken : isTaken name line' = true) :
    givenValue name line ≠ givenValue name line' := by
  intro heq
  have hgiven : (givenText? name line.toList).isSome = true := by
    rw [isRead, Bool.and_eq_true] at hread
    exact Option.isSome_of_any hread.2
  have hboth := isTaken_iff.1 htaken
  rw [← heq] at hboth
  rw [isTaken_iff.2 ⟨hgiven, hboth.2⟩] at hnot
  cases hnot

/-- **When the two reports agree on the delay.** Each tells what the first line gives that it takes.
They agree just when, of the first line that either takes, the value is more than blanks and has no
percent sign in it, and that line starts with the name or the next line that does gives the same. -/
theorem delay_eq_iff (payload : ByteArray) (least : Nat) (b : Survey) (u : Uboot.Survey)
    (source source' : String) :
    let lines := printableRuns payload least
    let told := (b.readLoader lines source).delay
    let kept := (u.readStrings lines source').bootDelay
    told = (lines.find? (isRead "bootdelay")).map (givenValue "bootdelay") ∧
      kept = (lines.find? (isTaken "bootdelay")).map (givenValue "bootdelay") ∧
      (told = kept ↔
        ∀ line, lines.find? (fun l => isRead "bootdelay" l || isTaken "bootdelay" l) = some line →
          isTaken "bootdelay" line = true ∧
            (isRead "bootdelay" line = true ∨ told = some (givenValue "bootdelay" line))) := by
  intro lines told kept
  have hname : isVariableName "bootdelay".toList = true := by decide
  have htold : told = (lines.find? (isRead "bootdelay")).map (givenValue "bootdelay") :=
    firstFound?_assigned? hname fun _ => feed_not_mem_of_mem_printableRuns
  have hkept : kept = (lines.find? (isTaken "bootdelay")).map (givenValue "bootdelay") :=
    value?_environment hname lines
  refine ⟨htold, hkept, ?_⟩
  rw [htold, hkept]
  exact map_find?_eq_iff (fun _ _ => givenValue_ne) lines

/-- A payload in which the delay is told twice, the first time behind a blank. -/
def indentedPayload : ByteArray := " bootdelay=3\x00bootdelay=3 ".toUTF8

/-- A survey of the boot process that knows nothing yet. -/
def emptySurvey : Survey := { image := ⟨⟨"image.img"⟩, "image.img", 0⟩ }

theorem delay_eq_indentedPayload :
    (emptySurvey.readLoader (printableRuns indentedPayload 4) "").delay =
      (({} : Uboot.Survey).readStrings (printableRuns indentedPayload 4) "").bootDelay := by
  have hfirst : (printableRuns indentedPayload 4).find?
      (fun l => isRead "bootdelay" l || isTaken "bootdelay" l) = some " bootdelay=3" := by
    decide +kernel
  refine (delay_eq_iff indentedPayload 4 emptySurvey {} "" "").2.2.2 fun line hline => ?_
  obtain rfl : " bootdelay=3" = line := Option.some.inj (hfirst.symm.trans hline)
  exact ⟨by decide +kernel, Or.inr (by decide +kernel)⟩

/-- A payload in which the delay stands as a format. -/
def formatPayload : ByteArray := "bootdelay=%d".toUTF8

/-- **The two reports do not always agree**: a format is told as the delay, and is not kept in the
environment. -/
theorem delay_ne_formatPayload :
    ¬∀ (payload : ByteArray) (least : Nat) (b : Survey) (u : Uboot.Survey)
      (source source' : String),
      (b.readLoader (printableRuns payload least) source).delay =
        (u.readStrings (printableRuns payload least) source').bootDelay := by
  intro hagree
  have hformat := hagree formatPayload 4 emptySurvey {} "" ""
  exact absurd hformat (by decide +kernel)

end FirmwareSurvey.Boot
