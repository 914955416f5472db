import FirmwareSurvey.DeviceTree.Lookup
import FirmwareSurvey.Proofs.DeviceTree.Tree
import Mathlib.Data.List.TakeWhile

/-!
# The model of a board

The model of a board stands in its tree as a property of the root. It is not read from there: the
whole text is searched for the first line that has the key, an equals sign and a quote, and the
model is what stands up to the next quote. In a tree written with its properties before its nodes,
one on a line, the search passes over every line but those of the key: an opening has no equals sign
(`valueAt?_eq_none`), and a property begins with a word that is its own key and no other
(`Entry.valueAt?_line`). So it finds the first property of the key that begins with a quote, in
whatever node that stands (`textProperty?_sourceText`).

This is the root's, as long as the root has one: its properties come first. Where it has none, a
node below it speaks for it; and where its text has an escaped quote, it is cut off there
(`model?_eq_root_iff`).
-/

namespace FirmwareSurvey.DeviceTree

open Text

variable {α : Type} {read : List Char → Option α} {key : List Char}

/-! ### Where a search can match -/

/-- Whether a text can be the key of a property. -/
def IsKey (key : List Char) : Prop := key ≠ [] ∧ ∀ c ∈ key, isKeyChar c = true

/-- What is read as the value of a key behind the blanks that a text starts with. -/
def valueAt? (read : List Char → Option α) (key cs : List Char) : Option α :=
  (valueStart? key (skipBlanks cs)).bind read

/-- What is read as the value of a key at the first line that gives one. -/
def search? (read : List Char → Option α) (key cs : List Char) : Option α :=
  (lineStarts cs).findSome? (valueAt? read key)

/-- A key starts nowhere but at a character of a key. -/
theorem valueStart?_eq_none_of_head? (hkey : IsKey key) {cs : List Char}
    (h : ∀ c ∈ cs.head?, isKeyChar c = false) : valueStart? key cs = none := by
  obtain ⟨k, ks, rfl⟩ := List.exists_cons_of_ne_nil hkey.1
  refine if_neg fun hprefix => ?_
  obtain ⟨rest, rfl⟩ := List.isPrefixOf_iff_prefix.1 hprefix
  have hk := hkey.2 k List.mem_cons_self
  rw [h k rfl] at hk
  cases hk

/-- **All blanks are skipped**: in front of a key there are none. -/
theorem findSome?_blankSuffixes (hkey : IsKey key) (cs : List Char) :
    ((blankSuffixes cs).findSome? fun cs => (valueStart? key cs).bind read) =
      valueAt? read key cs := by
  induction cs with
  | nil =>
    rw [blankSuffixes, List.findSome?_singleton]
    rfl
  | cons c cs ih =>
    rw [blankSuffixes, valueAt?]
    cases hblank : isBlank c with
    | true =>
      have hnone : valueStart? key (c :: cs) = none :=
        valueStart?_eq_none_of_head? hkey fun d hd => by
          obtain rfl := Option.some.inj hd
          refine Bool.eq_false_iff.2 fun hd => ?_
          rw [isBlank_of_isKeyChar hd] at hblank
          cases hblank
      rw [if_pos rfl, List.findSome?_append, ih, List.findSome?_singleton, hnone,
        Option.bind_none, Option.or_none, valueAt?, skipBlanks, skipBlanks,
        List.dropWhile_cons_of_pos hblank]
    | false =>
      rw [if_neg Bool.false_ne_true, List.findSome?_singleton, skipBlanks_of_not_isBlank hblank]

theorem firstValue?_eq {key : String} (hkey : IsKey key.toList) (text : String) :
    firstValue? read text key = search? read key.toList text.toList := by
  rw [firstValue?, search?]
  exact congrArg (List.findSome? · _) (funext (findSome?_blankSuffixes hkey))

theorem lineStarts_cons (c : Char) (cs : List Char) :
    lineStarts (c :: cs) =
      (c :: cs) :: if c = '\n' then lineStarts cs else (lineStarts cs).tail := by
  have hsuffix (cs : List Char) : (cs.foldr (fun c (acc : List Char × List (List Char)) =>
      (c :: acc.1, if c = '\n' then acc.1 :: acc.2 else acc.2)) ([], [])).1 = cs := by
    induction cs with
    | nil => rfl
    | cons c cs ih => rw [List.foldr_cons, ih]
  rw [lineStarts, List.foldr_cons, hsuffix]
  rfl

theorem lineStarts_append_cons {l : List Char} (h : '\n' ∉ l) (rest : List Char) :
    lineStarts (l ++ '\n' :: rest) = (l ++ '\n' :: rest) :: lineStarts rest := by
  induction l with
  | nil => rw [List.nil_append, lineStarts_cons, if_pos rfl]
  | cons c l ih =>
    rw [List.mem_cons, not_or] at h
    rw [List.cons_append, lineStarts_cons, if_neg (Ne.symm h.1), ih h.2, List.tail_cons]

theorem search?_append_cons {l : List Char} (h : '\n' ∉ l) (rest : List Char) :
    search? read key (l ++ '\n' :: rest) =
      (valueAt? read key (l ++ '\n' :: rest)).or (search? read key rest) := by
  rw [search?, lineStarts_append_cons h, List.findSome?_cons]
  cases valueAt? read key (l ++ '\n' :: rest) <;> rfl

theorem search?_nil (hkey : IsKey key) : search? read key [] = none := by
  rw [search?, lineStarts, List.foldr_nil, List.findSome?_singleton, valueAt?,
    valueStart?_eq_none_of_head? hkey (by simp [skipBlanks]), Option.bind_none]

/-- **A line is searched in spite of the blanks and the blank lines before it.** -/
theorem search?_line {indent line : List Char} (hindent : allBlank indent = true)
    (hfeed : '\n' ∉ line) (rest : List Char) :
    search? read key (indent ++ line ++ '\n' :: rest) =
      (valueAt? read key (line ++ '\n' :: rest)).or (search? read key rest) := by
  induction hn : indent.length using Nat.strongRecOn generalizing indent with
  | ind n ih =>
    have hvalue : valueAt? read key (indent ++ line ++ '\n' :: rest) =
        valueAt? read key (line ++ '\n' :: rest) := by
      rw [valueAt?, List.append_assoc, skipBlanks_append_of_allBlank hindent, valueAt?]
    by_cases hbreak : '\n' ∈ indent
    · -- the search from a blank line reaches the line as well, and finds the same there
      obtain ⟨bs, bs', rfl, hbs⟩ := List.eq_append_cons_of_mem hbreak
      have hblank : allBlank bs' = true := by
        simp only [allBlank, List.all_append, List.all_cons, Bool.and_eq_true] at hindent ⊢
        exact hindent.2.2
      have hsplit : bs ++ '\n' :: bs' ++ line ++ '\n' :: rest =
          bs ++ '\n' :: (bs' ++ line ++ '\n' :: rest) := by
        simp
      rw [hsplit] at hvalue ⊢
      rw [search?_append_cons hbs, hvalue, ih bs'.length (by simp [← hn]; omega) hblank rfl,
        ← Option.or_assoc, Option.or_self]
    · have hl : '\n' ∉ indent ++ line := by
        rw [List.mem_append, not_or]
        exact ⟨hbreak, hfeed⟩
      rw [search?_append_cons hl, hvalue]

/-! ### What lines give -/

/-- What follows an equals sign, blanks skipped. -/
def afterEquals? (cs : List Char) : Option (List Char) :=
  match skipBlanks cs with
  | '=' :: rest => some (skipBlanks rest)
  | _ => none

/-- **A line that begins with a word gives a value of this key only.** -/
theorem valueStart?_run (hkey : IsKey key) {run after : List Char}
    (hrun : ∀ c ∈ run, isKeyChar c = true) (hafter : ∀ c ∈ after.head?, isKeyChar c = false) :
    valueStart? key (run ++ after) = if run = key then afterEquals? after else none := by
  rw [valueStart?]
  split
  · rename_i hprefix
    obtain ⟨rest, hrest⟩ := List.isPrefixOf_iff_prefix.1 hprefix
    rw [← hrest, List.drop_left]
    rcases List.append_eq_append_iff.1 hrest with ⟨more, rfl, rfl⟩ | ⟨more, rfl, rfl⟩
    · cases more with
      | nil =>
        rw [List.append_nil, if_pos rfl]
        rfl
      | cons c more =>
        -- the word goes on behind the key, so no equals sign stands there
        have hc := hrun c (by simp)
        have hne : key ++ c :: more ≠ key := by simp
        rw [List.cons_append, if_neg hne, skipBlanks_of_not_isBlank (isBlank_of_isKeyChar hc)]
        split
        · rename_i heq
          rw [(List.cons.inj heq).1] at hc
          exact absurd hc (by decide)
        · rfl
    · cases more with
      | nil =>
        rw [List.append_nil, if_pos rfl]
        rfl
      | cons c more =>
        -- the key would go on behind the word
        have hc := hkey.2 c (by simp)
        rw [hafter c rfl] at hc
        cases hc
  · rename_i hprefix
    rw [if_neg]
    rintro rfl
    exact hprefix (List.isPrefixOf_iff_prefix.2 (List.prefix_append _ _))

theorem afterEquals?_eq_none {cs : List Char} (hblank : allBlank cs = false) (hequals : '=' ∉ cs)
    (rest : List Char) : afterEquals? (cs ++ rest) = none := by
  rw [afterEquals?, skipBlanks_append hblank]
  split
  · rename_i heq
    cases hskip : skipBlanks cs with
    | nil =>
      rw [skipBlanks_eq_nil_iff.1 hskip] at hblank
      cases hblank
    | cons c more =>
      rw [hskip, List.cons_append] at heq
      obtain rfl := (List.cons.inj heq).1
      exact absurd ((skipBlanks_suffix cs).subset (hskip ▸ List.mem_cons_self)) hequals
  · rfl

theorem mem_dropWhile {p : Char → Bool} {d : Char} {cs : List Char} (h : d ∈ cs)
    (hd : p d = false) : d ∈ cs.dropWhile p := by
  rw [← List.takeWhile_append_dropWhile (p := p) (l := cs), List.mem_append] at h
  refine h.resolve_left fun hmem => ?_
  rw [List.mem_takeWhile_imp hmem] at hd
  cases hd

/-- **A line without an equals sign gives no value**, when it has a character that is neither blank
nor one of a key: no key reaches over it into the next line. -/
theorem valueAt?_eq_none (hkey : IsKey key) {line : List Char} {d : Char} (hmem : d ∈ line)
    (hd : isBlank d = false ∧ isKeyChar d = false) (hequals : '=' ∉ line) (rest : List Char) :
    valueAt? read key (line ++ rest) = none := by
  have hnot {cs : List Char} (h : d ∈ cs) : allBlank cs = false := by
    refine Bool.eq_false_iff.2 fun hall => ?_
    rw [List.all_eq_true.1 hall d h] at hd
    cases hd.1
  -- neither the blanks nor the key reach over the character
  have hafter : d ∈ (skipBlanks line).dropWhile isKeyChar :=
    mem_dropWhile (mem_dropWhile hmem hd.1) hd.2
  have hsuffix : (skipBlanks line).dropWhile isKeyChar <:+ line :=
    (List.dropWhile_suffix _).trans (skipBlanks_suffix line)
  have hhead : ∀ c ∈ ((skipBlanks line).dropWhile isKeyChar ++ rest).head?,
      isKeyChar c = false := by
    intro c hc
    have hstop := List.head?_dropWhile_not isKeyChar (skipBlanks line)
    obtain ⟨b, more, hmore⟩ := List.exists_cons_of_ne_nil (List.ne_nil_of_mem hafter)
    rw [hmore] at hstop hc
    obtain rfl := Option.some.inj hc
    exact hstop
  have hnone : afterEquals? ((skipBlanks line).dropWhile isKeyChar ++ rest) = none :=
    afterEquals?_eq_none (hnot hafter) (fun h => hequals (hsuffix.subset h)) rest
  have hrun : ∀ c ∈ (skipBlanks line).takeWhile isKeyChar, isKeyChar c = true :=
    fun c => List.mem_takeWhile_imp
  rw [valueAt?, skipBlanks_append (hnot hmem),
    ← List.takeWhile_append_dropWhile (p := isKeyChar) (l := skipBlanks line), List.append_assoc,
    valueStart?_run hkey hrun hhead, hnone, ite_self, Option.bind_none]

/-- **A property's line gives the value of its own key only**, up to wherever it is read. -/
theorem Entry.valueAt?_line (hkey : IsKey key) {e : Entry} (hw : e.IsWritten)
    (rest : List Char) :
    valueAt? read key (e.chars ++ ';' :: rest) =
      if e.key.toList = key then e.value.bind fun v => read (v.toList ++ ';' :: rest)
      else none := by
  rw [valueAt?, Entry.chars, List.append_assoc, skipBlanks_key (by simpa using hw.key.1) hw.key.2]
  cases hv : e.value with
  | none =>
    have hnone : afterEquals? (';' :: rest) = none := by
      rw [afterEquals?, skipBlanks_of_not_isBlank (by decide)]
      rfl
    have hhead : ∀ c ∈ (';' :: rest).head?, isKeyChar c = false := fun c hc =>
      Option.some.inj hc ▸ (by decide : isKeyChar ';' = false)
    rw [List.nil_append, valueStart?_run hkey hw.key.2 hhead, hnone, ite_self]
    simp
  | some v =>
    have htrim := Entry.trimChars_value hw hv
    -- A value is trimmed, so it is read from its first character on; a blank one is empty.
    have hvalue : skipBlanks (v.toList ++ ';' :: rest) = v.toList ++ ';' :: rest := by
      cases hblank : allBlank v.toList with
      | true =>
        rw [← htrim, trimChars_eq_nil_iff.2 hblank]
        exact skipBlanks_of_not_isBlank (by decide)
      | false => rw [skipBlanks_append hblank, skipBlanks_of_trimChars htrim]
    have hsome : afterEquals? (' ' :: '=' :: ' ' :: (v.toList ++ ';' :: rest)) =
        some (v.toList ++ ';' :: rest) := congrArg some hvalue
    have hhead : ∀ c ∈ (' ' :: '=' :: ' ' :: (v.toList ++ ';' :: rest)).head?,
        isKeyChar c = false := fun c hc =>
      Option.some.inj hc ▸ (by decide : isKeyChar ' ' = false)
    rw [List.cons_append, List.cons_append, List.cons_append,
      valueStart?_run hkey hw.key.2 hhead, hsome]
    split <;> rfl

/-! ### Values whose quotes come in pairs -/

/-- Whether the quotes of a value come in pairs, each around a text whose own quotes are escaped. -/
def IsPaired (v : String) : Prop :=
  ∃ (before : String) (items : List (String × String)), v = before ++ quotedList items ∧
    '"' ∉ before.toList ∧ ∀ q ∈ items, IsEscaped q.1.toList ∧ '"' ∉ q.2.toList

theorem toList_quotedList_cons (q : String × String) (items : List (String × String)) :
    (quotedList (q :: items)).toList =
      '"' :: (q.1.toList ++ '"' :: (q.2.toList ++ (quotedList items).toList)) := by
  simp [quotedList]

theorem plainQuoted?_eq_none {cs : List Char} (h : cs.head? ≠ some '"') :
    plainQuoted? cs = none := by
  rw [plainQuoted?.eq_def]
  split
  · exact absurd rfl h
  · rfl

/-- The text behind a quote is read up to the next one. -/
theorem plainQuoted?_quoted (t rest : List Char) :
    plainQuoted? ('"' :: (t ++ '"' :: rest)) = some (t.takeWhile (· != '"')) := by
  have htake : (t ++ '"' :: rest).takeWhile (· != '"') = t.takeWhile (· != '"') := by
    induction t with
    | nil => rfl
    | cons c t ih => simp [List.takeWhile_cons, ih]
  rw [plainQuoted?, if_pos (by simp), htake]

theorem IsPaired.head_or_quoted {v : String} (h : IsPaired v) :
    v.toList.head? ≠ some '"' ∨ ∃ t rest, v.toList = '"' :: (t ++ '"' :: rest) := by
  obtain ⟨before, items, rfl, hbefore, -⟩ := h
  rw [String.toList_append]
  cases hchars : before.toList with
  | nil =>
    cases items with
    | nil => exact .inl (by simp [quotedList])
    | cons q items => exact .inr ⟨_, _, toList_quotedList_cons q items⟩
  | cons c cs =>
    refine .inl fun hc => hbefore ?_
    rw [hchars, ← Option.some.inj hc]
    exact List.mem_cons_self

/-- What is read from a value is told before the line is over. -/
theorem IsPaired.plainQuoted?_append {v : String} (h : IsPaired v) (rest : List Char) :
    plainQuoted? (v.toList ++ ';' :: rest) = plainQuoted? v.toList := by
  rcases h.head_or_quoted with hhead | ⟨t, more, hv⟩
  · rw [plainQuoted?_eq_none hhead, plainQuoted?_eq_none]
    cases hv : v.toList with
    | nil => simp
    | cons c cs => simpa [hv] using hhead
  · rw [hv, plainQuoted?_quoted, List.cons_append, List.append_assoc, List.cons_append,
      plainQuoted?_quoted]

theorem IsPaired.plainQuoted?_eq_none_iff {v : String} (h : IsPaired v) :
    plainQuoted? v.toList = none ↔ v.toList.head? ≠ some '"' := by
  refine ⟨fun hnone => h.head_or_quoted.resolve_right ?_, plainQuoted?_eq_none⟩
  rintro ⟨t, rest, hv⟩
  rw [hv, plainQuoted?_quoted] at hnone
  cases hnone

/-! ### Searching a tree -/

/-- What is read as the value of a key when a property is of this key. -/
def quotedValue? (key : String) (p : String × Option String) : Option (List Char) :=
  if p.1 = key then p.2.bind fun v => plainQuoted? v.toList else none

/-- Whether the values of a key have their quotes in pairs. -/
def ArePaired (key : String) (ps : List (String × Option String)) : Prop :=
  ∀ v, (key, some v) ∈ ps → IsPaired v

/-- **The properties of a node are searched in order.** -/
theorem search?_entries {word : String} (hword : IsKey word.toList) {es : List Entry}
    (hw : ∀ e ∈ es, e.IsWritten) (hpaired : ArePaired word (es.map fun e => (e.key, e.value)))
    (rest : List Char) :
    search? plainQuoted? word.toList ((String.join (es.map Entry.text)).toList ++ rest) =
      ((es.map fun e => (e.key, e.value)).findSome? (quotedValue? word)).or
        (search? plainQuoted? word.toList rest) := by
  -- by the entries: a line is read or passed over, and no quote of it reaches the next
  induction es with
  | nil => rfl
  | cons e es ih =>
    obtain ⟨he, hes⟩ := List.forall_mem_cons.1 hw
    have htext : (String.join ((e :: es).map Entry.text)).toList ++ rest =
        e.indent.toList ++ (e.chars ++ [';']) ++
          '\n' :: ((String.join (es.map Entry.text)).toList ++ rest) := by
      simp [Entry.toList_text]
    have hline (more : List Char) :
        valueAt? plainQuoted? word.toList (e.chars ++ [';'] ++ '\n' :: more) =
          quotedValue? word (e.key, e.value) := by
      rw [List.append_assoc, List.cons_append, List.nil_append, Entry.valueAt?_line hword he,
        quotedValue?]
      simp only [String.toList_inj]
      split
      · rename_i heq
        cases hv : e.value with
        | none => rfl
        | some v => exact (hpaired v (by simp [← heq, ← hv])).plainQuoted?_append _
      · rfl
    rw [htext, search?_line he.indent (Entry.not_mem_line he), hline,
      ih hes fun v hv => hpaired v (by simp [hv]), List.map_cons, List.findSome?_cons]
    cases quotedValue? word (e.key, e.value) <;> rfl

/-- **A node is searched before what follows it**: its properties, and then what is below it. -/
theorem search?_node {word : String} (hword : IsKey word.toList) (head : Head)
    {entries : List Entry} {below : Forest} {ending : String}
    (hindent : allBlank head.indent.toList = true)
    (hline : '\n' ∉ head.labelChars ++ head.nameChars ∧ '=' ∉ head.labelChars ++ head.nameChars)
    (hentries : ∀ e ∈ entries, e.IsWritten)
    (hpaired : ArePaired word (entries.map fun e => (e.key, e.value)))
    (hending : allBlank ending.toList = true) {inner : Option (List Char)}
    (hbelow : ∀ rest, search? plainQuoted? word.toList (below.text.toList ++ rest) =
      inner.or (search? plainQuoted? word.toList rest))
    (next : Forest) (rest : List Char) :
    search? plainQuoted? word.toList
        ((Forest.node head entries below ending next).text.toList ++ rest) =
      ((entries.map fun e => (e.key, e.value)).findSome? (quotedValue? word)).or
        (inner.or (search? plainQuoted? word.toList (next.text.toList ++ rest))) := by
  have htext : (Forest.node head entries below ending next).text.toList ++ rest =
      head.indent.toList ++ (head.labelChars ++ head.nameChars) ++
        '\n' :: ((String.join (entries.map Entry.text)).toList ++ (below.text.toList ++
          (ending.toList ++ ['\x7d', ';'] ++ '\n' :: (next.text.toList ++ rest)))) := by
    simp [Forest.text, Head.toList_text]
  have hopening (more : List Char) : valueAt? plainQuoted? word.toList
      (head.labelChars ++ head.nameChars ++ more) = none :=
    valueAt?_eq_none hword (List.mem_of_getLast? head.getLast?_line) (by decide) hline.2 more
  have hclosing (more : List Char) :
      valueAt? plainQuoted? word.toList (['\x7d', ';'] ++ more) = none :=
    valueAt?_eq_none hword List.mem_cons_self (by decide) (by decide) more
  rw [htext, search?_line hindent hline.1, hopening, Option.none_or,
    search?_entries hword hentries hpaired, hbelow, search?_line hending (by decide), hclosing,
    Option.none_or]

/-- **A forest is searched property by property**, a node before those below it. -/
theorem Forest.search?_text {word : String} (hword : IsKey word.toList) {f : Forest}
    (hw : f.IsWritten) {above : List String}
    (hpaired : ∀ n ∈ f.nodes above, ArePaired word n.properties) (rest : List Char) :
    search? plainQuoted? word.toList (f.text.toList ++ rest) =
      (((f.nodes above).flatMap (·.properties)).findSome? (quotedValue? word)).or
        (search? plainQuoted? word.toList rest) := by
  induction f generalizing above rest with
  | nil => rfl
  | node head entries below ending next ihBelow ihNext =>
    obtain ⟨hhead, hentries, hbelow, hending, hnext⟩ := hw
    rw [Forest.nodes, List.cons_append, List.forall_mem_cons, List.forall_mem_append] at hpaired
    obtain ⟨hpairedEntries, hpairedBelow, hpairedNext⟩ := hpaired
    have hgap : '=' ∉ head.gap.toList := fun hmem =>
      absurd (List.all_eq_true.1 hhead.gap.1 _ hmem) (by decide)
    rw [search?_node hword head hhead.indent
      ⟨Head.not_mem_line hhead hhead.gap.2 (by decide), Head.not_mem_line hhead hgap (by decide)⟩
      hentries hpairedEntries hending (fun rest => ihBelow hbelow hpairedBelow rest),
      ihNext hnext hpairedNext, Forest.nodes, List.cons_append, List.flatMap_cons,
      List.flatMap_append, List.findSome?_append, List.findSome?_append, Option.or_assoc,
      Option.or_assoc]
    rfl

/-! ### What stands before a tree -/

/-- A directive on its line, such as the version of the format. -/
structure Directive where
  /-- The blanks before the line, blank lines included. -/
  indent : String := ""
  /-- What stands between the slash and the semicolon. -/
  body : String

/-- A directive's line. -/
def Directive.text (d : Directive) : String := d.indent ++ "/" ++ d.body ++ ";\n"

/-- Whether a directive's line is made of what can stand there. -/
structure Directive.IsWritten (d : Directive) : Prop where
  /-- The line is indented by blanks. -/
  indent : allBlank d.indent.toList = true
  /-- It is one line. -/
  body : '\n' ∉ d.body.toList

/-- The text of a tree behind directives. -/
def sourceText (ds : List Directive) (t : Tree) : String :=
  String.join (ds.map Directive.text) ++ t.text

theorem Directive.not_mem_line {d : Directive} (hw : d.IsWritten) :
    '\n' ∉ '/' :: (d.body.toList ++ [';']) := by
  simp [hw.body]

theorem toList_directives (d : Directive) (ds : List Directive) (rest : List Char) :
    (String.join ((d :: ds).map Directive.text)).toList ++ rest =
      d.indent.toList ++ '/' :: (d.body.toList ++ [';']) ++
        '\n' :: ((String.join (ds.map Directive.text)).toList ++ rest) := by
  simp [Directive.text]

/-- **A directive says nothing** to the reader of nodes. -/
theorem Directive.ofChars_line (body : List Char) :
    Line.ofChars ('/' :: (body ++ [';'])) = .other := by
  have hopening : opening? ('/' :: (body ++ [';'])) = none :=
    opening?_eq_none (by decide) (by decide) ('/' :: body)
  have hskip : skipBlanks ('/' :: (body ++ [';'])) = '/' :: (body ++ [';']) :=
    skipBlanks_of_not_isBlank (by decide)
  have hclosing : isClosing ('/' :: (body ++ [';'])) = false := by
    rw [isClosing, hskip]
    rfl
  have hproperty : property? ('/' :: (body ++ [';'])) = none := by
    rw [property?, hskip]
    rfl
  rw [Line.ofChars, hopening, hclosing, hproperty]
  rfl

theorem read_directives {ds : List Directive} (hw : ∀ d ∈ ds, d.IsWritten) (s : Scan)
    (rest : List Char) :
    s.read ((String.join (ds.map Directive.text)).toList ++ rest) = s.read rest := by
  induction ds with
  | nil => rfl
  | cons d ds ih =>
    obtain ⟨hd, hds⟩ := List.forall_mem_cons.1 hw
    have hlast : ('/' :: (d.body.toList ++ [';'])).getLast? = some ';' := by
      rw [← List.cons_append, List.getLast?_concat]
    rw [toList_directives, Scan.read_line hd.indent (Directive.not_mem_line hd) hlast (by decide),
      Directive.ofChars_line]
    exact ih hds

/-- **A directive gives no value.** -/
theorem search?_directives (hkey : IsKey key) {ds : List Directive}
    (hw : ∀ d ∈ ds, d.IsWritten) (rest : List Char) :
    search? read key ((String.join (ds.map Directive.text)).toList ++ rest) =
      search? read key rest := by
  induction ds with
  | nil => rfl
  | cons d ds ih =>
    obtain ⟨hd, hds⟩ := List.forall_mem_cons.1 hw
    have hnone (more : List Char) : valueAt? read key ('/' :: more) = none := by
      have hhead : ∀ c ∈ ('/' :: more).head?, isKeyChar c = false := fun c hc =>
        Option.some.inj hc ▸ (by decide : isKeyChar '/' = false)
      rw [valueAt?, skipBlanks_of_not_isBlank (by decide),
        valueStart?_eq_none_of_head? hkey hhead, Option.bind_none]
    rw [toList_directives, search?_line hd.indent (Directive.not_mem_line hd), List.cons_append,
      hnone, Option.none_or, ih hds]

theorem nodes_sourceText {ds : List Directive} (hds : ∀ d ∈ ds, d.IsWritten) {t : Tree}
    (hw : t.IsWritten) : nodes (sourceText ds t) = t.nodes := by
  rw [← Tree.nodes_text hw, nodes, nodes, lines, lines, sourceText, String.toList_append]
  exact congrArg (fun s : Scan => s.nodes.toList) (read_directives hds {} _)

/-! ### The first property that begins with a quote -/

/-- The root of a tree. -/
def Tree.root (t : Tree) : Node :=
  { path := "/", name := "/", properties := t.entries.map fun e => (e.key, e.value) }

theorem Tree.nodes_eq (t : Tree) : t.nodes = t.root :: t.below.nodes [] := rfl

/-- **A search finds the first property of its key that begins with a quote**, in whatever node it
stands, and reads it up to the next quote. -/
theorem textProperty?_sourceText {word : String} (hword : IsKey word.toList) {ds : List Directive}
    (hds : ∀ d ∈ ds, d.IsWritten) {t : Tree} (hw : t.IsWritten)
    (hpaired : ∀ n ∈ t.nodes, ArePaired word n.properties) :
    textProperty? (sourceText ds t) word =
      ((t.nodes.flatMap (·.properties)).findSome? (quotedValue? word)).map String.ofList := by
  rw [Tree.nodes_eq, List.forall_mem_cons] at hpaired
  have hroot : Head.labelChars { indent := t.indent, name := "/" } ++
      Head.nameChars { indent := t.indent, name := "/" } = ['/', ' ', '\x7b'] := by
    simp [Head.labelChars, Head.nameChars, Scan.fullName]
  have hline : '\n' ∉ ['/', ' ', '\x7b'] ∧ '=' ∉ ['/', ' ', '\x7b'] := by decide
  have htree := search?_node hword { indent := t.indent, name := "/" } hw.indent (hroot ▸ hline)
    hw.entries hpaired.1 hw.ending (fun rest => Forest.search?_text hword hw.below hpaired.2 rest)
    .nil []
  rw [List.append_nil, List.append_nil, Forest.text_nil, String.toList_empty, search?_nil hword,
    Option.or_none] at htree
  rw [textProperty?, firstValue?_eq hword, sourceText, String.toList_append,
    search?_directives hword hds, Tree.text, Tree.forest, htree, Tree.nodes_eq, List.flatMap_cons,
    List.findSome?_append]
  rfl

theorem quotedValue?_eq_none_iff {word : String} {ps : List (String × Option String)}
    (h : ArePaired word ps) : (∀ p ∈ ps, quotedValue? word p = none) ↔
      ∀ v, (word, some v) ∈ ps → v.toList.head? ≠ some '"' := by
  constructor
  · intro hnone v hv
    have hvalue := hnone _ hv
    rw [quotedValue?, if_pos rfl] at hvalue
    exact (h v hv).plainQuoted?_eq_none_iff.1 hvalue
  · rintro hhead ⟨k, value⟩ hp
    rw [quotedValue?]
    split
    · rename_i heq
      obtain rfl := heq
      cases value with
      | none => rfl
      | some v => exact plainQuoted?_eq_none (hhead v hp)
    · rfl

theorem findSome?_quotedValue? {word v : String} {ps : List (String × Option String)}
    {t : List Char} (hget : Members.get? ps word = some (some v))
    (hv : plainQuoted? v.toList = some t) : ps.findSome? (quotedValue? word) = some t := by
  induction ps with
  | nil => cases hget
  | cons p ps ih =>
    rw [Members.get?_cons] at hget
    rw [List.findSome?_cons, quotedValue?]
    split at hget
    · rename_i heq
      rw [if_pos heq, Option.some.inj hget, Option.bind_some, hv]
    · rename_i hne
      rw [if_neg hne, ih hget]

theorem Node.get?_of_raw? {n : Node} {word v : String} (h : n.raw? word = some v) :
    Members.get? n.properties word = some (some v) := by
  rw [raw?] at h
  cases hget : Members.get? n.properties word with
  | none =>
    rw [hget] at h
    cases h
  | some value =>
    rw [hget] at h
    exact congrArg some h

/-- **The model of a board is the root's**, when the root has one that is a list of texts, unless
the first text has an escaped quote; and none, when the root has no model, unless a node below it
has one that begins with a quote. It is the first text of a model in the order of the source,
whichever node that is a property of, up to its first quote. -/
theorem model?_eq_root_iff {ds : List Directive} (hds : ∀ d ∈ ds, d.IsWritten) {t : Tree}
    (hw : t.IsWritten) (hpaired : ∀ n ∈ t.nodes, ArePaired "model" n.properties) :
    nodeAt? (nodes (sourceText ds t)) "/" = some t.root ∧
      model? (sourceText ds t) =
        ((t.nodes.flatMap (·.properties)).findSome? (quotedValue? "model")).map String.ofList ∧
      (∀ q items, t.root.raw? "model" = some (quotedList (q :: items)) →
        (∀ r ∈ q :: items, IsEscaped r.1.toList ∧ '"' ∉ r.2.toList) →
        t.root.text? "model" = some q.1 ∧
          (model? (sourceText ds t) = t.root.text? "model" ↔ '"' ∉ q.1.toList)) ∧
      (t.root.has "model" = false →
        t.root.text? "model" = none ∧
          (model? (sourceText ds t) = t.root.text? "model" ↔
            ∀ n ∈ t.nodes, ∀ v, ("model", some v) ∈ n.properties → v.toList.head? ≠ some '"')) := by
  have hword : IsKey "model".toList := ⟨by decide, List.all_eq_true.1 (by decide)⟩
  have hmodel : model? (sourceText ds t) =
      ((t.nodes.flatMap (·.properties)).findSome? (quotedValue? "model")).map String.ofList :=
    textProperty?_sourceText hword hds hw hpaired
  refine ⟨?_, hmodel, fun q items hraw hitems => ?_, fun hnone => ?_⟩
  · rw [nodes_sourceText hds hw]
    rfl
  · -- the first property of the root is the first in the tree
    have hget := Node.get?_of_raw? hraw
    have hfeed : '\n' ∉ (quotedList (q :: items)).toList :=
      Entry.not_mem_value hw.entries (Members.mem_of_get? hget) _ rfl
    have htext : t.root.text? "model" = some q.1 := by
      rw [Node.text?, Node.texts, hraw]
      simp only [quotedTexts_quotedList hitems hfeed, List.map_cons, List.head?_cons,
        String.ofList_toList]
    have hplain : plainQuoted? (quotedList (q :: items)).toList =
        some (q.1.toList.takeWhile (· != '"')) := by
      rw [toList_quotedList_cons, plainQuoted?_quoted]
    rw [hmodel, Tree.nodes_eq, List.flatMap_cons, List.findSome?_append,
      findSome?_quotedValue? hget hplain, Option.some_or, Option.map_some, htext]
    refine ⟨rfl, ?_⟩
    rw [Option.some_inj, ← String.toList_inj, String.toList_ofList, List.takeWhile_eq_self_iff]
    refine ⟨fun hall hquote => absurd (hall _ hquote) (by decide), fun hquote c hc => ?_⟩
    exact bne_iff_ne.2 fun heq => hquote (heq ▸ hc)
  · have hget : Members.get? t.root.properties "model" = none := by
      rw [Node.has, Members.has] at hnone
      simpa using hnone
    have htext : t.root.text? "model" = none := by
      rw [Node.text?, Node.texts, Node.raw?, hget]
      rfl
    rw [hmodel, htext, Option.map_eq_none_iff, List.findSome?_eq_none_iff]
    refine ⟨rfl, ?_⟩
    simp only [List.forall_mem_flatMap]
    exact forall₂_congr fun n hn => quotedValue?_eq_none_iff (hpaired n hn)

/-- A property of one text. -/
def Entry.ofText (indent key text : String) : Entry where
  indent := indent
  key := key
  value := some (quotedList [(text, "")])

/-- A root with a property, and below it a node that has a model of its own. -/
def soundTree (e : Entry) : Tree where
  indent := "\n"
  entries := [e]
  below :=
    .node { indent := "\n\t", name := "sound" } [.ofText "\t\t" "model" "card"] .nil "\t" .nil

theorem isWritten_version : ∀ d ∈ [({ body := "dts-v1/" } : Directive)], d.IsWritten :=
  fun d hd => List.mem_singleton.1 hd ▸ ⟨by decide, by decide⟩

theorem isWritten_soundTree {e : Entry} (h : e.IsWritten) : (soundTree e).IsWritten := by
  have hhead : Head.IsWritten { indent := "\n\t", name := "sound" } :=
    ⟨by decide, by simp, by decide, ⟨by decide, List.all_eq_true.1 (by decide)⟩, by simp⟩
  have hcard : (Entry.ofText "\t\t" "model" "card").IsWritten :=
    ⟨by decide, ⟨by decide, List.all_eq_true.1 (by decide)⟩, by decide⟩
  have hentries {e : Entry} (h : e.IsWritten) : ∀ e' ∈ [e], e'.IsWritten :=
    fun e' he => List.mem_singleton.1 he ▸ h
  refine ⟨?_, hentries h, ⟨hhead, hentries hcard, trivial, by decide, trivial⟩, ?_⟩
  · exact (by decide : allBlank "\n".toList = true)
  · exact (by decide : allBlank "".toList = true)

theorem isEscaped_of_plain {cs : List Char} (h : ∀ c ∈ cs, c ≠ '"' ∧ c ≠ '\\') :
    IsEscaped cs := by
  induction cs with
  | nil => exact .nil
  | cons c cs ih =>
    obtain ⟨hc, hcs⟩ := List.forall_mem_cons.1 h
    exact .plain hc.1 hc.2 (ih hcs)

/-- The model of the root is taken, not that of the node below it. -/
theorem model?_ownModel :
    model? (sourceText [{ body := "dts-v1/" }] (soundTree (.ofText "\t" "model" "Board"))) =
      some "Board" := by
  have hitems {text : String} (h : text.toList.all (fun c => c != '"' && c != '\\') = true) :
      ∀ r ∈ [(text, "")], IsEscaped r.1.toList ∧ '"' ∉ r.2.toList := by
    intro r hr
    obtain rfl := List.mem_singleton.1 hr
    exact ⟨isEscaped_of_plain (by simpa using h), List.not_mem_nil⟩
  have hpaired : ∀ n ∈ (soundTree (.ofText "\t" "model" "Board")).nodes,
      ArePaired "model" n.properties := by
    intro n hn v hv
    rcases List.mem_cons.1 hn with rfl | hn
    · obtain rfl : v = quotedList [("Board", "")] := by simpa [soundTree, Entry.ofText] using hv
      exact ⟨"", [("Board", "")], by decide, by decide, hitems (by decide)⟩
    · obtain rfl := List.mem_singleton.1 hn
      obtain rfl : v = quotedList [("card", "")] := by simpa [Head.node, Entry.ofText] using hv
      exact ⟨"", [("card", "")], by decide, by decide, hitems (by decide)⟩
  have hboard : (Entry.ofText "\t" "model" "Board").IsWritten :=
    ⟨by decide, ⟨by decide, List.all_eq_true.1 (by decide)⟩, by decide⟩
  obtain ⟨-, -, hown, -⟩ :=
    model?_eq_root_iff isWritten_version (isWritten_soundTree hboard) hpaired
  obtain ⟨htext, hiff⟩ := hown ("Board", "") [] rfl (hitems (by decide))
  exact (hiff.2 (by decide)).trans htext

/-- A root that has no model is given that of the node below it. -/
theorem not_model?_eq_root :
    ¬ ∀ (ds : List Directive) (t : Tree), (∀ d ∈ ds, d.IsWritten) → t.IsWritten →
      model? (sourceText ds t) =
        (nodeAt? (nodes (sourceText ds t)) "/").bind (·.text? "model") := by
  intro h
  have hx : (Entry.ofText "\t" "compatible" "x").IsWritten :=
    ⟨by decide, ⟨by decide, List.all_eq_true.1 (by decide)⟩, by decide⟩
  have heq := h _ _ isWritten_version (isWritten_soundTree hx)
  exact absurd heq (by decide +kernel)

end FirmwareSurvey.DeviceTree
