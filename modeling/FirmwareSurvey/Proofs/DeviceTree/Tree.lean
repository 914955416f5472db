import FirmwareSurvey.DeviceTree.Node
import FirmwareSurvey.Proofs.DeviceTree.Line
import FirmwareSurvey.Proofs.Members

/-!
# Device trees written and read back

A tree of nodes is written with each node's first line, each property and each node's end on a line
of its own, and it is read back as the list of its nodes, a node before those below it
(`Tree.nodes_text`). A value is kept as it was written, so a list of quoted texts in it can be taken
apart afterwards (`Tree.readsBack`).

The reader keeps the nodes read so far and a stack of those still open. Reading a node, all that is
below it and its end leaves the stack as it was and adds the nodes to the list (`Forest.read_text`):
that is what carries the induction, since the nodes of a text that has not ended yet hang from the
innermost open one, whose path is all that the reader knows of them.
-/

namespace FirmwareSurvey.DeviceTree

open Text

/-! ### Trees -/

/-- The first line of a node. -/
structure Head where
  /-- The blanks before the line, blank lines included. -/
  indent : String := ""
  /-- The label. -/
  label : Option String := none
  /-- The blanks between the colon of the label and the name. -/
  gap : String := " "
  /-- The name. -/
  name : String
  /-- The unit address. -/
  unit : Option String := none

/-- A property on its line. -/
structure Entry where
  /-- The blanks before the line, blank lines included. -/
  indent : String := ""
  /-- The key. -/
  key : String
  /-- The value. -/
  value : Option String := none

/-- Sibling nodes, each with its properties, what is below it, and the blanks before its end. -/
inductive Forest where
  /-- No node. -/
  | nil
  /-- A node, and those that follow it. -/
  | node (head : Head) (entries : List Entry) (below : Forest) (ending : String) (next : Forest)

/-- A device tree: what its root has. -/
structure Tree where
  /-- The blanks before the root's line. -/
  indent : String := ""
  /-- The properties of the root. -/
  entries : List Entry
  /-- The nodes below the root. -/
  below : Forest
  /-- The blanks before the root's end. -/
  ending : String := ""

/-! ### How trees are written -/

/-- A node's first line. -/
def Head.text (h : Head) : String :=
  h.indent ++ (match h.label with | some l => l ++ ":" ++ h.gap | none => "") ++
    Scan.fullName h.name h.unit ++ " \x7b\n"

/-- A property's line. -/
def Entry.text (e : Entry) : String :=
  e.indent ++ e.key ++ (match e.value with | some v => " = " ++ v | none => "") ++ ";\n"

/-- Sibling nodes, one after another. -/
def Forest.text : Forest → String
  | .nil => ""
  | .node head entries below ending next =>
    head.text ++ String.join (entries.map Entry.text) ++ below.text ++ ending ++ "\x7d;\n" ++
      next.text

@[simp] theorem Forest.text_nil : Forest.nil.text = "" := rfl

/-- The root and all that is below it. -/
def Tree.forest (t : Tree) : Forest :=
  .node { indent := t.indent, name := "/" } t.entries t.below t.ending .nil

/-- A tree as a text. -/
def Tree.text (t : Tree) : String := t.forest.text

/-! ### The nodes of a tree -/

/-- The path that leads from the root through the named nodes. -/
def pathOf : List String → String
  | [] => "/"
  | names => String.join (names.map ("/" ++ ·))

/-- The node that a first line and properties make at a path. -/
def Head.node (h : Head) (entries : List Entry) (path : String) : Node where
  path := path
  name := h.name
  unit := h.unit
  label := h.label
  properties := entries.map fun e => (e.key, e.value)

/-- The nodes of a forest below the named ones, a node before those below it. -/
def Forest.nodes (above : List String) : Forest → List Node
  | .nil => []
  | .node head entries below _ next =>
    let names := above ++ [Scan.fullName head.name head.unit]
    head.node entries (pathOf names) :: below.nodes names ++ next.nodes above

/-- The nodes of a tree, the root first. -/
def Tree.nodes (t : Tree) : List Node :=
  { path := "/", name := "/", properties := t.entries.map fun e => (e.key, e.value) } ::
    t.below.nodes []

/-! ### What can be written -/

/-- Whether a text is a label. -/
def IsLabel (l : String) : Prop :=
  ∃ c cs, l.toList = c :: cs ∧ isLabelStart c = true ∧ ∀ d ∈ cs, isLabelChar d = true

/-- Whether a node's first line is made of what can stand there. -/
structure Head.IsWritten (h : Head) : Prop where
  /-- The line is indented by blanks. -/
  indent : allBlank h.indent.toList = true
  /-- The label is one. -/
  label : ∀ l ∈ h.label, IsLabel l
  /-- Blanks stand behind the colon. -/
  gap : allBlank h.gap.toList = true ∧ '\n' ∉ h.gap.toList
  /-- There is a name, of name characters. -/
  name : h.name ≠ "" ∧ ∀ c ∈ h.name.toList, isNameChar c = true
  /-- The unit address is one. -/
  unit : ∀ u ∈ h.unit, u ≠ "" ∧ ∀ c ∈ u.toList, isUnitChar c = true

/-- Whether a property's line is made of what can stand there. -/
structure Entry.IsWritten (e : Entry) : Prop where
  /-- The line is indented by blanks. -/
  indent : allBlank e.indent.toList = true
  /-- There is a key, of key characters. -/
  key : e.key ≠ "" ∧ ∀ c ∈ e.key.toList, isKeyChar c = true
  /-- The value is trimmed, and stands on one line. -/
  value : ∀ v ∈ e.value, trim v = v ∧ '\n' ∉ v.toList

/-- Whether the lines of a forest are made of what can stand there. -/
def Forest.IsWritten : Forest → Prop
  | .nil => True
  | .node head entries below ending next =>
    head.IsWritten ∧ (∀ e ∈ entries, e.IsWritten) ∧ below.IsWritten ∧
      allBlank ending.toList = true ∧ next.IsWritten

/-- Whether the lines of a tree are made of what can stand there. -/
structure Tree.IsWritten (t : Tree) : Prop where
  /-- The root's line is indented by blanks. -/
  indent : allBlank t.indent.toList = true
  /-- The properties of the root can be written. -/
  entries : ∀ e ∈ t.entries, e.IsWritten
  /-- The nodes below the root can be written. -/
  below : t.below.IsWritten
  /-- The root's end is indented by blanks. -/
  ending : allBlank t.ending.toList = true

/-! ### Reading a line -/

namespace Scan

/-- Takes the lines of a text. -/
def read (s : Scan) (cs : List Char) : Scan := s.run ((lineChars cs).map Line.ofChars)

@[simp] theorem read_nil (s : Scan) : s.read [] = s := rfl

theorem read_cons {l : List Char} (h : '\n' ∉ l) (s : Scan) (rest : List Char) :
    s.read (l ++ '\n' :: rest) = (s.step (Line.ofChars (dropReturn l))).read rest := by
  rw [read, lineChars_append_cons h]
  rfl

/-- **A line is read in spite of the blanks and the blank lines before it.** -/
theorem read_line {indent line : List Char} {c : Char} (hindent : allBlank indent = true)
    (hline : '\n' ∉ line) (hlast : line.getLast? = some c) (hc : c ≠ '\r') (s : Scan)
    (rest : List Char) :
    s.read (indent ++ line ++ '\n' :: rest) = (s.step (Line.ofChars line)).read rest := by
  induction hn : indent.length using Nat.strongRecOn generalizing indent with
  | ind n ih =>
    by_cases hfeed : '\n' ∈ indent
    · -- The first line is blank and says nothing; what follows it is indented by less.
      obtain ⟨bs, bs', rfl, hbs⟩ := List.eq_append_cons_of_mem hfeed
      have hblank : allBlank bs = true ∧ allBlank bs' = true := by
        simp only [allBlank, List.all_append, List.all_cons, Bool.and_eq_true] at hindent ⊢
        exact ⟨hindent.1, hindent.2.2⟩
      have hsplit : bs ++ '\n' :: bs' ++ line ++ '\n' :: rest =
          bs ++ '\n' :: (bs' ++ line ++ '\n' :: rest) := by
        simp
      rw [hsplit, read_cons hbs, ofChars_of_allBlank (allBlank_dropReturn hblank.1)]
      exact ih bs'.length (by simp [← hn]; omega) hblank.2 rfl
    · have hl : '\n' ∉ indent ++ line := by
        simp only [List.mem_append, not_or]
        exact ⟨hfeed, hline⟩
      obtain ⟨ds, rfl⟩ := List.getLast?_eq_some_iff.1 hlast
      rw [read_cons hl, ← List.append_assoc, dropReturn_concat hc, List.append_assoc,
        ofChars_append_of_allBlank hindent]

end Scan

/-! ### The lines of a tree -/

theorem toList_fullName (name : String) (unit : Option String) :
    (Scan.fullName name unit).toList =
      name.toList ++ (match unit with | some u => '@' :: u.toList | none => []) := by
  cases unit <;> simp [Scan.fullName]

/-- The part of a node's first line in front of its name. -/
def Head.labelChars (h : Head) : List Char :=
  match h.label with
  | some l => l.toList ++ ':' :: h.gap.toList
  | none => []

/-- The part of a node's first line from its name on. -/
def Head.nameChars (h : Head) : List Char :=
  (Scan.fullName h.name h.unit).toList ++ [' ', '\x7b']

theorem Head.toList_text (h : Head) :
    h.text.toList = h.indent.toList ++ (h.labelChars ++ h.nameChars) ++ ['\n'] := by
  rw [Head.text, Head.labelChars, Head.nameChars]
  cases h.label <;> simp

theorem Head.getLast?_line (h : Head) :
    (h.labelChars ++ h.nameChars).getLast? = some '\x7b' := by
  simp [Head.nameChars]

/-- **The name and the unit address of a first line are told apart.** -/
theorem Head.told_name {h : Head} (hw : h.IsWritten) :
    ∃ rest, name? h.nameChars = some (h.name.toList, rest) ∧
      unit? rest = (h.unit.map String.toList, [' ', '\x7b']) := by
  have hne : h.name.toList ≠ [] := by simpa using hw.name.1
  rw [Head.nameChars, toList_fullName, List.append_assoc]
  cases hunit : h.unit with
  | none =>
    refine ⟨[' ', '\x7b'], name?_run hne hw.name.2 ?_, rfl⟩
    exact fun c hc => Option.some.inj hc ▸ (by decide : isNameChar ' ' = false)
  | some u =>
    obtain ⟨hune, hu⟩ := hw.unit u hunit
    refine ⟨'@' :: (u.toList ++ [' ', '\x7b']), name?_run hne hw.name.2 ?_, ?_⟩
    · exact fun c hc => Option.some.inj hc ▸ (by decide : isNameChar '@' = false)
    · exact unit?_run (by simpa using hune) hu
        fun c hc => Option.some.inj hc ▸ (by decide : isUnitChar ' ' = false)

theorem Head.not_mem_nameChars {h : Head} (hw : h.IsWritten) {d : Char}
    (hname : isNameChar d = false) (hunit : isUnitChar d = false) (hd : d ∉ ['@', ' ', '\x7b']) :
    d ∉ h.nameChars := by
  simp only [List.mem_cons, List.not_mem_nil, or_false, not_or] at hd
  have hnameChars : d ∉ h.name.toList := fun hmem => by simp [hw.name.2 d hmem] at hname
  rw [Head.nameChars, toList_fullName]
  cases hu : h.unit with
  | none => simp [hnameChars, hd]
  | some u =>
    have hunitChars : d ∉ u.toList := fun hmem => by simp [(hw.unit u hu).2 d hmem] at hunit
    simp [hnameChars, hunitChars, hd]

theorem Head.skipBlanks_nameChars {h : Head} (hw : h.IsWritten) :
    skipBlanks h.nameChars = h.nameChars := by
  obtain ⟨c, cs, hcs⟩ :=
    List.exists_cons_of_ne_nil (show h.name.toList ≠ [] by simpa using hw.name.1)
  rw [Head.nameChars, toList_fullName, hcs]
  exact skipBlanks_of_not_isBlank (isBlank_of_isNameChar (hw.name.2 c (hcs ▸ List.mem_cons_self)))

/-- The label of a first line is told from what follows it. -/
theorem Head.told_label {h : Head} (hw : h.IsWritten) :
    label? (skipBlanks (h.labelChars ++ h.nameChars)) = none ∧ h.label = none ∧
        skipBlanks (h.labelChars ++ h.nameChars) = h.nameChars ∨
      ∃ l, label? (skipBlanks (h.labelChars ++ h.nameChars)) = some (l, h.nameChars) ∧
        h.label = some (String.ofList l) := by
  rw [Head.labelChars]
  cases hlabel : h.label with
  | none =>
    have hcolon : ':' ∉ h.nameChars :=
      Head.not_mem_nameChars hw (by decide) (by decide) (by decide)
    have hskip := Head.skipBlanks_nameChars hw
    refine Or.inl ⟨?_, rfl, hskip⟩
    rw [List.nil_append, hskip, label?_eq_none hcolon]
  | some l =>
    obtain ⟨c, cs, hl, hc, hcs⟩ := hw.label l hlabel
    have hstart : skipBlanks (l.toList ++ ':' :: h.gap.toList ++ h.nameChars) =
        c :: cs ++ ':' :: (h.gap.toList ++ h.nameChars) := by
      rw [hl, List.append_assoc, List.cons_append, List.cons_append,
        skipBlanks_of_not_isBlank (isBlank_of_isLabelStart hc)]
      rfl
    have hafter : skipBlanks (h.gap.toList ++ h.nameChars) = h.nameChars := by
      rw [skipBlanks_append_of_allBlank hw.gap.1, Head.skipBlanks_nameChars hw]
    refine Or.inr ⟨l.toList, ?_, by rw [String.ofList_toList]⟩
    rw [hstart, label?_run hc hcs, hafter, hl]

/-- **A node's first line is told as its opening.** -/
theorem Head.ofChars_line {h : Head} (hw : h.IsWritten) :
    Line.ofChars (h.labelChars ++ h.nameChars) = .opening h.label h.name h.unit := by
  obtain ⟨rest, hname, hunit⟩ := Head.told_name hw
  have hmap : (h.unit.map String.toList).map String.ofList = h.unit := by
    cases h.unit <;> simp
  rw [Line.ofChars, opening?_of_told (Head.told_label hw) hname hunit, String.ofList_toList, hmap]

theorem IsLabel.not_mem {l : String} (h : IsLabel l) {d : Char} (hstart : isLabelStart d = false)
    (hchar : isLabelChar d = false) : d ∉ l.toList := by
  obtain ⟨c, cs, hl, hc, hcs⟩ := h
  rw [hl, List.mem_cons, not_or]
  refine ⟨?_, fun hmem => ?_⟩
  · rintro rfl
    simp [hc] at hstart
  · simp [hcs d hmem] at hchar

/-- **A node's first line has none of the characters that its parts cannot have**, unless it is in
the gap behind the label. -/
theorem Head.not_mem_line {h : Head} (hw : h.IsWritten) {d : Char} (hgap : d ∉ h.gap.toList)
    (hd : isLabelStart d = false ∧ isLabelChar d = false ∧ isNameChar d = false ∧
      isUnitChar d = false ∧ d ∉ [':', '@', ' ', '\x7b']) :
    d ∉ h.labelChars ++ h.nameChars := by
  obtain ⟨hstart, hchar, hname, hunit, hmarks⟩ := hd
  rw [List.mem_cons, not_or] at hmarks
  have hlabel : d ∉ h.labelChars := by
    rw [Head.labelChars]
    cases hl : h.label with
    | none => simp
    | some l => simp [(hw.label l hl).not_mem hstart hchar, hgap, hmarks.1]
  rw [List.mem_append, not_or]
  exact ⟨hlabel, Head.not_mem_nameChars hw hname hunit hmarks.2⟩

/-- What a property's line holds in front of its semicolon. -/
def Entry.chars (e : Entry) : List Char :=
  e.key.toList ++ (match e.value with | some v => ' ' :: '=' :: ' ' :: v.toList | none => [])

theorem Entry.toList_text (e : Entry) :
    e.text.toList = e.indent.toList ++ (e.chars ++ [';']) ++ ['\n'] := by
  rw [Entry.text, Entry.chars]
  cases e.value <;> simp

theorem Entry.trimChars_value {e : Entry} (hw : e.IsWritten) {v : String}
    (hv : e.value = some v) : trimChars v.toList = v.toList := by
  have h := congrArg String.toList (hw.value v hv).1
  rwa [trim, String.toList_ofList] at h

/-- **A property's line is told as its key and its value.** -/
theorem Entry.ofChars_line {e : Entry} (hw : e.IsWritten) :
    Line.ofChars (e.chars ++ [';']) = .property e.key e.value := by
  have hne : e.key.toList ≠ [] := by simpa using hw.key.1
  rw [Entry.chars]
  cases hv : e.value with
  | none => rw [List.append_nil, ofChars_flag hne hw.key.2, String.ofList_toList]
  | some v =>
    rw [ofChars_value hne hw.key.2 (Entry.trimChars_value hw hv), String.ofList_toList,
      String.ofList_toList]

theorem Entry.not_mem_line {e : Entry} (hw : e.IsWritten) : '\n' ∉ e.chars ++ [';'] := by
  have hkey : '\n' ∉ e.key.toList := fun hmem => absurd (hw.key.2 _ hmem) (by decide)
  rw [Entry.chars]
  cases hv : e.value with
  | none => simp [hkey]
  | some v => simp [hkey, (hw.value v hv).2]

/-! ### Reading a tree -/

namespace Scan

theorem modify_push (nodes : Array Node) (n : Node) (f : Node → Node) :
    (nodes.push n).modify nodes.size f = nodes.push (f n) := by
  apply Array.ext
  · simp
  · intro i _ _
    simp only [Array.getElem_modify, Array.getElem_push]
    grind

/-- **Properties go to the innermost open node**, in order. -/
theorem read_entries {es : List Entry} (hw : ∀ e ∈ es, e.IsWritten) (nodes : Array Node) (n : Node)
    (path : String) (stack : List (Nat × String)) (rest : List Char) :
    Scan.read ⟨nodes.push n, (nodes.size, path) :: stack⟩
        ((String.join (es.map Entry.text)).toList ++ rest) =
      Scan.read
        ⟨nodes.push { n with properties := n.properties ++ es.map fun e => (e.key, e.value) },
          (nodes.size, path) :: stack⟩ rest := by
  induction es generalizing n with
  | nil => simp
  | cons e es ih =>
    obtain ⟨he, hes⟩ := List.forall_mem_cons.1 hw
    have htext : (String.join ((e :: es).map Entry.text)).toList ++ rest =
        e.indent.toList ++ (e.chars ++ [';']) ++
          '\n' :: ((String.join (es.map Entry.text)).toList ++ rest) := by
      simp [Entry.toList_text]
    rw [htext, read_line he.indent (Entry.not_mem_line he) List.getLast?_concat (by decide),
      Entry.ofChars_line he]
    simp only [step, modify_push]
    rw [ih hes]
    simp

/-- **A node is read with all that is below it**, and the stack is left as it was. -/
theorem read_node (head : Head) {entries : List Entry} {below : Forest} {ending : String}
    (hindent : allBlank head.indent.toList = true)
    (hfeed : '\n' ∉ head.labelChars ++ head.nameChars)
    (hline : Line.ofChars (head.labelChars ++ head.nameChars) =
      .opening head.label head.name head.unit)
    (hentries : ∀ e ∈ entries, e.IsWritten) (hending : allBlank ending.toList = true)
    {s : Scan} {path : String} (hpath : childPath s.innermost? head.name head.unit = path)
    {inner : List Node}
    (hbelow : ∀ (s' : Scan) (rest : List Char), s'.innermost? = some path →
      s'.read (below.text.toList ++ rest) = Scan.read ⟨s'.nodes ++ inner.toArray, s'.stack⟩ rest)
    (next : Forest) (rest : List Char) :
    s.read ((Forest.node head entries below ending next).text.toList ++ rest) =
      Scan.read ⟨s.nodes ++ (head.node entries path :: inner).toArray, s.stack⟩
        (next.text.toList ++ rest) := by
  have htext : (Forest.node head entries below ending next).text.toList ++ rest =
      head.indent.toList ++ (head.labelChars ++ head.nameChars) ++
        '\n' :: ((String.join (entries.map Entry.text)).toList ++ (below.text.toList ++
          (ending.toList ++ ['\x7d', ';'] ++ '\n' :: (next.text.toList ++ rest)))) := by
    simp [Forest.text, Head.toList_text]
  have hclosing : Line.ofChars ['\x7d', ';'] = .closing := by decide
  -- The opening pushes a node, the properties and the nodes below leave it open, the end pops it.
  rw [htext, read_line hindent hfeed head.getLast?_line (by decide), hline]
  simp only [step, hpath]
  rw [read_entries hentries, hbelow _ _ rfl, read_line hending (by decide) rfl (by decide),
    hclosing]
  simp [step, Head.node]

end Scan

/-- A path goes on by a slash and a name. -/
theorem childPath_pathOf {above : List String} (h : ∀ n ∈ above, n ≠ "") {name : String}
    (hname : name ≠ "/") (unit : Option String) :
    Scan.childPath (some (pathOf above)) name unit =
      pathOf (above ++ [Scan.fullName name unit]) := by
  rw [Scan.childPath, if_neg hname]
  cases above with
  | nil => simp [pathOf]
  | cons a as =>
    -- A path below the root has a name in it, and so is not the root's.
    have hroot : pathOf (a :: as) ≠ "/" := by
      intro heq
      have hlist := congrArg String.toList heq
      have ha : a = "" := by
        simp [pathOf] at hlist
        exact hlist.1
      exact h a List.mem_cons_self ha
    have hpath : pathOf (a :: as ++ [Scan.fullName name unit]) =
        pathOf (a :: as) ++ ("/" ++ Scan.fullName name unit) := by
      simp [pathOf, String.append_assoc]
    simp only [hroot, if_false]
    rw [hpath, String.append_assoc]

/-- **A forest is read as its nodes**, below the innermost open node. -/
theorem Forest.read_text {f : Forest} (hw : f.IsWritten) {above : List String}
    (habove : ∀ n ∈ above, n ≠ "") {s : Scan} (hs : s.innermost? = some (pathOf above))
    (rest : List Char) :
    s.read (f.text.toList ++ rest) =
      Scan.read ⟨s.nodes ++ (f.nodes above).toArray, s.stack⟩ rest := by
  induction f generalizing above s rest with
  | nil => simp [Forest.text, Forest.nodes]
  | node head entries below ending next ihBelow ihNext =>
    obtain ⟨hhead, hentries, hbelow, hending, hnext⟩ := hw
    have hslash : head.name ≠ "/" := by
      intro heq
      have hmem : '/' ∈ head.name.toList := by simp [heq]
      exact absurd (hhead.name.2 _ hmem) (by decide)
    have hnames : ∀ n ∈ above ++ [Scan.fullName head.name head.unit], n ≠ "" := by
      intro n hn
      rcases List.mem_append.1 hn with hn | hn
      · exact habove n hn
      · rw [List.mem_singleton.1 hn, ne_eq, ← String.toList_eq_nil_iff, toList_fullName,
          List.append_eq_nil_iff, String.toList_eq_nil_iff]
        exact fun h => hhead.name.1 h.1
    have hpath : Scan.childPath s.innermost? head.name head.unit =
        pathOf (above ++ [Scan.fullName head.name head.unit]) := by
      rw [hs, childPath_pathOf habove hslash]
    rw [Scan.read_node head hhead.indent (Head.not_mem_line hhead hhead.gap.2 (by decide))
      (Head.ofChars_line hhead) hentries hending hpath
      fun s' rest hs' => ihBelow hbelow hnames hs' rest]
    -- The stack is as it was, so what follows is still read below the same node.
    have hnextRead := fun ns => ihNext hnext habove (s := ⟨ns, s.stack⟩) hs rest
    rw [hnextRead]
    simp [Forest.nodes]

/-- **A tree is read as its nodes.** -/
theorem Tree.nodes_text {t : Tree} (hw : t.IsWritten) : DeviceTree.nodes t.text = t.nodes := by
  have habove : ∀ n ∈ ([] : List String), n ≠ "" := by simp
  have hbelow : ∀ (s : Scan) (rest : List Char), s.innermost? = some "/" →
      s.read (t.below.text.toList ++ rest) =
        Scan.read ⟨s.nodes ++ (t.below.nodes []).toArray, s.stack⟩ rest :=
    fun s rest hs => Forest.read_text hw.below habove hs rest
  have hroot : Head.labelChars { indent := t.indent, name := "/" } ++
      Head.nameChars { indent := t.indent, name := "/" } = ['/', ' ', '\x7b'] := by
    simp [Head.labelChars, Head.nameChars, Scan.fullName]
  have hfeed : '\n' ∉ ['/', ' ', '\x7b'] := by decide
  have hline : Line.ofChars ['/', ' ', '\x7b'] = .opening none "/" none := by decide
  have hpath : Scan.childPath (Scan.innermost? {}) "/" none = "/" := rfl
  have hread := Scan.read_node { indent := t.indent, name := "/" } hw.indent (hroot ▸ hfeed)
    (hroot ▸ hline) hw.entries hw.ending hpath hbelow .nil []
  rw [List.append_nil, List.append_nil, Forest.text_nil, String.toList_empty, Scan.read_nil]
    at hread
  rw [DeviceTree.nodes, lines]
  have hnodes := congrArg (fun s : Scan => s.nodes.toList) hread
  simpa [Scan.read, Tree.text, Tree.forest, Tree.nodes, Head.node] using hnodes

/-! ### Quoted texts -/

/-- Whether every quote and every backslash of a text is part of an escape. -/
inductive IsEscaped : List Char → Prop where
  /-- The empty text. -/
  | nil : IsEscaped []
  /-- A character that needs no escape. -/
  | plain {c : Char} {cs : List Char} : c ≠ '"' → c ≠ '\\' → IsEscaped cs → IsEscaped (c :: cs)
  /-- An escape. -/
  | escape (c : Char) {cs : List Char} : IsEscaped cs → IsEscaped ('\\' :: c :: cs)

/-- A list of quoted texts, each with what stands between it and the next one: a comma between
blanks, and nothing behind the last. -/
def quotedList (items : List (String × String)) : String :=
  String.join (items.map fun q => "\"" ++ q.1 ++ "\"" ++ q.2)

/-- **A quoted text is read up to the quote that closes it.** -/
theorem quotedBody?_run {t : List Char} (h : IsEscaped t) (hfeed : '\n' ∉ t)
    (read rest : List Char) :
    quotedBody? read (t ++ '"' :: rest) = some (read.reverse ++ t, rest) := by
  induction h generalizing read with
  | nil => simp [quotedBody?]
  | @plain c cs hquote hslash _ ih =>
    rw [List.mem_cons, not_or] at hfeed
    have hstep : quotedBody? read (c :: (cs ++ '"' :: rest)) =
        quotedBody? (c :: read) (cs ++ '"' :: rest) := by
      rw [quotedBody?.eq_def]
      split <;> simp_all
    rw [List.cons_append, hstep, ih hfeed.2]
    simp
  | @escape c cs _ ih =>
    rw [List.mem_cons, List.mem_cons, not_or, not_or] at hfeed
    rw [List.cons_append, List.cons_append, quotedBody?, if_neg (Ne.symm hfeed.2.1), ih hfeed.2.2]
    simp

theorem quotedTextsFrom_length (cs rest : List Char) :
    quotedTextsFrom cs.length (cs ++ rest) = quotedTextsFrom 0 rest := by
  induction cs with
  | nil => rfl
  | cons c cs ih => exact ih

theorem quotedTextsFrom_append {cs : List Char} (h : '"' ∉ cs) (rest : List Char) :
    quotedTextsFrom 0 (cs ++ rest) = quotedTextsFrom 0 rest := by
  induction cs with
  | nil => rfl
  | cons c cs ih =>
    rw [List.mem_cons, not_or] at h
    rw [List.cons_append, quotedTextsFrom, if_neg (Ne.symm h.1), ih h.2]

theorem quotedTextsFrom_quoted {t : List Char} (h : IsEscaped t) (hfeed : '\n' ∉ t)
    (rest : List Char) :
    quotedTextsFrom 0 ('"' :: (t ++ '"' :: rest)) = t :: quotedTextsFrom 0 rest := by
  have hlength : (t ++ ['"']).length = t.length + 1 := by simp
  have hsplit : t ++ '"' :: rest = (t ++ ['"']) ++ rest := by simp
  rw [quotedTextsFrom, if_pos rfl, quotedBody?_run h hfeed]
  simp only [List.reverse_nil, List.nil_append]
  rw [hsplit, ← hlength, quotedTextsFrom_length]

/-- **The texts of a list are read from it**, with their escapes as they are. -/
theorem quotedTexts_quotedList {items : List (String × String)}
    (h : ∀ q ∈ items, IsEscaped q.1.toList ∧ '"' ∉ q.2.toList)
    (hfeed : '\n' ∉ (quotedList items).toList) :
    quotedTexts (quotedList items).toList = items.map fun q => q.1.toList := by
  induction items with
  | nil => rfl
  | cons q items ih =>
    obtain ⟨⟨hq, hbetween⟩, h⟩ := List.forall_mem_cons.1 h
    have hlist : (quotedList (q :: items)).toList =
        '"' :: (q.1.toList ++ '"' :: (q.2.toList ++ (quotedList items).toList)) := by
      simp [quotedList]
    rw [hlist] at hfeed ⊢
    simp only [List.mem_cons, List.mem_append, not_or] at hfeed
    obtain ⟨-, hqfeed, -, -, hfeed⟩ := hfeed
    rw [quotedTexts, quotedTextsFrom_quoted hq hqfeed, quotedTextsFrom_append hbetween]
    exact congrArg (q.1.toList :: ·) (ih h hfeed)

theorem Entry.not_mem_value {es : List Entry} (hw : ∀ e ∈ es, e.IsWritten)
    {p : String × Option String} (hp : p ∈ es.map fun e => (e.key, e.value)) :
    ∀ v ∈ p.2, '\n' ∉ v.toList := by
  obtain ⟨e, he, rfl⟩ := List.mem_map.1 hp
  exact fun v hv => ((hw e he).value v hv).2

theorem Forest.not_mem_value {f : Forest} (hw : f.IsWritten) {above : List String} {n : Node}
    (hn : n ∈ f.nodes above) {p : String × Option String} (hp : p ∈ n.properties) :
    ∀ v ∈ p.2, '\n' ∉ v.toList := by
  induction f generalizing above with
  | nil => simp [Forest.nodes] at hn
  | node head entries below ending next ihBelow ihNext =>
    obtain ⟨-, hentries, hbelow, -, hnext⟩ := hw
    rw [Forest.nodes, List.mem_append, List.mem_cons] at hn
    rcases hn with (rfl | hn) | hn
    · exact Entry.not_mem_value hentries hp
    · exact ihBelow hbelow hn
    · exact ihNext hnext hn

/-- **Device trees read back.** A tree is read as its nodes, each with its name, its unit address,
its label, its path and its properties. Where the first property of a key holds a list of quoted
texts, these are the texts of the key. -/
theorem Tree.readsBack {t : Tree} (hw : t.IsWritten) :
    DeviceTree.nodes t.text = t.nodes ∧
      ∀ n ∈ t.nodes, ∀ (before after : List (String × Option String)) (key : String)
        (items : List (String × String)),
        n.properties = before ++ (key, some (quotedList items)) :: after →
        (∀ p ∈ before, p.1 ≠ key) →
        (∀ q ∈ items, IsEscaped q.1.toList ∧ '"' ∉ q.2.toList) →
        n.texts key = items.map (·.1) := by
  refine ⟨Tree.nodes_text hw, fun n hn before after key items hproperties hbefore hitems => ?_⟩
  have hmem : (key, some (quotedList items)) ∈ n.properties := by simp [hproperties]
  -- A value stands on a line, so no quoted text is broken off by a line feed.
  have hfeed : '\n' ∉ (quotedList items).toList := by
    rcases List.mem_cons.1 hn with rfl | hn
    · exact Entry.not_mem_value hw.entries hmem _ rfl
    · exact Forest.not_mem_value hw.below hn hmem _ rfl
  have hnone : Members.get? before key = none := by
    rw [Members.get?_eq_none_iff]
    rintro hkey
    obtain ⟨p, hp, heq⟩ := List.mem_map.1 hkey
    exact hbefore p hp heq
  have hraw : n.raw? key = some (quotedList items) := by
    rw [Node.raw?, hproperties, Members.get?_append, hnone, Option.none_or, Members.get?_cons,
      if_pos rfl]
    rfl
  rw [Node.texts, hraw]
  simp only [quotedTexts_quotedList hitems hfeed]
  rw [List.map_map]
  exact List.map_congr_left fun q _ => String.ofList_toList

/-- A root with a list of texts, a node with a label and a unit address, and one below it with a
value that looks like structure. -/
def boardTree : Tree where
  entries := [{ indent := "\t", key := "model", value := some "\"a\", \"\\\"b\"" }]
  below :=
    .node { indent := "\n\t", label := some "uart2", name := "serial", unit := some "ff570000" }
      [{ indent := "\t\t", key := "no-map" }]
      (.node { indent := "\n\t\t", name := "port" }
        [{ indent := "\t\t\t", key := "note", value := some "x = \x7b\x7d;" }] .nil "\t\t" .nil)
      "\t" .nil

theorem isWritten_boardTree : boardTree.IsWritten := by
  have hlabel : IsLabel "uart2" :=
    ⟨'u', ['a', 'r', 't', '2'], by decide, by decide, List.all_eq_true.1 (by decide)⟩
  have hport : Head.IsWritten { indent := "\n\t\t", name := "port" } :=
    ⟨by decide, by simp, by decide, ⟨by decide, List.all_eq_true.1 (by decide)⟩, by decide⟩
  have hserial : Head.IsWritten
      { indent := "\n\t", label := some "uart2", name := "serial", unit := some "ff570000" } :=
    ⟨by decide, by simpa using hlabel, by decide, ⟨by decide, List.all_eq_true.1 (by decide)⟩,
      fun u hu => Option.some.inj hu ▸ ⟨by decide, List.all_eq_true.1 (by decide)⟩⟩
  have hentry (e : Entry) (h : allBlank e.indent.toList = true ∧
      (e.key ≠ "" ∧ e.key.toList.all isKeyChar = true) ∧
        ∀ v ∈ e.value, trim v = v ∧ '\n' ∉ v.toList) : ∀ e' ∈ [e], e'.IsWritten :=
    fun e' he' => List.mem_singleton.1 he' ▸ ⟨h.1, ⟨h.2.1.1, List.all_eq_true.1 h.2.1.2⟩, h.2.2⟩
  exact
    { indent := by decide
      entries := hentry _ (by decide)
      below := ⟨hserial, hentry _ (by decide),
        ⟨hport, hentry _ (by decide), trivial, by decide, trivial⟩, by decide, trivial⟩
      ending := by decide }

theorem readsBack_boardTree :
    (DeviceTree.nodes boardTree.text).map (·.path) =
        ["/", "/serial@ff570000", "/serial@ff570000/port"] ∧
      ∃ root ∈ DeviceTree.nodes boardTree.text, root.texts "model" = ["a", "\\\"b"] := by
  obtain ⟨hnodes, htexts⟩ := Tree.readsBack isWritten_boardTree
  rw [hnodes]
  refine ⟨by decide, _, List.mem_cons_self, ?_⟩
  refine htexts _ List.mem_cons_self [] [] "model" [("a", ", "), ("\\\"b", "")] (by decide) ?_ ?_
  · simp
  · have ha : "a".toList = ['a'] := by decide
    have hb : "\\\"b".toList = ['\\', '"', 'b'] := by decide
    intro q hq
    simp only [List.mem_cons, List.not_mem_nil, or_false] at hq
    rcases hq with rfl | rfl
    · exact ⟨ha ▸ .plain (by decide) (by decide) .nil, by decide⟩
    · exact ⟨hb ▸ .escape '"' (.plain (by decide) (by decide) .nil), by decide⟩

end FirmwareSurvey.DeviceTree
