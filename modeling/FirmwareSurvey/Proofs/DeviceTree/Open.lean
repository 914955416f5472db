import FirmwareSurvey.Proofs.DeviceTree.Nesting

/-!
# Nodes that are open

Any text is read, also one whose braces do not match, so what the reader makes of it is said by its
lines alone. Of two things this needs an account: where a node hangs, and to which node a property
goes. Both are settled by the node that is *innermost*: the last one opened of those still open
(`IsInnermost`). A node is *still open* as long as no stretch of lines behind its opening has more
closings than openings (`IsOpen`); a closing with nothing open closes nothing, so it is not counted
against what is opened later.

The reader keeps a stack instead. A node stands in it as deep as there are openings behind its own
that have not been closed yet (`getElem?_numbers_iff`): that is what a line preserves, an opening
pushing all others down by one and a closing lifting them. So the top of the stack is the innermost
node (`isInnermost_iff`), and what is read is one node for each opening, with the properties read
while it was innermost, below the node that was innermost at its opening (`nodes_isForest`).
-/

namespace FirmwareSurvey.DeviceTree

/-! ### Openings and what is open -/

/-- What an opening says. -/
structure Opening where
  /-- The label. -/
  label : Option String
  /-- The name. -/
  name : String
  /-- The unit address. -/
  unit : Option String
deriving DecidableEq

/-- The line of an opening. -/
def Opening.line (o : Opening) : Line := .opening o.label o.name o.unit

/-- What a line opens. -/
def Line.opened? : Line → Option Opening
  | .opening label name unit => some ⟨label, name, unit⟩
  | _ => none

/-- The openings among lines, in order. -/
def openings (ls : List Line) : List Opening := ls.filterMap Line.opened?

/-- What the opening of a node says. -/
def Node.opening (n : Node) : Opening := ⟨n.label, n.name, n.unit⟩

/-- Whether no stretch at the start of some lines has more closings than openings. -/
def NeverCloses (ls : List Line) : Prop :=
  ∀ part, part <+: ls → part.count .closing ≤ (openings part).length

/-- Whether the node of a number is still open behind some lines. Nodes are numbered in the order of
their openings. -/
def IsOpen (ls : List Line) (i : Nat) : Prop :=
  ∃ before o behind, ls = before ++ Opening.line o :: behind ∧ (openings before).length = i ∧
    NeverCloses behind

/-- Whether the node of a number is the last one opened of those still open behind some lines. -/
def IsInnermost (ls : List Line) (i : Nat) : Prop := IsOpen ls i ∧ ∀ j, IsOpen ls j → j ≤ i

/-- Whether a node is still open with a number of others open inside it. -/
def IsOpenAround (ls : List Line) (i depth : Nat) : Prop :=
  ∃ before o behind, ls = before ++ Opening.line o :: behind ∧ (openings before).length = i ∧
    NeverCloses behind ∧ (openings behind).length = behind.count .closing + depth

variable {ls : List Line} {l : Line} {i : Nat}

@[simp] theorem openings_nil : openings [] = [] := rfl

@[simp] theorem openings_append (ls ls' : List Line) :
    openings (ls ++ ls') = openings ls ++ openings ls' := List.filterMap_append

@[simp] theorem openings_line (o : Opening) : openings [o.line] = [o] := rfl

theorem isOpen_iff : IsOpen ls i ↔ ∃ depth, IsOpenAround ls i depth := by
  constructor
  · rintro ⟨before, o, behind, hls, hi, hbehind⟩
    have hle := hbehind behind (List.prefix_refl _)
    exact ⟨_, before, o, behind, hls, hi, hbehind, (Nat.add_sub_of_le hle).symm⟩
  · rintro ⟨depth, before, o, behind, hls, hi, hbehind, -⟩
    exact ⟨before, o, behind, hls, hi, hbehind⟩

theorem neverCloses_concat : NeverCloses (ls ++ [l]) ↔
    NeverCloses ls ∧ (ls ++ [l]).count .closing ≤ (openings (ls ++ [l])).length := by
  constructor
  · exact fun h => ⟨fun part hpart => h part (hpart.trans (List.prefix_append _ _)),
      h _ (List.prefix_refl _)⟩
  · rintro ⟨hls, hall⟩ part hpart
    rcases List.prefix_concat_iff.1 hpart with rfl | hpart
    · exact hall
    · exact hls part hpart

/-- **What a line does to the nodes that are open**: it may open one, and it moves all others by the
same number of levels. -/
theorem isOpenAround_concat {depth : Nat} : IsOpenAround (ls ++ [l]) i depth ↔
    (∃ o, l = Opening.line o ∧ i = (openings ls).length ∧ depth = 0) ∨
      ∃ d, IsOpenAround ls i d ∧ d + (openings [l]).length = depth + [l].count .closing := by
  constructor
  · rintro ⟨before, o, behind, hls, hi, hbehind, hdepth⟩
    -- the last line is the one that opens the node, or it stands behind that one
    rcases List.eq_nil_or_concat behind with rfl | ⟨behind, l', rfl⟩
    · obtain ⟨rfl, hl⟩ := List.append_inj' hls rfl
      exact .inl ⟨o, List.singleton_inj.1 hl, hi.symm, by simpa using hdepth.symm⟩
    · rw [List.concat_eq_append] at hls hbehind hdepth
      rw [← List.cons_append, ← List.append_assoc] at hls
      obtain ⟨rfl, hl⟩ := List.append_inj' hls rfl
      obtain rfl := List.singleton_inj.1 hl
      obtain ⟨hbehind, -⟩ := neverCloses_concat.1 hbehind
      have hle := hbehind behind (List.prefix_refl _)
      rw [openings_append, List.length_append, List.count_append] at hdepth
      exact .inr ⟨(openings behind).length - behind.count .closing,
        ⟨before, o, behind, rfl, hi, hbehind, by omega⟩, by omega⟩
  · rintro (⟨o, rfl, rfl, rfl⟩ | ⟨d, ⟨before, o, behind, rfl, hi, hbehind, hd⟩, hdepth⟩)
    · refine ⟨ls, o, [], rfl, rfl, fun part hpart => ?_, rfl⟩
      rw [List.prefix_nil.1 hpart]
      exact Nat.zero_le _
    · have hcount : (openings (behind ++ [l])).length =
          (behind ++ [l]).count .closing + depth := by
        rw [openings_append, List.length_append, List.count_append]
        omega
      exact ⟨before, o, behind ++ [l], by simp, hi, neverCloses_concat.2 ⟨hbehind, by omega⟩,
        hcount⟩

/-- A line that opens nothing leaves all nodes where they are, or lifts all of them by a level. -/
theorem isOpenAround_concat_of_opened? {depth : Nat} (h : l.opened? = none) :
    IsOpenAround (ls ++ [l]) i depth ↔ IsOpenAround ls i (depth + [l].count .closing) := by
  have hopenings : openings [l] = [] := by simp [openings, h]
  rw [isOpenAround_concat, hopenings]
  constructor
  · rintro (⟨o, rfl, -⟩ | ⟨d, hopen, rfl⟩)
    · cases h
    · exact hopen
  · exact fun hopen => .inr ⟨_, hopen, rfl⟩

/-- A node that is opened has no others inside it yet. -/
theorem isOpenAround_opening_zero {label : Option String} {name : String} {unit : Option String} :
    IsOpenAround (ls ++ [.opening label name unit]) i 0 ↔ i = (openings ls).length := by
  have hcount : (openings [Line.opening label name unit]).length = 1 := rfl
  rw [isOpenAround_concat, hcount]
  constructor
  · rintro (⟨-, -, hi, -⟩ | ⟨d, -, hd⟩)
    · exact hi
    · simp at hd
  · exact fun hi => .inl ⟨⟨label, name, unit⟩, rfl, hi, rfl⟩

/-- A node that is opened is one more inside those that are open. -/
theorem isOpenAround_opening_succ {label : Option String} {name : String} {unit : Option String}
    {depth : Nat} :
    IsOpenAround (ls ++ [.opening label name unit]) i (depth + 1) ↔ IsOpenAround ls i depth := by
  have hcount : (openings [Line.opening label name unit]).length = 1 := rfl
  rw [isOpenAround_concat, hcount]
  constructor
  · rintro (⟨-, -, -, hdepth⟩ | ⟨d, hopen, hd⟩)
    · cases hdepth
    · obtain rfl : d = depth := by simpa using hd
      exact hopen
  · exact fun hopen => .inr ⟨depth, hopen, rfl⟩

/-! ### The reader's stack -/

namespace Scan

/-- The reader after some lines. -/
abbrev after (ls : List Line) : Scan := run {} ls

theorem after_concat (ls : List Line) (l : Line) : after (ls ++ [l]) = (after ls).step l := by
  rw [after, run, List.foldl_append]
  rfl

/-- The numbers of the nodes that are open, the innermost first. -/
def numbers (s : Scan) : List Nat := s.stack.map (·.1)

/-- **One node for each opening.** -/
theorem map_opening_after (ls : List Line) :
    (after ls).nodes.toList.map Node.opening = openings ls := by
  induction ls using List.reverseRecOn with
  | nil => rfl
  | append_singleton ls l ih =>
    rw [after_concat, openings_append, ← ih]
    cases l with
    | opening label name unit => simp [step, Node.opening, openings, Line.opened?]
    | closing => simp [step, openings, Line.opened?]
    | other => simp [step, openings, Line.opened?]
    | property key value =>
      rw [map_nodes_property (fun _ _ => rfl)]
      simp [openings, Line.opened?]

theorem size_after (ls : List Line) : (after ls).nodes.size = (openings ls).length := by
  rw [← map_opening_after, List.length_map, Array.length_toList]

theorem numbers_opening (s : Scan) (label : Option String) (name : String) (unit : Option String) :
    (s.step (.opening label name unit)).numbers = s.nodes.size :: s.numbers := rfl

theorem numbers_closing (s : Scan) : (s.step .closing).numbers = s.numbers.tail := List.map_tail

theorem numbers_property (s : Scan) (key : String) (value : Option String) :
    (s.step (.property key value)).numbers = s.numbers := by
  rw [numbers, stack_property, numbers]

theorem size_property (s : Scan) (key : String) (value : Option String) :
    (s.step (.property key value)).nodes.size = s.nodes.size := by
  simpa using congrArg List.length (map_nodes_property (f := Node.path) (fun _ _ => rfl) key value)

theorem numbers_other (s : Scan) : (s.step .other).numbers = s.numbers := rfl

/-- **A node stands in the stack as deep as there are others open inside it.** -/
theorem getElem?_numbers_iff (ls : List Line) {i depth : Nat} :
    (after ls).numbers[depth]? = some i ↔ IsOpenAround ls i depth := by
  induction ls using List.reverseRecOn generalizing i depth with
  | nil =>
    refine iff_of_false (by simp [numbers, run]) ?_
    rintro ⟨before, o, behind, hls, -⟩
    simp at hls
  | append_singleton ls l ih =>
    rw [after_concat]
    cases l with
    | opening label name unit =>
      -- the new node goes on top, and all others have one more above them
      rw [numbers_opening, size_after]
      cases depth with
      | zero => rw [List.getElem?_cons_zero, Option.some.injEq, isOpenAround_opening_zero, eq_comm]
      | succ depth => rw [List.getElem?_cons_succ, ih, isOpenAround_opening_succ]
    | closing =>
      -- what was on top is gone, so all others have one less above them
      rw [numbers_closing, List.getElem?_tail, ih, isOpenAround_concat_of_opened? rfl]
      rfl
    | property key value =>
      rw [numbers_property, ih, isOpenAround_concat_of_opened? rfl]
      rfl
    | other =>
      rw [numbers_other, ih, isOpenAround_concat_of_opened? rfl]
      rfl

theorem mem_numbers_iff : i ∈ (after ls).numbers ↔ IsOpen ls i := by
  rw [List.mem_iff_getElem?, isOpen_iff]
  exact exists_congr fun depth => getElem?_numbers_iff ls

/-- What is opened later lies on top of what was opened before. -/
theorem pairwise_numbers (ls : List Line) :
    ((after ls).nodes.size :: (after ls).numbers).Pairwise (· > ·) := by
  induction ls using List.reverseRecOn with
  | nil => simp [numbers, run]
  | append_singleton ls l ih =>
    rw [after_concat]
    cases l with
    | opening label name unit =>
      have hsize : ((after ls).step (.opening label name unit)).nodes.size =
          (after ls).nodes.size + 1 := Array.size_push _
      rw [numbers_opening, hsize, List.pairwise_cons]
      refine ⟨fun j hj => ?_, ih⟩
      rcases List.mem_cons.1 hj with rfl | hj
      · exact Nat.lt_succ_self _
      · exact Nat.lt_succ_of_lt (List.rel_of_pairwise_cons ih hj)
    | closing =>
      rw [numbers_closing]
      exact ih.sublist (List.Sublist.cons_cons _ (List.tail_sublist _))
    | property key value =>
      rw [numbers_property, size_property]
      exact ih
    | other => exact ih

/-- **The innermost node is on top of the stack.** -/
theorem isInnermost_iff : IsInnermost ls i ↔ (after ls).numbers.head? = some i := by
  have hsorted := (List.pairwise_cons.1 (pairwise_numbers ls)).2
  simp only [IsInnermost, ← mem_numbers_iff]
  cases hnumbers : (after ls).numbers with
  | nil => simp
  | cons j rest =>
    rw [hnumbers] at hsorted
    rw [List.head?_cons, Option.some.injEq]
    constructor
    · rintro ⟨hi, hmax⟩
      rcases List.mem_cons.1 hi with rfl | hi
      · rfl
      · have hlt := List.rel_of_pairwise_cons hsorted hi
        have hle := hmax j List.mem_cons_self
        omega
    · rintro rfl
      refine ⟨List.mem_cons_self, fun k hk => ?_⟩
      rcases List.mem_cons.1 hk with rfl | hk
      · exact Nat.le_refl _
      · exact Nat.le_of_lt (List.rel_of_pairwise_cons hsorted hk)

end Scan

instance (ls : List Line) (i : Nat) : Decidable (IsInnermost ls i) :=
  decidable_of_iff _ Scan.isInnermost_iff.symm

theorem IsInnermost.eq {j : Nat} (h : IsInnermost ls i) (h' : IsInnermost ls j) : i = j :=
  Nat.le_antisymm (h'.2 i h.1) (h.2 j h'.1)

/-- Where nothing is innermost, nothing is open. -/
theorem exists_isInnermost (h : IsOpen ls i) : ∃ j, IsInnermost ls j := by
  have hmem := Scan.mem_numbers_iff.2 h
  cases hnumbers : (Scan.after ls).numbers with
  | nil => simp [hnumbers] at hmem
  | cons j rest => exact ⟨j, Scan.isInnermost_iff.2 (by simp [hnumbers])⟩

theorem IsOpen.lt (h : IsOpen ls i) : i < (openings ls).length := by
  obtain ⟨before, o, behind, rfl, rfl, -⟩ := h
  simp [openings, Opening.line, Line.opened?]

/-! ### The properties of a node -/

/-- The properties that are read while the node of a number is innermost, in order. -/
def recorded (ls : List Line) (i : Nat) : List (String × Option String) :=
  (List.range ls.length).filterMap fun k =>
    match ls[k]? with
    | some (Line.property key value) =>
      if IsInnermost (ls.take k) i then some (key, value) else none
    | _ => none

/-- What a line adds to the properties of a node. -/
theorem recorded_concat (ls : List Line) (l : Line) (i : Nat) :
    recorded (ls ++ [l]) i = recorded ls i ++
      match l with
      | .property key value => if IsInnermost ls i then [(key, value)] else []
      | _ => [] := by
  have hbefore : ∀ k ∈ List.range ls.length,
      (ls ++ [l])[k]? = ls[k]? ∧ (ls ++ [l]).take k = ls.take k := fun k hk => by
    have hlt := List.mem_range.1 hk
    exact ⟨List.getElem?_append_left hlt, List.take_append_of_le_length hlt.le⟩
  rw [recorded, List.length_append, List.length_singleton, List.range_succ,
    List.filterMap_append]
  congr 1
  · refine List.filterMap_congr fun k hk => ?_
    rw [(hbefore k hk).1, (hbefore k hk).2]
  · rw [List.filterMap_cons, List.getElem?_concat_length, List.take_left]
    cases l with
    | property key value => by_cases h : IsInnermost ls i <;> simp [h]
    | _ => rfl

theorem recorded_eq_nil (h : (openings ls).length ≤ i) : recorded ls i = [] := by
  refine List.filterMap_eq_nil_iff.2 fun k _ => ?_
  split
  · refine if_neg fun hinnermost => ?_
    have hlt := hinnermost.1.lt
    have hle : (openings (ls.take k)).length ≤ (openings ls).length :=
      ((List.take_sublist k ls).filterMap _).length_le
    omega
  · rfl

/-- A property goes to the innermost node. -/
theorem Scan.getElem?_property (ls : List Line) (key : String) (value : Option String) :
    ((after ls).step (.property key value)).nodes[i]? = (after ls).nodes[i]?.map fun n =>
      if IsInnermost ls i then { n with properties := n.properties ++ [(key, value)] } else n := by
  rw [step]
  split
  · rename_i j path rest hstack
    have hinnermost : IsInnermost ls i ↔ j = i := by
      rw [isInnermost_iff, numbers, hstack]
      simp
    rw [Array.getElem?_modify]
    by_cases hji : j = i
    · simp [hinnermost, hji]
    · simp [hinnermost, hji]
  · rename_i hstack
    have hnone : ¬IsInnermost ls i := by
      rw [isInnermost_iff, numbers, hstack]
      simp
    simp [hnone]

/-- **A node has what was recorded for it.** -/
theorem Scan.properties_after {n : Node} (hn : (after ls).nodes[i]? = some n) :
    n.properties = recorded ls i := by
  -- by the lines from the last one: a line that opens a node opens one without properties
  induction ls using List.reverseRecOn generalizing n with
  | nil => simp [run] at hn
  | append_singleton ls l ih =>
    rw [after_concat] at hn
    rw [recorded_concat]
    cases l with
    | opening label name unit =>
      rw [step, Array.getElem?_push] at hn
      rw [List.append_nil]
      split at hn
      · rename_i hi
        obtain rfl := Option.some.inj hn
        exact (recorded_eq_nil (by rw [hi, size_after])).symm
      · exact ih hn
    | closing =>
      rw [List.append_nil]
      exact ih hn
    | other =>
      rw [List.append_nil]
      exact ih hn
    | property key value =>
      rw [getElem?_property] at hn
      obtain ⟨m, hm, rfl⟩ := Option.map_eq_some_iff.1 hn
      dsimp only
      split
      · exact congrArg (· ++ [(key, value)]) (ih hm)
      · rw [List.append_nil]
        exact ih hm

/-! ### Where a node hangs -/

theorem Nest.around_prefix_foldl (t : Nest) (ls : List Line) :
    t.around <+: (ls.foldl Nest.step t).around := by
  induction ls generalizing t with
  | nil => exact List.prefix_refl _
  | cons l ls ih =>
    refine List.IsPrefix.trans ?_ (ih _)
    cases l with
    | opening label name unit => exact List.prefix_append _ _
    | _ => exact List.prefix_refl _

/-- **Around a node are those that were open at its opening.** -/
theorem getElem?_surroundings {text : String} {before behind : List Line} {o : Opening}
    (h : lines text = before ++ o.line :: behind) :
    (surroundings text)[(openings before).length]? = some (Scan.after before).numbers := by
  have hplain : ∀ label name unit, .opening label name unit ∈ before → IsPlain name unit :=
    fun label name unit hmem => lines_isPlain (h ▸ List.mem_append_left _ hmem)
  have hjoint := joint_run before hplain
  have hlength : (openings before).length = (before.foldl Nest.step {}).around.length := by
    rw [← hjoint.nested.length, ← Scan.map_opening_after]
    simp [Scan.headings]
  obtain ⟨rest, hrest⟩ :=
    Nest.around_prefix_foldl ((before.foldl Nest.step {}).step o.line) behind
  rw [surroundings, h, List.foldl_append, List.foldl_cons, ← hrest, hlength]
  have haround : ((before.foldl Nest.step {}).step o.line).around =
      (before.foldl Nest.step {}).around ++ [(before.foldl Nest.step {}).stack] := rfl
  rw [haround, List.append_assoc, List.getElem?_append_right (Nat.le_refl _), Nat.sub_self,
    ← hjoint.stack]
  rfl

/-- The path that a node's own path gives for the node around is the path of that node. -/
theorem parentPath_eq_path {text : String} {p q : Placed} (hp : p ∈ placed text)
    (hroot : p.node.path ≠ "/") (hq : q ∈ placed text) (h : p.around = q.number :: q.around) :
    p.node.parentPath = q.node.path := by
  obtain ⟨cs, hcs, hpath⟩ := path_eq_above hp hroot hq h
  rw [parentPath_eq hcs.2 hpath, above]
  by_cases hqroot : q.node.path = "/"
  · rw [if_pos hqroot, if_pos rfl, hqroot]
  · rw [if_neg hqroot, if_neg (path_ne_nil hq), String.ofList_toList]

/-- A node of a text in its place, with what was open at its opening around it. -/
theorem exists_placed {text : String} {before behind : List Line} {o : Opening} {n : Node}
    (h : lines text = before ++ o.line :: behind)
    (hn : (nodes text)[(openings before).length]? = some n) :
    (⟨n, (openings before).length, (Scan.after before).numbers⟩ : Placed) ∈ placed text :=
  mem_placed.2 ⟨hn, getElem?_surroundings h⟩

/-! ### What is read -/

/-- Whether nodes are what some lines open, as far as braces tell. -/
structure IsForest (ls : List Line) (ns : List Node) : Prop where
  /-- There is one node for each opening, in order. -/
  openings : ns.map Node.opening = DeviceTree.openings ls
  /-- Anywhere between the lines nothing is open, or one of the nodes is the innermost. -/
  innermost : ∀ before behind, ls = before ++ behind →
    (∀ i, ¬IsOpen before i) ∨ ∃ i < ns.length, ∀ j, IsInnermost before j ↔ j = i
  /-- A node has the properties that are read while it is innermost, in order. -/
  properties : ∀ i n, ns[i]? = some n → n.properties = recorded ls i
  /-- A node that is no root has a path without a slash when nothing is open at its opening; else it
  is a child of the path of the innermost node, which comes before it, and of no other path. -/
  paths : ∀ before o behind, ls = before ++ Opening.line o :: behind →
    ∀ n, ns[(DeviceTree.openings before).length]? = some n → n.path ≠ "/" →
      (∀ i, ¬IsOpen before i) ∧ '/' ∉ n.path.toList ∨
        ∃ i q, IsInnermost before i ∧ i < (DeviceTree.openings before).length ∧
          ns[i]? = some q ∧ n.parentPath = q.path ∧
            ∀ path, n ∈ children ns path ↔ path = q.path

theorem isForest_nodes (text : String) : IsForest (lines text) (nodes text) where
  openings := Scan.map_opening_after _
  innermost before behind h := by
    by_cases hopen : ∃ i, IsOpen before i
    · obtain ⟨i, hi⟩ := exists_isInnermost hopen.choose_spec
      have hlt : i < (nodes text).length := by
        have hlength := congrArg List.length (Scan.map_opening_after (lines text))
        rw [List.length_map] at hlength
        rw [nodes, hlength, h, openings_append, List.length_append]
        exact Nat.lt_add_right _ hi.1.lt
      exact .inr ⟨i, hlt, fun j => ⟨fun hj => hj.eq hi, fun hj => hj ▸ hi⟩⟩
    · exact .inl fun i hi => hopen ⟨i, hi⟩
  properties i n hn := by
    rw [nodes, Array.getElem?_toList] at hn
    exact Scan.properties_after hn
  paths before o behind h n hn hroot := by
    have hp := exists_placed h hn
    rcases around_eq hp with haround | ⟨q, hq, hlt, haround⟩
    · refine .inl ⟨fun i hi => ?_, (path_isSegment hp hroot haround).2⟩
      have hnumbers : (Scan.after before).numbers = [] := haround
      have hmem := Scan.mem_numbers_iff.2 hi
      rw [hnumbers] at hmem
      cases hmem
    · have hparent := parentPath_eq_path hp hroot hq haround
      have hinnermost : IsInnermost before q.number :=
        Scan.isInnermost_iff.2 (congrArg List.head? haround)
      refine .inr ⟨q.number, q.node, hinnermost, hlt, (mem_placed.1 hq).1, hparent, fun path => ?_⟩
      rw [children, List.mem_filter, Bool.and_eq_true, bne_iff_ne, beq_iff_eq, hparent]
      exact ⟨fun hmem => hmem.2.2.symm, fun hpath => ⟨List.mem_of_getElem? hn, hroot, hpath.symm⟩⟩

/-- **A forest is read from any text.** Its nodes are what the lines open, each with what is
recorded while it is innermost and below what is innermost at its opening; and a closing with
nothing open can be left out. -/
theorem nodes_isForest (text : String) :
    IsForest (lines text) (nodes text) ∧
      ∀ before behind, lines text = before ++ .closing :: behind → (∀ i, ¬IsOpen before i) →
        ∀ text', lines text' = before ++ behind → nodes text' = nodes text := by
  refine ⟨isForest_nodes text, fun before behind h hopen text' h' => ?_⟩
  have hstack : (Scan.after before).stack = [] := by
    cases hstack : (Scan.after before).stack with
    | nil => rfl
    | cons e rest =>
      refine absurd (Scan.mem_numbers_iff.1 ?_) (hopen e.1)
      simp [Scan.numbers, hstack]
  have hclosing : (Scan.after before).step .closing = Scan.after before := by
    rw [Scan.step, hstack, List.tail_nil, ← hstack]
  rw [nodes, nodes, h, h', Scan.run, Scan.run, List.foldl_append, List.foldl_append,
    List.foldl_cons]
  exact congrArg (fun s => (Scan.run s behind).nodes.toList) hclosing.symm

/-- A text with a property outside all nodes and a root inside another node. -/
def trimmedText : String :=
  "model = \"a\";\nuart: serial@1 \x7b\nport \x7b\nreg = <1>;\n\x7d;\n" ++
    "/ \x7b\nstatus;\n\x7d;\n\x7d;\n"

/-- The same text behind a line that closes what was never opened. -/
def strayText : String := "\x7d;\n" ++ trimmedText

theorem nodes_isForest_strayText :
    lines strayText = .closing :: lines trimmedText ∧ (∀ i, ¬IsOpen [] i) ∧
      nodes trimmedText = nodes strayText ∧
      (nodes strayText).map (fun n => (n.path, n.properties)) =
        [("serial@1", []), ("serial@1/port", [("reg", some "<1>")]), ("/", [("status", none)])] ∧
      recorded (lines strayText) 1 = [("reg", some "<1>")] := by
  have hlines : lines strayText = .closing :: lines trimmedText := by decide +kernel
  have hopen : ∀ i, ¬IsOpen [] i := fun i hi => absurd hi.lt (Nat.not_lt_zero i)
  obtain ⟨hforest, hleave⟩ := nodes_isForest strayText
  have hread : (nodes strayText).map (fun n => (n.path, n.properties)) =
      [("serial@1", []), ("serial@1/port", [("reg", some "<1>")]), ("/", [("status", none)])] := by
    decide +kernel
  obtain ⟨n, hn, hproperties⟩ : ∃ n, (nodes strayText)[1]? = some n ∧
      n.properties = [("reg", some "<1>")] := by
    have hget := congrArg (fun ps => ps[1]?) hread
    rw [List.getElem?_map] at hget
    obtain ⟨n, hn, hpair⟩ := Option.map_eq_some_iff.1 hget
    exact ⟨n, hn, congrArg Prod.snd hpair⟩
  exact ⟨hlines, hopen, hleave [] _ hlines hopen trimmedText rfl, hread,
    hforest.properties 1 n hn ▸ hproperties⟩

end FirmwareSurvey.DeviceTree
