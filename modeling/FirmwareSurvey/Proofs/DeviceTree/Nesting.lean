import FirmwareSurvey.DeviceTree.Node
import FirmwareSurvey.Proofs.DeviceTree.Line
import Mathlib.Data.List.Basic
import Mathlib.Data.List.Induction
import Mathlib.Data.List.Nodup
import Mathlib.Data.List.TakeWhile

/-!
# Nodes inside nodes

Which node stands inside which is a matter of braces: a node stands inside those that are open when
its own opening is read (`surroundings`). The reader does not keep this; it keeps paths, and asks of
two nodes whether the path of one starts with that of the other. The two readings agree as long as
no path occurs twice (`isBelow_iff`, `isChild_iff`): every path is made of that of the innermost
open node and of a name without a slash, so what stands around a node can be read off its path part
by part. A second root inside a node would break that, as its path does not tell what is around it;
but then the path of the root occurs twice.
-/

namespace FirmwareSurvey.DeviceTree

open Text

/-! ### Braces -/

/-- The numbers of the nodes around each node, the innermost first, and of those that are open. -/
structure Nest where
  /-- The nodes around each node, in the order of their openings. -/
  around : List (List Nat) := []
  /-- The nodes that are open, the innermost first. -/
  stack : List Nat := []

/-- Takes one line. -/
def Nest.step (t : Nest) : Line → Nest
  | .opening _ _ _ => { around := t.around ++ [t.stack], stack := t.around.length :: t.stack }
  | .closing => { t with stack := t.stack.tail }
  | .property _ _ | .other => t

/-- The numbers of the nodes around each node of a text, the innermost first. -/
def surroundings (text : String) : List (List Nat) := ((lines text).foldl Nest.step {}).around

/-- A node in its place among the others. -/
structure Placed where
  /-- The node. -/
  node : Node
  /-- How many nodes are opened before it. -/
  number : Nat
  /-- The numbers of the nodes around it, the innermost first. -/
  around : List Nat

/-- The nodes of a text in their places, in the order of their openings. -/
def placed (text : String) : List Placed :=
  (nodes text).mapIdx fun i n => ⟨n, i, ((surroundings text)[i]?).getD []⟩

/-- Whether a node is directly inside another. -/
def Placed.IsInside (p q : Placed) : Prop := p.around.head? = some q.number

/-- Whether a node is inside another, directly or not. -/
def Placed.IsBelow (p q : Placed) : Prop := q.number ∈ p.around

instance (p q : Placed) : Decidable (p.IsInside q) := inferInstanceAs (Decidable (_ = _))

instance (p q : Placed) : Decidable (p.IsBelow q) := inferInstanceAs (Decidable (_ ∈ _))

/-! ### Names have no slash -/

/-- Whether a name and a unit address are such as an opening has: the name is a slash, or it has
none, and the address has none. -/
structure IsPlain (name : String) (unit : Option String) : Prop where
  /-- The name is a slash, or it has none. -/
  name : name = "/" ∨ name ≠ "" ∧ '/' ∉ name.toList
  /-- The address has no slash. -/
  unit : ∀ u ∈ unit, '/' ∉ u.toList

/-- A name is a slash, or a run of name characters behind an ampersand at most. -/
theorem name?_chars {cs name rest : List Char} (h : name? cs = some (name, rest)) :
    name = ['/'] ∨ name ≠ [] ∧ ∀ c ∈ name, c = '&' ∨ isNameChar c = true := by
  have hrun (cs : List Char) : ∀ c ∈ cs.takeWhile isNameChar, c = '&' ∨ isNameChar c = true :=
    fun c hc => .inr (List.mem_takeWhile_imp hc)
  rw [name?.eq_def] at h
  split at h
  · obtain ⟨rfl, -⟩ := Prod.mk.inj (Option.some.inj h)
    exact .inl rfl
  · dsimp only at h
    split at h
    · cases h
    · obtain ⟨rfl, -⟩ := Prod.mk.inj (Option.some.inj h)
      exact .inr ⟨List.cons_ne_nil _ _, List.forall_mem_cons.2 ⟨.inl rfl, hrun _⟩⟩
  · dsimp only at h
    split at h
    · cases h
    · rename_i hne
      obtain ⟨rfl, -⟩ := Prod.mk.inj (Option.some.inj h)
      exact .inr ⟨by simpa using hne, hrun _⟩

theorem name?_isName {cs name rest : List Char} (h : name? cs = some (name, rest)) :
    name = ['/'] ∨ name ≠ [] ∧ '/' ∉ name :=
  (name?_chars h).imp_right fun ⟨hne, hchars⟩ =>
    ⟨hne, fun hmem => absurd (hchars _ hmem) (by decide)⟩

theorem unit?_isUnit {cs unit : List Char} (h : (unit? cs).1 = some unit) : '/' ∉ unit := by
  rw [unit?.eq_def] at h
  split at h
  · dsimp only at h
    split at h
    · cases h
    · obtain rfl := Option.some.inj h
      exact fun hmem => absurd (List.mem_takeWhile_imp hmem) (by decide)
  · cases h

/-- What an opening says is told from its name on. -/
theorem opening?_parts {cs : List Char} {label unit : Option String} {name : String}
    (h : opening? cs = some (.opening label name unit)) :
    ∃ start run rest, name? start = some (run, rest) ∧ name = String.ofList run ∧
      unit = (unit? rest).1.map String.ofList := by
  simp only [opening?] at h
  split at h
  · cases h
  · rename_i run rest hname
    split at h
    · obtain ⟨-, rfl, rfl⟩ := Line.opening.inj (Option.some.inj h)
      exact ⟨_, run, rest, hname, rfl, rfl⟩
    · cases h

theorem opening?_isPlain {cs : List Char} {label unit : Option String} {name : String}
    (h : opening? cs = some (.opening label name unit)) : IsPlain name unit := by
  obtain ⟨start, run, rest, hname, rfl, rfl⟩ := opening?_parts h
  refine ⟨?_, fun u hu => ?_⟩
  · rcases name?_isName hname with rfl | ⟨hne, hslash⟩
    · exact .inl rfl
    · exact .inr ⟨by simpa using hne, by simpa using hslash⟩
  · obtain ⟨run, hrun, rfl⟩ := Option.map_eq_some_iff.1 hu
    simpa using unit?_isUnit hrun

theorem property?_ne_opening {cs : List Char} {label unit : Option String} {name : String} :
    property? cs ≠ some (.opening label name unit) := by
  simp only [property?]
  split
  · simp
  · split
    · simp
    · split <;> simp

/-- A line that says that a node begins has the shape of an opening. -/
theorem opening?_of_ofChars {cs : List Char} {label unit : Option String} {name : String}
    (h : Line.ofChars cs = .opening label name unit) :
    opening? cs = some (.opening label name unit) := by
  rw [Line.ofChars] at h
  split at h
  · rename_i hopening
    rw [hopening, h]
  · split at h
    · cases h
    · cases hproperty : property? cs with
      | none => rw [hproperty] at h; cases h
      | some l =>
        rw [hproperty, Option.getD_some] at h
        exact absurd (h ▸ hproperty) property?_ne_opening

/-- **What opens a node has no slash in its name**, or its name is a slash. -/
theorem ofChars_isPlain {cs : List Char} {label unit : Option String} {name : String}
    (h : Line.ofChars cs = .opening label name unit) : IsPlain name unit :=
  opening?_isPlain (opening?_of_ofChars h)

theorem lines_isPlain {text name : String} {label unit : Option String}
    (h : .opening label name unit ∈ lines text) : IsPlain name unit := by
  obtain ⟨cs, -, hcs⟩ := List.mem_map.1 h
  exact ofChars_isPlain hcs

/-! ### Paths and braces together -/

/-- What the reader knows of a node besides its properties and its label. -/
structure Heading where
  /-- The path. -/
  path : String
  /-- The name. -/
  name : String
  /-- The unit address. -/
  unit : Option String

/-- What the reader knows of a node besides its properties and its label. -/
def Node.heading (n : Node) : Heading := ⟨n.path, n.name, n.unit⟩

/-- What the reader knows of the nodes read so far. -/
def Scan.headings (s : Scan) : List Heading := s.nodes.toList.map Node.heading

variable {hs : List Heading} {around : List (List Nat)} {stack : List Nat} {s : Scan} {t : Nest}

/-- The path of the innermost of the nodes around. -/
def innermostPath? (hs : List Heading) (stack : List Nat) : Option String :=
  stack.head?.bind fun i => hs[i]?.map (·.path)

/-- Whether the innermost of the nodes around comes before the node of a number, and the others are
those around the innermost one. -/
def Linked (around : List (List Nat)) (i : Nat) : List Nat → Prop
  | [] => True
  | j :: rest => j < i ∧ around[j]? = some rest

/-- Nodes in their places: what is around a node hangs together, and paths tell it. -/
structure Nested (hs : List Heading) (around : List (List Nat)) : Prop where
  /-- Every node has its place. -/
  length : hs.length = around.length
  /-- What is around a node hangs together. -/
  linked : ∀ (i : Nat) (stack : List Nat), around[i]? = some stack → Linked around i stack
  /-- A path is made of that of the innermost node around and of the name. -/
  path : ∀ (i : Nat) (h : Heading) (stack : List Nat), hs[i]? = some h →
    around[i]? = some stack → h.path = Scan.childPath (innermostPath? hs stack) h.name h.unit
  /-- Names have no slash. -/
  plain : ∀ h ∈ hs, IsPlain h.name h.unit

theorem Linked.mono {i : Nat} (h : Linked around i stack) (more : List (List Nat)) :
    Linked (around ++ more) i stack := by
  cases stack with
  | nil => trivial
  | cons j rest =>
    refine ⟨h.1, ?_⟩
    rw [List.getElem?_append_left (List.getElem?_eq_some_iff.1 h.2).1, h.2]

theorem innermostPath?_append {i : Nat} (h : Linked around i stack) (hi : i ≤ hs.length)
    (more : List Heading) : innermostPath? (hs ++ more) stack = innermostPath? hs stack := by
  cases stack with
  | nil => rfl
  | cons j rest =>
    have hj : j < hs.length := Nat.lt_of_lt_of_le h.1 hi
    simp only [innermostPath?, List.head?_cons, Option.bind_some, List.getElem?_append_left hj]

/-- **A node is added** inside those that are open. -/
theorem Nested.push (h : Nested hs around) {name : String} {unit : Option String}
    (hstack : Linked around around.length stack) (hplain : IsPlain name unit) :
    Nested (hs ++ [⟨Scan.childPath (innermostPath? hs stack) name unit, name, unit⟩])
      (around ++ [stack]) := by
  -- a place in the longer list is an old one, or the last, which is new
  have hnew (i : Nat) (st : List Nat) (hi : (around ++ [stack])[i]? = some st) :
      around[i]? = some st ∨ i = around.length ∧ st = stack := by
    rcases Nat.lt_trichotomy i around.length with hlt | rfl | hgt
    · rw [List.getElem?_append_left hlt] at hi
      exact .inl hi
    · rw [List.getElem?_concat_length] at hi
      exact .inr ⟨rfl, (Option.some.inj hi).symm⟩
    · rw [List.getElem?_eq_none (by simp; omega)] at hi
      cases hi
  refine ⟨by simp [h.length], fun i st hi => ?_, fun i hd st hhd hi => ?_, fun hd hhd => ?_⟩
  · rcases hnew i st hi with hi | ⟨rfl, rfl⟩
    · exact (h.linked i st hi).mono _
    · exact hstack.mono _
  · rcases hnew i st hi with hi | ⟨rfl, rfl⟩
    · have hlt : i < hs.length := h.length ▸ (List.getElem?_eq_some_iff.1 hi).1
      rw [List.getElem?_append_left hlt] at hhd
      rw [innermostPath?_append (h.linked i st hi) hlt.le]
      exact h.path i hd st hhd hi
    · rw [← h.length, List.getElem?_concat_length] at hhd
      obtain rfl := Option.some.inj hhd
      rw [innermostPath?_append hstack h.length.ge]
  · rcases List.mem_append.1 hhd with hhd | hhd
    · exact h.plain hd hhd
    · obtain rfl := List.mem_singleton.1 hhd
      exact hplain

/-- What the reader keeps, and what the braces tell. -/
structure Joint (s : Scan) (t : Nest) : Prop where
  /-- The nodes read so far are in their places. -/
  nested : Nested s.headings t.around
  /-- The same nodes are open. -/
  stack : s.stack.map (·.1) = t.stack
  /-- The reader has the paths of those that are open. -/
  paths : ∀ e ∈ s.stack, s.headings[e.1]?.map (·.path) = some e.2
  /-- What is open hangs together. -/
  linked : Linked t.around t.around.length t.stack

/-- A property leaves all else that is told of the nodes as it is. -/
theorem map_nodes_property {α : Type} {f : Node → α}
    (hf : ∀ n properties, f { n with properties } = f n) (key : String) (value : Option String) :
    (s.step (.property key value)).nodes.toList.map f = s.nodes.toList.map f := by
  rw [Scan.step]
  split
  · refine List.ext_getElem? fun i => ?_
    simp only [List.getElem?_map, Array.getElem?_toList, Array.getElem?_modify]
    split
    · rw [Option.map_map]
      exact congrArg (Option.map · _) (funext fun n => hf n _)
    · rfl
  · rfl

theorem headings_property (key : String) (value : Option String) :
    (s.step (.property key value)).headings = s.headings :=
  map_nodes_property (fun _ _ => rfl) key value

theorem stack_property (key : String) (value : Option String) :
    (s.step (.property key value)).stack = s.stack := by
  rw [Scan.step]
  split <;> rfl

/-- The path that the reader has for the innermost open node is that of the node. -/
theorem Joint.innermost? (h : Joint s t) :
    s.innermost? = innermostPath? s.headings t.stack := by
  rw [← h.stack, Scan.innermost?, innermostPath?]
  cases hs : s.stack with
  | nil => rfl
  | cons e rest => exact (h.paths e (by simp [hs])).symm

/-- An opening adds its node, inside the innermost one. -/
theorem Joint.headings_opening (h : Joint s t) (label : Option String) (name : String)
    (unit : Option String) :
    (s.step (.opening label name unit)).headings =
      s.headings ++ [⟨Scan.childPath (innermostPath? s.headings t.stack) name unit, name, unit⟩] := by
  simp [Scan.headings, Scan.step, Node.heading, h.innermost?]

/-- When the innermost node ends, the nodes around it are those that are still open. -/
theorem Nested.linked_tail (h : Nested hs around) (hstack : Linked around around.length stack) :
    Linked around around.length stack.tail := by
  cases stack with
  | nil => trivial
  | cons j rest =>
    obtain ⟨hj, hrest⟩ := hstack
    have hlinked := h.linked j rest hrest
    cases rest with
    | nil => trivial
    | cons k rest => exact ⟨hlinked.1.trans hj, hlinked.2⟩

/-- **Paths and braces stay together** over a line. -/
theorem Joint.step (h : Joint s t) {l : Line}
    (hl : ∀ label name unit, l = .opening label name unit → IsPlain name unit) :
    Joint (s.step l) (t.step l) := by
  have hsize : s.nodes.size = t.around.length := by
    simpa [Scan.headings] using h.nested.length
  cases l with
  | opening label name unit =>
    have hheadings := h.headings_opening label name unit
    refine ⟨hheadings ▸ h.nested.push h.linked (hl _ _ _ rfl), ?_, ?_, ?_⟩
    · simp [Scan.step, Nest.step, h.stack, hsize]
    · -- the new node's path is the one it was read with; the others keep theirs
      intro e he
      rw [hheadings]
      rcases List.mem_cons.1 he with rfl | he
      · rw [hsize, ← h.nested.length, List.getElem?_concat_length, h.innermost?]
        rfl
      · obtain ⟨hd, hhd, hpath⟩ := Option.map_eq_some_iff.1 (h.paths e he)
        rw [List.getElem?_append_left (List.getElem?_eq_some_iff.1 hhd).1, hhd, Option.map_some,
          hpath]
    · simp [Nest.step, Linked]
  | closing =>
    refine ⟨h.nested, ?_, fun e he => h.paths e (List.mem_of_mem_tail he),
      h.nested.linked_tail h.linked⟩
    simp [Scan.step, Nest.step, ← h.stack]
  | property key value =>
    refine ⟨?_, ?_, ?_, h.linked⟩
    · rw [headings_property]
      exact h.nested
    · rw [stack_property]
      exact h.stack
    · rw [headings_property, stack_property]
      exact h.paths
  | other => exact h

theorem joint_empty : Joint {} {} where
  nested := ⟨rfl, by simp, by simp, by simp [Scan.headings]⟩
  stack := rfl
  paths := by simp
  linked := trivial

/-- **Paths and braces stay together** over any lines. -/
theorem joint_run (ls : List Line)
    (hls : ∀ label name unit, .opening label name unit ∈ ls → IsPlain name unit) :
    Joint (Scan.run {} ls) (ls.foldl Nest.step {}) := by
  induction ls using List.reverseRecOn with
  | nil => exact joint_empty
  | append_singleton ls l ih =>
    rw [Scan.run, List.foldl_append, List.foldl_append]
    refine (ih fun label name unit hmem => hls label name unit (by simp [hmem])).step ?_
    rintro label name unit rfl
    exact hls label name unit (by simp)

theorem nested_text (text : String) :
    Nested ((nodes text).map Node.heading) (surroundings text) :=
  (joint_run (lines text) fun _ _ _ => lines_isPlain).nested

/-! ### Nodes in their places -/

variable {text path : String} {p q c : Placed}

theorem placed_nodes (text : String) : (placed text).map (·.node) = nodes text := by
  refine List.ext_getElem? fun i => ?_
  simp [placed, List.getElem?_mapIdx, Function.comp_def]

theorem mem_placed : p ∈ placed text ↔
    (nodes text)[p.number]? = some p.node ∧ (surroundings text)[p.number]? = some p.around := by
  have hlength : (nodes text).length = (surroundings text).length := by
    simpa using (nested_text text).length
  rw [placed, List.mem_mapIdx]
  constructor
  · rintro ⟨i, hi, rfl⟩
    have hi' : i < (surroundings text).length := hlength ▸ hi
    simp [hi, hi']
  · rintro ⟨hnode, haround⟩
    obtain ⟨hi, hnode⟩ := List.getElem?_eq_some_iff.1 hnode
    exact ⟨p.number, hi, by simp [hnode, haround]⟩

/-- A node is known by its number. -/
theorem eq_of_number (hp : p ∈ placed text) (hq : q ∈ placed text) (h : p.number = q.number) :
    p = q := by
  obtain ⟨pn, pi, pa⟩ := p
  obtain ⟨qn, qi, qa⟩ := q
  obtain ⟨hpn, hpa⟩ := mem_placed.1 hp
  obtain ⟨hqn, hqa⟩ := mem_placed.1 hq
  obtain rfl : pi = qi := h
  rw [Placed.mk.injEq]
  exact ⟨Option.some.inj (hpn.symm.trans hqn), rfl, Option.some.inj (hpa.symm.trans hqa)⟩

/-- A node is known by its path, when no path occurs twice. -/
theorem eq_of_path (hnodup : ((nodes text).map (·.path)).Nodup) (hp : p ∈ placed text)
    (hq : q ∈ placed text) (h : p.node.path = q.node.path) : p = q := by
  rw [← placed_nodes, List.map_map] at hnodup
  exact List.inj_on_of_nodup_map hnodup hp hq h

theorem placed_nodup (hnodup : ((nodes text).map (·.path)).Nodup) : (placed text).Nodup := by
  rw [← placed_nodes, List.map_map] at hnodup
  exact hnodup.of_map

/-- **The nodes around a node** are the innermost one and those around it. -/
theorem around_eq (hp : p ∈ placed text) : p.around = [] ∨
    ∃ q ∈ placed text, q.number < p.number ∧ p.around = q.number :: q.around := by
  have hnested := nested_text text
  obtain ⟨-, haround⟩ := mem_placed.1 hp
  have hlinked := hnested.linked _ _ haround
  cases hstack : p.around with
  | nil => exact .inl rfl
  | cons j rest =>
    rw [hstack] at hlinked
    obtain ⟨hj, hrest⟩ := hlinked
    have hlt : j < (nodes text).length := by
      have := (List.getElem?_eq_some_iff.1 hrest).1
      rwa [← hnested.length, List.length_map] at this
    refine .inr ⟨⟨(nodes text)[j], j, rest⟩, mem_placed.2 ⟨?_, hrest⟩, hj, rfl⟩
    exact List.getElem?_eq_getElem hlt

/-- **Induction from the outermost nodes inwards.** -/
theorem placed_induction {motive : (p : Placed) → p ∈ placed text → Prop}
    (outermost : ∀ p hp, p.around = [] → motive p hp)
    (inner : ∀ p hp q hq, q.number < p.number → p.around = q.number :: q.around →
      motive q hq → motive p hp)
    (p : Placed) (hp : p ∈ placed text) : motive p hp := by
  induction hn : p.number using Nat.strongRecOn generalizing p with
  | ind n ih =>
    rcases around_eq hp with haround | ⟨q, hq, hlt, haround⟩
    · exact outermost p hp haround
    · exact inner p hp q hq hlt haround (ih q.number (hn ▸ hlt) q hq rfl)

theorem path_eq (hp : p ∈ placed text) :
    p.node.path = Scan.childPath (innermostPath? ((nodes text).map Node.heading) p.around)
      p.node.name p.node.unit := by
  obtain ⟨hnode, haround⟩ := mem_placed.1 hp
  exact (nested_text text).path _ p.node.heading _ (by simp [hnode]) haround

theorem isPlain_of_mem (hp : p ∈ placed text) : IsPlain p.node.name p.node.unit := by
  refine (nested_text text).plain p.node.heading (List.mem_map_of_mem ?_)
  exact List.mem_of_getElem? (mem_placed.1 hp).1

/-- What stands before the last slash of a path inside another. -/
def above (path : String) : List Char := if path = "/" then [] else path.toList

/-- Whether a text can stand between two slashes of a path. -/
def IsSegment (cs : List Char) : Prop := cs ≠ [] ∧ '/' ∉ cs

theorem fullName_isSegment {name : String} {unit : Option String} (h : IsPlain name unit)
    (hname : name ≠ "/") : IsSegment (Scan.fullName name unit).toList := by
  obtain ⟨hne, hslash⟩ := h.name.resolve_left hname
  cases unit with
  | none => exact ⟨by simpa [Scan.fullName] using hne, hslash⟩
  | some u =>
    have hunit := h.unit u rfl
    simp [Scan.fullName, IsSegment, hslash, hunit]

theorem name_ne_root (hp : p ∈ placed text) (hroot : p.node.path ≠ "/") : p.node.name ≠ "/" := by
  intro hname
  have hpath := path_eq hp
  simp only [hname, Scan.childPath, if_true] at hpath
  exact hroot hpath

/-- The path of a node that is no root and stands in no other has no slash. -/
theorem path_isSegment (hp : p ∈ placed text) (hroot : p.node.path ≠ "/") (h : p.around = []) :
    IsSegment p.node.path.toList := by
  have hname := name_ne_root hp hroot
  have hpath := path_eq hp
  simp only [h, innermostPath?, List.head?_nil, Option.bind_none, Scan.childPath, hname,
    if_false] at hpath
  exact hpath ▸ fullName_isSegment (isPlain_of_mem hp) hname

/-- The name of a node with its unit address. -/
def Node.fullName (n : Node) : String := Scan.fullName n.name n.unit

/-- **A path ends in the full name**, behind the path of the innermost node around and a slash. -/
theorem path_eq_fullName (hp : p ∈ placed text) (hroot : p.node.path ≠ "/") (hq : q ∈ placed text)
    (h : p.around = q.number :: q.around) :
    p.node.path.toList = above q.node.path ++ '/' :: p.node.fullName.toList := by
  have hinner : innermostPath? ((nodes text).map Node.heading) p.around = some q.node.path := by
    simp [innermostPath?, h, (mem_placed.1 hq).1, Node.heading]
  have hpath := path_eq hp
  simp only [hinner, Scan.childPath, name_ne_root hp hroot, if_false] at hpath
  rw [hpath, above, Node.fullName]
  split <;> simp

/-- **A path tells the innermost node around**: it is that node's path, a slash, and what has no
slash. -/
theorem path_eq_above (hp : p ∈ placed text) (hroot : p.node.path ≠ "/") (hq : q ∈ placed text)
    (h : p.around = q.number :: q.around) :
    ∃ cs, IsSegment cs ∧ p.node.path.toList = above q.node.path ++ '/' :: cs :=
  ⟨_, fullName_isSegment (isPlain_of_mem hp) (name_ne_root hp hroot),
    path_eq_fullName hp hroot hq h⟩

/-! ### Below by braces and by paths -/

theorem path_ne_nil (hp : p ∈ placed text) : p.node.path.toList ≠ [] := by
  by_cases hroot : p.node.path = "/"
  · rw [hroot]
    exact List.cons_ne_nil _ _
  · rcases around_eq hp with haround | ⟨q, hq, -, haround⟩
    · exact (path_isSegment hp hroot haround).1
    · obtain ⟨cs, -, hpath⟩ := path_eq_above hp hroot hq haround
      rw [hpath]
      simp

/-- A path that starts with a slash starts at a root: the node itself or one before it. -/
theorem exists_root (hp : p ∈ placed text) (hslash : p.node.path.toList.head? = some '/') :
    ∃ r ∈ placed text, r.node.path = "/" ∧ r.number ≤ p.number := by
  by_cases hroot : p.node.path = "/"
  · exact ⟨p, hp, hroot, le_rfl⟩
  induction p, hp using placed_induction with
  | outermost p hp haround =>
    exact absurd (List.mem_of_mem_head? hslash) (path_isSegment hp hroot haround).2
  | inner p hp q hq hlt haround ih =>
    by_cases hqroot : q.node.path = "/"
    · exact ⟨q, hq, hqroot, hlt.le⟩
    · obtain ⟨cs, -, hpath⟩ := path_eq_above hp hroot hq haround
      rw [hpath, above, if_neg hqroot, List.head?_append_of_ne_nil _ (path_ne_nil hq)] at hslash
      obtain ⟨r, hr, hrroot, hle⟩ := ih hslash hqroot
      exact ⟨r, hr, hrroot, hle.trans hlt.le⟩

/-- What comes after a node below a root is no root, when no path occurs twice. -/
theorem ne_root_of_lt (hnodup : ((nodes text).map (·.path)).Nodup) (hp : p ∈ placed text)
    (hc : c ∈ placed text) (hslash : c.node.path.toList.head? = some '/')
    (hlt : c.number < p.number) : p.node.path ≠ "/" := by
  intro hroot
  obtain ⟨r, hr, hrroot, hle⟩ := exists_root hc hslash
  obtain rfl := eq_of_path hnodup hr hp (hrroot.trans hroot.symm)
  omega

theorem Placed.IsBelow.lt (h : p.IsBelow c) (hp : p ∈ placed text) : c.number < p.number := by
  induction p, hp using placed_induction with
  | outermost p hp haround =>
    rw [Placed.IsBelow, haround] at h
    cases h
  | inner p hp q hq hlt haround ih =>
    rw [Placed.IsBelow, haround, List.mem_cons] at h
    rcases h with h | h
    · exact h ▸ hlt
    · exact (ih h).trans hlt

theorem Placed.IsInside.isBelow (h : p.IsInside q) : p.IsBelow q :=
  List.mem_of_mem_head? h

theorem Placed.IsInside.around_eq (h : p.IsInside q) (hp : p ∈ placed text)
    (hq : q ∈ placed text) : p.around = q.number :: q.around := by
  rcases DeviceTree.around_eq hp with haround | ⟨q', hq', -, haround⟩
  · rw [Placed.IsInside, haround] at h
    cases h
  · rw [Placed.IsInside, haround, List.head?_cons] at h
    obtain rfl := eq_of_number hq' hq (Option.some.inj h)
    exact haround

/-- What a path with a slash behind it starts a longer path with. -/
theorem concat_slash_prefix_iff {as bs cs : List Char} (hcs : '/' ∉ cs) :
    as ++ ['/'] <+: bs ++ '/' :: cs ↔ as = bs ∨ as ++ ['/'] <+: bs := by
  constructor
  · rintro ⟨rest, hrest⟩
    rw [List.append_assoc, List.singleton_append, List.append_eq_append_iff] at hrest
    rcases hrest with ⟨mid, hmid, heq⟩ | ⟨mid, hmid, heq⟩
    · cases mid with
      | nil => exact .inl (by simpa using hmid.symm)
      | cons c mid =>
        obtain ⟨rfl, -⟩ := List.cons.inj heq
        exact .inr ⟨mid, by simp [hmid]⟩
    · cases mid with
      | nil => exact .inl (by simpa using hmid)
      | cons c mid =>
        obtain ⟨-, rfl⟩ := List.cons.inj heq
        simp at hcs
  · rintro (rfl | h)
    · exact ⟨cs, by simp⟩
    · exact h.trans (List.prefix_append _ _)

/-- **A node is below another by its path exactly when it is by the braces**, for a node below a
root and when no path occurs twice. -/
theorem isBelow_iff (hnodup : ((nodes text).map (·.path)).Nodup) (hp : p ∈ placed text)
    (hc : c ∈ placed text) (hslash : c.node.path.toList.head? = some '/')
    (hc0 : c.node.path ≠ "/") : p.node.isBelow c.node.path = true ↔ p.IsBelow c := by
  rw [Node.isBelow, List.isPrefixOf_iff_prefix]
  -- A root lies below nothing; below another node, a path is that of the node around and a name.
  by_cases hroot : p.node.path = "/"
  · refine iff_of_false (fun hstarts => ?_) fun h => ?_
    · have hlength := hstarts.length_le
      have hpos := List.length_pos_iff.2 (path_ne_nil hc)
      rw [hroot, List.length_append, List.length_singleton] at hlength
      have hone : "/".toList.length = 1 := rfl
      omega
    · exact ne_root_of_lt hnodup hp hc hslash (h.lt hp) hroot
  induction p, hp using placed_induction with
  | outermost p hp haround =>
    have hsegment := path_isSegment hp hroot haround
    refine iff_of_false (fun hstarts => hsegment.2 (hstarts.subset (by simp))) ?_
    rw [Placed.IsBelow, haround]
    exact List.not_mem_nil
  | inner p hp q hq hlt haround ih =>
    obtain ⟨cs, hcs, hpath⟩ := path_eq_above hp hroot hq haround
    rw [hpath, concat_slash_prefix_iff hcs.2, Placed.IsBelow, haround, List.mem_cons]
    have hself : c.node.path = q.node.path ↔ c.number = q.number :=
      ⟨fun h => congrArg Placed.number (eq_of_path hnodup hc hq h),
        fun h => congrArg (·.node.path) (eq_of_number hc hq h)⟩
    by_cases hqroot : q.node.path = "/"
    · -- directly inside a root, and no root lies below another node
      have hno : ¬q.IsBelow c := fun h => ne_root_of_lt hnodup hq hc hslash (h.lt hq) hqroot
      have hnot : ¬c.number = q.number := fun h => hc0 ((hself.2 h).trans hqroot)
      refine iff_of_false ?_ (not_or.2 ⟨hnot, hno⟩)
      rw [above, if_pos hqroot]
      simpa using path_ne_nil hc
    · rw [above, if_neg hqroot, String.toList_inj, hself, ih hqroot]
      rfl

/-- The path of the node around, read off a path. -/
theorem parentPath_eq {n : Node} {bs cs : List Char} (hcs : '/' ∉ cs)
    (h : n.path.toList = bs ++ '/' :: cs) :
    n.parentPath = if bs = [] then "/" else String.ofList bs := by
  have hall := bne_of_not_mem (mt List.mem_reverse.1 hcs)
  rw [Node.parentPath, h, List.reverse_append, List.reverse_cons, List.append_assoc,
    List.dropWhile_append_of_pos hall, List.singleton_append,
    List.dropWhile_cons_of_neg (by decide)]
  cases hbs : bs.reverse with
  | nil => simp [List.reverse_eq_nil_iff.1 hbs]
  | cons b rest =>
    have hne : bs ≠ [] := by
      rintro rfl
      cases hbs
    rw [if_neg hne, ← List.reverse_reverse bs, hbs]

theorem parentPath_of_isSegment {n : Node} (h : IsSegment n.path.toList) : n.parentPath = "/" := by
  rw [Node.parentPath, List.dropWhile_eq_nil_iff.2 (bne_of_not_mem (mt List.mem_reverse.1 h.2))]

/-- **A node is a child of a path exactly when it is directly inside the node there**, for a path
below a root and when no path occurs twice. -/
theorem isChild_iff (hnodup : ((nodes text).map (·.path)).Nodup) (hp : p ∈ placed text)
    (hslash : path.toList.head? = some '/') (hpath0 : path ≠ "/") :
    (p.node.path != "/" && p.node.parentPath == path) = true ↔
      ∃ q ∈ placed text, q.node.path = path ∧ p.IsInside q := by
  rw [Bool.and_eq_true, bne_iff_ne, beq_iff_eq]
  constructor
  · rintro ⟨hroot, hparent⟩
    rcases around_eq hp with haround | ⟨q, hq, -, haround⟩
    · have hsegment := path_isSegment hp hroot haround
      exact absurd ((parentPath_of_isSegment hsegment).symm.trans hparent).symm hpath0
    · obtain ⟨cs, hcs, hpath⟩ := path_eq_above hp hroot hq haround
      rw [parentPath_eq hcs.2 hpath] at hparent
      split at hparent
      · exact absurd hparent.symm hpath0
      · rename_i habove
        rw [above] at habove hparent
        split at hparent
        · rename_i hqroot
          exact absurd (if_pos hqroot) habove
        · rw [String.ofList_toList] at hparent
          exact ⟨q, hq, hparent, by simp [Placed.IsInside, haround]⟩
  · rintro ⟨q, hq, rfl, hinside⟩
    have hroot := ne_root_of_lt hnodup hp hq hslash (hinside.isBelow.lt hp)
    obtain ⟨cs, hcs, hpath⟩ := path_eq_above hp hroot hq (hinside.around_eq hp hq)
    refine ⟨hroot, ?_⟩
    rw [parentPath_eq hcs.2 hpath, above, if_neg hpath0, if_neg (path_ne_nil hq),
      String.ofList_toList]

/-! ### The nodes inside a node -/

/-- The nodes directly inside the node at a path, in order. -/
def inside (text path : String) : List Placed :=
  (placed text).filter fun p => ∃ q ∈ placed text, q.node.path = path ∧ p.IsInside q

/-- The nodes inside a node, directly or not, whose names start with a word, in order. -/
def below (text word : String) (c : Placed) : List Placed :=
  (placed text).filter fun p => p.IsBelow c ∧ p.node.isNamed word

variable {word : String}

theorem mem_inside : p ∈ inside text path ↔
    p ∈ placed text ∧ ∃ q ∈ placed text, q.node.path = path ∧ p.IsInside q := by
  rw [inside, List.mem_filter, decide_eq_true_iff]

theorem mem_below : p ∈ below text word c ↔
    p ∈ placed text ∧ p.IsBelow c ∧ p.node.isNamed word = true := by
  rw [below, List.mem_filter, decide_eq_true_iff]

/-- **Children by path are those by the braces.** -/
theorem children_eq (hnodup : ((nodes text).map (·.path)).Nodup)
    (hslash : path.toList.head? = some '/') (hpath0 : path ≠ "/") :
    children (nodes text) path = (inside text path).map (·.node) := by
  rw [children, inside, ← placed_nodes text, List.filter_map]
  refine congrArg _ (List.filter_congr fun p hp => ?_)
  rw [Bool.eq_iff_iff, decide_eq_true_iff]
  exact isChild_iff hnodup hp hslash hpath0

/-- **What lies below a child of a path by its path does so by the braces.** -/
theorem filter_isBelow (hnodup : ((nodes text).map (·.path)).Nodup) (hc : c ∈ placed text)
    (hslash : c.node.path.toList.head? = some '/') (hc0 : c.node.path ≠ "/") (word : String) :
    (nodes text).filter (fun n => n.isBelow c.node.path && n.isNamed word) =
      (below text word c).map (·.node) := by
  rw [below, ← placed_nodes text, List.filter_map]
  refine congrArg _ (List.filter_congr fun p hp => ?_)
  rw [Bool.eq_iff_iff, decide_eq_true_iff, Function.comp_apply, Bool.and_eq_true,
    isBelow_iff hnodup hp hc hslash hc0]

/-- A node inside another has a path that starts with a slash, if the other's does. -/
theorem path_of_mem_inside (hnodup : ((nodes text).map (·.path)).Nodup)
    (hslash : path.toList.head? = some '/') (hc : c ∈ inside text path) :
    c.node.path.toList.head? = some '/' ∧ c.node.path ≠ "/" := by
  obtain ⟨hplaced, q, hq, rfl, hinside⟩ := mem_inside.1 hc
  have hroot := ne_root_of_lt hnodup hplaced hq hslash (hinside.isBelow.lt hplaced)
  obtain ⟨cs, -, hpath⟩ := path_eq_above hplaced hroot hq (hinside.around_eq hplaced hq)
  refine ⟨?_, hroot⟩
  rw [hpath, above]
  split
  · rfl
  · rwa [List.head?_append_of_ne_nil _ (path_ne_nil hq)]

/-- Of two nodes around a node, one is inside the other. -/
theorem Placed.IsBelow.total {d : Placed} (h : p.IsBelow c) (h' : p.IsBelow d)
    (hp : p ∈ placed text) (hc : c ∈ placed text) (hd : d ∈ placed text) :
    c = d ∨ c.IsBelow d ∨ d.IsBelow c := by
  induction p, hp using placed_induction with
  | outermost p hp haround =>
    rw [Placed.IsBelow, haround] at h
    cases h
  | inner p hp q hq hlt haround ih =>
    rw [Placed.IsBelow, haround, List.mem_cons] at h h'
    rcases h with h | h <;> rcases h' with h' | h'
    · exact .inl (eq_of_number hc hd (h.trans h'.symm))
    · obtain rfl := eq_of_number hc hq h
      exact .inr (.inl h')
    · obtain rfl := eq_of_number hd hq h'
      exact .inr (.inr h)
    · exact ih h h'

/-- Of two nodes directly inside a node, none is inside the other. -/
theorem not_isBelow_sibling {d : Placed} (hc : c ∈ placed text) (hd : d ∈ placed text)
    (hq : q ∈ placed text) (hcq : c.IsInside q) (hdq : d.IsInside q) : ¬c.IsBelow d := by
  intro h
  have hlt : q.number < d.number := hdq.isBelow.lt hd
  rw [Placed.IsBelow, hcq.around_eq hc hq, List.mem_cons] at h
  rcases h with h | h
  · omega
  · have : d.number < q.number := Placed.IsBelow.lt h hq
    omega

/-- **Siblings have nothing in common**: what is inside a child of a path is inside no other. -/
theorem eq_of_isBelow {d : Placed} (hnodup : ((nodes text).map (·.path)).Nodup)
    (hc : c ∈ inside text path) (hd : d ∈ inside text path) (hp : p ∈ placed text)
    (hpc : p.IsBelow c) (hpd : p.IsBelow d) : c = d := by
  obtain ⟨hcplaced, q, hq, hqpath, hcq⟩ := mem_inside.1 hc
  obtain ⟨hdplaced, q', hq', hqpath', hdq⟩ := mem_inside.1 hd
  obtain rfl := eq_of_path hnodup hq' hq (hqpath'.trans hqpath.symm)
  rcases hpc.total hpd hp hcplaced hdplaced with heq | hbelow | hbelow
  · exact heq
  · exact absurd hbelow (not_isBelow_sibling hcplaced hdplaced hq' hcq hdq)
  · exact absurd hbelow (not_isBelow_sibling hdplaced hcplaced hq' hdq hcq)

/-- Each node inside the children of a path is met once. -/
theorem nodup_flatMap_below (hnodup : ((nodes text).map (·.path)).Nodup) (word path : String) :
    ((inside text path).flatMap (below text word)).Nodup := by
  have hplaced := placed_nodup hnodup
  refine List.nodup_flatMap.2 ⟨fun c _ => hplaced.filter _, ?_⟩
  refine (hplaced.filter _).pairwise_of_forall_ne fun c hc d hd hne => ?_
  intro p hpc hpd
  obtain ⟨hp, hpc, -⟩ := mem_below.1 hpc
  exact hne (eq_of_isBelow hnodup hc hd hp hpc (mem_below.1 hpd).2.1)

end FirmwareSurvey.DeviceTree
