import FirmwareSurvey.Proofs.Storage.Vacant
import FirmwareSurvey.Proofs.Text.Glob
import FirmwareSurvey.Storage.Find
import Mathlib.Data.List.Nodup

/-!
# What a query finds

Whatever lies below a directory has a path through the directory and the names that lead to it
(`mem_below_iff`), so that the last of these names is the name of the path
(`fileName_of_mem_below`); in tidy storage that path leads to it, if it is a file
(`Opens.resolve_pathBelow`). The first thing that a query finds is among all that it finds, and
among all that any query finds which asks for less (`mem_find_of_first?`).

What a query accepts is told by cutting names into pieces (`accepts_iff`). A name without a line
feed matches a pattern just as the pattern reads, but a line feed in a name can be matched by none
but itself: a star by itself does not match a name that has one (`fits_not_accepted`).
-/

namespace FirmwareSurvey.Storage

open FirmwareSurvey.Path

variable {s : Storage} {root : Path} {e : Entry} {p : Path}

/-! ### Below a directory -/

/-- **What lies below a directory** is what storage holds behind the location of the directory; its
path goes through the directory and the names that lead on. -/
theorem mem_below_iff : e ∈ s.below root ↔ ∃ D, s.Opens root D ∧ (D ++ e.names, e.node) ∈ s.nodes ∧
    e.names ≠ [] ∧ e.path = pathBelow root e.names := by
  rw [below]
  split
  · rename_i D mode hresolve
    have hopens : s.Opens root D := ⟨mode, hresolve⟩
    rw [Sorting.mem_sort, List.mem_filterMap]
    constructor
    · rintro ⟨q, hq, hentry⟩
      split at hentry
      · cases hentry
      · rename_i hnames
        split at hentry
        · rename_i hprefix
          cases hentry
          obtain ⟨rest, hrest⟩ := List.isPrefixOf_iff_prefix.1 hprefix
          refine ⟨D, hopens, ?_, hnames, rfl⟩
          rw [← hrest, List.drop_left, hrest]
          exact hq
        · cases hentry
    · -- the path opens no other location
      rintro ⟨D', hopens', hmem, hne, hpath⟩
      obtain rfl : D = D' :=
        Option.some.inj (hopens.opened?_eq.symm.trans hopens'.opened?_eq)
      refine ⟨_, hmem, ?_⟩
      rw [List.drop_left]
      split
      · exact absurd ‹_› hne
      · rw [if_pos (by simp), ← hpath]
  · rename_i hno
    refine iff_of_false (by simp) ?_
    rintro ⟨D, ⟨mode, hresolve⟩, -⟩
    exact hno D mode hresolve

theorem text_child_ne_empty (hroot : root.text ≠ "") (name : String) :
    (root.child name).text ≠ "" := by
  rw [child, join]
  split
  · rename_i habsolute
    intro hempty
    rw [isAbsolute, hempty] at habsolute
    cases habsolute
  · split
    · rename_i hempty
      exact absurd (by simpa using hempty) hroot
    · split <;> simp [hroot]

theorem text_pathBelow_ne_empty (hroot : root.text ≠ "") (names : List String) :
    (pathBelow root names).text ≠ "" := by
  induction names generalizing root with
  | nil => exact hroot
  | cons name names ih => exact ih (text_child_ne_empty hroot name)

theorem pathBelow_cons (p : Path) (name : String) (names : List String) :
    pathBelow p (name :: names) = pathBelow (p.child name) names := rfl

theorem pathBelow_concat (p : Path) (above : List String) (name : String) :
    pathBelow p (above ++ [name]) = (pathBelow p above).child name := by
  rw [pathBelow, List.foldl_append]
  rfl

/-- **The last name that leads to something is the name of its path.** -/
theorem fileName_pathBelow (hroot : root.text ≠ "") (above : List String) {name : String}
    (hname : IsName name) : (pathBelow root (above ++ [name])).fileName = name := by
  have hstep := hname.step
  have hslash : name ≠ "/" := fun h => hname.slash (h ▸ by decide)
  simp only [isStep, Bool.and_eq_true, bne_iff_ne, ne_eq] at hstep
  rw [pathBelow_concat, fileName, fileName?,
    getLast?_parts_child (text_pathBelow_ne_empty hroot above) hname]
  simp [hname.upwards, hslash, hstep.2]

/-- Whether storage is one that a system could hold: each node lies in a directory, under a name,
and no location is taken twice. -/
structure IsTidy (s : Storage) : Prop where
  /-- Each node lies in a directory. -/
  tree : s.IsTree
  /-- Each node lies under a name. -/
  names : ∀ q ∈ s.nodes, ∀ name ∈ q.1, IsName name
  /-- No location is taken twice. -/
  once : (s.nodes.map (·.1)).Nodup

variable {dir : Path} {D l : Location}

theorem mem_nodes_of_at? {n : Node} (hl : l ≠ []) (h : s.at? l = some n) : (l, n) ∈ s.nodes := by
  rw [at?, if_neg hl] at h
  obtain ⟨q, hq, rfl⟩ := Option.map_eq_some_iff.1 h
  have hlocation : q.1 = l := by simpa using List.find?_some hq
  rw [← hlocation]
  exact List.mem_of_find?_eq_some hq

theorem IsTidy.at?_eq_some_iff (htidy : s.IsTidy) {n : Node} (hl : l ≠ []) :
    s.at? l = some n ↔ (l, n) ∈ s.nodes := by
  refine ⟨mem_nodes_of_at? hl, fun h => ?_⟩
  have hsome : (s.nodes.find? (·.1 = l)).isSome = true := by
    rw [List.find?_isSome]
    exact ⟨_, h, by simp⟩
  obtain ⟨q, hq⟩ := Option.isSome_iff_exists.1 hsome
  have hlocation : q.1 = l := by simpa using List.find?_some hq
  have hsame : q = (l, n) :=
    List.inj_on_of_nodup_map htidy.once (List.mem_of_find?_eq_some hq) h hlocation
  rw [at?, if_neg hl, hq, hsame]
  rfl

theorem IsTidy.isName (htidy : s.IsTidy) {n : Node} (h : s.at? l = some n) {name : String}
    (hname : name ∈ l) : IsName name :=
  htidy.names _ (mem_nodes_of_at? (List.ne_nil_of_mem hname) h) name hname

/-- **Names lead on through directories**, from an open one to the one around a node. -/
theorem Opens.opens_pathBelow (htidy : s.IsTidy) (h : s.Opens dir D) {names : List String}
    {name : String} (hsome : (s.at? (D ++ names ++ [name])).isSome = true) :
    s.Opens (pathBelow dir names) (D ++ names) := by
  induction names generalizing dir D with
  | nil =>
    rw [List.append_nil]
    exact h
  | cons a names ih =>
    have hassoc : D ++ a :: names = D ++ [a] ++ names := by simp
    rw [hassoc] at hsome ⊢
    obtain ⟨n, hn⟩ := Option.isSome_iff_exists.1 hsome
    obtain ⟨mode, hdir⟩ : ∃ mode, s.at? (D ++ [a]) = some (.directory mode) := by
      obtain ⟨b, rest, hrest⟩ := List.exists_cons_of_ne_nil (l := names ++ [name]) (by simp)
      rw [List.append_assoc, hrest] at hsome
      exact htidy.tree.directory_of_append hsome
    exact ih ⟨mode, h.resolve_child_of_at? (htidy.isName hn (by simp)) hdir (by simp [Node.kind])⟩
      hsome

/-- **Names lead to the file** that lies behind them. -/
theorem Opens.resolve_pathBelow (htidy : s.IsTidy) (h : s.Opens dir D) {names : List String}
    {name : String} {c : Contents} {mode : Nat}
    (hfile : s.at? (D ++ names ++ [name]) = some (.file c mode)) :
    s.resolve true (pathBelow dir (names ++ [name])) =
      .ok (.node (D ++ names ++ [name]) (.file c mode)) := by
  have hsome : (s.at? (D ++ names ++ [name])).isSome = true := by
    rw [hfile]
    rfl
  have hopens := h.opens_pathBelow htidy hsome
  rw [pathBelow_concat]
  exact hopens.resolve_child_of_at? (htidy.isName hfile (by simp)) hfile (by simp [Node.kind])

/-! ### Queries -/

namespace Query

variable {q q' : Query}

theorem matchesAny_iff {patterns : List String} {name : String} :
    matchesAny patterns name = true ↔
      ∃ p ∈ patterns, Text.FitsOnLine p.toList name.toList := by
  simp [matchesAny, Text.glob_iff]

theorem accepts_eq_true_iff : q.accepts e = true ↔ (∀ k ∈ q.kind, e.node.kind = k) ∧
    (∀ d ∈ q.depth, e.names.length ≤ max 1 d) ∧
    (q.wanted = [] ∨ ∃ p ∈ q.wanted, Text.FitsOnLine p.toList e.name.toList) ∧
    ∀ p ∈ q.unwanted, ¬Text.FitsOnLine p.toList e.name.toList := by
  have hunwanted : (!matchesAny q.unwanted e.name) = true ↔
      ∀ p ∈ q.unwanted, ¬Text.FitsOnLine p.toList e.name.toList := by
    rw [Bool.not_eq_true', Bool.eq_false_iff, ne_eq, matchesAny_iff]
    push Not
    rfl
  rw [accepts, Bool.and_eq_true, Bool.and_eq_true, Bool.and_eq_true, Bool.or_eq_true,
    List.isEmpty_iff, matchesAny_iff, hunwanted, and_assoc, and_assoc]
  refine and_congr ?_ (and_congr ?_ Iff.rfl)
  · cases q.kind <;> simp
  · cases q.depth <;> simp

/-- **A query accepts what is of its kind and depth and has a name that it asks for**, where a name
can be cut into pieces for some pattern that is wanted, if there are any, and for none that is
unwanted. A name without a line feed can be cut so exactly when it reads as the pattern. -/
theorem accepts_iff (q : Query) (e : Entry) :
    (q.accepts e = true ↔ (∀ k ∈ q.kind, e.node.kind = k) ∧
      (∀ d ∈ q.depth, e.names.length ≤ max 1 d) ∧
      (q.wanted = [] ∨ ∃ p ∈ q.wanted, Text.FitsOnLine p.toList e.name.toList) ∧
      ∀ p ∈ q.unwanted, ¬Text.FitsOnLine p.toList e.name.toList) ∧
    ('\n' ∉ e.name.toList → ∀ p : String,
      Text.FitsOnLine p.toList e.name.toList ↔ Text.Fits p.toList e.name.toList) :=
  ⟨accepts_eq_true_iff, fun hfeed _ => Text.fitsOnLine_iff_fits hfeed⟩

/-- A library with a name that could be cut in more than one way. -/
def versionedLibrary : Entry :=
  ⟨⟨"lib/librga.so.so.2"⟩, ["librga.so.so.2"], .file ⟨.empty, 0⟩ newFileMode⟩

theorem fits_versionedLibrary :
    '\n' ∉ versionedLibrary.name.toList ∧
      ({ wanted := ["lib?ga*.so*"] } : Query).accepts versionedLibrary = true ∧
      Text.Fits "lib?ga*.so*".toList versionedLibrary.name.toList := by
  have hfeed : '\n' ∉ versionedLibrary.name.toList := by decide
  have haccepts : ({ wanted := ["lib?ga*.so*"] } : Query).accepts versionedLibrary = true := by
    decide
  obtain ⟨hiff, hfits⟩ := accepts_iff { wanted := ["lib?ga*.so*"] } versionedLibrary
  obtain ⟨-, -, hwanted, -⟩ := hiff.1 haccepts
  exact ⟨hfeed, haccepts, (hfits hfeed _).1 (by simpa using hwanted)⟩

/-- A file whose name has a line feed. -/
def brokenName : Entry := ⟨⟨"d/a\nb"⟩, ["a\nb"], .file ⟨.empty, 0⟩ newFileMode⟩

/-- A star could stand for the whole name, but the query does not accept it. -/
theorem fits_not_accepted :
    Text.Fits "*".toList brokenName.name.toList ∧
      ({ wanted := ["*"] } : Query).accepts brokenName = false :=
  ⟨⟨["a\nb".toList], rfl, .cons (.star _) .nil⟩, by decide⟩

theorem exists_of_first? (h : q.first? s root = some p) :
    ∃ e ∈ s.below root, q.accepts e = true ∧ e.path = p := by
  obtain ⟨e, he, rfl⟩ := Option.map_eq_some_iff.1 h
  exact ⟨e, List.mem_of_find?_eq_some he, List.find?_some he, rfl⟩

theorem mem_find_iff : p ∈ q.find s root ↔ ∃ e ∈ s.below root, q.accepts e = true ∧ e.path = p := by
  simp [find, and_assoc]

end Query

end FirmwareSurvey.Storage
