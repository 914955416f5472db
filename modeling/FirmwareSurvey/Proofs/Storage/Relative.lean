import FirmwareSurvey.Proofs.Storage.Found
import FirmwareSurvey.Proofs.Storage.Opened

/-!
# Paths as seen from a directory

A path below a directory, as seen from there, takes the steps that are left behind the directory
(`relativeTo_spec`). So from the directory it leads to the file that the path leads to
(`Opens.resolve_relativeTo`). It is written as the path was, though: only behind a directory that is
spelled plainly does it show nothing but steps (`relativeTo_pathBelow`).
-/

namespace FirmwareSurvey

namespace Path

variable {p base : Path} {name : String} {ps : List String}

/-! ### Pieces joined by slashes -/

theorem slash_not_mem_of_mem_pieces (h : name ∈ p.pieces) : '/' ∉ name.toList := by
  obtain ⟨cs, hcs, rfl⟩ := List.mem_map.1 h
  rw [String.toList_ofList]
  exact Text.not_mem_of_mem_cut hcs

theorem slash_not_mem_steps (p : Path) : "/" ∉ p.steps := fun h =>
  slash_not_mem_of_mem_pieces (List.mem_of_mem_filter h) (by decide)

theorem dot_not_mem_steps (p : Path) : "." ∉ p.steps := fun h =>
  absurd (List.mem_filter.1 h).2 (by decide)

theorem pieces_intercalate (hne : ps ≠ []) (h : ∀ a ∈ ps, '/' ∉ a.toList) :
    pieces ⟨"/".intercalate ps⟩ = ps := by
  have hslash : "/".toList = ['/'] := rfl
  have hcut : Text.cut '/' ("/".intercalate ps).toList = ps.map String.toList := by
    rw [String.toList_intercalate, hslash, ← Text.joinWith_eq_intercalate,
      Text.cut_joinWith (by simpa using hne) (List.forall_mem_map.2 h)]
  rw [pieces, Text.splitAt, hcut]
  simp

/-- An absolute path starts with an empty piece. -/
theorem head?_pieces_of_isAbsolute (h : p.isAbsolute = true) : p.pieces.head? = some "" := by
  rw [isAbsolute, beq_iff_eq, List.head?_eq_some_iff] at h
  obtain ⟨cs, hcs⟩ := h
  rw [pieces, Text.splitAt, hcs, Text.cut_cons_self]
  rfl

/-- A relative path that is not empty starts with a dot or has a step. -/
theorem steps_ne_nil (htext : p.text ≠ "") (habsolute : p.isAbsolute = false)
    (hdot : p.pieces.head? ≠ some ".") : p.steps ≠ [] := by
  obtain ⟨c, cs, hcs⟩ := List.exists_cons_of_ne_nil (l := p.text.toList) (by simpa using htext)
  rw [isAbsolute, hcs, beq_eq_false_iff_ne] at habsolute
  have hc : c ≠ '/' := fun hc => habsolute (by rw [hc]; rfl)
  have hpieces : ∃ a as, p.pieces = String.ofList (c :: a) :: as :=
    ⟨_, _, by rw [pieces, Text.splitAt, hcs, Text.cut_cons_of_ne hc]; rfl⟩
  obtain ⟨a, as, hpieces⟩ := hpieces
  have hstep : isStep (String.ofList (c :: a)) = true := by
    have hne : String.ofList (c :: a) ≠ "" := by
      intro hempty
      have := congrArg String.toList hempty
      simp at this
    have hne' : String.ofList (c :: a) ≠ "." := fun heq => hdot (by rw [hpieces, heq]; rfl)
    rw [isStep, Bool.and_eq_true, bne_iff_ne, bne_iff_ne]
    exact ⟨hne, hne'⟩
  rw [steps, hpieces, List.filter_cons_of_pos hstep]
  simp

theorem lead_cases (p : Path) : (p.lead = ["/"] ∧ p.isAbsolute = true) ∨
    (p.lead = ["."] ∧ p.isAbsolute = false) ∨
      (p.lead = [] ∧ p.isAbsolute = false ∧ p.pieces.head? ≠ some ".") := by
  rw [lead]
  split
  · rename_i habsolute
    exact .inl ⟨rfl, habsolute⟩
  · rename_i habsolute
    rw [Bool.not_eq_true] at habsolute
    split
    · exact .inr (.inl ⟨rfl, habsolute⟩)
    · rename_i hdot
      exact .inr (.inr ⟨rfl, habsolute, hdot⟩)

/-- A path whose parts start with those of another one takes the steps of that first. -/
theorem steps_prefix_of_parts (hbase : base.text ≠ "") (h : base.parts <+: p.parts) :
    p.isAbsolute = base.isAbsolute ∧ base.steps <+: p.steps := by
  have hslash := slash_not_mem_steps p
  have hdot := dot_not_mem_steps p
  rw [parts_eq, parts_eq] at h
  rcases base.lead_cases with ⟨hb, hbabs⟩ | ⟨hb, hbabs⟩ | ⟨hb, hbabs, hbdot⟩
  · -- a slash is no step, so both start with the root
    rcases p.lead_cases with ⟨hp, hpabs⟩ | ⟨hp, -⟩ | ⟨hp, -⟩
    · rw [hb, hp, List.prefix_append_right_inj] at h
      exact ⟨hpabs.trans hbabs.symm, h⟩
    · rw [hb, hp] at h
      simp at h
    · rw [hb, hp] at h
      exact absurd (h.subset (by simp)) hslash
  · rcases p.lead_cases with ⟨hp, -⟩ | ⟨hp, hpabs⟩ | ⟨hp, -⟩
    · rw [hb, hp] at h
      simp at h
    · rw [hb, hp, List.prefix_append_right_inj] at h
      exact ⟨hpabs.trans hbabs.symm, h⟩
    · rw [hb, hp] at h
      exact absurd (h.subset (by simp)) hdot
  · -- the first step of the directory is neither the root nor a dot
    obtain ⟨a, as, hsteps⟩ := List.exists_cons_of_ne_nil (steps_ne_nil hbase hbabs hbdot)
    have ha : a ∈ base.steps := by simp [hsteps]
    rcases p.lead_cases with ⟨hp, -⟩ | ⟨hp, -⟩ | ⟨hp, hpabs, -⟩
    · rw [hb, hp, hsteps, List.nil_append, List.singleton_append, List.cons_prefix_cons] at h
      exact absurd (h.1 ▸ ha) (slash_not_mem_steps base)
    · rw [hb, hp, hsteps, List.nil_append, List.singleton_append, List.cons_prefix_cons] at h
      exact absurd (h.1 ▸ ha) (dot_not_mem_steps base)
    · rw [hb, hp] at h
      exact ⟨hpabs.trans hbabs.symm, h⟩

/-! ### What is left behind a directory -/

theorem filter_afterSteps (n : Nat) (ps : List String) :
    (afterSteps n ps).filter isStep = (ps.filter isStep).drop n := by
  induction n, ps using afterSteps.induct with
  | case1 n piece pieces ih =>
    rw [afterSteps, ih]
    by_cases hstep : isStep piece = true
    · rw [if_pos hstep, List.filter_cons_of_pos hstep, List.drop_succ_cons]
    · rw [if_neg hstep, List.filter_cons_of_neg hstep]
  | case2 n ps hno =>
    rw [afterSteps.eq_2 n ps hno]
    cases n with
    | zero => rfl
    | succ n =>
      cases ps with
      | nil => rfl
      | cons a as => exact (hno n a as rfl rfl).elim

theorem afterSteps_suffix (n : Nat) (ps : List String) : afterSteps n ps <:+ ps := by
  induction n, ps using afterSteps.induct with
  | case1 n piece pieces ih =>
    rw [afterSteps]
    exact ih.trans (List.suffix_cons _ _)
  | case2 n ps hno =>
    exact ⟨[], afterSteps.eq_2 n ps hno⟩

theorem filter_dropWhile_not (ps : List String) :
    (ps.dropWhile (!isStep ·)).filter isStep = ps.filter isStep := by
  induction ps with
  | nil => rfl
  | cons a ps ih =>
    by_cases hstep : isStep a = true
    · simp [hstep]
    · simpa [hstep] using ih

theorem filter_trimmed (ps : List String) : (trimmed ps).filter isStep = ps.filter isStep := by
  rw [trimmed, List.filter_reverse, filter_dropWhile_not, List.filter_reverse, List.reverse_reverse,
    filter_dropWhile_not]

theorem mem_of_mem_trimmed (h : name ∈ trimmed ps) : name ∈ ps := by
  rw [trimmed, List.mem_reverse] at h
  exact (List.dropWhile_suffix _).subset (List.mem_reverse.1 ((List.dropWhile_suffix _).subset h))

theorem exists_head?_dropWhile_not (h : ps.filter isStep ≠ []) :
    ∃ a, (ps.dropWhile (!isStep ·)).head? = some a ∧ isStep a = true := by
  rw [← filter_dropWhile_not] at h
  cases hdrop : ps.dropWhile (!isStep ·) with
  | nil => simp [hdrop] at h
  | cons a as =>
    have hhead := List.head?_dropWhile_not (!isStep ·) ps
    rw [hdrop] at hhead
    exact ⟨a, rfl, by simpa using hhead⟩

/-- Pieces that are trimmed start and end in steps, if there are any. -/
theorem ends_trimmed (h : ps.filter isStep ≠ []) :
    (∃ a, (trimmed ps).head? = some a ∧ isStep a = true) ∧
      ∃ a, (trimmed ps).getLast? = some a ∧ isStep a = true := by
  obtain ⟨a, hhead, ha⟩ := exists_head?_dropWhile_not h
  have hfront : (ps.dropWhile (!isStep ·)).reverse.filter isStep ≠ [] := by
    rwa [List.filter_reverse, filter_dropWhile_not, ne_eq, List.reverse_eq_nil_iff]
  obtain ⟨b, hlast, hb⟩ := exists_head?_dropWhile_not hfront
  have hgetLast : (trimmed ps).getLast? = some b := by rw [trimmed, List.getLast?_reverse, hlast]
  refine ⟨⟨a, ?_, ha⟩, b, hgetLast, hb⟩
  -- what is dropped at the end leaves the head where it is
  have hprefix : trimmed ps <+: ps.dropWhile (!isStep ·) := by
    rw [trimmed, ← List.reverse_suffix, List.reverse_reverse]
    exact List.dropWhile_suffix _
  obtain ⟨rest, hrest⟩ := hprefix
  obtain ⟨c, cs, htrimmed⟩ := List.exists_cons_of_ne_nil (l := trimmed ps) (by
    intro hnil
    rw [hnil] at hgetLast
    cases hgetLast)
  rw [← hrest, htrimmed] at hhead
  rw [htrimmed]
  exact hhead

/-- Pieces behind others are left behind as many steps as these have, with pieces before them that
lead nowhere. -/
theorem exists_afterSteps_append (as bs : List String) :
    ∃ idle, afterSteps (as.filter isStep).length (as ++ bs) = idle ++ bs ∧
      ∀ a ∈ idle, isStep a = false := by
  induction as with
  | nil => exact ⟨[], by cases bs <;> rfl, by simp⟩
  | cons a as ih =>
    by_cases hstep : isStep a = true
    · rw [List.filter_cons_of_pos hstep, List.length_cons, List.cons_append, afterSteps,
        if_pos hstep]
      exact ih
    · rw [List.filter_cons_of_neg hstep]
      cases hlength : (as.filter isStep).length with
      | zero =>
        refine ⟨a :: as, rfl, ?_⟩
        rw [List.length_eq_zero_iff, List.filter_eq_nil_iff] at hlength
        simpa [hstep] using hlength
      | succ n =>
        rw [List.cons_append, afterSteps, if_neg hstep, ← hlength]
        exact ih

theorem trimmed_append {idle : List String} (hidle : ∀ a ∈ idle, isStep a = false)
    (h : ∀ a ∈ ps, isStep a = true) : trimmed (idle ++ ps) = ps := by
  have hnone {as : List String} (has : ∀ a ∈ as, isStep a = true) :
      as.dropWhile (!isStep ·) = as := by
    cases as with
    | nil => rfl
    | cons a as => simp [has a (by simp)]
  rw [trimmed, List.dropWhile_append_of_pos (by simpa using hidle), hnone h,
    hnone (by simpa using h), List.reverse_reverse]

/-- **What is left of a path behind a directory** takes the steps that are left and ends in one. -/
theorem relativeTo_spec (hbase : base.text ≠ "") (h : base.parts <+: p.parts)
    (hbelow : p.steps ≠ base.steps) :
    (p.relativeTo base).isAbsolute = false ∧ p.steps = base.steps ++ (p.relativeTo base).steps ∧
      ∃ name, (p.relativeTo base).pieces.getLast? = some name ∧ isStep name = true := by
  obtain ⟨-, rest, hrest⟩ := steps_prefix_of_parts hbase h
  have hne : rest ≠ [] := by
    rintro rfl
    exact hbelow (by rw [← hrest, List.append_nil])
  -- dots and empty pieces go with the pieces that are dropped, and steps alone are counted
  have hfilter : (afterSteps base.steps.length p.pieces).filter isStep = rest := by
    rw [filter_afterSteps, ← steps, ← hrest, List.drop_left]
  obtain ⟨⟨a, hhead, ha⟩, b, hlast, hb⟩ := ends_trimmed (hfilter.symm ▸ hne)
  have hpieces : (p.relativeTo base).pieces =
      trimmed (afterSteps base.steps.length p.pieces) := by
    rw [relativeTo, if_pos (List.isPrefixOf_iff_prefix.2 h)]
    refine pieces_intercalate ?_ fun a ha => ?_
    · intro hnil
      rw [hnil] at hhead
      cases hhead
    · exact slash_not_mem_of_mem_pieces ((afterSteps_suffix _ _).subset (mem_of_mem_trimmed ha))
  refine ⟨?_, ?_, b, by rw [hpieces, hlast], hb⟩
  · rw [Bool.eq_false_iff]
    intro habsolute
    rw [← hpieces, head?_pieces_of_isAbsolute habsolute] at hhead
    exact absurd ha (by rw [← Option.some.inj hhead]; decide)
  · have hsteps : (p.relativeTo base).steps = rest := by
      rw [steps, hpieces, filter_trimmed, hfilter]
    rw [hsteps, hrest]

/-- **A path is shown by the steps that it goes on with** behind a directory. -/
theorem relativeTo_of_pieces (h : base.parts <+: p.parts) {front : List String}
    (hbase : base.steps = front.filter isStep) (hpieces : p.pieces = front ++ ps)
    (hps : ∀ a ∈ ps, isStep a = true) : p.relativeTo base = ⟨"/".intercalate ps⟩ := by
  obtain ⟨idle, hafter, hidle⟩ := exists_afterSteps_append front ps
  rw [relativeTo, if_pos (List.isPrefixOf_iff_prefix.2 h), hbase, hpieces, hafter,
    trimmed_append hidle hps]

/-- Whether a path is spelled in steps and single slashes alone. -/
def IsPlain (p : Path) : Prop := ∀ a ∈ p.pieces, isStep a = true

theorem IsPlain.isAbsolute_eq_false (h : p.IsPlain) : p.isAbsolute = false := by
  rw [Bool.eq_false_iff]
  intro habsolute
  exact absurd (h "" (List.mem_of_head? (head?_pieces_of_isAbsolute habsolute))) (by decide)

theorem IsPlain.steps_eq_pieces (h : p.IsPlain) : p.steps = p.pieces :=
  List.filter_eq_self.2 h

end Path

namespace Storage

open FirmwareSurvey.Path

section

variable {dir root : Path} {names : List String} {d : String}

theorem isAbsolute_pathBelow (hdir : dir.text ≠ "") (h : ∀ name ∈ names, IsName name) :
    (pathBelow dir names).isAbsolute = dir.isAbsolute := by
  induction names generalizing dir with
  | nil => rfl
  | cons name names ih =>
    obtain ⟨hname, hnames⟩ := List.forall_mem_cons.1 h
    rw [← isAbsolute_child hdir hname]
    exact ih (text_child_ne hdir hname) hnames

theorem parts_pathBelow (hdir : dir.text ≠ "") (h : ∀ name ∈ names, IsName name) :
    (pathBelow dir names).parts = dir.parts ++ names := by
  induction names generalizing dir with
  | nil => simp [pathBelow]
  | cons name names ih =>
    obtain ⟨hname, hnames⟩ := List.forall_mem_cons.1 h
    rw [pathBelow_cons, ih (text_child_ne hdir hname) hnames, parts_child hdir hname]
    simp

/-- What lies below a directory that is named from another one lies below that as well. -/
theorem parts_prefix_pathBelow (hroot : root.text ≠ "") (hd : (Path.mk d).isAbsolute = false)
    (h : ∀ name ∈ names, IsName name) :
    root.parts <+: (pathBelow (root.child d) names).parts := by
  rw [parts_pathBelow (text_child_ne_empty hroot d) h, child, parts_join hroot hd,
    List.append_assoc]
  exact List.prefix_append _ _

/-- Names are put behind pieces that end in a step. -/
theorem pieces_pathBelow {a : String} (hlast : dir.pieces.getLast? = some a)
    (ha : isStep a = true) (hdir : dir.text ≠ "") (h : ∀ name ∈ names, IsName name) :
    (pathBelow dir names).pieces = dir.pieces ++ names := by
  induction names generalizing dir a with
  | nil => simp [pathBelow]
  | cons name names ih =>
    obtain ⟨hname, hnames⟩ := List.forall_mem_cons.1 h
    have hchild : (dir.child name).pieces = dir.pieces ++ [name] := by
      obtain ⟨front, -, hjoin, hfront⟩ := exists_pieces_join hdir hname.isAbsolute_eq_false
      rw [pieces_name hname] at hjoin
      rcases hfront with hfront | hfront
      · rw [child, hjoin, hfront]
      · rw [hfront, List.getLast?_concat] at hlast
        exact absurd ha (by rw [← Option.some.inj hlast]; decide)
    rw [pathBelow_cons, ih (a := name) (by rw [hchild, List.getLast?_concat]) hname.step
      (text_child_ne hdir hname) hnames, hchild]
    simp

/-- **What lies below a directory that is spelled plainly** is shown by the steps to the directory
and the names that lead on. -/
theorem relativeTo_pathBelow (hroot : root.text ≠ "") (hd : (Path.mk d).IsPlain)
    (h : ∀ name ∈ names, IsName name) :
    (pathBelow (root.child d) names).relativeTo root =
      ⟨"/".intercalate ((Path.mk d).steps ++ names)⟩ := by
  obtain ⟨front, -, hjoin, hfront⟩ := exists_pieces_join hroot hd.isAbsolute_eq_false
  obtain ⟨a, hlast⟩ : ∃ a, (Path.mk d).pieces.getLast? = some a :=
    Option.isSome_iff_exists.1 (by simpa using pieces_ne_nil _)
  have hdir : (root.child d).pieces.getLast? = some a := by
    rw [child, hjoin, List.getLast?_append, hlast]
    rfl
  have hbase : root.steps = front.filter isStep := by
    rw [steps]
    rcases hfront with hfront | hfront
    · rw [hfront]
    · rw [hfront, List.filter_append]
      simp [isStep]
  have ha : isStep a = true := hd a (List.mem_of_getLast? hlast)
  rw [hd.steps_eq_pieces]
  refine relativeTo_of_pieces (parts_prefix_pathBelow hroot hd.isAbsolute_eq_false h) hbase ?_ ?_
  · rw [pieces_pathBelow hdir ha (text_child_ne_empty hroot d) h, child, hjoin, List.append_assoc]
  · intro b hb
    rcases List.mem_append.1 hb with hb | hb
    · exact hd b hb
    · exact (h b hb).step

/-- A directory that is named from another one is named from the root of storage or lies below that
one, and so does all that lies below it. -/
theorem isAbsolute_or_below (hroot : root.text ≠ "") (h : ∀ name ∈ names, IsName name) :
    (pathBelow (root.child d) names).isAbsolute = true ∨
      root.parts <+: (pathBelow (root.child d) names).parts := by
  cases hd : (Path.mk d).isAbsolute with
  | false => exact .inr (parts_prefix_pathBelow hroot hd h)
  | true =>
    rw [isAbsolute_pathBelow (text_child_ne_empty hroot d) h, child, join, if_pos hd]
    exact .inl hd

end

section

variable {s : Storage} {root p : Path} {R l : Location} {c : Contents} {mode : Nat}

theorem resolve_eq_file_iff : s.resolve true p = .ok (.node l (.file c mode)) ↔
    p.text ≠ "" ∧ p.namesDirectory = false ∧
      s.walk true linkLimit (s.start p) p.steps = .ok (.node l (.file c mode)) := by
  rw [resolve_eq_ok_iff, walk_eq_ok_iff, start, Bool.true_or]
  constructor
  · rintro ⟨htext, hwalk, hdir⟩
    refine ⟨htext, ?_, hwalk⟩
    by_contra hname
    cases hdir _ _ rfl (by simpa using hname)
  · rintro ⟨htext, hname, hwalk⟩
    refine ⟨htext, hwalk, fun _ _ _ hdir => ?_⟩
    rw [hname] at hdir
    cases hdir

/-- **A path as seen from a directory leads, from there, to the file that it leads to.** -/
theorem Opens.resolve_relativeTo (hroot : s.Opens root R)
    (hbelow : p.isAbsolute = true ∨ root.parts <+: p.parts)
    (hp : s.resolve true p = .ok (.node l (.file c mode))) :
    s.resolve true (root.child (p.relativeTo root).text) = .ok (.node l (.file c mode)) := by
  have hchild : root.child (p.relativeTo root).text = root.join (p.relativeTo root) := rfl
  rw [hchild]
  by_cases hprefix : root.parts <+: p.parts
  · obtain ⟨-, -, hwalk⟩ := resolve_eq_file_iff.1 hp
    obtain ⟨habsolute, -⟩ := steps_prefix_of_parts hroot.text_ne hprefix
    have hsteps : p.steps ≠ root.steps := by
      -- the directory itself is no file
      intro hsteps
      obtain ⟨-, dirMode, hdir⟩ := opens_iff.1 hroot
      rw [start, habsolute, hsteps] at hwalk
      cases (walk_eq_ok_iff.2 hdir).symm.trans hwalk
    obtain ⟨hrelative, hrest, name, hlast, hname⟩ := relativeTo_spec hroot.text_ne hprefix hsteps
    refine resolve_eq_file_iff.2 ⟨text_join_ne hroot.text_ne hrelative,
      namesDirectory_join hroot.text_ne hrelative hlast hname, ?_⟩
    rwa [start, isAbsolute_join hroot.text_ne hrelative, ← habsolute,
      steps_join hroot.text_ne hrelative, ← hrest]
  · have habsolute := hbelow.resolve_right hprefix
    rwa [relativeTo, if_neg (by simpa using hprefix), join, if_pos habsolute]

end

end Storage

end FirmwareSurvey
