import FirmwareSurvey.Proofs.Text.Lines
import FirmwareSurvey.Storage.Path

/-!
# Names inside a directory

The path of a name inside a directory takes the steps of the directory and then the name. The path
around it takes the steps of the directory again, though it may be written in another way: slashes
and lone dots at its end are gone.
-/

namespace FirmwareSurvey

namespace Path

/-- Whether a text is the name of something inside a directory: it has no slash, and it is neither
empty nor one of the dots. -/
structure IsName (name : String) : Prop where
  /-- There is no slash. -/
  slash : '/' ∉ name.toList
  /-- It leads somewhere. -/
  step : isStep name = true
  /-- It does not lead upwards. -/
  upwards : name ≠ ".."

instance (name : String) : Decidable (IsName name) :=
  decidable_of_iff ('/' ∉ name.toList ∧ isStep name = true ∧ name ≠ "..")
    ⟨fun h => ⟨h.1, h.2.1, h.2.2⟩, fun h => ⟨h.slash, h.step, h.upwards⟩⟩

/-! ### Steps -/

/-- The steps of a path given by its characters. -/
def stepsOf (cs : List Char) : List String := ((Text.cut '/' cs).map String.ofList).filter isStep

theorem steps_eq (p : Path) : p.steps = stepsOf p.text.toList := rfl

theorem stepsOf_append (a b : List Char) : stepsOf (a ++ '/' :: b) = stepsOf a ++ stepsOf b := by
  simp [stepsOf, Text.cut_append]

@[simp] theorem stepsOf_nil : stepsOf [] = [] := rfl

@[simp] theorem stepsOf_dot : stepsOf ['.'] = [] := rfl

theorem stepsOf_name {name : String} (h : IsName name) : stepsOf name.toList = [name] := by
  simp [stepsOf, Text.cut_of_not_mem h.slash, h.step]

variable {dir q : Path} {name : String}

theorem IsName.toList_ne_nil (h : IsName name) : name.toList ≠ [] := by
  intro hnil
  have hempty : name = "" := String.toList_inj.1 (by simpa using hnil)
  exact absurd h.step (by rw [hempty]; decide)

theorem IsName.isAbsolute_eq_false (h : IsName name) : isAbsolute ⟨name⟩ = false := by
  rw [isAbsolute, beq_eq_false_iff_ne]
  intro hhead
  exact h.slash (List.mem_of_head? hhead)

theorem steps_name (h : IsName name) : steps ⟨name⟩ = [name] := stepsOf_name h

theorem pieces_name (h : IsName name) : pieces ⟨name⟩ = [name] := by
  simp [pieces, Text.splitAt, Text.cut_of_not_mem h.slash]

/-- A relative path behind another one ends in a slash and itself; what stands before is the other
path, up to a slash at its end. -/
theorem exists_join (hdir : dir.text ≠ "") (hq : q.isAbsolute = false) :
    ∃ body, (dir.join q).text.toList = body ++ '/' :: q.text.toList ∧
      (dir.text.toList = body ∨ dir.text.toList = body ++ ['/']) := by
  rw [join, if_neg (by simp [hq]), if_neg (by simpa using hdir)]
  split
  · rename_i hlast
    rw [beq_iff_eq] at hlast
    obtain ⟨body, hbody⟩ := List.getLast?_eq_some_iff.1 hlast
    exact ⟨body, by simp [hbody], Or.inr hbody⟩
  · exact ⟨dir.text.toList, by simp, Or.inl rfl⟩

theorem stepsOf_body {body : List Char}
    (h : dir.text.toList = body ∨ dir.text.toList = body ++ ['/']) :
    dir.steps = stepsOf body := by
  rcases h with h | h
  · rw [steps_eq, h]
  · rw [steps_eq, h, stepsOf_append]
    simp

/-- **The steps of a relative path behind another one are those of both.** -/
theorem steps_join (hdir : dir.text ≠ "") (hq : q.isAbsolute = false) :
    (dir.join q).steps = dir.steps ++ q.steps := by
  obtain ⟨body, hjoin, hbody⟩ := exists_join hdir hq
  rw [steps_eq, hjoin, stepsOf_append, stepsOf_body hbody, ← steps_eq]

/-- **The steps to a name are those to the directory and the name.** -/
theorem steps_child (hdir : dir.text ≠ "") (h : IsName name) :
    (dir.child name).steps = dir.steps ++ [name] := by
  rw [child, steps_join hdir h.isAbsolute_eq_false, steps_name h]

theorem text_join_ne (hdir : dir.text ≠ "") (hq : q.isAbsolute = false) :
    (dir.join q).text ≠ "" := by
  obtain ⟨body, hjoin, -⟩ := exists_join hdir hq
  intro hempty
  rw [hempty] at hjoin
  simp at hjoin

theorem text_child_ne (hdir : dir.text ≠ "") (h : IsName name) : (dir.child name).text ≠ "" :=
  text_join_ne hdir h.isAbsolute_eq_false

theorem isAbsolute_join (hdir : dir.text ≠ "") (hq : q.isAbsolute = false) :
    (dir.join q).isAbsolute = dir.isAbsolute := by
  obtain ⟨body, hjoin, hbody⟩ := exists_join hdir hq
  have hne : dir.text.toList ≠ [] := by simpa using hdir
  rw [isAbsolute, isAbsolute, hjoin]
  rcases hbody with hbody | hbody
  · rw [hbody]
    rw [hbody] at hne
    cases body with
    | nil => exact absurd rfl hne
    | cons c cs => rfl
  · rw [hbody]
    cases body <;> rfl

theorem isAbsolute_child (hdir : dir.text ≠ "") (h : IsName name) :
    (dir.child name).isAbsolute = dir.isAbsolute :=
  isAbsolute_join hdir h.isAbsolute_eq_false

/-! ### Pieces and parts -/

theorem pieces_ne_nil (p : Path) : p.pieces ≠ [] := by simp [pieces, Text.splitAt, Text.cut]

/-- A relative path behind another one starts with the pieces of that, up to an empty one at its
end, and ends with its own. -/
theorem exists_pieces_join (hdir : dir.text ≠ "") (hq : q.isAbsolute = false) :
    ∃ front, front ≠ [] ∧ (dir.join q).pieces = front ++ q.pieces ∧
      (dir.pieces = front ∨ dir.pieces = front ++ [""]) := by
  obtain ⟨body, hjoin, hbody⟩ := exists_join hdir hq
  refine ⟨pieces ⟨String.ofList body⟩, pieces_ne_nil _, ?_, ?_⟩
  · rw [pieces, pieces, pieces, Text.splitAt, hjoin, Text.cut_append]
    simp [Text.splitAt]
  · rcases hbody with hbody | hbody
    · exact .inl (by simp [pieces, Text.splitAt, hbody])
    · exact .inr (by simp [pieces, Text.splitAt, hbody, Text.cut_append])

/-- A path that ends in a step may name anything. -/
theorem namesDirectory_of_getLast? {p : Path} (hlast : p.pieces.getLast? = some name)
    (hstep : isStep name = true) : p.namesDirectory = false := by
  obtain ⟨front, hpieces⟩ := List.getLast?_eq_some_iff.1 hlast
  simp only [isStep, Bool.and_eq_true, bne_iff_ne, ne_eq] at hstep
  rw [namesDirectory, hpieces, List.reverse_append]
  simp only [List.reverse_cons, List.reverse_nil, List.nil_append, List.singleton_append]
  split
  · rename_i heq
    exact absurd (List.cons.inj heq).1 hstep.1
  · rename_i heq
    exact absurd (List.cons.inj heq).1 hstep.2
  · rfl

theorem namesDirectory_join (hdir : dir.text ≠ "") (hq : q.isAbsolute = false)
    (hlast : q.pieces.getLast? = some name) (hstep : isStep name = true) :
    (dir.join q).namesDirectory = false := by
  obtain ⟨front, -, hjoin, -⟩ := exists_pieces_join hdir hq
  refine namesDirectory_of_getLast? ?_ hstep
  rw [hjoin, List.getLast?_append, hlast]
  rfl

theorem namesDirectory_child (hdir : dir.text ≠ "") (h : IsName name) :
    (dir.child name).namesDirectory = false :=
  namesDirectory_join hdir h.isAbsolute_eq_false (by rw [pieces_name h]; rfl) h.step

/-- What a path starts with before its steps. -/
def lead (p : Path) : List String :=
  if p.isAbsolute then ["/"] else if p.pieces.head? = some "." then ["."] else []

theorem parts_eq (p : Path) : p.parts = p.lead ++ p.steps := by
  rw [parts, lead]
  split
  · rfl
  · split
    · rename_i hpieces
      rw [hpieces]
      rfl
    · rename_i hno
      rw [if_neg]
      · rfl
      · intro hhead
        obtain ⟨tail, htail⟩ := List.head?_eq_some_iff.1 hhead
        exact hno tail htail

/-- **The parts of a relative path behind another one** are those of that, and its own steps. -/
theorem parts_join (hdir : dir.text ≠ "") (hq : q.isAbsolute = false) :
    (dir.join q).parts = dir.parts ++ q.steps := by
  obtain ⟨front, hne, hjoin, hfront⟩ := exists_pieces_join hdir hq
  have hhead : (dir.join q).pieces.head? = dir.pieces.head? := by
    obtain ⟨a, as, rfl⟩ := List.exists_cons_of_ne_nil hne
    rcases hfront with hfront | hfront <;> simp [hjoin, hfront]
  rw [parts_eq, parts_eq, steps_join hdir hq, lead, lead, isAbsolute_join hdir hq, hhead,
    List.append_assoc]

theorem parts_child (hdir : dir.text ≠ "") (h : IsName name) :
    (dir.child name).parts = dir.parts ++ [name] := by
  rw [child, parts_join hdir h.isAbsolute_eq_false, steps_name h]

theorem getLast?_parts_child (hdir : dir.text ≠ "") (h : IsName name) :
    (dir.child name).parts.getLast? = some name := by
  rw [parts_child hdir h, List.getLast?_concat]

/-! ### The path around a name -/

/-- Slashes and lone dots at the end of a path take it nowhere. -/
theorem dropTrailing_spec (cs : List Char) (h : cs ≠ []) :
    stepsOf (dropTrailing cs).reverse = stepsOf cs.reverse ∧
      (dropTrailing cs).reverse.head? = cs.reverse.head? ∧ dropTrailing cs ≠ [] := by
  induction cs using dropTrailing.induct with
  | case1 => exact ⟨rfl, rfl, by simp [dropTrailing]⟩
  | case2 rest hrest ih =>
    have hne : rest ≠ [] := fun hnil => hrest hnil
    obtain ⟨hsteps, hhead, hnil⟩ := ih hne
    rw [dropTrailing.eq_2 rest hrest, List.reverse_cons]
    refine ⟨by rw [hsteps, stepsOf_append]; simp, ?_, hnil⟩
    rw [hhead, Text.head?_append_of_ne_nil (by simpa using hne)]
  | case3 => exact ⟨rfl, rfl, by simp [dropTrailing]⟩
  | case4 rest hrest ih =>
    have hne : rest ≠ [] := fun hnil => hrest hnil
    obtain ⟨hsteps, hhead, hnil⟩ := ih hne
    rw [dropTrailing.eq_4 rest hrest]
    have hreverse : ('.' :: '/' :: rest).reverse = rest.reverse ++ '/' :: ['.'] := by simp
    rw [hreverse]
    refine ⟨by rw [hsteps, stepsOf_append]; simp, ?_, hnil⟩
    rw [hhead, Text.head?_append_of_ne_nil (by simpa using hne)]
  | case5 cs h1 h2 h3 h4 =>
    rw [dropTrailing.eq_5 cs h1 h2 h3 h4]
    exact ⟨rfl, rfl, h⟩

/-- Nothing is dropped from the end of the path of a name. -/
theorem dropTrailing_name (h : IsName name) (cs : List Char) :
    dropTrailing (name.toList.reverse ++ cs) = name.toList.reverse ++ cs := by
  have hslash : '/' ∉ name.toList.reverse := by simpa using h.slash
  have hdot : name.toList.reverse ≠ ['.'] := by
    intro hdot
    have hname : name = "." := String.toList_inj.1 (by simpa using congrArg List.reverse hdot)
    exact absurd h.step (by rw [hname]; decide)
  obtain ⟨c, r, hcr⟩ := List.exists_cons_of_ne_nil (l := name.toList.reverse)
    (by simpa using h.toList_ne_nil)
  rw [hcr] at hslash hdot ⊢
  simp only [List.mem_cons, not_or] at hslash
  have hcut : ∀ rest, c :: r ++ cs ≠ '.' :: '/' :: rest := by
    intro rest heq
    obtain ⟨hc, heq⟩ := List.cons.inj heq
    cases r with
    | nil => exact hdot (by rw [hc])
    | cons d r => exact hslash.2 (by simp [(List.cons.inj heq).1])
  exact dropTrailing.eq_5 _ (fun heq => hslash.1 (List.cons.inj heq).1.symm)
    (fun _ heq => hslash.1 (List.cons.inj heq).1.symm) (hcut []) hcut

/-- **The path around a name takes the steps of the directory.** -/
theorem parent?_child (hdir : dir.text ≠ "") (h : IsName name) :
    ∃ above, (dir.child name).parent? = some above ∧ above.text ≠ "" ∧
      above.steps = dir.steps ∧ above.isAbsolute = dir.isAbsolute := by
  obtain ⟨body, hchild, hbody⟩ := exists_join hdir h.isAbsolute_eq_false
  have hne : dir.text.toList ≠ [] := by simpa using hdir
  rw [← child] at hchild
  -- from its end: the name is passed over, and then the slash before it is the first
  have hwritten : (dropTrailing (dir.child name).text.toList.reverse).dropWhile (· != '/') =
      '/' :: body.reverse := by
    have hname : ∀ c ∈ name.toList.reverse, (c != '/') = true := by
      intro c hc
      rw [bne_iff_ne]
      rintro rfl
      exact h.slash (List.mem_reverse.1 hc)
    rw [hchild, List.reverse_append, List.reverse_cons, List.append_assoc, dropTrailing_name h,
      List.singleton_append, List.dropWhile_append_of_pos hname]
    simp
  have hparent : (dir.child name).parent? =
      some ⟨String.ofList (dropTrailing ('/' :: body.reverse)).reverse⟩ := by
    have hlast := getLast?_parts_child hdir h
    rw [parent?]
    split
    · rename_i hparts
      rw [hparts] at hlast
      cases hlast
    · rename_i hparts
      rw [hparts] at hlast
      cases hlast
      exact absurd h.slash (by decide)
    · simp only [hwritten]
  -- what is left is read as steps from its front, so it is turned around again
  obtain ⟨hsteps, hhead, hnil⟩ := dropTrailing_spec ('/' :: body.reverse) (by simp)
  have hreverse : ('/' :: body.reverse).reverse = body ++ ['/'] := by simp
  rw [hreverse] at hsteps hhead
  refine ⟨_, hparent, ?_, ?_, ?_⟩
  · simpa using hnil
  · rw [steps_eq, String.toList_ofList, hsteps, stepsOf_append, stepsOf_body hbody]
    simp
  · rw [isAbsolute, isAbsolute, String.toList_ofList, hhead]
    rcases hbody with hbody | hbody
    · rw [hbody, Text.head?_append_of_ne_nil (by rwa [hbody] at hne)]
    · rw [hbody]

end Path

end FirmwareSurvey
