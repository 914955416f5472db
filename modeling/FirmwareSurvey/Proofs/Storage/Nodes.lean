import FirmwareSurvey.Storage.Basic

/-!
# What changes in storage

Storage changes node by node: setting a node leaves all others alone. Where a path leads is a node
that is there or a location that is free, so a file is written where there is a file or nothing, and
making directories only ever fills free locations, with directories.

A path is followed step by step, and again from a link's target on. Which ways there are is told by
a relation (`Walks`), and a walk arrives just where one of them leads (`walk_eq_ok_iff`): what a
change of storage does to paths is shown by induction on the way. The ways in which directories are
made are told once as well (`exists_of_makeDirectoriesUpTo`).
-/

namespace FirmwareSurvey

instance : DecidableEq Storage.Contents := fun c c' =>
  decidable_of_iff (c.bytes.data = c'.bytes.data ∧ c.zeros = c'.zeros) <| by
    cases c
    cases c'
    simp [ByteArray.ext_iff]

deriving instance DecidableEq for Storage.Node, Storage

namespace Storage

/-! ### Nodes that are set -/

@[simp] theorem at?_nil (s : Storage) : s.at? [] = some (.directory newDirectoryMode) := rfl

@[simp] theorem current_set (s : Storage) (l : Location) (n : Node) :
    (s.set l n).current = s.current := by
  unfold set
  split <;> rfl

theorem find?_map_set (l : Location) (n : Node) : ∀ nodes : List (Location × Node),
    nodes.any (·.1 = l) = true →
      (nodes.map fun p => if p.1 = l then (l, n) else p).find? (·.1 = l) = some (l, n)
  | [], h => by simp at h
  | p :: nodes, h => by
    by_cases hp : p.1 = l
    · simp [hp]
    · simpa [hp] using find?_map_set l n nodes (by simpa [hp] using h)

theorem find?_map_of_ne {l l' : Location} (h : l' ≠ l) (n : Node) :
    ∀ nodes : List (Location × Node),
      (nodes.map fun p => if p.1 = l then (l, n) else p).find? (·.1 = l') =
        nodes.find? (·.1 = l')
  | [] => rfl
  | p :: nodes => by
    have ih := find?_map_of_ne h n nodes
    by_cases hp : p.1 = l
    · have hp' : p.1 ≠ l' := fun heq => h (heq.symm.trans hp)
      simpa [hp, Ne.symm h] using ih
    · by_cases hp' : p.1 = l'
      · simp [hp', h]
      · simpa [hp, hp'] using ih

/-- What was set is there. -/
theorem at?_set_self (s : Storage) {l : Location} (h : l ≠ []) (n : Node) :
    (s.set l n).at? l = some n := by
  unfold set
  split
  · rename_i hany
    simp [at?, h, find?_map_set l n s.nodes hany]
  · rename_i hany
    have hnone : s.nodes.find? (·.1 = l) = none := by
      rw [List.find?_eq_none]
      rintro ⟨l', n'⟩ hmem
      simp only [decide_eq_true_eq]
      rintro rfl
      exact hany (List.any_eq_true.2 ⟨_, hmem, by simp⟩)
    simp [at?, h, List.find?_append, hnone]

/-- **Setting a node leaves all others alone.** -/
theorem at?_set_of_ne (s : Storage) {l l' : Location} (h : l' ≠ l) (n : Node) :
    (s.set l n).at? l' = s.at? l' := by
  unfold set
  split
  · by_cases hnil : l' = []
    · simp [at?, hnil]
    · simp only [at?, if_neg hnil, find?_map_of_ne h n s.nodes]
  · simp [at?, List.find?_append, Ne.symm h]

theorem at?_set (s : Storage) {l : Location} (h : l ≠ []) (n : Node) (l' : Location) :
    (s.set l n).at? l' = if l' = l then some n else s.at? l' := by
  by_cases hl : l' = l
  · rw [if_pos hl, hl, at?_set_self s h]
  · rw [if_neg hl, at?_set_of_ne s hl]

/-! ### Where paths lead -/

theorem walk_nil (s : Storage) (follow : Bool) (links : Nat) (l : Location) :
    s.walk follow links l [] =
      match s.at? l with
      | some n => .ok (.node l n)
      | none => .error .notFound := by
  cases links <;> rfl

theorem walk_cons (s : Storage) (follow : Bool) (links : Nat) (l : Location) (step : String)
    (rest : List String) :
    s.walk follow links l (step :: rest) =
      if step = ".." then s.walk follow links l.dropLast rest
      else
        match s.at? (l ++ [step]) with
        | none => if rest = [] then .ok (.free (l ++ [step])) else .error .notFound
        | some (.directory _) => s.walk follow links (l ++ [step]) rest
        | some (.file c m) =>
          if rest = [] then .ok (.node (l ++ [step]) (.file c m)) else .error .notDirectory
        | some (.link target) =>
          if rest = [] && !follow then .ok (.node (l ++ [step]) (.link target))
          else
            match links with
            | 0 => .error .linkLoop
            | links + 1 =>
              s.walk follow links (if target.isAbsolute then [] else l) (target.steps ++ rest) := by
  cases links <;> rfl

/-- **The ways through storage**: the steps that lead from a location to a spot, through at most a
number of links. -/
inductive Walks (s : Storage) (follow : Bool) : Nat → Location → List String → Spot → Prop
  /-- No steps are left. -/
  | here {links : Nat} {l : Location} {n : Node} : s.at? l = some n →
      Walks s follow links l [] (.node l n)
  /-- A step upwards. -/
  | up {links : Nat} {l : Location} {rest : List String} {spot : Spot} :
      Walks s follow links l.dropLast rest spot → Walks s follow links l (".." :: rest) spot
  /-- The last step, to a name that is free. -/
  | free {links : Nat} {l : Location} {step : String} : step ≠ ".." →
      s.at? (l ++ [step]) = none → Walks s follow links l [step] (.free (l ++ [step]))
  /-- A step into a directory. -/
  | directory {links : Nat} {l : Location} {step : String} {rest : List String} {spot : Spot}
      {mode : Nat} : step ≠ ".." → s.at? (l ++ [step]) = some (.directory mode) →
      Walks s follow links (l ++ [step]) rest spot → Walks s follow links l (step :: rest) spot
  /-- The last step, to a file. -/
  | file {links : Nat} {l : Location} {step : String} {c : Contents} {mode : Nat} : step ≠ ".." →
      s.at? (l ++ [step]) = some (.file c mode) →
      Walks s follow links l [step] (.node (l ++ [step]) (.file c mode))
  /-- The last step, to a link that is not followed. -/
  | link {links : Nat} {l : Location} {step : String} {target : Path} : step ≠ ".." →
      s.at? (l ++ [step]) = some (.link target) → follow = false →
      Walks s follow links l [step] (.node (l ++ [step]) (.link target))
  /-- A step along a link. -/
  | along {links : Nat} {l : Location} {step : String} {rest : List String} {spot : Spot}
      {target : Path} : step ≠ ".." → s.at? (l ++ [step]) = some (.link target) →
      (rest = [] → follow = true) →
      Walks s follow links (if target.isAbsolute then [] else l) (target.steps ++ rest) spot →
      Walks s follow (links + 1) l (step :: rest) spot

theorem walks_of_walk {s : Storage} {follow : Bool} : ∀ (links : Nat) {l : Location}
    (steps : List String) {spot : Spot}, s.walk follow links l steps = .ok spot →
      s.Walks follow links l steps spot
  | links, l, [], spot, h => by
    rw [walk_nil] at h
    split at h
    · rename_i n hn
      cases h
      exact .here hn
    · cases h
  | links, l, step :: rest, spot, h => by
    rw [walk_cons] at h
    split at h
    · rename_i hup
      exact hup ▸ .up (walks_of_walk links rest h)
    · rename_i hup
      split at h
      · rename_i hn
        split at h
        · rename_i hrest
          subst hrest
          cases h
          exact .free hup hn
        · cases h
      · rename_i hn
        exact .directory hup hn (walks_of_walk links rest h)
      · rename_i hn
        split at h
        · rename_i hrest
          subst hrest
          cases h
          exact .file hup hn
        · cases h
      · rename_i target hn
        split at h
        · rename_i hend
          obtain ⟨rfl, hfollow⟩ : rest = [] ∧ follow = false := by simpa using hend
          cases h
          exact .link hup hn hfollow
        · rename_i hend
          cases links with
          | zero => cases h
          | succ links =>
            -- there may be more steps now, but fewer links are left
            exact .along hup hn (by simpa using hend) (walks_of_walk links _ h)
termination_by links _ steps => (links, steps.length)

/-- **A walk arrives exactly where a way leads.** -/
theorem walk_eq_ok_iff {s : Storage} {follow : Bool} {links : Nat} {l : Location}
    {steps : List String} {spot : Spot} :
    s.walk follow links l steps = .ok spot ↔ s.Walks follow links l steps spot := by
  refine ⟨walks_of_walk links steps, fun h => ?_⟩
  induction h with
  | here hn => rw [walk_nil, hn]
  | up _ ih => rw [walk_cons, if_pos rfl, ih]
  | free hup hn => rw [walk_cons, if_neg hup, hn, if_pos rfl]
  | directory hup hn _ ih =>
    rw [walk_cons, if_neg hup, hn]
    exact ih
  | file hup hn =>
    rw [walk_cons, if_neg hup, hn]
    exact if_pos rfl
  | link hup hn hfollow =>
    rw [walk_cons, if_neg hup, hn]
    exact if_pos (by simp [hfollow])
  | along hup hn hfollow _ ih =>
    rw [walk_cons, if_neg hup, hn]
    exact (if_neg (by simpa using hfollow)).trans ih

/-- Whether a spot is as storage has it. -/
def Spot.IsIn (s : Storage) : Spot → Prop
  | .node l n => s.at? l = some n
  | .free l => s.at? l = none

theorem Walks.isIn {s : Storage} {follow : Bool} {links : Nat} {l : Location}
    {steps : List String} {spot : Spot} (h : s.Walks follow links l steps spot) : spot.IsIn s := by
  induction h with
  | here hn => exact hn
  | up _ ih => exact ih
  | free _ hn => exact hn
  | directory _ _ _ ih => exact ih
  | file _ hn => exact hn
  | link _ hn _ => exact hn
  | along _ _ _ _ ih => exact ih

/-- **Where a path leads**: along a way from the current directory or from the root, and to no file
if the path is one of a directory. -/
theorem resolve_eq_ok_iff {s : Storage} {follow : Bool} {p : Path} {spot : Spot} :
    s.resolve follow p = .ok spot ↔ p.text ≠ "" ∧
      s.Walks (follow || p.namesDirectory) linkLimit (if p.isAbsolute then [] else s.current)
        p.steps spot ∧
      ∀ l n, spot = .node l n → p.namesDirectory = true → n.kind = .directory := by
  rw [resolve, ← walk_eq_ok_iff]
  by_cases hempty : p.text = ""
  · simp [hempty]
  · simp only [beq_iff_eq, hempty, if_false, ne_eq, not_false_eq_true, true_and]
    -- the way decides where the path leads, and only a node there can be refused
    split
    · rename_i l n hwalk
      rw [hwalk, Except.ok.injEq]
      cases p.namesDirectory with
      | false => simp
      | true =>
        by_cases hdir : n.kind = .directory
        · simp only [hdir, Bool.true_and, bne_self_eq_false, Bool.false_eq_true, if_false,
            Except.ok.injEq]
          refine ⟨fun h => ⟨h, ?_⟩, And.left⟩
          rintro l' n' rfl -
          cases h
          exact hdir
        · refine iff_of_false (by simp [hdir]) ?_
          rintro ⟨rfl, h⟩
          exact hdir (h l n rfl rfl)
    · rename_i hno
      refine ⟨fun h => ⟨h, ?_⟩, And.left⟩
      rintro l n rfl
      exact absurd h (hno l n)

/-- **A path leads to a node that is there or to a location that is free.** -/
theorem isIn_resolve {s : Storage} {follow : Bool} {p : Path} {spot : Spot}
    (h : s.resolve follow p = .ok spot) : spot.IsIn s :=
  (resolve_eq_ok_iff.1 h).2.1.isIn

/-! ### Files that are written -/

/-- The contents of the file at a location, if there is one. -/
def fileAt? (s : Storage) (l : Location) : Option Contents :=
  match s.at? l with
  | some (.file c _) => some c
  | _ => none

/-- Where a file that is written to a path comes to lie: in the place of a file, or where nothing
is. -/
def target? (s : Storage) (p : Path) : Option Location :=
  match s.resolve true p with
  | .ok (.node l (.file _ _)) => some l
  | .ok (.free l) => if p.namesDirectory then none else some l
  | _ => none

theorem fileAt?_congr {s s' : Storage} {l : Location} (h : s'.at? l = s.at? l) :
    s'.fileAt? l = s.fileAt? l := by
  rw [fileAt?, h, fileAt?]

theorem target?_eq_some_iff {s : Storage} {p : Path} {l : Location} :
    s.target? p = some l ↔ (∃ c mode, s.resolve true p = .ok (.node l (.file c mode))) ∨
      s.resolve true p = .ok (.free l) ∧ p.namesDirectory = false := by
  rw [target?]
  rcases hspot : s.resolve true p with e | ⟨l', n⟩ | l'
  · simp
  · cases n <;> simp
  · by_cases hdir : p.namesDirectory = true <;> simp [hdir]

/-- A file is written in the place of a file or where nothing is. -/
theorem kind_of_target? {s : Storage} {p : Path} {l : Location} (h : s.target? p = some l)
    {n : Node} (hn : s.at? l = some n) : n.kind = .file := by
  rcases target?_eq_some_iff.1 h with ⟨c, mode, hspot⟩ | ⟨hspot, -⟩
  · cases hn.symm.trans (isIn_resolve hspot)
    rfl
  · cases hn.symm.trans (isIn_resolve hspot)

theorem target?_ne_nil {s : Storage} {p : Path} {l : Location} (h : s.target? p = some l) :
    l ≠ [] := by
  rintro rfl
  cases kind_of_target? h (at?_nil s)

/-- The permission bits that a file has when it has been written to a location. -/
def modeAt (s : Storage) (l : Location) : Nat :=
  match s.at? l with
  | some (.file _ mode) => mode
  | _ => newFileMode

/-- **A file is written to the location that its path leads to**, if it leads to one. -/
theorem writeContents_eq (s : Storage) (p : Path) (c : Contents) :
    (s.writeContents p c).toOption = (s.target? p).map fun l => s.set l (.file c (s.modeAt l)) := by
  rw [writeContents, target?]
  cases hspot : s.resolve true p with
  | error e => rfl
  | ok spot =>
    have hin := isIn_resolve hspot
    cases spot with
    | free l =>
      have hin : s.at? l = none := hin
      by_cases hdir : p.namesDirectory = true <;> simp [hdir, modeAt, hin, Except.toOption]
    | node l n =>
      have hin : s.at? l = some n := hin
      cases n <;> simp [modeAt, hin, Except.toOption]

theorem writeContents_of_target? {s : Storage} {p : Path} {l : Location} (c : Contents)
    (h : s.target? p = some l) :
    s.writeContents p c = .ok (s.set l (.file c (s.modeAt l))) := by
  have heq := writeContents_eq s p c
  rw [h] at heq
  cases hw : s.writeContents p c <;> simp_all [Except.toOption]

theorem target?_of_writeContents {s s' : Storage} {p : Path} {c : Contents}
    (h : s.writeContents p c = .ok s') :
    ∃ l, s.target? p = some l ∧ s' = s.set l (.file c (s.modeAt l)) := by
  have heq := writeContents_eq s p c
  rw [h] at heq
  obtain ⟨l, hl, hs⟩ := Option.map_eq_some_iff.1 heq.symm
  exact ⟨l, hl, hs.symm⟩

theorem fileAt?_set_file (s : Storage) {l : Location} (h : l ≠ []) (c : Contents) (mode : Nat)
    (l' : Location) :
    (s.set l (.file c mode)).fileAt? l' = if l' = l then some c else s.fileAt? l' := by
  by_cases hl : l' = l <;> simp [fileAt?, at?_set s h, hl]

/-! ### Directories that are made -/

/-- Whether storage has changed at most by directories where nothing was. -/
structure MoreDirectories (s s' : Storage) : Prop where
  /-- The current directory is the same. -/
  current : s'.current = s.current
  /-- What is new is a directory. -/
  nodes : ∀ l, s'.at? l = s.at? l ∨ s.at? l = none ∧ ∃ mode, s'.at? l = some (.directory mode)

theorem MoreDirectories.refl (s : Storage) : MoreDirectories s s := ⟨rfl, fun _ => Or.inl rfl⟩

theorem MoreDirectories.trans {s s' s'' : Storage} (h : MoreDirectories s s')
    (h' : MoreDirectories s' s'') : MoreDirectories s s'' where
  current := h'.current.trans h.current
  nodes l := by
    rcases h.nodes l with heq | ⟨hfree, m, hdir⟩
    · rw [← heq]
      exact h'.nodes l
    · rcases h'.nodes l with heq' | ⟨hfree', -⟩
      · exact Or.inr ⟨hfree, m, heq'.trans hdir⟩
      · rw [hdir] at hfree'
        cases hfree'

/-- **A directory is made** at a free location. -/
theorem makeDirectory_eq_ok_iff {s s' : Storage} {p : Path} : s.makeDirectory p = .ok s' ↔
    ∃ l, s.resolve false p = .ok (.free l) ∧ s' = s.set l (.directory newDirectoryMode) := by
  rw [makeDirectory]
  split
  · rename_i l hspot
    simp [hspot, eq_comm]
  · rename_i hspot
    simp [hspot]
  · rename_i hspot
    simp [hspot]

/-- **How directories are made.** An empty path asks for none. Else the directory is made, or it was
there, in storage as it is or, when the directories around it are missing, as it is with those. -/
theorem exists_of_makeDirectoriesUpTo {depth : Nat} {s s' : Storage} {p : Path}
    (h : s.makeDirectoriesUpTo p (depth + 1) = .ok s') :
    p.text = "" ∧ s' = s ∨
      ∃ t, (t = s ∨ ∃ above, s.makeDirectory p = .error .notFound ∧ p.parent? = some above ∧
          s.makeDirectoriesUpTo above depth = .ok t) ∧
        (t.makeDirectory p = .ok s' ∨ t.isDirectory p = true ∧ s' = t) := by
  rw [makeDirectoriesUpTo] at h
  split at h
  · rename_i hempty
    cases h
    exact .inl ⟨by simpa using hempty, rfl⟩
  · refine .inr ?_
    split at h
    · rename_i hmake
      cases h
      exact ⟨s, .inl rfl, .inl hmake⟩
    -- something on the way is missing, so the directories around are made first
    · rename_i hmissing
      split at h
      · cases h
      · rename_i above hparent
        split at h
        · cases h
        · rename_i t habove
          refine ⟨t, .inr ⟨above, hmissing, hparent, habove⟩, ?_⟩
          split at h
          · rename_i hmake
            cases h
            exact .inl hmake
          · split at h
            · rename_i hdir
              cases h
              exact .inr ⟨hdir, rfl⟩
            · cases h
    · split at h
      · rename_i hdir
        cases h
        exact ⟨s, .inl rfl, .inr ⟨hdir, rfl⟩⟩
      · cases h

theorem MoreDirectories.fileAt? {s s' : Storage} (h : MoreDirectories s s') (l : Location) :
    s'.fileAt? l = s.fileAt? l := by
  rcases h.nodes l with heq | ⟨hfree, m, hdir⟩
  · exact fileAt?_congr heq
  · simp [Storage.fileAt?, hfree, hdir]

end Storage

end FirmwareSurvey
