import FirmwareSurvey.Proofs.Storage.Opened
import Mathlib.Data.List.Induction

/-!
# Directories that are not there yet

A directory is vacant when no file is found in it and making it opens an empty directory. In storage
where every node lies in a directory, a path that leads to a free name is vacant (`vacant_of_free`).
A change leaves a directory untouched when what it holds stays as it is, and when it stays vacant if
it was.
-/

namespace FirmwareSurvey.Storage

open FirmwareSurvey.Path

variable {s s' : Storage} {dir : Path} {D : Location}

/-- Whether a directory holds no file, and can be made, empty, if it is not there. -/
structure Vacant (s : Storage) (dir : Path) : Prop where
  /-- No file is found. -/
  files : ∀ name, IsName name → s.isFile (dir.child name) = false
  /-- The directory is made empty. -/
  makes : ∃ s' D, s.makeDirectories dir = .ok s' ∧ s'.Opens dir D ∧
    ∀ name, s'.at? (D ++ [name]) = none

/-- Whether a change leaves a directory and what it holds as they are. -/
structure Untouched (dir : Path) (s s' : Storage) : Prop where
  /-- An open directory holds what it held. -/
  opened : ∀ D, s.Opens dir D → s'.Opens dir D ∧ ∀ name, s'.at? (D ++ [name]) = s.at? (D ++ [name])
  /-- A directory that is not there is still not there. -/
  vacant : s.Vacant dir → s'.Vacant dir

theorem Untouched.refl (dir : Path) (s : Storage) : Untouched dir s s :=
  ⟨fun _ h => ⟨h, fun _ => rfl⟩, id⟩

/-! ### Free names -/

/-- Whether every node lies in a directory. -/
def IsTree (s : Storage) : Prop :=
  ∀ l name, (s.at? (l ++ [name])).isSome = true → ∃ mode, s.at? l = some (.directory mode)

/-- Above a node there are directories alone. -/
theorem IsTree.directory_of_append (htree : s.IsTree) {l : Location} {name : String}
    {rest : Location} (h : (s.at? (l ++ name :: rest)).isSome = true) :
    ∃ mode, s.at? l = some (.directory mode) := by
  induction rest using List.reverseRecOn with
  | nil => exact htree l name h
  | append_singleton rest last ih =>
    obtain ⟨mode, hdir⟩ := htree (l ++ name :: rest) last (by simpa using h)
    exact ih (by rw [hdir]; rfl)

theorem isTree_of_nodes
    (h : ∀ p ∈ s.nodes, ∃ mode, s.at? p.1.dropLast = some (.directory mode)) : s.IsTree := by
  intro l name hsome
  obtain ⟨n, hn⟩ := Option.isSome_iff_exists.1 hsome
  rw [at?, if_neg (by simp)] at hn
  obtain ⟨p, hp, -⟩ := Option.map_eq_some_iff.1 hn
  have hl : p.1 = l ++ [name] := by simpa using List.find?_some hp
  simpa [hl] using h p (List.mem_of_find?_eq_some hp)

variable {w : Bool} {name : String} {mode : Nat}

/-- Nothing is found below a free name. -/
theorem Walks.walk_append_of_free {links : Nat} {l : Location} {steps : List String}
    (hl : s.Walks w links l steps (.free D)) (name : String) :
    s.walk true links l (steps ++ [name]) = .error .notFound := by
  generalize hspot : Spot.free D = spot at hl
  induction hl with
  | here => cases hspot
  | up _ ih =>
    rw [List.cons_append, walk_cons, if_pos rfl]
    exact ih hspot
  | free hup hn =>
    rw [List.cons_append, walk_cons, if_neg hup, hn]
    exact if_neg (by simp)
  | directory hup hn _ ih =>
    rw [List.cons_append, walk_cons, if_neg hup, hn]
    exact ih hspot
  | file => cases hspot
  | link => cases hspot
  | along hup hn _ _ ih =>
    rw [List.cons_append, walk_cons, if_neg hup, hn]
    refine (if_neg (by simp)).trans ?_
    dsimp only
    rw [← List.append_assoc]
    exact ih hspot

/-- What is set at a free name leaves all nodes in their places. -/
theorem at?_set_of_free (hfree : s.at? D = none) (n : Node) {l : Location} {n' : Node}
    (h : s.at? l = some n') : (s.set D n).at? l = some n' := by
  rw [at?_set_of_ne s, h]
  rintro rfl
  rw [h] at hfree
  cases hfree

/-- A file or directory that is set at a free name is where the way leads. -/
theorem Walks.set_of_free {n : Node} (hn : n.kind ≠ .link) (hfree : s.at? D = none) {links : Nat}
    {l : Location} {steps : List String} (hl : s.Walks w links l steps (.free D)) :
    (s.set D n).Walks true links l steps (.node D n) := by
  have hset : (s.set D n).at? D = some n := by
    refine at?_set_self s ?_ n
    rintro rfl
    cases hfree
  generalize hspot : Spot.free D = spot at hl
  induction hl with
  | here => cases hspot
  | up _ ih => exact .up (ih hspot)
  | free hup _ =>
    -- the last step, at which nothing was: now the way ends here
    cases hspot
    cases n with
    | file c mode => exact .file hup hset
    | directory mode => exact .directory hup hset (.here hset)
    | link target => exact absurd rfl hn
  | directory hup hdir _ ih => exact .directory hup (at?_set_of_free hfree n hdir) (ih hspot)
  | file => cases hspot
  | link => cases hspot
  | along hup hlink _ _ ih =>
    exact .along hup (at?_set_of_free hfree n hlink) (fun _ => rfl) (ih hspot)

/-- A path to a free name has a way there. -/
theorem walks_of_resolve_free {follow : Bool} (h : s.resolve follow dir = .ok (.free D)) :
    dir.text ≠ "" ∧
      s.Walks (follow || dir.namesDirectory) linkLimit (s.start dir) dir.steps (.free D) := by
  obtain ⟨htext, hwalk, -⟩ := resolve_eq_ok_iff.1 h
  exact ⟨htext, hwalk⟩

/-- **A directory that is made at a free name is open.** -/
theorem opens_set_of_free {follow : Bool} (h : s.resolve follow dir = .ok (.free D)) :
    (s.set D (.directory newDirectoryMode)).Opens dir D := by
  obtain ⟨htext, hwalk⟩ := walks_of_resolve_free h
  refine opens_iff.2 ⟨htext, newDirectoryMode, ?_⟩
  rw [start, current_set]
  exact hwalk.set_of_free (by simp [Node.kind]) (isIn_resolve h)

/-- **A directory whose name is free is vacant.** -/
theorem vacant_of_free (htree : s.IsTree) (h : s.resolve false dir = .ok (.free D)) :
    s.Vacant dir := by
  have hfree : s.at? D = none := isIn_resolve h
  obtain ⟨htext, hwalk⟩ := walks_of_resolve_free h
  refine ⟨fun name hname => ?_, s.set D (.directory newDirectoryMode), D, ?_,
    opens_set_of_free h, ?_⟩
  · have hwalk := hwalk.walk_append_of_free name
    rw [← steps_child htext hname, start] at hwalk
    simp [isFile, node?, resolve, text_child_ne htext hname, isAbsolute_child htext hname, hwalk]
  · simp [makeDirectories, makeDirectoriesUpTo, makeDirectory, htext, h]
  · intro name
    rw [at?_set_of_ne s (by simp)]
    cases hn : s.at? (D ++ [name]) with
    | none => rfl
    | some n =>
      obtain ⟨mode, hdir⟩ := htree D name (by simp [hn])
      rw [hfree] at hdir
      cases hdir

/-- The free location a path leads to. -/
def freeAt? (s : Storage) (p : Path) : Option Location :=
  match s.resolve false p with
  | .ok (.free l) => some l
  | _ => none

/-- A vacant directory can be told by following its path. -/
theorem vacant_of_freeAt? (htree : s.IsTree) (h : (s.freeAt? dir).isSome = true) :
    s.Vacant dir := by
  rw [freeAt?] at h
  split at h
  · exact vacant_of_free htree ‹_›
  · cases h

/-! ### Files elsewhere -/

/-- A node without the contents of a file. -/
def Node.bare : Node → Node
  | .file _ mode => .file ⟨.empty, 0⟩ mode
  | .directory mode => .directory mode
  | .link target => .link target

/-- A spot without the contents of a file. -/
def Spot.bare : Spot → Spot
  | .node l n => .node l n.bare
  | .free l => .free l

/-- Whether two storages are the same up to the contents of files. -/
structure SameShape (s s' : Storage) : Prop where
  /-- The current directory is the same. -/
  current : s'.current = s.current
  /-- The nodes are the same up to contents. -/
  nodes : ∀ l, (s'.at? l).map Node.bare = (s.at? l).map Node.bare

/-- Two attempts with the same outcome up to a function fail alike, or both succeed. -/
theorem map_eq_map_cases {α β : Type} {f : α → β} {x x' : Except Fault α}
    (h : x'.map f = x.map f) :
    (∃ e, x' = .error e ∧ x = .error e) ∨ ∃ a' a, x' = .ok a' ∧ x = .ok a ∧ f a' = f a := by
  cases x <;> cases x' <;> simp_all [Except.map]

theorem SameShape.of_at? (h : SameShape s s') {l : Location} {n : Node} (hn : s.at? l = some n) :
    ∃ n', s'.at? l = some n' ∧ n'.bare = n.bare := by
  have hl := h.nodes l
  rw [hn] at hl
  obtain ⟨n', hn', hbare⟩ := Option.map_eq_some_iff.1 hl
  exact ⟨n', hn', hbare⟩

theorem SameShape.at?_eq_none (h : SameShape s s') {l : Location} (hn : s.at? l = none) :
    s'.at? l = none := by
  have hl := h.nodes l
  rw [hn] at hl
  exact Option.map_eq_none_iff.1 hl

theorem SameShape.set (h : SameShape s s') {l : Location} (hl : l ≠ []) (n : Node) :
    SameShape (s.set l n) (s'.set l n) := by
  refine ⟨by simp [h.current], fun l' => ?_⟩
  rw [at?_set _ hl, at?_set _ hl]
  split
  · rfl
  · exact h.nodes l'

theorem walk_sameShape (h : SameShape s s') : ∀ (links : Nat) (l : Location) (steps : List String),
    (s'.walk w links l steps).map Spot.bare = (s.walk w links l steps).map Spot.bare
  | links, l, [] => by
    have hn := h.nodes l
    rw [walk_nil, walk_nil]
    cases h1 : s.at? l <;> cases h2 : s'.at? l <;> simp_all [Spot.bare, Except.map]
  | links, l, step :: rest => by
    rw [walk_cons, walk_cons]
    split
    · exact walk_sameShape h links _ rest
    · cases hn : s.at? (l ++ [step]) with
      | none => rw [h.at?_eq_none hn]
      | some n =>
        obtain ⟨n', hn', hbare⟩ := h.of_at? hn
        rw [hn']
        -- only a node of the same kind is bare in the same way
        cases n <;> cases n' <;> simp only [Node.bare, reduceCtorEq, Node.file.injEq,
          Node.directory.injEq, Node.link.injEq] at hbare
        · by_cases hrest : rest = [] <;> simp [hrest, Except.map, Spot.bare, Node.bare, hbare.2]
        · exact walk_sameShape h links _ rest
        · subst hbare
          by_cases hend : (decide (rest = []) && !w) = true
          · simp only [hend, if_true]
          · simp only [hend]
            cases links with
            | zero => rfl
            | succ links => exact walk_sameShape h links _ _
termination_by links _ steps => (links, steps.length)

/-- Paths lead to the same spots. -/
theorem resolve_sameShape (h : SameShape s s') (p : Path) :
    (s'.resolve w p).map Spot.bare = (s.resolve w p).map Spot.bare := by
  have hkind : ∀ n : Node, n.bare.kind = n.kind := fun n => by cases n <;> rfl
  have hwalk := walk_sameShape h linkLimit (if p.isAbsolute then [] else s.current) p.steps
    (w := w || p.namesDirectory)
  rw [resolve, resolve, h.current]
  split
  · rfl
  · dsimp only
    rcases map_eq_map_cases hwalk with ⟨e, hs', hs⟩ | ⟨spot', spot, hs', hs, hbare⟩
    · rw [hs', hs]
    · rw [hs', hs]
      cases spot <;> cases spot' <;> simp only [Spot.bare, reduceCtorEq, Spot.node.injEq] at hbare
      · rename_i n _ n'
        have hn : n'.kind = n.kind := by rw [← hkind, hbare.2, hkind]
        by_cases hdir : (p.namesDirectory && n.kind != .directory) = true <;>
          simp [hn, hdir, Except.map, Spot.bare, hbare]
      · simp [Except.map, Spot.bare, hbare]

/-- Whether two attempts to change storage come out the same up to the contents of files. -/
inductive SameOutcome : Except Fault Storage → Except Fault Storage → Prop
  /-- Both succeed. -/
  | ok {s s' : Storage} : SameShape s s' → SameOutcome (.ok s) (.ok s')
  /-- Both fail. -/
  | error (e : Fault) : SameOutcome (.error e) (.error e)

theorem SameOutcome.cases {x x' : Except Fault Storage} (h : SameOutcome x x') :
    (∃ t t', x = .ok t ∧ x' = .ok t' ∧ SameShape t t') ∨ ∃ e, x = .error e ∧ x' = .error e := by
  cases h with
  | ok ht => exact Or.inl ⟨_, _, rfl, rfl, ht⟩
  | error e => exact Or.inr ⟨e, rfl, rfl⟩

/-- Rewriting a file changes no shape. -/
theorem sameShape_set_file {l : Location} {c c' : Contents} {mode : Nat}
    (hfile : s.at? l = some (.file c mode)) : SameShape s (s.set l (.file c' mode)) := by
  have hl : l ≠ [] := by
    rintro rfl
    cases hfile
  refine ⟨current_set s l _, fun l' => ?_⟩
  rw [at?_set s hl]
  split
  · rename_i heq
    simp [heq, hfile, Node.bare]
  · rfl

end FirmwareSurvey.Storage
