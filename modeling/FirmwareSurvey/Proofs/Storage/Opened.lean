import FirmwareSurvey.Proofs.Storage.Child
import FirmwareSurvey.Proofs.Storage.Nodes

/-!
# Directories that are open

A path that leads to a directory keeps leading there as long as directories and links stay, and a
name inside it leads to what lies directly below that location. So a directory that is open may be
looked into and written to by location.

A directory is vacant when no file is found in it and making it gives an empty one: it may not be
there yet.
-/

namespace FirmwareSurvey.Storage

open FirmwareSurvey.Path

variable {s s' : Storage} {dir : Path} {D : Location} {name : String}

/-! ### Texts -/

theorem fromUTF8?_toUTF8 (text : String) : String.fromUTF8? text.toUTF8 = some text := by
  simp [String.fromUTF8?, String.fromUTF8, text.isValidUTF8]

/-- What can be read as a text is a file. -/
theorem isFile_of_readText {p : Path} {text : String} (h : s.readText p = .ok text) :
    s.isFile p = true := by
  rw [isFile]
  rw [readText, readBytes, readContents] at h
  split
  · rfl
  · rename_i hno
    cases hnode : s.node? true p with
    | error e =>
      rw [hnode] at h
      cases h
    | ok n =>
      cases n with
      | file c mode => exact absurd hnode (hno c mode)
      | directory mode =>
        rw [hnode] at h
        cases h
      | link target =>
        rw [hnode] at h
        cases h

/-! ### Ways -/

/-- Where the way of a path starts. -/
def start (s : Storage) (p : Path) : Location := if p.isAbsolute then [] else s.current

/-- Whether a path leads to a directory at a location. -/
def Opens (s : Storage) (p : Path) (D : Location) : Prop :=
  ∃ mode, s.resolve true p = .ok (.node D (.directory mode))

/-- The location of the directory a path leads to. -/
def opened? (s : Storage) (p : Path) : Option Location :=
  match s.resolve true p with
  | .ok (.node D (.directory _)) => some D
  | _ => none

theorem Opens.opened?_eq (h : s.Opens dir D) : s.opened? dir = some D := by
  obtain ⟨mode, h⟩ := h
  rw [opened?, h]

theorem opens_iff : s.Opens dir D ↔ dir.text ≠ "" ∧
    ∃ mode, s.Walks true linkLimit (s.start dir) dir.steps (.node D (.directory mode)) := by
  simp only [Opens, resolve_eq_ok_iff, Bool.true_or]
  constructor
  · rintro ⟨mode, htext, hwalks, -⟩
    exact ⟨htext, mode, hwalks⟩
  · rintro ⟨htext, mode, hwalks⟩
    refine ⟨mode, htext, hwalks, ?_⟩
    rintro l n ⟨⟩ -
    rfl

theorem Opens.text_ne (h : s.Opens dir D) : dir.text ≠ "" := (opens_iff.1 h).1

theorem Opens.at? (h : s.Opens dir D) : ∃ mode, s.at? D = some (.directory mode) := by
  obtain ⟨mode, h⟩ := h
  exact ⟨mode, isIn_resolve h⟩

/-- A path with the same steps leads to the same directory. -/
theorem Opens.congr {p : Path} (h : s.Opens dir D) (htext : p.text ≠ "")
    (hsteps : p.steps = dir.steps) (habsolute : p.isAbsolute = dir.isAbsolute) : s.Opens p D := by
  rw [opens_iff] at h ⊢
  rw [hsteps, start, habsolute]
  exact ⟨htext, h.2⟩

/-- Whether all directories and links stay where they are. -/
structure KeepsWays (s s' : Storage) : Prop where
  /-- The current directory is the same. -/
  current : s'.current = s.current
  /-- A directory or link stays. -/
  nodes : ∀ l n, s.at? l = some n → n.kind ≠ .file → s'.at? l = some n

/-- On the way to a directory there are directories and links alone, so the way stays with them. -/
theorem Walks.keepsWays {links : Nat} {l : Location} {steps : List String} {mode : Nat}
    (hl : s.Walks true links l steps (.node D (.directory mode))) (h : KeepsWays s s') :
    s'.Walks true links l steps (.node D (.directory mode)) := by
  generalize hspot : Spot.node D (.directory mode) = spot at hl
  induction hl with
  | here hn =>
    cases hspot
    exact .here (h.nodes _ _ hn (by simp [Node.kind]))
  | up _ ih => exact .up (ih hspot)
  | free => cases hspot
  | directory hup hn _ ih => exact .directory hup (h.nodes _ _ hn (by simp [Node.kind])) (ih hspot)
  | file => cases hspot
  | link => cases hspot
  | along hup hn hfollow _ ih =>
    exact .along hup (h.nodes _ _ hn (by simp [Node.kind])) hfollow (ih hspot)

/-- **An open directory stays open as long as directories and links stay.** -/
theorem Opens.keepsWays (h : s.Opens dir D) (hways : KeepsWays s s') : s'.Opens dir D := by
  obtain ⟨htext, mode, hwalk⟩ := opens_iff.1 h
  refine opens_iff.2 ⟨htext, mode, ?_⟩
  rw [start, hways.current]
  exact hwalk.keepsWays hways

/-- A file that is written takes no way. -/
theorem keepsWays_set {l : Location} (hl : l ≠ [])
    (h : ∀ n, s.at? l = some n → n.kind = .file) (n : Node) : KeepsWays s (s.set l n) where
  current := current_set s l n
  nodes l' n' hn hkind := by
    rw [at?_set_of_ne s, hn]
    rintro rfl
    exact hkind (h n' hn)

/-! ### What is inside -/

/-- What a location stands for. -/
def spotAt (s : Storage) (l : Location) : Spot :=
  match s.at? l with
  | some n => .node l n
  | none => .free l

/-- One more step from a directory leads to what lies below it, if that is no link. -/
theorem walks_name (links : Nat) (hname : name ≠ "..")
    (hlink : ∀ target, s.at? (D ++ [name]) ≠ some (.link target)) :
    s.Walks true links D [name] (s.spotAt (D ++ [name])) := by
  rw [spotAt]
  cases hn : s.at? (D ++ [name]) with
  | none => exact .free hname hn
  | some n =>
    cases n with
    | file c mode => exact .file hname hn
    | directory mode => exact .directory hname hn (.here hn)
    | link target => exact absurd hn (hlink target)

theorem Walks.append {links : Nat} {l : Location} {steps : List String} {mode : Nat}
    (hl : s.Walks true links l steps (.node D (.directory mode))) (hname : name ≠ "..")
    (hlink : ∀ target, s.at? (D ++ [name]) ≠ some (.link target)) :
    s.Walks true links l (steps ++ [name]) (s.spotAt (D ++ [name])) := by
  generalize hspot : Spot.node D (.directory mode) = spot at hl
  induction hl with
  | here =>
    cases hspot
    exact walks_name _ hname hlink
  | up _ ih => exact .up (ih hspot)
  | free => cases hspot
  | directory hup hn _ ih => exact .directory hup hn (ih hspot)
  | file => cases hspot
  | link => cases hspot
  | along hup hn _ _ ih =>
    have hrest := ih hspot
    rw [List.append_assoc] at hrest
    exact .along hup hn (fun _ => rfl) hrest

/-- **A name inside an open directory leads to what lies below it.** -/
theorem Opens.resolve_child (h : s.Opens dir D) (hname : IsName name)
    (hlink : ∀ target, s.at? (D ++ [name]) ≠ some (.link target)) :
    s.resolve true (dir.child name) = .ok (s.spotAt (D ++ [name])) := by
  obtain ⟨htext, mode, hwalk⟩ := opens_iff.1 h
  have hwalk := walk_eq_ok_iff.2 (hwalk.append hname.upwards hlink)
  rw [← steps_child htext hname] at hwalk
  simp only [resolve, beq_iff_eq, text_child_ne htext hname, if_false, isAbsolute_child htext hname,
    namesDirectory_child htext hname, Bool.or_false, Bool.false_and, Bool.false_eq_true]
  rw [← start, hwalk]
  cases s.spotAt (D ++ [name]) <;> rfl

/-- A name inside an open directory leads to the node below it, if that is no link. -/
theorem Opens.resolve_child_of_at? (h : s.Opens dir D) (hname : IsName name) {n : Node}
    (hn : s.at? (D ++ [name]) = some n) (hkind : n.kind ≠ .link) :
    s.resolve true (dir.child name) = .ok (.node (D ++ [name]) n) := by
  rw [h.resolve_child hname, spotAt, hn]
  intro target hlink
  obtain rfl := Option.some.inj (hn.symm.trans hlink)
  exact hkind rfl

/-- Whether nothing but files lies directly below a location. -/
def HoldsFiles (s : Storage) (D : Location) : Prop :=
  ∀ name n, s.at? (D ++ [name]) = some n → n.kind = .file

theorem HoldsFiles.not_link (h : s.HoldsFiles D) (name : String) (target : Path) :
    s.at? (D ++ [name]) ≠ some (.link target) := by
  intro hn
  cases h name _ hn

/-- A name inside is free, or that of a file. -/
theorem HoldsFiles.free_or_file (h : s.HoldsFiles D) (name : String) :
    s.at? (D ++ [name]) = none ∨ ∃ c mode, s.at? (D ++ [name]) = some (.file c mode) := by
  cases hn : s.at? (D ++ [name]) with
  | none => exact .inl rfl
  | some n =>
    cases n with
    | file c mode => exact .inr ⟨c, mode, rfl⟩
    | directory mode => cases h name _ hn
    | link target => cases h name _ hn

/-- What is read under a name inside an open directory. -/
theorem Opens.readContents_child (h : s.Opens dir D) (hfiles : s.HoldsFiles D)
    (hname : IsName name) :
    s.readContents (dir.child name) =
      match s.fileAt? (D ++ [name]) with
      | some c => .ok c
      | none => .error .notFound := by
  rw [readContents, node?, h.resolve_child hname (hfiles.not_link name), spotAt, fileAt?]
  obtain hn | ⟨c, mode, hn⟩ := hfiles.free_or_file name
  · rw [hn]
    rfl
  · rw [hn]
    rfl

/-- The text of a file that was written as a text. -/
theorem Opens.readText_child (h : s.Opens dir D) (hfiles : s.HoldsFiles D) (hname : IsName name)
    {text : String} (htext : s.fileAt? (D ++ [name]) = some ⟨text.toUTF8, 0⟩) :
    s.readText (dir.child name) = .ok text := by
  have hbytes : s.readBytes (dir.child name) = .ok text.toUTF8 := by
    rw [readBytes, h.readContents_child hfiles hname, htext]
    rfl
  rw [readText, hbytes]
  simp only [bind, Except.bind, fromUTF8?_toUTF8]

theorem Opens.readText_missing (h : s.Opens dir D) (hfiles : s.HoldsFiles D)
    (hname : IsName name) (hnone : s.fileAt? (D ++ [name]) = none) :
    s.readText (dir.child name) = .error .notFound := by
  rw [readText, readBytes, h.readContents_child hfiles hname, hnone]
  rfl

/-- What is read under a name depends on the file below the directory alone. -/
theorem Opens.readText_congr {s' : Storage} (h : s.Opens dir D) (hfiles : s.HoldsFiles D)
    (h' : s'.Opens dir D) (hfiles' : s'.HoldsFiles D) (hname : IsName name)
    (hsame : s'.fileAt? (D ++ [name]) = s.fileAt? (D ++ [name])) :
    s'.readText (dir.child name) = s.readText (dir.child name) := by
  rw [readText, readText, readBytes, readBytes, h.readContents_child hfiles hname,
    h'.readContents_child hfiles' hname, hsame]

/-- A file that is written under a name inside an open directory comes to lie below it. -/
theorem Opens.target?_child (h : s.Opens dir D) (hfiles : s.HoldsFiles D) (hname : IsName name) :
    s.target? (dir.child name) = some (D ++ [name]) := by
  rw [target?, h.resolve_child hname (hfiles.not_link name), spotAt]
  obtain hn | ⟨c, mode, hn⟩ := hfiles.free_or_file name
  · simp [hn, namesDirectory_child h.text_ne hname]
  · simp [hn]

/-- **Writing under a name inside an open directory** sets the file below it, and the directory stays
open. -/
theorem Opens.writeText_child (h : s.Opens dir D) (hfiles : s.HoldsFiles D) (hname : IsName name)
    (text : String) :
    ∃ s', s.writeText (dir.child name) text = .ok s' ∧ s'.Opens dir D ∧ s'.HoldsFiles D ∧
      ∀ other, s'.fileAt? (D ++ [other]) =
        if other = name then some ⟨text.toUTF8, 0⟩ else s.fileAt? (D ++ [other]) := by
  have hne : D ++ [name] ≠ [] := by simp
  refine ⟨_, writeContents_of_target? _ (h.target?_child hfiles hname),
    h.keepsWays (keepsWays_set hne ?_ _), ?_, ?_⟩
  · exact fun n hn => hfiles name n hn
  · intro other n hn
    rw [at?_set s hne] at hn
    split at hn
    · cases hn
      rfl
    · exact hfiles other n hn
  · intro other
    rw [fileAt?_set_file s hne]
    simp

/-! ### Directories that are made -/

/-- Not to follow the last link leads to some node as well. -/
theorem Walks.unfollowed {links : Nat} {l : Location} {steps : List String} {mode : Nat}
    (hl : s.Walks true links l steps (.node D (.directory mode))) :
    ∃ l' n, s.Walks false links l steps (.node l' n) := by
  generalize hspot : Spot.node D (.directory mode) = spot at hl
  induction hl with
  | here hn => exact ⟨_, _, .here hn⟩
  | up _ ih =>
    obtain ⟨l', n, hl'⟩ := ih hspot
    exact ⟨l', n, .up hl'⟩
  | free => cases hspot
  | directory hup hn _ ih =>
    obtain ⟨l', n, hl'⟩ := ih hspot
    exact ⟨l', n, .directory hup hn hl'⟩
  | file => cases hspot
  | link => cases hspot
  | @along links l step rest spot target hup hn _ _ ih =>
    -- a link at the end is itself the node; any other is followed as before
    by_cases hrest : rest = []
    · subst hrest
      exact ⟨_, _, .link hup hn rfl⟩
    · obtain ⟨l', n, hl'⟩ := ih hspot
      exact ⟨l', n, .along hup hn (absurd · hrest) hl'⟩

/-- **A directory that is open is not made again.** -/
theorem Opens.makeDirectories (h : s.Opens dir D) : s.makeDirectories dir = .ok s := by
  have hdir : s.isDirectory dir = true := by
    obtain ⟨mode, h⟩ := h
    rw [isDirectory, node?, h]
  obtain ⟨htext, mode, hwalk⟩ := opens_iff.1 h
  have hspot : ∃ l n, s.resolve false dir = .ok (.node l n) := by
    cases hnames : dir.namesDirectory with
    | true =>
      refine ⟨D, .directory mode, resolve_eq_ok_iff.2 ⟨htext, ?_, ?_⟩⟩
      · rwa [hnames, Bool.false_or]
      · rintro l n ⟨⟩ -
        rfl
    | false =>
      obtain ⟨l, n, hwalk⟩ := hwalk.unfollowed
      refine ⟨l, n, resolve_eq_ok_iff.2 ⟨htext, ?_, fun _ _ _ hdir => ?_⟩⟩
      · rwa [hnames, Bool.false_or]
      · rw [hnames] at hdir
        cases hdir
  obtain ⟨l, n, hspot⟩ := hspot
  simp [Storage.makeDirectories, makeDirectoriesUpTo, makeDirectory, htext, hspot, hdir]

/-- A directory around a name inside an open one is not made again. -/
theorem Opens.makeDirectories_parent (h : s.Opens dir D) (hname : IsName name) :
    ∃ above, (dir.child name).parent? = some above ∧ s.makeDirectories above = .ok s := by
  obtain ⟨above, habove, htext, hsteps, habsolute⟩ := parent?_child h.text_ne hname
  exact ⟨above, habove, (h.congr htext hsteps habsolute).makeDirectories⟩

end FirmwareSurvey.Storage
