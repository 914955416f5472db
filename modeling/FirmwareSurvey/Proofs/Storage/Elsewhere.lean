import FirmwareSurvey.Proofs.Storage.Written

/-!
# Changes elsewhere

On the way of a path lie directories and links alone. So a change of files, and of locations where
nothing was, matters to a path only if the path leads just there (`resolve_of_changesOnly`).

There are two uses. Writing a file leaves every other one as it is (`of_writeText_of_ne`). And a
directory that is not there yet may be made and filled: whatever is written into it, what could be
read before is still read (`Filled.readBytes`).
-/

namespace FirmwareSurvey.Storage

open FirmwareSurvey.Path

variable {s s' t : Storage} {p dir : Path} {l D : Location} {P : Location → Prop} {w : Bool}

/-! ### Ways that a change leaves alone -/

/-- The location of a spot. -/
def Spot.location : Spot → Location
  | .node l _ => l
  | .free l => l

/-- Whether storage changes at some locations only, and no way leads through them: at each there is
a file or nothing. -/
structure ChangesOnly (P : Location → Prop) (s s' : Storage) : Prop where
  /-- The current directory is the same. -/
  current : s'.current = s.current
  /-- Elsewhere every node is the same. -/
  nodes : ∀ l, ¬P l → s'.at? l = s.at? l
  /-- There may be files where storage changes. -/
  ends : ∀ l n, P l → s.at? l = some n → n.kind = .file

/-- A way that ends elsewhere stays, since it goes through directories and links alone. -/
theorem Walks.of_changesOnly (h : ChangesOnly P s s') {links : Nat} {l : Location}
    {steps : List String} {spot : Spot} (hl : s.Walks w links l steps spot)
    (hspot : ¬P spot.location) : s'.Walks w links l steps spot := by
  have hway : ∀ l n, s.at? l = some n → n.kind ≠ .file → s'.at? l = some n := fun l n hn hkind => by
    rw [h.nodes l fun hP => hkind (h.ends l n hP hn), hn]
  induction hl with
  | here hn => exact .here ((h.nodes _ hspot).trans hn)
  | up _ ih => exact .up (ih hspot)
  | free hup hn => exact .free hup ((h.nodes _ hspot).trans hn)
  | directory hup hn _ ih => exact .directory hup (hway _ _ hn (by simp [Node.kind])) (ih hspot)
  | file hup hn => exact .file hup ((h.nodes _ hspot).trans hn)
  | link hup hn hfollow => exact .link hup ((h.nodes _ hspot).trans hn) hfollow
  | along hup hn hfollow _ ih =>
    exact .along hup (hway _ _ hn (by simp [Node.kind])) hfollow (ih hspot)

/-- **A path leads where it led**, unless that is where storage changes. -/
theorem resolve_of_changesOnly (h : ChangesOnly P s s') {spot : Spot} (hspot : ¬P spot.location)
    (hresolve : s.resolve w p = .ok spot) : s'.resolve w p = .ok spot := by
  rw [resolve_eq_ok_iff] at hresolve ⊢
  rw [h.current]
  obtain ⟨htext, hwalk, hdir⟩ := hresolve
  exact ⟨htext, hwalk.of_changesOnly h hspot, hdir⟩

/-- What a path that leads elsewhere is written and read as. -/
theorem of_target?_of_changesOnly (h : ChangesOnly P s s') (hl : ¬P l)
    (htarget : s.target? p = some l) :
    s'.target? p = some l ∧ s'.readText p = s.readText p := by
  have hspot : ∃ spot, s.resolve true p = .ok spot ∧ spot.location = l := by
    rcases target?_eq_some_iff.1 htarget with ⟨c, mode, hspot⟩ | ⟨hspot, -⟩
    · exact ⟨_, hspot, rfl⟩
    · exact ⟨_, hspot, rfl⟩
  obtain ⟨spot, hspot, rfl⟩ := hspot
  have hspot' := resolve_of_changesOnly h hl hspot
  refine ⟨?_, ?_⟩
  · rw [← htarget, target?, target?, hspot, hspot']
  · rw [readText, readText, readBytes, readBytes, readContents, readContents, node?, node?, hspot,
      hspot']

/-- A file that is written changes storage at its place only. -/
theorem changesOnly_set (h : s.target? p = some l) (n : Node) :
    ChangesOnly (· = l) s (s.set l n) where
  current := current_set s l n
  nodes _ hl := at?_set_of_ne s hl n
  ends _ _ hl hn := kind_of_target? h (hl ▸ hn)

variable {text : String}

/-- A path that was written to is written to at the same place again. -/
theorem target?_of_writeText (h : s.writeText p text = .ok s') : s'.target? p = s.target? p := by
  obtain ⟨l, htarget, rfl⟩ := target?_of_writeContents h
  rw [htarget, target?, resolve_set_of_target? htarget]

/-- **Writing a file leaves every other one as it is.** -/
theorem of_writeText_of_ne {q : Path} {l' : Location} (h : s.writeText p text = .ok s')
    (hp : s.target? p = some l) (hq : s.target? q = some l') (hne : l' ≠ l) :
    s'.target? q = some l' ∧ s'.readText q = s.readText q := by
  obtain ⟨l, htarget, rfl⟩ := target?_of_writeContents h
  cases htarget.symm.trans hp
  exact of_target?_of_changesOnly (changesOnly_set htarget _) hne hq

/-- A change can be taken back where it leaves a file or nothing. -/
theorem ChangesOnly.symm (h : ChangesOnly P s s')
    (hends : ∀ l n, P l → s'.at? l = some n → n.kind = .file) : ChangesOnly P s' s where
  current := h.current.symm
  nodes l hl := (h.nodes l hl).symm
  ends := hends

/-- Where a path is written to does not depend on the files that are written before. -/
theorem target?_eq_some_of_writeText {q : Path} (h : s.writeText p text = .ok s')
    (hq : s.target? q = some l) : s'.target? q = some l := by
  obtain ⟨place, htarget, rfl⟩ := target?_of_writeContents h
  by_cases hl : l = place
  · subst hl
    rw [target?, resolve_set_of_target? hq]
  · exact (of_writeText_of_ne h htarget hq hl).1

/-- What lies elsewhere once a file is written lay there before. -/
theorem of_target?_of_writeText {q : Path} (h : s.writeText p text = .ok s')
    (hq : s'.target? q = some l) (hne : s'.target? q ≠ s'.target? p) :
    s.target? q = some l ∧ s.readText q = s'.readText q := by
  obtain ⟨place, htarget, rfl⟩ := target?_of_writeContents h
  have hp := (target?_of_writeText h).trans htarget
  have hback := (changesOnly_set htarget (.file ⟨text.toUTF8, 0⟩ (s.modeAt place))).symm
    fun l' n hl' hn => kind_of_target? hp (hl' ▸ hn)
  exact of_target?_of_changesOnly hback (fun hl => hne (by rw [hq, hp, hl])) hq

/-- **Whatever path leads to a file that was written reads what was written.** -/
theorem readText_of_target?_eq {q : Path} (h : s.writeText p text = .ok s')
    (hq : s'.target? q = s'.target? p) : s'.readText q = .ok text := by
  obtain ⟨l, htarget, rfl⟩ := target?_of_writeContents h
  rw [(target?_of_writeText h).trans htarget] at hq
  have hset := at?_set_self s (target?_ne_nil htarget) (.file ⟨text.toUTF8, 0⟩ (s.modeAt l))
  rcases target?_eq_some_iff.1 hq with ⟨c, mode, hspot⟩ | ⟨hspot, -⟩
  · cases (isIn_resolve hspot).symm.trans hset
    exact readText_of_resolve hspot
  · cases (isIn_resolve hspot).symm.trans hset

theorem exists_target?_of_readText (h : s.readText p = .ok text) : ∃ l, s.target? p = some l := by
  have hfile := isFile_of_readText h
  rw [isFile, node?] at hfile
  rw [target?]
  cases hspot : s.resolve true p with
  | error e => simp [hspot] at hfile
  | ok spot =>
    cases spot with
    | free l => simp [hspot] at hfile
    | node l n => cases n <;> simp_all

/-- **What is read elsewhere is what was read before a file was written.** -/
theorem readText_eq_ok_iff_of_writeText {q : Path} {body : String}
    (h : s.writeText p text = .ok s') (hne : s'.target? q ≠ s'.target? p) :
    s'.readText q = .ok body ↔ s.readText q = .ok body := by
  constructor
  · intro hread
    obtain ⟨l, hl⟩ := exists_target?_of_readText hread
    exact (of_target?_of_writeText h hl hne).2.trans hread
  · intro hread
    obtain ⟨l, hl⟩ := exists_target?_of_readText hread
    exact (of_target?_of_writeText h (target?_eq_some_of_writeText h hl) hne).2.symm.trans hread

/-- Writing a file leaves the ways of paths as they are. -/
theorem keepsWays_writeText (h : s.writeText p text = .ok s') : KeepsWays s s' := by
  obtain ⟨l, htarget, rfl⟩ := target?_of_writeContents h
  exact keepsWays_set (target?_ne_nil htarget) (fun n hn => kind_of_target? htarget hn) _

/-! ### Directories that are filled -/

/-- Storage in which a directory has been made, and files have been written into it. -/
inductive Filled (dir : Path) (s : Storage) : Storage → Prop
  /-- Nothing has been done yet. -/
  | refl : Filled dir s s
  /-- The directory is made. -/
  | make {t t' : Storage} : Filled dir s t → t.makeDirectories dir = .ok t' → Filled dir s t'
  /-- A file is written into it. -/
  | write {t t' : Storage} {name text : String} : Filled dir s t → IsName name →
      t.writeText (dir.child name) text = .ok t' → Filled dir s t'

/-- There is nothing below a free location. -/
theorem IsTree.at?_eq_none (htree : s.IsTree) (hfree : s.at? D = none) (below : Location) :
    s.at? (D ++ below) = none := by
  cases below with
  | nil => simpa using hfree
  | cons name rest =>
    rw [← Option.not_isSome_iff_eq_none]
    intro hsome
    obtain ⟨mode, hdir⟩ := htree.directory_of_append hsome
    rw [hfree] at hdir
    cases hdir

/-- **Filling a directory that is not there changes nothing elsewhere.** -/
theorem Filled.changesOnly (htree : s.IsTree) (hfree : s.resolve false dir = .ok (.free D))
    (h : Filled dir s t) : ChangesOnly (D <+: ·) s t := by
  have hnone : s.at? D = none := isIn_resolve hfree
  have hD : D ≠ [] := by
    rintro rfl
    cases hnone
  -- the directory is still free, or it is open and holds files
  suffices hboth : (t = s ∨ t.Opens dir D ∧ t.HoldsFiles D) ∧ ChangesOnly (D <+: ·) s t from hboth.2
  induction h with
  | refl =>
    refine ⟨.inl rfl, rfl, fun _ _ => rfl, fun l n hl hn => ?_⟩
    obtain ⟨below, rfl⟩ := hl
    rw [htree.at?_eq_none hnone] at hn
    cases hn
  | @make t t' _ hmake ih =>
    obtain ⟨rfl | ⟨hopens, hfiles⟩, honly⟩ := ih
    · obtain ⟨htext, -⟩ := walks_of_resolve_free hfree
      have hmade : t.makeDirectories dir = .ok (t.set D (.directory newDirectoryMode)) := by
        simp [makeDirectories, makeDirectoriesUpTo, makeDirectory, htext, hfree]
      cases hmake.symm.trans hmade
      refine ⟨.inr ⟨opens_set_of_free hfree, fun name n hn => ?_⟩, current_set _ _ _,
        fun l hl => at?_set_of_ne t ?_ _, honly.ends⟩
      · rw [at?_set_of_ne t (by simp), htree.at?_eq_none hnone] at hn
        cases hn
      · rintro rfl
        exact hl (List.prefix_refl _)
    · cases hmake.symm.trans hopens.makeDirectories
      exact ⟨.inr ⟨hopens, hfiles⟩, honly⟩
  | @write t t' name text _ hname hwrite ih =>
    obtain ⟨l, htarget, rfl⟩ := target?_of_writeContents hwrite
    obtain ⟨rfl | ⟨hopens, hfiles⟩, honly⟩ := ih
    · -- nothing can be written while the directory is not there
      obtain ⟨htext, hwalk⟩ := walks_of_resolve_free hfree
      have hwalk := hwalk.walk_append_of_free name
      rw [← steps_child htext hname, start] at hwalk
      simp [target?, resolve, text_child_ne htext hname, isAbsolute_child htext hname, hwalk]
        at htarget
    · rw [hopens.target?_child hfiles hname] at htarget
      obtain rfl := Option.some.inj htarget
      obtain ⟨t', hwrite', hopens', hfiles', -⟩ := hopens.writeText_child hfiles hname text
      cases hwrite.symm.trans hwrite'
      refine ⟨.inr ⟨hopens', hfiles'⟩, (current_set _ _ _).trans honly.current, fun l hl => ?_,
        honly.ends⟩
      rw [at?_set_of_ne, honly.nodes l hl]
      rintro rfl
      exact hl (List.prefix_append _ _)

/-- **What could be read before a directory was filled is still read.** -/
theorem Filled.readBytes (htree : s.IsTree) (hfree : s.resolve false dir = .ok (.free D))
    (h : Filled dir s t) {bytes : ByteArray} (hread : s.readBytes p = .ok bytes) :
    t.readBytes p = .ok bytes := by
  obtain ⟨l, n, hresolve⟩ : ∃ l n, s.resolve true p = .ok (.node l n) := by
    rw [Storage.readBytes, readContents, node?] at hread
    rcases hspot : s.resolve true p with e | ⟨l, n⟩ | l
    · rw [hspot] at hread
      cases hread
    · exact ⟨l, n, rfl⟩
    · rw [hspot] at hread
      cases hread
  have hl : ¬D <+: (Spot.node l n).location := by
    rintro ⟨below, rfl⟩
    cases (htree.at?_eq_none (isIn_resolve hfree) below).symm.trans (isIn_resolve hresolve)
  rw [← hread, Storage.readBytes, Storage.readBytes, readContents, readContents, node?, node?,
    resolve_of_changesOnly (h.changesOnly htree hfree) hl hresolve, hresolve]

end FirmwareSurvey.Storage
