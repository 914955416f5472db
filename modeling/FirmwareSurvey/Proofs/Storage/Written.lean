import FirmwareSurvey.Proofs.Storage.Vacant

/-!
# Texts that were written

A text written to a path is what is read there afterwards, whatever directories and links the path
goes through (`readText_of_writeText`): the file takes the place of a file or a free name, and
neither was on the way. For the same reason a directory that was made stays open, so that another
text can be written there (`canWrite_written`).
-/

namespace FirmwareSurvey.Storage

open FirmwareSurvey.Path

variable {s s' : Storage} {p dir : Path} {l : Location} {text : String}

/-! ### Reading what was written -/

/-- **A path leads to the file that was written to it.** -/
theorem resolve_set_of_target? (h : s.target? p = some l) (c : Contents) :
    (s.set l (.file c (s.modeAt l))).resolve true p =
      .ok (.node l (.file c (s.modeAt l))) := by
  rcases target?_eq_some_iff.1 h with ⟨c', mode, hspot⟩ | ⟨hspot, hname⟩
  · have hfile : s.at? l = some (.file c' mode) := isIn_resolve hspot
    have hmode : s.modeAt l = mode := by rw [modeAt, hfile]
    rw [hmode]
    -- the way is the same, and the node at its end is the new file
    have hshape : SameShape s (s.set l (.file c mode)) := sameShape_set_file hfile
    rcases map_eq_map_cases (resolve_sameShape (w := true) hshape p) with
      ⟨e, -, hs⟩ | ⟨spot', spot, hs', hs, hbare⟩
    · cases hspot.symm.trans hs
    · cases hspot.symm.trans hs
      have hin := isIn_resolve hs'
      cases spot' with
      | free _ => simp [Spot.bare] at hbare
      | node l'' n =>
        obtain ⟨rfl, -⟩ := Spot.node.inj hbare
        have hn : (s.set l'' (.file c mode)).at? l'' = some n := hin
        rw [at?_set_self s (target?_ne_nil h)] at hn
        rw [hs', ← Option.some.inj hn]
  · obtain ⟨htext, hwalk⟩ := walks_of_resolve_free hspot
    have hset := walk_eq_ok_iff.2 (hwalk.set_of_free (n := .file c (s.modeAt l))
      (by simp [Node.kind]) (isIn_resolve hspot))
    rw [start] at hset
    simp [resolve, htext, hname, hset]

/-- A path that leads to a file of a text reads the text. -/
theorem readText_of_resolve {mode : Nat}
    (h : s.resolve true p = .ok (.node l (.file ⟨text.toUTF8, 0⟩ mode))) :
    s.readText p = .ok text := by
  have hbytes : s.readBytes p = .ok text.toUTF8 := by
    rw [readBytes, readContents, node?, h]
    rfl
  rw [readText, hbytes]
  simp only [bind, Except.bind, fromUTF8?_toUTF8]

/-- **A text that was written is read back.** -/
theorem readText_of_writeText (h : s.writeText p text = .ok s') : s'.readText p = .ok text := by
  obtain ⟨l, htarget, rfl⟩ := target?_of_writeContents h
  exact readText_of_resolve (resolve_set_of_target? htarget _)

/-! ### Directories that were made -/

theorem opens_of_isDirectory (h : s.isDirectory dir = true) : ∃ D, s.Opens dir D := by
  rw [isDirectory, node?] at h
  split at h
  · rename_i mode hnode
    split at hnode
    · rename_i D n hspot
      cases hnode
      exact ⟨D, mode, hspot⟩
    · cases hnode
    · cases hnode
  · cases h

theorem opens_of_makeDirectory (h : s.makeDirectory dir = .ok s') : ∃ D, s'.Opens dir D := by
  obtain ⟨D, hspot, rfl⟩ := makeDirectory_eq_ok_iff.1 h
  exact ⟨D, opens_set_of_free hspot⟩

/-- **A directory that was made is open.** An empty path stands for no directory. -/
theorem opens_of_makeDirectories (h : s.makeDirectories dir = .ok s') :
    dir.text = "" ∨ ∃ D, s'.Opens dir D := by
  obtain ⟨hempty, -⟩ | ⟨t, -, hmake | ⟨hdir, rfl⟩⟩ := exists_of_makeDirectoriesUpTo h
  · exact .inl hempty
  · exact .inr (opens_of_makeDirectory hmake)
  · exact .inr (opens_of_isDirectory hdir)

/-! ### Writing into a directory that is made -/

/-- Whether a directory can be made, and a file then be written to a path. -/
def CanWrite (s : Storage) (dir p : Path) : Prop :=
  ∃ opened, s.makeDirectories dir = .ok opened ∧ (opened.target? p).isSome = true

/-- Whether a file can be written to a path does not depend on what is written. -/
theorem CanWrite.writeText (h : s.CanWrite dir p) (text : String) :
    ∃ opened s', s.makeDirectories dir = .ok opened ∧ opened.writeText p text = .ok s' := by
  obtain ⟨opened, hopened, htarget⟩ := h
  obtain ⟨l, htarget⟩ := Option.isSome_iff_exists.1 htarget
  exact ⟨opened, _, hopened, writeContents_of_target? _ htarget⟩

/-- What is open and can be written to can be made and written to. -/
theorem canWrite_of_writeText {opened : Storage} (hopened : s.makeDirectories dir = .ok opened)
    (hwrite : opened.writeText p text = .ok s') : s.CanWrite dir p := by
  obtain ⟨l, htarget, -⟩ := target?_of_writeContents hwrite
  exact ⟨opened, hopened, by simp [htarget]⟩

/-- **What was written once can be written again.** -/
theorem canWrite_written {opened : Storage} (hopened : s.makeDirectories dir = .ok opened)
    (hwrite : opened.writeText p text = .ok s') : s'.CanWrite dir p := by
  obtain ⟨l, htarget, rfl⟩ := target?_of_writeContents hwrite
  refine ⟨opened.set l (.file ⟨text.toUTF8, 0⟩ (opened.modeAt l)), ?_, ?_⟩
  · rcases opens_of_makeDirectories hopened with hempty | ⟨D, hopens⟩
    · simp [makeDirectories, makeDirectoriesUpTo, hempty]
    · have hways : KeepsWays opened (opened.set l (.file ⟨text.toUTF8, 0⟩ (opened.modeAt l))) :=
        keepsWays_set (target?_ne_nil htarget) (fun n hn => kind_of_target? htarget hn) _
      exact (hopens.keepsWays hways).makeDirectories
  · simp [target?, resolve_set_of_target? htarget]

/-- A name in a vacant directory can be written to. -/
theorem Vacant.canWrite {name : String} (h : s.Vacant dir) (hname : IsName name) :
    s.CanWrite dir (dir.child name) := by
  obtain ⟨opened, D, hopened, hopens, hempty⟩ := h.makes
  have hfiles : opened.HoldsFiles D := fun name n hn => by
    rw [hempty] at hn
    cases hn
  obtain ⟨s', hwrite, -⟩ := hopens.writeText_child hfiles hname ""
  exact canWrite_of_writeText hopened hwrite

end FirmwareSurvey.Storage
