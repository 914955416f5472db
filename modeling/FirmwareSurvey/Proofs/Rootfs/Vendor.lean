import FirmwareSurvey.Proofs.Host.Exec
import FirmwareSurvey.Proofs.Members
import FirmwareSurvey.Proofs.Storage.Relative
import FirmwareSurvey.Rootfs.Vendor

/-!
# Files of vendors

Patterns are looked for in one directory after another, and what is found is known by the path that
it is shown by. The search gives candidates in an order (`candidates`), and of those that are shown
alike the first one is taken (`Gathered`): one step takes a candidate or passes it over
(`Gathered.add`), and so the whole search gathers all candidates (`gathered_of_exec`). In the order
of the search the rows of the table come before the files, so that a file is known by the first row
that its name fits (`isFirstFit_of_find?`).

A file is counted once if it is shown alike from wherever it is found (`Gathered.countedOnce_iff`).
That is so when no directory that is searched is reached through a link
(`shownAlike_of_isDirect`), but where one is a link to another one, every file in it is shown twice
(`not_countedOnce_mergedTree`).
-/

namespace FirmwareSurvey.Rootfs

open FirmwareSurvey.Path Storage OnHost

variable {tools : Config.ToolPaths} {host : Host} {s s' : Storage} {root : Path} {R : Location}
  {directories : List String} {table : List VendorPattern}

/-! ### Files that are asked for -/

/-- Whether a name fits the pattern of a row. -/
def VendorPattern.Fits (row : VendorPattern) (name : String) : Prop :=
  Text.FitsOnLine row.pattern.toList name.toList

/-- Whether a row is the first one of a table whose pattern a name fits. -/
def IsFirstFit (table : List VendorPattern) (name : String) (row : VendorPattern) : Prop :=
  ∃ before after, table = before ++ row :: after ∧ row.Fits name ∧ ∀ r ∈ before, ¬r.Fits name

/-- Whether the name at a location fits some pattern of a table. -/
def IsWanted (table : List VendorPattern) (l : Location) : Prop :=
  ∃ name ∈ l.getLast?, ∃ row ∈ table, row.Fits name

/-- Whether one or two names lead from a directory that is searched to a regular file. -/
structure LeadsTo (s : Storage) (root : Path) (d : String) (names : List String) (l : Location) :
    Prop where
  /-- They lead on from where the directory lies, through links or not. -/
  opens : ∃ D, s.Opens (root.child d) D ∧ l = D ++ names
  /-- The file lies directly in the directory, or one level below. -/
  near : names.length = 1 ∨ names.length = 2
  /-- It is a regular file. -/
  file : ∃ c mode, s.at? l = some (.file c mode)

/-- How a file is shown that names lead to from a directory. -/
def shownAs (root : Path) (d : String) (names : List String) : String :=
  ((pathBelow (root.child d) names).relativeTo root).text

/-- The location of the regular file that a shown path leads to. -/
def fileBelow? (s : Storage) (root : Path) (shown : String) : Option Location :=
  match s.resolve true (root.child shown) with
  | .ok (.node l (.file _ _)) => some l
  | _ => none

variable {d : String} {names : List String} {l : Location} {p : Path} {row : VendorPattern}

namespace LeadsTo

theorem exists_concat (h : LeadsTo s root d names l) :
    ∃ above name, names = above ++ [name] ∧ l.getLast? = some name := by
  obtain ⟨D, -, hl⟩ := h.opens
  rcases List.eq_nil_or_concat names with rfl | ⟨above, name, rfl⟩
  · rcases h.near with hlength | hlength <;> cases hlength
  · rw [List.concat_eq_append] at hl
    refine ⟨above, name, List.concat_eq_append, ?_⟩
    rw [hl, ← List.append_assoc, List.getLast?_concat]

theorem isName (htidy : s.IsTidy) (h : LeadsTo s root d names l) :
    ∀ name ∈ names, IsName name := by
  obtain ⟨D, -, hl⟩ := h.opens
  obtain ⟨c, mode, hfile⟩ := h.file
  intro name hname
  exact htidy.isName hfile (by rw [hl]; exact List.mem_append_right _ hname)

theorem fileName_eq (htidy : s.IsTidy) (h : LeadsTo s root d names l) {name : String}
    (hname : name ∈ l.getLast?) : (pathBelow (root.child d) names).fileName = name := by
  obtain ⟨above, last, rfl, hlast⟩ := h.exists_concat
  obtain ⟨D, hopens, -⟩ := h.opens
  obtain rfl : last = name := Option.some.inj (hlast.symm.trans hname)
  exact fileName_pathBelow hopens.text_ne above (h.isName htidy last (by simp))

/-- **What is shown of a file leads to it.** -/
theorem fileBelow?_eq (htidy : s.IsTidy) (hroot : s.Opens root R)
    (h : LeadsTo s root d names l) : fileBelow? s root (shownAs root d names) = some l := by
  obtain ⟨above, name, rfl, -⟩ := h.exists_concat
  obtain ⟨D, hopens, hl⟩ := h.opens
  obtain ⟨c, mode, hfile⟩ := h.file
  rw [← List.append_assoc] at hl
  rw [hl] at hfile
  have hresolve := hopens.resolve_pathBelow htidy hfile
  rw [fileBelow?, shownAs, hroot.resolve_relativeTo
    (isAbsolute_or_below hroot.text_ne (h.isName htidy)) hresolve, hl]

end LeadsTo

theorem accepts_row_iff {e : Entry} :
    ({ wanted := [row.pattern], kind := some .file, depth := some 2 } : Query).accepts e = true ↔
      e.node.kind = .file ∧ e.names.length ≤ 2 ∧ row.Fits e.name := by
  rw [Query.accepts_eq_true_iff, VendorPattern.Fits]
  constructor
  · rintro ⟨hkind, hdepth, hfits, -⟩
    exact ⟨hkind _ rfl, hdepth 2 rfl, by simpa using hfits⟩
  · rintro ⟨hkind, hdepth, hfits⟩
    refine ⟨?_, ?_, .inr ⟨row.pattern, by simp, hfits⟩, by simp⟩
    · rintro _ ⟨⟩
      exact hkind
    · rintro _ ⟨⟩
      exact hdepth

/-- **What a pattern finds** are the files that it fits, directly in a directory or one level
below. -/
theorem mem_matchingFiles_iff (htidy : s.IsTidy) :
    p ∈ matchingFiles s (root.child d) row ↔ ∃ names l, LeadsTo s root d names l ∧
      (∃ name ∈ l.getLast?, row.Fits name) ∧ p = pathBelow (root.child d) names := by
  rw [matchingFiles, Query.mem_find_iff]
  constructor
  · rintro ⟨e, he, haccepts, rfl⟩
    obtain ⟨D, hopens, hmem, hne, hpath⟩ := mem_below_iff.1 he
    obtain ⟨hkind, hdepth, hfits⟩ := accepts_row_iff.1 haccepts
    have hlength := List.length_pos_iff.2 hne
    -- of what lies below, a row takes files only, two levels deep at most
    have hfile : ∃ c mode, e.node = .file c mode := by
      cases hnode : e.node with
      | file c mode => exact ⟨c, mode, rfl⟩
      | directory mode => rw [hnode] at hkind; cases hkind
      | link target => rw [hnode] at hkind; cases hkind
    obtain ⟨c, mode, hnode⟩ := hfile
    have hat : s.at? (D ++ e.names) = some (.file c mode) := by
      rw [← hnode]
      exact (htidy.at?_eq_some_iff (by simp [hne])).2 hmem
    have hlast : e.name ∈ (D ++ e.names).getLast? := by
      rw [List.getLast?_append_of_ne_nil _ hne, Entry.name, List.getLast?_eq_some_getLast hne]
      rfl
    exact ⟨e.names, D ++ e.names, ⟨⟨D, hopens, rfl⟩, by omega, c, mode, hat⟩,
      ⟨e.name, hlast, hfits⟩, hpath⟩
  · rintro ⟨names, l, hlead, ⟨name, hname, hfits⟩, rfl⟩
    obtain ⟨D, hopens, rfl⟩ := hlead.opens
    obtain ⟨c, mode, hfile⟩ := hlead.file
    obtain ⟨above, last, rfl, hlast⟩ := hlead.exists_concat
    obtain rfl : last = name := Option.some.inj (hlast.symm.trans hname)
    have hnear := hlead.near
    refine ⟨⟨pathBelow (root.child d) (above ++ [last]), above ++ [last], .file c mode⟩,
      mem_below_iff.2 ⟨D, hopens, (htidy.at?_eq_some_iff (by simp)).1 hfile, by simp, rfl⟩,
      accepts_row_iff.2 ⟨rfl, ?_, ?_⟩, rfl⟩
    · dsimp only
      omega
    · simpa [Entry.name] using hfits

/-! ### The order of the search -/

/-- What a row finds in a directory. -/
def foundBy (s : Storage) (root : Path) (d : String) (row : VendorPattern) :
    List (VendorPattern × Path) :=
  (matchingFiles s (root.child d) row).map fun p => (row, p)

/-- What the rows of a table find in directories, in the order of the search. -/
def candidates (s : Storage) (root : Path) (directories : List String)
    (table : List VendorPattern) : List (VendorPattern × Path) :=
  directories.flatMap fun d => table.flatMap (foundBy s root d)

/-- How a candidate is shown. -/
def shownCandidate (root : Path) (c : VendorPattern × Path) : String := (c.2.relativeTo root).text

theorem mem_candidates_of_leadsTo (htidy : s.IsTidy) (hd : d ∈ directories)
    (h : LeadsTo s root d names l) (hwanted : IsWanted table l) :
    ∃ c ∈ candidates s root directories table, shownCandidate root c = shownAs root d names := by
  obtain ⟨name, hname, row, hrow, hfits⟩ := hwanted
  refine ⟨(row, pathBelow (root.child d) names), ?_, rfl⟩
  simp only [candidates, foundBy, List.mem_flatMap, List.mem_map]
  exact ⟨d, hd, row, hrow, _,
    (mem_matchingFiles_iff htidy).2 ⟨names, l, h, ⟨name, hname, hfits⟩, rfl⟩, rfl⟩

/-- **The first candidate that is shown in some way was found by the first row that its name
fits**, because the rows before it search the same directory before. -/
theorem isFirstFit_of_find? (htidy : s.IsTidy) {shown : String} {c : VendorPattern × Path}
    (h : (candidates s root directories table).find? (shownCandidate root · == shown) = some c) :
    ∃ d ∈ directories, ∃ names l, LeadsTo s root d names l ∧ shownAs root d names = shown ∧
      ∃ name ∈ l.getLast?, c.2.fileName = name ∧ IsFirstFit table name c.1 := by
  rw [candidates, List.find?_flatMap, List.findSome?_eq_some_iff] at h
  obtain ⟨before, d, after, rfl, hdirectory, -⟩ := h
  rw [List.find?_flatMap, List.findSome?_eq_some_iff] at hdirectory
  obtain ⟨rows, row, rest, rfl, hfound, hnone⟩ := hdirectory
  have hshown : shownCandidate root c = shown := by simpa using List.find?_some hfound
  obtain ⟨p, hp, rfl⟩ := List.mem_map.1 (List.mem_of_find?_eq_some hfound)
  obtain ⟨names, l, hlead, ⟨name, hname, hfits⟩, rfl⟩ := (mem_matchingFiles_iff htidy).1 hp
  refine ⟨d, by simp, names, l, hlead, hshown, name, hname, ?_, rows, rest, rfl, hfits, ?_⟩
  · exact hlead.fileName_eq htidy hname
  · intro r hr hfits'
    have hfind := List.find?_eq_none.1 (hnone r hr) (r, pathBelow (root.child d) names)
      (List.mem_map.2 ⟨_, (mem_matchingFiles_iff htidy).2
        ⟨names, l, hlead, ⟨name, hname, hfits'⟩, rfl⟩, rfl⟩)
    exact hfind (by simpa [shownCandidate] using hshown)

/-! ### Taking each path once -/

/-- Whether files are what is taken from candidates: each shown path once, from the first candidate
that is shown so. -/
structure Gathered (root : Path) (cs : List (VendorPattern × Path)) (found : List VendorFile) :
    Prop where
  /-- No path is taken twice. -/
  once : (found.map (·.path)).Nodup
  /-- No path is left out. -/
  all : ∀ c ∈ cs, ∃ f ∈ found, f.path = shownCandidate root c
  /-- The first candidate is taken. -/
  first : ∀ f ∈ found, ∃ c, cs.find? (shownCandidate root · == f.path) = some c ∧
    f.row = c.1 ∧ f.name = c.2.fileName

variable {known found : List VendorFile} {cs : List (VendorPattern × Path)} {file : Path}

/-- Whether the program that tells the types of files leaves storage alone. -/
def OnlyLooks (tools : Config.ToolPaths) (host : Host) : Prop :=
  ∀ arguments s c s', host.run { program := tools.path .file, arguments } s = .ok (c, s') → s' = s

theorem storage_exec_describeFile (hlooks : OnlyLooks tools host) :
    (exec (Tool.describeFile tools file) host s).2 = s := by
  refine storage_exec_bind ?_ fun _ => rfl
  rw [Tool.exec_run]
  split
  · rfl
  · rename_i hrun
    exact hlooks _ _ _ _ hrun

theorem storage_exec_typeOf? (hlooks : OnlyLooks tools host) (file : Path) (s : Storage) :
    (exec (typeOf? tools file) host s).2 = s := by
  refine storage_exec_bind ?_ fun r => ?_
  · rw [exec_attempt]
    exact storage_exec_describeFile hlooks
  · rcases r with e | type
    · dsimp only
      split <;> rfl
    · rfl

/-- **A candidate is taken, unless one is known that is shown as it is.** -/
theorem of_exec_addVendorFile (hlooks : OnlyLooks tools host)
    (h : exec (addVendorFile tools root row known file) host s = (.ok found, s')) :
    s' = s ∧ ((∃ f ∈ known, f.path = shownCandidate root (row, file)) ∧ found = known ∨
      (∀ f ∈ known, f.path ≠ shownCandidate root (row, file)) ∧
        ∃ f : VendorFile, found = known ++ [f] ∧ f.path = shownCandidate root (row, file) ∧
          f.row = row ∧ f.name = file.fileName) := by
  rw [addVendorFile] at h
  dsimp only at h
  split at h
  · rename_i hknown
    cases h
    exact ⟨rfl, .inl ⟨by simpa [shownCandidate] using hknown, rfl⟩⟩
  · rename_i hnew
    rw [exec_bind_ok (exec_get host s)] at h
    obtain ⟨type, s₁, htype, hadd⟩ := exists_of_exec_bind h
    have hs := storage_exec_typeOf? hlooks file s
    rw [htype] at hs
    cases hadd
    exact ⟨hs, .inr ⟨by simpa [shownCandidate] using hnew, _, rfl, rfl, rfl, rfl⟩⟩

namespace Gathered

theorem first_append (h : Gathered root cs known) (cs' : List (VendorPattern × Path)) :
    ∀ f ∈ known, ∃ c, (cs ++ cs').find? (shownCandidate root · == f.path) = some c ∧
      f.row = c.1 ∧ f.name = c.2.fileName := by
  intro f hf
  obtain ⟨c, hc, htaken⟩ := h.first f hf
  exact ⟨c, by rw [List.find?_append, hc]; rfl, htaken⟩

/-- A candidate is passed over when a file is known that is shown as it is. -/
theorem pass (h : Gathered root cs known) {c : VendorPattern × Path} {f : VendorFile}
    (hf : f ∈ known) (hpath : f.path = shownCandidate root c) :
    Gathered root (cs ++ [c]) known := by
  refine ⟨h.once, fun c' hc' => ?_, h.first_append [c]⟩
  rcases List.mem_append.1 hc' with hc' | hc'
  · exact h.all c' hc'
  · obtain rfl := List.mem_singleton.1 hc'
    exact ⟨f, hf, hpath⟩

/-- A candidate is taken when no file is known that is shown as it is. -/
theorem take (h : Gathered root cs known) {c : VendorPattern × Path} {f : VendorFile}
    (hnew : ∀ g ∈ known, g.path ≠ shownCandidate root c) (hpath : f.path = shownCandidate root c)
    (hrow : f.row = c.1) (hname : f.name = c.2.fileName) :
    Gathered root (cs ++ [c]) (known ++ [f]) := by
  refine ⟨?_, fun c' hc' => ?_, fun g hg => ?_⟩
  · rw [List.map_append, List.map_singleton, List.nodup_append]
    refine ⟨h.once, by simp, ?_⟩
    rintro _ hmem _ hlast rfl
    obtain ⟨g, hg, hgpath⟩ := List.mem_map.1 hmem
    exact hnew g hg (hgpath.trans ((List.mem_singleton.1 hlast).trans hpath))
  · rcases List.mem_append.1 hc' with hc' | hc'
    · obtain ⟨g, hg, hgpath⟩ := h.all c' hc'
      exact ⟨g, List.mem_append_left _ hg, hgpath⟩
    · obtain rfl := List.mem_singleton.1 hc'
      exact ⟨f, by simp, hpath⟩
  · rcases List.mem_append.1 hg with hg | hg
    · exact h.first_append [c] g hg
    · obtain rfl := List.mem_singleton.1 hg
      -- no candidate before is shown so, for it would have been taken
      have hnone : cs.find? (shownCandidate root · == g.path) = none := by
        rw [List.find?_eq_none]
        intro c' hc' hsame
        obtain ⟨k, hk, hkpath⟩ := h.all c' hc'
        exact hnew k hk (hkpath.trans ((beq_iff_eq.1 hsame).trans hpath))
      refine ⟨c, ?_, hrow, hname⟩
      rw [List.find?_append, hnone, List.find?_cons_of_pos (by simp [hpath])]
      rfl

/-- **One more candidate is gathered** when it is taken or passed over. -/
theorem add (h : Gathered root cs known) (hlooks : OnlyLooks tools host)
    (hexec : exec (addVendorFile tools root row known file) host s = (.ok found, s')) :
    s' = s ∧ Gathered root (cs ++ [(row, file)]) found := by
  obtain ⟨rfl, ⟨⟨f, hf, hpath⟩, rfl⟩ | ⟨hnew, f, rfl, hpath, hrow, hname⟩⟩ :=
    of_exec_addVendorFile hlooks hexec
  · exact ⟨rfl, h.pass hf hpath⟩
  · exact ⟨rfl, h.take hnew hpath hrow hname⟩

end Gathered

/-- **The search gathers what it finds**, and sorts it. -/
theorem gathered_of_exec (hlooks : OnlyLooks tools host)
    (h : exec (vendorFiles tools root directories table) host s = (.ok found, s')) :
    ∃ gathered, Gathered root (candidates s root directories table) gathered ∧
      found = Sorting.sort (fun a b => decide (a.path ≤ b.path)) gathered := by
  rw [vendorFiles] at h
  obtain ⟨gathered, s₁, hgather, hsort⟩ := exists_of_exec_bind h
  cases hsort
  refine ⟨gathered, ?_, rfl⟩
  have hnil : Gathered root (candidates s root [] table) [] :=
    ⟨List.nodup_nil, by simp [candidates], by simp⟩
  -- three loops stand inside each other; each carries what the searches so far have found
  refine (of_exec_foldlM (I := fun done => Gathered root (candidates s root done table)) ?_ hnil
    hgather).2
  intro done d known known' s₂ hdone hdirectory
  have hdirectories : candidates s root (done ++ [d]) table =
      candidates s root done table ++ table.flatMap (foundBy s root d) := by
    simp [candidates]
  rw [hdirectories]
  refine of_exec_foldlM (I := fun rows => Gathered root (candidates s root done table ++
    rows.flatMap (foundBy s root d))) ?_ (by simpa using hdone) hdirectory
  intro rows row known known' s₃ hrows hrow
  rw [addMatching, exec_bind_ok (exec_get host s)] at hrow
  have hfiles := of_exec_foldlM (I := fun files => Gathered root (candidates s root done table ++
    rows.flatMap (foundBy s root d) ++ files.map fun p => (row, p))) ?_ (by simpa using hrows) hrow
  · simpa [foundBy] using hfiles
  · intro files file known known' s₄ hfiles hfile
    simpa using hfiles.add hlooks hfile

/-! ### Counting files -/

/-- Whether no two of some files lie at one location. -/
def CountedOnce (s : Storage) (root : Path) (found : List VendorFile) : Prop :=
  ∀ f ∈ found, ∀ g ∈ found, fileBelow? s root f.path = fileBelow? s root g.path → f = g

/-- Whether files that fit some pattern are shown alike from all directories that lead to them. -/
def ShownAlike (s : Storage) (root : Path) (directories : List String)
    (table : List VendorPattern) : Prop :=
  ∀ d ∈ directories, ∀ d' ∈ directories, ∀ names names' l, LeadsTo s root d names l →
    LeadsTo s root d' names' l → IsWanted table l → shownAs root d names = shownAs root d' names'

/-- Whether a directory is spelled plainly and lies, if anywhere, where its steps alone lead from
the location of the root. -/
structure IsDirect (s : Storage) (root : Path) (R : Location) (d : String) : Prop where
  /-- It is spelled plainly. -/
  plain : (Path.mk d).IsPlain
  /-- No link leads elsewhere. -/
  opens : ∀ D, s.Opens (root.child d) D → D = R ++ (Path.mk d).steps

/-- **Where no link leads elsewhere, files are shown by their locations.** -/
theorem shownAlike_of_isDirect (htidy : s.IsTidy) (hroot : root.text ≠ "")
    (h : ∀ d ∈ directories, IsDirect s root R d) : ShownAlike s root directories table := by
  intro d hd d' hd' names names' l hlead hlead' _
  obtain ⟨D, hopens, hl⟩ := hlead.opens
  obtain ⟨D', hopens', hl'⟩ := hlead'.opens
  have hsteps : (Path.mk d).steps ++ names = (Path.mk d').steps ++ names' := by
    rw [(h d hd).opens D hopens, List.append_assoc] at hl
    rw [hl, (h d' hd').opens D' hopens', List.append_assoc, List.append_cancel_left_eq] at hl'
    exact hl'
  rw [shownAs, shownAs, relativeTo_pathBelow hroot (h d hd).plain (hlead.isName htidy),
    relativeTo_pathBelow hroot (h d' hd').plain (hlead'.isName htidy), hsteps]

section

variable {gathered : List VendorFile}

theorem Gathered.exists_leadsTo (htidy : s.IsTidy)
    (h : Gathered root (candidates s root directories table) gathered) {f : VendorFile}
    (hf : f ∈ gathered) : ∃ d ∈ directories, ∃ names l, LeadsTo s root d names l ∧
      f.path = shownAs root d names ∧ l.getLast? = some f.name ∧ IsFirstFit table f.name f.row := by
  obtain ⟨c, hc, hrow, hname⟩ := h.first f hf
  obtain ⟨d, hd, names, l, hlead, hshown, name, hlast, hfile, hfirst⟩ :=
    isFirstFit_of_find? htidy hc
  rw [hname, hrow, hfile]
  exact ⟨d, hd, names, l, hlead, hshown.symm, hlast, hfirst⟩

theorem Gathered.exists_mem (htidy : s.IsTidy)
    (h : Gathered root (candidates s root directories table) gathered) (hd : d ∈ directories)
    (hlead : LeadsTo s root d names l) (hwanted : IsWanted table l) :
    ∃ f ∈ gathered, f.path = shownAs root d names := by
  obtain ⟨c, hc, hshown⟩ := mem_candidates_of_leadsTo htidy hd hlead hwanted
  obtain ⟨f, hf, hpath⟩ := h.all c hc
  exact ⟨f, hf, hpath.trans hshown⟩

/-- **No file is taken twice** just when files are shown alike from wherever they are found. -/
theorem Gathered.countedOnce_iff (htidy : s.IsTidy) (hroot : s.Opens root R)
    (h : Gathered root (candidates s root directories table) gathered) :
    CountedOnce s root gathered ↔ ShownAlike s root directories table := by
  constructor
  · intro honce d hd d' hd' names names' l hlead hlead' hwanted
    obtain ⟨f, hf, hpath⟩ := h.exists_mem htidy hd hlead hwanted
    obtain ⟨g, hg, hpath'⟩ := h.exists_mem htidy hd' hlead' hwanted
    have hsame : f = g := honce f hf g hg (by
      rw [hpath, hpath', hlead.fileBelow?_eq htidy hroot, hlead'.fileBelow?_eq htidy hroot])
    rw [← hpath, ← hpath', hsame]
  · intro halike f hf g hg hsame
    obtain ⟨d, hd, names, l, hlead, hpath, hlast, before, after, htable, hfits, -⟩ :=
      h.exists_leadsTo htidy hf
    obtain ⟨d', hd', names', l', hlead', hpath', -⟩ := h.exists_leadsTo htidy hg
    rw [hpath, hpath', hlead.fileBelow?_eq htidy hroot, hlead'.fileBelow?_eq htidy hroot] at hsame
    obtain rfl := Option.some.inj hsame
    have hwanted : IsWanted table l := ⟨f.name, hlast, f.row, by simp [htable], hfits⟩
    have hpaths : f.path = g.path := by
      rw [hpath, hpath', halike d hd d' hd' names names' l hlead hlead' hwanted]
    exact List.inj_on_of_nodup_map h.once hf hg hpaths

end

/-- **The files of vendors are counted once for each way in which they are shown.** They are sorted
by path; each path leads to a file in one of the directories or one level below, which is known by
the first row that its name fits; and each file there whose name fits some row is among them. No
file is there twice just when each is shown alike from all directories that lead to it, as it is
when no directory is reached through a link. -/
theorem vendorFiles_counted (htidy : s.IsTidy) (hroot : s.Opens root R)
    (hlooks : OnlyLooks tools host)
    (h : exec (vendorFiles tools root directories table) host s = (.ok found, s')) :
    found.Pairwise (·.path < ·.path) ∧
      (∀ f ∈ found, ∃ d ∈ directories, ∃ names l, LeadsTo s root d names l ∧
        fileBelow? s root f.path = some l ∧ l.getLast? = some f.name ∧
          IsFirstFit table f.name f.row) ∧
      (∀ d ∈ directories, ∀ names l, LeadsTo s root d names l → IsWanted table l →
        ∃ f ∈ found, fileBelow? s root f.path = some l) ∧
      (CountedOnce s root found ↔ ShownAlike s root directories table) ∧
      ((∀ d ∈ directories, IsDirect s root R d) → CountedOnce s root found) := by
  obtain ⟨gathered, hgathered, rfl⟩ := gathered_of_exec hlooks h
  have honce : CountedOnce s root (Sorting.sort (fun a b => decide (a.path ≤ b.path)) gathered) ↔
      ShownAlike s root directories table := by
    rw [← hgathered.countedOnce_iff htidy hroot]
    simp [CountedOnce]
  refine ⟨Sorting.pairwise_sort_key_of_nodup _ hgathered.once, ?_, ?_, honce, fun hdirect =>
    honce.2 (shownAlike_of_isDirect htidy hroot.text_ne hdirect)⟩
  · intro f hf
    obtain ⟨d, hd, names, l, hlead, hpath, hlast, hfirst⟩ :=
      hgathered.exists_leadsTo htidy ((Sorting.mem_sort _).1 hf)
    exact ⟨d, hd, names, l, hlead, by rw [hpath, hlead.fileBelow?_eq htidy hroot], hlast, hfirst⟩
  · intro d hd names l hlead hwanted
    obtain ⟨f, hf, hpath⟩ := hgathered.exists_mem htidy hd hlead hwanted
    exact ⟨f, (Sorting.mem_sort _).2 hf, by rw [hpath, hlead.fileBelow?_eq htidy hroot]⟩

/-- A host on which every file is of one type. -/
def typingHost : Host where
  run := fun _ s => .ok ({ output := "ELF\n".toUTF8, status := .exited 0 }, s)
  isInstalled := fun _ => true
  ownProgram := .error .notFound
  configVariable := none
  currentDirectory := ⟨"/"⟩
  now := ""

theorem onlyLooks_typingHost : OnlyLooks {} typingHost := by
  rintro _ _ _ _ ⟨⟩
  rfl

/-- A root file system with a library in one directory, and `lib` to be filled in. -/
def treeWith (lib : List (Location × Node)) : Storage where
  nodes := [(["root"], .directory newDirectoryMode), (["root", "usr"], .directory newDirectoryMode),
    (["root", "usr", "lib"], .directory newDirectoryMode),
    (["root", "usr", "lib", "librga.so"], .file ⟨.empty, 1⟩ newFileMode)] ++ lib

/-- A root file system in which both directories of libraries are directories. -/
def splitTree : Storage := treeWith [(["root", "lib"], .directory newDirectoryMode),
  (["root", "lib", "libmali.so"], .file ⟨.empty, 2⟩ newFileMode)]

/-- The files of vendors in that. -/
def splitFiles : List VendorFile :=
  [⟨"libmali.so", "lib/libmali.so", ⟨"libmali*.so*", "Arm", "Mali GPU driver"⟩, 2, some "ELF"⟩,
    ⟨"librga.so", "usr/lib/librga.so", ⟨"librga.so*", "Rockchip", "RGA 2D graphics accelerator"⟩, 1,
      some "ELF"⟩]

theorem vendorFiles_counted_splitTree :
    splitTree.IsTidy ∧ splitTree.Opens ⟨"root"⟩ ["root"] ∧ OnlyLooks {} typingHost ∧
      exec (vendorFiles {} ⟨"root"⟩ libraryDirectories vendorLibraries) typingHost splitTree =
        (.ok splitFiles, splitTree) ∧ CountedOnce splitTree ⟨"root"⟩ splitFiles := by
  have htidy : splitTree.IsTidy :=
    ⟨isTree_of_nodes (by simp [splitTree, treeWith, at?]), by decide +kernel, by decide +kernel⟩
  have hopens : splitTree.Opens ⟨"root"⟩ ["root"] := ⟨newDirectoryMode, by rfl⟩
  have hexec : exec (vendorFiles {} ⟨"root"⟩ libraryDirectories vendorLibraries) typingHost
      splitTree = (.ok splitFiles, splitTree) := by
    decide +kernel
  have hdirect : ∀ d ∈ libraryDirectories, IsDirect splitTree ⟨"root"⟩ ["root"] d := by
    have hopened : ∀ d ∈ libraryDirectories, (∀ a ∈ (Path.mk d).pieces, isStep a = true) ∧
        ∀ D ∈ splitTree.opened? (Path.child ⟨"root"⟩ d), D = ["root"] ++ (Path.mk d).steps := by
      decide +kernel
    exact fun d hd => ⟨(hopened d hd).1, fun D hD => (hopened d hd).2 D hD.opened?_eq⟩
  obtain ⟨-, -, -, -, honce⟩ := vendorFiles_counted htidy hopens onlyLooks_typingHost hexec
  exact ⟨htidy, hopens, onlyLooks_typingHost, hexec, honce hdirect⟩

/-- A root file system in which one directory of libraries is a link to the other one. -/
def mergedTree : Storage := treeWith [(["root", "lib"], .link ⟨"usr/lib"⟩)]

/-- The library as it is found through a directory. -/
def libraryThrough (path : String) : VendorFile :=
  ⟨"librga.so", path, ⟨"librga.so*", "Rockchip", "RGA 2D graphics accelerator"⟩, 1, some "ELF"⟩

/-- **Through a link a library is counted twice.** -/
theorem not_countedOnce_mergedTree :
    mergedTree.IsTidy ∧ mergedTree.Opens ⟨"root"⟩ ["root"] ∧ OnlyLooks {} typingHost ∧
      ∃ found, exec (vendorFiles {} ⟨"root"⟩ libraryDirectories vendorLibraries) typingHost
        mergedTree = (.ok found, mergedTree) ∧ ¬CountedOnce mergedTree ⟨"root"⟩ found := by
  refine ⟨⟨isTree_of_nodes (by simp [mergedTree, treeWith, at?]), by decide +kernel,
    by decide +kernel⟩, ⟨newDirectoryMode, by rfl⟩, onlyLooks_typingHost,
    [libraryThrough "lib/librga.so", libraryThrough "usr/lib/librga.so"], by decide +kernel, ?_⟩
  intro honce
  have hsame := honce (libraryThrough "lib/librga.so") (by simp)
    (libraryThrough "usr/lib/librga.so") (by simp) (by decide +kernel)
  exact absurd (congrArg (·.path) hsame) (by decide)

end FirmwareSurvey.Rootfs
