import FirmwareSurvey.Proofs.Offsets.Appended
import FirmwareSurvey.Proofs.Offsets.Script
import Mathlib.Data.List.TakeWhile

/-!
# The image's name in the offsets file

The script that carries the offsets names the image in a comment, and the name is written as it is.
A comment ends with its line, so what stands behind a line feed in the name is read like an offsets
file of its own in front of the offsets (`assignments_toShellScript_behind`): it can make the file
unreadable and it can add keys, but what was recorded is assigned behind it and stands
(`offset?_toShellScript`). So two names give the same file as far as reading goes exactly when what
stands behind their first line feeds is read alike on the keys that the offsets leave free
(`alike_toShellScript_iff`), and a name without a line feed changes nothing.
-/

namespace FirmwareSurvey.Offsets

open Text

/-! ### Reading alike -/

/-- Whether two texts are read alike on some keys: neither can be read, or both can and each of the
keys has the same value in both. -/
def AlikeOn (P : String → Prop) (a b : String) : Prop :=
  match parse a, parse b with
  | .ok t, .ok u => ∀ key, P key → t.get? key = u.get? key
  | .error _, .error _ => True
  | _, _ => False

/-- Whether two texts are read alike. -/
def Alike (a b : String) : Prop := AlikeOn (fun _ => True) a b

/-- Whether a text can be the name of a file: it is there, and has neither a slash nor a null. -/
def IsFileName (name : String) : Prop := name ≠ "" ∧ '/' ∉ name.toList ∧ '\x00' ∉ name.toList

instance (name : String) : Decidable (IsFileName name) := inferInstanceAs (Decidable (_ ∧ _))

/-- Whether a recording is one that a scan makes: the name is one of the vocabulary, and numbers are
64-bit words. -/
def Recording.IsKnown : Recording → Prop
  | .offset name n => name ∈ vocabulary ∧ n < wordLimit
  | .size s => ∀ n ∈ s, n < wordLimit

theorem Recording.IsKnown.isWritable {r : Recording} (h : r.IsKnown) : r.IsWritable := by
  cases r with
  | offset name n => exact ⟨isWritable_of_mem_vocabulary h.1, h.2⟩
  | size s => exact h

/-! ### The comment with the name -/

/-- What stands behind the first line feed of a text; nothing when there is none. -/
def behindFeed (name : String) : String :=
  String.ofList ((name.toList.dropWhile (· != '\n')).drop 1)

theorem behindFeed_of_not_mem {name : String} (h : '\n' ∉ name.toList) : behindFeed name = "" := by
  rw [behindFeed, List.dropWhile_eq_nil_iff.2 (bne_of_not_mem h)]
  rfl

/-- **A comment ends with its line.** -/
theorem assignments_comment {cs : List Char} (h : '\n' ∉ cs) (name : String) :
    assignments ('#' :: cs ++ name.toList) = assignments (behindFeed name).toList := by
  have hnone {ds : List Char} (hds : '\n' ∉ ds) : assignments ('#' :: cs ++ ds) = [] := by
    rw [assignments_of_not_mem (by simp [h, hds]), ← assignment?_dropReturn, List.cons_append,
      Found.assignment?_comment]
    rfl
  by_cases hname : '\n' ∈ name.toList
  · obtain ⟨before, after, hsplit, hbefore⟩ := List.eq_append_cons_of_mem hname
    have hbehind : (behindFeed name).toList = after := by
      rw [behindFeed, hsplit, List.dropWhile_append_of_pos (bne_of_not_mem hbefore)]
      simp
    rw [hbehind, hsplit, ← List.append_assoc, assignments_append, hnone hbefore, List.nil_append]
  · rw [hnone hname, behindFeed_of_not_mem hname]
    rfl

namespace Found

/-- What a script has behind the comment with the name. -/
def bodyChars (f : Found) : List Char :=
  ((f.entries.flatMap groupLines ++ sizeLines f.squashfsSize).map String.toList).flatMap
    (· ++ ['\n'])

theorem toList_toShellScript (f : Found) (firmware : String) :
    (f.toShellScript firmware).toList =
      "#!/bin/sh".toList ++ '\n' :: ("# Firmware offsets generated by fwprobe binwalk".toList ++
        '\n' :: ('#' :: " Firmware: ".toList ++ firmware.toList ++ '\n' :: f.bodyChars)) := by
  simp [toShellScript, scriptLines, bodyChars, String.toList_join, List.flatMap_map, toString]

variable {f : Found} {firmware : String}

/-- **What stands behind a line feed in the name is read in front of the offsets.** -/
theorem assignments_toShellScript_behind (h : ∀ e ∈ f.entries, IsWritable e.1)
    (firmware : String) : assignments (f.toShellScript firmware).toList =
      assignments (behindFeed firmware).toList ++ f.members.map written := by
  have hheading (firmware : String) : assignments (f.toShellScript firmware).toList =
      assignments (behindFeed firmware).toList ++ assignments f.bodyChars := by
    have hshell : assignments "#!/bin/sh".toList = [] := by decide
    have htitle : assignments "# Firmware offsets generated by fwprobe binwalk".toList = [] := by
      decide
    rw [toList_toShellScript, assignments_append, assignments_append, assignments_append, hshell,
      htitle, assignments_comment (by decide), List.nil_append, List.nil_append]
  -- The body is the same for every name, so it can be read off a script without one.
  have hbody : assignments f.bodyChars = f.members.map written := by
    have hempty : '\n' ∉ "".toList := by decide
    have hnone : assignments (behindFeed "").toList = [] := by decide
    rw [← assignments_toShellScript h hempty, hheading, hnone, List.nil_append]
  rw [hheading, hbody]

/-! ### Reading the script -/

theorem parse_toShellScript_eq (h : f.IsSound) (firmware : String) :
    parse (f.toShellScript firmware) =
      ((assignments (behindFeed firmware).toList).foldlM assign [] >>=
        fun v => (f.members.map written).foldlM assign v).map fun values => ⟨values, none⟩ := by
  rw [parse, assignments_toShellScript_behind h.names, List.foldlM_append]

theorem foldlM_assign_members (h : f.IsSound) :
    (f.members.map written).foldlM assign [] = .ok f.members :=
  foldlM_assign_written (m := []) (fun _ hp => value?_of_mem_members h hp)
    (keys_nodup_members h.nodup)

/-- **A key that is recorded has the value recorded**, and any other one has what stands behind a
line feed in the name. -/
theorem parse_toShellScript_ok (h : f.IsSound) {t : Table}
    (ht : parse (behindFeed firmware) = .ok t) :
    ∃ u, parse (f.toShellScript firmware) = .ok u ∧
      ∀ key, u.get? key = (f.members.get? key).or (t.get? key) := by
  rw [parse] at ht
  cases hv : (assignments (behindFeed firmware).toList).foldlM assign [] with
  | error e => rw [hv] at ht; cases ht
  | ok v =>
    rw [hv] at ht
    obtain rfl := Except.ok.inj ht
    obtain ⟨w, hw, hget⟩ := foldlM_assign_ok (foldlM_assign_members h) v
    refine ⟨⟨w, none⟩, ?_, hget⟩
    rw [parse_toShellScript_eq h, hv]
    change ((f.members.map written).foldlM assign v).map _ = _
    rw [hw]
    rfl

/-- A name that cannot be read behind its line feed makes the script unreadable. -/
theorem parse_toShellScript_error (h : f.IsSound) {e : Error}
    (he : parse (behindFeed firmware) = .error e) :
    parse (f.toShellScript firmware) = .error e := by
  rw [parse] at he
  cases hv : (assignments (behindFeed firmware).toList).foldlM assign [] with
  | error e' =>
    rw [hv] at he
    obtain rfl := Except.error.inj he
    rw [parse_toShellScript_eq h, hv]
    rfl
  | ok v => rw [hv] at he; cases he

/-- **What is recorded stands**: whatever the image is called, a script that can be read has every
recorded offset. -/
theorem offset?_toShellScript (h : f.IsSound) {u : Table}
    (hu : parse (f.toShellScript firmware) = .ok u) {name : String} {n : Nat}
    (hn : f.get? name = some n) : u.offset? name = some n := by
  cases ht : parse (behindFeed firmware) with
  | error e =>
    rw [parse_toShellScript_error h ht] at hu
    cases hu
  | ok t =>
    obtain ⟨u', hu', hget⟩ := parse_toShellScript_ok h ht
    obtain rfl := Except.ok.inj (hu'.symm.trans hu)
    rw [Table.offset?, Table.dec?, hget, get?_members_dec, hn]
    rfl

/-- **Scripts are read alike** exactly when what stands behind the line feeds of the names is, on the
keys that are not recorded. -/
theorem alike_iff (h : f.IsSound) (name other : String) :
    Alike (f.toShellScript name) (f.toShellScript other) ↔
      AlikeOn (· ∉ Members.keys f.members) (behindFeed name) (behindFeed other) := by
  rw [Alike, AlikeOn, AlikeOn]
  cases ht : parse (behindFeed name) with
  | error e =>
    rw [parse_toShellScript_error h ht]
    cases hu : parse (behindFeed other) with
    | error e' => rw [parse_toShellScript_error h hu]
    | ok u =>
      obtain ⟨u', hu', -⟩ := parse_toShellScript_ok h hu
      rw [hu']
  | ok t =>
    obtain ⟨t', ht', htget⟩ := parse_toShellScript_ok h ht
    rw [ht']
    cases hu : parse (behindFeed other) with
    | error e => rw [parse_toShellScript_error h hu]
    | ok u =>
      obtain ⟨u', hu', huget⟩ := parse_toShellScript_ok h hu
      rw [hu']
      simp only [htget, huget, true_implies]
      -- a recorded key has what is recorded under both names
      refine forall_congr' fun key => ?_
      by_cases hkey : key ∈ Members.keys f.members
      · obtain ⟨v, hv⟩ := Option.isSome_iff_exists.1 (Members.isSome_get?_iff.2 hkey)
        simp [hkey, hv]
      · simp [hkey, Members.get?_eq_none_iff.2 hkey]

/-- **A name changes nothing but by what stands behind its first line feed.** Two names without a
line feed give scripts that are read alike; any two names do exactly when what stands behind their
first line feeds is read alike on the keys that are not recorded. -/
theorem alike_toShellScript_iff {rs : List Recording} (h : ∀ r ∈ rs, r.IsKnown)
    (name other : String) :
    ('\n' ∉ name.toList → '\n' ∉ other.toList →
      Alike ((recorded rs).toShellScript name) ((recorded rs).toShellScript other)) ∧
    (Alike ((recorded rs).toShellScript name) ((recorded rs).toShellScript other) ↔
      AlikeOn (· ∉ Members.keys (recorded rs).members) (behindFeed name) (behindFeed other)) := by
  have hsound : (recorded rs).IsSound := isSound_recorded fun r hr => (h r hr).isWritable
  refine ⟨fun hname hother => ?_, alike_iff hsound name other⟩
  rw [alike_iff hsound, behindFeed_of_not_mem hname, behindFeed_of_not_mem hother]
  exact fun _ _ => rfl

/-- The recording of one offset. -/
def oneRecording : List Recording := [.offset "KERNEL_FIT" 64]

theorem isKnown_oneRecording : ∀ r ∈ oneRecording, r.IsKnown := by
  simp [oneRecording, Recording.IsKnown, vocabulary, wordLimit]

theorem parse_behindFeed_plain : parse (behindFeed "router.bin") = .ok ⟨[], none⟩ := by
  rw [behindFeed_of_not_mem (by decide)]
  rfl

theorem alike_recordedKey :
    Alike ((recorded oneRecording).toShellScript "router.bin")
      ((recorded oneRecording).toShellScript "router\nKERNEL_FIT_OFFSET_DEC=7\n.bin") := by
  have hbehind : parse (behindFeed "router\nKERNEL_FIT_OFFSET_DEC=7\n.bin") =
      .ok ⟨[("KERNEL_FIT_OFFSET_DEC", .dec 7)], none⟩ := rfl
  have hkeys : "KERNEL_FIT_OFFSET_DEC" ∈ Members.keys (recorded oneRecording).members := by
    decide
  rw [(alike_toShellScript_iff isKnown_oneRecording _ _).2, AlikeOn, parse_behindFeed_plain, hbehind]
  intro key hkey
  have hne : "KERNEL_FIT_OFFSET_DEC" ≠ key := fun heq => hkey (heq ▸ hkeys)
  rw [Table.get?, Table.get?, Members.get?_cons, if_neg hne]

/-- A name with a line feed can add an offset that was not recorded. -/
theorem not_alike_newKey :
    IsFileName "router.bin" ∧ IsFileName "router\nSQUASHFS_OFFSET_DEC=7\n.bin" ∧
      ¬Alike ((recorded oneRecording).toShellScript "router.bin")
        ((recorded oneRecording).toShellScript "router\nSQUASHFS_OFFSET_DEC=7\n.bin") := by
  have hbehind : parse (behindFeed "router\nSQUASHFS_OFFSET_DEC=7\n.bin") =
      .ok ⟨[("SQUASHFS_OFFSET_DEC", .dec 7)], none⟩ := rfl
  have hkey : "SQUASHFS_OFFSET_DEC" ∉ Members.keys (recorded oneRecording).members := by
    decide
  have hsound : (recorded oneRecording).IsSound :=
    isSound_recorded fun r hr => (isKnown_oneRecording r hr).isWritable
  refine ⟨by decide +kernel, by decide +kernel, ?_⟩
  rw [alike_iff hsound, AlikeOn, parse_behindFeed_plain, hbehind]
  intro h
  have hget : Members.get? [] "SQUASHFS_OFFSET_DEC" = some (Value.dec 7) := h _ hkey
  rw [Members.get?_nil] at hget
  cases hget

end Found

end FirmwareSurvey.Offsets
