import FirmwareSurvey.Partition
import Mathlib.Data.List.Chain

/-!
# How far partitions run

A region should run to the next one, that is, to the least offset behind its own. The layout takes
the next one that is listed, and the list has the order in which images are usually laid out, not
that of the offsets. So sizes are right exactly when the offsets rise in the order of the list
(`runsToNext_iff_rising`). Where they do not, a size that is wrong is not wrong by a little: a region
is shown as empty, or it runs on over the next one (`size_eq_zero_or_le`).
-/

namespace FirmwareSurvey.Partition

variable {offsets : Offsets.Table} {recorded : Option Nat} {imageSize offset : Nat}
  {starts : List Nat} {l : List (Region × Nat)} {p : Partition}

/-! ### Where a region ends -/

/-- The offsets of the regions that are present. -/
def startsOf (offsets : Offsets.Table) : List Nat := (present offsets).map (·.2)

/-- Where a region that starts at an offset ends: at the least start behind it, or else with the
image. -/
def stopBehind (starts : List Nat) (imageSize offset : Nat) : Nat :=
  ((starts.filter (offset < ·)).min?).getD imageSize

theorem stopBehind_eq_iff {stop : Nat} :
    stopBehind starts imageSize offset = stop ↔
      (stop ∈ starts ∧ offset < stop ∧ ∀ x ∈ starts, offset < x → stop ≤ x) ∨
        (∀ x ∈ starts, x ≤ offset) ∧ stop = imageSize := by
  have hmem {x : Nat} : x ∈ starts.filter (offset < ·) ↔ x ∈ starts ∧ offset < x := by
    simp
  rw [stopBehind]
  -- the stop is the least of the starts behind the offset, if there is one
  cases hmin : (starts.filter (offset < ·)).min? with
  | none =>
    have hnone : ∀ x ∈ starts, x ≤ offset := by
      simpa [List.filter_eq_nil_iff] using List.min?_eq_none_iff.1 hmin
    rw [Option.getD_none]
    constructor
    · intro heq
      exact .inr ⟨hnone, heq.symm⟩
    · rintro (⟨hstop, hlt, -⟩ | ⟨-, heq⟩)
      · exact absurd (hnone stop hstop) (Nat.not_le.2 hlt)
      · exact heq.symm
  | some least =>
    obtain ⟨hleast, hle⟩ := List.min?_eq_some_iff.1 hmin
    rw [Option.getD_some]
    constructor
    · rintro rfl
      exact .inl ⟨(hmem.1 hleast).1, (hmem.1 hleast).2, fun x hx hlt => hle x (hmem.2 ⟨hx, hlt⟩)⟩
    · rintro (⟨hstop, hlt, hall⟩ | ⟨hnone, -⟩)
      · exact Nat.le_antisymm (hle stop (hmem.2 ⟨hstop, hlt⟩))
          (hall least (hmem.1 hleast).1 (hmem.1 hleast).2)
      · exact absurd (hnone least (hmem.1 hleast).1) (Nat.not_le.2 (hmem.1 hleast).2)

/-- A region ends behind its start. -/
theorem lt_stopBehind (h : offset < imageSize) : offset < stopBehind starts imageSize offset := by
  rcases stopBehind_eq_iff.1 rfl with ⟨-, hlt, -⟩ | ⟨-, heq⟩
  · exact hlt
  · exact h.trans_eq heq.symm

/-- No start lies between a region's start and its end. -/
theorem stopBehind_le {x : Nat} (hx : x ∈ starts) (hlt : offset < x) :
    stopBehind starts imageSize offset ≤ x := by
  rcases stopBehind_eq_iff.1 rfl with ⟨-, -, hleast⟩ | ⟨hnone, -⟩
  · exact hleast x hx hlt
  · exact absurd (hnone x hx) (Nat.not_le.2 hlt)

theorem stopBehind_le_imageSize (h : ∀ x ∈ starts, x < imageSize) :
    stopBehind starts imageSize offset ≤ imageSize := by
  rcases stopBehind_eq_iff.1 rfl with ⟨hmem, -, -⟩ | ⟨-, heq⟩
  · exact (h _ hmem).le
  · exact heq.le

/-- The size that is recorded for a region. -/
def recordedSize? (offsets : Offsets.Table) (r : Region) : Option Nat :=
  if r.offsetName = "SQUASHFS" then offsets.squashfsSize? else none

/-- Whether a partition runs to the next start, unless its size is recorded. -/
def RunsToNext (offsets : Offsets.Table) (imageSize : Nat) (p : Partition) : Prop :=
  recordedSize? offsets p.region = none →
    p.size = stopBehind (startsOf offsets) imageSize p.offset - p.offset

/-- Whether a partition is shown with the whole mebibytes up to the next start, unless its size is
recorded. -/
def ShowsExtent (offsets : Offsets.Table) (imageSize : Nat) (p : Partition) : Prop :=
  recordedSize? offsets p.region = none →
    p.wholeMebibytes = (stopBehind (startsOf offsets) imageSize p.offset - p.offset) / mebibyte

instance (offsets : Offsets.Table) (imageSize : Nat) (p : Partition) :
    Decidable (ShowsExtent offsets imageSize p) :=
  inferInstanceAs (Decidable (_ → _))

theorem RunsToNext.showsExtent (h : RunsToNext offsets imageSize p) :
    ShowsExtent offsets imageSize p := by
  intro hnone
  rw [wholeMebibytes, h hnone]

/-! ### The partitions of a list of regions -/

/-- Where the next region that is listed starts, or else the end of the image. -/
def nextListed (imageSize : Nat) (rest : List (Region × Nat)) : Nat :=
  (rest.head?.map (·.2)).getD imageSize

theorem mem_layOut_iff :
    p ∈ layOut recorded imageSize l ↔ ∃ before r o rest, l = before ++ (r, o) :: rest ∧
      p = ⟨r, o, sizeOf recorded r o (nextListed imageSize rest)⟩ := by
  induction l with
  | nil => simp [layOut]
  | cons x l ih =>
    obtain ⟨r, o⟩ := x
    rw [layOut, List.mem_cons, ih]
    constructor
    · rintro (rfl | ⟨before, r', o', rest, rfl, rfl⟩)
      · exact ⟨[], r, o, l, rfl, rfl⟩
      · exact ⟨(r, o) :: before, r', o', rest, rfl, rfl⟩
    · rintro ⟨before, r', o', rest, hl, rfl⟩
      cases before with
      | nil =>
        cases hl
        exact .inl rfl
      | cons y before => exact .inr ⟨before, r', o', rest, (List.cons.inj hl).2, rfl⟩

/-- There is one partition for each region, in order. -/
theorem map_layOut (recorded : Option Nat) (imageSize : Nat) (l : List (Region × Nat)) :
    (layOut recorded imageSize l).map (fun p => (p.region, p.offset)) = l := by
  induction l with
  | nil => rfl
  | cons x l ih =>
    rw [layOut, List.map_cons, ih]

theorem sizeOf_eq (offsets : Offsets.Table) (r : Region) (o stop : Nat) :
    sizeOf offsets.squashfsSize? r o stop = (recordedSize? offsets r).getD (stop - o) := by
  rw [sizeOf, recordedSize?]
  split <;> rfl

/-- **A region whose size is not recorded runs to the next one that is listed.** -/
theorem size_of_mem_ofOffsets (hp : p ∈ ofOffsets offsets imageSize)
    (hnone : recordedSize? offsets p.region = none) :
    ∃ before rest, present offsets = before ++ (p.region, p.offset) :: rest ∧
      p.size = nextListed imageSize rest - p.offset := by
  obtain ⟨before, r, o, rest, hl, rfl⟩ := mem_layOut_iff.1 hp
  refine ⟨before, rest, hl, ?_⟩
  have hnone : recordedSize? offsets r = none := hnone
  change sizeOf offsets.squashfsSize? r o _ = _
  rw [sizeOf_eq, hnone, Option.getD_none]

theorem mem_ofOffsets {before rest : List (Region × Nat)} {r : Region} {o : Nat}
    (hl : present offsets = before ++ (r, o) :: rest) (hnone : recordedSize? offsets r = none) :
    ⟨r, o, nextListed imageSize rest - o⟩ ∈ ofOffsets offsets imageSize := by
  refine mem_layOut_iff.2 ⟨before, r, o, rest, hl, ?_⟩
  rw [sizeOf_eq, hnone, Option.getD_none]

/-- The size of the last region alone can be recorded. -/
theorem recordedSize?_eq_none {before rest : List (Region × Nat)} {x y : Region × Nat}
    (h : present offsets = before ++ x :: y :: rest) : recordedSize? offsets x.1 = none := by
  have hregions : regions.Pairwise fun r _ => r.offsetName ≠ "SQUASHFS" := by
    decide
  have hpresent : (present offsets).Pairwise fun x _ => x.1.offsetName ≠ "SQUASHFS" := by
    refine hregions.filterMap _ fun r r' hr x hx y hy => ?_
    obtain ⟨o, -, rfl⟩ := Option.map_eq_some_iff.1 hx
    exact hr
  rw [h] at hpresent
  have hx := List.rel_of_pairwise_cons (List.pairwise_append.1 hpresent).2.1 List.mem_cons_self
  rw [recordedSize?, if_neg hx]

/-! ### Offsets in the order of the list -/

theorem startsOf_eq {before rest : List (Region × Nat)} {r : Region} {o : Nat}
    (hl : present offsets = before ++ (r, o) :: rest) :
    startsOf offsets = before.map (·.2) ++ o :: rest.map (·.2) := by
  simp [startsOf, hl]

/-- The next region that is listed starts behind every other one that does so, when offsets rise. -/
theorem stopBehind_eq_nextListed (hrising : (startsOf offsets).Pairwise (· < ·))
    {before rest : List (Region × Nat)} {r : Region} {o : Nat}
    (hl : present offsets = before ++ (r, o) :: rest) :
    stopBehind (startsOf offsets) imageSize o = nextListed imageSize rest := by
  rw [startsOf_eq hl] at hrising ⊢
  obtain ⟨-, hrest, hapart⟩ := List.pairwise_append.1 hrising
  obtain ⟨ho, hrest⟩ := List.pairwise_cons.1 hrest
  have hbefore : ∀ x ∈ before.map (·.2), x < o := fun x hx => hapart x hx o List.mem_cons_self
  rw [stopBehind_eq_iff]
  cases rest with
  | nil =>
    refine .inr ⟨fun x hx => ?_, rfl⟩
    rcases List.mem_append.1 hx with hx | hx
    · exact (hbefore x hx).le
    · exact (List.mem_singleton.1 hx).le
  | cons y rest =>
    refine .inl ⟨?_, ho _ List.mem_cons_self, fun x hx hlt => ?_⟩
    · exact List.mem_append_right _ (List.mem_cons_of_mem _ List.mem_cons_self)
    · rcases List.mem_append.1 hx with hx | hx
      · exact absurd (hbefore x hx) hlt.asymm
      · rcases List.mem_cons.1 hx with rfl | hx
        · exact absurd hlt (Nat.lt_irrefl _)
        · rcases List.mem_cons.1 hx with rfl | hx
          · exact Nat.le_refl _
          · exact (List.rel_of_pairwise_cons hrest hx).le

/-- **Partitions run to the next start exactly when offsets rise** in the order of the list. -/
theorem runsToNext_iff_rising (h : ∀ o ∈ startsOf offsets, o < imageSize) :
    (∀ p ∈ ofOffsets offsets imageSize, RunsToNext offsets imageSize p) ↔
      (startsOf offsets).Pairwise (· < ·) := by
  constructor
  · intro hruns
    rw [← List.isChain_iff_pairwise, startsOf, List.isChain_map,
      List.isChain_iff_forall_rel_of_append_cons_cons]
    intro x y before rest hl
    have hnone := recordedSize?_eq_none hl
    have hsize : y.2 - x.2 = stopBehind (startsOf offsets) imageSize x.2 - x.2 :=
      hruns _ (mem_ofOffsets hl hnone) hnone
    have hlt : x.2 < stopBehind (startsOf offsets) imageSize x.2 :=
      lt_stopBehind (h _ (by simp [startsOf_eq hl]))
    omega
  · intro hrising p hp hnone
    obtain ⟨before, rest, hl, hsize⟩ := size_of_mem_ofOffsets hp hnone
    rw [hsize, stopBehind_eq_nextListed hrising hl]

/-- **A size is right, or nothing, or too great**: a region is never shown smaller than it is, unless
it is shown as empty. -/
theorem size_eq_zero_or_le (h : ∀ o ∈ startsOf offsets, o < imageSize)
    (hp : p ∈ ofOffsets offsets imageSize) (hnone : recordedSize? offsets p.region = none) :
    p.size = 0 ∨ stopBehind (startsOf offsets) imageSize p.offset - p.offset ≤ p.size := by
  obtain ⟨before, rest, hl, hsize⟩ := size_of_mem_ofOffsets hp hnone
  rw [hsize]
  cases rest with
  | nil => exact .inr (Nat.sub_le_sub_right (stopBehind_le_imageSize h) _)
  | cons y rest =>
    have hy : y.2 ∈ startsOf offsets := by simp [startsOf_eq hl]
    change y.2 - p.offset = 0 ∨ _ ≤ y.2 - p.offset
    rcases Nat.lt_or_ge p.offset y.2 with hlt | hge
    · exact .inr (Nat.sub_le_sub_right (stopBehind_le hy hlt) _)
    · exact .inl (Nat.sub_eq_zero_of_le hge)

/-! ### What a survey adds -/

/-- **A survey adds one partition for each region that is present.** Those without a recorded size run
to the next start exactly when the offsets rise in the order of the regions, and then they are shown
with as many whole mebibytes. Any other size is nothing or too great. -/
theorem add_extent_iff {s : Survey} (h : ∀ o ∈ startsOf offsets, o < s.imageSize) :
    ∃ added, (s.add offsets).partitions = s.partitions ++ added ∧
      added.map (fun p => (p.region, p.offset)) = present offsets ∧
      ((∀ p ∈ added, RunsToNext offsets s.imageSize p) ↔ (startsOf offsets).Pairwise (· < ·)) ∧
      ((startsOf offsets).Pairwise (· < ·) → ∀ p ∈ added, ShowsExtent offsets s.imageSize p) ∧
      ∀ p ∈ added, recordedSize? offsets p.region = none →
        p.size = 0 ∨ stopBehind (startsOf offsets) s.imageSize p.offset - p.offset ≤ p.size := by
  refine ⟨ofOffsets offsets s.imageSize, rfl, map_layOut _ _ _, runsToNext_iff_rising h,
    fun hrising p hp => ?_, fun p hp hnone => size_eq_zero_or_le h hp hnone⟩
  exact ((runsToNext_iff_rising h).2 hrising p hp).showsExtent

/-- Offsets that rise, without one for the initial ramdisk, and the size of the root file system. -/
def risingOffsets : Offsets.Table where
  values := [("SQUASHFS_OFFSET_DEC", .dec 0x300000), ("SQUASHFS_SIZE", .raw "0x80000"),
    ("KERNEL_FIT_OFFSET", .raw "0x180000"), ("BOOTLOADER_FIT_OFFSET_DEC", .dec 0x1000)]

theorem showsExtent_risingOffsets :
    (∀ o ∈ startsOf risingOffsets, o < 0x400000) ∧
      ∀ p ∈ (Survey.add ⟨"image", 0x400000, [], []⟩ risingOffsets).partitions,
        ShowsExtent risingOffsets 0x400000 p := by
  have hbelow : ∀ o ∈ startsOf risingOffsets, o < 0x400000 := by decide +kernel
  have hrising : (startsOf risingOffsets).Pairwise (· < ·) := by decide +kernel
  obtain ⟨added, hadded, -, -, hshows, -⟩ :=
    add_extent_iff (s := ⟨"image", 0x400000, [], []⟩) hbelow
  refine ⟨hbelow, ?_⟩
  rw [hadded]
  exact hshows hrising

/-- Offsets of a root file system that lies before the initial ramdisk. -/
def rootFirstOffsets : Offsets.Table where
  values := [("ROOTFS_CPIO_OFFSET_DEC", .dec 0x300000), ("SQUASHFS_OFFSET_DEC", .dec 0x100000)]

/-- **A region that lies behind the one listed next is shown as empty**, though free space follows
it. -/
theorem not_showsExtent_rootFirst :
    (∀ o ∈ startsOf rootFirstOffsets, o < 0x400000) ∧
      (Survey.add ⟨"image", 0x400000, [], []⟩ rootFirstOffsets).partitions.map wholeMebibytes =
        [0, 3] ∧
      ¬∀ p ∈ (Survey.add ⟨"image", 0x400000, [], []⟩ rootFirstOffsets).partitions,
        ShowsExtent rootFirstOffsets 0x400000 p := by
  decide +kernel

end FirmwareSurvey.Partition
