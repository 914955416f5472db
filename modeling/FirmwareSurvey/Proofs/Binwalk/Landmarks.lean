import FirmwareSurvey.Binwalk.Survey
import FirmwareSurvey.Proofs.Members
import Mathlib.Data.List.Basic
import Mathlib.Data.List.Induction

/-!
# Landmarks and the rows they are found at

A row *fits* a landmark when its description has all of the landmark's terms and its offset lies
behind every offset that is recorded for the landmarks before it. The search goes through the
landmarks one by one, so what is recorded for those before a landmark is there when it is looked
for, and stays (`Resolved.step`). In the end every landmark is recorded at the first row that fits
it, if there is one, and every landmark that more than one row fits has a warning
(`resolve_records`).
-/

namespace FirmwareSurvey.Binwalk

open Offsets Text

variable {rows : List Component} {found found' : Found} {l : Landmark} {ls : List Landmark}
  {r : Resolution}

/-! ### Rows that fit -/

/-- Whether a row fits a landmark when these offsets are recorded: every term occurs in its
description, in either letter case, and it lies behind what is recorded for the landmarks that come
before. -/
def Fits (found : Found) (l : Landmark) (c : Component) : Prop :=
  (∀ t ∈ l.terms, lowerChars t.toList <:+: lowerChars c.description.toList) ∧
    ∀ name ∈ l.after, ∀ n, found.get? name = some n → n < c.offset

theorem hasTerms_iff {c : Component} {terms : List String} :
    c.hasTerms terms = true ↔
      ∀ t ∈ terms, lowerChars t.toList <:+: lowerChars c.description.toList := by
  simp only [Component.hasTerms, List.all_eq_true, occursIn_iff, List.IsInfix]
  simp only [eq_comm]

theorem isBehind_greatest?_iff {c : Component} {names : List String} :
    c.isBehind (greatest? found names) = true ↔
      ∀ name ∈ names, ∀ n, found.get? name = some n → n < c.offset := by
  have hmem (n : Nat) : n ∈ names.filterMap found.get? ↔
      ∃ name ∈ names, found.get? name = some n := List.mem_filterMap
  rw [greatest?]
  cases hmax : (names.filterMap found.get?).max? with
  | none =>
    rw [List.max?_eq_none_iff] at hmax
    simp only [Component.isBehind, true_iff]
    intro name hname n hn
    have hin := (hmem n).2 ⟨name, hname, hn⟩
    rw [hmax] at hin
    cases hin
  | some greatest =>
    obtain ⟨hin, hgreatest⟩ := List.max?_eq_some_iff.1 hmax
    simp only [Component.isBehind, decide_eq_true_eq]
    constructor
    · intro hlt name hname n hn
      exact Nat.lt_of_le_of_lt (hgreatest n ((hmem n).2 ⟨name, hname, hn⟩)) hlt
    · intro h
      obtain ⟨name, hname, hn⟩ := (hmem greatest).1 hin
      exact h name hname greatest hn

theorem fits_iff {c : Component} :
    (c.isBehind (greatest? found l.after) && c.hasTerms l.terms) = true ↔ Fits found l c := by
  rw [Bool.and_eq_true, isBehind_greatest?_iff, hasTerms_iff, Fits, and_comm]

instance (found : Found) (l : Landmark) (c : Component) : Decidable (Fits found l c) :=
  decidable_of_iff _ fits_iff

/-- Only what is recorded for the landmarks before it counts. -/
theorem fits_congr (h : ∀ name ∈ l.after, found.get? name = found'.get? name) :
    Fits found l = Fits found' l := by
  funext c
  refine propext (and_congr_right' (forall₂_congr fun name hname => ?_))
  rw [h name hname]

/-- The rows that fit a landmark. -/
def fitting (rows : List Component) (found : Found) (l : Landmark) : List Component :=
  rows.filter fun c => Fits found l c

/-- The first row that fits a landmark. -/
def first? (rows : List Component) (found : Found) (l : Landmark) : Option Component :=
  rows.find? fun c => Fits found l c

/-- The warning for a landmark, if two rows or more fit it. -/
def warning? (rows : List Component) (found : Found) (l : Landmark) : Option String :=
  match fitting rows found l with
  | c :: _ :: others => some (ambiguity l c (others.length + 2))
  | _ => none

theorem candidates_eq_fitting :
    candidates rows l.terms (greatest? found l.after) = fitting rows found l := by
  refine List.filter_congr fun c _ => ?_
  rw [Bool.eq_iff_iff, fits_iff, decide_eq_true_iff]

theorem first?_eq_head? : first? rows found l = (fitting rows found l).head? :=
  List.head?_filter.symm

theorem first?_congr (h : ∀ name ∈ l.after, found.get? name = found'.get? name) :
    first? rows found l = first? rows found' l := by
  simp only [first?, fits_congr h]

theorem warning?_congr (h : ∀ name ∈ l.after, found.get? name = found'.get? name) :
    warning? rows found l = warning? rows found' l := by
  simp only [warning?, fitting, fits_congr h]

theorem exists_of_first? {c : Component} (h : first? rows found l = some c) :
    c ∈ rows ∧ Fits found l c :=
  ⟨List.mem_of_find?_eq_some h, by simpa using List.find?_some h⟩

/-! ### One landmark -/

/-- The size that the root file system is recorded with when it is looked for at a row. -/
def sizeAt (c : Component) : Option Nat := statedSize? c.description.toList

/-- The first row that fits a landmark is recorded, under a name that may be known. -/
theorem entries_step : (Resolution.step rows r l).offsets.entries =
    match first? rows r.offsets l with
    | some c => r.offsets.entries.put l.name c.offset
    | none => r.offsets.entries := by
  rw [Resolution.step, pick?, candidates_eq_fitting, first?_eq_head?]
  cases fitting rows r.offsets l with
  | nil => rfl
  | cons c cs => by_cases hl : l.name = squashfs <;> simp only [hl, if_true, if_false] <;> rfl

theorem warnings_step : (Resolution.step rows r l).warnings =
    r.warnings ++ (warning? rows r.offsets l).toList := by
  rw [Resolution.step, pick?, candidates_eq_fitting, warning?]
  rcases fitting rows r.offsets l with _ | ⟨c, _ | ⟨d, others⟩⟩ <;> simp

theorem size_step : (Resolution.step rows r l).offsets.squashfsSize =
    match first? rows r.offsets l with
    | some c => if l.name = squashfs then sizeAt c else r.offsets.squashfsSize
    | none => r.offsets.squashfsSize := by
  rw [Resolution.step, pick?, candidates_eq_fitting, first?_eq_head?]
  cases fitting rows r.offsets l with
  | nil => rfl
  | cons c cs => by_cases hl : l.name = squashfs <;> simp only [hl, if_true, if_false] <;> rfl

theorem get?_step {name : String} (h : name ≠ l.name) :
    (Resolution.step rows r l).offsets.get? name = r.offsets.get? name := by
  rw [Found.get?, entries_step, Found.get?]
  cases first? rows r.offsets l with
  | none => rfl
  | some c => exact Members.get?_put_of_ne _ _ (Ne.symm h)

/-- What has been looked for is recorded at the first rows that fit, in order, with its warnings;
and the size is that of the row at the root file system. -/
structure Resolved (rows : List Component) (ls : List Landmark) (r : Resolution) : Prop where
  /-- Every landmark is recorded at the first row that fits it. -/
  entries : r.offsets.entries = ls.filterMap fun l =>
    (first? rows r.offsets l).map fun c => (l.name, c.offset)
  /-- There is a warning for every landmark that several rows fit. -/
  warnings : r.warnings = ls.filterMap (warning? rows r.offsets)
  /-- The size is stated by the row of the root file system. -/
  size : r.offsets.squashfsSize = (ls.find? (·.name = squashfs)).bind fun l =>
    (first? rows r.offsets l).bind sizeAt

/-- Whether landmarks have different names and none of them has to come behind itself or a later
one. -/
def InOrder (ls : List Landmark) : Prop :=
  ls.Pairwise (fun a b => b.name ≠ a.name ∧ b.name ∉ a.after) ∧ ∀ l ∈ ls, l.name ∉ l.after

instance (ls : List Landmark) : Decidable (InOrder ls) := inferInstanceAs (Decidable (_ ∧ _))

theorem InOrder.of_append (h : InOrder (ls ++ [l])) : InOrder ls :=
  ⟨(List.pairwise_append.1 h.1).1, fun l' hl' => h.2 l' (List.mem_append_left _ hl')⟩

theorem InOrder.of_mem_before (h : InOrder (ls ++ [l])) {l' : Landmark} (hl' : l' ∈ ls) :
    l.name ≠ l'.name ∧ l.name ∉ l'.after :=
  (List.pairwise_append.1 h.1).2.2 l' hl' l (List.mem_singleton_self l)

/-- Nobody asks for the landmark that is looked for last. -/
theorem InOrder.not_mem_after (h : InOrder (ls ++ [l])) {l' : Landmark} (hl' : l' ∈ ls ++ [l]) :
    l.name ∉ l'.after := by
  rcases List.mem_append.1 hl' with hl' | hl'
  · exact (h.of_mem_before hl').2
  · obtain rfl := List.mem_singleton.1 hl'
    exact h.2 _ (List.mem_append_right _ (List.mem_singleton_self _))

/-- A name that no landmark has is not recorded. -/
theorem Resolved.not_mem_keys (h : Resolved rows ls r) {name : String}
    (hne : ∀ l ∈ ls, name ≠ l.name) : name ∉ Members.keys r.offsets.entries := by
  rw [h.entries]
  intro hmem
  obtain ⟨p, hp, hname⟩ := List.mem_map.1 hmem
  obtain ⟨l, hl, hp⟩ := List.mem_filterMap.1 hp
  obtain ⟨c, -, rfl⟩ := Option.map_eq_some_iff.1 hp
  exact hne l hl hname.symm

/-- **Looking for one more landmark** leaves those looked for before as they are. -/
theorem Resolved.step (h : Resolved rows ls r) (horder : InOrder (ls ++ [l])) :
    Resolved rows (ls ++ [l]) (Resolution.step rows r l) := by
  -- What is recorded anew is asked for by nobody, so the same rows fit as before.
  have hkeeps : ∀ l' ∈ ls ++ [l], ∀ name ∈ l'.after,
      (Resolution.step rows r l).offsets.get? name = r.offsets.get? name :=
    fun l' hl' name hname => get?_step fun heq => horder.not_mem_after hl' (heq ▸ hname)
  have hfirst : ∀ l' ∈ ls ++ [l],
      first? rows (Resolution.step rows r l).offsets l' = first? rows r.offsets l' :=
    fun l' hl' => first?_congr (hkeeps l' hl')
  have hwarning : ∀ l' ∈ ls ++ [l],
      warning? rows (Resolution.step rows r l).offsets l' = warning? rows r.offsets l' :=
    fun l' hl' => warning?_congr (hkeeps l' hl')
  refine ⟨?_, ?_, ?_⟩
  · have hnew : l.name ∉ Members.keys r.offsets.entries :=
      h.not_mem_keys fun l' hl' => (horder.of_mem_before hl').1
    rw [List.filterMap_congr fun l' hl' => by rw [hfirst l' hl'], List.filterMap_append,
      ← h.entries, entries_step]
    cases hc : first? rows r.offsets l with
    | none => simp [hc]
    | some c => simp [hc, Members.put_eq_append hnew]
  · rw [List.filterMap_congr hwarning, List.filterMap_append, ← h.warnings, warnings_step]
    cases hw : warning? rows r.offsets l <;> simp [hw]
  · rw [size_step, h.size, List.find?_append]
    by_cases hl : l.name = squashfs
    · have hnone : ls.find? (·.name = squashfs) = none := by
        rw [List.find?_eq_none]
        intro l' hl'
        simpa [← hl] using (horder.of_mem_before hl').1.symm
      cases hc : first? rows r.offsets l <;> simp [hnone, hl, hfirst l, hc]
    · have hone : [l].find? (·.name = squashfs) = none := by simp [hl]
      have hkept : ∀ l', ls.find? (·.name = squashfs) = some l' →
          (first? rows (Resolution.step rows r l).offsets l').bind sizeAt =
            (first? rows r.offsets l').bind sizeAt := fun l' hl' => by
        rw [hfirst l' (List.mem_append_left _ (List.mem_of_find?_eq_some hl'))]
      rw [hone, Option.or_none, Option.bind_congr hkept]
      cases first? rows r.offsets l <;> simp [hl]

/-- **Landmarks in order are looked for one after another.** -/
theorem resolved_foldl (rows : List Component) (h : InOrder ls) :
    Resolved rows ls (ls.foldl (Resolution.step rows) {}) := by
  induction ls using List.reverseRecOn with
  | nil => exact ⟨rfl, rfl, rfl⟩
  | append_singleton ls l ih =>
    rw [List.foldl_append]
    exact (ih h.of_append).step h

/-! ### What is recorded -/

/-- What is recorded under the name of a landmark is the offset of the first row that fits it. -/
theorem Resolved.get? (h : Resolved rows ls r) (horder : InOrder ls) (hl : l ∈ ls) :
    r.offsets.get? l.name = (first? rows r.offsets l).map (·.offset) := by
  have hentries : r.offsets.entries = ls.filterMap fun l =>
      ((first? rows r.offsets l).map (·.offset)).map fun n => (l.name, n) := by
    simpa [Function.comp_def] using h.entries
  rw [Found.get?, hentries]
  exact Members.get?_filterMap_named (horder.1.imp And.left) hl

/-- What is recorded is the offset of a row, under the name of a landmark. -/
theorem Resolved.exists_row (h : Resolved rows ls r) {name : String} {n : Nat}
    (hn : r.offsets.get? name = some n) :
    ∃ l ∈ ls, l.name = name ∧ ∃ c, first? rows r.offsets l = some c ∧ c.offset = n := by
  have hmem := Members.mem_of_get? hn
  rw [h.entries] at hmem
  obtain ⟨l, hl, hmem⟩ := List.mem_filterMap.1 hmem
  obtain ⟨c, hc, heq⟩ := Option.map_eq_some_iff.1 hmem
  obtain ⟨hname, hoffset⟩ := Prod.mk.inj heq
  exact ⟨l, hl, hname, c, hc, hoffset⟩

/-- **A landmark lies behind those that have to come before it.** -/
theorem Resolved.lt (h : Resolved rows ls r) (horder : InOrder ls) (hl : l ∈ ls) {name : String}
    (hname : name ∈ l.after) {m n : Nat} (hm : r.offsets.get? name = some m)
    (hn : r.offsets.get? l.name = some n) : m < n := by
  rw [h.get? horder hl] at hn
  obtain ⟨c, hc, rfl⟩ := Option.map_eq_some_iff.1 hn
  exact (exists_of_first? hc).2.2 name hname m hm

/-- The landmarks of the boot chain whose offsets have an order, the lower one first. -/
def chain : List (String × String) :=
  [("BOOTLOADER_FIT", "UBOOT_GZ"), ("BOOTLOADER_FIT", "OPTEE_GZ"), ("BOOTLOADER_FIT", "KERNEL_FIT"),
    ("UBOOT_GZ", "KERNEL_FIT"), ("OPTEE_GZ", "KERNEL_FIT"), ("KERNEL_FIT", "ROOTFS_CPIO")]

theorem inOrder_landmarks : InOrder landmarks := by decide

/-- **Landmarks are picked soundly.** Every landmark is recorded at the first row that fits it, if
there is one, and nothing else is recorded; there is one warning for every landmark that two rows or
more fit, in the order of the landmarks. So what is recorded along the boot chain is in order, every
offset is that of a row, and the size of the root file system is the one that the row at its offset
states. -/
theorem resolve_records (rows : List Component) :
    (∀ l ∈ landmarks, (resolve rows).offsets.get? l.name =
      (rows.find? fun c => Fits (resolve rows).offsets l c).map (·.offset)) ∧
    (resolve rows).offsets.entries = landmarks.filterMap (fun l =>
      (rows.find? fun c => Fits (resolve rows).offsets l c).map fun c => (l.name, c.offset)) ∧
    (resolve rows).warnings = landmarks.filterMap (warning? rows (resolve rows).offsets) ∧
    (∀ p ∈ chain, ∀ m n, (resolve rows).offsets.get? p.1 = some m →
      (resolve rows).offsets.get? p.2 = some n → m < n) ∧
    (∀ name n, (resolve rows).offsets.get? name = some n → ∃ c ∈ rows, c.offset = n) ∧
    ∀ size, (resolve rows).offsets.squashfsSize = some size →
      ∃ l ∈ landmarks, l.name = squashfs ∧ ∃ c,
        (rows.find? fun c => Fits (resolve rows).offsets l c) = some c ∧
          (resolve rows).offsets.get? squashfs = some c.offset ∧
          statedSize? c.description.toList = some size := by
  have h : Resolved rows landmarks (resolve rows) := resolved_foldl rows inOrder_landmarks
  refine ⟨fun l hl => h.get? inOrder_landmarks hl, h.entries, h.warnings, ?_, ?_, ?_⟩
  · intro p hp m n hm hn
    have hafter : ∀ p ∈ chain, ∃ l ∈ landmarks, l.name = p.2 ∧ p.1 ∈ l.after := by decide
    obtain ⟨l, hl, hname, hbefore⟩ := hafter p hp
    exact h.lt inOrder_landmarks hl hbefore hm (hname ▸ hn)
  · intro name n hn
    obtain ⟨l, -, -, c, hc, hoffset⟩ := h.exists_row hn
    exact ⟨c, (exists_of_first? hc).1, hoffset⟩
  · intro size hsize
    rw [h.size] at hsize
    obtain ⟨l, hfind, hsize⟩ := Option.bind_eq_some_iff.1 hsize
    obtain ⟨c, hc, hsize⟩ := Option.bind_eq_some_iff.1 hsize
    have hl := List.mem_of_find?_eq_some hfind
    have hname : l.name = squashfs := by simpa using List.find?_some hfind
    refine ⟨l, hl, hname, c, hc, ?_, hsize⟩
    rw [← hname, h.get? inOrder_landmarks hl, hc]
    rfl

end FirmwareSurvey.Binwalk
