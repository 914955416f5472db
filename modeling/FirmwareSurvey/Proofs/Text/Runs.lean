import FirmwareSurvey.Proofs.Text.Lines
import FirmwareSurvey.Text.Octets
import Mathlib.Data.List.Induction

/-!
# Printable runs

The printable runs of a row of bytes are the pieces between the bytes that are not printable, as far
as they have a least length. A reader that takes the bytes one by one finds the same runs with two
things in hand: the runs found so far, and the printable bytes read since the last other byte. It
gives a run away at two places, behind the run and at the end of the bytes. Since the bytes in hand
always go back to the byte before the run (`Scan.Reads`), what it gives away are whole pieces.

Nothing is replaced when a run is read as text, so every run is told as it stands in the bytes
(`lossy_of_printable`, `toNat_ofPrintable`).
-/

namespace FirmwareSurvey.Text

/-! ### Pieces -/

/-- The runs are the pieces between the bytes that are not printable. -/
theorem runs_eq_splitOnP (bytes : List UInt8) : runs bytes = bytes.splitOnP (!isPrintable ·) := by
  induction bytes with
  | nil => rfl
  | cons b bytes ih =>
    rw [runs] at ih
    rw [runs, List.foldr_cons, List.splitOnP_cons_eq_if_modifyHead, ← ih]
    cases isPrintable b with
    | true => rfl
    | false => rfl

theorem isPrintable_of_mem_runs {bytes run : List UInt8} (hrun : run ∈ runs bytes) :
    ∀ b ∈ run, isPrintable b = true := by
  rw [runs] at hrun
  induction bytes generalizing run with
  | nil =>
    obtain rfl : run = [] := by simpa using hrun
    simp
  | cons b bytes ih =>
    rw [List.foldr_cons] at hrun
    split at hrun
    · rename_i hb
      rcases List.mem_cons.1 hrun with rfl | hrun
      · exact List.forall_mem_cons.2 ⟨hb, ih List.mem_cons_self⟩
      · exact ih (List.mem_cons_of_mem _ hrun)
    · rcases List.mem_cons.1 hrun with rfl | hrun
      · simp
      · exact ih hrun

/-- The pieces between the bytes that are not printable, as far as they have a least length. -/
def keptRuns (least : Nat) (bytes : List UInt8) : List (List UInt8) :=
  (bytes.splitOnP (!isPrintable ·)).filter fun run => least ≤ run.length

theorem printableRuns_eq (bytes : ByteArray) (least : Nat) :
    printableRuns bytes least = (keptRuns least bytes.data.toList).map ofPrintable := by
  rw [printableRuns, runs_eq_splitOnP, keptRuns]

theorem isPrintable_of_mem_keptRuns {least : Nat} {bytes run : List UInt8}
    (hrun : run ∈ keptRuns least bytes) : ∀ b ∈ run, isPrintable b = true :=
  isPrintable_of_mem_runs (runs_eq_splitOnP bytes ▸ (List.mem_filter.1 hrun).1)

theorem keptRuns_append (least : Nat) (a b : List UInt8) {c : UInt8} (hc : isPrintable c = false) :
    keptRuns least (a ++ c :: b) = keptRuns least a ++ keptRuns least b := by
  rw [keptRuns, List.splitOnP_append_cons a b (by simp [hc]), List.filter_append, keptRuns, keptRuns]

theorem keptRuns_of_printable (least : Nat) {run : List UInt8}
    (h : ∀ b ∈ run, isPrintable b = true) :
    keptRuns least run = if least ≤ run.length then [run] else [] := by
  have hrun : run.splitOnP (!isPrintable ·) = [run] :=
    List.splitOnP_eq_singleton fun b hb => by simp [h b hb]
  rw [keptRuns, hrun, List.filter_cons, List.filter_nil]
  simp only [decide_eq_true_eq]

/-- A greater least length takes runs away and leaves the others in order. -/
theorem keptRuns_sublist {least most : Nat} (h : least ≤ most) (bytes : List UInt8) :
    (keptRuns most bytes).Sublist (keptRuns least bytes) := by
  have hmost : keptRuns most bytes =
      (keptRuns least bytes).filter fun run => most ≤ run.length := by
    rw [keptRuns, keptRuns, List.filter_filter]
    refine List.filter_congr fun run _ => ?_
    rw [← Bool.decide_and, decide_eq_decide]
    omega
  rw [hmost]
  exact List.filter_sublist

/-! ### Reading byte by byte -/

/-- How far a reader of single bytes has come. -/
structure Scan where
  /-- The runs found. -/
  found : List (List UInt8) := []
  /-- The printable bytes read since the last other one. -/
  current : List UInt8 := []

namespace Scan

/-- The runs found, with the bytes in hand when there are enough of them. -/
def flush (least : Nat) (s : Scan) : List (List UInt8) :=
  if least ≤ s.current.length then s.found ++ [s.current] else s.found

/-- Reads a byte. -/
def step (least : Nat) (s : Scan) (b : UInt8) : Scan :=
  if isPrintable b then { s with current := s.current ++ [b] }
  else { found := s.flush least, current := [] }

/-- The runs that a reader of single bytes finds. -/
def runsOf (least : Nat) (bytes : List UInt8) : List (List UInt8) :=
  (bytes.foldl (step least) {}).flush least

/-- What a reader has in hand behind some bytes: the printable ones at their end, back to the last
byte that is none, and the runs that stand before that byte. -/
structure Reads (least : Nat) (bytes : List UInt8) (s : Scan) : Prop where
  /-- The bytes in hand are printable. -/
  printable : ∀ b ∈ s.current, isPrintable b = true
  /-- They go back to the start of the bytes or to a byte that is not printable. -/
  behind : bytes = s.current ∧ s.found = [] ∨
    ∃ before c, isPrintable c = false ∧ bytes = before ++ c :: s.current ∧
      s.found = keptRuns least before

variable {least : Nat} {bytes : List UInt8} {s : Scan}

theorem Reads.flush (h : Reads least bytes s) : s.flush least = keptRuns least bytes := by
  obtain ⟨hprintable, ⟨rfl, hfound⟩ | ⟨before, c, hc, rfl, hfound⟩⟩ := h
  · rw [keptRuns_of_printable least hprintable, Scan.flush, hfound, List.nil_append]
  · rw [keptRuns_append least before s.current hc, keptRuns_of_printable least hprintable, Scan.flush,
      hfound]
    split
    · rfl
    · rw [List.append_nil]

theorem Reads.step (h : Reads least bytes s) (b : UInt8) :
    Reads least (bytes ++ [b]) (s.step least b) := by
  rw [Scan.step]
  cases hb : isPrintable b with
  | true =>
    refine ⟨fun d hd => ?_, ?_⟩
    · rcases List.mem_append.1 hd with hd | hd
      · exact h.printable d hd
      · rwa [List.mem_singleton.1 hd]
    · -- The byte that the bytes in hand go back to stays where it is.
      rcases h.behind with ⟨hbytes, hfound⟩ | ⟨before, c, hc, hbytes, hfound⟩
      · exact Or.inl ⟨by rw [hbytes]; rfl, hfound⟩
      · exact Or.inr ⟨before, c, hc, by rw [hbytes]; simp, hfound⟩
  | false => exact ⟨fun d hd => absurd hd List.not_mem_nil, Or.inr ⟨bytes, b, hb, rfl, h.flush⟩⟩

theorem reads_run (least : Nat) (bytes : List UInt8) :
    Reads least bytes (bytes.foldl (Scan.step least) {}) := by
  -- From the end of the bytes, for it is the last one that the reader reads last.
  induction bytes using List.reverseRecOn with
  | nil => exact ⟨fun b hb => absurd hb List.not_mem_nil, Or.inl ⟨rfl, rfl⟩⟩
  | append_singleton bytes b ih =>
    rw [List.foldl_append]
    exact ih.step b

/-- **A reader of single bytes finds the runs**, the empty ones too when there is no least
length. -/
theorem runsOf_eq (least : Nat) (bytes : List UInt8) : runsOf least bytes = keptRuns least bytes :=
  (reads_run least bytes).flush

end Scan

/-! ### Runs as texts -/

theorem foldlM_loop {β : Type} (f : β → UInt8 → β) (bytes : ByteArray) (i j : Nat)
    (h : j + i = bytes.size) (acc : β) :
    ByteArray.foldlM.loop (m := Id) (fun acc b => pure (f acc b)) bytes bytes.size
      (Nat.le_refl _) i j acc = (bytes.data.toList.drop j).foldl f acc := by
  induction i generalizing j acc with
  | zero =>
    have hsize : bytes.data.toList.length ≤ j := by
      rw [Array.length_toList, ByteArray.size_data]
      omega
    rw [ByteArray.foldlM.loop, dif_neg (by omega), List.drop_eq_nil_of_le hsize]
    rfl
  | succ i ih =>
    have hj : j < bytes.data.toList.length := by
      rw [Array.length_toList, ByteArray.size_data]
      omega
    rw [ByteArray.foldlM.loop, dif_pos (by omega), List.drop_eq_getElem_cons hj, List.foldl_cons]
    exact ih (j + 1) (by omega) _

/-- Bytes are folded over as the list of them. -/
theorem foldl_bytes {β : Type} (f : β → UInt8 → β) (init : β) (bytes : ByteArray) :
    bytes.foldl f init = bytes.data.toList.foldl f init := by
  rw [ByteArray.foldl, ByteArray.foldlM, dif_pos (Nat.le_refl _)]
  exact foldlM_loop f bytes bytes.size 0 (Nat.zero_add _) init

theorem lt_of_isPrintable {b : UInt8} (h : isPrintable b = true) : b.toNat < 0x80 := by
  rw [isPrintable, Bool.or_eq_true, Bool.and_eq_true, beq_iff_eq, decide_eq_true_eq,
    decide_eq_true_eq] at h
  rcases h with rfl | ⟨-, hle⟩
  · decide
  · have := UInt8.le_iff_toNat_le.1 hle
    have htilde : (0x7E : UInt8).toNat = 0x7E := rfl
    omega

/-- **A run is read as the characters of its bytes**: none is put in the place of another. -/
theorem lossy_of_printable {run : List UInt8} (h : ∀ b ∈ run, isPrintable b = true) :
    lossy ⟨run.toArray⟩ = ofPrintable run := by
  have hread : ∀ read : List Char, run.foldl lossyStep (read, none) =
      ((run.map fun b => Char.ofNat b.toNat).reverse ++ read, none) := by
    induction run with
    | nil => exact fun read => rfl
    | cons b run ih =>
      intro read
      obtain ⟨hb, hrun⟩ := List.forall_mem_cons.1 h
      have hstep : lossyStep (read, none) b = (Char.ofNat b.toNat :: read, none) := by
        simp only [lossyStep, firstByte, if_pos (lt_of_isPrintable hb)]
        rfl
      rw [List.foldl_cons, hstep, ih hrun, List.map_cons, List.reverse_cons, List.append_assoc]
      rfl
  rw [lossy, foldl_bytes, hread]
  simp [ofPrintable]

/-- The characters of a run have the numbers of its bytes. -/
theorem toNat_ofPrintable {run : List UInt8} (h : ∀ b ∈ run, isPrintable b = true) :
    (ofPrintable run).toList.map Char.toNat = run.map UInt8.toNat := by
  rw [ofPrintable, String.toList_ofList, List.map_map]
  refine List.map_congr_left fun b hb => ?_
  have hvalid : b.toNat.isValidChar := Or.inl (by have := lt_of_isPrintable (h b hb); omega)
  rw [Function.comp_apply, Char.ofNat, dif_pos hvalid]
  rfl

/-- **A printable run has no line feed in it.** -/
theorem feed_not_mem_of_mem_printableRuns {bytes : ByteArray} {least : Nat} {line : String}
    (h : line ∈ printableRuns bytes least) : '\n' ∉ line.toList := by
  rw [printableRuns_eq] at h
  obtain ⟨run, hrun, rfl⟩ := List.mem_map.1 h
  rw [ofPrintable, String.toList_ofList, List.mem_map]
  rintro ⟨b, hb, hfeed⟩
  have hprintable := isPrintable_of_mem_keptRuns hrun b hb
  rw [(UInt8.toNat_inj (b := 10)).1 (eq_of_ofNat_eq_feed hfeed)] at hprintable
  cases hprintable

/-- **The printable runs are the maximal ones**: the pieces between the bytes that are not printable,
as far as they are long enough, each read as it stands. A reader of single bytes finds the same; a
byte that is not printable parts the runs before it from those behind, and a greater least length
only takes runs away. -/
theorem printableRuns_maximal (bytes : ByteArray) (least : Nat) :
    printableRuns bytes least =
        ((bytes.data.toList.splitOnP (!isPrintable ·)).filter (least ≤ ·.length)).map
          (fun run => lossy ⟨run.toArray⟩) ∧
      Scan.runsOf least bytes.data.toList =
        (bytes.data.toList.splitOnP (!isPrintable ·)).filter (least ≤ ·.length) ∧
      (∀ run ∈ Scan.runsOf least bytes.data.toList,
        (lossy ⟨run.toArray⟩).toList.map Char.toNat = run.map UInt8.toNat) ∧
      (∀ (a b : ByteArray) (c : UInt8), isPrintable c = false →
        printableRuns (a.push c ++ b) least = printableRuns a least ++ printableRuns b least) ∧
      ∀ most, least ≤ most → (printableRuns bytes most).Sublist (printableRuns bytes least) := by
  have hprintable : ∀ run ∈ keptRuns least bytes.data.toList, ∀ b ∈ run, isPrintable b = true :=
    fun run hrun => isPrintable_of_mem_keptRuns hrun
  rw [← keptRuns, Scan.runsOf_eq]
  refine ⟨?_, rfl, ?_, ?_, ?_⟩
  · rw [printableRuns_eq]
    exact List.map_congr_left fun run hrun => (lossy_of_printable (hprintable run hrun)).symm
  · intro run hrun
    rw [lossy_of_printable (hprintable run hrun), toNat_ofPrintable (hprintable run hrun)]
  · intro a b c hc
    have hbytes : (a.push c ++ b).data.toList = a.data.toList ++ c :: b.data.toList := by
      simp [ByteArray.data_append, ByteArray.data_push]
    rw [printableRuns_eq, hbytes, keptRuns_append least _ _ hc, List.map_append,
      ← printableRuns_eq, ← printableRuns_eq]
  · intro most hmost
    rw [printableRuns_eq, printableRuns_eq]
    exact (keptRuns_sublist hmost _).map ofPrintable

/-- With no least length, the empty pieces around separators are runs too. -/
example : printableRuns ⟨#[0, 104, 105, 0, 0, 33]⟩ 0 = ["", "hi", "", "!"] := by decide

end FirmwareSurvey.Text
