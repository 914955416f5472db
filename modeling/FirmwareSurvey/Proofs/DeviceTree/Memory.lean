import FirmwareSurvey.DeviceTree.Description
import Mathlib.Data.List.Basic
import Mathlib.Data.List.Induction
import Mathlib.Data.Nat.Digits.Defs

/-!
# The size of the memory, exactly

The size of a bank is a number of any length, but it is put together in 128 bits, and then it is
held at the greatest word; so are the sums over banks and over nodes. Holding a part of a sum at a
bound is not seen once the whole is held at it (`foldl_addSizes_min`), so of three bounds one is
left. The 128 bits are seen: digits that no longer fit are lost before anything is held. So the
reading tells the sum of the sizes as far as these fit 128 bits, which they do as long as a size has
four cells at most (`memorySize_eq`).

The reading has three steps that could fail: two counts are added, the cells of a node are shared
out among banks, and the address is cut off a bank. Once the counts add up, the others do not fail:
a bank then has a cell at least, and none is short, since only nodes whose cells make whole banks
are read (`bankSizes?_eq`). But counts are words as they stand in the text, and nothing keeps their
sum a word (`memorySize_error_iff`).
-/

namespace FirmwareSurvey.DeviceTree

/-! ### Rows cut into banks -/

section

variable {length k : Nat} {cs : List Nat}

/-- The cells of a bank by its number. -/
def bankCells (length : Nat) (cs : List Nat) (j : Nat) : List Nat :=
  (cs.drop (j * length)).take length

/-- Whether the cells of a node make whole banks, one at least. -/
def MakesBanks (length : Nat) (cs : List Nat) : Prop := cs ≠ [] ∧ length ∣ cs.length

instance (length : Nat) (cs : List Nat) : Decidable (MakesBanks length cs) :=
  inferInstanceAs (Decidable (_ ∧ _))

theorem piecesBehind_eq {begun : List Nat} {room : Nat} (hroom : 0 < room)
    (hle : room ≤ cs.length) :
    piecesBehind length begun room cs =
      (begun ++ cs.take room) :: pieces length (cs.drop room) := by
  induction cs generalizing begun room with
  | nil => simp at hle; omega
  | cons c cs ih =>
    rw [piecesBehind]
    split
    · obtain rfl : room = 1 := by omega
      rfl
    · obtain ⟨room, rfl⟩ := Nat.exists_eq_succ_of_ne_zero hroom.ne'
      rw [Nat.succ_sub_one, ih (by omega) (by simpa using hle)]
      simp

/-- **A row of whole pieces is cut into them.** -/
theorem pieces_eq (hlength : 0 < length) (h : cs.length = k * length) :
    pieces length cs = (List.range k).map (bankCells length cs) := by
  induction k generalizing cs with
  | zero =>
    rw [Nat.zero_mul, List.length_eq_zero_iff] at h
    rw [h]
    rfl
  | succ k ih =>
    have hle : length ≤ cs.length := by rw [h, Nat.succ_mul]; omega
    have hrest : (cs.drop length).length = k * length := by
      rw [List.length_drop, h, Nat.succ_mul, Nat.add_sub_cancel]
    rw [pieces, piecesBehind_eq hlength hle, ih hrest, List.range_succ_eq_map, List.map_cons,
      List.map_map, List.nil_append]
    congr 1
    · simp [bankCells]
    · refine List.map_congr_left fun j _ => ?_
      rw [Function.comp_apply, bankCells, bankCells, List.drop_drop, Nat.succ_mul, Nat.add_comm]

theorem length_bankCells {j : Nat} (h : cs.length = k * length) (hj : j < k) :
    (bankCells length cs j).length = length := by
  have hle : (j + 1) * length ≤ k * length := Nat.mul_le_mul_right _ hj
  rw [Nat.succ_mul] at hle
  rw [bankCells, List.length_take, List.length_drop, h]
  omega

end

/-! ### What does not fail -/

section

variable {ε α β : Type} {f : α → Except ε β} {g : α → β}

/-- Where each item gives something, all do. -/
theorem mapM_eq_ok {items : List α} (h : ∀ a ∈ items, f a = .ok (g a)) :
    items.mapM f = .ok (items.map g) := by
  induction items with
  | nil => rfl
  | cons a items ih =>
    obtain ⟨ha, hrest⟩ := List.forall_mem_cons.1 h
    rw [List.mapM_cons, ha, ih hrest]
    rfl

end

variable {addressCells length : Nat} {cs : List Nat}

/-- What the banks of a node give, put together in 128 bits. -/
def wideSizes (addressCells length : Nat) (cs : List Nat) : List Nat :=
  (List.range (cs.length / length)).map fun j =>
    joinWide ((bankCells length cs j).drop addressCells)

/-- No bank of a row of whole banks is short. -/
theorem mapM_bankSize (hlength : 0 < length) (haddress : addressCells ≤ length)
    (hwhole : length ∣ cs.length) : (pieces length cs).mapM (bankSize addressCells) =
      .ok ((wideSizes addressCells length cs).map (min · greatestWord)) := by
  have hcount := (Nat.div_mul_cancel hwhole).symm
  have hbank : ∀ bank ∈ pieces length cs,
      bankSize addressCells bank = .ok (joinCells (bank.drop addressCells)) := fun bank hbank => by
    rw [pieces_eq hlength hcount, List.mem_map] at hbank
    obtain ⟨j, hj, rfl⟩ := hbank
    rw [bankSize, length_bankCells hcount (List.mem_range.1 hj), if_neg (Nat.not_lt.2 haddress)]
  rw [mapM_eq_ok hbank, pieces_eq hlength hcount, wideSizes, List.map_map, List.map_map]
  rfl

/-! ### Sums that are held -/

/-- **Holding the parts of a sum is not seen in the whole when it is held too.** -/
theorem foldl_addSizes_min (xs : List Nat) {total : Nat} (h : total ≤ greatestWord) :
    (xs.map (min · greatestWord)).foldl addSizes total = min (total + xs.sum) greatestWord := by
  induction xs generalizing total with
  | nil => simp [h]
  | cons x xs ih =>
    have hheld : addSizes total (min x greatestWord) ≤ greatestWord := Nat.min_le_right _ _
    rw [List.map_cons, List.foldl_cons, ih hheld, addSizes, List.sum_cons]
    omega

/-- **Once the counts add up, nothing fails**: a bank has a cell, and none is short. -/
theorem bankSizes?_eq (hlength : 0 < length) (haddress : addressCells ≤ length) (cs : List Nat) :
    bankSizes? addressCells length cs = .ok (if MakesBanks length cs then
      some (min (wideSizes addressCells length cs).sum greatestWord) else none) := by
  have hover : leftOver length cs = .ok (cs.length % length) := if_neg hlength.ne'
  by_cases hnil : cs = []
  · rw [hnil]
    rfl
  rw [bankSizes?, if_neg (by simpa using hnil), hover]
  by_cases hwhole : length ∣ cs.length
  · rw [if_pos ⟨hnil, hwhole⟩]
    simp only [bind, Except.bind, Nat.mod_eq_zero_of_dvd hwhole, if_true,
      mapM_bankSize hlength haddress hwhole, foldl_addSizes_min _ (Nat.zero_le _), Nat.zero_add]
    rfl
  · rw [if_neg fun h : MakesBanks length cs => hwhole h.2]
    simp only [bind, Except.bind, if_neg (mt Nat.dvd_of_mod_eq_zero hwhole)]
    rfl

/-- What is known of some sizes, and one more. -/
theorem sumKnown_concat (sizes : List (Option Nat)) (size : Option Nat) :
    sumKnown (sizes ++ [size]) = match size with
      | some n => some (addSizes ((sumKnown sizes).getD 0) n)
      | none => sumKnown sizes := by
  rw [sumKnown, List.foldl_append]
  rfl

/-- **The sum over nodes is held like the sums over their banks**, and there is none when no node
makes banks. -/
theorem sumKnown_eq (sizes : List Nat → List Nat) (length : Nat) (rows : List (List Nat)) :
    sumKnown (rows.map fun cs =>
        if MakesBanks length cs then some (min (sizes cs).sum greatestWord) else none) =
      if rows.filter (MakesBanks length) = [] then none
      else some (min ((rows.filter (MakesBanks length)).flatMap sizes).sum greatestWord) := by
  induction rows using List.reverseRecOn with
  | nil => rfl
  | append_singleton rows cs ih =>
    rw [List.map_append, List.map_cons, List.map_nil, sumKnown_concat, ih, List.filter_append]
    by_cases hbanks : MakesBanks length cs
    · rw [if_pos hbanks, List.filter_cons_of_pos (by simpa using hbanks), List.filter_nil,
        if_neg (List.append_ne_nil_of_right_ne_nil _ (List.cons_ne_nil _ _)),
        List.flatMap_append, List.sum_append, List.flatMap_singleton]
      by_cases hnil : rows.filter (MakesBanks length) = []
      · rw [if_pos hnil, hnil]
        simp [addSizes]
      · rw [if_neg hnil]
        simp only [Option.getD_some, addSizes, Option.some.injEq]
        omega
    · rw [if_neg hbanks, List.filter_cons_of_neg (by simpa using hbanks), List.filter_nil,
        List.append_nil]

/-! ### When the reading fails -/

/-- The cells of an address, as the root counts them. -/
def addressCount (text : String) : Nat := rootCount (nodes text) "#address-cells" 2

/-- The cells of a size, as the root counts them. -/
def sizeCount (text : String) : Nat := rootCount (nodes text) "#size-cells" 1

/-- The cells of a bank. -/
def bankCount (text : String) : Nat := addressCount text + sizeCount text

/-- The cells that each memory node lists. -/
def registers (text : String) : List (List Nat) :=
  (memoryNodes (nodes text)).map (·.cellsOf "reg")

/-- The cells that each memory node lists, where they make whole banks. -/
def banked (text : String) : List (List Nat) :=
  (registers text).filter (MakesBanks (bankCount text))

variable {text : String}

theorem memorySize_of_sizeCount (h : sizeCount text = 0) : memorySize text = .ok none := if_pos h

theorem memorySize_of_sizeCount_ne (h : sizeCount text ≠ 0) :
    memorySize text = (bankLength (addressCount text) (sizeCount text)).bind fun length =>
      ((memoryNodes (nodes text)).mapM fun n =>
        bankSizes? (addressCount text) length (n.cellsOf "reg")).map sumKnown := by
  rw [memorySize]
  exact if_neg h

theorem memorySize_of_wordLimit_le (hsize : sizeCount text ≠ 0)
    (h : Text.wordLimit ≤ bankCount text) : memorySize text = .error .cellCount := by
  have hlength : bankLength (addressCount text) (sizeCount text) = .error .cellCount :=
    if_neg (Nat.not_lt.2 h)
  rw [memorySize_of_sizeCount_ne hsize, hlength]
  rfl

/-- **Two bounds are one**: the sum over all nodes and banks is held once. -/
theorem memorySize_of_lt_wordLimit (hsize : sizeCount text ≠ 0)
    (h : bankCount text < Text.wordLimit) :
    memorySize text = .ok (if banked text = [] then none else
      some (min ((banked text).flatMap (wideSizes (addressCount text) (bankCount text))).sum
        greatestWord)) := by
  have hlength : bankLength (addressCount text) (sizeCount text) = .ok (bankCount text) := if_pos h
  have hle : addressCount text ≤ bankCount text := Nat.le_add_right _ _
  have hpos : 0 < bankCount text := Nat.add_pos_right _ (Nat.pos_of_ne_zero hsize)
  have hsizes := mapM_eq_ok fun (n : Node) (_ : n ∈ memoryNodes (nodes text)) =>
    bankSizes?_eq hpos hle (n.cellsOf "reg")
  have hsum := sumKnown_eq (wideSizes (addressCount text) (bankCount text)) (bankCount text)
    (registers text)
  rw [registers, List.map_map] at hsum
  rw [memorySize_of_sizeCount_ne hsize, hlength]
  dsimp only [Except.bind]
  rw [hsizes]
  exact congrArg Except.ok hsum

/-- Where the cells of a value begin: at its first opening bracket, or its end if it has none. -/
def bracketStart (raw : List Char) : Nat := raw.findIdx (· == '<')

/-- Where the cells of a value end: at the first closing bracket behind the opening one, or at the
end of the value. -/
def bracketStop (raw : List Char) : Nat :=
  bracketStart raw + (raw.drop (bracketStart raw)).findIdx (· == '>')

theorem not_bne (d : Char) : (fun c : Char => !(c != d)) = (· == d) := by
  funext c
  rw [bne, Bool.not_not]

/-- **The cells of a value stand between two places in it**, the second one not before the first. -/
theorem bracketed?_eq_slice {raw : List Char} (h : bracketStart raw < raw.length) :
    bracketStart raw + 1 ≤ bracketStop raw ∧ bracketStop raw ≤ raw.length ∧
      bracketed? raw = some ((raw.take (bracketStop raw)).drop (bracketStart raw + 1)) := by
  obtain ⟨rest, hrest⟩ : ∃ rest, raw.drop (bracketStart raw) = '<' :: rest := by
    have hbracket : raw[bracketStart raw] = '<' :=
      beq_iff_eq.1 (List.findIdx_getElem (p := (· == '<')) (w := h))
    exact ⟨_, hbracket ▸ List.drop_eq_getElem_cons h⟩
  -- the closing bracket is looked for behind the opening one
  have hstop : bracketStop raw = bracketStart raw + 1 + rest.findIdx (· == '>') := by
    rw [bracketStop, hrest, List.findIdx_cons]
    simp
    omega
  have hlength := congrArg List.length hrest
  rw [List.length_drop, List.length_cons] at hlength
  have hle : rest.findIdx (· == '>') ≤ rest.length := List.findIdx_le_length
  refine ⟨by omega, by omega, ?_⟩
  have hdrop : raw.dropWhile (· != '<') = '<' :: rest := by
    rw [List.dropWhile_eq_drop_findIdx_not, not_bne]
    exact hrest
  have htail : raw.drop (bracketStart raw + 1) = rest := by
    rw [← List.drop_drop, hrest]
    rfl
  rw [bracketed?, hdrop]
  dsimp only
  rw [List.takeWhile_eq_take_findIdx_not, not_bne, List.drop_take, htail, hstop,
    Nat.add_sub_cancel_left]

/-- **Reading the memory fails exactly when the two counts of cells add up to more than a word**,
unless there are no cells of a size. No remainder is one by zero then, and no bank is short; a tree
is described unless this reading fails; and what is taken for the cells of a value lies in it. -/
theorem memorySize_error_iff (path text : String) :
    (∀ o, memorySize text = .error o ↔
      o = .cellCount ∧ sizeCount text ≠ 0 ∧
        Text.wordLimit ≤ addressCount text + sizeCount text) ∧
      (∀ o, describeSource path text = .error o ↔ memorySize text = .error o) ∧
      ∀ raw, bracketStart raw < raw.length →
        bracketStart raw + 1 ≤ bracketStop raw ∧ bracketStop raw ≤ raw.length ∧
          bracketed? raw = some ((raw.take (bracketStop raw)).drop (bracketStart raw + 1)) := by
  refine ⟨fun o => ?_, fun o => ?_, fun raw => bracketed?_eq_slice⟩
  · by_cases hsize : sizeCount text = 0
    · rw [memorySize_of_sizeCount hsize]
      exact iff_of_false (by simp) fun h => h.2.1 hsize
    · by_cases hfits : bankCount text < Text.wordLimit
      · rw [memorySize_of_lt_wordLimit hsize hfits]
        exact iff_of_false (by simp) fun h => Nat.not_lt.2 h.2.2 hfits
      · rw [memorySize_of_wordLimit_le hsize (Nat.not_lt.1 hfits), Except.error.injEq, eq_comm]
        exact ⟨fun h => ⟨h, hsize, Nat.not_lt.1 hfits⟩, fun h => h.1⟩
  · rw [describeSource]
    cases memorySize text with
    | ok memory => exact iff_of_false (by simp [bind, Except.bind]) (by simp)
    | error o' => simp [bind, Except.bind]

/-- A tree whose counts of cells are words, and their sum is not. -/
def wideCounts : String :=
  "/ \x7b\n#address-cells = <0xffffffffffffffff>;\n#size-cells = <1>;\nmemory \x7b\n" ++
    "reg = <0 1>;\n\x7d;\n\x7d;\n"

theorem counts_wideCounts : sizeCount wideCounts ≠ 0 ∧
    addressCount wideCounts + sizeCount wideCounts = Text.wordLimit := by
  decide +kernel

theorem memorySize_error_wideCounts :
    addressCount wideCounts + sizeCount wideCounts = Text.wordLimit ∧
      memorySize wideCounts = .error .cellCount ∧
      describeSource "board" wideCounts = .error .cellCount ∧
      bracketed? ['<', '0', '>'] = some ['0'] := by
  obtain ⟨hsize, hcounts⟩ := counts_wideCounts
  obtain ⟨hfails, hdescribe, hslice⟩ := memorySize_error_iff "board" wideCounts
  have herror := (hfails .cellCount).2 ⟨rfl, hsize, hcounts.ge⟩
  exact ⟨hcounts, herror, (hdescribe _).2 herror, (hslice ['<', '0', '>'] (by decide)).2.2⟩

theorem not_memorySize_ok : ¬∀ text, ∃ size, memorySize text = .ok size := by
  intro h
  obtain ⟨size, hread⟩ := h wideCounts
  obtain ⟨hsize, hcounts⟩ := counts_wideCounts
  rw [memorySize_of_wordLimit_le hsize hcounts.ge] at hread
  cases hread

/-! ### What the size is -/

/-- The number of a row of 32-bit cells, most significant first. -/
def cellNumber (cs : List Nat) : Nat := Nat.ofDigits (2 ^ 32) cs.reverse

theorem cellNumber_concat (cs : List Nat) (c : Nat) :
    cellNumber (cs ++ [c]) = cellNumber cs * 2 ^ 32 + c := by
  rw [cellNumber, List.reverse_append, List.reverse_singleton, List.singleton_append,
    Nat.ofDigits_cons, cellNumber, Nat.add_comm, Nat.mul_comm]

/-- **Cells are put together in 128 bits.** -/
theorem joinWide_eq {cs : List Nat} (h : ∀ c ∈ cs, c < 2 ^ 32) :
    joinWide cs = cellNumber cs % 2 ^ 128 := by
  have hwide : wideLimit = 2 ^ 128 := by simp [wideLimit]
  induction cs using List.reverseRecOn with
  | nil => simp [joinWide, cellNumber]
  | append_singleton cs c ih =>
    have hjoin : joinWide (cs ++ [c]) =
        (joinWide cs * 0x100000000 + c % 0x100000000) % wideLimit := by
      rw [joinWide, List.foldl_append, List.foldl_cons, List.foldl_nil, joinWide]
    have hc := h c (by simp)
    rw [hjoin, ih fun d hd => h d (List.mem_append_left _ hd), cellNumber_concat, hwide]
    omega

/-- The numbers that the banks of all memory nodes give as their sizes. -/
def bankNumbers (text : String) : List Nat :=
  (banked text).flatMap fun cs => (List.range (cs.length / bankCount text)).map fun j =>
    cellNumber ((bankCells (bankCount text) cs j).drop (addressCount text))

theorem mem_of_mem_bankCells {length j c : Nat} {cs : List Nat} (h : c ∈ bankCells length cs j) :
    c ∈ cs :=
  List.mem_of_mem_drop (List.mem_of_mem_take h)

theorem flatMap_wideSizes (hcells : ∀ cs ∈ registers text, ∀ c ∈ cs, c < 2 ^ 32) :
    (banked text).flatMap (wideSizes (addressCount text) (bankCount text)) =
      (bankNumbers text).map (· % 2 ^ 128) := by
  rw [bankNumbers, List.map_flatMap]
  refine List.flatMap_congr fun cs hcs => ?_
  rw [wideSizes, List.map_map]
  refine List.map_congr_left fun j _ => joinWide_eq fun c hc => ?_
  exact hcells cs (List.mem_of_mem_filter hcs) c (mem_of_mem_bankCells (List.mem_of_mem_drop hc))

/-- Four cells make no more than 128 bits. -/
theorem lt_of_mem_bankNumbers (hcells : ∀ cs ∈ registers text, ∀ c ∈ cs, c < 2 ^ 32)
    (hsize : sizeCount text ≤ 4) {n : Nat} (hn : n ∈ bankNumbers text) : n < 2 ^ 128 := by
  obtain ⟨cs, hcs, hn⟩ := List.mem_flatMap.1 hn
  obtain ⟨j, -, rfl⟩ := List.mem_map.1 hn
  have hdigits : ∀ c ∈ ((bankCells (bankCount text) cs j).drop (addressCount text)).reverse,
      c < 2 ^ 32 := fun c hc =>
    hcells cs (List.mem_of_mem_filter hcs) c
      (mem_of_mem_bankCells (List.mem_of_mem_drop (List.mem_reverse.1 hc)))
  have hlength : ((bankCells (bankCount text) cs j).drop (addressCount text)).reverse.length ≤
      4 := by
    have hbank : (bankCells (bankCount text) cs j).length ≤ bankCount text :=
      List.length_take_le _ _
    rw [List.length_reverse, List.length_drop]
    rw [bankCount] at *
    omega
  calc cellNumber ((bankCells (bankCount text) cs j).drop (addressCount text))
      < (2 ^ 32) ^ ((bankCells (bankCount text) cs j).drop (addressCount text)).reverse.length :=
        Nat.ofDigits_lt_base_pow_length (by norm_num) hdigits
    _ ≤ (2 ^ 32) ^ 4 := Nat.pow_le_pow_right (by norm_num) hlength
    _ = 2 ^ 128 := by norm_num

/-- Remainders add up to less than numbers do, unless they are the numbers. -/
theorem sum_map_mod (xs : List Nat) {m : Nat} (hm : 0 < m) :
    (xs.map (· % m)).sum ≤ xs.sum ∧ ((xs.map (· % m)).sum = xs.sum ↔ ∀ x ∈ xs, x < m) := by
  induction xs with
  | nil => simp
  | cons x xs ih =>
    obtain ⟨hle, heq⟩ := ih
    have hx : x % m ≤ x := Nat.mod_le x m
    have hxm : x % m = x ↔ x < m := Nat.mod_eq_iff_lt hm.ne'
    rw [List.map_cons, List.sum_cons, List.sum_cons, List.forall_mem_cons, ← heq, ← hxm]
    omega

/-- **The size of the memory is the sum of the sizes of all banks**, held at the greatest word, as
far as each size fits 128 bits. There is none when no memory node makes banks. Of a size that does
not fit, the leading digits are lost, so the sum is told exactly when all sizes fit or what is left
of them makes the greatest word; with four cells for a size at most, all fit. -/
theorem memorySize_eq (hsize : 0 < sizeCount text)
    (hfits : addressCount text + sizeCount text < Text.wordLimit)
    (hcells : ∀ cs ∈ registers text, ∀ c ∈ cs, c < 2 ^ 32) :
    ((∀ cs ∈ registers text, ¬MakesBanks (bankCount text) cs) → memorySize text = .ok none) ∧
      ((∃ cs ∈ registers text, MakesBanks (bankCount text) cs) →
        memorySize text =
            .ok (some (min ((bankNumbers text).map (· % 2 ^ 128)).sum greatestWord)) ∧
          (memorySize text = .ok (some (min (bankNumbers text).sum greatestWord)) ↔
            greatestWord ≤ ((bankNumbers text).map (· % 2 ^ 128)).sum ∨
              ∀ n ∈ bankNumbers text, n < 2 ^ 128) ∧
          (sizeCount text ≤ 4 →
            memorySize text = .ok (some (min (bankNumbers text).sum greatestWord)))) := by
  have hread := memorySize_of_lt_wordLimit hsize.ne' hfits
  rw [flatMap_wideSizes hcells] at hread
  refine ⟨fun hnone => ?_, fun ⟨cs, hcs, hbanks⟩ => ?_⟩
  · have hnil : banked text = [] := List.filter_eq_nil_iff.2 fun cs hcs => by
      simpa using hnone cs hcs
    rw [hread, if_pos hnil]
  · have hne : banked text ≠ [] :=
      List.ne_nil_of_mem (List.mem_filter.2 ⟨hcs, decide_eq_true hbanks⟩)
    rw [if_neg hne] at hread
    obtain ⟨hle, heq⟩ := sum_map_mod (bankNumbers text) (Nat.two_pow_pos 128)
    have hexact : memorySize text = .ok (some (min (bankNumbers text).sum greatestWord)) ↔
        greatestWord ≤ ((bankNumbers text).map (· % 2 ^ 128)).sum ∨
          ∀ n ∈ bankNumbers text, n < 2 ^ 128 := by
      rw [hread, Except.ok.injEq, Option.some.injEq, ← heq]
      omega
    exact ⟨hread, hexact, fun hfour => hexact.2 (.inr fun n => lt_of_mem_bankNumbers hcells hfour)⟩

/-- A tree with two banks in one memory node, and another one whose cells make no whole bank. -/
def twoBanks : String :=
  "/ \x7b\n#address-cells = <1>;\n#size-cells = <2>;\nmemory@0 \x7b\n" ++
    "reg = <0 1 0 0x80000000 0 0x40000000>;\n\x7d;\nmemory@1 \x7b\nreg = <0 1>;\n\x7d;\n\x7d;\n"

theorem memorySize_twoBanks :
    bankNumbers twoBanks = [2 ^ 32, 2 ^ 30] ∧
      memorySize twoBanks = .ok (some (2 ^ 32 + 2 ^ 30)) := by
  have hread : registers twoBanks = [[0, 1, 0, 0x80000000, 0, 0x40000000], [0, 1]] ∧
      addressCount twoBanks = 1 ∧ sizeCount twoBanks = 2 ∧
      bankNumbers twoBanks = [2 ^ 32, 2 ^ 30] := by
    decide +kernel
  obtain ⟨hregisters, haddress, hsize, hnumbers⟩ := hread
  have hfits : addressCount twoBanks + sizeCount twoBanks < Text.wordLimit := by
    rw [haddress, hsize]
    decide
  have hcells : ∀ cs ∈ registers twoBanks, ∀ c ∈ cs, c < 2 ^ 32 := by
    rw [hregisters]
    decide
  have hbanks : ∃ cs ∈ registers twoBanks, MakesBanks (bankCount twoBanks) cs := by
    rw [hregisters, bankCount, haddress, hsize]
    decide
  obtain ⟨-, -, hfour⟩ := (memorySize_eq (by omega) hfits hcells).2 hbanks
  refine ⟨hnumbers, (hfour (by omega)).trans ?_⟩
  rw [hnumbers]
  rfl

/-- A tree with a size of five cells, which 128 bits do not hold. -/
def fiveCells : String :=
  "/ \x7b\n#address-cells = <1>;\n#size-cells = <5>;\nmemory \x7b\n" ++
    "reg = <0 1 0 0 0 0>;\n\x7d;\n\x7d;\n"

theorem memorySize_fiveCells :
    addressCount fiveCells = 1 ∧ sizeCount fiveCells = 5 ∧
      registers fiveCells = [[0, 1, 0, 0, 0, 0]] ∧ MakesBanks 6 [0, 1, 0, 0, 0, 0] ∧
      bankNumbers fiveCells = [2 ^ 128] ∧ memorySize fiveCells = .ok (some 0) ∧
      memorySize fiveCells ≠ .ok (some (min (bankNumbers fiveCells).sum greatestWord)) := by
  have hread : addressCount fiveCells = 1 ∧ sizeCount fiveCells = 5 ∧
      registers fiveCells = [[0, 1, 0, 0, 0, 0]] ∧ banked fiveCells = [[0, 1, 0, 0, 0, 0]] ∧
      bankNumbers fiveCells = [2 ^ 128] := by
    decide +kernel
  obtain ⟨haddress, hsize, hregisters, hbanked, hnumbers⟩ := hread
  have hbank : bankCount fiveCells = 6 := by rw [bankCount, haddress, hsize]
  -- the leading one of the size is what 128 bits do not hold
  have hwide : wideSizes 1 6 [0, 1, 0, 0, 0, 0] = [0] := by decide +kernel
  have hzero : memorySize fiveCells = .ok (some 0) := by
    rw [memorySize_of_lt_wordLimit (by omega) (by rw [hbank]; decide), hbanked, haddress, hbank,
      List.flatMap_singleton, hwide]
    rfl
  refine ⟨haddress, hsize, hregisters, by decide, hnumbers, hzero, ?_⟩
  rw [hzero, hnumbers]
  decide +kernel

end FirmwareSurvey.DeviceTree
