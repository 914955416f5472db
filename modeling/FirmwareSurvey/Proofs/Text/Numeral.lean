import FirmwareSurvey.Text.Numeral
import FirmwareSurvey.Text.Word
import Mathlib.Data.List.Induction
import Mathlib.Data.Nat.Digits.Defs
import Mathlib.Tactic.Ring
import Mathlib.Tactic.SplitIfs

/-!
# Numerals read back

The digits of a number, read again, give the number: `digitsValue?_toDigits`, in every base up to
sixteen, also written with capitals. In base ten they are ASCII digits, and a zero comes first only
in the numeral of zero. What is read as a number of a word is a row of ASCII digits below the limit,
with at most one plus sign before it, and nothing else (`decimal?_eq_some_iff`).
-/

namespace FirmwareSurvey.Text

theorem digitValue?_digitChar : ∀ base ≤ 16, ∀ d < base,
    digitValue? base (Nat.digitChar d) = some d := by
  decide

/-- **The digits of a number read back**, in every base up to sixteen. -/
theorem digitsValue?_toDigits {base : Nat} (h1 : 1 < base) (h16 : base ≤ 16) (n : Nat) :
    digitsValue? base 0 (Nat.toDigits base n) = some n := by
  induction n using Nat.strongRecOn with
  | ind n ih =>
    rw [Nat.toDigits_eq_if h1]
    split_ifs with hn
    · simp [digitsValue?, digitValue?_digitChar base h16 n hn]
    · have hmod := digitValue?_digitChar base h16 (n % base) (Nat.mod_lt n (by omega))
      rw [digitsValue?_append, ih (n / base) (Nat.div_lt_self (by omega) h1)]
      simp [digitsValue?, hmod, Nat.div_add_mod]

theorem exists_of_mem_toDigits {base : Nat} (h1 : 1 < base) {n : Nat} {c : Char}
    (h : c ∈ Nat.toDigits base n) : ∃ d < base, c = Nat.digitChar d := by
  induction n using Nat.strongRecOn with
  | ind n ih =>
    rw [Nat.toDigits_eq_if h1] at h
    split_ifs at h with hn
    · exact ⟨n, hn, List.mem_singleton.1 h⟩
    · rcases List.mem_append.1 h with h | h
      · exact ih (n / base) (Nat.div_lt_self (by omega) h1) h
      · exact ⟨n % base, Nat.mod_lt n (by omega), List.mem_singleton.1 h⟩

theorem digitsValue?_map {base : Nat} {f : Char → Char} {cs : List Char}
    (h : ∀ c ∈ cs, digitValue? base (f c) = digitValue? base c) (acc : Nat) :
    digitsValue? base acc (cs.map f) = digitsValue? base acc cs := by
  induction cs generalizing acc with
  | nil => rfl
  | cons c cs ih =>
    obtain ⟨hc, hcs⟩ := List.forall_mem_cons.1 h
    rw [List.map_cons, digitsValue?, digitsValue?, hc]
    cases digitValue? base c with
    | none => rfl
    | some v => exact ih hcs _

theorem digitValue?_toUpper : ∀ d < 16,
    digitValue? 16 (Nat.digitChar d).toUpper = digitValue? 16 (Nat.digitChar d) := by
  decide

/-- **Hexadecimal digits read back**, written with capitals. -/
theorem digitsValue?_upperHexChars (n : Nat) : digitsValue? 16 0 (upperHexChars n) = some n := by
  rw [upperHexChars, digitsValue?_map, digitsValue?_toDigits (by omega) (by omega)]
  intro c hc
  obtain ⟨d, hd, rfl⟩ := exists_of_mem_toDigits (by omega) hc
  exact digitValue?_toUpper d hd

theorem exists_of_mem_upperHexChars {n : Nat} {c : Char} (h : c ∈ upperHexChars n) :
    ∃ d < 16, c = (Nat.digitChar d).toUpper := by
  obtain ⟨e, he, rfl⟩ := List.mem_map.1 h
  obtain ⟨d, hd, rfl⟩ := exists_of_mem_toDigits (by omega) he
  exact ⟨d, hd, rfl⟩

/-- A numeral that starts with no sign is read as its digits. -/
theorem unsigned?_eq_some {base limit n : Nat} {cs : List Char} (hne : cs ≠ [])
    (hsign : cs.head? ≠ some '+') (hvalue : digitsValue? base 0 cs = some n) (hn : n < limit) :
    unsigned? base limit cs = some n := by
  obtain ⟨c, r, rfl⟩ := List.exists_cons_of_ne_nil hne
  have hplus : dropPlus (c :: r) = c :: r := by
    rw [dropPlus.eq_def]
    split
    · rename_i r' heq
      obtain ⟨rfl, -⟩ := List.cons.inj heq
      exact absurd rfl hsign
    · rfl
  rw [unsigned?, hplus]
  simp only [hvalue, hn, if_true]

/-- A numeral is read only when its value lies below the limit. -/
theorem lt_of_unsigned? {base limit n : Nat} {cs : List Char}
    (h : unsigned? base limit cs = some n) : n < limit := by
  rw [unsigned?] at h
  split at h
  · cases h
  · split at h
    · split at h
      · rename_i hlt
        exact Option.some.inj h ▸ hlt
      · cases h
    · cases h

theorem lt_of_decimal? {n : Nat} {cs : List Char} (h : decimal? cs = some n) : n < wordLimit :=
  lt_of_unsigned? h

theorem isAsciiDigit_of_mem_toDigits {n : Nat} {c : Char} (h : c ∈ Nat.toDigits 10 n) :
    isAsciiDigit c = true := by
  have hc := Nat.isDigit_of_mem_toDigits (by omega) (Nat.le_refl 10) h
  simpa [Char.isDigit, isAsciiDigit, Char.le_def] using hc

/-- **A 64-bit word written in decimal reads back.** -/
theorem decimal?_decimalChars {n : Nat} (hn : n < wordLimit) :
    decimal? (decimalChars n) = some n := by
  refine unsigned?_eq_some Nat.toDigits_ne_nil ?_ (digitsValue?_toDigits (by omega) (by omega) n) hn
  intro h
  have := isAsciiDigit_of_mem_toDigits (List.mem_of_mem_head? h)
  exact absurd this (by decide)

/-- A zero comes first only in the numeral of zero. -/
theorem head?_toDigits {n : Nat} (hn : n ≠ 0) : (Nat.toDigits 10 n).head? ≠ some '0' := by
  induction n using Nat.strongRecOn with
  | ind n ih =>
    rw [Nat.toDigits_eq_if (by omega)]
    split_ifs with h
    · simpa using hn
    · rw [List.head?_append, Option.or_of_isSome (by simp)]
      exact ih (n / 10) (Nat.div_lt_self (by omega) (by omega)) (by omega)

/-! ### What is a decimal numeral -/

/-- The number of a row of decimal digits. -/
def decimalValue (ds : List Char) : Nat :=
  Nat.ofDigits 10 (ds.reverse.map fun c => c.toNat - '0'.toNat)

/-- Whether a text is a decimal numeral of a number: digits, at least one, with at most one plus sign
before them. -/
def IsDecimal (cs : List Char) (n : Nat) : Prop :=
  ∃ ds, (cs = ds ∨ cs = '+' :: ds) ∧ ds ≠ [] ∧ (∀ c ∈ ds, isAsciiDigit c = true) ∧
    n = decimalValue ds

theorem isAsciiDigit_iff {c : Char} : isAsciiDigit c = true ↔ 48 ≤ c.toNat ∧ c.toNat ≤ 57 := by
  simp only [isAsciiDigit, Bool.and_eq_true, decide_eq_true_eq, Char.le_def,
    UInt32.le_iff_toNat_le]
  rfl

theorem digitValue?_ten (c : Char) :
    digitValue? 10 c = if isAsciiDigit c then some (c.toNat - '0'.toNat) else none := by
  have hzero : '0'.toNat = 48 := rfl
  simp only [digitValue?, hzero, isAsciiDigit_iff, Bool.and_eq_true, decide_eq_true_eq]
  split_ifs <;> first | rfl | omega

theorem digitsValue?_ten_eq_some_iff {ds : List Char} {n : Nat} :
    digitsValue? 10 0 ds = some n ↔ (∀ c ∈ ds, isAsciiDigit c = true) ∧ n = decimalValue ds := by
  induction ds using List.reverseRecOn generalizing n with
  | nil =>
    rw [digitsValue?, Option.some.injEq, eq_comm]
    exact (and_iff_right fun _ hc => absurd hc List.not_mem_nil).symm
  | append_singleton ds c ih =>
    have hvalue : decimalValue (ds ++ [c]) = 10 * decimalValue ds + (c.toNat - '0'.toNat) := by
      rw [decimalValue, List.reverse_concat, List.map_cons, Nat.ofDigits_cons, Nat.add_comm]
      rfl
    rw [digitsValue?_append, Option.bind_eq_some_iff, hvalue, List.forall_mem_append]
    simp only [ih, digitsValue?, digitValue?_ten, List.forall_mem_singleton]
    by_cases hc : isAsciiDigit c = true
    · simp only [hc, if_true, and_true, Option.some.injEq]
      constructor
      · rintro ⟨m, ⟨hds, rfl⟩, rfl⟩
        exact ⟨hds, rfl⟩
      · rintro ⟨hds, rfl⟩
        exact ⟨_, ⟨hds, rfl⟩, rfl⟩
    · simp [hc]

theorem unsigned?_eq_some_iff {base limit n : Nat} {cs : List Char} :
    unsigned? base limit cs = some n ↔
      dropPlus cs ≠ [] ∧ digitsValue? base 0 (dropPlus cs) = some n ∧ n < limit := by
  rw [unsigned?]
  split
  · rename_i h
    simp [h]
  · rename_i c r h
    rw [h]
    cases digitsValue? base 0 (c :: r) with
    | none => simp
    | some m =>
      simp only [Option.ite_none_right_eq_some, Option.some.injEq, ne_eq, reduceCtorEq,
        not_false_eq_true, true_and]
      exact ⟨fun ⟨hlt, heq⟩ => ⟨heq, heq ▸ hlt⟩, fun ⟨heq, hlt⟩ => ⟨heq ▸ hlt, heq⟩⟩

theorem eq_dropPlus_or (cs : List Char) : cs = dropPlus cs ∨ cs = '+' :: dropPlus cs := by
  rw [dropPlus.eq_def]
  split
  · exact .inr rfl
  · exact .inl rfl

theorem dropPlus_eq_self {cs : List Char} (h : '+' ∉ cs) : dropPlus cs = cs := by
  rcases eq_dropPlus_or cs with hcs | hcs
  · exact hcs.symm
  · exact absurd (hcs ▸ List.mem_cons_self) h

/-- **A decimal numeral below the limit** is read as its number, and nothing else is read. -/
theorem unsigned?_ten_eq_some_iff {limit n : Nat} {cs : List Char} :
    unsigned? 10 limit cs = some n ↔ IsDecimal cs n ∧ n < limit := by
  rw [unsigned?_eq_some_iff, digitsValue?_ten_eq_some_iff]
  constructor
  · rintro ⟨hne, ⟨hdigits, hn⟩, hlt⟩
    exact ⟨⟨dropPlus cs, eq_dropPlus_or cs, hne, hdigits, hn⟩, hlt⟩
  · rintro ⟨⟨ds, hcs, hne, hdigits, hn⟩, hlt⟩
    have hdrop : dropPlus cs = ds := by
      rcases hcs with rfl | rfl
      · exact dropPlus_eq_self fun h => absurd (hdigits _ h) (by decide)
      · rfl
    exact ⟨hdrop ▸ hne, hdrop ▸ ⟨hdigits, hn⟩, hlt⟩

/-- **A decimal numeral of a word** is read as its number, and nothing else is read. -/
theorem decimal?_eq_some_iff {cs : List Char} {n : Nat} :
    decimal? cs = some n ↔ IsDecimal cs n ∧ n < wordLimit :=
  unsigned?_ten_eq_some_iff

/-! ### How many digits there are -/

theorem lt_pow_length_toDigits (n : Nat) : n < 10 ^ (Nat.toDigits 10 n).length :=
  (Nat.length_toDigits_le_iff (by omega) Nat.length_toDigits_pos).1 (Nat.le_refl _)

theorem pow_length_toDigits_le {n : Nat} (hn : n ≠ 0) :
    10 ^ ((Nat.toDigits 10 n).length - 1) ≤ n := by
  refine Nat.le_of_not_lt fun h => ?_
  have hpos : 0 < (Nat.toDigits 10 n).length := Nat.length_toDigits_pos
  by_cases h1 : (Nat.toDigits 10 n).length = 1
  · rw [h1] at h
    simp at h
    exact hn h
  · have := (Nat.length_toDigits_le_iff (b := 10) (by omega) (by omega)).2 h
    omega

/-! ### Whole numbers -/

/-- A row of digits as a number is written with before its point: no zero comes first unless it
stands alone. -/
def IsWhole (ds : List Char) : Prop :=
  (∀ c ∈ ds, isAsciiDigit c = true) ∧ (ds = ['0'] ∨ ds ≠ [] ∧ ds.head? ≠ some '0')

theorem isWhole_toDigits (n : Nat) : IsWhole (Nat.toDigits 10 n) := by
  refine ⟨fun c hc => isAsciiDigit_of_mem_toDigits hc, ?_⟩
  by_cases hn : n = 0
  · exact Or.inl (by rw [hn, Nat.toDigits_zero])
  · exact Or.inr ⟨Nat.toDigits_ne_nil, head?_toDigits hn⟩

theorem IsWhole.exists_cons {ds : List Char} (h : IsWhole ds) :
    ∃ d r, ds = d :: r ∧ isAsciiDigit d = true := by
  obtain ⟨hds, rfl | ⟨hne, -⟩⟩ := h
  · exact ⟨'0', [], rfl, rfl⟩
  · obtain ⟨d, r, rfl⟩ := List.exists_cons_of_ne_nil hne
    exact ⟨d, r, rfl, hds d (by simp)⟩

/-- Zeros on the left change nothing. -/
theorem digitsValue?_zeros (n : Nat) (ds : List Char) :
    digitsValue? 10 0 (List.replicate n '0' ++ ds) = digitsValue? 10 0 ds := by
  induction n with
  | zero => rfl
  | succ n ih => simpa [List.replicate_succ, digitsValue?, digitValue?] using ih

/-- Zeros on the right are factors of ten. -/
theorem digitsValue?_append_zeros {m : Nat} {ds : List Char} (h : digitsValue? 10 0 ds = some m)
    (n : Nat) : digitsValue? 10 0 (ds ++ List.replicate n '0') = some (m * 10 ^ n) := by
  rw [digitsValue?_append, h]
  induction n generalizing m ds with
  | zero => simp [digitsValue?]
  | succ n ih =>
    have := @ih (10 * m) (ds ++ ['0']) (by
      rw [digitsValue?_append, h]
      simp [digitsValue?, digitValue?])
    simp only [Option.bind_some] at this ⊢
    simp only [List.replicate_succ, digitsValue?, digitValue?]
    simp [this]
    ring

end FirmwareSurvey.Text
