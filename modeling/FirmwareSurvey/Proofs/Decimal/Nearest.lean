import FirmwareSurvey.Decimal.Shortest
import FirmwareSurvey.Proofs.Text.Numeral
import Mathlib.Algebra.Order.Field.Power
import Mathlib.Tactic.FieldSimp
import Mathlib.Tactic.Linarith
import Mathlib.Tactic.NormNum
import Mathlib.Tactic.Positivity
import Mathlib.Tactic.Ring

/-!
# Reading decimals exactly

A decimal that lies between the half-way points of a finite double is read as that double:
`nearest_of_contains`. So what a decimal is read as depends on the rational number it stands for and
not on how it is presented.

A quotient is first scaled to 53 bits before the point, and there is only one power of two that does
it (`leadingExponent_eq`). It is the double's own exponent in all cases but two: below the normal
numbers the exponent is bounded, and just below a power of two the numbers lie twice as dense, so
that rounding carries into the next power.
-/

namespace FirmwareSurvey.Binary64

open Text (lt_pow_length_toDigits pow_length_toDigits_le)

/-! ### The parts of a number -/

theorem toNat_biasedExponent (x : Binary64) :
    x.biasedExponent = x.bits.toNat / 2 ^ 52 % 2 ^ 11 := by
  rw [biasedExponent, UInt64.toNat_and, UInt64.toNat_shiftRight]
  rw [show (52 : UInt64).toNat % 64 = 52 from rfl,
    show (0x7FF : UInt64).toNat = 2 ^ 11 - 1 from rfl, Nat.and_two_pow_sub_one_eq_mod, Nat.shiftRight_eq_div_pow]

theorem toNat_fraction (x : Binary64) : x.fraction = x.bits.toNat % 2 ^ 52 := by
  rw [fraction, UInt64.toNat_and, show (0xFFFFFFFFFFFFF : UInt64).toNat = 2 ^ 52 - 1 from rfl,
    Nat.and_two_pow_sub_one_eq_mod]

theorem isNegative_iff (x : Binary64) : x.isNegative = true ↔ 2 ^ 63 ≤ x.bits.toNat := by
  have := x.bits.toNat_lt
  rw [isNegative, beq_iff_eq, ← UInt64.toNat_inj, UInt64.toNat_shiftRight,
    show (63 : UInt64).toNat % 64 = 63 from rfl, Nat.shiftRight_eq_div_pow,
    show (1 : UInt64).toNat = 1 from rfl]
  omega

theorem biasedExponent_lt (x : Binary64) : x.biasedExponent < 2 ^ 11 := by
  rw [toNat_biasedExponent]
  exact Nat.mod_lt _ (by decide)

theorem fraction_lt (x : Binary64) : x.fraction < 2 ^ 52 := by
  rw [toNat_fraction]
  exact Nat.mod_lt _ (by decide)

theorem toNat_ofParts (negative : Bool) {biased fraction : Nat} (hb : biased < 2 ^ 11)
    (hf : fraction < 2 ^ 52) :
    (ofParts negative biased fraction).bits.toNat =
      (if negative then 2 ^ 63 else 0) + (biased * 2 ^ 52 + fraction) := by
  have hlow : (UInt64.ofNat biased <<< 52 ||| UInt64.ofNat fraction).toNat =
      biased * 2 ^ 52 + fraction := by
    rw [UInt64.toNat_or, UInt64.toNat_shiftLeft,
      UInt64.toNat_ofNat_of_lt' (by rw [UInt64.size]; omega),
      UInt64.toNat_ofNat_of_lt' (by rw [UInt64.size]; omega),
      show (52 : UInt64).toNat % 64 = 52 from rfl,
      Nat.shiftLeft_eq, Nat.mod_eq_of_lt (by omega), ← Nat.shiftLeft_eq,
      Nat.shiftLeft_add_eq_or_of_lt hf]
  cases negative with
  | false => simpa [ofParts, UInt64.or_assoc] using hlow
  | true =>
    have hsum : biased * 2 ^ 52 + fraction < 2 ^ 63 := by omega
    have := Nat.shiftLeft_add_eq_or_of_lt hsum 1
    rw [ofParts, UInt64.or_assoc, UInt64.toNat_or, hlow]
    simpa [Nat.shiftLeft_eq] using this.symm

/-- **A number is put together again from its parts.** -/
theorem ofParts_self (x : Binary64) : ofParts x.isNegative x.biasedExponent x.fraction = x := by
  have hx := x.bits.toNat_lt
  have hb := toNat_biasedExponent x
  have hf := toNat_fraction x
  have hn := isNegative_iff x
  have := toNat_ofParts x.isNegative x.biasedExponent_lt x.fraction_lt
  cases hofParts : ofParts x.isNegative x.biasedExponent x.fraction with
  | mk bits =>
    cases x with
    | mk xbits =>
      rw [hofParts] at this
      congr 1
      rw [← UInt64.toNat_inj, this]
      cases hneg : isNegative ⟨xbits⟩ <;> simp_all <;> omega

/-! ### Rounding a quotient -/

/-- A quotient is rounded to a natural when twice its remainder from it is no more than the
divisor. -/
theorem roundQuotient_eq_of_le {num den m : Nat} (hden : 0 < den)
    (hlow : 2 * m * den ≤ 2 * num + den) (hhigh : 2 * num ≤ 2 * m * den + den)
    (htie : m % 2 = 1 → 2 * m * den < 2 * num + den ∧ 2 * num < 2 * m * den + den) :
    roundQuotient num den = m := by
  have hq := Nat.div_add_mod num den
  have hr := Nat.mod_lt num hden
  unfold roundQuotient
  generalize num / den = q at hq
  generalize num % den = r at hq hr
  subst hq
  -- the natural is the floor of the quotient or the one above
  have hle : q ≤ m := by
    by_contra hlt
    have : den * (m + 1) ≤ den * q := Nat.mul_le_mul_left den (by omega)
    nlinarith
  have hge : m ≤ q + 1 := by
    by_contra hlt
    have : den * (q + 2) ≤ den * m := Nat.mul_le_mul_left den (by omega)
    nlinarith
  obtain rfl | rfl : m = q ∨ m = q + 1 := by omega
  · have h2r : 2 * r ≤ den := by nlinarith
    have hodd : m % 2 = 1 → 2 * r < den := fun hm => by nlinarith [(htie hm).2]
    by_cases h : 2 * r < den
    · simp [h]
    · have hm : m % 2 = 0 := by
        by_contra hne
        exact h (hodd (by omega))
      simp [h, hm, show ¬den < 2 * r by omega]
  · have h2r : den ≤ 2 * r := by nlinarith
    have hodd : (q + 1) % 2 = 1 → den < 2 * r := fun hm => by nlinarith [(htie hm).1]
    have hnot : ¬2 * r < den := by omega
    by_cases h : den < 2 * r
    · simp [hnot, h]
    · have hm : ¬q % 2 = 0 := fun hq => h (hodd (by omega))
      simp [hnot, h, hm]

/-- **A quotient is rounded to the natural that lies within a half of it**, an even one where two
do. -/
theorem roundQuotient_eq {num den m : Nat} (hden : 0 < den)
    (hlow : ((m : ℚ) - 1 / 2) ≤ (num : ℚ) / den) (hhigh : (num : ℚ) / den ≤ m + 1 / 2)
    (htie : m % 2 = 1 → ((m : ℚ) - 1 / 2) < (num : ℚ) / den ∧ (num : ℚ) / den < m + 1 / 2) :
    roundQuotient num den = m := by
  have hd : (0 : ℚ) < den := by exact_mod_cast hden
  rw [le_div_iff₀ hd] at hlow
  rw [div_le_iff₀ hd] at hhigh
  rw [lt_div_iff₀ hd, div_lt_iff₀ hd] at htie
  refine roundQuotient_eq_of_le hden ?_ ?_ fun hm => ⟨?_, ?_⟩
  · have : (2 * m * den : ℚ) ≤ 2 * num + den := by linarith
    exact_mod_cast this
  · have : (2 * num : ℚ) ≤ 2 * m * den + den := by linarith
    exact_mod_cast this
  · have : (2 * m * den : ℚ) < 2 * num + den := by linarith [(htie hm).1]
    exact_mod_cast this
  · have : (2 * num : ℚ) < 2 * m * den + den := by linarith [(htie hm).2]
    exact_mod_cast this

/-- A quotient times a power of two, as a quotient. -/
def scaling (num den : Nat) (e : Int) : Nat × Nat :=
  if e < 0 then (num * Nat.pow 2 (-e).toNat, den) else (num, den * Nat.pow 2 e.toNat)

theorem scaling_den_pos {den : Nat} (h : 0 < den) (num : Nat) (e : Int) :
    0 < (scaling num den e).2 := by
  unfold scaling
  split
  · exact h
  · exact Nat.mul_pos h (Nat.pow_pos (by omega))

theorem scaling_eq (num den : Nat) (e : Int) :
    ((scaling num den e).1 : ℚ) / (scaling num den e).2 = (num : ℚ) / den / 2 ^ e := by
  unfold scaling
  split
  · rename_i he
    obtain ⟨n, rfl⟩ : ∃ n : Nat, e = -n := ⟨(-e).toNat, by omega⟩
    simp [zpow_neg, div_eq_mul_inv]
    ring
  · obtain ⟨n, rfl⟩ : ∃ n : Nat, e = n := ⟨e.toNat, by omega⟩
    simp [div_eq_mul_inv]
    ring

/-- A quotient times a power of two is rounded to the natural that lies within a half of it. -/
theorem roundQuotient_scaling {num den m : Nat} {e : Int} (hden : 0 < den)
    (hlow : ((m : ℚ) - 1 / 2) ≤ (num : ℚ) / den / 2 ^ e)
    (hhigh : (num : ℚ) / den / 2 ^ e ≤ m + 1 / 2)
    (htie : m % 2 = 1 →
      ((m : ℚ) - 1 / 2) < (num : ℚ) / den / 2 ^ e ∧ (num : ℚ) / den / 2 ^ e < m + 1 / 2) :
    roundQuotient (scaling num den e).1 (scaling num den e).2 = m := by
  refine roundQuotient_eq (scaling_den_pos hden num e) ?_ ?_ ?_ <;> rw [scaling_eq]
  · exact hlow
  · exact hhigh
  · exact htie

/-- The power of two for which a quotient has 53 bits before the point. -/
def leadingExponent (num den : Nat) : Int :=
  let estimate : Int := (Nat.log2 num : Int) - (Nat.log2 den : Int) - 52
  if (scaling num den estimate).1 / (scaling num den estimate).2 < hiddenBit then estimate - 1
  else estimate

/-- A significand and a power of two as a number. -/
def assemble (negative : Bool) (m : Nat) (e : Int) : Binary64 :=
  if m < hiddenBit then ofParts negative 0 m
  else if 971 < e then infinity negative
  else ofParts negative (e + 1075).toNat (m - hiddenBit)

theorem nearestQuotient_eq {negative : Bool} {num den : Nat} {e : Int}
    (he : e = max (leadingExponent num den) (-1074)) {m : Nat}
    (hm : roundQuotient (scaling num den e).1 (scaling num den e).2 = m) :
    nearestQuotient negative num den =
      if m = 2 * hiddenBit then assemble negative hiddenBit (e + 1) else assemble negative m e := by
  have he' : e = if leadingExponent num den < -1074 then -1074 else leadingExponent num den := by
    split <;> omega
  have hfold : nearestQuotient negative num den =
      let p := if roundQuotient (scaling num den e).1 (scaling num den e).2 == 2 * hiddenBit
        then (hiddenBit, e + 1)
        else (roundQuotient (scaling num den e).1 (scaling num den e).2, e)
      assemble negative p.1 p.2 := by
    rw [he']
    rfl
  rw [hfold, hm]
  by_cases h : m = 2 * hiddenBit <;> simp [h]

/-- The lengths of the two numbers tell the power of two for 53 bits up to one. -/
theorem quotient_div_estimate {num den : Nat} (hnum : 0 < num) (hden : 0 < den) {estimate : Int}
    (hest : estimate = (num.log2 : Int) - den.log2 - 52) :
    (2 : ℚ) ^ 51 < (num : ℚ) / den / 2 ^ estimate ∧ (num : ℚ) / den / 2 ^ estimate < 2 ^ 53 := by
  have hd : (0 : ℚ) < den := by exact_mod_cast hden
  have hnum1 : (2 : ℚ) ^ num.log2 ≤ num := by exact_mod_cast Nat.log2_self_le (by omega)
  have hnum2 : (num : ℚ) < 2 ^ (num.log2 + 1) := by exact_mod_cast Nat.lt_log2_self
  have hden1 : (2 : ℚ) ^ den.log2 ≤ den := by exact_mod_cast Nat.log2_self_le (by omega)
  have hden2 : (den : ℚ) < 2 ^ (den.log2 + 1) := by exact_mod_cast Nat.lt_log2_self
  have hpow : (2 : ℚ) ^ estimate * 2 ^ den.log2 * 2 ^ 52 = 2 ^ num.log2 := by
    rw [← zpow_natCast, ← zpow_natCast, ← zpow_natCast, ← zpow_add₀ two_ne_zero,
      ← zpow_add₀ two_ne_zero]
    congr 1
    push_cast
    omega
  constructor
  · rw [div_div, lt_div_iff₀ (by positivity)]
    calc (2 : ℚ) ^ 51 * (den * 2 ^ estimate)
        < 2 ^ 51 * (2 ^ (den.log2 + 1) * 2 ^ estimate) := by gcongr
      _ = 2 ^ estimate * 2 ^ den.log2 * 2 ^ 52 := by ring
      _ ≤ num := by rw [hpow]; exact hnum1
  · rw [div_div, div_lt_iff₀ (by positivity)]
    calc (num : ℚ) < 2 ^ (num.log2 + 1) := hnum2
      _ = 2 ^ estimate * 2 ^ den.log2 * 2 ^ 52 * 2 := by rw [hpow]; ring
      _ = 2 ^ 53 * (2 ^ den.log2 * 2 ^ estimate) := by ring
      _ ≤ 2 ^ 53 * (den * 2 ^ estimate) := by gcongr

/-- **A quotient is scaled to 53 bits before the point.** -/
theorem leadingExponent_spec {num den : Nat} (hnum : 0 < num) (hden : 0 < den) :
    (2 : ℚ) ^ 52 ≤ (num : ℚ) / den / 2 ^ leadingExponent num den ∧
      (num : ℚ) / den / 2 ^ leadingExponent num den < 2 ^ 53 := by
  set estimate : Int := (Nat.log2 num : Int) - (Nat.log2 den : Int) - 52 with hest
  obtain ⟨hlow, hhigh⟩ := quotient_div_estimate hnum hden hest
  have hquot := scaling_eq num den estimate
  have hb := scaling_den_pos hden num estimate
  have hcond : (scaling num den estimate).1 / (scaling num den estimate).2 < hiddenBit ↔
      (num : ℚ) / den / 2 ^ estimate < 2 ^ 52 := by
    rw [← hquot, div_lt_iff₀ (by exact_mod_cast hb), Nat.div_lt_iff_lt_mul hb]
    norm_cast
  have hunfold : leadingExponent num den =
      if (scaling num den estimate).1 / (scaling num den estimate).2 < hiddenBit then estimate - 1
      else estimate := rfl
  rw [hunfold]
  split
  · rename_i h
    -- the estimate was one too great, so one less doubles the quotient into its place
    rw [hcond] at h
    rw [zpow_sub_one₀ two_ne_zero, div_mul_eq_div_div, div_inv_eq_mul]
    constructor <;> linarith
  · rename_i h
    rw [hcond] at h
    exact ⟨not_lt.1 h, hhigh⟩

/-- The power of two for 53 bits is the only one. -/
theorem leadingExponent_lt {num den : Nat} (hnum : 0 < num) (hden : 0 < den) {e : Int}
    (h : (num : ℚ) / den / 2 ^ e < 2 ^ 52) : leadingExponent num den < e := by
  have h1 := (leadingExponent_spec hnum hden).1
  rw [div_lt_iff₀ (by positivity)] at h
  rw [le_div_iff₀ (by positivity)] at h1
  have : (2 : ℚ) ^ leadingExponent num den < 2 ^ e := by linarith
  exact (zpow_lt_zpow_iff_right₀ (by norm_num)).1 this

theorem leadingExponent_eq {num den : Nat} (hnum : 0 < num) (hden : 0 < den) {e : Int}
    (hlow : (2 : ℚ) ^ 52 ≤ (num : ℚ) / den / 2 ^ e) (hhigh : (num : ℚ) / den / 2 ^ e < 2 ^ 53) :
    leadingExponent num den = e := by
  have h1 := (leadingExponent_spec hnum hden).2
  have hlt : leadingExponent num den < e + 1 := by
    refine leadingExponent_lt hnum hden ?_
    rw [zpow_add_one₀ two_ne_zero, ← div_div, div_lt_iff₀ (by norm_num)]
    linarith
  have hge : e < leadingExponent num den + 1 := by
    rw [div_lt_iff₀ (by positivity)] at h1
    rw [le_div_iff₀ (by positivity)] at hlow
    have : (2 : ℚ) ^ e < 2 ^ (leadingExponent num den + 1) := by
      rw [zpow_add_one₀ two_ne_zero]
      linarith
    exact (zpow_lt_zpow_iff_right₀ (by norm_num)).1 this
  omega

/-! ### The reals that round to a number -/

/-- Whether a real lies between the half-way points of a number. -/
def Interval.Contains (i : Interval) (v : ℚ) : Prop :=
  i.low * (2 : ℚ) ^ i.unit ≤ v ∧ v ≤ i.high * 2 ^ i.unit ∧
    (i.closed = false → i.low * (2 : ℚ) ^ i.unit < v ∧ v < i.high * 2 ^ i.unit)

theorem biasedExponent_le {x : Binary64} (hx : x.isFinite = true) : x.biasedExponent ≤ 2046 := by
  have := x.biasedExponent_lt
  simp only [isFinite, bne_iff_ne, ne_eq] at hx
  omega

/-- A finite number is put together again from its significand and its exponent. -/
theorem assemble_self {x : Binary64} (hx : x.isFinite = true) :
    assemble x.isNegative x.significand x.exponent = x := by
  have hb := biasedExponent_le hx
  have hf := x.fraction_lt
  by_cases h0 : x.biasedExponent = 0
  · have hself := ofParts_self x
    rw [h0] at hself
    have hlt : x.fraction < hiddenBit := hf
    simp [assemble, significand, h0, hlt, hself]
  · have he : ¬971 < (x.biasedExponent : Int) - 1075 := by omega
    simp [assemble, significand, exponent, h0, he, ofParts_self x]

/-- The half-way points around a number, in steps of its last bit. -/
theorem Interval.Contains.div_two_zpow {x : Binary64} {v : ℚ} (h : x.interval.Contains v) :
    ((x.significand : ℚ) - 1 / 2) ≤ v / 2 ^ x.exponent ∧
      v / 2 ^ x.exponent ≤ x.significand + 1 / 2 ∧
      (x.significand % 2 = 1 →
        ((x.significand : ℚ) - 1 / 2) < v / 2 ^ x.exponent ∧
          v / 2 ^ x.exponent < x.significand + 1 / 2) := by
  obtain ⟨hlow, hhigh, hopen⟩ := h
  -- bounds are kept in quarters of the last bit
  have hunit : (2 : ℚ) ^ x.interval.unit = 2 ^ x.exponent / 4 := by
    rw [show x.interval.unit = x.exponent - 2 from rfl, zpow_sub₀ two_ne_zero]
    norm_num
  have hpos : (0 : ℚ) < 2 ^ x.exponent := by positivity
  have hhigh' : (x.interval.high : ℚ) = 4 * x.significand + 2 := by
    simp [interval]
  have hlow' : (4 * x.significand : ℚ) - 2 ≤ x.interval.low := by
    have : 4 * x.significand ≤ x.interval.low + 2 := by
      simp only [interval]
      split <;> omega
    have : (4 * x.significand : ℚ) ≤ x.interval.low + 2 := by exact_mod_cast this
    linarith
  have hstep : ((x.significand : ℚ) - 1 / 2) * 2 ^ x.exponent ≤
      x.interval.low * 2 ^ x.interval.unit := by
    rw [hunit]
    nlinarith
  have hstep' : x.interval.high * (2 : ℚ) ^ x.interval.unit =
      ((x.significand : ℚ) + 1 / 2) * 2 ^ x.exponent := by
    rw [hunit, hhigh']
    ring
  rw [hstep'] at hhigh hopen
  refine ⟨?_, ?_, fun hodd => ?_⟩
  · rw [le_div_iff₀ hpos]
    exact hstep.trans hlow
  · rw [div_le_iff₀ hpos]
    exact hhigh
  · have := hopen (by simp [interval, hodd])
    rw [lt_div_iff₀ hpos, div_lt_iff₀ hpos]
    exact ⟨lt_of_le_of_lt hstep this.1, this.2⟩

/-- Below a power of two the numbers lie twice as dense. -/
theorem Interval.Contains.narrow {x : Binary64} {v : ℚ} (h : x.interval.Contains v)
    (hf : x.fraction = 0) (hb : 1 < x.biasedExponent) :
    (2 * hiddenBit : ℚ) - 1 / 2 ≤ v / 2 ^ (x.exponent - 1) := by
  have hlow := h.1
  have hunit : (2 : ℚ) ^ x.interval.unit = 2 ^ (x.exponent - 1) / 2 := by
    rw [show x.interval.unit = x.exponent - 1 - 1 from by simp [interval]; omega,
      zpow_sub_one₀ two_ne_zero]
    ring
  have hlow' : (x.interval.low : ℚ) = 4 * hiddenBit - 1 := by
    have : x.interval.low = 4 * hiddenBit - 1 := by
      have hne : x.biasedExponent ≠ 0 := by omega
      simp [interval, hf, hb, significand, hne]
    rw [this, Nat.cast_sub (by decide)]
    push_cast
    rfl
  rw [hunit, hlow'] at hlow
  rw [le_div_iff₀ (by positivity)]
  linarith

theorem significand_lt (x : Binary64) : x.significand < 2 * hiddenBit := by
  have hf := x.fraction_lt
  simp only [significand, hiddenBit]
  split <;> omega

/-- Where the number's own exponent is the one that is found, its significand is too. -/
theorem nearestQuotient_of_exponent {x : Binary64} (hx : x.isFinite = true) {num den : Nat}
    (hden : 0 < den) (h : x.interval.Contains ((num : ℚ) / den))
    (he : x.exponent = max (leadingExponent num den) (-1074)) :
    nearestQuotient x.isNegative num den = x := by
  obtain ⟨hlow, hhigh, htie⟩ := h.div_two_zpow
  have hsig := x.significand_lt
  rw [nearestQuotient_eq he (roundQuotient_scaling hden hlow hhigh htie), if_neg (by omega),
    assemble_self hx]

/-- What lies just below a power of two is rounded up to it, though its own exponent is one less. -/
theorem nearestQuotient_of_below {x : Binary64} (hx : x.isFinite = true) {num den : Nat}
    (hnum : 0 < num) (hden : 0 < den) (h : x.interval.Contains ((num : ℚ) / den))
    (hfrac : x.fraction = 0) (hb : 1 < x.biasedExponent)
    (hlt : (num : ℚ) / den / 2 ^ x.exponent < 2 ^ 52) :
    nearestQuotient x.isNegative num den = x := by
  have hhidden : (hiddenBit : ℚ) = 2 ^ 52 := by norm_num [hiddenBit]
  have hexp : x.exponent = (x.biasedExponent : Int) - 1075 := by
    simp [exponent, show x.biasedExponent ≠ 0 by omega]
  have hnarrow := h.narrow hfrac hb
  have hpow : (num : ℚ) / den / 2 ^ (x.exponent - 1) = (num : ℚ) / den / 2 ^ x.exponent * 2 := by
    rw [zpow_sub_one₀ two_ne_zero]
    field_simp
  have hle : leadingExponent num den = x.exponent - 1 := by
    refine leadingExponent_eq hnum hden ?_ ?_
    · linarith
    · linarith
  -- with the exponent below, the quotient is rounded to the first significand that is too long
  have hround : roundQuotient (scaling num den (x.exponent - 1)).1
      (scaling num den (x.exponent - 1)).2 = 2 * hiddenBit := by
    refine roundQuotient_scaling hden ?_ ?_ fun hodd => absurd hodd (by decide)
    · push_cast
      exact hnarrow
    · push_cast
      linarith
  have hsig : hiddenBit = x.significand := by
    simp [significand, show x.biasedExponent ≠ 0 by omega, hfrac]
  rw [nearestQuotient_eq (by omega) hround, if_pos rfl, sub_add_cancel, hsig, assemble_self hx]

/-- **Every quotient between the half-way points of a number is rounded to it.** -/
theorem nearestQuotient_of_contains {x : Binary64} (hx : x.isFinite = true) {num den : Nat}
    (hnum : 0 < num) (hden : 0 < den) (h : x.interval.Contains ((num : ℚ) / den)) :
    nearestQuotient x.isNegative num den = x := by
  obtain ⟨hlow, hhigh, -⟩ := h.div_two_zpow
  have hf := x.fraction_lt
  have hsigQ : (x.significand : ℚ) + 1 ≤ 2 * hiddenBit := by exact_mod_cast x.significand_lt
  have hhidden : (hiddenBit : ℚ) = 2 ^ 52 := by norm_num [hiddenBit]
  by_cases h0 : x.biasedExponent = 0
  · -- below the normal numbers the exponent is held at the least one
    refine nearestQuotient_of_exponent hx hden h ?_
    have hsmall : (x.significand : ℚ) + 1 ≤ hiddenBit := by
      have : x.significand + 1 ≤ hiddenBit := by
        simp only [significand, h0, hiddenBit, beq_self_eq_true, ↓reduceIte]
        omega
      exact_mod_cast this
    have hlt := leadingExponent_lt hnum hden (e := x.exponent) (by linarith)
    have : x.exponent = -1074 := by simp [exponent, h0]
    omega
  · have hexp : x.exponent = (x.biasedExponent : Int) - 1075 := by simp [exponent, h0]
    have hsig' : x.significand = hiddenBit + x.fraction := by simp [significand, h0]
    rcases le_or_gt ((2 : ℚ) ^ 52) ((num : ℚ) / den / 2 ^ x.exponent) with hge | hlt
    · refine nearestQuotient_of_exponent hx hden h ?_
      rw [leadingExponent_eq hnum hden hge (by linarith)]
      omega
    · -- only a power of two has a number below it with a lower exponent
      have hfrac : x.fraction = 0 := by
        have : (x.significand : ℚ) < hiddenBit + 1 := by linarith
        have : x.significand < hiddenBit + 1 := by exact_mod_cast this
        omega
      have hbelow := leadingExponent_lt hnum hden hlt
      by_cases hb : x.biasedExponent = 1
      · refine nearestQuotient_of_exponent hx hden h ?_
        omega
      · exact nearestQuotient_of_below hx hnum hden h hfrac (by omega) hlt

/-! ### Decimals -/

/-- The greatest power of ten that is read lies above all finite numbers. -/
theorem two_zpow_lt_ten_zpow : (2 : ℚ) ^ (1024 : Int) < 10 ^ (310 : Int) := by
  have h : (2 : ℚ) ^ 205 < 10 ^ 62 := by norm_num
  calc (2 : ℚ) ^ (1024 : Int) < 2 ^ ((205 : Int) * 5) :=
        zpow_lt_zpow_right₀ (by norm_num) (by decide)
    _ = (2 ^ 205) ^ 5 := by rw [zpow_mul]; rfl
    _ < (10 ^ 62) ^ 5 := by gcongr
    _ = 10 ^ ((62 : Int) * 5) := by rw [zpow_mul]; rfl
    _ = 10 ^ (310 : Int) := rfl

/-- The least power of ten that is read lies below all numbers but zero. -/
theorem ten_zpow_lt_two_zpow : (10 : ℚ) ^ (-330 : Int) < 2 ^ (-1075 : Int) := by
  have h : (2 : ℚ) ^ 108 < 10 ^ 33 := by norm_num
  calc (10 : ℚ) ^ (-330 : Int) = ((10 ^ 33) ^ 10)⁻¹ := by
        rw [show (-330 : Int) = -((33 : Int) * 10) from rfl, zpow_neg, zpow_mul]; rfl
    _ < ((2 ^ 108) ^ 10)⁻¹ := by gcongr
    _ = 2 ^ (-((108 : Int) * 10)) := by rw [zpow_neg, zpow_mul]; rfl
    _ < 2 ^ (-1075 : Int) := zpow_lt_zpow_right₀ (by norm_num) (by decide)

/-- A number that is not zero has a significand. -/
theorem significand_pos {x : Binary64} (hx : x.isZero = false) : 0 < x.significand := by
  have hh : 0 < hiddenBit := by decide
  by_cases h0 : x.biasedExponent = 0
  · have hf : x.fraction ≠ 0 := by simpa [isZero, h0] using hx
    simp [significand, h0]
    omega
  · simp [significand, h0]
    omega

/-- What rounds to a finite number that is not zero lies within the bounds of the format. -/
theorem Interval.Contains.bounds {x : Binary64} (hx : x.isFinite = true) (h0 : x.isZero = false)
    {v : ℚ} (h : x.interval.Contains v) : (2 : ℚ) ^ (-1075 : Int) ≤ v ∧ v < 2 ^ (1024 : Int) := by
  obtain ⟨hlow, hhigh, -⟩ := h.div_two_zpow
  have hpos : (0 : ℚ) < 2 ^ x.exponent := by positivity
  rw [le_div_iff₀ hpos] at hlow
  rw [div_le_iff₀ hpos] at hhigh
  have hb := biasedExponent_le hx
  have hexp : -1074 ≤ x.exponent ∧ x.exponent ≤ 971 := by
    by_cases hb0 : x.biasedExponent = 0
    · simp [exponent, hb0]
    · simp [exponent, hb0]
      omega
  -- half the least number of the format below, half a step over the greatest above
  constructor
  · have hm : (1 : ℚ) ≤ x.significand := by exact_mod_cast significand_pos h0
    have hstep : (2 : ℚ) ^ (-1074 : Int) ≤ 2 ^ x.exponent :=
      zpow_le_zpow_right₀ (by norm_num) hexp.1
    have hhalf : (2 : ℚ) ^ (-1075 : Int) = 1 / 2 * 2 ^ (-1074 : Int) := by
      rw [show (-1075 : Int) = -1074 - 1 from rfl, zpow_sub_one₀ two_ne_zero]
      ring
    calc (2 : ℚ) ^ (-1075 : Int) = 1 / 2 * 2 ^ (-1074 : Int) := hhalf
      _ ≤ ((x.significand : ℚ) - 1 / 2) * 2 ^ x.exponent :=
        mul_le_mul (by linarith) hstep (by positivity) (by linarith)
      _ ≤ v := hlow
  · have hm : (x.significand : ℚ) + 1 ≤ 2 ^ (53 : Nat) := by exact_mod_cast x.significand_lt
    have hstep : (2 : ℚ) ^ x.exponent ≤ 2 ^ (971 : Int) :=
      zpow_le_zpow_right₀ (by norm_num) hexp.2
    calc v ≤ ((x.significand : ℚ) + 1 / 2) * 2 ^ x.exponent := hhigh
      _ < 2 ^ (53 : Nat) * 2 ^ x.exponent := by
        gcongr
        linarith
      _ ≤ 2 ^ (53 : Nat) * 2 ^ (971 : Int) := by gcongr
      _ = 2 ^ (1024 : Int) := by rw [← zpow_natCast, ← zpow_add₀ two_ne_zero]; rfl

/-- A decimal within the bounds of the format has a length between those that are read. -/
theorem length_toDigits_bounds {digits : Nat} {scale : Int} (hdigits : digits ≠ 0)
    (hlow : (2 : ℚ) ^ (-1075 : Int) ≤ digits * 10 ^ scale)
    (hhigh : digits * (10 : ℚ) ^ scale < 2 ^ (1024 : Int)) :
    ¬310 < scale + (Nat.toDigits 10 digits).length ∧
      ¬scale + (Nat.toDigits 10 digits).length < -330 := by
  have hscale : (0 : ℚ) < 10 ^ scale := by positivity
  have hlen1 : (10 : ℚ) ^ ((Nat.toDigits 10 digits).length - 1) ≤ digits := by
    exact_mod_cast pow_length_toDigits_le hdigits
  have hlen2 : (digits : ℚ) < 10 ^ (Nat.toDigits 10 digits).length := by
    exact_mod_cast lt_pow_length_toDigits digits
  have hlen : 0 < (Nat.toDigits 10 digits).length := Nat.length_toDigits_pos
  constructor
  · intro hgreat
    have : (10 : ℚ) ^ (310 : Int) ≤ digits * 10 ^ scale := by
      calc (10 : ℚ) ^ (310 : Int)
          ≤ 10 ^ ((((Nat.toDigits 10 digits).length - 1 : Nat) : Int) + scale) :=
            zpow_le_zpow_right₀ (by norm_num) (by omega)
        _ = 10 ^ ((Nat.toDigits 10 digits).length - 1) * 10 ^ scale := by
          rw [zpow_add₀ (by norm_num), zpow_natCast]
        _ ≤ digits * 10 ^ scale := by gcongr
    exact absurd (this.trans_lt hhigh) (not_lt.2 two_zpow_lt_ten_zpow.le)
  · intro hsmall
    have : digits * (10 : ℚ) ^ scale < 10 ^ (-330 : Int) := by
      calc digits * (10 : ℚ) ^ scale
          < 10 ^ (Nat.toDigits 10 digits).length * 10 ^ scale := by gcongr
        _ = 10 ^ (((Nat.toDigits 10 digits).length : Int) + scale) := by
          rw [zpow_add₀ (by norm_num), zpow_natCast]
        _ ≤ 10 ^ (-330 : Int) := zpow_le_zpow_right₀ (by norm_num) (by omega)
    exact absurd (hlow.trans_lt this) (not_lt.2 ten_zpow_lt_two_zpow.le)

/-- **Every decimal between the half-way points of a number reads back as it.** -/
theorem nearest_of_contains {x : Binary64} (hx : x.isFinite = true) (h0 : x.isZero = false)
    {digits : Nat} {scale : Int} (h : x.interval.Contains (digits * (10 : ℚ) ^ scale)) :
    nearest x.isNegative digits scale = x := by
  obtain ⟨hlow, hhigh⟩ := h.bounds hx h0
  have hdigits : digits ≠ 0 := by
    rintro rfl
    have : (0 : ℚ) < 2 ^ (-1075 : Int) := by positivity
    simp only [Nat.cast_zero, zero_mul] at hlow
    linarith
  obtain ⟨hgreat, hsmall⟩ := length_toDigits_bounds hdigits hlow hhigh
  unfold nearest
  rw [if_neg (by simpa using hdigits)]
  simp only [hgreat, hsmall, if_false]
  split
  · rename_i hneg
    obtain ⟨n, rfl⟩ : ∃ n : Nat, scale = -n := ⟨(-scale).toNat, by omega⟩
    refine nearestQuotient_of_contains hx (by omega) (Nat.pow_pos (by omega)) ?_
    simpa [zpow_neg, div_eq_mul_inv] using h
  · obtain ⟨n, rfl⟩ : ∃ n : Nat, scale = n := ⟨scale.toNat, by omega⟩
    refine nearestQuotient_of_contains hx
      (Nat.mul_pos (by omega) (Nat.pow_pos (by omega))) Nat.one_pos ?_
    simpa using h

end FirmwareSurvey.Binary64
