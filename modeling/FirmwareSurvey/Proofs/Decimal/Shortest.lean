import FirmwareSurvey.Proofs.Decimal.Nearest

/-!
# Shortest decimals read back

The decimal that is written for a finite double is read as that double, in whatever form it is
presented: `nearest_eq_self`. A candidate is only taken when it lies between the half-way points, so
all there is to see is that one is found: with eighteen digits a grid step is less than half the
distance to the next double, and the grid point above the double is taken at the latest.
-/

namespace FirmwareSurvey.Binary64

open Text (lt_pow_length_toDigits pow_length_toDigits_le)

/-- The number a decimal stands for. -/
def Decimal.toRat (d : Decimal) : ℚ := d.digits * 10 ^ d.scale

theorem Decimal.toRat_stripZeros (fuel : Nat) (d : Decimal) :
    (stripZeros fuel d).toRat = d.toRat := by
  induction fuel generalizing d with
  | zero => rfl
  | succ fuel ih =>
    rw [stripZeros]
    split
    · rename_i h
      simp only [Bool.and_eq_true, bne_iff_ne, beq_iff_eq] at h
      rw [ih]
      have hdigits : (d.digits : ℚ) = (d.digits / 10 : Nat) * 10 := by
        exact_mod_cast (Nat.div_mul_cancel (Nat.dvd_of_mod_eq_zero h.2)).symm
      simp only [toRat]
      rw [zpow_add_one₀ (by norm_num), hdigits]
      ring
    · rfl

/-- A power of a base, its numerator against its denominator. -/
theorem natPow_eq_zpow {base : Nat} (hb : 0 < base) (e : Int) :
    ((if 0 ≤ e then Nat.pow base e.toNat else 1 : Nat) : ℚ) =
      (if e < 0 then Nat.pow base (-e).toNat else 1 : Nat) * (base : ℚ) ^ e := by
  have hb' : (base : ℚ) ≠ 0 := by exact_mod_cast hb.ne'
  rcases lt_or_ge e 0 with he | he
  · obtain ⟨n, rfl⟩ : ∃ n : Nat, e = -n := ⟨(-e).toNat, by omega⟩
    rw [if_neg (not_le.2 he), if_pos he, neg_neg, Int.toNat_natCast, zpow_neg, zpow_natCast]
    simp [hb']
  · obtain ⟨n, rfl⟩ : ∃ n : Nat, e = n := ⟨e.toNat, by omega⟩
    rw [if_pos he, if_neg (not_lt.2 he)]
    simp

theorem gridFactors_spec (unit scale : Int) :
    0 < (gridFactors unit scale).1 ∧ 0 < (gridFactors unit scale).2 ∧
      ((gridFactors unit scale).1 : ℚ) * 10 ^ scale = (gridFactors unit scale).2 * 2 ^ unit := by
  have hpow : ∀ {p : Prop} [Decidable p] {base : Nat} (_ : 0 < base) (n : Nat),
      0 < if p then Nat.pow base n else 1 := by
    intro p _ base hb n
    split
    · exact Nat.pow_pos hb
    · exact Nat.one_pos
  refine ⟨Nat.mul_pos (hpow (by omega) _) (hpow (by omega) _),
    Nat.mul_pos (hpow (by omega) _) (hpow (by omega) _), ?_⟩
  have h2 := natPow_eq_zpow (by omega : 0 < 2) unit
  have h10 := natPow_eq_zpow (by omega : 0 < 10) scale
  simp only [gridFactors]
  rw [Nat.cast_mul, Nat.cast_mul, h2, h10]
  push_cast
  ring

/-- A step of the last bit in grid steps. -/
theorem two_zpow_eq_grid (unit scale : Int) :
    (2 : ℚ) ^ unit = (gridFactors unit scale).1 * 10 ^ scale / (gridFactors unit scale).2 := by
  obtain ⟨-, hden, heq⟩ := gridFactors_spec unit scale
  have hd : ((gridFactors unit scale).2 : ℚ) ≠ 0 := by exact_mod_cast hden.ne'
  rw [eq_div_iff hd, heq, mul_comm]

/-- Steps of the last bit are compared with grid points in natural numbers. -/
theorem lt_grid_iff (unit scale : Int) (a b : Nat) :
    (a : ℚ) * 2 ^ unit < b * 10 ^ scale ↔
      a * (gridFactors unit scale).1 < b * (gridFactors unit scale).2 := by
  have hd : (0 : ℚ) < (gridFactors unit scale).2 := by exact_mod_cast (gridFactors_spec _ _).2.1
  rw [two_zpow_eq_grid unit scale, mul_div_assoc', div_lt_iff₀ hd, ← mul_assoc,
    mul_right_comm (b : ℚ), mul_lt_mul_iff_left₀ (by positivity)]
  exact_mod_cast Iff.rfl

theorem grid_lt_iff (unit scale : Int) (a b : Nat) :
    (b : ℚ) * 10 ^ scale < a * 2 ^ unit ↔
      b * (gridFactors unit scale).2 < a * (gridFactors unit scale).1 := by
  have hd : (0 : ℚ) < (gridFactors unit scale).2 := by exact_mod_cast (gridFactors_spec _ _).2.1
  rw [two_zpow_eq_grid unit scale, mul_div_assoc', lt_div_iff₀ hd, ← mul_assoc,
    mul_right_comm (b : ℚ), mul_lt_mul_iff_left₀ (by positivity)]
  exact_mod_cast Iff.rfl

/-- Whether a grid point lies between the half-way points is decided in grid steps. -/
theorem Interval.contains_grid {i : Interval} {scale : Int} {g : Nat}
    (h : (if i.closed then
        i.low * (gridFactors i.unit scale).1 ≤ g * (gridFactors i.unit scale).2 ∧
          g * (gridFactors i.unit scale).2 ≤ i.high * (gridFactors i.unit scale).1
      else
        i.low * (gridFactors i.unit scale).1 < g * (gridFactors i.unit scale).2 ∧
          g * (gridFactors i.unit scale).2 < i.high * (gridFactors i.unit scale).1)) :
    i.Contains (g * 10 ^ scale) := by
  simp only [← lt_grid_iff, ← grid_lt_iff, ← not_lt] at h
  split at h
  · rename_i hclosed
    exact ⟨not_lt.1 h.1, not_lt.1 h.2, fun hno => absurd hclosed (by simp [hno])⟩
  · exact ⟨h.1.le, h.2.le, fun _ => h⟩

/-- A neighbour that is taken reads back. -/
theorem Interval.contains_of_neighbour? {i : Interval} {scale : Int} {g : Nat}
    (h : i.neighbour? (gridFactors i.unit scale).1 (gridFactors i.unit scale).2 = some g) :
    i.Contains (g * 10 ^ scale) := by
  refine contains_grid ?_
  generalize (gridFactors i.unit scale).1 = num at *
  generalize (gridFactors i.unit scale).2 = den at *
  simp only [neighbour?, Bool.and_eq_true] at h
  split_ifs at h <;> simp_all

/-- The upper neighbour is taken, at the latest, when it reads back. -/
theorem Interval.neighbour?_ne_none {i : Interval} {num den : Nat} (hden : 0 < den)
    (hlow : i.low ≤ i.value) (hhigh : i.value * num + den < i.high * num) :
    i.neighbour? num den ≠ none := by
  have hdiv := Nat.div_add_mod (i.value * num) den
  have hmod := Nat.mod_lt (i.value * num) hden
  have habove : (i.value * num / den + 1) * den = den * (i.value * num / den) + den := by ring
  have h1 : i.low * num < (i.value * num / den + 1) * den := by
    have := Nat.mul_le_mul_right num hlow
    omega
  have h2 : (i.value * num / den + 1) * den < i.high * num := by omega
  simp only [neighbour?]
  split_ifs <;> simp_all
  omega

theorem Interval.contains_shortest {i : Interval} {magnitude : Int} {fuel digits : Nat}
    (h : i.neighbour? (gridFactors i.unit (magnitude - (digits + fuel : Nat))).1
      (gridFactors i.unit (magnitude - (digits + fuel : Nat))).2 ≠ none) :
    i.Contains (i.shortest magnitude (fuel + 1) digits).toRat := by
  induction fuel generalizing digits with
  | zero =>
    obtain ⟨g, hg⟩ := Option.ne_none_iff_exists'.1 h
    rw [Nat.add_zero] at hg
    simp only [shortest, hg, Decimal.toRat_stripZeros]
    exact contains_of_neighbour? hg
  | succ fuel ih =>
    rw [shortest]
    simp only
    split
    · rename_i g hg
      rw [Decimal.toRat_stripZeros]
      exact contains_of_neighbour? hg
    · refine ih ?_
      rwa [show digits + 1 + fuel = digits + (fuel + 1) by omega]

/-- The power of ten of the first digit, by the lengths of a quotient and of its inverse. -/
theorem Interval.magnitude_eq (i : Interval) {num den : Nat}
    (hfactors : gridFactors i.unit 0 = (num, den)) :
    i.magnitude =
      if den ≤ i.value * num then ((Nat.toDigits 10 (i.value * num / den)).length : Int)
      else if den ≤ i.value * num *
          Nat.pow 10 ((Nat.toDigits 10 (den / (i.value * num))).length - 1) then
        2 - ((Nat.toDigits 10 (den / (i.value * num))).length : Int)
      else 1 - ((Nat.toDigits 10 (den / (i.value * num))).length : Int) := by
  rw [magnitude, hfactors]

/-- The power of ten of the first digit is not overrated. -/
theorem Interval.ten_zpow_magnitude_le {i : Interval} (h : 0 < i.value) :
    (10 : ℚ) ^ (i.magnitude - 1) ≤ i.value * 2 ^ i.unit := by
  obtain ⟨hnum, hden, heq⟩ := gridFactors_spec i.unit 0
  rcases hfactors : gridFactors i.unit 0 with ⟨num, den⟩
  rw [hfactors] at hnum hden heq
  dsimp only at hnum hden heq
  have ha : 0 < i.value * num := Nat.mul_pos h hnum
  have hd : (0 : ℚ) < den := by exact_mod_cast hden
  have hvalue : (i.value : ℚ) * 2 ^ i.unit = (i.value * num : Nat) / den := by
    rw [eq_div_iff hd.ne']
    push_cast
    rw [zpow_zero, mul_one] at heq
    rw [heq]
    ring
  rw [hvalue, i.magnitude_eq hfactors, le_div_iff₀ hd]
  generalize i.value * num = a at *
  split
  · -- a value of one or more has as many digits as its whole part
    rename_i hge
    have hq : a / den ≠ 0 := by
      have := (Nat.le_div_iff_mul_le hden).2 (show 1 * den ≤ a by omega)
      omega
    have hpow := pow_length_toDigits_le hq
    have hpos : 0 < (Nat.toDigits 10 (a / den)).length := Nat.length_toDigits_pos
    rw [show ((Nat.toDigits 10 (a / den)).length : Int) - 1 =
      (((Nat.toDigits 10 (a / den)).length - 1 : Nat) : Int) by omega, zpow_natCast]
    have := (Nat.le_div_iff_mul_le hden).1 hpow
    exact_mod_cast this
  · -- a fraction has zeros before its first digit, as its inverse has digits, up to one
    have hpos : 0 < (Nat.toDigits 10 (den / a)).length := Nat.length_toDigits_pos
    have hlt := lt_pow_length_toDigits (den / a)
    generalize (Nat.toDigits 10 (den / a)).length = zeros at *
    split
    · rename_i hle
      rw [show 2 - (zeros : Int) - 1 = -((zeros - 1 : Nat) : Int) by omega, zpow_neg, zpow_natCast,
        inv_mul_le_iff₀ (by positivity), mul_comm]
      exact_mod_cast hle
    · rw [show 1 - (zeros : Int) - 1 = -(zeros : Int) by omega, zpow_neg, zpow_natCast,
        inv_mul_le_iff₀ (by positivity)]
      have := (Nat.div_lt_iff_lt_mul ha).1 hlt
      exact_mod_cast this.le

/-- **A step of eighteen digits is less than half the distance to the next number.** -/
theorem gridFactors_lt {x : Binary64} (h0 : x.isZero = false) :
    (gridFactors x.interval.unit (x.interval.magnitude - (1 + 17 : Nat))).2 <
      2 * (gridFactors x.interval.unit (x.interval.magnitude - (1 + 17 : Nat))).1 := by
  have hvalue : x.interval.value = 4 * x.significand := rfl
  have hmag := x.interval.ten_zpow_magnitude_le (by have := significand_pos h0; omega)
  rw [hvalue] at hmag
  have htwo : (0 : ℚ) < 2 ^ x.interval.unit := by positivity
  have hm : ((4 * x.significand : Nat) : ℚ) < 2 ^ (55 : Nat) := by
    have : 4 * x.significand < 2 ^ 55 := by
      have := x.significand_lt
      simp only [hiddenBit] at this
      omega
    exact_mod_cast this
  have hten : (10 : ℚ) ^ (x.interval.magnitude - (1 + 17 : Nat)) =
      10 ^ (x.interval.magnitude - 1) / 10 ^ (17 : Nat) := by
    rw [show x.interval.magnitude - ((1 + 17 : Nat) : Int) =
      x.interval.magnitude - 1 - (17 : Nat) by push_cast; ring, zpow_sub₀ (by norm_num),
      zpow_natCast]
  -- the value has 55 bits at most, and ten to the seventeenth has more
  have hlt : (10 : ℚ) ^ (x.interval.magnitude - (1 + 17 : Nat)) < 2 * 2 ^ x.interval.unit := by
    rw [hten, div_lt_iff₀ (by positivity)]
    nlinarith
  have hgrid := (grid_lt_iff x.interval.unit (x.interval.magnitude - (1 + 17 : Nat)) 2 1).1
    (by simpa using hlt)
  simpa using hgrid

/-- **The shortest decimal of a number reads back as it**: eighteen digits always suffice. -/
theorem contains_shortest {x : Binary64} (h0 : x.isZero = false) :
    x.interval.Contains x.shortest.toRat := by
  have hvalue : x.interval.value = 4 * x.significand := rfl
  have hhigh : x.interval.high = 4 * x.significand + 2 := rfl
  have hlow : x.interval.low ≤ x.interval.value := by
    simp only [interval]
    split <;> omega
  unfold shortest
  rw [h0]
  refine Interval.contains_shortest (Interval.neighbour?_ne_none ?_ hlow ?_)
  · exact (gridFactors_spec _ _).2.1
  · have hstep := gridFactors_lt h0
    rw [hvalue, hhigh]
    linarith

theorem eq_zero_of_isZero {x : Binary64} (h : x.isZero = true) : zero x.isNegative = x := by
  simp only [isZero, Bool.and_eq_true, beq_iff_eq] at h
  have := ofParts_self x
  rwa [h.1, h.2] at this

/-- **A finite double is read back from its shortest decimal**, however that is presented. -/
theorem nearest_eq_self {x : Binary64} (hx : x.isFinite = true) {digits : Nat} {scale : Int}
    (h : digits * (10 : ℚ) ^ scale = x.shortest.toRat) :
    nearest x.isNegative digits scale = x := by
  cases h0 : x.isZero with
  | false => exact nearest_of_contains hx h0 (h ▸ contains_shortest h0)
  | true =>
    have hdigits : digits = 0 := by
      have hscale : (10 : ℚ) ^ scale ≠ 0 := zpow_ne_zero _ (by norm_num)
      have : (digits : ℚ) * 10 ^ scale = 0 := by simp [h, shortest, h0, Decimal.toRat]
      exact_mod_cast (mul_eq_zero.1 this).resolve_right hscale
    rw [hdigits, nearest, if_pos (by rfl), eq_zero_of_isZero h0]

/-! ### The plain form -/

/-- Whether characters say a decimal: a whole part, a point and a fraction, with the same number. -/
def Decimal.SaidBy (d : Decimal) (cs : List Char) : Prop :=
  ∃ whole fraction n, cs = whole ++ '.' :: fraction ∧ Text.IsWhole whole ∧
    fraction ≠ [] ∧ (∀ c ∈ fraction, Text.isAsciiDigit c = true) ∧
      Text.digitsValue? 10 0 (whole ++ fraction) = some n ∧
        (n : ℚ) * 10 ^ (-(fraction.length : Int)) = d.toRat

theorem isAsciiDigit_of_mem_zeros {n : Nat} {c : Char} (hc : c ∈ List.replicate n '0') :
    Text.isAsciiDigit c = true := by
  rw [(List.mem_replicate.1 hc).2]
  rfl

/-- A decimal without places has zeros behind its digits, and a zero for a fraction. -/
theorem Decimal.saidBy_zeros {d : Decimal} {n : Nat} (hn : d.scale = n) (h0 : d.digits ≠ 0) :
    d.SaidBy ((Nat.toDigits 10 d.digits ++ List.replicate n '0') ++ ['.', '0']) := by
  have hvalue := Text.digitsValue?_toDigits (by omega : 1 < 10) (by omega) d.digits
  refine ⟨Nat.toDigits 10 d.digits ++ List.replicate n '0', ['0'], d.digits * 10 ^ (n + 1), rfl,
    ⟨?_, Or.inr ⟨by simp, ?_⟩⟩, by simp, by simp [Text.isAsciiDigit], ?_, ?_⟩
  · intro c hc
    rcases List.mem_append.1 hc with hc | hc
    · exact (Text.isWhole_toDigits d.digits).1 c hc
    · exact isAsciiDigit_of_mem_zeros hc
  · rw [List.head?_append, Option.or_of_isSome (by simp)]
    exact Text.head?_toDigits h0
  · have hzeros : List.replicate n '0' ++ ['0'] = List.replicate (n + 1) '0' := by
      simp [List.replicate_succ']
    rw [List.append_assoc, hzeros]
    exact Text.digitsValue?_append_zeros hvalue (n + 1)
  · rw [toRat, hn]
    push_cast
    rw [List.length_singleton, zpow_natCast, pow_succ]
    norm_num
    ring

/-- The digits of a number, filled up with zeros to more than a number of places. -/
def padded (digits places : Nat) : List Char :=
  List.replicate (places + 1 - (Nat.toDigits 10 digits).length) '0' ++ Nat.toDigits 10 digits

theorem lt_length_padded (digits places : Nat) : places < (padded digits places).length := by
  simp [padded]
  omega

theorem isAsciiDigit_of_mem_padded {digits places : Nat} {c : Char}
    (hc : c ∈ padded digits places) : Text.isAsciiDigit c = true := by
  rcases List.mem_append.1 hc with hc | hc
  · exact isAsciiDigit_of_mem_zeros hc
  · exact (Text.isWhole_toDigits digits).1 c hc

theorem digitsValue?_padded (digits places : Nat) :
    Text.digitsValue? 10 0 (padded digits places) = some digits := by
  rw [padded, Text.digitsValue?_zeros]
  exact Text.digitsValue?_toDigits (by omega) (by omega) digits

/-- What stands before the places is a whole number: a zero that was filled in, or the first digits
of the number itself. -/
theorem isWhole_take_padded (digits : Nat) {places : Nat} (hplaces : 0 < places) :
    Text.IsWhole ((padded digits places).take ((padded digits places).length - places)) := by
  refine ⟨fun c hc => isAsciiDigit_of_mem_padded (List.mem_of_mem_take hc), ?_⟩
  have hlength := lt_length_padded digits places
  -- zeros are filled in only up to the one before the point
  by_cases hfill : (Nat.toDigits 10 digits).length ≤ places
  · have hone : (padded digits places).length - places = 1 := by
      simp [padded]
      omega
    obtain ⟨m, hm⟩ : ∃ m, places + 1 - (Nat.toDigits 10 digits).length = m + 1 :=
      ⟨places - (Nat.toDigits 10 digits).length, by omega⟩
    rw [hone, padded, hm]
    exact Or.inl rfl
  · have h0 : digits ≠ 0 := by
      rintro rfl
      simp at hfill
      omega
    have hpadded : padded digits places = Nat.toDigits 10 digits := by
      rw [padded, Nat.sub_eq_zero_of_le (by omega), List.replicate_zero, List.nil_append]
    rw [hpadded] at hlength ⊢
    refine Or.inr ⟨fun hnil => ?_, ?_⟩
    · rcases List.take_eq_nil_iff.1 hnil with hzero | hnil
      · omega
      · simp [hnil] at hlength
    · rw [List.head?_take, if_neg (by omega)]
      exact Text.head?_toDigits h0

/-- A decimal with places is said by its digits with the point put in. -/
theorem Decimal.saidBy_padded {d : Decimal} {places : Nat} (hplaces : 0 < places)
    (hscale : d.scale = -(places : Int)) :
    d.SaidBy ((padded d.digits places).take ((padded d.digits places).length - places) ++
      '.' :: (padded d.digits places).drop ((padded d.digits places).length - places)) := by
  have hlength := lt_length_padded d.digits places
  refine ⟨_, _, d.digits, rfl, isWhole_take_padded d.digits hplaces, fun hnil => ?_,
    fun c hc => isAsciiDigit_of_mem_padded (List.mem_of_mem_drop hc), ?_, ?_⟩
  · rw [List.drop_eq_nil_iff] at hnil
    omega
  · rw [List.take_append_drop]
    exact digitsValue?_padded d.digits places
  · rw [toRat, hscale, List.length_drop]
    congr 3
    omega

/-- **The plain form of a decimal says it.** -/
theorem Decimal.saidBy_positional (d : Decimal) : d.SaidBy d.positional := by
  rw [positional]
  dsimp only
  split
  · rename_i hscale
    obtain ⟨n, hn⟩ : ∃ n : Nat, d.scale = n := ⟨d.scale.toNat, by omega⟩
    by_cases h0 : d.digits = 0
    · exact ⟨['0'], ['0'], 0, by simp [h0], ⟨by simp [Text.isAsciiDigit], Or.inl rfl⟩, by simp,
        by simp [Text.isAsciiDigit], by decide, by simp [toRat, h0]⟩
    · rw [if_neg (by simpa using h0), hn]
      exact saidBy_zeros hn h0
  · obtain ⟨places, hplaces⟩ : ∃ n : Nat, d.scale = -(n : Int) := ⟨(-d.scale).toNat, by omega⟩
    rw [show (-d.scale).toNat = places by omega]
    exact saidBy_padded (by omega) hplaces

end FirmwareSurvey.Binary64
