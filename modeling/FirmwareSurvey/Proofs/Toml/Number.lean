import FirmwareSurvey.Proofs.Decimal.Shortest
import FirmwareSurvey.Proofs.Toml.Quoted

/-!
# Numbers read back

A number opens with a digit or a minus sign, which keeps it apart from every other value, and is
no moment, since what follows its first row of digits is neither a dash nor a colon. An integer
reads back when it is one of a signed word (`value?_intText`), a double when it is finite
(`value?_floatText`).
-/

namespace FirmwareSurvey.Toml

open Text (IsWhole)

/-! ### Rows of digits -/

/-- **A row of digits is read to its end.** -/
theorem digitRun?_append {isDigit : Char → Bool} (hd : isDigit '_' = false) {ds : List Char}
    (hne : ds ≠ []) (hds : ∀ c ∈ ds, isDigit c = true) {c : Char} (hc : isDigit c = false)
    (hu : c ≠ '_') (rest : List Char) :
    digitRun? isDigit (ds ++ c :: rest) = some (ds, c :: rest) := by
  induction ds with
  | nil => exact absurd rfl hne
  | cons d ds ih =>
    obtain ⟨hd1, hds⟩ := List.forall_mem_cons.1 hds
    cases ds with
    | nil => simp [digitRun?, hd1, hc]
    | cons e ds =>
      have he : isDigit e = true := hds e (by simp)
      have heu : e ≠ '_' := by
        rintro rfl
        simp [hd] at he
      have hrest := ih (by simp) hds
      rw [List.cons_append] at hrest
      simp [digitRun?, hd1, he, hrest]

/-- What a number starts with: the sign it may have. -/
def signChars (negative : Bool) : List Char := if negative then ['-'] else []

theorem decimalRun?_append (negative : Bool) {ds : List Char} (h : IsWhole ds) {c : Char}
    (hc : Text.isAsciiDigit c = false) (hu : c ≠ '_') (rest : List Char) :
    decimalRun? (signChars negative ++ (ds ++ c :: rest)) = some (negative, ds, c :: rest) := by
  obtain ⟨hds, rfl | ⟨hne, hzero⟩⟩ := h
  · cases negative <;> rfl
  · have hrun := digitRun?_append rfl hne hds hc hu rest
    obtain ⟨d, r, rfl⟩ := List.exists_cons_of_ne_nil hne
    have hdigit := hds d (by simp)
    have h0 : d ≠ '0' := by simpa using hzero
    have h1 : d ≠ '-' := by
      rintro rfl
      simp [Text.isAsciiDigit] at hdigit
    have h2 : d ≠ '+' := by
      rintro rfl
      simp [Text.isAsciiDigit] at hdigit
    rw [List.cons_append] at hrun
    cases negative <;> simp [decimalRun?, signChars, h0, h1, h2, hrun]

/-! ### What is no moment -/

/-- A number of fixed width that is read out of digits leaves digits or the character behind
them. -/
theorem fixedNumber?_append {width least greatest : Nat} {ds : List Char} {c : Char}
    (hc : Text.isAsciiDigit c = false) {rest : List Char} {n : Nat} {cs : List Char}
    (h : fixedNumber? width least greatest (ds ++ c :: rest) = some (n, cs)) :
    cs = ds.drop width ++ c :: rest := by
  simp only [fixedNumber?, Bool.and_eq_true, beq_iff_eq] at h
  split_ifs at h with hds hn
  simp only [Option.some.injEq, Prod.mk.injEq] at h
  rw [← h.2]
  by_cases hw : width ≤ ds.length
  · exact List.drop_append_of_le_length hw
  · -- the character behind the digits would be one of those that were read
    have hmem : c ∈ (ds ++ c :: rest).take width := by
      rw [List.take_append]
      obtain ⟨k, hk⟩ : ∃ k, width - ds.length = k + 1 := ⟨width - ds.length - 1, by omega⟩
      simp [hk]
    have := List.all_eq_true.1 hds.2 c hmem
    simp [hc] at this

theorem after?_eq_none {q : Char} {cs : List Char} (h : cs.head? ≠ some q) :
    after? q cs = none := by
  cases cs with
  | nil => rfl
  | cons c cs => exact if_neg (by simpa using h)

/-- Behind the first digits of a run stands another digit, or what stands behind the run. -/
theorem head?_drop_ne {ds : List Char} (hds : ∀ d ∈ ds, Text.isAsciiDigit d = true) {c q : Char}
    (hq : Text.isAsciiDigit q = false) (hne : c ≠ q) (width : Nat) (rest : List Char) :
    (ds.drop width ++ c :: rest).head? ≠ some q := by
  cases hd : ds.drop width with
  | nil => simpa using hne
  | cons d r =>
    have := hds d (List.mem_of_mem_drop (hd ▸ List.mem_cons_self))
    rintro ⟨⟩
    simp [hq] at this

/-- Digits are no moment when no dash and no colon stands behind them. -/
theorem moment?_eq_none {ds : List Char} (hds : ∀ d ∈ ds, Text.isAsciiDigit d = true) {c : Char}
    (hc : Text.isAsciiDigit c = false) (hdash : c ≠ '-') (hcolon : c ≠ ':') (rest : List Char) :
    moment? (ds ++ c :: rest) = none := by
  have hdate : date? (ds ++ c :: rest) = none := by
    unfold date?
    cases hn : fixedNumber? 4 0 9999 (ds ++ c :: rest) with
    | none => rfl
    | some p =>
      obtain ⟨n, cs⟩ := p
      have := fixedNumber?_append hc hn
      subst this
      simp [after?_eq_none (head?_drop_ne (q := '-') hds rfl hdash 4 rest)]
  have htime : time? (ds ++ c :: rest) = none := by
    unfold time?
    cases hn : fixedNumber? 2 0 23 (ds ++ c :: rest) with
    | none => rfl
    | some p =>
      obtain ⟨n, cs⟩ := p
      have := fixedNumber?_append hc hn
      subst this
      simp [after?_eq_none (head?_drop_ne (q := ':') hds rfl hcolon 2 rest)]
  simp [moment?, hdate, htime]

/-- A text that starts with a minus sign starts with no moment. -/
theorem moment?_minus (cs : List Char) : moment? ('-' :: cs) = none := by
  simp [moment?, date?, time?, fixedNumber?, Text.isAsciiDigit]

/-! ### Numbers as values -/

/-- A number is no word for a double. -/
theorem wordDouble?_eq_none (negative : Bool) {ds : List Char} (h : IsWhole ds) (cs : List Char) :
    wordDouble? (signChars negative ++ (ds ++ cs)) = none := by
  obtain ⟨d, r, rfl, hd⟩ := h.exists_cons
  have hne : ∀ q, Text.isAsciiDigit q = false → d ≠ q := by
    rintro q hq rfl
    simp [hq] at hd
  have h1 := hne '-' rfl
  have h2 := hne '+' rfl
  have h3 := hne 'i' rfl
  have h4 := hne 'n' rfl
  cases negative <;> simp [wordDouble?, signChars, h1, h2, h3, h4]

/-- **A text that opens with a row of digits is read as a number** or not at all. -/
theorem value?_digits {room depth : Nat} (negative : Bool) {ds : List Char} (h : IsWhole ds)
    {c : Char} (hc : Text.isAsciiDigit c = false) (hdash : c ≠ '-') (hcolon : c ≠ ':')
    (rest : List Char) :
    value? (room + 1) depth (signChars negative ++ (ds ++ c :: rest)) =
      number? (signChars negative ++ (ds ++ c :: rest)) := by
  cases negative with
  | true => simp [value?, signChars, moment?_minus]
  | false =>
    have hmoment := moment?_eq_none h.1 hc hdash hcolon rest
    obtain ⟨d, r, rfl, hd⟩ := h.exists_cons
    have hne : ∀ q, Text.isAsciiDigit q = false → d ≠ q := by
      rintro q hq rfl
      simp [hq] at hd
    rw [List.cons_append] at hmoment
    simp [value?, signChars, hmoment, hne '[' rfl, hne '\x7b' rfl, hne '"' rfl, hne '\'' rfl,
      hne 't' rfl, hne 'f' rfl]

/-- What may stand right behind the digits of an integer. -/
theorem AfterValue.not_digit {rest : List Char} (h : AfterValue rest) : ∃ c cs, rest = c :: cs ∧
    Text.isAsciiDigit c = false ∧ c ∉ ['_', '-', ':', 'x', 'o', 'b', '.', 'e', 'E'] := by
  obtain ⟨c, cs, rfl, rfl | rfl | rfl | rfl⟩ := h <;> exact ⟨_, cs, rfl, rfl, by decide⟩

/-- Behind a zero that comes first there is no further digit. -/
theorem eq_of_zero_cons {negative : Bool} {ds : List Char} (h : IsWhole ds) {c q : Char}
    {cs r : List Char} (heq : signChars negative ++ (ds ++ c :: cs) = '0' :: q :: r) : q = c := by
  cases negative with
  | true => simp [signChars] at heq
  | false =>
    obtain ⟨-, rfl | ⟨hne, hzero⟩⟩ := h
    · simp only [signChars, Bool.false_eq_true, if_false, List.nil_append, List.cons_append,
        List.cons.injEq, true_and] at heq
      exact heq.1.symm
    · obtain ⟨d, ds, rfl⟩ := List.exists_cons_of_ne_nil hne
      simp only [signChars, Bool.false_eq_true, if_false, List.nil_append, List.cons_append,
        List.cons.injEq] at heq
      simp [heq.1] at hzero

theorem integer?_append (negative : Bool) {ds : List Char} (h : IsWhole ds) {rest : List Char}
    (hrest : AfterValue rest) :
    integer? (signChars negative ++ (ds ++ rest)) = (wordOf? negative 10 ds).map (·, rest) := by
  obtain ⟨c, cs, rfl, hc, hother⟩ := hrest.not_digit
  simp only [List.mem_cons, List.not_mem_nil, or_false, not_or] at hother
  obtain ⟨hu, -, -, hx, ho, hb, -⟩ := hother
  have hrun := decimalRun?_append negative h hc hu cs
  unfold integer?
  simp only
  split
  · rename_i heq
    exact absurd (eq_of_zero_cons h heq).symm hx
  · rename_i heq
    exact absurd (eq_of_zero_cons h heq).symm ho
  · rename_i heq
    exact absurd (eq_of_zero_cons h heq).symm hb
  · simp [hrun]

theorem toList_intText (n : Int) : (Json.intText n).toList =
    signChars (decide (n < 0)) ++ Nat.toDigits 10 n.natAbs := by
  by_cases h : n < 0 <;> simp [Json.intText, signChars, h]

/-- **Every integer of a signed word reads back.** -/
theorem value?_intText {n : Int} (hn : IsWord n) (room depth : Nat) {rest : List Char}
    (h : AfterValue rest) :
    value? (room + 1) depth ((Json.intText n).toList ++ rest) = some (.int n, rest) := by
  have hwhole := Text.isWhole_toDigits n.natAbs
  have hword : wordOf? (decide (n < 0)) 10 (Nat.toDigits 10 n.natAbs) = some (.int n) := by
    have hsign : (if decide (n < 0) then -(n.natAbs : Int) else n.natAbs) = n := by
      by_cases hneg : n < 0
      · rw [if_pos (decide_eq_true hneg)]
        omega
      · rw [if_neg (by simpa using hneg)]
        omega
    simp only [wordOf?, Text.digitsValue?_toDigits (by omega : 1 < 10) (by omega), hsign, hn,
      if_true]
  have hint := integer?_append (decide (n < 0)) hwhole h
  rw [hword] at hint
  have hnone := wordDouble?_eq_none (decide (n < 0)) hwhole rest
  -- what follows the value is no point and no exponent, so it is not read as a double
  obtain ⟨c, cs, rfl, hc, hother⟩ := h.not_digit
  simp only [List.mem_cons, List.not_mem_nil, or_false, not_or] at hother
  obtain ⟨hu, hdash, hcolon, -, -, -, hdot, he, hE⟩ := hother
  have hrun := decimalRun?_append (decide (n < 0)) hwhole hc hu cs
  rw [toList_intText, List.append_assoc, value?_digits _ hwhole hc hdash hcolon, number?, hnone]
  simp only
  rw [if_neg, hint]
  · rfl
  · rw [startsDouble, hrun]
    simp [startsExponent, hdot, he, hE]

/-- **Every finite double reads back.** -/
theorem value?_floatText {x : Binary64} (hx : x.isFinite = true) (room depth : Nat)
    {rest : List Char} (h : AfterValue rest) :
    value? (room + 1) depth ((floatText x).toList ++ rest) = some (.float x, rest) := by
  obtain ⟨whole, fraction, n, htext, hwhole, hne, hfraction, hvalue, hrat⟩ :=
    x.shortest.saidBy_positional
  have htext : (floatText x).toList ++ rest =
      signChars x.isNegative ++ (whole ++ '.' :: (fraction ++ rest)) := by
    simp [floatText, hx, Binary64.plainText, htext, signChars]
  have hnearest := Binary64.nearest_eq_self hx hrat
  have hnone := wordDouble?_eq_none x.isNegative hwhole ('.' :: (fraction ++ rest))
  have hrun := decimalRun?_append x.isNegative hwhole (c := '.') rfl (by decide) (fraction ++ rest)
  have hinf : (x == Binary64.infinity false) = false := by
    rw [beq_eq_false_iff_ne]
    rintro rfl
    exact absurd hx (by decide)
  -- what follows the value goes on with no digit and no sign of an exponent
  obtain ⟨c, cs, rfl, hc, hother⟩ := h.not_digit
  simp only [List.mem_cons, List.not_mem_nil, or_false, not_or] at hother
  obtain ⟨hu, -, -, -, -, -, -, he, hE⟩ := hother
  have hdigits := digitRun?_append rfl hne hfraction hc hu cs
  rw [htext, value?_digits _ hwhole rfl (by decide) (by decide), number?, hnone]
  simp only
  rw [if_pos (by rw [startsDouble, hrun]; rfl), decimalDouble?, hrun]
  simp only [hdigits]
  rw [if_neg (by simp [startsExponent, he, hE]), double?, hvalue]
  simp only [Option.getD_some, hnearest, hinf]
  rfl

end FirmwareSurvey.Toml
