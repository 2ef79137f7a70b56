import Mathlib.Data.Nat.Cast.Field
import Mathlib.Data.Nat.Cast.Order.Field
import SpokenCalculator.Proofs.Decimal.Precision

namespace SpokenCalculator

def Magnitude.value (x : Magnitude) : ℚ := signed x.negative (x.coefficient * 10 ^ x.exponent)

namespace Context

variable {context : Context} {q r : ℚ}

/-- The outcome of an operation with the given exact result: the rounded number,
or an overflow. -/
def RoundsTo (context : Context) (q : ℚ) (outcome : Except Signal Decimal) : Prop :=
  (∃ x : Decimal, outcome = .ok x ∧ x.isFinite ∧ x.value = context.rounded q ∧
    |context.rounded q| < context.beyond) ∨
  (outcome = .error .overflow ∧ context.beyond ≤ |context.rounded q|)

theorem round_roundsTo (hprecision : 0 < context.precision) (negative : Bool) (coefficient : ℕ)
    (exponent : ℤ) :
    context.RoundsTo (signed negative (coefficient * 10 ^ exponent))
      (context.round negative coefficient exponent) := by
  have hnonneg : 0 ≤ context.rounded ((coefficient : ℚ) * 10 ^ exponent) :=
    rounded_nonneg context (magnitude_nonneg coefficient exponent)
  rw [RoundsTo, rounded_signed, abs_signed, abs_of_nonneg hnonneg]
  rcases round_cases hprecision negative coefficient exponent with
    ⟨kept, place, hok, hvalue, hsmall⟩ | hoverflow
  · exact Or.inl ⟨_, hok, rfl, by rw [Decimal.value, hvalue], hsmall⟩
  · exact Or.inr hoverflow

theorem lt_lastPlace {place : ℤ} (h : (10 : ℚ) ^ (place + context.precision) ≤ q) :
    place < context.lastPlace q := by
  have hpos : 0 < q := (zpow_ten_pos _).trans_le h
  have hlog : place + context.precision ≤ Int.log 10 |q| := by
    rw [abs_of_pos hpos, ← Int.zpow_le_iff_le_log (by norm_num) hpos]
    exact_mod_cast h
  unfold lastPlace
  omega

/-- Numbers in one cell so far below the leading digit that the precision ends
above it round alike. -/
theorem rounded_eq_of_sameCell {place : ℤ} (hprecision : 0 < context.precision)
    (h : SameCell place q r) (hlow : (10 : ℚ) ^ (place + context.precision) ≤ q) :
    context.rounded q = context.rounded r := by
  have hq : (10 : ℚ) ^ (place + 1) ≤ q :=
    (zpow_le_zpow_right₀ (by norm_num) (by omega)).trans hlow
  have hr : (10 : ℚ) ^ (place + 1) ≤ r := (h.zpow_le_iff (by omega)).mp hq
  have hpos := zpow_ten_pos (place + 1)
  have heq : context.lastPlace r = context.lastPlace q := by
    rw [lastPlace, lastPlace, abs_of_pos (hpos.trans_le hq), abs_of_pos (hpos.trans_le hr),
      h.log_eq hq]
  rw [rounded, rounded, heq]
  exact h.roundTo_eq (lt_lastPlace hlow)

theorem product_roundsTo (hprecision : 0 < context.precision) (x y : Magnitude) :
    context.RoundsTo (x.value * y.value) (context.product x y) := by
  have hproduct : x.value * y.value = signed (x.negative != y.negative)
      ((x.coefficient * y.coefficient : ℕ) * 10 ^ (x.exponent + y.exponent)) := by
    obtain ⟨s, c, e⟩ := x
    obtain ⟨t, d, f⟩ := y
    simp only [Magnitude.value]
    rw [zpow_add₀ (by norm_num)]
    push_cast
    cases s <;> cases t <;> simp [signed] <;> ring
  rw [hproduct]
  exact round_roundsTo hprecision _ _ _

theorem stripZeros_value (coefficient : ℕ) (exponent : ℤ) (most : ℕ) :
    ((stripZeros coefficient exponent most).1 : ℚ) * 10 ^ (stripZeros coefficient exponent most).2 =
      coefficient * 10 ^ exponent := by
  induction most generalizing coefficient exponent with
  | zero => rfl
  | succ most ih =>
      rw [stripZeros]
      split
      · rename_i hten
        rw [ih, div_ten_mul_zpow (Nat.dvd_of_mod_eq_zero hten)]
      · rfl

/-- The last digit of a quotient that does not end may be raised, because no
rounding sees whether the number above a whole that is no multiple of five is
that whole or more. -/
theorem sameCell_of_rest {numerator denominator : ℕ} (place : ℤ) (hpos : 0 < denominator)
    (hrest : numerator % denominator ≠ 0) :
    SameCell place ((numerator : ℚ) / denominator * 10 ^ place)
      (((if numerator / denominator % 5 = 0 then numerator / denominator + 1
        else numerator / denominator : ℕ) : ℚ) * 10 ^ place) := by
  have hunit := zpow_ten_pos place
  have hden : (0 : ℚ) < denominator := by exact_mod_cast hpos
  have hdivision := Nat.div_add_mod numerator denominator
  have hlt := Nat.mod_lt numerator hpos
  set whole := numerator / denominator
  have hlow : (whole : ℚ) < numerator / denominator := by
    rw [lt_div_iff₀ hden]
    have : whole * denominator < numerator := by
      rw [Nat.mul_comm]
      omega
    exact_mod_cast this
  have hhigh : (numerator : ℚ) / denominator < whole + 1 := by
    rw [div_lt_iff₀ hden]
    have : numerator < (whole + 1) * denominator := by
      rw [Nat.add_mul, Nat.mul_comm]
      omega
    exact_mod_cast this
  obtain ⟨j, hj, hj'⟩ : ∃ j : ℕ, 5 * j ≤ whole ∧ whole < 5 * j + 5 :=
    ⟨whole / 5, by omega, by omega⟩
  have hcell : ∀ s : ℚ, 5 * (j : ℚ) < s → s < 5 * (j : ℚ) + 5 →
      ((j : ℤ) : ℚ) * (5 * 10 ^ place) < s * 10 ^ place ∧
        s * 10 ^ place < (((j : ℤ) : ℚ) + 1) * (5 * 10 ^ place) := by
    intro s hs hs'
    push_cast
    constructor <;> nlinarith
  have hwhole : 5 * (j : ℚ) ≤ whole := by exact_mod_cast hj
  have hwhole' : (whole : ℚ) + 1 ≤ 5 * (j : ℚ) + 5 := by exact_mod_cast hj'
  refine ⟨j, hcell _ (by linarith) (by linarith), hcell _ ?_ ?_⟩
  · norm_cast
    split <;> omega
  · norm_cast
    split <;> omega

theorem pow_le_quotient {c d : ℕ} (hc : c ≠ 0) (hd : d ≠ 0) (precision : ℕ) {shift : ℤ}
    (hshift : shift = (digitCount d : ℤ) - digitCount c + precision + 1) :
    10 ^ precision ≤ c * Nat.pow 10 shift.toNat / (d * Nat.pow 10 (-shift).toNat) := by
  simp only [natPow_eq]
  rw [Nat.le_div_iff_mul_le (by positivity)]
  have hbelow : d ≤ 10 ^ digitCount d := (lt_pow_digitCount d).le
  have habove : 10 ^ (digitCount c - 1) ≤ c := by
    rw [digitCount_eq]
    exact Nat.pow_log_le_self 10 hc
  have hcount : 1 ≤ digitCount c := by
    rw [digitCount_eq]
    omega
  calc
    10 ^ precision * (d * 10 ^ (-shift).toNat) ≤
        10 ^ precision * (10 ^ digitCount d * 10 ^ (-shift).toNat) := by gcongr
    _ = 10 ^ (digitCount c - 1) * 10 ^ shift.toNat := by
      rw [← pow_add, ← pow_add, ← pow_add]
      congr 1
      omega
    _ ≤ c * 10 ^ shift.toNat := by gcongr

theorem quotient_scaled (c d : ℕ) (ideal shift : ℤ) :
    (c : ℚ) / d * 10 ^ ideal =
      ((c * Nat.pow 10 shift.toNat : ℕ) : ℚ) / (d * Nat.pow 10 (-shift).toNat : ℕ) *
        10 ^ (ideal - shift) := by
  have hscale : (10 : ℚ) ^ shift.toNat / 10 ^ (-shift).toNat = 10 ^ shift := by
    rw [← zpow_natCast, ← zpow_natCast, ← zpow_sub₀ (by norm_num)]
    congr 1
    omega
  simp only [natPow_eq]
  push_cast
  rw [mul_div_mul_comm, hscale, mul_assoc, ← zpow_add₀ (by norm_num)]
  congr 2
  omega

theorem quotient_roundsTo (hprecision : 0 < context.precision) (x y : Magnitude)
    (hne : y.coefficient ≠ 0) :
    context.RoundsTo (x.value / y.value) (context.quotient x y) := by
  obtain ⟨s, c, e⟩ := x
  obtain ⟨t, d, f⟩ := y
  simp only [ne_eq] at hne
  have hquotient : Magnitude.value ⟨s, c, e⟩ / Magnitude.value ⟨t, d, f⟩ =
      signed (s != t) ((c : ℚ) / d * 10 ^ (e - f)) := by
    simp only [Magnitude.value]
    rw [zpow_sub₀ (by norm_num)]
    cases s <;> cases t <;> simp [signed] <;> ring
  rw [hquotient, quotient]
  simp only
  split
  · rename_i hzero
    have := round_roundsTo hprecision (s != t) 0 (e - f)
    rw [hzero]
    simpa using this
  · rename_i hc
    set shift : ℤ := (digitCount d : ℤ) - digitCount c + context.precision + 1 with hshift
    have hpos : 0 < d * Nat.pow 10 (-shift).toNat :=
      Nat.mul_pos (Nat.pos_of_ne_zero hne) (Nat.pow_pos (by norm_num))
    have hden : ((d * Nat.pow 10 (-shift).toNat : ℕ) : ℚ) ≠ 0 := by exact_mod_cast hpos.ne'
    have hwhole := pow_le_quotient hc hne context.precision hshift
    rw [quotient_scaled c d (e - f) shift]
    generalize c * Nat.pow 10 shift.toNat = numerator at *
    generalize d * Nat.pow 10 (-shift).toNat = denominator at *
    set place := e - f - shift
    split
    · rename_i hends
      rw [← Nat.cast_div (Nat.dvd_of_mod_eq_zero hends) hden, ← stripZeros_value _ _ shift.toNat]
      exact round_roundsTo hprecision _ _ _
    · rename_i hrest
      have hcell := sameCell_of_rest place hpos hrest
      have hlow : (10 : ℚ) ^ (place + context.precision) ≤
          (numerator : ℚ) / denominator * 10 ^ place := by
        rw [zpow_add₀ (by norm_num), zpow_natCast, mul_comm]
        have : (10 : ℚ) ^ context.precision ≤ numerator / denominator := by
          calc
            (10 : ℚ) ^ context.precision ≤ ((numerator / denominator : ℕ) : ℚ) := by
              exact_mod_cast hwhole
            _ ≤ numerator / denominator := Nat.cast_div_le
        exact mul_le_mul_of_nonneg_right this (zpow_ten_pos place).le
      rw [RoundsTo, rounded_signed, rounded_eq_of_sameCell hprecision hcell hlow,
        ← rounded_signed]
      exact round_roundsTo hprecision _ _ _

theorem signedAt_mul_zpow (x : Magnitude) {place : ℤ} (h : place ≤ x.exponent) :
    (x.signedAt place : ℚ) * 10 ^ place = x.value := by
  have hpower : (10 : ℚ) ^ x.exponent = 10 ^ (x.exponent - place).toNat * 10 ^ place := by
    rw [← zpow_natCast, ← zpow_add₀ (by norm_num)]
    congr 1
    omega
  rw [Magnitude.value, Magnitude.signedAt, appendZeros_eq, natPow_eq, hpower]
  cases x.negative <;> simp [signed] <;> ring

/-- The digits below the sticky place of a number only have to show that they
are there. -/
theorem rounded_add_of_sticky (hprecision : 0 < context.precision) {coefficient : ℕ}
    {exponent place : ℤ} (hne : coefficient ≠ 0) (hplace : place + 1 ≤ exponent)
    (hleading : place + context.precision + 1 ≤ leadingExponent coefficient exponent)
    (negative : Bool) {rest : ℚ} (hpos : 0 < rest) (hrest : rest < 10 ^ place) :
    context.rounded (coefficient * 10 ^ exponent + signed negative rest) =
      context.rounded (coefficient * 10 ^ exponent + signed negative (10 ^ place)) := by
  have hunit := zpow_ten_pos place
  obtain ⟨n, hn⟩ : OnGrid (place + 1) ((coefficient : ℚ) * 10 ^ exponent) :=
    (OnGrid.natCast_mul coefficient exponent).mono hplace
  rw [zpow_add_one₀ (by norm_num)] at hn
  have hlarge : (10 : ℚ) ^ (place + context.precision + 1) ≤ coefficient * 10 ^ exponent := by
    rw [leadingExponent_eq hne,
      ← Int.zpow_le_iff_le_log (by norm_num) (magnitude_pos hne exponent)] at hleading
    exact_mod_cast hleading
  have hprecise : (10 : ℚ) ^ place ≤ 10 ^ (place + context.precision) :=
    zpow_le_zpow_right₀ (by norm_num) (by omega)
  rw [zpow_add_one₀ (by norm_num)] at hlarge
  refine rounded_eq_of_sameCell hprecision (?_ : SameCell place _ _) ?_
  · rw [hn]
    cases negative
    · refine ⟨2 * n, ?_⟩
      simp only [signed, Bool.false_eq_true, if_false]
      push_cast
      refine ⟨⟨?_, ?_⟩, ?_, ?_⟩ <;> linarith
    · refine ⟨2 * n - 1, ?_⟩
      simp only [signed, if_true]
      push_cast
      refine ⟨⟨?_, ?_⟩, ?_, ?_⟩ <;> linarith
  · have hsigned : -rest ≤ signed negative rest := by
      cases negative <;> simp [signed]
      linarith
    linarith

theorem signed_add_signed (negative other : Bool) (q r : ℚ) :
    signed negative q + signed other r = signed negative (q + signed (negative != other) r) := by
  cases negative <;> cases other <;> simp [signed] <;> ring

theorem leading_eq {x : Magnitude} (hne : x.coefficient ≠ 0) :
    x.leading = Int.log 10 ((x.coefficient : ℚ) * 10 ^ x.exponent) :=
  leadingExponent_eq hne x.exponent

theorem reduceBeside_value (context : Context) (x y : Magnitude) :
    (context.reduceBeside x y).value = y.value ∨
      x.coefficient ≠ 0 ∧ y.coefficient ≠ 0 ∧ y.leading < context.stickyPlace x ∧
        (context.reduceBeside x y).value = signed y.negative (10 ^ context.stickyPlace x) := by
  unfold reduceBeside
  split
  · rename_i hreduced
    rcases Nat.eq_zero_or_pos y.coefficient with hzero | hpos
    · exact Or.inl (by simp [Magnitude.value, hzero])
    · have hone : min y.coefficient 1 = 1 := by omega
      exact Or.inr ⟨hreduced.1, hpos.ne', hreduced.2, by simp [Magnitude.value, hone]⟩
  · exact Or.inl rfl

theorem reduceBeside_eq_self {x y : Magnitude} (hlt : y.leading < context.stickyPlace x) :
    context.reduceBeside y x = x := by
  refine if_neg ?_
  rintro ⟨_, hlt'⟩
  unfold stickyPlace at hlt hlt'
  omega

/-- A summand that shrinks does not change the rounded sum. -/
theorem rounded_add_reduceBeside (hprecision : 0 < context.precision) (x y : Magnitude) :
    context.rounded (x.value + (context.reduceBeside x y).value) =
      context.rounded (x.value + y.value) := by
  rcases reduceBeside_value context x y with heq | ⟨hx, hy, hlt, heq⟩
  · rw [heq]
  · rw [heq, Magnitude.value, Magnitude.value, signed_add_signed, signed_add_signed,
      rounded_signed, rounded_signed]
    have hpos := magnitude_pos hy y.exponent
    have hrest : (y.coefficient : ℚ) * 10 ^ y.exponent < 10 ^ context.stickyPlace x := by
      rw [leading_eq hy, ← Int.lt_zpow_iff_log_lt (by norm_num) hpos] at hlt
      exact_mod_cast hlt
    congr 1
    refine (rounded_add_of_sticky hprecision hx ?_ ?_ _ hpos hrest).symm
    · unfold stickyPlace
      omega
    · change _ ≤ x.leading
      unfold stickyPlace
      omega

theorem intCast_mul_eq_signed (zeroSign : Bool) (total : ℤ) (unit : ℚ) :
    (total : ℚ) * unit =
      signed (if total = 0 then zeroSign else total < 0) (total.natAbs * unit) := by
  rcases lt_trichotomy total 0 with hneg | rfl | hpos
  · have habs : ((total.natAbs : ℕ) : ℚ) = -total := by
      rw [Nat.cast_natAbs, abs_of_neg hneg]
      push_cast
      rfl
    rw [if_neg hneg.ne, habs]
    simp [signed, hneg]
  · cases zeroSign <;> simp [signed]
  · have habs : ((total.natAbs : ℕ) : ℚ) = total := by
      rw [Nat.cast_natAbs, abs_of_pos hpos]
    rw [if_neg hpos.ne', habs]
    simp [signed, hpos.not_gt]

theorem sum_roundsTo (hprecision : 0 < context.precision) (x y : Magnitude) :
    context.RoundsTo (x.value + y.value) (context.sum x y) := by
  have hexact : context.rounded (x.value + y.value) = context.rounded
      ((context.reduceBeside y x).value + (context.reduceBeside x y).value) := by
    rcases reduceBeside_value context x y with heq | ⟨_, _, hlt, _⟩
    · rw [heq, add_comm, ← rounded_add_reduceBeside hprecision y x, add_comm]
    · rw [reduceBeside_eq_self hlt, rounded_add_reduceBeside hprecision]
  rw [RoundsTo, hexact, sum]
  set x' := context.reduceBeside y x
  set y' := context.reduceBeside x y
  have htotal : ((x'.signedAt (sumPlace x' y') + y'.signedAt (sumPlace x' y') : ℤ) : ℚ) *
      10 ^ sumPlace x' y' = x'.value + y'.value := by
    have hx := signedAt_mul_zpow x' (min_le_left x'.exponent y'.exponent)
    have hy := signedAt_mul_zpow y' (min_le_right x'.exponent y'.exponent)
    rw [← hx, ← hy]
    push_cast
    exact add_mul _ _ _
  rw [← htotal]
  generalize x'.signedAt (sumPlace x' y') + y'.signedAt (sumPlace x' y') = total
  rw [intCast_mul_eq_signed (x.negative && y.negative)]
  exact round_roundsTo hprecision _ _ _

section

variable (hprecision : 0 < context.precision) {x y : Decimal} (hx : x.isFinite) (hy : y.isFinite)

include hprecision hx

theorem absolute_roundsTo : context.RoundsTo |x.value| (context.absolute x) := by
  obtain ⟨negative, coefficient, exponent, rfl⟩ := Decimal.exists_eq_finite hx
  rw [Decimal.abs_value_finite]
  exact round_roundsTo hprecision false coefficient exponent

theorem negate_roundsTo : context.RoundsTo (-x.value) (context.negate x) := by
  obtain ⟨negative, coefficient, exponent, rfl⟩ := Decimal.exists_eq_finite hx
  have hvalue : -Decimal.value (.finite negative coefficient exponent) =
      signed (!negative && coefficient ≠ 0) (coefficient * 10 ^ exponent) := by
    rcases Nat.eq_zero_or_pos coefficient with rfl | hpos
    · cases negative <;> simp [Decimal.value, signed]
    · cases negative <;> simp [Decimal.value, signed, hpos.ne']
  rw [hvalue]
  exact round_roundsTo hprecision _ coefficient exponent

include hy

theorem add_roundsTo : context.RoundsTo (x.value + y.value) (context.add x y) := by
  cases x <;> cases y <;> simp only [Decimal.isFinite, Bool.false_eq_true] at hx hy
  exact sum_roundsTo hprecision ⟨_, _, _⟩ ⟨_, _, _⟩

theorem subtract_roundsTo : context.RoundsTo (x.value - y.value) (context.subtract x y) := by
  rw [sub_eq_add_neg, ← Decimal.value_opposite hy]
  exact add_roundsTo hprecision hx (by rwa [Decimal.isFinite_opposite])

theorem multiply_roundsTo : context.RoundsTo (x.value * y.value) (context.multiply x y) := by
  cases x <;> cases y <;> simp only [Decimal.isFinite, Bool.false_eq_true] at hx hy
  exact product_roundsTo hprecision ⟨_, _, _⟩ ⟨_, _, _⟩

theorem divide_roundsTo (hzero : y.isZero = false) :
    context.RoundsTo (x.value / y.value) (context.divide x y) := by
  cases x <;> cases y <;> simp only [Decimal.isFinite, Bool.false_eq_true] at hx hy
  simp only [Decimal.isZero, beq_eq_false_iff_ne] at hzero
  rw [divide, onFinite, if_neg hzero]
  exact quotient_roundsTo hprecision ⟨_, _, _⟩ ⟨_, _, _⟩ hzero

end

end Context

end SpokenCalculator
