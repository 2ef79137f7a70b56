import Mathlib.Data.Nat.Log
import Mathlib.Order.Compare
import Mathlib.Tactic.NormNum
import SpokenCalculator.Calculation
import SpokenCalculator.Proofs.Decimal.Grid

namespace SpokenCalculator

theorem natPow_eq (base exponent : ℕ) : Nat.pow base exponent = base ^ exponent := rfl

/-- The search for the number of digits starts where the number has at least as
many. -/
theorem pow_log2_mul_le {n : ℕ} (hn : n ≠ 0) : 10 ^ (n.log2 * 1233 / 4096) ≤ n := by
  have hpower : (10 ^ (n.log2 * 1233 / 4096)) ^ 4096 ≤ (2 ^ n.log2) ^ 4096 := by
    calc
      (10 ^ (n.log2 * 1233 / 4096)) ^ 4096 = 10 ^ (n.log2 * 1233 / 4096 * 4096) :=
        (pow_mul ..).symm
      _ ≤ 10 ^ (n.log2 * 1233) := Nat.pow_le_pow_right (by norm_num) (Nat.div_mul_le_self _ _)
      _ = ((10 ^ 137) ^ 9) ^ n.log2 := by
        rw [← pow_mul, ← pow_mul]
        congr 1
        omega
      _ ≤ ((2 ^ 256) ^ 16) ^ n.log2 := Nat.pow_le_pow_left (by norm_num) _
      _ = (2 ^ n.log2) ^ 4096 := by
        rw [← pow_mul, ← pow_mul, ← pow_mul]
        congr 1
        omega
  rw [pow_le_pow_iff_left₀ (Nat.zero_le _) (Nat.zero_le _) (by norm_num)] at hpower
  exact hpower.trans (Nat.log2_self_le hn)

theorem pow_digitCountFrom_le {n : ℕ} (exponent : ℕ) (hlow : 10 ^ exponent ≤ n) :
    10 ^ (digitCountFrom n (exponent + 1) - 1) ≤ n := by
  generalize hnext : exponent + 1 = next
  fun_induction digitCountFrom n next generalizing exponent with
  | case1 next hle ih => exact ih next hle rfl
  | case2 next hgt =>
      subst hnext
      simpa using hlow

theorem digitCount_eq (n : ℕ) : digitCount n = Nat.log 10 n + 1 := by
  have hhigh : n < 10 ^ digitCount n := lt_pow_digitCount n
  rcases Nat.eq_zero_or_pos n with rfl | hpos
  · simp [digitCount, digitCountFrom]
  · have hlow : 10 ^ (digitCount n - 1) ≤ n := pow_digitCountFrom_le _ (pow_log2_mul_le hpos.ne')
    have hcount : digitCount n ≠ 0 := by
      intro hzero
      rw [hzero] at hhigh
      omega
    have hlog : Nat.log 10 n = digitCount n - 1 := by
      refine (Nat.log_eq_iff (Or.inr ⟨by norm_num, hpos.ne'⟩)).mpr ⟨hlow, ?_⟩
      rwa [Nat.sub_add_cancel (Nat.one_le_iff_ne_zero.mpr hcount)]
    omega

theorem lt_digitCount_iff {n digits : ℕ} (hne : n ≠ 0) :
    digits < digitCount n ↔ 10 ^ digits ≤ n := by
  rw [digitCount_eq, Nat.lt_add_one_iff, Nat.le_log_iff_pow_le (by norm_num) hne]

theorem digitCount_le_of_lt {n digits : ℕ} (hpos : 0 < digits) (h : n < 10 ^ digits) :
    digitCount n ≤ digits := by
  rcases Nat.eq_zero_or_pos n with rfl | hn
  · rw [digitCount_eq, Nat.log_zero_right]
    exact hpos
  · exact not_lt.mp fun hlt => not_le_of_gt h ((lt_digitCount_iff hn.ne').mp hlt)

def signed (negative : Bool) (q : ℚ) : ℚ := if negative then -q else q

@[simp] theorem abs_signed (negative : Bool) (q : ℚ) : |signed negative q| = |q| := by
  cases negative <;> simp [signed]

theorem roundTo_signed (place : ℤ) (negative : Bool) (q : ℚ) :
    roundTo place (signed negative q) = signed negative (roundTo place q) := by
  cases negative
  · rfl
  · exact roundTo_neg place q

@[simp] theorem signed_eq_zero (negative : Bool) (q : ℚ) : signed negative q = 0 ↔ q = 0 := by
  cases negative <;> simp [signed]

theorem magnitude_nonneg (coefficient : ℕ) (exponent : ℤ) :
    (0 : ℚ) ≤ coefficient * 10 ^ exponent :=
  mul_nonneg (Nat.cast_nonneg coefficient) (zpow_ten_pos exponent).le

theorem Decimal.exists_eq_finite {x : Decimal} (h : x.isFinite) :
    ∃ negative coefficient exponent, x = .finite negative coefficient exponent := by
  cases x with
  | finite negative coefficient exponent => exact ⟨negative, coefficient, exponent, rfl⟩
  | infinite | notNumber => cases h

/-- The exact value of a finite number; anything else counts as zero. -/
def Decimal.value : Decimal → ℚ
  | .finite negative coefficient exponent => signed negative (coefficient * 10 ^ exponent)
  | _ => 0

theorem Decimal.abs_value_finite (negative : Bool) (coefficient : ℕ) (exponent : ℤ) :
    |value (.finite negative coefficient exponent)| = coefficient * 10 ^ exponent := by
  rw [value, abs_signed, abs_of_nonneg (magnitude_nonneg coefficient exponent)]

@[simp] theorem Decimal.value_zero : Decimal.zero.value = 0 := by
  simp [Decimal.zero, Decimal.value, signed]

theorem leadingExponent_eq {coefficient : ℕ} (hne : coefficient ≠ 0) (exponent : ℤ) :
    leadingExponent coefficient exponent = Int.log 10 ((coefficient : ℚ) * 10 ^ exponent) := by
  have hpos : (0 : ℚ) < 10 ^ exponent := zpow_ten_pos exponent
  have hcoefficient : (0 : ℚ) < coefficient := by exact_mod_cast Nat.pos_of_ne_zero hne
  have hlow : ((10 : ℕ) : ℚ) ^ (exponent + Nat.log 10 coefficient) ≤
      coefficient * 10 ^ exponent := by
    rw [zpow_add₀ (by norm_num), zpow_natCast, mul_comm]
    have : ((10 : ℕ) : ℚ) ^ Nat.log 10 coefficient ≤ coefficient := by
      exact_mod_cast Nat.pow_log_le_self 10 hne
    exact mul_le_mul_of_nonneg_right this hpos.le
  have hhigh : (coefficient : ℚ) * 10 ^ exponent <
      ((10 : ℕ) : ℚ) ^ (exponent + Nat.log 10 coefficient + 1) := by
    rw [add_assoc, zpow_add₀ (by norm_num), mul_comm]
    have : (coefficient : ℚ) < ((10 : ℕ) : ℚ) ^ ((Nat.log 10 coefficient : ℤ) + 1) := by
      exact_mod_cast Nat.lt_pow_succ_log_self (b := 10) (by norm_num) coefficient
    exact mul_lt_mul_of_pos_left this hpos
  rw [Int.zpow_le_iff_le_log (by norm_num) (by positivity)] at hlow
  rw [Int.lt_zpow_iff_log_lt (by norm_num) (by positivity)] at hhigh
  rw [leadingExponent, digitCount_eq]
  push_cast
  omega

theorem zpow_eq_mul_zpow_min (e f : ℤ) :
    (10 : ℚ) ^ e = (10 ^ (e - f).toNat : ℕ) * 10 ^ min e f := by
  push_cast
  rw [← zpow_natCast, ← zpow_add₀ (by norm_num)]
  congr 1
  omega

theorem compareMagnitudes_eq_gt (c : ℕ) (e : ℤ) (d : ℕ) (f : ℤ) :
    compareMagnitudes c e d f = .gt ↔ (d : ℚ) * 10 ^ f < c * 10 ^ e := by
  have he := zpow_ten_pos e
  have hf := zpow_ten_pos f
  unfold compareMagnitudes
  split
  · rename_i hzero
    rw [compare_gt_iff_gt]
    rcases hzero with rfl | rfl
    · have : (0 : ℚ) ≤ d * 10 ^ f := by positivity
      simp
      exact this
    · simp only [Nat.cast_zero, zero_mul]
      rw [mul_pos_iff_of_pos_right he]
      exact Nat.cast_pos.symm
  · rename_i hne
    push Not at hne
    have hc : (0 : ℚ) < c * 10 ^ e := by
      have : (0 : ℚ) < c := by exact_mod_cast Nat.pos_of_ne_zero hne.1
      positivity
    have hd : (0 : ℚ) < d * 10 ^ f := by
      have : (0 : ℚ) < d := by exact_mod_cast Nat.pos_of_ne_zero hne.2
      positivity
    rw [leadingExponent_eq hne.1, leadingExponent_eq hne.2, Ordering.then_eq_gt, compare_gt_iff_gt,
      compare_eq_iff_eq, compare_gt_iff_gt]
    have halign : d * Nat.pow 10 (f - e).toNat < c * Nat.pow 10 (e - f).toNat ↔
        (d : ℚ) * 10 ^ f < c * 10 ^ e := by
      rw [zpow_eq_mul_zpow_min e f, zpow_eq_mul_zpow_min f e, min_comm f e,
        ← mul_assoc, ← mul_assoc, mul_lt_mul_iff_left₀ (zpow_ten_pos _)]
      exact_mod_cast Iff.rfl
    constructor
    · rintro (hlog | ⟨_, hlt⟩)
      · exact lt_of_not_ge fun hle => not_lt_of_ge (Int.log_mono_right hc hle) hlog
      · exact halign.mp hlt
    · intro hlt
      rcases lt_or_eq_of_le (Int.log_mono_right (b := 10) hd hlt.le) with hlog | hlog
      · exact Or.inl hlog
      · exact Or.inr ⟨hlog.symm, halign.mpr hlt⟩

namespace Decimal

theorem value_opposite {x : Decimal} (hfinite : x.isFinite) : x.opposite.value = -x.value := by
  obtain ⟨negative, coefficient, exponent, rfl⟩ := exists_eq_finite hfinite
  cases negative <;> simp [opposite, value, signed]

theorem isFinite_opposite (x : Decimal) : x.opposite.isFinite = x.isFinite := by
  cases x <;> rfl

theorem isZero_iff {x : Decimal} (hfinite : x.isFinite) : x.isZero ↔ x.value = 0 := by
  obtain ⟨negative, coefficient, exponent, rfl⟩ := exists_eq_finite hfinite
  simp [isZero, value, (zpow_ten_pos exponent).ne']

end Decimal

theorem Calculation.exceedsLimit_iff {x : Decimal} (hfinite : x.isFinite) :
    exceedsLimit x ↔ (10 : ℚ) ^ 15 < |x.value| := by
  obtain ⟨negative, coefficient, exponent, rfl⟩ := Decimal.exists_eq_finite hfinite
  have hlimit := compareMagnitudes_eq_gt coefficient exponent 1 15
  rw [Nat.cast_one, one_mul] at hlimit
  rw [exceedsLimit, beq_iff_eq, hlimit, Decimal.abs_value_finite]
  norm_cast

end SpokenCalculator
