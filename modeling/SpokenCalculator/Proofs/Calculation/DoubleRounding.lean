import SpokenCalculator.Proofs.Calculation.Settling

/-!
# The result of an operator is rounded once

A result is rounded to forty digits first and to twelve places afterwards. Sums
and products of numbers with twelve places that are within the limit are exact
at forty digits as long as they stay below ten to the sixteenth. A quotient need
not be, but it is a fraction of two numbers of at most twenty-seven digits and
so keeps a distance from every number halfway between two kept ones that is
larger than half a unit in its fortieth digit.
-/

namespace SpokenCalculator

def Operator.exact : Operator → ℚ → ℚ → ℚ
  | .add, a, b => a + b
  | .subtract, a, b => a - b
  | .multiply, a, b => a * b
  | .divide, a, b => a / b

namespace Calculation

open Context

theorem exactResult_roundsTo (operator : Operator) {a b : Decimal} (ha : a.isFinite)
    (hb : b.isFinite) (hzero : operator = .divide → b.isZero = false) :
    context.RoundsTo (operator.exact a.value b.value) (exactResult operator a b) := by
  have hprecision : 0 < context.precision := by decide
  cases operator with
  | add => exact add_roundsTo hprecision ha hb
  | subtract => exact subtract_roundsTo hprecision ha hb
  | multiply => exact multiply_roundsTo hprecision ha hb
  | divide => exact divide_roundsTo hprecision ha hb (hzero rfl)

theorem fits_of_onGrid {q : ℚ} (place : ℕ) (hplace : place ≤ 1000000) (hgrid : OnGrid (-place) q)
    (hbound : |q| < 10 ^ (-place + 40 : ℤ)) : context.Fits q := by
  refine .of_bound hgrid ?_ hbound
  change -999999 - (40 : ℤ) + 1 ≤ -place
  omega

/-- A fraction that is no multiple of half a unit stays away from all of
them. -/
theorem le_abs_div_sub_tie {n d : ℕ} (hd : 0 < d) (hn : n ≤ 10 ^ 27) (k : ℤ)
    (hne : (n : ℚ) / d ≠ k * (5 * 10 ^ (-13 : ℤ))) :
    (n : ℚ) / d / (2 * 10 ^ 39) ≤ |(n : ℚ) / d - k * (5 * 10 ^ (-13 : ℤ))| := by
  have hden : (0 : ℚ) < d := by exact_mod_cast hd
  have hdifference : (n : ℚ) / d - k * (5 * 10 ^ (-13 : ℤ)) =
      ((2 * 10 ^ 12 * n - k * d : ℤ) : ℚ) / (2 * 10 ^ 12 * d) := by
    push_cast
    field_simp
    norm_num
    ring
  have hnumerator : (2 * 10 ^ 12 * n - k * d : ℤ) ≠ 0 := by
    intro hzero
    rw [hzero, Int.cast_zero, zero_div] at hdifference
    exact hne (sub_eq_zero.mp hdifference)
  have hone : (1 : ℚ) ≤ |((2 * 10 ^ 12 * n - k * d : ℤ) : ℚ)| := by
    exact_mod_cast Int.one_le_abs hnumerator
  have hsize : (n : ℚ) ≤ 10 ^ 27 := by exact_mod_cast hn
  rw [hdifference, abs_div, abs_of_pos (by positivity : (0 : ℚ) < 2 * 10 ^ 12 * d)]
  calc
    (n : ℚ) / d / (2 * 10 ^ 39) ≤ (10 : ℚ) ^ 27 / d / (2 * 10 ^ 39) := by gcongr
    _ = 1 / (2 * 10 ^ 12 * (d : ℚ)) := by
      field_simp
    _ ≤ _ := by gcongr

/-- The error of rounding to forty digits, for all but powers of ten. -/
theorem abs_rounded_sub_lt {q : ℚ} (hlow : 10 ^ (-27 : ℤ) ≤ q) (hne : q ≠ 10 ^ Int.log 10 q) :
    |context.rounded q - q| < q / (2 * 10 ^ 39) := by
  have hpos : 0 < q := (zpow_ten_pos _).trans_le hlow
  have hlog : -27 ≤ Int.log 10 q := by
    rw [← Int.zpow_le_iff_le_log (by norm_num) hpos]
    exact_mod_cast hlow
  have hlast : context.lastPlace q = Int.log 10 q - 39 := by
    rw [lastPlace, abs_of_pos hpos]
    change max (Int.log 10 q + 1 - 40) (-999999 - 40 + 1) = _
    omega
  have hself : (10 : ℚ) ^ Int.log 10 q < q := by
    refine lt_of_le_of_ne ?_ hne.symm
    exact_mod_cast Int.zpow_log_le_self (b := 10) (by norm_num) hpos
  have hunit : (10 : ℚ) ^ (Int.log 10 q - 39) / 2 = 10 ^ Int.log 10 q / (2 * 10 ^ 39) := by
    rw [zpow_sub₀ (by norm_num)]
    norm_num
    ring
  have hle := abs_rounded_sub_le context q
  rw [hlast, hunit] at hle
  exact hle.trans_lt (by gcongr)

/-- Numbers that are closer to each other than one of them is to any multiple of
half a unit lie between the same two of them. -/
theorem sameCell_of_abs_sub_lt {place : ℤ} {q r : ℚ}
    (hlt : ∀ k : ℤ, |r - q| < |q - k * (5 * 10 ^ place)|) : SameCell place q r := by
  have hunit : (0 : ℚ) < 5 * 10 ^ place := by positivity
  set k := ⌊q / (5 * 10 ^ place)⌋ with hk
  have hlow : k * (5 * 10 ^ place) ≤ q := (le_div_iff₀ hunit).mp (Int.floor_le _)
  have hhigh : q < (k + 1) * (5 * 10 ^ place) := (div_lt_iff₀ hunit).mp (Int.lt_floor_add_one _)
  have hbelow := hlt k
  have habove := hlt (k + 1)
  push_cast at habove
  rw [abs_of_nonneg (by linarith : 0 ≤ q - k * (5 * 10 ^ place)), abs_lt] at hbelow
  rw [abs_of_neg (by linarith : q - (k + 1) * (5 * 10 ^ place) < 0), abs_lt] at habove
  refine ⟨k, ⟨lt_of_le_of_ne hlow ?_, hhigh⟩, by linarith, by linarith⟩
  intro heq
  linarith

/-- Rounding a quotient to forty digits does not change how it rounds to twelve
places. -/
theorem roundTo_rounded_div {n d : ℕ} (hn : 0 < n) (hd : 0 < d) (hn' : n ≤ 10 ^ 27)
    (hd' : d ≤ 10 ^ 27) (hsmall : (n : ℚ) / d < 10 ^ 16) :
    roundTo (-12) (context.rounded ((n : ℚ) / d)) = roundTo (-12) ((n : ℚ) / d) := by
  have hden : (0 : ℚ) < d := by exact_mod_cast hd
  have hlow : (10 : ℚ) ^ (-27 : ℤ) ≤ n / d := by
    have hone : (1 : ℚ) ≤ n := by exact_mod_cast hn
    have hsize : (d : ℚ) ≤ 10 ^ 27 := by exact_mod_cast hd'
    rw [zpow_neg, ← one_div]
    exact div_le_div₀ (by positivity) hone hden hsize
  have hpos : (0 : ℚ) < n / d := (zpow_ten_pos _).trans_le hlow
  -- The bound on the error fails for powers of ten, but these fit without rounding.
  by_cases hpower : (n : ℚ) / d = 10 ^ Int.log 10 ((n : ℚ) / d)
  · have hlog : -27 ≤ Int.log 10 ((n : ℚ) / d) := by
      rw [← Int.zpow_le_iff_le_log (by norm_num) hpos]
      exact_mod_cast hlow
    have hfits : context.Fits ((n : ℚ) / d) := by
      rw [hpower]
      exact .zpow (by change -999999 - (40 : ℤ) + 1 ≤ _; omega) (by decide)
    rw [hfits.rounded_eq]
  -- So do the multiples of half a unit. Any other quotient stays in its cell.
  by_cases htie : ∃ k : ℤ, (n : ℚ) / d = k * (5 * 10 ^ (-13 : ℤ))
  · obtain ⟨k, hk⟩ := htie
    have hfits : context.Fits ((n : ℚ) / d) := by
      refine fits_of_onGrid 13 (by norm_num) ⟨5 * k, ?_⟩ ?_
      · rw [hk]
        push_cast
        ring
      · rw [abs_of_pos hpos]
        exact hsmall.trans (by norm_num)
    rw [hfits.rounded_eq]
  · push Not at htie
    have hcell : SameCell (-13) ((n : ℚ) / d) (context.rounded ((n : ℚ) / d)) :=
      sameCell_of_abs_sub_lt fun k =>
        (abs_rounded_sub_lt hlow hpower).trans_le (le_abs_div_sub_tie hd hn' k (htie k))
    exact (hcell.roundTo_eq (by norm_num)).symm

section

variable {a b : ℚ} (ha : OnGrid (-12) a) (hb : OnGrid (-12) b) (ha' : |a| ≤ 10 ^ 15)
  (hb' : |b| ≤ 10 ^ 15)

theorem exists_natAbs_le (ha : OnGrid (-12) a) (ha' : |a| ≤ 10 ^ 15) :
    ∃ (negative : Bool) (n : ℕ), a = signed negative (n * 10 ^ (-12 : ℤ)) ∧ n ≤ 10 ^ 27 := by
  obtain ⟨k, rfl⟩ := ha
  refine ⟨_, k.natAbs, intCast_mul_eq_signed false k (10 ^ (-12 : ℤ)), ?_⟩
  rw [abs_mul, abs_of_pos (zpow_ten_pos (-12)), zpow_neg, ← div_eq_mul_inv,
    div_le_iff₀ (by positivity)] at ha'
  have hnatAbs : ((k.natAbs : ℕ) : ℚ) ≤ 10 ^ 27 := by
    rw [Nat.cast_natAbs, Int.cast_abs]
    exact ha'.trans (by norm_num)
  exact_mod_cast hnatAbs

include ha hb

/-- Without division, results need at most twice the places. -/
theorem onGrid_exact {operator : Operator} (hdivide : operator ≠ .divide) :
    OnGrid (-24) (operator.exact a b) := by
  cases operator with
  | add => exact (ha.add hb).mono (by norm_num)
  | subtract => exact (ha.sub hb).mono (by norm_num)
  | multiply => exact (ha.mul hb).mono (by norm_num)
  | divide => exact absurd rfl hdivide

include hb'

theorem zpow_le_abs_exact (operator : Operator) (hne : operator.exact a b ≠ 0) :
    10 ^ (-27 : ℤ) ≤ |operator.exact a b| := by
  by_cases hdivide : operator = .divide
  · subst hdivide
    change a / b ≠ 0 at hne
    rw [div_ne_zero_iff] at hne
    have hlow := ha.zpow_le_abs hne.1
    have hpos := abs_pos.mpr hne.2
    change _ ≤ |a / b|
    rw [abs_div, le_div_iff₀ hpos]
    calc
      (10 : ℚ) ^ (-27 : ℤ) * |b| ≤ 10 ^ (-27 : ℤ) * 10 ^ 15 := by gcongr
      _ = 10 ^ (-12 : ℤ) := by norm_num
      _ ≤ |a| := hlow
  · exact ((onGrid_exact ha hb hdivide).mono (by norm_num)).zpow_le_abs hne

include ha'

theorem roundTo_rounded_quotient (hsmall : |a / b| < 10 ^ 16) :
    roundTo (-12) (context.rounded (a / b)) = roundTo (-12) (a / b) := by
  obtain ⟨s, n, rfl, hn⟩ := exists_natAbs_le ha ha'
  obtain ⟨t, d, rfl, hd⟩ := exists_natAbs_le hb hb'
  have hquotient : signed s ((n : ℚ) * 10 ^ (-12 : ℤ)) / signed t (d * 10 ^ (-12 : ℤ)) =
      signed (s != t) (n / d) := by
    have hcancel : (n : ℚ) * 10 ^ (-12 : ℤ) / (d * 10 ^ (-12 : ℤ)) = n / d :=
      mul_div_mul_right _ _ (zpow_ten_pos (-12)).ne'
    rw [← hcancel]
    cases s <;> cases t <;> simp [signed, neg_div, div_neg]
  rw [hquotient, abs_signed, abs_of_nonneg (by positivity)] at hsmall
  rw [hquotient, rounded_signed]
  have hmagnitude : roundTo (-12) (context.rounded ((n : ℚ) / d)) =
      roundTo (-12) ((n : ℚ) / d) := by
    rcases Nat.eq_zero_or_pos n with rfl | hn'
    · simp
    · rcases Nat.eq_zero_or_pos d with rfl | hd'
      · simp
      · exact roundTo_rounded_div hn' hd' hn hd hsmall
  cases (s != t)
  · exact hmagnitude
  · change roundTo (-12) (-_) = roundTo (-12) (-_)
    rw [roundTo_neg, roundTo_neg, hmagnitude]

/-- Below ten to the sixteenth the rounding to forty digits does not show. -/
theorem roundTo_rounded_exact (operator : Operator) (hsmall : |operator.exact a b| < 10 ^ 16) :
    roundTo (-12) (context.rounded (operator.exact a b)) =
      roundTo (-12) (operator.exact a b) := by
  by_cases hdivide : operator = .divide
  · subst hdivide
    exact roundTo_rounded_quotient ha hb ha' hb' hsmall
  · rw [(fits_of_onGrid 24 (by norm_num) (onGrid_exact ha hb hdivide) hsmall).rounded_eq]

omit ha in
theorem abs_exact_le (operator : Operator) : |operator.exact a b| ≤ 10 ^ 30 := by
  cases operator with
  | add => exact (abs_add_le a b).trans (by linarith)
  | subtract => exact (abs_sub a b).trans (by linarith)
  | multiply =>
      change |a * b| ≤ _
      rw [abs_mul]
      calc
        |a| * |b| ≤ 10 ^ 15 * 10 ^ 15 := by gcongr
        _ = 10 ^ 30 := by norm_num
  | divide =>
      change |a / b| ≤ _
      rcases eq_or_ne b 0 with rfl | hne
      · simp
      · have hlow := hb.zpow_le_abs hne
        rw [abs_div]
        calc
          |a| / |b| ≤ 10 ^ 15 / 10 ^ (-12 : ℤ) := by gcongr
          _ ≤ 10 ^ 30 := by norm_num

end

end Calculation

end SpokenCalculator
