import SpokenCalculator.Proofs.Calculation.Outcome

namespace SpokenCalculator

namespace Calculation

open Context

/-- A quotient with a dividend of at most twenty-eight digits does not come
between the largest number and the end of the range. -/
theorem div_le_largest_of_lt {n d : ℕ} (hd : 0 < d) (hn : n < 10 ^ 28) {place : ℤ}
    (hplace : place ≤ 1000000) (hlt : (n : ℚ) / d * 10 ^ place < 10 ^ (1000000 : ℤ)) :
    (n : ℚ) / d * 10 ^ place ≤ largest := by
  obtain ⟨shift, hshift⟩ : ∃ shift : ℕ, (1000000 : ℤ) = place + shift :=
    ⟨(1000000 - place).toNat, by omega⟩
  have hunit := zpow_ten_pos place
  have hden : (0 : ℚ) < d := by exact_mod_cast hd
  have hend : (10 : ℚ) ^ (1000000 : ℤ) = 10 ^ shift * 10 ^ place := by
    rw [hshift, zpow_add₀ (by norm_num), zpow_natCast, mul_comm]
  have hwhole : n < 10 ^ shift * d := by
    rw [hend, mul_lt_mul_iff_left₀ hunit, div_lt_iff₀ hden] at hlt
    exact_mod_cast hlt
  have hgap : n * 10 ^ 28 ≤ (10 ^ 28 - 1) * (10 ^ shift * d) := by
    generalize 10 ^ shift * d = m at hwhole
    omega
  have hgap' : (n : ℚ) * 10 ^ 28 ≤ (10 ^ 28 - 1) * (10 ^ shift * d) := by
    have : ((n * 10 ^ 28 : ℕ) : ℚ) ≤ (((10 ^ 28 - 1) * (10 ^ shift * d) : ℕ) : ℚ) := by
      exact_mod_cast hgap
    push_cast at this
    linarith
  have hlargest : largest = (10 ^ 28 - 1) / 10 ^ 28 * (10 ^ shift * 10 ^ place) := by
    rw [← hend, zpow_million_eq, largest]
    ring
  rw [hlargest, ← mul_assoc]
  refine mul_le_mul_of_nonneg_right ?_ hunit.le
  rw [div_le_iff₀ hden, div_mul_eq_mul_div, div_mul_eq_mul_div, le_div_iff₀ (by positivity)]
  linarith

/-- The portions of two operands: the places of the first and of the second. -/
structure Apart (place other : ℤ) : Prop where
  shared : -12 ≤ place ∨ -999997 ≤ place + other
  bounded : -1000000 ≤ other

theorem abs_div_le_largest {place other : ℤ} (hapart : Apart place other) {a b : ℚ}
    (ha : OnGrid place a) (hb : OnGrid other b) (hsize : |roundTo (-12) a| ≤ 10 ^ 15)
    (hlt : |a / b| < 10 ^ (1000000 : ℤ)) : |a / b| ≤ largest := by
  rcases eq_or_ne b 0 with rfl | hne
  · rw [div_zero, abs_zero]
    exact largest_pos.le
  rcases lt_or_ge place (-12) with hlong | hshort
  · -- the divisor is not small enough
    have hother : -999984 ≤ other := by
      rcases hapart.shared with hle | hle <;> omega
    have hlow : (10 : ℚ) ^ (-999984 : ℤ) ≤ |b| := (hb.mono hother).zpow_le_abs hne
    have hhigh := abs_le_of_abs_roundTo_le hsize
    rw [abs_div]
    calc
      |a| / |b| ≤ 2 * 10 ^ 15 / 10 ^ (-999984 : ℤ) :=
        div_le_div₀ (by positivity) hhigh (zpow_ten_pos _) hlow
      _ = 2 * 10 ^ 27 * 10 ^ (999972 : ℤ) := by
        rw [zpow_neg, div_inv_eq_mul, mul_assoc, mul_assoc, ← zpow_natCast, ← zpow_natCast,
          ← zpow_add₀ (by norm_num), ← zpow_add₀ (by norm_num)]
        rfl
      _ ≤ largest := mul_le_mul_of_nonneg_right (by norm_num) (zpow_ten_pos _).le
  · rw [roundTo_of_onGrid (ha.mono hshort)] at hsize
    obtain ⟨s, n, rfl, hn⟩ := exists_natAbs_le (ha.mono hshort) hsize
    obtain ⟨k, rfl⟩ := hb
    rw [intCast_mul_eq_signed false] at hlt hne ⊢
    have hk : 0 < k.natAbs := by
      rw [Nat.pos_iff_ne_zero, Int.natAbs_ne_zero]
      rintro rfl
      simp [signed] at hne
    have hquotient : |signed s ((n : ℚ) * 10 ^ (-12 : ℤ)) /
        signed (if k = 0 then false else k < 0) (k.natAbs * 10 ^ other)| =
          (n : ℚ) / k.natAbs * 10 ^ (-12 - other) := by
      have hnonneg : ∀ (m : ℕ) (place : ℤ), (0 : ℚ) ≤ m * 10 ^ place := fun m place =>
        mul_nonneg (Nat.cast_nonneg m) (zpow_ten_pos place).le
      rw [abs_div, abs_signed, abs_signed, abs_of_nonneg (hnonneg _ _),
        abs_of_nonneg (hnonneg _ _), zpow_sub₀ (by norm_num), mul_div_mul_comm]
    rw [hquotient] at hlt ⊢
    have hbound := hapart.bounded
    exact div_le_largest_of_lt hk (hn.trans_lt (by norm_num)) (by omega) hlt

variable {place other : ℤ} {a b : Decimal}

/-- Nothing is signalled for the operands of a phrase. -/
theorem not_overflows_of_apart (operator : Operator) (hapart : Apart place other)
    (hagrid : OnGrid place a.value) (hbgrid : OnGrid other b.value)
    (habound : |a.value| ≤ 10 ^ (999999 : ℤ)) (hbbound : |b.value| ≤ 10 ^ (999999 : ℤ)) :
    ¬ Overflows operator a b := by
  intro hoverflows
  cases hoverflows with
  | left hleft => exact Decimal.not_overflows_of_le habound hleft
  | right _ hright => exact Decimal.not_overflows_of_le hbbound hright
  | quotient ha _ _ _ hsmall hlarge =>
      have hinside : |a.value / b.value| < 10 ^ (1000000 : ℤ) := by
        refine not_le.mp fun hbeyond => ?_
        have hfits : context.Fits (10 ^ (1000000 : ℤ)) := .zpow (by decide) (by decide)
        have hrounded := hfits.le_rounded (by decide) (zpow_ten_pos _).le hbeyond
        rw [rounded_abs] at hrounded
        exact absurd hrounded (not_le.mpr hsmall)
      have hle := abs_div_le_largest hapart hagrid hbgrid ha.bounded hinside
      exact absurd hlarge (not_le.mpr (abs_rounded_twice_lt hle))

end Calculation

end SpokenCalculator
