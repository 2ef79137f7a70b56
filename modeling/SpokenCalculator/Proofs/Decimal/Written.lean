import SpokenCalculator.Proofs.Decimal.Operations
import SpokenCalculator.Proofs.Decimal.Row

namespace SpokenCalculator.Decimal

/-- A number that can be written in a text of the given size. -/
structure WrittenIn (size : ℕ) (x : Decimal) : Prop where
  isFinite : x.isFinite
  onGrid : OnGrid (1 - size) x.value
  bounded : |x.value| ≤ 10 ^ max size 28

variable {size : ℕ} {x : Decimal}

theorem WrittenIn.mono {larger : ℕ} (h : x.WrittenIn size) (hle : size ≤ larger) :
    x.WrittenIn larger where
  isFinite := h.isFinite
  onGrid := h.onGrid.mono (by omega)
  bounded := h.bounded.trans (pow_le_pow_right₀ (by norm_num) (by omega))

theorem abs_value_places_le {places coefficient whole : ℕ}
    (hcoefficient : coefficient < 10 ^ (whole + places)) :
    |value (.finite false coefficient (-places))| ≤ 10 ^ whole := by
  have hvalue : value (.finite false coefficient (-places)) =
      (coefficient : ℚ) * 10 ^ (-places : ℤ) := rfl
  have hbound : (coefficient : ℚ) ≤ 10 ^ whole * 10 ^ places := by
    rw [← pow_add]
    exact_mod_cast hcoefficient.le
  rwa [hvalue, abs_of_nonneg (by positivity), zpow_neg, zpow_natCast, ← div_eq_mul_inv,
    div_le_iff₀ (by positivity)]

theorem writtenIn_finite (places : ℕ) {coefficient whole : ℕ} (hplaces : places < size)
    (hwhole : whole ≤ max size 28) (hcoefficient : coefficient < 10 ^ (whole + places)) :
    WrittenIn size (.finite false coefficient (-places)) where
  isFinite := rfl
  onGrid := (OnGrid.natCast_mul coefficient (-places)).mono (by omega)
  bounded :=
    (abs_value_places_le hcoefficient).trans (pow_le_pow_right₀ (by norm_num) hwhole)

theorem writtenIn_zero (size : ℕ) : WrittenIn size (.ofNat 0) := by
  have hvalue : (Decimal.ofNat 0).value = 0 := value_zero
  refine ⟨rfl, ?_, ?_⟩
  · rw [hvalue]
    exact .zero _
  · rw [hvalue, abs_zero]
    positivity

open Context in
/-- Numbers of a text below a million characters never leave the range when
their sign changes. -/
theorem WrittenIn.negate (h : x.WrittenIn size) (hsize : size < 1000000) :
    ∃ y, Context.standard.negate x = .ok y ∧ y.WrittenIn size := by
  have hfits : Context.standard.Fits (10 ^ ((max size 28 : ℕ) : ℤ)) :=
    .zpow ((by decide : Context.standard.leastPlace ≤ 0).trans (Int.natCast_nonneg _)) (by decide)
  have hrounded : |Context.standard.rounded (-x.value)| ≤ 10 ^ ((max size 28 : ℕ) : ℤ) := by
    rw [← rounded_abs, abs_neg]
    refine hfits.rounded_le (abs_nonneg _) ?_
    exact_mod_cast h.bounded
  have hrounds : Context.standard.RoundsTo (-x.value) (Context.standard.negate x) :=
    negate_roundsTo (by decide) h.isFinite
  rcases hrounds with
    ⟨y, hok, hfinite, hvalue, _⟩ | ⟨_, hlarge⟩
  · refine ⟨y, hok, hfinite, ?_, ?_⟩
    · rw [hvalue]
      exact onGrid_rounded _ h.onGrid.neg
    · rw [hvalue]
      exact_mod_cast hrounded
  · have hbeyond : (10 : ℚ) ^ ((max size 28 : ℕ) : ℤ) < Context.standard.beyond :=
      zpow_lt_beyond (by change ((max size 28 : ℕ) : ℤ) ≤ 999999; omega)
    exact absurd (hlarge.trans hrounded) (not_le.mpr hbeyond)

end SpokenCalculator.Decimal
