import SpokenCalculator.Proofs.Decimal.Form

namespace SpokenCalculator

/-- The form in which numbers are kept: zero without sign, integers without a
power of ten, and other numbers with at most twelve places and without zeros at
the end. -/
def Decimal.IsCanonical : Decimal → Prop
  | .finite negative coefficient exponent =>
      (coefficient = 0 ∧ negative = false ∧ exponent = 0) ∨ (coefficient ≠ 0 ∧ exponent = 0) ∨
        (coefficient % 10 ≠ 0 ∧ -12 ≤ exponent ∧ exponent < 0)
  | _ => False

/-- A number that memory can hold, however it is written. -/
structure Decimal.Storable (x : Decimal) : Prop where
  isFinite : x.isFinite
  onGrid : OnGrid (-12) x.value
  bounded : |x.value| ≤ 10 ^ 15

structure Decimal.Held (x : Decimal) : Prop extends x.Storable where
  canonical : x.IsCanonical

theorem Decimal.held_zero : Decimal.zero.Held where
  isFinite := rfl
  onGrid := by
    rw [value_zero]
    exact OnGrid.zero (-12)
  bounded := by
    rw [value_zero, abs_zero]
    positivity
  canonical := Or.inl ⟨rfl, rfl, rfl⟩

theorem Decimal.storable_ofNat {n : ℕ} (hbounded : n ≤ 10 ^ 15) : (Decimal.ofNat n).Storable := by
  have hvalue : (Decimal.ofNat n).value = n := by simp [ofNat, value, signed]
  refine ⟨rfl, ?_, ?_⟩
  · rw [hvalue]
    exact OnGrid.mono ⟨n, by simp⟩ (by norm_num : (-12 : ℤ) ≤ 0)
  · rw [hvalue, Nat.abs_cast]
    exact_mod_cast hbounded

namespace Calculation

open Context

/-- The limit is a number of the standard precision and of the places that are
kept, so neither rounding passes it; between it and the next power of ten both
round to the same place. -/
theorem limit_lt_rounded_iff (q : ℚ) :
    10 ^ 15 < |Context.standard.rounded q| ↔ 10 ^ 15 < |roundTo (-12) q| := by
  rw [← rounded_abs, ← roundTo_abs]
  have hnonneg := abs_nonneg q
  have hfits : ∀ place : ℕ, Context.standard.Fits (10 ^ place) := fun place => by
    have hleast : Context.standard.leastPlace ≤ place :=
      (by decide : Context.standard.leastPlace ≤ 0).trans (Int.natCast_nonneg place)
    exact_mod_cast Fits.zpow hleast (by decide)
  have hgrid : ∀ place : ℕ, OnGrid (-12) (10 ^ place) := fun place => by
    have : OnGrid (-12) ((10 : ℚ) ^ (place : ℤ)) := .zpow (by omega)
    simpa using this
  rcases le_or_gt |q| (10 ^ 15) with hlow | hhigh
  · have hrounded := (hfits 15).rounded_le hnonneg hlow
    have hplaces := roundTo_le (hgrid 15) hlow
    constructor <;> intro hlt <;> linarith
  · rcases le_or_gt (10 ^ 16) |q| with hfar | hnear
    · have hrounded := (hfits 16).le_rounded (by decide) (by positivity) hfar
      have hplaces := le_roundTo (hgrid 16) hfar
      constructor <;> intro _ <;> linarith
    · have hlog : Int.log 10 |q| = 15 := by
        refine le_antisymm (Int.lt_add_one_iff.mp ?_) ?_
        · rw [← Int.lt_zpow_iff_log_lt (by norm_num) (by linarith)]
          exact_mod_cast hnear
        · rw [← Int.zpow_le_iff_le_log (by norm_num) (by linarith)]
          exact_mod_cast hhigh.le
      have hlast : Context.standard.lastPlace |q| = -12 := by
        rw [lastPlace, abs_abs, hlog]
        decide
      rw [Context.rounded, hlast]

theorem checkRange_eq {x : Decimal} (hfinite : x.isFinite) :
    checkRange x =
      if Context.standard.beyond ≤ |Context.standard.rounded x.value| then
        .error (.signal .overflow)
      else if 10 ^ 15 < |roundTo (-12) x.value| then .error (.tooLarge x) else .ok () := by
  rw [checkRange, hfinite]
  have hrounds : Context.standard.RoundsTo |x.value| (Context.standard.absolute x) :=
    absolute_roundsTo (by decide) hfinite
  rcases hrounds with
    ⟨size, hok, hsize, hvalue, hsmall⟩ | ⟨herror, hlarge⟩
  · rw [rounded_abs, abs_abs] at hsmall
    have hlimit : exceedsLimit size ↔ 10 ^ 15 < |roundTo (-12) x.value| := by
      rw [exceedsLimit_iff hsize, hvalue, rounded_abs, abs_abs, limit_lt_rounded_iff]
    simp only [hok, Bool.not_true, Bool.false_eq_true, if_false, hlimit]
    rw [if_neg (not_le.mpr hsmall)]
  · rw [rounded_abs, abs_abs] at hlarge
    rw [herror, if_pos hlarge]
    rfl

theorem quantize_quantum {x : Decimal} (hfinite : x.isFinite)
    (hbounded : |roundTo (-12) x.value| ≤ 10 ^ 15) :
    ∃ negative kept, context.quantize x quantum = .ok (.finite negative kept (-12)) ∧
      Decimal.value (.finite negative kept (-12)) = roundTo (-12) x.value := by
  have hroom : |roundTo (-12) x.value| < 10 ^ (-12 + 40 : ℤ) := hbounded.trans_lt (by norm_num)
  exact quantize_eq context (by decide) (by decide) (by decide) hfinite hroom false 1

theorem canonical_eq (negative : Bool) {kept : ℕ} (hne : kept ≠ 0)
    (hbounded : (kept : ℚ) * 10 ^ (-12 : ℤ) ≤ 10 ^ 15) :
    ∃ x, canonical (.finite negative kept (-12)) = .ok x ∧ x.isFinite ∧ x.IsCanonical ∧
      x.value = Decimal.value (.finite negative kept (-12)) := by
  unfold canonical
  split
  · rename_i hintegral
    rw [Decimal.isIntegral_iff] at hintegral
    have hself := roundTo_of_onGrid hintegral
    have hroom : roundTo 0 ((kept : ℚ) * 10 ^ (-12 : ℤ)) < 10 ^ (0 + 40 : ℤ) := by
      rw [hself]
      exact hbounded.trans_lt (by norm_num)
    obtain ⟨whole, hok, hwhole⟩ := roundedAt_eq context (by decide) (by decide) (by decide)
      negative kept (-12) hroom
    rw [hself] at hwhole
    have hpos : whole ≠ 0 := by
      rintro rfl
      have := magnitude_pos hne (-12)
      simp at hwhole
      exact hne hwhole
    exact ⟨_, hok, rfl, Or.inr (Or.inl ⟨hpos, rfl⟩), by rw [Decimal.value, Decimal.value, hwhole]⟩
  · rename_i hintegral
    rw [Decimal.isIntegral_iff] at hintegral
    have hkept : kept < 10 ^ 28 := by
      have : (kept : ℚ) < 10 ^ 28 := by
        rw [zpow_neg, ← div_eq_mul_inv, div_le_iff₀ (by positivity)] at hbounded
        exact hbounded.trans_lt (by norm_num)
      exact_mod_cast this
    have hdigits : digitCount kept ≤ 28 := digitCount_le_of_lt (by norm_num) hkept
    obtain ⟨stripped, place, hok, hvalue, hlast, hplace⟩ :=
      reduce_eq context hne (hdigits.trans (by decide)) (by decide : context.leastPlace ≤ -12)
        (by change -12 + (digitCount kept : ℤ) ≤ 999999; omega) negative
    have hnegative : place < 0 := by
      by_contra hle
      rw [← hvalue] at hintegral
      exact hintegral ((OnGrid.natCast_mul stripped place).mono (not_lt.mp hle))
    exact ⟨_, hok, rfl, Or.inr (Or.inr ⟨hlast, hplace, hnegative⟩),
      by rw [Decimal.value, Decimal.value, hvalue]⟩

variable {x : Decimal} (hfinite : x.isFinite) (hbounded : |roundTo (-12) x.value| ≤ 10 ^ 15)

include hfinite hbounded

theorem settle_eq_tooSmall (hzero : roundTo (-12) x.value = 0) (hne : x.value ≠ 0) :
    settle x = .error (.tooSmall x) := by
  obtain ⟨negative, kept, hok, hvalue⟩ := quantize_quantum hfinite hbounded
  have hkept : Decimal.isZero (.finite negative kept (-12)) := by
    rw [Decimal.isZero_iff rfl, hvalue, hzero]
  have hexact : ¬ x.isZero := by rwa [Decimal.isZero_iff hfinite]
  simp only [settle, hok, Except.mapError, bind, Except.bind, hkept, hexact, if_true,
    Bool.false_eq_true, if_false]
  rfl

/-- Any other result within the limit is kept, rounded to its places. -/
theorem exists_settle_eq (hlarge : roundTo (-12) x.value = 0 → x.value = 0) :
    ∃ result : Decimal, settle x = .ok result ∧ result.Held ∧
      result.value = roundTo (-12) x.value := by
  obtain ⟨negative, kept, hok, hvalue⟩ := quantize_quantum hfinite hbounded
  rcases Nat.eq_zero_or_pos kept with rfl | hpos
  · have hzero : roundTo (-12) x.value = 0 := by
      rw [← hvalue]
      simp [Decimal.value]
    have hkept : Decimal.isZero (.finite negative 0 (-12)) := rfl
    have hexact : x.isZero := (Decimal.isZero_iff hfinite).mpr (hlarge hzero)
    refine ⟨.zero, ?_, Decimal.held_zero, by rw [Decimal.value_zero, hzero]⟩
    simp only [settle, hok, Except.mapError, bind, Except.bind, hkept, hexact, if_true]
    rfl
  · have hkept : Decimal.isZero (.finite negative kept (-12)) = false := by
      simp [Decimal.isZero, hpos.ne']
    have hsize : (kept : ℚ) * 10 ^ (-12 : ℤ) ≤ 10 ^ 15 := by
      rw [← hvalue, Decimal.value, abs_signed, abs_of_pos (magnitude_pos hpos.ne' _)] at hbounded
      exact hbounded
    obtain ⟨result, hresult, hfinite', hform, hsame⟩ := canonical_eq negative hpos.ne' hsize
    rw [hvalue] at hsame
    refine ⟨result, ?_, ⟨⟨hfinite', ?_, ?_⟩, hform⟩, hsame⟩
    · simp only [settle, hok, Except.mapError, bind, Except.bind, hkept, Bool.false_eq_true,
        if_false, hresult]
    · rw [hsame]
      exact onGrid_roundTo _ _
    · rwa [hsame]

end Calculation

end SpokenCalculator
