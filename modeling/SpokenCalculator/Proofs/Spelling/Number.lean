import SpokenCalculator.Proofs.Calculation.Settling
import SpokenCalculator.Proofs.Spelling.Words

namespace SpokenCalculator.Spelling

open Context

/-- A number that was reduced: not zero, of the standard precision, and with
words for its whole part. -/
structure Reduced (coefficient : ℕ) (exponent : ℤ) : Prop where
  last_ne : coefficient % 10 ≠ 0
  coefficient_lt : coefficient < 10 ^ 28
  bounded : (coefficient : ℚ) * 10 ^ exponent < 2000 * 10 ^ 15

variable {coefficient : ℕ} {exponent : ℤ}

theorem exponent_lt_of_bounded (hne : coefficient ≠ 0)
    (hbounded : (coefficient : ℚ) * 10 ^ exponent < 2000 * 10 ^ 15) : exponent < 19 := by
  have hone : (1 : ℚ) ≤ coefficient := by exact_mod_cast Nat.one_le_iff_ne_zero.mpr hne
  have hpower : (10 : ℚ) ^ exponent < 10 ^ (19 : ℤ) :=
    (le_mul_of_one_le_left (zpow_ten_pos exponent).le hone).trans_lt
      (hbounded.trans (by norm_num))
  exact (zpow_lt_zpow_iff_right₀ (by norm_num)).mp hpower

theorem coefficient_lt_of_bounded (hplaces : -12 ≤ exponent)
    (hbounded : (coefficient : ℚ) * 10 ^ exponent ≤ 10 ^ 15) : coefficient < 10 ^ 28 := by
  have hunit : (10 : ℚ) ^ (-12 : ℤ) ≤ 10 ^ exponent := zpow_le_zpow_right₀ (by norm_num) hplaces
  have hproduct := (mul_le_mul_of_nonneg_left hunit (Nat.cast_nonneg coefficient)).trans hbounded
  rw [zpow_neg, ← div_eq_mul_inv, div_le_iff₀ (by positivity)] at hproduct
  have : (coefficient : ℚ) < 10 ^ 28 := hproduct.trans_lt (by norm_num)
  exact_mod_cast this

theorem wholePart_add_fractionPart (coefficient : ℕ) (exponent : ℤ) :
    (wholePart coefficient exponent : ℚ) +
      fractionPart coefficient exponent / 10 ^ (-exponent).toNat = coefficient * 10 ^ exponent := by
  unfold wholePart fractionPart
  by_cases hle : 0 ≤ exponent
  · obtain ⟨power, rfl⟩ : ∃ power : ℕ, exponent = power := ⟨exponent.toNat, by omega⟩
    rw [if_pos hle, if_pos hle, Int.toNat_natCast, zpow_natCast]
    push_cast
    simp
  · obtain ⟨places, rfl⟩ : ∃ places : ℕ, exponent = -places := ⟨(-exponent).toNat, by omega⟩
    have hsplit : (10 ^ places * (coefficient / 10 ^ places) + coefficient % 10 ^ places : ℕ) =
        coefficient := Nat.div_add_mod _ _
    have hcast : (10 : ℚ) ^ places * (coefficient / 10 ^ places : ℕ) +
        (coefficient % 10 ^ places : ℕ) = coefficient := by
      exact_mod_cast hsplit
    rw [if_neg hle, if_neg hle, neg_neg, Int.toNat_natCast, zpow_neg, zpow_natCast,
      ← div_eq_mul_inv, eq_div_iff (by positivity), add_mul,
      div_mul_cancel₀ _ (by positivity), mul_comm, hcast]

theorem wholePart_le (coefficient : ℕ) (exponent : ℤ) :
    (wholePart coefficient exponent : ℚ) ≤ coefficient * 10 ^ exponent := by
  rw [← wholePart_add_fractionPart]
  exact le_add_of_nonneg_right (by positivity)

namespace Reduced

theorem coefficient_ne (h : Reduced coefficient exponent) : coefficient ≠ 0 := by
  rintro rfl
  exact h.last_ne rfl

theorem wholePart_lt (h : Reduced coefficient exponent) :
    wholePart coefficient exponent < 2000 * 10 ^ 15 := by
  have hbounded := (wholePart_le coefficient exponent).trans_lt h.bounded
  exact_mod_cast hbounded

theorem length_lt (h : Reduced coefficient exponent) :
    (digitRow coefficient).length + exponent.toNat < Numeral.digitLimit := by
  have hexponent := exponent_lt_of_bounded h.coefficient_ne h.bounded
  have hlength := length_digitRow_le (by norm_num) h.coefficient_lt
  unfold Numeral.digitLimit
  omega

theorem finite_eq (h : Reduced coefficient exponent) (negative : Bool) :
    finite negative coefficient exponent =
      .ok (signText negative ++ " ".intercalate (naturalList (wholePart coefficient exponent)) ++
        fractionText (digitParts coefficient exponent).2) :=
  Spelling.finite_eq negative h.wholePart_lt h.length_lt

end Reduced

theorem powerOfTen_eq {places : ℤ} (hlow : 0 ≤ places) (hhigh : places ≤ 999999) :
    Context.standard.powerOfTen (-places) = .ok (.finite false 1 (-places)) := by
  have hdigits : digitCount 1 = 1 := by
    rw [digitCount_eq]
    norm_num
  have hprecision : Context.standard.precision = 28 := rfl
  have hleast : Context.standard.leastPlace = -1000026 := rfl
  have hmost : Context.standard.maxExponent = 999999 := rfl
  have hplace : ¬ -places < Context.standard.roundingPlace 1 (-places) := by
    rw [roundingPlace, hdigits, hprecision, hleast]
    omega
  rw [powerOfTen, if_neg (by rw [hprecision, hmost]; omega), Context.round, if_neg one_ne_zero]
  dsimp only
  rw [if_neg hplace, bounded, leadingExponent, hdigits, hmost, if_neg (by omega)]

/-- Rounding for speech gives the rounded number, or the number itself when it
would vanish, as long as there is room for its digits. -/
theorem roundFor_cases {x : Decimal} (hx : x.isFinite) {places : ℤ} (hlow : 0 ≤ places)
    (hhigh : places ≤ 999999) (hroom : |roundTo (-places) x.value| < 10 ^ (-places + 28)) :
    (∃ negative kept, roundFor x places = .ok (.finite negative kept (-places)) ∧
      Decimal.value (.finite negative kept (-places)) = roundTo (-places) x.value ∧
      (kept = 0 → x.value = 0)) ∨
    (roundFor x places = .ok x ∧ roundTo (-places) x.value = 0 ∧ x.value ≠ 0) := by
  obtain ⟨negative, kept, hok, hvalue⟩ := quantize_eq Context.standard (by decide)
    (by change (-1000026 : ℤ) ≤ _; omega) (by change _ + (28 : ℤ) ≤ 1000000; omega) hx hroom false 1
  have hround : roundFor x places =
      .ok (if Decimal.isZero (.finite negative kept (-places)) && !x.isZero then x
        else .finite negative kept (-places)) := by
    simp only [roundFor, powerOfTen_eq hlow hhigh, hok, bind, Except.bind]
    rfl
  have hzero := Decimal.isZero_iff hx
  have hvanishes : Decimal.isZero (.finite negative kept (-places)) ↔
      Decimal.value (.finite negative kept (-places)) = 0 := Decimal.isZero_iff rfl
  rw [hround]
  split
  · rename_i htiny
    simp only [Bool.and_eq_true, Bool.not_eq_true', ← Bool.not_eq_true] at htiny
    rw [hvanishes, hzero, hvalue] at htiny
    exact Or.inr ⟨rfl, htiny⟩
  · rename_i hlarge
    refine Or.inl ⟨negative, kept, rfl, hvalue, ?_⟩
    rintro rfl
    by_contra hne
    rw [← hzero, Bool.not_eq_true] at hne
    refine hlarge ?_
    rw [hne]
    rfl

/-- There is room for the places that are spoken of a number of memory. -/
theorem roundTo_lt_of_storable {x : Decimal} (hx : x.Storable) {places : ℤ} (hlow : 0 ≤ places)
    (hhigh : places ≤ 12) : |roundTo (-places) x.value| < 10 ^ (-places + 28) := by
  have hgrid : OnGrid (-places) ((10 : ℚ) ^ (15 : ℤ)) := .zpow (by omega)
  have hbounded : |x.value| ≤ 10 ^ (15 : ℤ) := by exact_mod_cast hx.bounded
  rw [← roundTo_abs]
  exact (roundTo_le hgrid hbounded).trans_lt (zpow_lt_zpow_right₀ (by norm_num) (by omega))

/-- What is left of a rounded number once the zeros at its end are removed. -/
theorem number_of_roundFor {x : Decimal} {places place : ℤ} {negative : Bool} {kept : ℕ}
    (hround : roundFor x places = .ok (.finite negative kept place)) (hne : kept ≠ 0)
    (hkept : kept < 10 ^ 28) (hplace : Context.standard.leastPlace ≤ place)
    (hbounded : (kept : ℚ) * 10 ^ place < 2000 * 10 ^ 15) :
    ∃ coefficient exponent, number x places = finite negative coefficient exponent ∧
      Reduced coefficient exponent ∧
        (coefficient : ℚ) * 10 ^ exponent = kept * 10 ^ place ∧ place ≤ exponent := by
  have hdigits : digitCount kept ≤ 28 := digitCount_le_of_lt (by norm_num) hkept
  have hexponent := exponent_lt_of_bounded hne hbounded
  obtain ⟨coefficient, exponent, hreduce, hvalue, hlast, hle⟩ :=
    reduce_eq Context.standard hne hdigits hplace (by change _ ≤ (999999 : ℤ); omega) negative
  have hzero : Decimal.isZero (.finite negative kept place) = false := by
    simp [Decimal.isZero, hne]
  have hcoefficient : coefficient ≤ kept := by
    have hpower : (10 : ℚ) ^ place ≤ 10 ^ exponent := zpow_le_zpow_right₀ (by norm_num) hle
    have hnonneg : (0 : ℚ) ≤ coefficient := Nat.cast_nonneg coefficient
    have hproduct := mul_le_mul_of_nonneg_left hpower hnonneg
    rw [hvalue] at hproduct
    exact_mod_cast le_of_mul_le_mul_right hproduct (zpow_ten_pos place)
  refine ⟨coefficient, exponent, ?_, ⟨hlast, hcoefficient.trans_lt hkept, by rwa [hvalue]⟩,
    hvalue, hle⟩
  simp only [number, hround, hreduce, hzero, Except.mapError, bind, Except.bind,
    Bool.false_eq_true, if_false]

theorem number_of_isZero {x : Decimal} {places place : ℤ} {negative : Bool}
    (hround : roundFor x places = .ok (.finite negative 0 place)) :
    number x places = .ok (smallWord 0) := by
  simp only [number, hround, Except.mapError, bind, Except.bind]
  rfl

/-- Every number of memory is spelled, whatever number of its places is
spoken. -/
theorem exists_number_eq {x : Decimal} (hx : x.Held) {places : ℤ} (hlow : 0 ≤ places)
    (hhigh : places ≤ 12) : ∃ words, number x places = .ok words := by
  have hspelled : ∀ {negative : Bool} {kept : ℕ} {place : ℤ},
      roundFor x places = .ok (.finite negative kept place) → -12 ≤ place →
        |Decimal.value (.finite negative kept place)| ≤ 10 ^ 15 →
          ∃ words, number x places = .ok words := by
    intro negative kept place hround hplace hbounded
    rcases Nat.eq_zero_or_pos kept with rfl | hpos
    · exact ⟨_, number_of_isZero hround⟩
    · rw [Decimal.abs_value_finite] at hbounded
      obtain ⟨coefficient, exponent, hnumber, hreduced, -⟩ :=
        number_of_roundFor hround hpos.ne' (coefficient_lt_of_bounded hplace hbounded)
          ((by decide : Context.standard.leastPlace ≤ -12).trans hplace)
          (hbounded.trans_lt (by norm_num))
      exact ⟨_, hnumber.trans (hreduced.finite_eq negative)⟩
  have hroom := roundTo_lt_of_storable hx.toStorable hlow hhigh
  rcases roundFor_cases hx.isFinite hlow (hhigh.trans (by norm_num)) hroom with
    ⟨negative, kept, hround, hvalue, _⟩ | ⟨hround, _, hne⟩
  · refine hspelled hround (by omega) ?_
    have hgrid : OnGrid (-places) ((10 : ℚ) ^ (15 : ℤ)) := .zpow (by omega)
    rw [hvalue, ← roundTo_abs]
    exact_mod_cast roundTo_le hgrid (by exact_mod_cast hx.bounded)
  · have hcanonical := hx.canonical
    have hbounded := hx.bounded
    cases x with
    | finite negative coefficient exponent =>
        refine hspelled hround ?_ hbounded
        rcases hcanonical with ⟨_, _, rfl⟩ | ⟨_, rfl⟩ | ⟨_, hle, _⟩
        · norm_num
        · norm_num
        · exact hle
    | infinite => exact hcanonical.elim
    | notNumber => exact hcanonical.elim

end SpokenCalculator.Spelling
