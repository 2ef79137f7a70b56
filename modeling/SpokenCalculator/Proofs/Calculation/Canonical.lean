import SpokenCalculator.Proofs.Calculation.Settling

namespace SpokenCalculator

/-- A last digit that is not zero keeps a number off all coarser grids. -/
theorem not_onGrid_of_mod_ten {coefficient : ℕ} {exponent place : ℤ} (hlast : coefficient % 10 ≠ 0)
    (hlt : exponent < place) : ¬ OnGrid place ((coefficient : ℚ) * 10 ^ exponent) := by
  rintro ⟨n, hn⟩
  obtain ⟨shift, rfl⟩ : ∃ shift : ℕ, place = exponent + (shift + 1 : ℕ) :=
    ⟨(place - exponent - 1).toNat, by omega⟩
  have hunit := zpow_ten_pos exponent
  have hmultiple : (coefficient : ℚ) = n * 10 ^ (shift + 1) := by
    rw [zpow_add₀ (by norm_num), zpow_natCast, mul_comm (10 ^ exponent), ← mul_assoc] at hn
    exact mul_right_cancel₀ hunit.ne' hn
  have hmultiple' : (coefficient : ℤ) = n * 10 ^ shift * 10 := by
    rw [mul_assoc, ← pow_succ]
    exact_mod_cast hmultiple
  omega

theorem onGrid_signed_iff {place : ℤ} (negative : Bool) (q : ℚ) :
    OnGrid place (signed negative q) ↔ OnGrid place q := by
  cases negative with
  | false => exact Iff.rfl
  | true =>
      constructor
      · intro h
        have := h.neg
        rwa [signed, if_pos rfl, neg_neg] at this
      · exact fun h => h.neg

namespace Decimal

variable {negative other : Bool} {coefficient coefficient' : ℕ} {exponent exponent' : ℤ}

theorem IsCanonical.exponent_nonpos (h : IsCanonical (.finite negative coefficient exponent)) :
    exponent ≤ 0 := by
  rcases h with ⟨_, _, hzero⟩ | ⟨_, hzero⟩ | ⟨_, _, hlow⟩ <;> omega

theorem IsCanonical.mod_ten_ne_zero (h : IsCanonical (.finite negative coefficient exponent))
    (hlow : exponent < 0) : coefficient % 10 ≠ 0 := by
  rcases h with ⟨_, _, hzero⟩ | ⟨_, hzero⟩ | ⟨hlast, _⟩
  · omega
  · omega
  · exact hlast

theorem IsCanonical.not_negative (h : IsCanonical (.finite negative 0 exponent)) :
    negative = false := by
  rcases h with ⟨_, hsign, _⟩ | ⟨hne, _⟩ | ⟨hlast, _⟩
  · exact hsign
  · exact absurd rfl hne
  · exact absurd rfl hlast

/-- Of two canonical numbers with one value none has the lower exponent. -/
theorem IsCanonical.exponent_le (h : IsCanonical (.finite negative coefficient exponent))
    (h' : IsCanonical (.finite other coefficient' exponent'))
    (hvalue : value (.finite negative coefficient exponent) =
      value (.finite other coefficient' exponent')) : exponent' ≤ exponent := by
  by_contra hlt
  push Not at hlt
  have hlast := h.mod_ten_ne_zero (hlt.trans_le h'.exponent_nonpos)
  refine not_onGrid_of_mod_ten hlast hlt ?_
  rw [← onGrid_signed_iff negative]
  change OnGrid exponent' (value (.finite negative coefficient exponent))
  rw [hvalue, value, onGrid_signed_iff]
  exact OnGrid.natCast_mul coefficient' exponent'

theorem IsCanonical.eq_of_value_eq {x y : Decimal} (hx : x.IsCanonical) (hy : y.IsCanonical)
    (hvalue : x.value = y.value) : x = y := by
  cases x with
  | infinite => exact hx.elim
  | notNumber => exact hx.elim
  | finite negative coefficient exponent =>
  cases y with
  | infinite => exact hy.elim
  | notNumber => exact hy.elim
  | finite other coefficient' exponent' =>
      have hexponent : exponent = exponent' :=
        le_antisymm (hy.exponent_le hx hvalue.symm) (hx.exponent_le hy hvalue)
      subst hexponent
      have hunit := zpow_ten_pos exponent
      have hnonneg : ∀ n : ℕ, (0 : ℚ) ≤ n * 10 ^ exponent := fun n => by positivity
      have hcoefficient : coefficient = coefficient' := by
        have habs := congrArg abs hvalue
        rw [value, value, abs_signed, abs_signed, abs_of_nonneg (hnonneg _),
          abs_of_nonneg (hnonneg _)] at habs
        exact_mod_cast mul_right_cancel₀ hunit.ne' habs
      subst hcoefficient
      rcases Nat.eq_zero_or_pos coefficient with rfl | hpos
      · rw [hx.not_negative, hy.not_negative]
      · have hmagnitude := Context.magnitude_pos hpos.ne' exponent
        cases negative <;> cases other <;> simp only [value, signed, if_true, if_false,
          Bool.false_eq_true] at hvalue
        · rfl
        · linarith
        · linarith
        · rfl

/-- The form of a number in memory, read off its value: an integer has no power
of ten, any other number has up to twelve places and no zero at the end, and
zero has no sign. -/
theorem Held.exists_form {x : Decimal} (h : x.Held) :
    ∃ negative coefficient exponent, x = .finite negative coefficient exponent ∧
      (OnGrid 0 x.value → exponent = 0) ∧
      (¬ OnGrid 0 x.value → -12 ≤ exponent ∧ exponent ≤ -1 ∧ coefficient % 10 ≠ 0) ∧
      (x.value = 0 → x = .zero) := by
  have hcanonical := h.canonical
  cases x with
  | infinite => exact hcanonical.elim
  | notNumber => exact hcanonical.elim
  | finite negative coefficient exponent =>
      have hinteger : OnGrid 0 (value (.finite negative coefficient exponent)) ↔ exponent = 0 := by
        rw [value, onGrid_signed_iff]
        constructor
        · intro hgrid
          by_contra hne
          have hlow : exponent < 0 := lt_of_le_of_ne hcanonical.exponent_nonpos hne
          exact not_onGrid_of_mod_ten (hcanonical.mod_ten_ne_zero hlow) hlow hgrid
        · rintro rfl
          exact OnGrid.natCast_mul coefficient 0
      refine ⟨negative, coefficient, exponent, rfl, hinteger.mp, fun hplaces => ?_, fun hzero => ?_⟩
      · rw [hinteger] at hplaces
        rcases hcanonical with ⟨_, _, hnone⟩ | ⟨_, hnone⟩ | ⟨hlast, hlow, hhigh⟩
        · exact absurd hnone hplaces
        · exact absurd hnone hplaces
        · exact ⟨hlow, by omega, hlast⟩
      · exact hcanonical.eq_of_value_eq held_zero.canonical (hzero.trans value_zero.symm)

end Decimal

end SpokenCalculator
