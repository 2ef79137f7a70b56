import SpokenCalculator.Proofs.Decimal.Operations

namespace SpokenCalculator

variable {context : Context}

namespace Context

theorem roundedAt_eq (context : Context) {place : ℤ} (hprecision : 0 < context.precision)
    (hleast : context.leastPlace ≤ place)
    (htop : place + context.precision ≤ context.maxExponent + 1) (negative : Bool)
    (coefficient : ℕ) (exponent : ℤ)
    (hroom : roundTo place (coefficient * 10 ^ exponent) < 10 ^ (place + context.precision)) :
    ∃ kept, context.roundedAt negative coefficient exponent place =
        .ok (.finite negative kept place) ∧
      (kept : ℚ) * 10 ^ place = roundTo place (coefficient * 10 ^ exponent) := by
  unfold roundedAt
  rw [if_neg (by omega)]
  split
  · rename_i hzero
    exact ⟨0, rfl, by simp [hzero]⟩
  · rename_i hne
    have hpos := magnitude_pos hne exponent
    have hbelow : (coefficient : ℚ) * 10 ^ exponent < 10 ^ (place + context.precision) := by
      by_contra hle
      exact not_le_of_gt hroom (le_roundTo (.zpow (by omega)) (not_lt.mp hle))
    have hleading : leadingExponent coefficient exponent < place + context.precision := by
      rw [leadingExponent_eq hne, ← Int.lt_zpow_iff_log_lt (by norm_num) hpos]
      exact_mod_cast hbelow
    dsimp only
    rw [if_neg (by omega)]
    set kept := if place ≤ exponent then coefficient * Nat.pow 10 (exponent - place).toNat
      else dropDigits coefficient (place - exponent).toNat with hkept
    have hvalue : (kept : ℚ) * 10 ^ place = roundTo place (coefficient * 10 ^ exponent) := by
      rw [hkept]
      split
      · rename_i hle
        have hpower : (10 : ℚ) ^ exponent = 10 ^ (exponent - place).toNat * 10 ^ place := by
          rw [← zpow_natCast, ← zpow_add₀ (by norm_num)]
          congr 1
          omega
        rw [roundTo_of_onGrid ((OnGrid.natCast_mul coefficient exponent).mono hle), hpower,
          natPow_eq]
        push_cast
        ring
      · exact dropDigits_mul_zpow coefficient (by omega)
    rw [← hvalue] at hroom
    have hdigits := digitCount_le_of_lt hprecision (lt_pow_of_mul_zpow_lt hroom)
    rw [if_neg]
    · exact ⟨kept, rfl, hvalue⟩
    · unfold leadingExponent
      omega

/-- A finite number is brought to a place by rounding it there, as long as there
is room for its digits. -/
theorem quantize_eq (context : Context) {place : ℤ} (hprecision : 0 < context.precision)
    (hleast : context.leastPlace ≤ place)
    (htop : place + context.precision ≤ context.maxExponent + 1) {x : Decimal} (hx : x.isFinite)
    (hroom : |roundTo place x.value| < 10 ^ (place + context.precision)) (sign : Bool)
    (unit : ℕ) :
    ∃ negative kept, context.quantize x (.finite sign unit place) =
        .ok (.finite negative kept place) ∧
      Decimal.value (.finite negative kept place) = roundTo place x.value := by
  obtain ⟨negative, coefficient, exponent, rfl⟩ := Decimal.exists_eq_finite hx
  rw [Decimal.value, roundTo_signed, abs_signed,
    abs_of_nonneg (roundTo_nonneg (magnitude_nonneg coefficient exponent))] at hroom
  obtain ⟨kept, hok, hkept⟩ :=
    roundedAt_eq context hprecision hleast htop negative coefficient exponent hroom
  exact ⟨negative, kept, hok, by rw [Decimal.value, Decimal.value, roundTo_signed, hkept]⟩

theorem stripZeros_mod_ten {coefficient : ℕ} (hne : coefficient ≠ 0) (exponent : ℤ) {most : ℕ}
    (hmost : coefficient < 10 ^ most) : (stripZeros coefficient exponent most).1 % 10 ≠ 0 := by
  induction most generalizing coefficient exponent with
  | zero =>
      rw [pow_zero] at hmost
      omega
  | succ most ih =>
      rw [stripZeros]
      split
      · rw [pow_succ] at hmost
        exact ih (by omega) _ (by omega)
      · assumption

theorem le_stripZeros_exponent (coefficient : ℕ) (exponent : ℤ) (most : ℕ) :
    exponent ≤ (stripZeros coefficient exponent most).2 := by
  induction most generalizing coefficient exponent with
  | zero => exact le_rfl
  | succ most ih =>
      rw [stripZeros]
      split
      · have := ih (coefficient / 10) (exponent + 1)
        omega
      · exact le_rfl

/-- A number that fits is reduced to one of the same value whose last digit is
not zero. -/
theorem reduce_eq (context : Context) {coefficient : ℕ} {exponent : ℤ} (hne : coefficient ≠ 0)
    (hdigits : digitCount coefficient ≤ context.precision) (hleast : context.leastPlace ≤ exponent)
    (htop : exponent + digitCount coefficient ≤ context.maxExponent) (negative : Bool) :
    ∃ kept place, context.reduce (.finite negative coefficient exponent) =
        .ok (.finite negative kept place) ∧
      (kept : ℚ) * 10 ^ place = coefficient * 10 ^ exponent ∧ kept % 10 ≠ 0 ∧ exponent ≤ place := by
  have hround : context.round negative coefficient exponent =
      .ok (.finite negative coefficient exponent) := by
    rw [round, if_neg hne, roundingPlace]
    dsimp only
    rw [if_neg (by omega), bounded, if_neg]
    unfold leadingExponent
    omega
  have hmost : min (digitCount coefficient) (context.maxExponent - exponent).toNat =
      digitCount coefficient := by
    omega
  refine ⟨_, _, ?_, stripZeros_value coefficient exponent (digitCount coefficient),
    stripZeros_mod_ten hne exponent (lt_pow_digitCount coefficient),
    le_stripZeros_exponent coefficient exponent _⟩
  simp only [reduce, hround]
  change (if coefficient = 0 then _ else _) = _
  rw [if_neg hne, hmost]
  rfl

end Context

theorem Decimal.isIntegral_iff (negative : Bool) (coefficient : ℕ) (exponent : ℤ) :
    isIntegral (.finite negative coefficient exponent) ↔
      OnGrid 0 ((coefficient : ℚ) * 10 ^ exponent) := by
  rcases le_or_gt 0 exponent with hle | hlt
  · have hgrid : OnGrid 0 ((coefficient : ℚ) * 10 ^ exponent) :=
      (OnGrid.natCast_mul coefficient exponent).mono hle
    simp [isIntegral, hle, hgrid]
  · obtain ⟨places, rfl⟩ : ∃ places : ℕ, exponent = -places := ⟨(-exponent).toNat, by omega⟩
    have hdivides : OnGrid 0 ((coefficient : ℚ) * 10 ^ (-(places : ℤ))) ↔
        10 ^ places ∣ coefficient := by
      rw [zpow_neg, zpow_natCast, ← div_eq_mul_inv]
      constructor
      · rintro ⟨n, hn⟩
        rw [zpow_zero, mul_one, div_eq_iff (by positivity)] at hn
        have hmultiple : (coefficient : ℤ) = n * 10 ^ places := by exact_mod_cast hn
        exact Int.natCast_dvd_natCast.mp (by
          push_cast
          exact Dvd.intro_left n hmultiple.symm)
      · rintro ⟨n, rfl⟩
        refine ⟨n, ?_⟩
        push_cast
        rw [mul_div_cancel_left₀ _ (by positivity)]
        simp
    have hplaces : (- -(places : ℤ)).toNat = places := by omega
    rw [hdivides, isIntegral, hplaces]
    simp only [Bool.or_eq_true, Bool.and_eq_true, beq_iff_eq, decide_eq_true_eq, natPow_eq,
      ← Nat.dvd_iff_mod_eq_zero]
    constructor
    · rintro ((rfl | hle) | ⟨_, hdvd⟩)
      · exact dvd_zero _
      · omega
      · exact hdvd
    · intro hdvd
      rcases Nat.eq_zero_or_pos coefficient with hzero | hpos
      · exact Or.inl (Or.inl hzero)
      · have hlow : 10 ^ places ≤ coefficient := Nat.le_of_dvd hpos hdvd
        exact Or.inr ⟨((lt_digitCount_iff hpos.ne').mpr hlow).le, hdvd⟩

end SpokenCalculator
