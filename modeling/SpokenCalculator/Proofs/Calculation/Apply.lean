import SpokenCalculator.Proofs.Calculation.DoubleRounding

namespace SpokenCalculator

namespace Calculation

open Context

theorem apply_of_checked {operator : Operator} {a b exact : Decimal} (ha : checkRange a = .ok ())
    (hb : checkRange b = .ok ()) (hzero : ¬(operator = .divide ∧ b.isZero))
    (hexact : exactResult operator a b = .ok exact) :
    apply operator a b = checkRange exact >>= fun _ => settle exact := by
  simp only [apply, ha, hb, hexact, if_neg hzero]
  rfl

theorem apply_divide_zero {a b : Decimal} (ha : checkRange a = .ok ()) (hb : checkRange b = .ok ())
    (hzero : b.isZero) : apply .divide a b = .error .divisionByZero := by
  simp only [apply, ha, hb, hzero, and_self, if_true]
  rfl

theorem checkRange_eq_of_abs_le {x : Decimal} (hfinite : x.isFinite)
    (hbound : |x.value| ≤ 10 ^ (999999 : ℤ)) :
    checkRange x = if 10 ^ 15 < |roundTo (-12) x.value| then .error (.tooLarge x) else .ok () := by
  have hfits : Context.standard.Fits (10 ^ (999999 : ℤ)) := .zpow (by decide) (by decide)
  have hrounded : |Context.standard.rounded x.value| ≤ 10 ^ (999999 : ℤ) := by
    rw [← rounded_abs]
    exact hfits.rounded_le (abs_nonneg _) hbound
  have hbeyond : (10 : ℚ) ^ (999999 : ℤ) < Context.standard.beyond := zpow_lt_beyond (by decide)
  rw [checkRange_eq hfinite, if_neg (not_le.mpr (hrounded.trans_lt hbeyond))]

theorem pow_le_zpow_maxExponent {exponent : ℕ} (h : exponent ≤ 999999) :
    (10 : ℚ) ^ exponent ≤ 10 ^ (999999 : ℤ) := by
  rw [← zpow_natCast]
  exact zpow_le_zpow_right₀ (by norm_num) (by exact_mod_cast h)

theorem checkRange_of_storable {x : Decimal} (hx : x.Storable) : checkRange x = .ok () := by
  rw [checkRange_eq_of_abs_le hx.isFinite
      (hx.bounded.trans (pow_le_zpow_maxExponent (by norm_num))),
    roundTo_of_onGrid hx.onGrid, if_neg (not_lt.mpr hx.bounded)]

/-- What reaches the power of ten behind the limit is not rounded below it,
neither to forty digits nor to the places that are kept. -/
theorem pow_le_abs_rounded {q : ℚ} (h : 10 ^ 16 ≤ |q|) : 10 ^ 16 ≤ |context.rounded q| := by
  have hfits : context.Fits (10 ^ (16 : ℤ)) := .zpow (by decide) (by decide)
  rw [← rounded_abs]
  exact_mod_cast hfits.le_rounded (by decide) (by positivity) (by exact_mod_cast h)

theorem pow_le_abs_roundTo {q : ℚ} (h : 10 ^ 16 ≤ |q|) : 10 ^ 16 ≤ |roundTo (-12) q| := by
  have hgrid : OnGrid (-12) (10 ^ (16 : ℤ)) := .zpow (by norm_num)
  rw [← roundTo_abs]
  exact_mod_cast le_roundTo hgrid (by exact_mod_cast h)

/-- What is computed from storable operands stands for the exact result in
everything that follows: in the range check, in the rounding to the places that
are kept, and in whether it is zero. -/
theorem exactResult_of_storable (operator : Operator) {a b : Decimal} (ha : a.Storable)
    (hb : b.Storable) (hzero : ¬(operator = .divide ∧ b.isZero)) :
    ∃ x : Decimal, exactResult operator a b = .ok x ∧ x.isFinite ∧ |x.value| ≤ 10 ^ 30 ∧
      (x.value = 0 ↔ operator.exact a.value b.value = 0) ∧
      (10 ^ 15 < |roundTo (-12) x.value| ↔
        10 ^ 15 < |roundTo (-12) (operator.exact a.value b.value)|) ∧
      (|roundTo (-12) (operator.exact a.value b.value)| ≤ 10 ^ 15 →
        roundTo (-12) x.value = roundTo (-12) (operator.exact a.value b.value)) := by
  set q := operator.exact a.value b.value with hq
  have hle : |q| ≤ 10 ^ (30 : ℤ) := by
    exact_mod_cast abs_exact_le hb.onGrid ha.bounded hb.bounded operator
  have hfits : ∀ place : ℤ, -27 ≤ place → context.Fits (10 ^ place) := fun place hplace =>
    .zpow (by change -999999 - (40 : ℤ) + 1 ≤ place; omega) (by decide)
  have hrounded : |context.rounded q| ≤ 10 ^ (30 : ℤ) := by
    rw [← rounded_abs]
    exact Fits.rounded_le (hfits 30 (by norm_num)) (abs_nonneg q) hle
  have hbeyond : (10 : ℚ) ^ (30 : ℤ) < context.beyond := zpow_lt_beyond (by decide)
  have hdivide : operator = .divide → b.isZero = false := fun hdivide => by
    simpa [hdivide] using hzero
  rcases exactResult_roundsTo operator ha.isFinite hb.isFinite hdivide with
    ⟨x, hok, hfinite, hvalue, _⟩ | ⟨_, hlarge⟩
  · rw [← hq] at hvalue
    refine ⟨x, hok, hfinite, by rw [hvalue]; exact_mod_cast hrounded, ?_, ?_⟩
    · rw [hvalue]
      refine ⟨fun hnone => ?_, fun hnone => by rw [hnone, rounded_zero]⟩
      by_contra hne
      have hlow := zpow_le_abs_exact ha.onGrid hb.onGrid hb.bounded operator hne
      have hkept := (hfits (-27) le_rfl).le_rounded (by decide) (by positivity) hlow
      rw [rounded_abs, hnone, abs_zero] at hkept
      exact absurd hkept (not_le.mpr (zpow_ten_pos _))
    · rw [hvalue]
      rcases lt_or_ge |q| (10 ^ 16) with hsmall | hlarge
      · rw [roundTo_rounded_exact ha.onGrid hb.onGrid ha.bounded hb.bounded operator hsmall]
        exact ⟨Iff.rfl, fun _ => rfl⟩
      · -- both are beyond the limit, whatever they round to
        have hfar := pow_le_abs_roundTo hlarge
        have hfar' := pow_le_abs_roundTo (pow_le_abs_rounded hlarge)
        have hlimit : (10 : ℚ) ^ 15 < 10 ^ 16 := by norm_num
        exact ⟨⟨fun _ => hlimit.trans_le hfar, fun _ => hlimit.trans_le hfar'⟩,
          fun hle => absurd (hlimit.trans_le hfar) (not_lt.mpr hle)⟩
  · exact absurd (hlarge.trans hrounded) (not_le.mpr hbeyond)

/-- Operators are correctly rounded on everything that memory can hold. -/
theorem apply_correctlyRounded (operator : Operator) {a b : Decimal} (ha : a.Storable)
    (hb : b.Storable) :
    (operator = .divide ∧ b.value = 0 → apply operator a b = .error .divisionByZero) ∧
    (¬(operator = .divide ∧ b.value = 0) → ∀ exact rounded : ℚ,
      exact = operator.exact a.value b.value → rounded = roundTo (-12) exact →
        (10 ^ 15 < |rounded| ∨ (rounded = 0 ∧ exact ≠ 0) →
          ∃ fault, apply operator a b = .error fault ∧ fault.failure.kind = .outOfRange) ∧
        (¬(10 ^ 15 < |rounded| ∨ (rounded = 0 ∧ exact ≠ 0)) →
          ∃ result : Decimal, apply operator a b = .ok result ∧ result.isFinite ∧
            result.value = rounded)) := by
  have hzero : b.isZero ↔ b.value = 0 := Decimal.isZero_iff hb.isFinite
  refine ⟨?_, ?_⟩
  · rintro ⟨rfl, hnone⟩
    exact apply_divide_zero (checkRange_of_storable ha) (checkRange_of_storable hb)
      (hzero.mpr hnone)
  · rw [← hzero]
    rintro hdefined exact rounded rfl rfl
    obtain ⟨x, hok, hfinite, hbound, hnone, hlimit, hsame⟩ :=
      exactResult_of_storable operator ha hb hdefined
    rw [apply_of_checked (checkRange_of_storable ha) (checkRange_of_storable hb) hdefined hok,
      checkRange_eq_of_abs_le hfinite (hbound.trans (pow_le_zpow_maxExponent (by norm_num)))]
    by_cases hlarge : 10 ^ 15 < |roundTo (-12) (operator.exact a.value b.value)|
    · rw [if_pos (hlimit.mpr hlarge)]
      exact ⟨fun _ => ⟨_, rfl, rfl⟩, fun hinside => absurd (Or.inl hlarge) hinside⟩
    · rw [if_neg (mt hlimit.mp hlarge)]
      have hle := not_lt.mp hlarge
      rw [← hsame hle, ne_eq, ← hnone]
      rw [← hsame hle] at hle
      constructor
      · rintro (hbeyond | ⟨hvanishes, hne⟩)
        · exact absurd hbeyond (not_lt.mpr hle)
        · exact ⟨_, settle_eq_tooSmall hfinite hle hvanishes hne, rfl⟩
      · intro hinside
        push Not at hinside
        obtain ⟨result, hresult, hheld, hvalue⟩ := exists_settle_eq hfinite hle hinside.2
        exact ⟨result, hresult, hheld.isFinite, hvalue⟩

/-- One third needs all places and is not zero. -/
theorem apply_divide_one_three :
    (Decimal.ofNat 1).Storable ∧ (Decimal.ofNat 3).Storable ∧
      ∃ result : Decimal, apply .divide (.ofNat 1) (.ofNat 3) = .ok result ∧
        result.value = 333333333333 / 10 ^ 12 := by
  have hone := Decimal.storable_ofNat (n := 1) (by norm_num)
  have hthree := Decimal.storable_ofNat (n := 3) (by norm_num)
  have hexact : Operator.exact .divide (Decimal.ofNat 1).value (Decimal.ofNat 3).value = 1 / 3 := by
    simp [Operator.exact, Decimal.ofNat, Decimal.value, signed]
  have hrounded : roundTo (-12) (1 / 3) = 333333333333 / 10 ^ 12 := by
    have hnearest : (333333333333 : ℤ) = nearestEven (1 / 3 / 10 ^ (-12 : ℤ)) := by
      refine eq_nearestEven (by norm_num) (by norm_num) ?_
      rintro (h | h) <;> norm_num at h
    rw [roundTo, ← hnearest]
    norm_num
  have hdefined : ¬(Operator.divide = .divide ∧ (Decimal.ofNat 3).value = 0) := by
    simp [Decimal.ofNat, Decimal.value, signed]
  obtain ⟨result, hok, _, hvalue⟩ :=
    ((apply_correctlyRounded .divide hone hthree).2 hdefined (1 / 3) (333333333333 / 10 ^ 12)
      hexact.symm hrounded.symm).2 (by norm_num)
  exact ⟨hone, hthree, result, hok, hvalue⟩

end Calculation

end SpokenCalculator
