import SpokenCalculator.Proofs.Calculation.Canonical
import SpokenCalculator.Proofs.Calculation.Outcome

namespace SpokenCalculator

namespace Calculation

open Context

/-- Half a unit of the least place of a calculation: the largest magnitude of
which forty digits keep nothing. -/
def vanishing : ℚ := 10 ^ context.leastPlace / 2

theorem rounded_eq_zero_iff_vanishing (q : ℚ) : context.rounded q = 0 ↔ |q| ≤ vanishing :=
  rounded_eq_zero_iff (by decide) q

/-- Up to half a unit of the last place that is kept nothing is left of a number,
whether it was rounded to forty digits before or not. -/
theorem roundTo_rounded_eq_zero {q : ℚ} (h : |q| ≤ 10 ^ (-12 : ℤ) / 2) :
    roundTo (-12) (context.rounded q) = 0 := by
  have hfits : context.Fits (10 ^ (-12 : ℤ) / 2) := by
    refine fits_of_onGrid 13 (by norm_num) ⟨5, by norm_num⟩ ?_
    rw [abs_of_pos (by positivity)]
    norm_num
  rw [roundTo_eq_zero_iff, ← rounded_abs]
  exact hfits.rounded_le (abs_nonneg q) h

theorem abs_rounded_sub_le_of_lt {q : ℚ} (h : |q| < 10 ^ 16) :
    |context.rounded q - q| ≤ 10 ^ (-24 : ℤ) / 2 := by
  rcases eq_or_ne q 0 with rfl | hne
  · rw [rounded_zero, sub_zero, abs_zero]
    positivity
  · have hlog : Int.log 10 |q| < 16 := by
      rw [← Int.lt_zpow_iff_log_lt (by norm_num) (abs_pos.mpr hne)]
      exact_mod_cast h
    have hplace : context.lastPlace q ≤ -24 := by
      change max (Int.log 10 |q| + 1 - 40) (-999999 - 40 + 1) ≤ -24
      omega
    have hunit : (10 : ℚ) ^ context.lastPlace q ≤ 10 ^ (-24 : ℤ) :=
      zpow_le_zpow_right₀ (by norm_num) hplace
    calc
      |context.rounded q - q| ≤ 10 ^ context.lastPlace q / 2 := abs_rounded_sub_le context q
      _ ≤ 10 ^ (-24 : ℤ) / 2 := by gcongr

theorem ne_zero_of_limit_lt {q : ℚ} (h : 10 ^ 15 < |q|) : q ≠ 0 := by
  rintro rfl
  rw [abs_zero] at h
  exact absurd h (by norm_num)

theorem accepted_iff {x : Decimal} (hfinite : x.isFinite) :
    Accepted x ↔ |roundTo (-12) x.value| ≤ 10 ^ 15 :=
  ⟨Accepted.bounded, fun hbounded => ⟨hfinite, hbounded⟩⟩

/-- The limit has no more places than are kept, so rounding does not pass it. -/
theorem accepted_of_abs_le {x : Decimal} (hfinite : x.isFinite) (h : |x.value| ≤ 10 ^ 15) :
    Accepted x := by
  have hgrid : OnGrid (-12) (10 ^ (15 : ℤ)) := .zpow (by norm_num)
  rw [accepted_iff hfinite, ← roundTo_abs]
  exact_mod_cast roundTo_le hgrid (by exact_mod_cast h)

variable {operator : Operator} {a b result : Decimal}

/-- How a calculation with accepted operands comes out, told by its exact result
as forty digits give it: as the nearest number that memory can hold, as too
small, or as too large. -/
theorem apply_cases (ha : Accepted a) (hb : Accepted b)
    (hdefined : ¬(operator = .divide ∧ b.isZero)) {q : ℚ}
    (hq : q = context.rounded (operator.exact a.value b.value)) :
    (∃ result, apply operator a b = .ok result ∧ result.Held ∧ result.value = roundTo (-12) q ∧
        (result.value = 0 → q = 0)) ∨
      (∃ x, apply operator a b = .error (.tooSmall x) ∧ roundTo (-12) q = 0 ∧ q ≠ 0) ∨
      (10 ^ 15 < |roundTo (-12) q| ∧ ∃ fault, apply operator a b = .error fault ∧
        (fault.failure.kind = .outOfRange ∨ fault = .signal .overflow)) := by
  subst hq
  have hrefused : ∀ x : Decimal, x.isFinite → ¬ Accepted x → 10 ^ 15 < |roundTo (-12) x.value| :=
    fun x hfinite hnot => not_le.mp fun hle => hnot ((accepted_iff hfinite).mpr hle)
  have houtcome := apply_outcome operator a b
  generalize apply operator a b = outcome at houtcome ⊢
  cases houtcome with
  | left hacheck =>
      rw [ha.checkRange_eq] at hacheck
      cases hacheck
  | right _ hbcheck =>
      rw [hb.checkRange_eq] at hbcheck
      cases hbcheck
  | zero _ _ hzero => exact absurd hzero hdefined
  | beyond _ _ _ hlarge =>
      -- what overflows the calculation itself is far beyond the limit
      have hpower : (10 : ℚ) ^ 16 ≤ context.beyond := by
        exact_mod_cast (zpow_lt_beyond (by decide : (16 : ℤ) ≤ context.maxExponent)).le
      have hfar := pow_le_abs_roundTo (hpower.trans hlarge)
      exact Or.inr (Or.inr ⟨lt_of_lt_of_le (by norm_num) hfar, _, rfl, Or.inl rfl⟩)
  | @exact x _ _ _ _ hfinite hvalue _ hchecked =>
      rw [← hvalue, ← hchecked]
      rcases checkRange_cases x with
        ⟨hcheck, haccepted⟩ | ⟨hcheck, hnot, _⟩ | ⟨hcheck, hoverflows⟩
      · rw [hcheck]
        rcases haccepted.settle_cases with hsettled | ⟨hsettle, hsmall⟩
        · exact Or.inl hsettled
        · exact Or.inr (Or.inl ⟨x, hsettle, hsmall⟩)
      · rw [hcheck]
        exact Or.inr (Or.inr ⟨hrefused x hfinite hnot, _, rfl, Or.inl rfl⟩)
      · -- so is a quotient that only the range check rounds out of the standard range
        rw [hcheck]
        have hnot : ¬ Accepted x := fun haccepted => haccepted.not_overflows hoverflows
        exact Or.inr (Or.inr ⟨hrefused x hfinite hnot, _, rfl, Or.inr rfl⟩)

/-! ### Results that are too small -/

theorem apply_eq_zero_iff (ha : Accepted a) (hb : Accepted b)
    (hdefined : ¬(operator = .divide ∧ b.isZero)) :
    apply operator a b = .ok .zero ↔ context.rounded (operator.exact a.value b.value) = 0 := by
  rcases apply_cases ha hb hdefined rfl with
    ⟨result, hok, hheld, hvalue, hnone⟩ | ⟨x, hfault, _, hne⟩ | ⟨hlarge, fault, hfault, _⟩
  · rw [hok, Except.ok.injEq]
    constructor
    · rintro rfl
      exact hnone Decimal.value_zero
    · intro hzero
      rw [hzero, roundTo_zero] at hvalue
      exact hheld.canonical.eq_of_value_eq Decimal.held_zero.canonical
        (hvalue.trans Decimal.value_zero.symm)
  · simp only [hfault, reduceCtorEq, hne]
  · have hne : context.rounded (operator.exact a.value b.value) ≠ 0 := fun hzero =>
      ne_zero_of_limit_lt hlarge (by rw [hzero, roundTo_zero])
    simp only [hfault, reduceCtorEq, hne]

/-- The result is zero for an exact result up to half a unit of the least place
of a calculation. Beyond that, up to half a unit of the last place that is kept,
it is refused as too small, and whatever is not refused is a number other than
zero. -/
theorem apply_vanishes_iff (hafinite : a.isFinite) (hbfinite : b.isFinite)
    (ha : |a.value| ≤ 10 ^ 15) (hb : |b.value| ≤ 10 ^ 15)
    (hdefined : operator = .divide → b.value ≠ 0) :
    (apply operator a b = .ok .zero ↔ |operator.exact a.value b.value| ≤ vanishing) ∧
      (vanishing < |operator.exact a.value b.value| →
        (|operator.exact a.value b.value| ≤ 10 ^ (-12 : ℤ) / 2 →
          ∃ x, apply operator a b = .error (.tooSmall x)) ∧
        ((∃ result, apply operator a b = .ok result ∧ result.value ≠ 0) ∨
          ∃ fault, apply operator a b = .error fault ∧
            (fault.failure.kind = .outOfRange ∨
              fault = .signal .overflow ∧ Overflows operator a b))) := by
  have haccepted := accepted_of_abs_le hafinite ha
  have hbaccepted := accepted_of_abs_le hbfinite hb
  have hdefined' : ¬(operator = .divide ∧ b.isZero) := fun ⟨hdivide, hzero⟩ =>
    hdefined hdivide ((Decimal.isZero_iff hbfinite).mp hzero)
  rw [apply_eq_zero_iff haccepted hbaccepted hdefined', rounded_eq_zero_iff_vanishing]
  refine ⟨Iff.rfl, fun hlarge => ?_⟩
  have hkept : context.rounded (operator.exact a.value b.value) ≠ 0 := by
    rw [ne_eq, rounded_eq_zero_iff_vanishing]
    exact not_le.mpr hlarge
  rcases apply_cases haccepted hbaccepted hdefined' rfl with
    ⟨result, hok, _, hvalue, hnone⟩ | ⟨x, hfault, _⟩ | ⟨hbeyond, fault, hfault, hkind⟩
  · have hne : result.value ≠ 0 := fun hzero => hkept (hnone hzero)
    refine ⟨fun hsmall => ?_, Or.inl ⟨result, hok, hne⟩⟩
    exact absurd (hvalue.trans (roundTo_rounded_eq_zero hsmall)) hne
  · exact ⟨fun _ => ⟨x, hfault⟩, Or.inr ⟨_, hfault, Or.inl rfl⟩⟩
  · refine ⟨fun hsmall => ?_, Or.inr ⟨fault, hfault, hkind.imp_right fun hsignal => ⟨hsignal, ?_⟩⟩⟩
    · exact absurd (roundTo_rounded_eq_zero hsmall) (ne_zero_of_limit_lt hbeyond)
    · rw [hsignal, apply_eq_signal_iff] at hfault
      exact hfault.2

theorem abs_value_finite_le (negative : Bool) {coefficient : ℕ} {exponent : ℤ}
    (hcoefficient : coefficient ≤ 10 ^ 15) (hexponent : exponent ≤ 0) :
    |Decimal.value (.finite negative coefficient exponent)| ≤ 10 ^ 15 := by
  have hsize : (coefficient : ℚ) ≤ 10 ^ 15 := by exact_mod_cast hcoefficient
  have hunit : (10 : ℚ) ^ exponent ≤ 1 := zpow_le_one_of_nonpos₀ (by norm_num) hexponent
  rw [Decimal.abs_value_finite]
  calc
    (coefficient : ℚ) * 10 ^ exponent ≤ 10 ^ 15 * 1 :=
      mul_le_mul hsize hunit (zpow_ten_pos _).le (by positivity)
    _ = 10 ^ 15 := mul_one _

/-- A product in the middle between zero and one unit of the least place goes to
zero, which is the even one. -/
theorem apply_vanishes_iff_middle :
    let a : Decimal := .finite false 5 (-500019)
    let b : Decimal := .finite true 1 (-500020)
    a.isFinite ∧ b.isFinite ∧ |a.value| ≤ 10 ^ 15 ∧ |b.value| ≤ 10 ^ 15 ∧
      apply .multiply a b = .ok .zero ∧ |a.value * b.value| ≤ vanishing := by
  intro a b
  have ha : |a.value| ≤ 10 ^ 15 := abs_value_finite_le false (by norm_num) (by norm_num)
  have hb : |b.value| ≤ 10 ^ 15 := abs_value_finite_le true (by norm_num) (by norm_num)
  have hok : apply .multiply a b = .ok .zero := by decide +kernel
  have hmultiply : Operator.multiply ≠ .divide := by decide
  have hexact := (apply_vanishes_iff rfl rfl ha hb (absurd · hmultiply)).1.mp hok
  exact ⟨rfl, rfl, ha, hb, hok, hexact⟩

/-- A product of two numbers other than zero that is zero. -/
theorem product_of_nonzero_vanishes :
    ¬ ∀ (operator : Operator) (a b : Decimal), a.isFinite → b.isFinite → |a.value| ≤ 10 ^ 15 →
      |b.value| ≤ 10 ^ 15 → (operator = .divide → b.value ≠ 0) →
      operator.exact a.value b.value ≠ 0 →
      ∀ result, apply operator a b = .ok result → result.value ≠ 0 := by
  intro h
  set tiny : Decimal := .finite false 1 (-600000) with htiny
  have hbound : |tiny.value| ≤ 10 ^ 15 := abs_value_finite_le false (by norm_num) (by norm_num)
  have hne : tiny.value ≠ 0 := by
    rw [ne_eq, ← Decimal.isZero_iff rfl]
    decide
  have hok : apply .multiply tiny tiny = .ok .zero := by decide +kernel
  have hmultiply : Operator.multiply ≠ .divide := by decide
  exact h .multiply tiny tiny rfl rfl hbound hbound (absurd · hmultiply) (mul_ne_zero hne hne)
    .zero hok Decimal.value_zero

/-! ### The error of a result -/

/-- Only accepted operands, and no divisor that is zero, have a result. -/
theorem accepted_of_apply_eq_ok (hok : apply operator a b = .ok result) :
    Accepted a ∧ Accepted b ∧ ¬(operator = .divide ∧ b.isZero) := by
  have houtcome := apply_outcome operator a b
  rw [hok] at houtcome
  cases houtcome with
  | exact ha hb hdefined => exact ⟨ha, hb, hdefined⟩

theorem value_of_apply_eq_ok (hok : apply operator a b = .ok result) :
    result.value = roundTo (-12) (context.rounded (operator.exact a.value b.value)) := by
  obtain ⟨ha, hb, hdefined⟩ := accepted_of_apply_eq_ok hok
  rcases apply_cases ha hb hdefined rfl with
    ⟨other, hother, _, hvalue, _⟩ | ⟨_, hfault, _⟩ | ⟨_, _, hfault, _⟩
  · rw [hok] at hother
    cases hother
    exact hvalue
  · cases hok.symm.trans hfault
  · cases hok.symm.trans hfault

/-- A result is within half a unit of its last place and half a unit of the
twenty-fourth place of the exact one, and it is not on the other side of
zero. -/
theorem apply_error_le (hok : apply operator a b = .ok result) :
    |result.value - operator.exact a.value b.value| ≤
        10 ^ (-12 : ℤ) / 2 + 10 ^ (-24 : ℤ) / 2 ∧
      (0 ≤ operator.exact a.value b.value → 0 ≤ result.value) ∧
      (operator.exact a.value b.value ≤ 0 → result.value ≤ 0) := by
  have hbounded := (held_of_apply_eq_ok hok).bounded
  have hvalue := value_of_apply_eq_ok hok
  generalize operator.exact a.value b.value = q at hvalue ⊢
  rw [hvalue] at hbounded ⊢
  refine ⟨?_, ?_, ?_⟩
  · -- a larger exact result would not have been rounded below the limit
    have hsmall : |q| < 10 ^ 16 := by
      by_contra hlarge
      have hfar := pow_le_abs_roundTo (pow_le_abs_rounded (not_lt.mp hlarge))
      have hlimit : (10 : ℚ) ^ 15 < 10 ^ 16 := by norm_num
      linarith
    calc
      |roundTo (-12) (context.rounded q) - q| ≤
          |roundTo (-12) (context.rounded q) - context.rounded q| + |context.rounded q - q| :=
        abs_sub_le _ _ _
      _ ≤ 10 ^ (-12 : ℤ) / 2 + 10 ^ (-24 : ℤ) / 2 :=
        add_le_add (abs_roundTo_sub_le _ _) (abs_rounded_sub_le_of_lt hsmall)
  · exact fun hq => roundTo_nonneg (rounded_nonneg context hq)
  · intro hq
    have hopposite : 0 ≤ roundTo (-12) (context.rounded (-q)) :=
      roundTo_nonneg (rounded_nonneg context (neg_nonneg.mpr hq))
    rw [rounded_neg, roundTo_neg] at hopposite
    linarith

/-- A sum just above the middle between two kept numbers is rounded to the middle
by the forty digits, and from there to the even number below: the error is more
than half a unit of the last place. -/
theorem apply_error_le_above_middle :
    let a : Decimal := .finite false 10000000000005 (-13)
    let b : Decimal := .finite false 1 (-60)
    apply .add a b = .ok (.ofNat 1) ∧
      10 ^ (-12 : ℤ) / 2 < |(Decimal.ofNat 1).value - (a.value + b.value)| ∧
      |(Decimal.ofNat 1).value - (a.value + b.value)| ≤
        10 ^ (-12 : ℤ) / 2 + 10 ^ (-24 : ℤ) / 2 := by
  intro a b
  have hok : apply .add a b = .ok (.ofNat 1) := by decide +kernel
  refine ⟨hok, ?_, (apply_error_le hok).1⟩
  simp only [a, b, Decimal.ofNat, Decimal.value, signed, Bool.false_eq_true, if_false]
  rw [lt_abs]
  right
  norm_num

end Calculation

end SpokenCalculator
