import SpokenCalculator.Proofs.Calculation.Apply
import SpokenCalculator.Proofs.Decimal.Overflow
import SpokenCalculator.Proofs.Result

namespace SpokenCalculator

namespace Calculation

open Context

theorem abs_le_of_abs_roundTo_le {q : ℚ} (h : |roundTo (-12) q| ≤ 10 ^ 15) : |q| ≤ 2 * 10 ^ 15 := by
  have hnear := abs_roundTo_sub_le (-12) q
  rw [abs_sub_comm] at hnear
  have hunit : (10 : ℚ) ^ (-12 : ℤ) / 2 ≤ 10 ^ 15 := by norm_num
  calc
    |q| = |(q - roundTo (-12) q) + roundTo (-12) q| := by rw [sub_add_cancel]
    _ ≤ |q - roundTo (-12) q| + |roundTo (-12) q| := abs_add_le _ _
    _ ≤ 2 * 10 ^ 15 := by linarith

structure Accepted (x : Decimal) : Prop where
  isFinite : x.isFinite
  bounded : |roundTo (-12) x.value| ≤ 10 ^ 15

variable {x : Decimal}

theorem Accepted.abs_value_le (h : Accepted x) : |x.value| ≤ 2 * 10 ^ 15 :=
  abs_le_of_abs_roundTo_le h.bounded

theorem Accepted.not_overflows (h : Accepted x) : ¬ x.Overflows := by
  apply Decimal.not_overflows_of_le
  calc
    |x.value| ≤ 2 * 10 ^ 15 := h.abs_value_le
    _ ≤ 10 ^ 16 := by norm_num
    _ ≤ 10 ^ (999999 : ℤ) := pow_le_zpow_maxExponent (by norm_num)

theorem checkRange_cases (x : Decimal) :
    (checkRange x = .ok () ∧ Accepted x) ∨
      (checkRange x = .error (.tooLarge x) ∧ ¬ Accepted x ∧ ¬ x.Overflows) ∨
      (checkRange x = .error (.signal .overflow) ∧ x.Overflows) := by
  by_cases hfinite : x.isFinite
  · rw [checkRange_eq hfinite]
    split
    · rename_i hbeyond
      exact Or.inr (Or.inr ⟨rfl, hfinite, hbeyond⟩)
    · rename_i hinside
      have hsilent : ¬ x.Overflows := fun h => hinside h.beyond
      split
      · rename_i hlarge
        exact Or.inr (Or.inl ⟨rfl, fun h => absurd h.bounded (not_le.mpr hlarge), hsilent⟩)
      · rename_i hbounded
        exact Or.inl ⟨rfl, hfinite, not_lt.mp hbounded⟩
  · refine Or.inr (Or.inl ⟨?_, fun h => hfinite h.isFinite, fun h => hfinite h.isFinite⟩)
    simp [checkRange, hfinite]

theorem Accepted.checkRange_eq (h : Accepted x) : checkRange x = .ok () := by
  rcases checkRange_cases x with ⟨hcheck, _⟩ | ⟨_, hrefused, _⟩ | ⟨_, hoverflows⟩
  · exact hcheck
  · exact absurd h hrefused
  · exact absurd hoverflows h.not_overflows

theorem accepted_of_checkRange_eq (hcheck : checkRange x = .ok ()) : Accepted x := by
  rcases checkRange_cases x with ⟨_, haccepted⟩ | ⟨hrefused, _⟩ | ⟨hrefused, _⟩
  · exact haccepted
  · rw [hcheck] at hrefused
    cases hrefused
  · rw [hcheck] at hrefused
    cases hrefused

theorem checkRange_eq_signal_iff (signal : Signal) :
    checkRange x = .error (.signal signal) ↔ signal = .overflow ∧ x.Overflows := by
  rcases checkRange_cases x with ⟨hcheck, haccepted⟩ | ⟨hcheck, _, hsilent⟩ | ⟨hcheck, hoverflows⟩
  · rw [hcheck]
    constructor
    · intro h
      cases h
    · exact fun h => absurd h.2 haccepted.not_overflows
  · rw [hcheck]
    constructor
    · intro h
      cases h
    · exact fun h => absurd h.2 hsilent
  · rw [hcheck]
    constructor
    · intro h
      cases h
      exact ⟨rfl, hoverflows⟩
    · rintro ⟨rfl, _⟩
      rfl

/-- The ways an operator can come out, in the order in which they are tried. -/
inductive Outcome (operator : Operator) (a b : Decimal) : Except CalculationFault Decimal → Prop
  | left {fault : CalculationFault} (ha : checkRange a = .error fault) :
      Outcome operator a b (.error fault)
  | right {fault : CalculationFault} (ha : Accepted a) (hb : checkRange b = .error fault) :
      Outcome operator a b (.error fault)
  | zero (ha : Accepted a) (hb : Accepted b) (hzero : operator = .divide ∧ b.isZero) :
      Outcome operator a b (.error .divisionByZero)
  | beyond (ha : Accepted a) (hb : Accepted b) (hdefined : ¬(operator = .divide ∧ b.isZero))
      (hlarge : context.beyond ≤ |context.rounded (operator.exact a.value b.value)|) :
      Outcome operator a b (.error (.notEvaluated a operator b .overflow))
  | exact {x : Decimal} {outcome : Except CalculationFault Decimal} (ha : Accepted a)
      (hb : Accepted b) (hdefined : ¬(operator = .divide ∧ b.isZero)) (hfinite : x.isFinite)
      (hvalue : x.value = context.rounded (operator.exact a.value b.value))
      (hsmall : |context.rounded (operator.exact a.value b.value)| < context.beyond)
      (hchecked : (checkRange x >>= fun _ => settle x) = outcome) :
      Outcome operator a b outcome

theorem apply_outcome (operator : Operator) (a b : Decimal) :
    Outcome operator a b (apply operator a b) := by
  cases hacheck : checkRange a with
  | error fault =>
      have hfault : apply operator a b = .error fault := by
        simp only [apply, hacheck]
        rfl
      rw [hfault]
      exact .left hacheck
  | ok =>
  have ha := accepted_of_checkRange_eq hacheck
  cases hbcheck : checkRange b with
  | error fault =>
      have hfault : apply operator a b = .error fault := by
        simp only [apply, hacheck, hbcheck]
        rfl
      rw [hfault]
      exact .right ha hbcheck
  | ok =>
  have hb := accepted_of_checkRange_eq hbcheck
  by_cases hzero : operator = .divide ∧ b.isZero
  · obtain ⟨rfl, hnone⟩ := hzero
    rw [apply_divide_zero hacheck hbcheck hnone]
    exact .zero ha hb ⟨rfl, hnone⟩
  · have hdivide : operator = .divide → b.isZero = false := fun hdivide => by
      simpa [hdivide] using hzero
    rcases exactResult_roundsTo operator ha.isFinite hb.isFinite hdivide with
      ⟨x, hok, hfinite, hvalue, hsmall⟩ | ⟨herror, hlarge⟩
    · have hchecked := apply_of_checked hacheck hbcheck hzero hok
      exact .exact ha hb hzero hfinite hvalue hsmall hchecked.symm
    · have hfault : apply operator a b = .error (.notEvaluated a operator b .overflow) := by
        simp only [apply, hacheck, hbcheck, if_neg hzero, herror]
        rfl
      rw [hfault]
      exact .beyond ha hb hzero hlarge

/-- Settling an accepted number gives the nearest number that memory can hold,
unless it is too small. -/
theorem Accepted.settle_cases (h : Accepted x) :
    (∃ result, settle x = .ok result ∧ result.Held ∧ result.value = roundTo (-12) x.value ∧
        (result.value = 0 → x.value = 0)) ∨
      (settle x = .error (.tooSmall x) ∧ roundTo (-12) x.value = 0 ∧ x.value ≠ 0) := by
  by_cases hsmall : roundTo (-12) x.value = 0 ∧ x.value ≠ 0
  · exact Or.inr ⟨settle_eq_tooSmall h.isFinite h.bounded hsmall.1 hsmall.2, hsmall⟩
  · have hlarge : roundTo (-12) x.value = 0 → x.value = 0 := fun hzero =>
      not_not.mp fun hne => hsmall ⟨hzero, hne⟩
    obtain ⟨result, hok, hheld, hvalue⟩ := exists_settle_eq h.isFinite h.bounded hlarge
    exact Or.inl ⟨result, hok, hheld, hvalue, fun hzero => hlarge (hvalue.symm.trans hzero)⟩

theorem check_settle_eq_signal_iff (signal : Signal) :
    (checkRange x >>= fun _ => settle x) = .error (.signal signal) ↔
      signal = .overflow ∧ x.Overflows := by
  rw [← checkRange_eq_signal_iff]
  cases hcheck : checkRange x with
  | error fault =>
      change Except.error fault = _ ↔ _
      rw [Except.error.injEq, Except.error.injEq]
  | ok =>
      have haccepted := accepted_of_checkRange_eq hcheck
      constructor
      · intro h
        change settle x = _ at h
        rcases haccepted.settle_cases with ⟨_, hsettle, _⟩ | ⟨hsettle, _⟩
        · cases hsettle.symm.trans h
        · cases hsettle.symm.trans h
      · intro h
        cases h

theorem held_of_apply_eq_ok {operator : Operator} {a b result : Decimal}
    (hok : apply operator a b = .ok result) : result.Held := by
  have houtcome := apply_outcome operator a b
  rw [hok] at houtcome
  cases houtcome with
  | exact ha hb hdefined hfinite hvalue hsmall hchecked =>
      obtain ⟨⟨⟩, hcheck, hsettle⟩ := bind_eq_ok.mp hchecked
      have haccepted := accepted_of_checkRange_eq hcheck
      rcases haccepted.settle_cases with ⟨settled, hsettled, hheld, _⟩ | ⟨hnone, _⟩
      · rw [hsettle] at hsettled
        cases hsettled
        exact hheld
      · rw [hsettle] at hnone
        cases hnone

/-- So rounding does not carry it beyond the range, first to the precision of the
calculation and then to the standard one. -/
theorem abs_rounded_twice_lt {q : ℚ} (hq : |q| ≤ largest) :
    |standard.rounded (context.rounded q)| < standard.beyond := by
  have hle := abs_rounded_le_largest (by decide : 28 ≤ context.precision) (by decide) hq
  exact (abs_rounded_le_largest (by decide) (by decide) hle).trans_lt largest_lt

/-- What makes the range check signal: an operand beyond the standard range, or
a quotient that the wider precision of the calculation keeps inside and the
standard precision rounds out of it. -/
inductive Overflows (operator : Operator) (a b : Decimal) : Prop
  | left (ha : a.Overflows)
  | right (ha : Accepted a) (hb : b.Overflows)
  | quotient (ha : Accepted a) (hb : Accepted b) (hdivide : operator = .divide) (hne : b.value ≠ 0)
      (hsmall : |context.rounded (a.value / b.value)| < context.beyond)
      (hlarge : standard.beyond ≤ |standard.rounded (context.rounded (a.value / b.value))|)

variable {operator : Operator} {a b : Decimal}

/-- Of the exact results on accepted operands only the quotient can be far
outside. -/
theorem abs_exact_le_largest (ha : Accepted a) (hb : Accepted b) (hdivide : operator ≠ .divide) :
    |operator.exact a.value b.value| ≤ largest := by
  have ha' := ha.abs_value_le
  have hb' := hb.abs_value_le
  have hroom : (4 : ℚ) * 10 ^ 30 ≤ largest := by
    have hunit : (10 : ℚ) ^ 4 ≤ 10 ^ (999972 : ℤ) := by
      rw [← zpow_natCast]
      exact zpow_le_zpow_right₀ (by norm_num) (by norm_num)
    calc
      (4 : ℚ) * 10 ^ 30 ≤ (10 ^ 28 - 1) * 10 ^ 4 := by norm_num
      _ ≤ largest := mul_le_mul_of_nonneg_left hunit (by norm_num)
  cases operator with
  | add => exact (abs_add_le _ _).trans (by linarith)
  | subtract => exact (abs_sub _ _).trans (by linarith)
  | multiply =>
      refine le_trans ?_ hroom
      change |a.value * b.value| ≤ _
      rw [abs_mul]
      calc
        |a.value| * |b.value| ≤ 2 * 10 ^ 15 * (2 * 10 ^ 15) :=
          mul_le_mul ha' hb' (abs_nonneg _) (by norm_num)
        _ = 4 * 10 ^ 30 := by norm_num
  | divide => exact absurd rfl hdivide

/-- A result that the check signals is the quotient. -/
theorem overflows_of_exact {x : Decimal} (ha : Accepted a) (hb : Accepted b)
    (hdefined : ¬(operator = .divide ∧ b.isZero))
    (hvalue : x.value = context.rounded (operator.exact a.value b.value))
    (hsmall : |context.rounded (operator.exact a.value b.value)| < context.beyond)
    (hoverflows : x.Overflows) : Overflows operator a b := by
  have hlarge := hoverflows.beyond
  rw [hvalue] at hlarge
  by_cases hdivide : operator = .divide
  · subst hdivide
    refine .quotient ha hb rfl (fun hnone => hdefined ⟨rfl, ?_⟩) hsmall hlarge
    rwa [Decimal.isZero_iff hb.isFinite]
  · have hle := abs_exact_le_largest ha hb hdivide
    exact absurd hlarge (not_le.mpr (abs_rounded_twice_lt hle))

theorem overflows_iff_left (ha : ¬ Accepted a) : Overflows operator a b ↔ a.Overflows := by
  constructor
  · intro h
    cases h with
    | left hoverflows => exact hoverflows
    | right haccepted => exact absurd haccepted ha
    | quotient haccepted => exact absurd haccepted ha
  · exact .left

theorem overflows_iff_right (ha : Accepted a) (hb : ¬ Accepted b) :
    Overflows operator a b ↔ b.Overflows := by
  constructor
  · intro h
    cases h with
    | left hoverflows => exact absurd hoverflows ha.not_overflows
    | right _ hoverflows => exact hoverflows
    | quotient _ haccepted => exact absurd haccepted hb
  · exact .right ha

theorem Overflows.beyond_rounded (h : Overflows operator a b) (ha : Accepted a) (hb : Accepted b) :
    operator = .divide ∧ b.value ≠ 0 ∧
      |context.rounded (operator.exact a.value b.value)| < context.beyond ∧
      standard.beyond ≤ |standard.rounded (context.rounded (operator.exact a.value b.value))| := by
  cases h with
  | left hoverflows => exact absurd hoverflows ha.not_overflows
  | right _ hoverflows => exact absurd hoverflows hb.not_overflows
  | quotient _ _ hdivide hne hsmall hlarge =>
      subst hdivide
      exact ⟨rfl, hne, hsmall, hlarge⟩

theorem Outcome.eq_signal_iff {outcome : Except CalculationFault Decimal}
    (h : Outcome operator a b outcome) (signal : Signal) :
    outcome = .error (.signal signal) ↔ signal = .overflow ∧ Overflows operator a b := by
  cases h with
  | left hacheck =>
      have ha : ¬ Accepted a := fun ha => by
        rw [ha.checkRange_eq] at hacheck
        cases hacheck
      rw [overflows_iff_left ha, ← checkRange_eq_signal_iff, hacheck, Except.error.injEq,
        Except.error.injEq]
  | right ha hbcheck =>
      have hb : ¬ Accepted b := fun hb => by
        rw [hb.checkRange_eq] at hbcheck
        cases hbcheck
      rw [overflows_iff_right ha hb, ← checkRange_eq_signal_iff, hbcheck, Except.error.injEq,
        Except.error.injEq]
  | zero ha hb hzero =>
      constructor
      · intro h
        cases h
      · rintro ⟨_, h⟩
        exact absurd ((Decimal.isZero_iff hb.isFinite).mp hzero.2) (h.beyond_rounded ha hb).2.1
  | beyond ha hb hdefined hlarge =>
      constructor
      · intro h
        cases h
      · rintro ⟨_, h⟩
        exact absurd hlarge (not_le.mpr (h.beyond_rounded ha hb).2.2.1)
  | exact ha hb hdefined hfinite hvalue hsmall hchecked =>
      rw [← hchecked, check_settle_eq_signal_iff]
      refine and_congr_right fun _ => ⟨?_, fun h => ⟨hfinite, ?_⟩⟩
      · exact overflows_of_exact ha hb hdefined hvalue hsmall
      · rw [hvalue]
        exact (h.beyond_rounded ha hb).2.2.2

theorem apply_eq_signal_iff (signal : Signal) :
    apply operator a b = .error (.signal signal) ↔ signal = .overflow ∧ Overflows operator a b :=
  (apply_outcome operator a b).eq_signal_iff signal

end Calculation

end SpokenCalculator
