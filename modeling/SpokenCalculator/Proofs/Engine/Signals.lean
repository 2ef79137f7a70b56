import SpokenCalculator.Engine
import SpokenCalculator.Proofs.Calculation.Outcome

namespace SpokenCalculator

def calculationKinds : List FailureKind := [.divisionByZero, .outOfRange, .unrecognized]

theorem CalculationFault.kind_mem_iff (fault : CalculationFault) :
    fault.failure.kind ∈ calculationKinds ↔ ∀ signal, fault ≠ .signal signal := by
  cases fault with
  | signal signal =>
      constructor
      · intro hkind
        cases signal <;> simp [failure, Signal.failure, calculationKinds] at hkind
      · exact fun h => absurd rfl (h signal)
  | divisionByZero => simp [failure, calculationKinds]
  | tooLarge value => simp [failure, calculationKinds]
  | tooSmall exact => simp [failure, calculationKinds]
  | notEvaluated lhs operator rhs signal => simp [failure, calculationKinds]
  | unrecognized heard => simp [failure, Failure.made, calculationKinds]

theorem isA_calculation_of_mem {kind : FailureKind} (hkind : kind ∈ calculationKinds) :
    kind.isA .calculation := by
  have hall : calculationKinds.all (·.isA .calculation) := by decide
  exact List.all_eq_true.mp hall kind hkind

/-- With this number in memory the evaluation of the command signals. -/
def Command.Overflows (memory : Decimal) : Command → Prop
  | .compute lhs operator rhs => Calculation.Overflows operator lhs rhs
  | .apply operator rhs => Calculation.Overflows operator memory rhs
  | _ => False

namespace Engine

theorem result_eq_signal_iff (memory : Decimal) (command : Command) (signal : Signal) :
    result memory command = .error (.signal signal) ↔
      signal = .overflow ∧ command.Overflows memory := by
  cases command with
  | compute lhs operator rhs => exact Calculation.apply_eq_signal_iff signal
  | apply operator rhs => exact Calculation.apply_eq_signal_iff signal
  | «recall» => simp [result, Command.Overflows]
  | clear => simp [result, Command.Overflows]
  | unrecognized heard => simp [result, Command.Overflows]

theorem evaluate_eq_error_iff (engine : Engine) (command : Command) (fault : CalculationFault) :
    engine.evaluate command = .error fault ↔ result engine.memory command = .error fault :=
  bind_ok_eq_error_iff

theorem evaluate_eq_signal_iff (engine : Engine) (command : Command) (signal : Signal) :
    engine.evaluate command = .error (.signal signal) ↔
      signal = .overflow ∧ command.Overflows engine.memory := by
  rw [evaluate_eq_error_iff, result_eq_signal_iff]

/-- A command has a result or fails as a calculation does exactly if its
evaluation does not signal. -/
theorem evaluate_returns_or_fails_iff (engine : Engine) (command : Command) :
    ((∃ value next, engine.evaluate command = .ok (value, next)) ∨
      ∃ fault, engine.evaluate command = .error fault ∧
        fault.failure.kind ∈ calculationKinds) ↔
    ¬ command.Overflows engine.memory := by
  have hsignal := evaluate_eq_signal_iff engine command
  cases houtcome : engine.evaluate command with
  | ok outcome =>
      constructor
      · intro _ hoverflows
        cases houtcome.symm.trans ((hsignal .overflow).mpr ⟨rfl, hoverflows⟩)
      · exact fun _ => Or.inl ⟨outcome.1, outcome.2, rfl⟩
  | error fault =>
      constructor
      · rintro (⟨_, _, hok⟩ | ⟨_, hfault, hkind⟩) hoverflows
        · cases hok
        · cases hfault
          rw [CalculationFault.kind_mem_iff] at hkind
          have hsignalled := houtcome.symm.trans ((hsignal .overflow).mpr ⟨rfl, hoverflows⟩)
          exact hkind .overflow (Except.error.inj hsignalled)
      · intro hinside
        refine Or.inr ⟨fault, rfl, fault.kind_mem_iff.mpr fun signal hfault => hinside ?_⟩
        rw [hfault] at houtcome
        exact ((hsignal signal).mp houtcome).2

/-- One is added to a power of ten beyond the standard range. -/
theorem evaluate_signals_on_large_power :
    ¬ ((∃ value next, (fresh (some usualCapacity)).evaluate
          (.compute (.finite false 1 1000000) .add (.ofNat 1)) = .ok (value, next)) ∨
        ∃ fault, (fresh (some usualCapacity)).evaluate
          (.compute (.finite false 1 1000000) .add (.ofNat 1)) = .error fault ∧
            fault.failure.kind ∈ calculationKinds) := by
  have hsignal : (fresh (some usualCapacity)).evaluate
      (.compute (.finite false 1 1000000) .add (.ofNat 1)) = .error (.signal .overflow) := by
    rw [evaluate_eq_error_iff]
    decide +kernel
  rw [hsignal]
  rintro (⟨_, _, hok⟩ | ⟨_, hfault, hkind⟩)
  · cases hok
  · cases hfault
    exact absurd hkind (by decide)

end Engine

end SpokenCalculator
