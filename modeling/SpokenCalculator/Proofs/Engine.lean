import SpokenCalculator.Proofs.Calculation.Faults
import SpokenCalculator.Proofs.Engine.Memory
import SpokenCalculator.Proofs.Engine.Signals
import SpokenCalculator.Proofs.Phrase.Reading

namespace SpokenCalculator

open Calculation

theorem Decimal.Held.abs_value_le {x : Decimal} (h : x.Held) : |x.value| ≤ 10 ^ (999999 : ℤ) :=
  h.bounded.trans (pow_le_zpow_maxExponent (by norm_num))

theorem Decimal.WrittenIn.abs_value_le {size : ℕ} {x : Decimal} (h : x.WrittenIn size)
    (hsize : size < 1000000) : |x.value| ≤ 10 ^ (999999 : ℤ) :=
  h.bounded.trans (pow_le_zpow_maxExponent (by omega))

theorem Command.WrittenIn.not_overflows {memory : Decimal} {command : Command} {size : ℕ}
    (hcommand : command.WrittenIn size) (hmemory : memory.Held) (hsize : size < 1000000) :
    ¬ command.Overflows memory := by
  cases command with
  | compute lhs operator rhs =>
      obtain ⟨part, hpart, hlhs, hrhs⟩ := hcommand
      have hapart : Apart (1 - part) (1 - ((size - part : ℕ) : ℤ)) :=
        ⟨Or.inr (by omega), by omega⟩
      exact not_overflows_of_apart operator hapart hlhs.onGrid hrhs.onGrid
        (hlhs.abs_value_le (by omega)) (hrhs.abs_value_le (by omega))
  | apply operator rhs =>
      have hapart : Apart (-12) (1 - size) := ⟨Or.inl le_rfl, by omega⟩
      exact not_overflows_of_apart operator hapart hmemory.onGrid hcommand.onGrid
        hmemory.abs_value_le (hcommand.abs_value_le hsize)
  | «recall» => exact id
  | clear => exact id
  | unrecognized heard => exact id

/-- A command of a phrase has a result in the form of memory, or fails as a
calculation does. -/
theorem Engine.evaluate_cases {engine : Engine} {command : Command} {size : ℕ}
    (hmemory : engine.memory.Held) (hcommand : command.WrittenIn size) (hsize : size < 1000000) :
    (∃ value next, engine.evaluate command = .ok (value, next) ∧ value.Held ∧ next.memory.Held) ∨
      ∃ fault, engine.evaluate command = .error fault ∧ fault.failure.kind.isA .calculation := by
  cases houtcome : engine.evaluate command with
  | ok outcome =>
      obtain ⟨hvalue, hnext⟩ := evaluate_held hmemory houtcome
      exact Or.inl ⟨outcome.1, outcome.2, rfl, hvalue, hnext⟩
  | error fault =>
      have hkind : fault.failure.kind ∈ calculationKinds := by
        rw [CalculationFault.kind_mem_iff]
        rintro signal rfl
        have hsignal := (engine.evaluate_eq_signal_iff command signal).mp houtcome
        exact hcommand.not_overflows hmemory hsize hsignal.2
      exact Or.inr ⟨fault, rfl, isA_calculation_of_mem hkind⟩

end SpokenCalculator
