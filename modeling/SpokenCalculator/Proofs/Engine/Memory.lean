import SpokenCalculator.Engine
import SpokenCalculator.Proofs.Calculation.Canonical
import SpokenCalculator.Proofs.Calculation.Outcome

namespace SpokenCalculator

namespace Engine

def advance (engine : Engine) (request : Request) : Engine :=
  match engine.answer request with
  | .ok (_, next) => next
  | .error _ => engine

theorem result_held {memory value : Decimal} {command : Command} (hmemory : memory.Held)
    (hok : result memory command = .ok value) : value.Held := by
  cases command with
  | compute lhs operator rhs => exact Calculation.held_of_apply_eq_ok hok
  | apply operator rhs => exact Calculation.held_of_apply_eq_ok hok
  | «recall» =>
      cases hok
      exact hmemory
  | clear =>
      cases hok
      exact Decimal.held_zero
  | unrecognized heard => cases hok

theorem evaluate_held {engine next : Engine} {value : Decimal} {command : Command}
    (hmemory : engine.memory.Held) (hok : engine.evaluate command = .ok (value, next)) :
    value.Held ∧ next.memory.Held := by
  obtain ⟨stored, hresult, hnext⟩ := bind_eq_ok.mp hok
  cases hnext
  have hvalue := result_held hmemory hresult
  refine ⟨hvalue, ?_⟩
  split
  · exact hvalue
  · exact hmemory

theorem advance_held {engine : Engine} (hmemory : engine.memory.Held) (request : Request) :
    (engine.advance request).memory.Held := by
  cases request with
  | foreign text => exact hmemory
  | command command =>
      rw [advance, answer]
      cases houtcome : engine.evaluate command with
      | error fault => exact hmemory
      | ok outcome => exact (evaluate_held hmemory houtcome).2

/-- Memory keeps its form through any sequence of requests. -/
theorem memory_held_of_mem_scanl {start state : Engine} {requests : List Request}
    (hstart : start.memory.Held) (hstate : state ∈ requests.scanl advance start) :
    state.memory.Held := by
  induction requests generalizing start with
  | nil =>
      rw [List.scanl_nil, List.mem_singleton] at hstate
      rwa [hstate]
  | cons request requests ih =>
      rw [List.scanl_cons, List.mem_cons] at hstate
      rcases hstate with rfl | hlater
      · exact hstart
      · exact ih (advance_held hstart request) hlater

/-- In every state of a run memory is a finite number within the limit, with at
most twelve places, in the one form that its value has. -/
theorem memory_canonical_of_run {start : Engine}
    (hstart : (∃ capacity, start = fresh capacity) ∨ start.memory.Held) (requests : List Request) :
    ∀ state ∈ requests.scanl advance start,
      state.memory.Held ∧
      (∃ negative coefficient exponent, state.memory = .finite negative coefficient exponent ∧
        (OnGrid 0 state.memory.value → exponent = 0) ∧
        (¬ OnGrid 0 state.memory.value →
          -12 ≤ exponent ∧ exponent ≤ -1 ∧ coefficient % 10 ≠ 0) ∧
        (state.memory.value = 0 → state.memory = .zero)) ∧
      ∀ other : Decimal, other.Held → other.value = state.memory.value →
        other = state.memory ∧ other.text = state.memory.text := by
  intro state hstate
  have hmemory : start.memory.Held := by
    rcases hstart with ⟨capacity, rfl⟩ | hheld
    · exact Decimal.held_zero
    · exact hheld
  have hheld := memory_held_of_mem_scanl hmemory hstate
  refine ⟨hheld, hheld.exists_form, ?_⟩
  intro other hother hvalue
  have hsame := hother.canonical.eq_of_value_eq hheld.canonical hvalue
  exact ⟨hsame, congrArg Decimal.text hsame⟩

/-- One third is stored. Neither a power of ten beyond the standard range nor a
signaling operand changes it. -/
theorem memory_canonical_of_run_third :
    let requests : List Request :=
      [.command (.compute (.ofNat 1) .divide (.ofNat 3)),
        .command (.apply .multiply (.finite false 1 1000000)),
        .command (.apply .add (.notNumber false true 0))]
    (requests.scanl advance (fresh none)).map Engine.memory =
        [.zero, .finite false 333333333333 (-12), .finite false 333333333333 (-12),
          .finite false 333333333333 (-12)] ∧
      ∀ state ∈ requests.scanl advance (fresh none), state.memory.Held := by
  intro requests
  refine ⟨by decide +kernel, fun state hstate => ?_⟩
  exact (memory_canonical_of_run (Or.inl ⟨none, rfl⟩) requests state hstate).1

end Engine

end SpokenCalculator
