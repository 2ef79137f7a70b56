import SpokenCalculator.Failure

/-!
# Actions

An action changes a state and returns a value or fails. What it changed before
it failed stays changed. Failures can be observed, and a clean-up can be ordered
for success and failure alike.
-/

namespace SpokenCalculator

abbrev Action (σ α : Type) := ExceptT Failure (StateM σ) α

namespace Action

variable {σ τ α : Type}

def perform (action : Action σ α) (state : σ) : Except Failure α × σ := action.run.run state

def ofFunction (step : σ → Except Failure α × σ) : Action σ α := ExceptT.mk (StateT.mk step)

def change (step : σ → σ) : Action σ Unit := ofFunction fun state => (.ok (), step state)

def ofResult (result : Except Failure α) : Action σ α := ofFunction fun state => (result, state)

def attempt (action : Action σ α) : Action σ (Except Failure α) :=
  ofFunction fun state =>
    let (result, state) := action.perform state
    (.ok result, state)

/-- Run the clean-up after the action, however that ended. A failure of the
clean-up counts more. -/
def ensuring (action : Action σ α) (cleanUp : Action σ Unit) : Action σ α := do
  let result ← attempt action
  cleanUp
  ofResult result

def within (part : σ → τ) (replace : τ → σ → σ) (action : Action τ α) : Action σ α :=
  ofFunction fun state =>
    let (result, changed) := action.perform (part state)
    (result, replace changed state)

end Action

end SpokenCalculator
