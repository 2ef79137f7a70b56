import SpokenCalculator.Proofs.Action.Lockstep

namespace SpokenCalculator.Action

variable {σ τ α β : Type}

def Mirrors (view : σ → τ) (action : Action σ α) (plain : Action τ α) : Prop :=
  ∀ state, plain.perform (view state) =
    ((action.perform state).1, view (action.perform state).2)

variable {view : σ → τ} {action : Action σ α} {plain : Action τ α}

/-- The action goes in lockstep with the one that it mirrors, all of whose state
is seen. -/
theorem mirrors_iff_lockstep :
    Mirrors view action plain ↔ Lockstep view id Eq action plain := by
  constructor
  · rintro h state _ rfl
    rw [id, h state]
    exact ⟨rfl, .refl _⟩
  · intro h state
    obtain ⟨hview, hmatch⟩ := h state (view state) rfl
    exact Prod.ext hmatch.eq.symm hview.symm

namespace Mirrors

theorem pure (value : α) : Mirrors view (pure value) (pure value) := fun _ => rfl

theorem throw (failure : Failure) :
    Mirrors view (throw failure : Action σ α) (throw failure : Action τ α) := fun _ => rfl

theorem ofResult (result : Except Failure α) :
    Mirrors view (Action.ofResult result) (Action.ofResult result) := fun _ => rfl

theorem change {step : σ → σ} {plainStep : τ → τ}
    (h : ∀ state, plainStep (view state) = view (step state)) :
    Mirrors view (Action.change step) (Action.change plainStep) :=
  fun state => congrArg (Prod.mk (Except.ok ())) (h state)

theorem attempt (h : Mirrors view action plain) :
    Mirrors view (Action.attempt action) (Action.attempt plain) := by
  intro state
  change (Except.ok (plain.perform (view state)).1, (plain.perform (view state)).2) = _
  rw [h state]
  rfl

theorem bind {first : Action σ β} {plainFirst : Action τ β} {next : β → Action σ α}
    {plainNext : β → Action τ α} (hfirst : Mirrors view first plainFirst)
    (hnext : ∀ value, Mirrors view (next value) (plainNext value)) :
    Mirrors view (first >>= next) (plainFirst >>= plainNext) := by
  intro state
  rw [perform_bind, perform_bind, hfirst state]
  generalize first.perform state = outcome
  obtain ⟨result, after⟩ := outcome
  cases result with
  | ok value => exact hnext value after
  | error failure => rfl

/-- What is read from the state has to be in view. -/
theorem bind_get {next : σ → Action σ α} {plainNext : τ → Action τ α}
    (hnext : ∀ state, Mirrors view (next state) (plainNext (view state))) :
    Mirrors view (MonadState.get >>= next) (MonadState.get >>= plainNext) := by
  intro state
  rw [perform_bind, perform_bind, perform_get, perform_get]
  exact hnext state state

theorem ensuring {cleanUp : Action σ Unit} {plainCleanUp : Action τ Unit}
    (h : Mirrors view action plain) (hcleanUp : Mirrors view cleanUp plainCleanUp) :
    Mirrors view (Action.ensuring action cleanUp) (Action.ensuring plain plainCleanUp) :=
  h.attempt.bind fun result => hcleanUp.bind fun _ => ofResult result

end Mirrors

end SpokenCalculator.Action
