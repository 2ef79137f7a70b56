import SpokenCalculator.Action

/-!
# What actions keep and how they end

An action is safe when it keeps an invariant of the state, however it ends, and
returns only values and fails only with failures of a certain sort. There is one
lemma for each way to build an action.
-/

namespace SpokenCalculator.Action

variable {σ α β : Type}

theorem perform_bind (first : Action σ β) (next : β → Action σ α) (state : σ) :
    (first >>= next).perform state =
      match first.perform state with
      | (.ok value, state) => (next value).perform state
      | (.error failure, state) => (.error failure, state) := by
  change StateT.run (ExceptT.bindCont next (first.perform state).1) (first.perform state).2 = _
  generalize first.perform state = outcome
  obtain ⟨result, state⟩ := outcome
  cases result <;> rfl

theorem perform_get (state : σ) :
    (MonadState.get : Action σ σ).perform state = (.ok state, state) := rfl

/-- What is attempted hands on its outcome, whether it failed or not. -/
theorem perform_bind_attempt (first : Action σ β) (next : Except Failure β → Action σ α)
    (state : σ) :
    (attempt first >>= next).perform state =
      (next (first.perform state).1).perform (first.perform state).2 := rfl

theorem exists_perform_of_bind {first : Action σ β} {next : β → Action σ α} {state after : σ}
    {value : α} (h : (first >>= next).perform state = (.ok value, after)) :
    ∃ result middle, first.perform state = (.ok result, middle) ∧
      (next result).perform middle = (.ok value, after) := by
  rw [perform_bind] at h
  split at h
  · rename_i result middle hfirst
    exact ⟨result, middle, hfirst, h⟩
  · cases h

theorem perform_ensuring (action : Action σ α) (cleanUp : Action σ Unit) (state : σ) :
    (ensuring action cleanUp).perform state =
      match cleanUp.perform (action.perform state).2 with
      | (.ok (), after) => ((action.perform state).1, after)
      | (.error failure, after) => (.error failure, after) := by
  rw [ensuring, perform_bind_attempt, perform_bind]
  generalize cleanUp.perform (action.perform state).2 = outcome
  obtain ⟨result, after⟩ := outcome
  cases result <;> rfl

/-- The clean-up has the last word about the state. -/
theorem perform_ensuring_state (action : Action σ α) (cleanUp : Action σ Unit) (state : σ) :
    ((ensuring action cleanUp).perform state).2 =
      (cleanUp.perform (action.perform state).2).2 := by
  rw [perform_ensuring]
  generalize cleanUp.perform (action.perform state).2 = outcome
  obtain ⟨result, after⟩ := outcome
  cases result <;> rfl

/-- The way an action may end. -/
def Ends (returns : α → Prop) (fails : Failure → Prop) : Except Failure α → Prop
  | .ok value => returns value
  | .error failure => fails failure

theorem Ends.mono {returns more : α → Prop} {fails moreFails : Failure → Prop}
    {outcome : Except Failure α} (h : Ends returns fails outcome)
    (hreturns : ∀ value, returns value → more value)
    (hfails : ∀ failure, fails failure → moreFails failure) : Ends more moreFails outcome := by
  cases outcome with
  | ok value => exact hreturns value h
  | error failure => exact hfails failure h

/-- The action keeps the invariant and ends in one of the given ways. -/
def Safe (inv : σ → Prop) (returns : α → Prop) (fails : Failure → Prop)
    (action : Action σ α) : Prop :=
  ∀ state, inv state →
    inv (action.perform state).2 ∧ Ends returns fails (action.perform state).1

def anything (_ : α) : Prop := True

def never (_ : Failure) : Prop := False

variable {inv : σ → Prop} {returns : α → Prop} {fails : Failure → Prop} {action : Action σ α}

namespace Safe

theorem pure {value : α} (h : returns value) : Safe inv returns fails (pure value) :=
  fun _ hstate => ⟨hstate, h⟩

theorem throw {failure : Failure} (h : fails failure) :
    Safe inv returns fails (throw failure : Action σ α) :=
  fun _ hstate => ⟨hstate, h⟩

theorem get : Safe inv inv fails (MonadState.get : Action σ σ) :=
  fun _ hstate => ⟨hstate, hstate⟩

theorem change {step : σ → σ} (h : ∀ state, inv state → inv (step state)) :
    Safe inv anything fails (Action.change step) :=
  fun state hstate => ⟨h state hstate, trivial⟩

theorem ofResult {result : Except Failure α} (h : Ends returns fails result) :
    Safe inv returns fails (Action.ofResult result) :=
  fun _ hstate => ⟨hstate, h⟩

theorem bind {middle : β → Prop} {first : Action σ β} {next : β → Action σ α}
    (hfirst : Safe inv middle fails first)
    (hnext : ∀ value, middle value → Safe inv returns fails (next value)) :
    Safe inv returns fails (first >>= next) := by
  intro state hstate
  obtain ⟨hinv, hends⟩ := hfirst state hstate
  rw [perform_bind]
  generalize first.perform state = outcome at hinv hends ⊢
  obtain ⟨result, state⟩ := outcome
  cases result with
  | ok value => exact hnext value hends state hinv
  | error failure => exact ⟨hinv, hends⟩

theorem attempt (h : Safe inv returns fails action) {other : Failure → Prop} :
    Safe inv (Ends returns fails) other (Action.attempt action) := h

/-- A clean-up that does not fail changes nothing about how an action ends. -/
theorem ensuring {cleanUp : Action σ Unit} (h : Safe inv returns fails action)
    (hcleanUp : Safe inv anything fails cleanUp) :
    Safe inv returns fails (Action.ensuring action cleanUp) :=
  bind h.attempt fun _ hends => bind hcleanUp fun _ _ => ofResult hends

theorem mono {more : α → Prop} {moreFails : Failure → Prop} (h : Safe inv returns fails action)
    (hreturns : ∀ value, returns value → more value)
    (hfails : ∀ failure, fails failure → moreFails failure) :
    Safe inv more moreFails action :=
  fun state hstate => ⟨(h state hstate).1, (h state hstate).2.mono hreturns hfails⟩

end Safe

end SpokenCalculator.Action
