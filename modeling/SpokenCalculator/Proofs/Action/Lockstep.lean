import SpokenCalculator.Proofs.Action

namespace SpokenCalculator.Action

variable {σ τ κ α β γ δ : Type}

/-- Two outcomes match if both are values that belong together, or both are the
same failure. -/
def Matches (belong : α → β → Prop) : Except Failure α → Except Failure β → Prop
  | .ok value, .ok other => belong value other
  | .error failure, .error other => failure = other
  | _, _ => False

def Lockstep (see : σ → κ) (look : τ → κ) (belong : α → β → Prop) (left : Action σ α)
    (right : Action τ β) : Prop :=
  ∀ first second, see first = look second →
    see (left.perform first).2 = look (right.perform second).2 ∧
      Matches belong (left.perform first).1 (right.perform second).1

variable {see : σ → κ} {look : τ → κ} {belong : α → β → Prop} {left : Action σ α}
  {right : Action τ β}

theorem Matches.mono {wider : α → β → Prop} {outcome : Except Failure α}
    {other : Except Failure β} (h : Matches belong outcome other)
    (hwider : ∀ value other, belong value other → wider value other) :
    Matches wider outcome other := by
  cases outcome <;> cases other
  · exact h
  · exact h
  · exact h
  · exact hwider _ _ h

theorem Matches.refl (outcome : Except Failure α) : Matches Eq outcome outcome := by
  cases outcome <;> rfl

theorem Matches.eq {outcome other : Except Failure α} (h : Matches Eq outcome other) :
    outcome = other := by
  cases outcome <;> cases other
  · exact congrArg _ h
  · exact h.elim
  · exact h.elim
  · exact congrArg _ h

namespace Lockstep

theorem mono {wider : α → β → Prop} (h : Lockstep see look belong left right)
    (hwider : ∀ value other, belong value other → wider value other) :
    Lockstep see look wider left right :=
  fun first second hsame =>
    ⟨(h first second hsame).1, (h first second hsame).2.mono hwider⟩

theorem pure {value : α} {other : β} (h : belong value other) :
    Lockstep see look belong (pure value) (pure other) := fun _ _ hsame => ⟨hsame, h⟩

theorem throw (failure : Failure) :
    Lockstep see look belong (throw failure : Action σ α) (throw failure : Action τ β) :=
  fun _ _ hsame => ⟨hsame, rfl⟩

theorem ofResult {result : Except Failure α} {other : Except Failure β}
    (h : Matches belong result other) :
    Lockstep see look belong (Action.ofResult result) (Action.ofResult other) :=
  fun _ _ hsame => ⟨hsame, h⟩

theorem change {step : σ → σ} {otherStep : τ → τ}
    (h : ∀ first second, see first = look second → see (step first) = look (otherStep second)) :
    Lockstep see look Eq (Action.change step) (Action.change otherStep) :=
  fun first second hsame => ⟨h first second hsame, rfl⟩

theorem attempt (h : Lockstep see look belong left right) :
    Lockstep see look (Matches belong) (Action.attempt left) (Action.attempt right) := h

theorem bind {between : γ → δ → Prop} {first : Action σ γ} {second : Action τ δ}
    {next : γ → Action σ α} {otherNext : δ → Action τ β}
    (h : Lockstep see look between first second)
    (hnext : ∀ value other, between value other →
      Lockstep see look belong (next value) (otherNext other)) :
    Lockstep see look belong (first >>= next) (second >>= otherNext) := by
  intro state other hsame
  obtain ⟨hafter, hmatch⟩ := h state other hsame
  rw [perform_bind, perform_bind]
  generalize first.perform state = outcome at hafter hmatch ⊢
  generalize second.perform other = otherOutcome at hafter hmatch ⊢
  obtain ⟨result, state⟩ := outcome
  obtain ⟨otherResult, other⟩ := otherOutcome
  cases result <;> cases otherResult
  · exact ⟨hafter, hmatch⟩
  · exact hmatch.elim
  · exact hmatch.elim
  · exact hnext _ _ hmatch state other hafter

/-- What is read is used only as far as it is seen. -/
theorem bind_get {next : σ → Action σ α} {otherNext : τ → Action τ β}
    (hnext : ∀ state other, see state = look other →
      Lockstep see look belong (next state) (otherNext other)) :
    Lockstep see look belong (MonadState.get >>= next) (MonadState.get >>= otherNext) :=
  fun state other hsame => hnext state other hsame state other hsame

theorem ensuring {cleanUp : Action σ Unit} {otherCleanUp : Action τ Unit}
    (h : Lockstep see look belong left right)
    (hcleanUp : Lockstep see look Eq cleanUp otherCleanUp) :
    Lockstep see look belong (Action.ensuring left cleanUp) (Action.ensuring right otherCleanUp) :=
  h.attempt.bind fun _ _ hmatch => hcleanUp.bind fun _ _ _ => ofResult hmatch

section

variable {alone : Action σ γ} (halone : ∀ view, Safe (see · = view) anything never alone)

include halone

/-- An action that changes nothing that is seen and returns may go alone. -/
theorem bind_left {next : γ → Action σ α}
    (hnext : ∀ value, Lockstep see look belong (next value) right) :
    Lockstep see look belong (alone >>= next) right := by
  intro state other hsame
  obtain ⟨hkept, hends⟩ := halone (look other) state hsame
  rw [perform_bind]
  generalize alone.perform state = outcome at hkept hends ⊢
  obtain ⟨result, state⟩ := outcome
  cases result with
  | ok value => exact hnext value state other hkept
  | error failure => exact hends.elim

end

section

variable {alone : Action τ δ} (halone : ∀ view, Safe (look · = view) anything never alone)

include halone

theorem bind_right {next : δ → Action τ β}
    (hnext : ∀ value, Lockstep see look belong left (next value)) :
    Lockstep see look belong left (alone >>= next) := by
  intro state other hsame
  obtain ⟨hkept, hends⟩ := halone (see state) other hsame.symm
  rw [perform_bind]
  generalize alone.perform other = outcome at hkept hends ⊢
  obtain ⟨result, other⟩ := outcome
  cases result with
  | ok value => exact hnext value state other hkept.symm
  | error failure => exact hends.elim

end

/-- Two actions that change nothing that is seen and return go in lockstep,
whatever else they do. -/
theorem of_safe {returns : α → Prop} {others : β → Prop}
    (hleft : ∀ view, Safe (see · = view) returns never left)
    (hright : ∀ view, Safe (look · = view) others never right) :
    Lockstep see look (fun value other => returns value ∧ others other) left right := by
  intro state other hsame
  obtain ⟨hkept, hends⟩ := hleft (look other) state hsame
  obtain ⟨hotherKept, hotherEnds⟩ := hright (look other) other rfl
  refine ⟨hkept.trans hotherKept.symm, ?_⟩
  cases hresult : (left.perform state).1 with
  | error failure =>
      rw [hresult] at hends
      exact hends.elim
  | ok value =>
      rw [hresult] at hends
      cases hother : (right.perform other).1 with
      | error failure =>
          rw [hother] at hotherEnds
          exact hotherEnds.elim
      | ok result =>
          rw [hother] at hotherEnds
          exact ⟨hends, hotherEnds⟩

end Lockstep

end SpokenCalculator.Action
