import SpokenCalculator.Proofs.Action

/-!
# What actions write into a log

When the state keeps a log, an action adds events at its end. What it may add
depends on how it ends; the events of two actions after each other stand behind
each other. Two actions that differ only in how long they go on are compared by
their logs. There is one lemma for each way to build an action.
-/

namespace SpokenCalculator.Action

variable {σ ε α β : Type}

/-- From a state of the first kind the action adds events of the given shape to
the log, and it leaves a state of the second kind, however it ends. -/
def Logs (log : σ → List ε) (pre post : σ → Prop) (shape : Except Failure α → List ε → Prop)
    (action : Action σ α) : Prop :=
  ∀ state, pre state → post (action.perform state).2 ∧
    ∃ events, log (action.perform state).2 = log state ++ events ∧
      shape (action.perform state).1 events

/-- The outcome of an action that returns, and nothing was logged. -/
def Silently (returns : α → Prop) (outcome : Except Failure α) (events : List ε) : Prop :=
  events = [] ∧ ∃ value, outcome = .ok value ∧ returns value

variable {log : σ → List ε} {pre middle post : σ → Prop}
  {shape : Except Failure α → List ε → Prop} {action : Action σ α}

namespace Logs

theorem mono {wider : Except Failure α → List ε → Prop} (h : Logs log pre post shape action)
    (hshape : ∀ outcome events, shape outcome events → wider outcome events) :
    Logs log pre post wider action := by
  intro state hpre
  obtain ⟨hpost, events, hlog, hevents⟩ := h state hpre
  exact ⟨hpost, events, hlog, hshape _ events hevents⟩

theorem mono_pre {stronger : σ → Prop} (h : Logs log pre post shape action)
    (hpre : ∀ state, stronger state → pre state) : Logs log stronger post shape action :=
  fun state hstronger => h state (hpre state hstronger)

theorem mono_post {weaker : σ → Prop} (h : Logs log pre post shape action)
    (hpost : ∀ state, post state → weaker state) : Logs log pre weaker shape action :=
  fun state hpre => ⟨hpost _ (h state hpre).1, (h state hpre).2⟩

theorem ofResult {result : Except Failure α} (h : shape result []) :
    Logs log pre pre shape (Action.ofResult result) :=
  fun _ hpre => ⟨hpre, [], (List.append_nil _).symm, h⟩

theorem pure {value : α} (h : shape (.ok value) []) : Logs log pre pre shape (pure value) :=
  fun _ hpre => ⟨hpre, [], (List.append_nil _).symm, h⟩

theorem throw {failure : Failure} (h : shape (.error failure) []) :
    Logs log pre pre shape (throw failure : Action σ α) :=
  fun _ hpre => ⟨hpre, [], (List.append_nil _).symm, h⟩

theorem get : Logs log pre pre (Silently pre) (MonadState.get : Action σ σ) :=
  fun state hpre => ⟨hpre, [], (List.append_nil _).symm, rfl, state, rfl, hpre⟩

theorem change {step : σ → σ} (hpost : ∀ state, pre state → post (step state))
    (hlog : ∀ state, log (step state) = log state) :
    Logs log pre post (Silently anything) (Action.change step) :=
  fun state hpre =>
    ⟨hpost state hpre, [], (hlog state).trans (List.append_nil _).symm, rfl, (), rfl, trivial⟩

theorem attempt (h : Logs log pre post shape action) :
    Logs log pre post (fun outcome events => ∃ result, outcome = .ok result ∧ shape result events)
      (Action.attempt action) := by
  intro state hpre
  obtain ⟨hpost, events, hlog, hevents⟩ := h state hpre
  exact ⟨hpost, events, hlog, _, rfl, hevents⟩

theorem bind {first : Action σ β} {next : β → Action σ α}
    {before : Except Failure β → List ε → Prop} (hfirst : Logs log pre middle before first)
    (hfails : ∀ failure events, before (.error failure) events →
      shape (.error failure) events ∧ ∀ state, middle state → post state)
    (hnext : ∀ value events, before (.ok value) events →
      Logs log middle post (fun outcome further => shape outcome (events ++ further))
        (next value)) :
    Logs log pre post shape (first >>= next) := by
  intro state hpre
  obtain ⟨hmiddle, events, hlog, hevents⟩ := hfirst state hpre
  rw [perform_bind]
  generalize first.perform state = outcome at hmiddle hlog hevents ⊢
  obtain ⟨result, after⟩ := outcome
  cases result with
  | error failure =>
      obtain ⟨hshape, hpost⟩ := hfails failure events hevents
      exact ⟨hpost after hmiddle, events, hlog, hshape⟩
  | ok value =>
      obtain ⟨hpost, further, hfurther, hshape⟩ := hnext value events hevents after hmiddle
      refine ⟨hpost, events ++ further, ?_, hshape⟩
      rw [← List.append_assoc, ← hlog]
      exact hfurther

theorem bind_silently {first : Action σ β} {next : β → Action σ α} {returns : β → Prop}
    (hfirst : Logs log pre middle (Silently returns) first)
    (hnext : ∀ value, returns value → Logs log middle post shape (next value)) :
    Logs log pre post shape (first >>= next) := by
  refine hfirst.bind ?_ ?_
  · rintro failure events ⟨_, value, hvalue, _⟩
    cases hvalue
  · rintro value events ⟨rfl, _, ⟨⟩, hvalue⟩
    exact hnext value hvalue

theorem bind_attempt {first : Action σ β} {next : Except Failure β → Action σ α}
    {before : Except Failure β → List ε → Prop} (hfirst : Logs log pre middle before first)
    (hnext : ∀ result events, before result events →
      Logs log middle post (fun outcome further => shape outcome (events ++ further))
        (next result)) :
    Logs log pre post shape (Action.attempt first >>= next) := by
  refine hfirst.attempt.bind ?_ ?_
  · rintro failure events ⟨result, hresult, _⟩
    cases hresult
  · rintro result events ⟨_, ⟨⟩, hevents⟩
    exact hnext result events hevents

theorem bind_ofResult {result : Except Failure β} {next : β → Action σ α}
    (hfails : ∀ failure, shape (.error failure) [])
    (hnext : ∀ value, Logs log pre pre shape (next value)) :
    Logs log pre pre shape (Action.ofResult result >>= next) := by
  have hresult : Logs log pre pre (fun _ events => events = []) (Action.ofResult result) :=
    ofResult rfl
  refine hresult.bind ?_ ?_
  · rintro failure _ rfl
    exact ⟨hfails failure, fun _ hpre => hpre⟩
  · rintro value _ rfl
    exact hnext value

/-- A clean-up that returns adds its events behind those of the action. -/
theorem ensuring {cleanUp : Action σ Unit} {before : Except Failure α → List ε → Prop}
    {tail : List ε} (h : Logs log pre middle before action)
    (hcleanUp : Logs log middle post (fun outcome events => outcome = .ok () ∧ events = tail)
      cleanUp)
    (hshape : ∀ outcome events, before outcome events → shape outcome (events ++ tail)) :
    Logs log pre post shape (Action.ensuring action cleanUp) := by
  refine h.bind_attempt fun result events hevents => hcleanUp.bind ?_ ?_
  · rintro failure further ⟨hfails, _⟩
    cases hfails
  · rintro _ further ⟨_, rfl⟩
    refine ofResult ?_
    rw [List.append_nil]
    exact hshape result events hevents

end Logs

/-- The longer of two actions logs at least what the shorter one does. -/
def Extends (log : σ → List ε) (pre : σ → Prop) (shorter longer : Action σ α) : Prop :=
  ∀ state, pre state → log (shorter.perform state).2 <+: log (longer.perform state).2

namespace Extends

theorem refl (action : Action σ α) : Extends log pre action action :=
  fun _ _ => List.prefix_rfl

theorem pure {longer : Action σ α} (h : Logs log pre post shape longer) (value : α) :
    Extends log pre (pure value) longer := by
  intro state hpre
  obtain ⟨-, events, hlog, -⟩ := h state hpre
  exact ⟨events, hlog.symm⟩

theorem bind {first : Action σ β} {shorter longer : β → Action σ α}
    {before : Except Failure β → List ε → Prop} (hfirst : Logs log pre middle before first)
    (hnext : ∀ value, Extends log middle (shorter value) (longer value)) :
    Extends log pre (first >>= shorter) (first >>= longer) := by
  intro state hpre
  have hmiddle := (hfirst state hpre).1
  rw [perform_bind, perform_bind]
  generalize first.perform state = outcome at hmiddle ⊢
  obtain ⟨result, after⟩ := outcome
  cases result with
  | error failure => exact List.prefix_rfl
  | ok value => exact hnext value after hmiddle

theorem ensuring {shorter longer : Action σ α} {cleanUp : Action σ Unit}
    (h : Extends log pre shorter longer)
    (hcleanUp : ∀ state, log (cleanUp.perform state).2 = log state) :
    Extends log pre (Action.ensuring shorter cleanUp) (Action.ensuring longer cleanUp) := by
  intro state hpre
  rw [perform_ensuring_state, perform_ensuring_state, hcleanUp, hcleanUp]
  exact h state hpre

end Extends

end SpokenCalculator.Action
