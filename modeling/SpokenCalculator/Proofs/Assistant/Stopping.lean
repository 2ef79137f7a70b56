import SpokenCalculator.Proofs.Assistant.HalfDuplex
import SpokenCalculator.Proofs.Assistant.Saying
import SpokenCalculator.Proofs.Assistant.Watching

namespace SpokenCalculator.Assistant

open SpokenCalculator.Action (anything)

variable {σ : Type}

def stopped (assistant : Assistant σ) : Assistant σ :=
  { assistant with
    stage := .idle, surroundings := { assistant.surroundings with running := false } }

def IsRunning (assistant : Assistant σ) : Prop := assistant.surroundings.running = true

section

variable (settings : Settings) (collaborators : Collaborators σ)

def greet : Action (Assistant σ) Unit := do
  setRunning true
  setStage .idle
  if !settings.greeting.isEmpty then
    let _ ← say settings collaborators settings.greeting

/-- A run takes at most the given number of turns. Without a limit it ends as all
runs do that may take enough turns. -/
def RunsTo (maxTurns : Option Int) (before : Assistant σ)
    (outcome : Except Failure (Option TurnResult)) (after : Assistant σ) : Prop :=
  match maxTurns with
  | some limit => (run settings collaborators limit.toNat).perform before = (outcome, after)
  | none => ∃ limit, ∀ more, limit ≤ more →
      (run settings collaborators more).perform before = (outcome, after)

theorem perform_greet (assistant : Assistant σ) :
    (greet settings collaborators).perform assistant =
      let raised := { assistant with
        stage := .idle, surroundings := { assistant.surroundings with running := true } }
      if settings.greeting.isEmpty then (.ok (), raised)
      else
        let said := (say settings collaborators settings.greeting).perform raised
        (said.1.map fun _ => (), said.2) := by
  have hraise : (setRunning true).perform assistant = (.ok (), { assistant with
      surroundings := { assistant.surroundings with running := true } }) := rfl
  have hidle : ∀ assistant : Assistant σ, (setStage .idle).perform assistant =
      (.ok (), { assistant with stage := .idle }) := fun _ => rfl
  rw [greet, Action.perform_bind, hraise]
  dsimp only
  rw [Action.perform_bind, hidle]
  dsimp only
  cases settings.greeting.isEmpty with
  | true => rfl
  | false =>
      simp only [Bool.not_false, if_true, Bool.false_eq_true, if_false]
      rw [Action.perform_bind]
      generalize (say settings collaborators settings.greeting).perform _ = said
      obtain ⟨result, greeted⟩ := said
      cases result <;> rfl

theorem run_eq_greet (limit : Nat) :
    run settings collaborators limit = (do
      greet settings collaborators
      Action.ensuring (turns settings collaborators limit none) do
        setRunning false
        setStage .idle) := by
  unfold run greet
  cases settings.greeting.isEmpty <;> simp

theorem perform_run (limit : Nat) (assistant : Assistant σ) :
    (run settings collaborators limit).perform assistant =
      match (greet settings collaborators).perform assistant with
      | (.ok (), greeted) =>
          let turned := (turns settings collaborators limit none).perform greeted
          (turned.1, turned.2.stopped)
      | (.error failure, greeted) => (.error failure, greeted) := by
  rw [run_eq_greet, Action.perform_bind]
  generalize (greet settings collaborators).perform assistant = outcome
  obtain ⟨result, greeted⟩ := outcome
  cases result with
  | error failure => rfl
  | ok value => exact Action.perform_ensuring _ _ greeted

end

variable {settings : Settings} {collaborators : Collaborators σ} {before after : Assistant σ}

theorem kind_of_say_fails {text : String} {failure : Failure}
    (h : ((say settings collaborators text).perform before).1 = .error failure) :
    failure.kind.isA .speaker = false := by
  rw [SayingSession.perform_say] at h
  unfold SayingSession.answerOf at h
  dsimp only at h
  split at h
  · cases h
  · split at h
    · cases h
    · rename_i hkind
      cases h
      exact eq_false_of_ne_true hkind

theorem stage_greet (settings : Settings) (collaborators : Collaborators σ)
    (before : Assistant σ) : ((greet settings collaborators).perform before).2.stage = .idle := by
  rw [perform_greet]
  dsimp only
  split
  · rfl
  · rw [SayingSession.perform_say]

/-- The greeting fails only if there is one, and not as a speaker does. -/
theorem kind_of_greet_fails {failure : Failure}
    (h : ((greet settings collaborators).perform before).1 = .error failure) :
    settings.greeting ≠ "" ∧ failure.kind.isA .speaker = false := by
  rw [perform_greet] at h
  dsimp only at h
  split at h
  · cases h
  · rename_i hgreets
    refine ⟨fun hempty => hgreets (by rw [hempty]; rfl), ?_⟩
    cases hsaid : ((say settings collaborators settings.greeting).perform _).1 with
    | ok outcome =>
        rw [hsaid] at h
        cases h
    | error said =>
        rw [hsaid] at h
        cases h
        exact kind_of_say_fails hsaid

theorem isRunning_greet (settings : Settings)
    (h : collaborators.SaysWithin IsRunning IsRunning anything) (before : Assistant σ) :
    ((greet settings collaborators).perform before).2.IsRunning := by
  rw [perform_greet]
  dsimp only
  split
  · rfl
  · have hraised : IsRunning { before with
        stage := .idle, surroundings := { before.surroundings with running := true } } := rfl
    exact (safe_say_of_saysWithin settings h settings.greeting _ hraised).1

theorem RunsTo.exists_limit {maxTurns : Option Int} {outcome : Except Failure (Option TurnResult)}
    (h : RunsTo settings collaborators maxTurns before outcome after) :
    ∃ limit, (run settings collaborators limit).perform before = (outcome, after) := by
  cases maxTurns with
  | some limit => exact ⟨limit.toNat, h⟩
  | none =>
      obtain ⟨limit, hruns⟩ := h
      exact ⟨limit, hruns limit (Nat.le_refl limit)⟩

/-- However a run ends, the assistant is idle. It is stopped as well, unless the
greeting fails other than as a speaker does: then the run fails with it and leaves
the assistant as it is, which goes on unless somebody stopped it meanwhile. -/
theorem run_stops_unless_greeting_fails (settings : Settings) (collaborators : Collaborators σ)
    (maxTurns : Option Int) (before after : Assistant σ)
    (outcome : Except Failure (Option TurnResult))
    (hrun : RunsTo settings collaborators maxTurns before outcome after) :
    after.stage = .idle ∧
    (∀ greeted, (greet settings collaborators).perform before = (.ok (), greeted) →
      ¬ after.IsRunning) ∧
    ∀ failure greeted, (greet settings collaborators).perform before = (.error failure, greeted) →
      outcome = .error failure ∧ after = greeted ∧
      settings.greeting ≠ "" ∧ failure.kind.isA .speaker = false ∧
      (collaborators.SaysWithin IsRunning IsRunning anything → after.IsRunning) := by
  obtain ⟨limit, hruns⟩ := hrun.exists_limit
  rw [perform_run] at hruns
  cases hgreets : (greet settings collaborators).perform before with
  | mk result greeted =>
      rw [hgreets] at hruns
      cases result with
      | ok value =>
          obtain ⟨-, rfl⟩ := Prod.mk.inj hruns
          refine ⟨rfl, fun _ _ => Bool.false_ne_true, ?_⟩
          rintro _ _ ⟨⟩
      | error failure =>
          obtain ⟨rfl, rfl⟩ := Prod.mk.inj hruns
          have hstage := stage_greet settings collaborators before
          obtain ⟨hgreeting, hkind⟩ := kind_of_greet_fails (congrArg Prod.fst hgreets)
          rw [hgreets] at hstage
          refine ⟨hstage, fun _ hok => ?_, ?_⟩
          · cases (Prod.mk.inj hok).1
          · rintro _ _ ⟨⟩
            refine ⟨rfl, rfl, hgreeting, hkind, fun hsays => ?_⟩
            have hrunning := isRunning_greet settings hsays before
            rw [hgreets] at hrunning
            exact hrunning

/-- Nobody hears this assistant, and its speaker breaks down. -/
def speechless : Collaborators Unit where
  capture _ := throw ⟨.device, "microphone unplugged"⟩
  transcribe _ := pure .silence
  mute := pure ()
  unmute := pure ()
  speak _ _ _ := throw ⟨.runtime, "boom"⟩

theorem saysWithin_speechless : speechless.SaysWithin IsRunning IsRunning anything where
  stage _ _ hrunning := hrunning
  mute _ hrunning := hrunning
  unmute _ hrunning := ⟨hrunning, trivial⟩
  speak _ _ _ _ hrunning := ⟨hrunning, Or.inl trivial⟩

def speechlessRun : Except Failure (Option TurnResult) × Assistant Unit :=
  (run greetingSettings speechless 1).perform (initial (.withMemory .zero) ())

theorem run_stops_unless_greeting_fails_speechless :
    RunsTo greetingSettings speechless (some 1) (initial (.withMemory .zero) ())
        speechlessRun.1 speechlessRun.2 ∧
      speechless.SaysWithin IsRunning IsRunning anything ∧
      speechlessRun.1 = .error ⟨.runtime, "boom"⟩ ∧ speechlessRun.2.stage = .idle ∧
      speechlessRun.2.IsRunning := by
  have hrun : RunsTo greetingSettings speechless (some 1) (initial (.withMemory .zero) ())
    speechlessRun.1 speechlessRun.2 := rfl
  have hgreets : (greet greetingSettings speechless).perform (initial (.withMemory .zero) ()) =
    (.error ⟨.runtime, "boom"⟩, speechlessRun.2) := rfl
  obtain ⟨hstage, -, hfails⟩ := run_stops_unless_greeting_fails greetingSettings speechless (some 1)
    _ _ _ hrun
  obtain ⟨houtcome, -, -, -, hrunning⟩ := hfails _ _ hgreets
  exact ⟨hrun, saysWithin_speechless, houtcome, hstage, hrunning saysWithin_speechless⟩

/-- The speaker breaks down at the greeting, and the assistant goes on. -/
theorem not_run_stops : ¬ ∀ (settings : Settings) (collaborators : Collaborators Unit)
    (maxTurns : Option Int) (before after : Assistant Unit)
    (outcome : Except Failure (Option TurnResult)),
    RunsTo settings collaborators maxTurns before outcome after →
      ¬ after.IsRunning ∧ after.stage = .idle := by
  intro h
  have hstops := h greetingSettings speechless (some 1) (initial (.withMemory .zero) ())
    speechlessRun.2 speechlessRun.1 rfl
  exact hstops.1 rfl

end SpokenCalculator.Assistant
