import SpokenCalculator.Proofs.Assistant.Answering

namespace SpokenCalculator

open SpokenCalculator.Action

/-- Collaborators that keep their contract: muting always succeeds, the others
fail only as their kind does, and the transcriber hears less than a million
characters. -/
structure Collaborators.Faithful {σ : Type} (collaborators : Collaborators σ) : Prop where
  capture (seconds : Quantity) :
    (collaborators.capture seconds).Safe anything anything (·.kind.isA .device)
  transcribe (chunk : Chunk) :
    (collaborators.transcribe chunk).Safe anything
      (fun transcript => ∀ text ∈ transcript.text, text.length < 1000000)
      (·.kind.isA .transcriber)
  mute : collaborators.mute.Safe anything anything never
  unmute : collaborators.unmute.Safe anything anything never
  speak (stage : Stage) (interruption : Option MonitorTimes) (text : String) :
    (collaborators.speak stage interruption text).Safe anything anything (·.kind.isA .speaker)

/-- Faithful collaborators ask nothing of their surroundings. -/
theorem Collaborators.Faithful.speaksWithin {σ : Type} {collaborators : Collaborators σ}
    (h : collaborators.Faithful) : collaborators.SpeaksWithin anything anything never where
  mute := h.mute.leads_ends
  unmute := safe_iff_leads.mp h.unmute
  speak stage interruption text :=
    (h.speak stage interruption text).mono (fun _ => id) fun _ => Or.inr

namespace Assistant

variable {σ : Type} {settings : Settings} {collaborators : Collaborators σ}

theorem safe_turn (h : collaborators.Faithful) (hlow : 0 ≤ settings.spokenPlaces)
    (hhigh : settings.spokenPlaces ≤ 12) :
    (turn settings collaborators).Safe (Holds anything) anything never := by
  refine .bind (safe_setStage .listening) fun _ _ =>
    .bind (safe_ask (h.capture settings.listenSeconds)).attempt fun result hends => ?_
  cases result with
  | ok chunk =>
      exact safe_listenTo h.speaksWithin hlow hhigh
        ((h.transcribe chunk).mono (fun _ => id) fun _ => Or.inr)
  | error failure =>
      have hkind : failure.kind.isA .device := hends
      dsimp only
      rw [if_pos hkind]
      exact .pure trivial

/-- No transcript can crash a turn. -/
theorem turn_returns (settings : Settings) (hlow : 0 ≤ settings.spokenPlaces)
    (hhigh : settings.spokenPlaces ≤ 12) (collaborators : Collaborators σ)
    (hfaithful : collaborators.Faithful) (assistant : Assistant σ)
    (hmemory : assistant.engine.memory.Held) :
    ∃ result next, (turn settings collaborators).perform assistant = (.ok result, next) := by
  have hends := (safe_turn hfaithful hlow hhigh assistant ⟨hmemory, trivial⟩).2
  generalize (turn settings collaborators).perform assistant = outcome at hends ⊢
  obtain ⟨result, next⟩ := outcome
  cases result with
  | ok result => exact ⟨result, next, rfl⟩
  | error failure => exact hends.elim

/-- Collaborators that hear one text and have a broken speaker. -/
def hearing (text : String) : Collaborators Unit where
  capture _ := pure (Chunk.ofSamples [] 16000)
  transcribe _ := pure ⟨some text⟩
  mute := pure ()
  unmute := pure ()
  speak _ _ _ := throw ⟨.speaker, "no voice"⟩

theorem faithful_hearing {text : String} (hlength : text.length < 1000000) :
    (hearing text).Faithful where
  capture _ := .pure trivial
  transcribe _ := .pure fun _ htext => by
    cases htext
    exact hlength
  mute := .pure trivial
  unmute := .pure trivial
  speak _ _ _ := .throw rfl

/-- An assistant that needs a wake word and is asked to divide by zero, without
a voice to answer. -/
theorem turn_returns_hearing_division :
    ∃ settings : Settings, 0 ≤ settings.spokenPlaces ∧ settings.spokenPlaces ≤ 12 ∧
      (hearing "calculator, one divided by zero").Faithful ∧
        (initial (.withMemory .zero) ()).engine.memory.Held ∧
          ∃ result next,
            (turn settings (hearing "calculator, one divided by zero")).perform
              (initial (.withMemory .zero) ()) = (.ok result, next) := by
  have hfaithful :=
    faithful_hearing (by decide : "calculator, one divided by zero".length < 1000000)
  refine ⟨⟨.speech, .whole 30, .whole 4, .whole 3, false, .whole 1, .whole 1, .whole 1,
    Settings.usualWakeWords, "", 1, 4, none⟩, by decide,
    by decide, hfaithful, Decimal.held_zero, ?_⟩
  exact turn_returns _ (by decide) (by decide) _ hfaithful _ Decimal.held_zero

end Assistant

end SpokenCalculator
