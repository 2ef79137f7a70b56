import SpokenCalculator.Proofs.Assistant.Saying
import SpokenCalculator.Proofs.Assistant.WakeWord
import SpokenCalculator.Proofs.Engine
import SpokenCalculator.Proofs.Spelling.Number

namespace SpokenCalculator

open SpokenCalculator.Action

variable {σ α : Type}

/-- Muting leads from what holds between texts to what the speaker keeps, and
unmuting back. Beside the failures of the speaker there are only the given
ones. -/
structure Collaborators.SpeaksWithin (collaborators : Collaborators σ)
    (quiet speaking : Surroundings σ → Prop) (fails : Failure → Prop) : Prop where
  mute : collaborators.mute.Leads quiet fun outcome surroundings =>
    Ends (fun _ => speaking surroundings) (fun failure => quiet surroundings ∧ fails failure)
      outcome
  unmute : collaborators.unmute.Leads speaking fun outcome surroundings =>
    quiet surroundings ∧ Ends anything fails outcome
  speak (stage : Stage) (interruption : Option MonitorTimes) (text : String) :
    (collaborators.speak stage interruption text).Safe speaking anything
      fun failure => fails failure ∨ failure.kind.isA .speaker

def Transcript.IsShort (transcript : Transcript) : Prop :=
  ∀ text ∈ transcript.text, text.length < 1000000

namespace Assistant

/-- The memory is in its form, and the surroundings are as they should be. -/
def Holds (quiet : Surroundings σ → Prop) (assistant : Assistant σ) : Prop :=
  assistant.engine.memory.Held ∧ quiet assistant.surroundings

section

variable {quiet : Surroundings σ → Prop} {returns : α → Prop} {fails : Failure → Prop}

theorem safe_setStage (stage : Stage) :
    (setStage stage : Action (Assistant σ) Unit).Safe (Holds quiet) anything fails :=
  .change fun _ hholds => hholds

theorem leads_ask {action : Action (Surroundings σ) α}
    {post : Except Failure α → Surroundings σ → Prop} (h : action.Leads quiet post) :
    (ask action).Leads (Holds quiet) fun outcome assistant =>
      assistant.engine.memory.Held ∧ post outcome assistant.surroundings :=
  fun assistant hholds => ⟨hholds.1, h assistant.surroundings hholds.2⟩

theorem safe_ask {action : Action (Surroundings σ) α} (h : action.Safe quiet returns fails) :
    (ask action).Safe (Holds quiet) returns fails := by
  rintro assistant ⟨hmemory, hquiet⟩
  obtain ⟨hafter, hends⟩ := h assistant.surroundings hquiet
  exact ⟨⟨hmemory, hafter⟩, hends⟩

end

variable {settings : Settings} {collaborators : Collaborators σ}
  {quiet speaking : Surroundings σ → Prop} {fails : Failure → Prop}
  (h : collaborators.SpeaksWithin quiet speaking fails)

include h

theorem saysWithin_of_speaksWithin :
    collaborators.SaysWithin (Holds quiet) (Holds speaking) fails where
  stage _ _ hholds := hholds
  mute := by
    rintro assistant ⟨hmemory, hquiet⟩
    exact (h.mute assistant.surroundings hquiet).mono (fun _ hafter => ⟨hmemory, hafter⟩)
      fun _ hafter => ⟨⟨hmemory, hafter.1⟩, hafter.2⟩
  unmute := by
    rintro assistant ⟨hmemory, hspeaking⟩
    obtain ⟨hafter, hends⟩ := h.unmute assistant.surroundings hspeaking
    exact ⟨⟨hmemory, hafter⟩, hends⟩
  speak stage interruption text := safe_ask (h.speak stage interruption text)

theorem safe_say (text : String) :
    (say settings collaborators text).Safe (Holds quiet) anything fails :=
  safe_say_of_saysWithin settings (saysWithin_of_speaksWithin h) text

theorem safe_respond (text : String) :
    (respond settings collaborators text).Safe (Holds quiet) anything fails :=
  (safe_respond_of_saysWithin settings (saysWithin_of_speaksWithin h) text).mono
    (fun _ _ => trivial) fun _ => id

variable (hlow : 0 ≤ settings.spokenPlaces) (hhigh : settings.spokenPlaces ≤ 12)

include hlow hhigh

theorem safe_respondWith (command : Command) {value : Decimal} (hvalue : value.Held) :
    (respondWith settings collaborators command value).Safe (Holds quiet) anything fails := by
  obtain ⟨words, hwords⟩ := Spelling.exists_number_eq hvalue hlow hhigh
  have hreply : ∃ reply, Reply.result command value settings.spokenPlaces = .ok reply := by
    cases command with
    | clear => exact ⟨_, rfl⟩
    | «recall» =>
        rw [Reply.result, hwords]
        exact ⟨_, rfl⟩
    | compute => exact ⟨words, hwords⟩
    | apply => exact ⟨words, hwords⟩
    | unrecognized => exact ⟨words, hwords⟩
  obtain ⟨reply, hreply⟩ := hreply
  refine .bind (.ofResult (?_ : Ends anything fails _)) fun reply _ => safe_respond h reply
  rw [hreply]
  trivial

/-- Evaluation fails only as a calculation does, which is answered. -/
theorem safe_answer {command : Command} {size : ℕ} (hcommand : command.WrittenIn size)
    (hsize : size < 1000000) :
    (answer settings collaborators command).Safe (Holds quiet) anything fails := by
  refine .bind (safe_setStage .evaluating) fun _ _ => .bind .get fun assistant hholds => ?_
  rcases Engine.evaluate_cases hholds.1 hcommand hsize with
    ⟨value, engine, hok, hvalue, hnext⟩ | ⟨fault, herror, hkind⟩
  · rw [hok]
    exact .bind (.change fun _ hstate => ⟨hnext, hstate.2⟩) fun _ _ =>
      safe_respondWith h hlow hhigh command hvalue
  · rw [herror]
    dsimp only
    rw [if_pos hkind]
    exact safe_respond h _

theorem safe_follow {phrase : String} (hsize : Text.bulk phrase.toList < 1000000) :
    (follow settings collaborators phrase).Safe (Holds quiet) anything fails := by
  obtain ⟨command, hok, hcommand⟩ := Command.parse_writtenIn hsize
  refine .bind (safe_setStage .parsing) fun _ _ =>
    .bind (.ofResult (?_ : Ends (· = command) fails _)) fun found hfound => ?_
  · rw [hok]
    rfl
  · rw [hfound]
    exact safe_answer h hlow hhigh hcommand hsize

theorem safe_hear {text : String} (hlength : text.length < 1000000) :
    (hear settings collaborators text).Safe (Holds quiet) anything fails := by
  have hbulk : Text.bulk text.toList < 1000000 :=
    (Text.bulk_le_length _).trans_lt (by rwa [String.length_toList])
  refine .bind .get fun assistant _ => ?_
  cases haddress : WakeWord.address settings.wakeWords assistant.armed text with
  | mk address armed =>
      refine .bind (.change fun _ hholds => hholds) fun _ _ => ?_
      cases address with
      | ignored => exact .pure trivial
      | wakeWordAlone => exact safe_respond h _
      | phrase phrase =>
          exact safe_follow h hlow hhigh ((WakeWord.bulk_phrase_le haddress).trans_lt hbulk)

theorem safe_listenTo {chunk : Chunk}
    (htranscribe : (collaborators.transcribe chunk).Safe quiet Transcript.IsShort
      fun failure => fails failure ∨ failure.kind.isA .transcriber) :
    (listenTo settings collaborators chunk).Safe (Holds quiet) anything fails := by
  refine .bind (safe_setStage .transcribing) fun _ _ =>
    .bind (safe_retry (safe_ask htranscribe) .transcriber settings.retries).attempt
      fun result hends => ?_
  cases result with
  | ok transcript =>
      obtain ⟨heard⟩ := transcript
      cases heard with
      | none => exact .pure trivial
      | some text =>
          dsimp only
          split
          · exact .pure trivial
          · exact safe_hear h hlow hhigh (hends text rfl)
  | error failure =>
      dsimp only
      split
      · exact safe_respond h _
      · rename_i hkind
        exact .throw (hends.resolve_right hkind)

end Assistant

end SpokenCalculator
