import SpokenCalculator.Proofs.Action.Mirror
import SpokenCalculator.Proofs.Assistant.Abreast

namespace SpokenCalculator

open SpokenCalculator.Action

/-- A call to a collaborator. The flag says whether the microphone was muted
when the call was made. -/
inductive Call where
  | mute
  | unmute
  | capture (muted : Bool) (outcome : Except Failure Chunk)
  | transcribe (muted : Bool) (chunk : Chunk) (outcome : Except Failure Transcript)
  | speak (muted : Bool) (stage : Stage) (text : String) (outcome : Except Failure SpeechOutcome)

/-- The world of the collaborators, with the calls that were made to them. -/
structure Recording (σ : Type) where
  world : σ
  muted : Bool
  calls : List Call

variable {σ α : Type}

namespace Recording

def unrecorded (surroundings : Surroundings (Recording σ)) : Surroundings σ :=
  ⟨surroundings.running, surroundings.world.world⟩

def noted (note : Bool → Except Failure α → Call) (muting : Bool → Bool)
    (action : Action (Surroundings σ) α) : Action (Surroundings (Recording σ)) α :=
  .ofFunction fun surroundings =>
    let recording := surroundings.world
    let (outcome, after) := action.perform (unrecorded surroundings)
    (outcome, ⟨after.running, after.world, muting recording.muted,
      recording.calls ++ [note recording.muted outcome]⟩)

end Recording

open Recording

def Collaborators.recorded (collaborators : Collaborators σ) : Collaborators (Recording σ) where
  capture seconds := noted .capture id (collaborators.capture seconds)
  transcribe chunk :=
    noted (fun muted => .transcribe muted chunk) id (collaborators.transcribe chunk)
  mute := noted (fun _ _ => .mute) (fun _ => true) collaborators.mute
  unmute := noted (fun _ _ => .unmute) (fun _ => false) collaborators.unmute
  speak stage interruption text :=
    noted (fun muted => .speak muted stage text) id (collaborators.speak stage interruption text)

namespace Assistant

def unrecorded (assistant : Assistant (Recording σ)) : Assistant σ :=
  { assistant with surroundings := Recording.unrecorded assistant.surroundings }

def calls (assistant : Assistant (Recording σ)) : List Call := assistant.surroundings.world.calls

def muted (assistant : Assistant (Recording σ)) : Bool := assistant.surroundings.world.muted

theorem mirrors_setStage (stage : Stage) :
    Mirrors unrecorded (setStage stage : Action (Assistant (Recording σ)) Unit) (setStage stage) :=
  .change fun _ => rfl

theorem mirrors_setRunning (running : Bool) :
    Mirrors unrecorded (setRunning running : Action (Assistant (Recording σ)) Unit)
      (setRunning running) :=
  .change fun _ => rfl

variable (settings : Settings) (collaborators : Collaborators σ)

theorem mirrors_mute :
    Mirrors unrecorded (ask collaborators.recorded.mute) (ask collaborators.mute) :=
  fun _ => rfl

theorem mirrors_unmute :
    Mirrors unrecorded (ask collaborators.recorded.unmute) (ask collaborators.unmute) :=
  fun _ => rfl

theorem mirrors_capture (seconds : Quantity) :
    Mirrors unrecorded (ask (collaborators.recorded.capture seconds))
      (ask (collaborators.capture seconds)) :=
  fun _ => rfl

theorem mirrors_speak (stage : Stage) (interruption : Option MonitorTimes) (text : String) :
    Mirrors unrecorded (ask (collaborators.recorded.speak stage interruption text))
      (ask (collaborators.speak stage interruption text)) :=
  fun _ => rfl

theorem mirrors_transcribe (chunk : Chunk) :
    Mirrors unrecorded (ask (collaborators.recorded.transcribe chunk))
      (ask (collaborators.transcribe chunk)) :=
  fun _ => rfl

theorem speakAlike_recorded :
    SpeakAlike unrecorded id settings settings collaborators.recorded collaborators where
  engine := congrArg engine
  armed := congrArg armed
  running := congrArg fun assistant : Assistant σ => assistant.surroundings.running
  withStage stage _ _ := congrArg fun assistant : Assistant σ => { assistant with stage }
  withEngine engine _ _ := congrArg fun assistant : Assistant σ => { assistant with engine }
  withArmed armed _ _ := congrArg fun assistant : Assistant σ => { assistant with armed }
  stage := congrArg Assistant.stage
  interruption := rfl
  retries := rfl
  mute := mirrors_iff_lockstep.1 (mirrors_mute collaborators)
  unmute := mirrors_iff_lockstep.1 (mirrors_unmute collaborators)
  speak stage interruption text :=
    mirrors_iff_lockstep.1 (mirrors_speak collaborators stage interruption text)

theorem mirrors_say (text : String) :
    Mirrors unrecorded (say settings collaborators.recorded text)
      (say settings collaborators text) :=
  mirrors_iff_lockstep.2 (lockstep_say (speakAlike_recorded settings collaborators) text)

theorem abreast_recorded :
    Abreast unrecorded id Eq settings settings collaborators.recorded collaborators where
  toSees := (speakAlike_recorded settings collaborators).toSees
  toHearsAs := .refl settings
  refl _ := rfl
  isFatal := congrArg TurnResult.isFatal
  capture seconds := mirrors_iff_lockstep.1 (mirrors_capture collaborators seconds)
  transcribe chunk := mirrors_iff_lockstep.1 (mirrors_transcribe collaborators chunk)
  respond := lockstep_respond_of_speakAlike (speakAlike_recorded settings collaborators)

theorem mirrors_turns (limit : Nat) :
    Mirrors unrecorded (turns settings collaborators.recorded limit none)
      (turns settings collaborators limit none) := by
  have hlockstep := lockstep_turns (abreast_recorded settings collaborators) limit .none
  refine mirrors_iff_lockstep.2 (hlockstep.mono fun _ _ hrel => ?_)
  cases hrel with
  | some hsame => rw [hsame]
  | none => rfl

/-- A run with recorded collaborators is the run with the collaborators. -/
theorem mirrors_run (limit : Nat) :
    Mirrors unrecorded (run settings collaborators.recorded limit)
      (run settings collaborators limit) := by
  have hturns := (mirrors_turns settings collaborators limit).ensuring
    ((mirrors_setRunning false).bind fun _ => mirrors_setStage .idle)
  refine .bind (mirrors_setRunning true) fun _ => .bind (mirrors_setStage .idle) fun _ => ?_
  dsimp only
  split
  · exact .bind (mirrors_say settings collaborators settings.greeting) fun _ => hturns
  · exact hturns

end Assistant

end SpokenCalculator
