import SpokenCalculator.Assistant.Loop

/-!
# Rehearsals

In a rehearsal the collaborators of the assistant follow a script, and
everything that they are asked is written down.
-/

namespace SpokenCalculator

inductive TranscriptCue where
  | gives (transcript : Transcript)
  | stopsAnd (transcript : Transcript)
  | fails (failure : Failure)

/-- What the speaker does when it is asked. One that talks goes on until it is
cancelled or the answers about the voice of the user are used up. -/
inductive SpeechCue where
  | ends (outcome : SpeechOutcome)
  | stopsAssistant
  | fails (failure : Failure)
  | talks (voices : List Bool)

inductive RehearsalEvent where
  | capture (seconds : Quantity)
  | transcribe
  | mute
  | unmute
  | speak (text : String) (muted : Bool) (stage : Stage)
  | probes (count : Nat)
  deriving DecidableEq

/-- The microphone succeeds a number of times, except at some attempts, and then
fails. Events are held with the last one first. -/
structure Rehearsal where
  muted : Bool
  attempts : Nat
  captures : Nat
  failingAttempts : List Int
  deviceMessage : String
  transcripts : List TranscriptCue
  speeches : List SpeechCue
  events : List RehearsalEvent

namespace Rehearsal

abbrev Scene := Surroundings Rehearsal

def update (step : Rehearsal → Rehearsal) : Action Scene Unit :=
  .change fun scene => { scene with world := step scene.world }

def record (event : RehearsalEvent) : Action Scene Unit :=
  update fun rehearsal => { rehearsal with events := event :: rehearsal.events }

def stopAssistant : Action Scene Unit := .change fun scene => { scene with running := false }

def failsAt (rehearsal : Rehearsal) (attempt : Nat) : Bool :=
  rehearsal.captures ≤ attempt || rehearsal.failingAttempts.contains (attempt : Int)

def capture (seconds : Quantity) : Action Scene Chunk := do
  record (.capture seconds)
  let rehearsal := (← get).world
  update fun rehearsal => { rehearsal with attempts := rehearsal.attempts + 1 }
  if rehearsal.failsAt rehearsal.attempts then throw ⟨.device, rehearsal.deviceMessage⟩
  pure (Chunk.ofSamples [] 16000)

/-- Take the next cue for the transcriber. Behind the last one there is
silence. -/
def nextTranscript : Action Scene TranscriptCue := do
  match (← get).world.transcripts with
  | [] => pure (.gives .silence)
  | cue :: rest =>
      update fun rehearsal => { rehearsal with transcripts := rest }
      pure cue

def transcribe (_ : Chunk) : Action Scene Transcript := do
  record .transcribe
  match ← nextTranscript with
  | .gives transcript => pure transcript
  | .stopsAnd transcript => do
      stopAssistant
      pure transcript
  | .fails failure => throw failure

def setMuted (muted : Bool) : Action Scene Unit := do
  record (if muted then .mute else .unmute)
  update fun rehearsal => { rehearsal with muted }

/-- Take the next cue for the speaker. Behind the last one every speech is
completed. -/
def nextSpeech : Action Scene SpeechCue := do
  match (← get).world.speeches with
  | [] => pure (.ends .completed)
  | cue :: rest =>
      update fun rehearsal => { rehearsal with speeches := rest }
      pure cue

/-- Talk while the monitor asks for the voice of the user. Without a monitor
nobody interrupts. -/
def talk (interruption : Option MonitorTimes) (voices : List Bool) : Action Scene SpeechOutcome :=
  match interruption with
  | none => do
      record (.probes 0)
      pure .completed
  | some times => do
      let (monitor, count) := Monitor.watchAll times voices
      record (.probes count)
      pure (if monitor.triggered then .cancelled else .completed)

def speak (stage : Stage) (interruption : Option MonitorTimes) (text : String) :
    Action Scene SpeechOutcome := do
  record (.speak text (← get).world.muted stage)
  match ← nextSpeech with
  | .ends outcome => pure outcome
  | .stopsAssistant => do
      stopAssistant
      pure .completed
  | .fails failure => throw failure
  | .talks voices => talk interruption voices

def collaborators : Collaborators Rehearsal :=
  { capture, transcribe, mute := setMuted true, unmute := setMuted false, speak }

/-- Enough turns for a run to end by itself, because each attempt to capture
counts. -/
def patience (rehearsal : Rehearsal) : Nat := rehearsal.captures + 1

end Rehearsal

end SpokenCalculator
