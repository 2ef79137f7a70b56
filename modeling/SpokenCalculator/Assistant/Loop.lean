import SpokenCalculator.Assistant.BargeIn
import SpokenCalculator.Assistant.WakeWord
import SpokenCalculator.Audio.Chunk
import SpokenCalculator.Engine
import SpokenCalculator.Phrase.Reading
import SpokenCalculator.Reply
import SpokenCalculator.Speaker
import SpokenCalculator.Transcript

/-!
# The turns of the assistant

In a turn the assistant listens, transcribes, reads a command, evaluates it and
speaks the answer. The microphone is muted for as long as it speaks. The
transcriber and the speaker are asked again when they fail, a limited number of
times; only the failure of the microphone ends a run.
-/

namespace SpokenCalculator

inductive Stage where
  | idle
  | listening
  | transcribing
  | parsing
  | evaluating
  | speaking
  deriving DecidableEq

inductive TurnResult where
  | spoken (text : String) (cancelled : Bool)
  | silent
  | fatal (reason : String)
  deriving DecidableEq

def TurnResult.isFatal : TurnResult → Bool
  | .fatal _ => true
  | _ => false

/-- What the collaborators of the assistant can change: their own world, and
whether the assistant goes on after the turn. -/
structure Surroundings (σ : Type) where
  running : Bool
  world : σ

/-- What the assistant asks of others. The speaker is told what the assistant is
doing and how it may be interrupted. -/
structure Collaborators (σ : Type) where
  capture : Quantity → Action (Surroundings σ) Chunk
  transcribe : Chunk → Action (Surroundings σ) Transcript
  mute : Action (Surroundings σ) Unit
  unmute : Action (Surroundings σ) Unit
  speak : Stage → Option MonitorTimes → String → Action (Surroundings σ) SpeechOutcome

/-- The flag says whether the next phrase needs no wake word. -/
structure Assistant (σ : Type) where
  engine : Engine
  stage : Stage
  armed : Bool
  surroundings : Surroundings σ

namespace Assistant

variable {σ α : Type}

def initial (engine : Engine) (world : σ) : Assistant σ := ⟨engine, .idle, false, ⟨false, world⟩⟩

def setStage (stage : Stage) : Action (Assistant σ) Unit :=
  .change fun assistant => { assistant with stage }

def setRunning (running : Bool) : Action (Assistant σ) Unit :=
  .change fun assistant =>
    { assistant with surroundings := { assistant.surroundings with running } }

def ask (action : Action (Surroundings σ) α) : Action (Assistant σ) α :=
  action.within surroundings fun surroundings assistant => { assistant with surroundings }

/-- Act, and act again after a failure of the given kind, at most the given
number of times. -/
def retry (kind : FailureKind) (action : Action (Assistant σ) α) : Nat → Action (Assistant σ) α
  | 0 => action
  | further + 1 => do
      match ← Action.attempt action with
      | .ok value => pure value
      | .error failure =>
          if failure.kind.isA kind then retry kind action further else throw failure

section

variable (settings : Settings) (collaborators : Collaborators σ)

def interruption : Option MonitorTimes :=
  if settings.bargeIn then some settings.monitorTimes else none

def utter (text : String) : Action (Assistant σ) SpeechOutcome := do
  ask collaborators.mute
  let stage := (← get).stage
  let speech := ask (collaborators.speak stage (interruption settings) text)
  Action.ensuring (retry .speaker speech settings.retries) (ask collaborators.unmute)

def say (text : String) : Action (Assistant σ) (Option SpeechOutcome) := do
  setStage .speaking
  let result ← Action.attempt (utter settings collaborators text)
  setStage .idle
  match result with
  | .ok outcome => pure (some outcome)
  | .error failure => if failure.kind.isA .speaker then pure none else throw failure

def respond (text : String) : Action (Assistant σ) TurnResult := do
  match ← say settings collaborators text with
  | some outcome => pure (.spoken text (outcome == .cancelled))
  | none => pure .silent

def respondWith (command : Command) (value : Decimal) : Action (Assistant σ) TurnResult := do
  let reply ← Action.ofResult
    ((Reply.result command value settings.spokenPlaces).mapError SpellingFault.failure)
  respond settings collaborators reply

/-- Evaluate a command and say its result, or what is wrong with it. -/
def answer (command : Command) : Action (Assistant σ) TurnResult := do
  setStage .evaluating
  match (← get).engine.evaluate command with
  | .ok (value, engine) =>
      Action.change fun assistant => { assistant with engine }
      respondWith settings collaborators command value
  | .error fault =>
      let failure := fault.failure
      if failure.kind.isA .calculation then
        respond settings collaborators (Reply.diagnosis failure.kind)
      else throw failure

def follow (phrase : String) : Action (Assistant σ) TurnResult := do
  setStage .parsing
  let command ← Action.ofResult ((Command.parse phrase).mapError Signal.failure)
  answer settings collaborators command

/-- Find out whether a text is addressed to the assistant, and react to it. -/
def hear (text : String) : Action (Assistant σ) TurnResult := do
  let (address, armed) := WakeWord.address settings.wakeWords (← get).armed text
  Action.change fun assistant => { assistant with armed }
  match address with
  | .ignored => pure .silent
  | .wakeWordAlone => respond settings collaborators Reply.ready
  | .phrase phrase => follow settings collaborators phrase

def listenTo (chunk : Chunk) : Action (Assistant σ) TurnResult := do
  setStage .transcribing
  let transcription := ask (collaborators.transcribe chunk)
  match ← Action.attempt (retry .transcriber transcription settings.retries) with
  | .ok ⟨none⟩ => pure .silent
  | .ok ⟨some text⟩ =>
      if text.isEmpty then pure .silent else hear settings collaborators text
  | .error failure =>
      if failure.kind.isA .transcriber then respond settings collaborators Reply.notUnderstood
      else throw failure

def turn : Action (Assistant σ) TurnResult := do
  setStage .listening
  match ← Action.attempt (ask (collaborators.capture settings.listenSeconds)) with
  | .ok chunk => listenTo settings collaborators chunk
  | .error failure =>
      if failure.kind.isA .device then pure (.fatal failure.message) else throw failure

/-- Take turns, at most the given number of them, until the assistant is stopped
or the microphone fails. The result is that of the last turn. -/
def turns : Nat → Option TurnResult → Action (Assistant σ) (Option TurnResult)
  | 0, last => pure last
  | left + 1, last => do
      if (← get).surroundings.running then
        let result ← turn settings collaborators
        if result.isFatal then pure (some result) else turns left (some result)
      else pure last

/-- Greet and take turns. However the turns end, the assistant stands idle
afterwards. -/
def run (limit : Nat) : Action (Assistant σ) (Option TurnResult) := do
  setRunning true
  setStage .idle
  if !settings.greeting.isEmpty then
    let _ ← say settings collaborators settings.greeting
  Action.ensuring (turns settings collaborators limit none) do
    setRunning false
    setStage .idle

end

end Assistant

end SpokenCalculator
