import SpokenCalculator.Assistant.Rehearsal
import SpokenCalculator.CommandLine.Session

open SpokenCalculator

namespace SpokenCalculator.Program

/-- A world in which one more window is heard, with the given line. -/
def hearing (line : String) (rehearsal : Rehearsal) : Rehearsal :=
  { rehearsal with
    captures := rehearsal.attempts + 1
    transcripts := [.gives (Transcript.recognized line)]
    events := [] }

def withLine (line : String) (assistant : Assistant Rehearsal) : Assistant Rehearsal :=
  { assistant with
    surroundings :=
      { assistant.surroundings with world := hearing line assistant.surroundings.world } }

def stillWorld : Rehearsal := ⟨false, 0, 0, [], "", [], [], []⟩

def spokenTexts (assistant : Assistant Rehearsal) : List String :=
  assistant.surroundings.world.events.reverse.filterMap fun event =>
    match event with
    | .speak text _ _ => some text
    | _ => none

def greet (settings : Settings) : Action (Assistant Rehearsal) Unit := do
  if !settings.greeting.isEmpty then
    let _ ← Assistant.say settings Rehearsal.collaborators settings.greeting

/-- The first state of the assistant and its settings, or the fault of the
arguments. -/
def prepare (arguments : List String) : Except String (Settings × Assistant Rehearsal) := do
  let options ← (CommandLine.parse "." arguments).mapError UsageFault.message
  let settings ← (Settings.ofFields (CommandLine.settingsFields options)).mapError Failure.message
  pure (settings, .initial (.fresh (some Engine.usualCapacity)) stillWorld)

end SpokenCalculator.Program

def main (arguments : List String) : IO UInt32 := do
  match Program.prepare arguments with
  | .error message =>
      (← IO.getStderr).putStrLn s!"error: {message}"
      return 2
  | .ok (settings, start) =>
      let input ← IO.getStdin
      let output ← IO.getStdout
      let mut assistant := ((Program.greet settings).perform start).2
      for text in Program.spokenTexts assistant do
        output.putStrLn text
      repeat
        let line ← input.getLine
        if line.isEmpty then break
        let turn := Assistant.turn settings Rehearsal.collaborators
        let (result, next) := turn.perform (Program.withLine line assistant)
        assistant := next
        for text in Program.spokenTexts assistant do
          output.putStrLn text
        output.flush
        match result with
        | .ok _ => pure ()
        | .error failure =>
            (← IO.getStderr).putStrLn failure.message
            return 1
      return 0
