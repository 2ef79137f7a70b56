import SpokenCalculator.Action
import SpokenCalculator.Quantity
import SpokenCalculator.Text.Blank

/-!
# The speaker

A text is handed to the speech engine, which speaks the words of its queue. A
cancellation has an effect only while a text is being spoken: it is noted, and
the engine is stopped before the next word. Opening an utterance, cancelling it
and closing it are single steps.
-/

namespace SpokenCalculator

inductive SpeechOutcome where
  | completed
  | cancelled
  deriving DecidableEq

/-- Whether a text is being spoken, and whether its cancellation was asked
for. -/
structure Speaker where
  speaking : Bool
  cancelling : Bool
  deriving DecidableEq

namespace Speaker

def idle : Speaker := ⟨false, false⟩

def begun : Speaker := ⟨true, false⟩

def cancel (speaker : Speaker) : Speaker :=
  if speaker.speaking then { speaker with cancelling := true } else speaker

def close (speaker : Speaker) : SpeechOutcome × Speaker :=
  (if speaker.cancelling then .cancelled else .completed, idle)

end Speaker

inductive SpeechEvent where
  | rate (value : Quantity)
  | voice (name : String)
  | word (word : String)
  | stopped
  deriving DecidableEq

/-- The moments of an utterance at which somebody cancels it, and how the engine
fails. -/
structure Interference where
  failure : Option Failure
  cancelOnQueueing : Bool
  cancelOnStart : Bool
  cancelAfterWords : List Int

def Interference.absent : Interference := ⟨none, false, false, []⟩

/-- The speaker with the queue of its engine, and what happened, the last event
first. -/
structure SpeakerSystem where
  speaker : Speaker
  queue : List String
  events : List SpeechEvent

namespace SpeakerSystem

def initial : SpeakerSystem := ⟨.idle, [], []⟩

def emit (event : SpeechEvent) (system : SpeakerSystem) : SpeakerSystem :=
  { system with events := event :: system.events }

def cancel (system : SpeakerSystem) : SpeakerSystem :=
  { system with speaker := system.speaker.cancel }

def cancelIf (condition : Bool) (system : SpeakerSystem) : SpeakerSystem :=
  if condition then system.cancel else system

def wordsOf (queue : List String) : List String :=
  queue.flatMap fun text => (Text.words text.toList).map String.ofList

/-- Speak words, of which the first has the given number. Before each word the
engine is stopped if a cancellation was noted. -/
def utter (interference : Interference) : Nat → List String → SpeakerSystem → SpeakerSystem
  | _, [], system => system
  | number, word :: rest, system =>
      if system.speaker.cancelling then system.emit .stopped
      else
        utter interference (number + 1) rest
          ((system.emit (.word word)).cancelIf (interference.cancelAfterWords.contains number))

def enqueue (interference : Interference) (text : String) (system : SpeakerSystem) :
    SpeakerSystem :=
  { system with queue := system.queue ++ [text] }.cancelIf interference.cancelOnQueueing

/-- Let the engine speak its queue, which it takes also if it fails. -/
def runQueue (interference : Interference) : Action SpeakerSystem Unit := do
  let words := wordsOf (← get).queue
  Action.change fun system =>
    { system with queue := [] }.cancelIf interference.cancelOnStart
  Action.ofResult (interference.failure.elim (.ok ()) .error)
  Action.change (utter interference 0 words)

def speechFailure (failure : Failure) : Failure :=
  if failure.kind.isA .runtime then ⟨.speaker, s!"Text-to-speech failed: {failure.message}"⟩
  else failure

abbrev SpeechEngine := Interference → Action SpeakerSystem Unit

def speakWith (engine : SpeechEngine) (interference : Interference) (text : String) :
    Action SpeakerSystem SpeechOutcome := do
  Action.change fun system => { system with speaker := .begun }
  Action.change (enqueue interference text)
  let result ← Action.attempt (engine interference)
  let (outcome, speaker) := (← get).speaker.close
  Action.change fun system => { system with speaker }
  match result with
  | .ok () => pure outcome
  | .error failure => throw (speechFailure failure)

def speak : Interference → String → Action SpeakerSystem SpeechOutcome := speakWith runQueue

/-- Stop the engine for good. A failure of the engine itself is ignored. -/
def shutDown (failure : Option Failure) : Action SpeakerSystem Unit := do
  Action.change (emit .stopped)
  match failure with
  | none => pure ()
  | some failure => if failure.kind.isA .runtime then pure () else throw failure

def isUnavailable (failure : Failure) : Bool :=
  failure.kind.isA .runtime || failure.kind.isA .system || failure.kind.isA .importing

/-- Start the speech engine with a rate and a voice, if these are given. -/
def start (fault : Option Failure) (rate : Option Quantity) (voice : Option String) :
    Except Failure SpeakerSystem :=
  match fault with
  | some failure =>
      if isUnavailable failure then
        .error ⟨.speaker, s!"Could not start text-to-speech engine: {failure.message}"⟩
      else .error failure
  | none =>
      let withRate := rate.elim initial fun value => initial.emit (.rate value)
      .ok (voice.elim withRate fun name => withRate.emit (.voice name))

end SpeakerSystem

end SpokenCalculator
