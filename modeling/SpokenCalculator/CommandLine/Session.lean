import SpokenCalculator.Assistant.Loop
import SpokenCalculator.Audio.Microphone
import SpokenCalculator.CommandLine.Options
import SpokenCalculator.Transcriber

/-!
# Sessions

A session runs the assistant as the command line asks for it, over a microphone,
a recognizer and a speech engine. It ends with an exit code, or with a failure
that nobody handles. Whatever was opened is closed again.
-/

namespace SpokenCalculator

inductive SessionEvent where
  | stream (event : StreamEvent)
  | recognizer (event : RecognizerEvent)
  | speech (event : SpeechEvent)
  deriving DecidableEq

/-- What the equipment will do: whether the model, the speech engine, the stream
and the file of the log fail, how each recognition ends, which blocks come before
each listening window and whether the user interrupts it, and how each utterance
and the end of the speech engine are interfered with. -/
structure Equipment where
  modelFault : Option String
  engineFault : Option Failure
  device : AudioDevice
  recognitions : List (Except Failure String)
  windows : List (List (List Sample))
  interruptions : List Bool := []
  speeches : List Interference := []
  stopFault : Option Failure := none
  logFault : Option Failure := none

/-- The parts of a running session. Events are held with the last one first. -/
structure Session where
  transcriber : Transcriber
  microphone : MicrophoneSystem
  speaker : SpeakerSystem
  recognitions : List (Except Failure String)
  windows : List (List (List Sample))
  interruptions : List Bool
  speeches : List Interference
  stopFault : Option Failure
  events : List SessionEvent

namespace Session

/-- Act on the microphone and keep its events in order with all others. -/
def onMicrophone {α : Type} (action : Action MicrophoneSystem α) : Action Session α :=
  action.within (fun session => { session.microphone with events := [] }) fun microphone session =>
    { session with microphone, events := microphone.events.map .stream ++ session.events }

def onSpeaker {α : Type} (action : Action SpeakerSystem α) : Action Session α :=
  action.within (fun session => { session.speaker with events := [] }) fun speaker session =>
    { session with speaker, events := speaker.events.map .speech ++ session.events }

/-- Take the next item of a script. Behind its end everything is as usual. -/
def takeNext {α : Type} (script : Session → List α) (keep : List α → Session → Session)
    (usual : α) : Action Session α := do
  match script (← get) with
  | [] => pure usual
  | item :: rest =>
      Action.change (keep rest)
      pure item

def nextBlocks : Action Session (List (List Sample)) :=
  takeNext windows (fun windows session => { session with windows }) []

def nextInterruption : Action Session Bool :=
  takeNext interruptions (fun interruptions session => { session with interruptions }) false

def nextInterference : Action Session Interference :=
  takeNext speeches (fun speeches session => { session with speeches }) .absent

/-- How the next recognition ends. Usually nothing is recognized. -/
def nextRecognition : Action Session (Except Failure String) :=
  takeNext recognitions (fun recognitions session => { session with recognitions })
    (.ok (Json.record [("text", .string "")]).print)

def deliverAll : List (List Sample) → Action Session Unit
  | [] => pure ()
  | block :: rest => do
      onMicrophone (MicrophoneSystem.deliver ⟨block, none⟩)
      deliverAll rest

def interrupted : Failure := ⟨.interrupt, ""⟩

def capture (seconds : Quantity) : Action Session Chunk := do
  deliverAll (← nextBlocks)
  if ← nextInterruption then
    let _ ← onMicrophone (MicrophoneSystem.openWindow seconds)
    throw interrupted
  onMicrophone (MicrophoneSystem.capture seconds)

def transcribe (chunk : Chunk) : Action Session Transcript := do
  let recognition ← if chunk.sampleCount = 0 then pure (.ok "") else nextRecognition
  let (events, result) := (← get).transcriber.transcribe chunk recognition
  Action.change fun session =>
    { session with events := events.reverse.map .recognizer ++ session.events }
  Action.ofResult result

def speak (text : String) : Action Session SpeechOutcome := do
  let interference ← nextInterference
  onSpeaker (SpeakerSystem.speak interference text)

def inSurroundings {α : Type} (action : Action Session α) : Action (Surroundings Session) α :=
  action.within Surroundings.world fun world surroundings => { surroundings with world }

def collaborators : Collaborators Session where
  capture seconds := inSurroundings (capture seconds)
  transcribe chunk := inSurroundings (transcribe chunk)
  mute := inSurroundings (onMicrophone MicrophoneSystem.mute)
  unmute := inSurroundings (onMicrophone MicrophoneSystem.unmute)
  speak _ _ text := inSurroundings (speak text)

/-- Enough turns for a session to end by itself: every turn but the last takes a
block of sound. -/
def patience (session : Session) : Nat := session.windows.flatten.length + 1

end Session

inductive SessionEnd where
  | usage (fault : UsageFault)
  | exit (code : Nat)
  | failed (failure : Failure)
  deriving DecidableEq

namespace CommandLine

def optionOf (options : List (String × Json)) (name : String) : Json :=
  (options.lookup name).getD .null

/-- The file of the log is opened if one is given. -/
def checkLogFile (fault : Option Failure) (options : List (String × Json)) : Except Failure Unit :=
  match fault with
  | some failure =>
      if Settings.isGiven (optionOf options "log_file") then .error failure else .ok ()
  | none => .ok ()

def settingsFields (options : List (String × Json)) : List (String × Json) :=
  let option := optionOf options
  let wakeWords :=
    if Settings.isGiven (option "require_wake_word") then Settings.usualWakeWords else []
  let greeting :=
    if Settings.isGiven (option "no_greeting") then .null else .string Settings.usualGreeting
  Settings.fieldsOf (.record
    [("window_policy", option "window"), ("max_listen_seconds", option "max_listen"),
     ("fixed_window_seconds", option "fixed_window"), ("silence_threshold", option "silence"),
     ("barge_in", option "barge_in"), ("wake_words", .list (wakeWords.map .string)),
     ("greeting", greeting)])

/-- The input device: a name that consists of digits is a number. -/
def deviceChoice (option : Json) : Except Failure DeviceChoice :=
  match option with
  | .string name =>
      if Text.isDigits name.toList then
        match Numeral.readInteger name with
        | .ok index => .ok (.index index)
        | .error .malformed => .error ⟨.value, (SpokenFault.malformedInteger name).message⟩
        | .error (.tooLong digits) => .error ⟨.value, (SpokenFault.tooManyDigits digits).message⟩
      else .ok (.named name)
  | _ => .ok .usual

def microphoneSettings (settings : Settings) (options : List (String × Json))
    (device : DeviceChoice) (timeout : Quantity) : MicrophoneSettings :=
  { MicrophoneSettings.usual with
    policy := .string settings.policy.name
    silenceSeconds := settings.silenceSeconds
    threshold := Settings.amountOf (optionOf options "volume_threshold")
    device, timeout }

def exitCode (last : Option TurnResult) : Nat :=
  if last.any TurnResult.isFatal then 1 else 0

/-- How a session ends whose run ended in this way. A failing microphone gives
an exit code of one; the user may interrupt. -/
def endOf (result : Except Failure (Option TurnResult)) : SessionEnd :=
  match result with
  | .ok last => .exit (exitCode last)
  | .error failure =>
      if failure.kind.isA .device then .exit 1
      else if failure.kind.isA .interrupt then .exit 0
      else .failed failure

def inWorld (action : Action Session Unit) : Action (Assistant Session) Unit :=
  Assistant.ask (Session.inSurroundings action)

def listen (settings : Settings) (limit : Nat) :
    Action (Assistant Session) (Option TurnResult) := do
  inWorld (Session.onMicrophone MicrophoneSystem.start)
  Action.ensuring (Assistant.run settings Session.collaborators limit)
    (inWorld (Session.onMicrophone MicrophoneSystem.close))

/-- Run the assistant, and close the speaker at last. -/
def runSession (settings : Settings) (session : Session) : SessionEnd × List SessionEvent :=
  let shut := inWorld (Session.onSpeaker (SpeakerSystem.shutDown session.stopFault))
  let engine := Engine.fresh (some Engine.usualCapacity)
  let (result, assistant) :=
    (Action.ensuring (listen settings session.patience) shut).perform (.initial engine session)
  (endOf result, assistant.surroundings.world.events.reverse)

def isStartFailure (failure : Failure) : Bool :=
  failure.kind.isA .transcriber || failure.kind.isA .speaker

def startEnd (failure : Failure) : SessionEnd :=
  if isStartFailure failure then .exit 1 else .failed failure

def modelSource : Json → ModelSource
  | .string path => .path path
  | _ => .missing

def openSession (settings : Settings) (options : List (String × Json))
    (microphone : MicrophoneSettings) (equipment : Equipment) : SessionEnd × List SessionEvent :=
  let (loading, transcriber) :=
    Transcriber.load true Transcriber.vocabulary (modelSource (optionOf options "model"))
      equipment.modelFault
  let events := loading.map SessionEvent.recognizer
  match transcriber with
  | .error failure => (startEnd failure, events)
  | .ok transcriber =>
      let rate := Settings.amount? (optionOf options "rate")
      match SpeakerSystem.start equipment.engineFault rate none with
      | .error failure => (startEnd failure, events)
      | .ok speaker =>
          runSession settings
            { transcriber, speaker
              microphone := .initial microphone equipment.device
              recognitions := equipment.recognitions
              windows := equipment.windows
              interruptions := equipment.interruptions
              speeches := equipment.speeches
              stopFault := equipment.stopFault
              events := speaker.events.map .speech ++ events.reverse }

/-- The settings and the input device that the options ask for, or why they
cannot be used. Nothing is started before. -/
def prepare (equipment : Equipment) (options : List (String × Json)) :
    Except Failure (Settings × DeviceChoice) := do
  checkLogFile equipment.logFault options
  let settings ← Settings.ofFields (settingsFields options)
  let device ← deviceChoice (optionOf options "device")
  pure (settings, device)

def session (directory : String) (timeout : Quantity) (equipment : Equipment)
    (arguments : List String) : SessionEnd × List SessionEvent :=
  match parse directory arguments with
  | .error fault => (.usage fault, [])
  | .ok options =>
      match prepare equipment options with
      | .error failure => (.failed failure, [])
      | .ok (settings, device) =>
          let microphone := microphoneSettings settings options device timeout
          openSession settings options microphone equipment

end CommandLine

end SpokenCalculator
