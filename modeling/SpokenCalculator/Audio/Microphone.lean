import SpokenCalculator.Action
import SpokenCalculator.Audio.Window

/-!
# The microphone

An input stream delivers blocks of sound, which wait in a queue until a
listening window takes them. While the microphone is muted every block is
dropped, and so is a block that was recorded before the last unmuting and comes
late. Whether the latest block held speech is known also while muted.
-/

namespace SpokenCalculator

inductive DeviceChoice where
  | usual
  | index (number : Int)
  | named (name : String)
  deriving DecidableEq

structure MicrophoneSettings where
  policy : Json
  rate : Quantity
  blockSize : Quantity
  silenceSeconds : Quantity
  threshold : Quantity
  timeout : Quantity
  device : DeviceChoice

namespace MicrophoneSettings

def usualTimeout : Quantity := .binary (.ofInt 2)

def usual : MicrophoneSettings :=
  { policy := .string WindowPolicy.speech.name
    rate := Audio.usualRate
    blockSize := .whole 1600
    silenceSeconds := Audio.usualSilence
    threshold := Level.usualThreshold
    timeout := usualTimeout
    device := .usual }

end MicrophoneSettings

/-- How the audio device behaves at present: its clock, whether its stream runs,
and what fails. -/
structure AudioDevice where
  time : Quantity
  active : Bool
  openFailure : Option Failure
  startFailure : Option Failure
  timeFailure : Option Failure
  stopFailure : Option Failure

namespace AudioDevice

def working : AudioDevice := ⟨.binary .zero, true, none, none, none, none⟩

end AudioDevice

/-- What happens to input streams, each with the number it was opened as. -/
inductive StreamEvent where
  | opened (stream : Nat) (blockSize : Quantity) (device : DeviceChoice) (rate : Quantity)
  | started (stream : Nat)
  | stopped (stream : Nat)
  | closed (stream : Nat)
  deriving DecidableEq

/-- A block of sound and the time at which its recording began, if the device
tells it. -/
structure Delivery where
  samples : List Sample
  recordedAt : Option Quantity

/-- The queue holds the oldest block first. Streams are numbered in the order of
their opening. -/
structure Microphone where
  queue : List (List Sample)
  muted : Bool
  unmutedAt : Quantity
  voice : Bool
  stream : Option Nat
  openedStreams : Nat

namespace Microphone

def initial : Microphone := ⟨[], false, .binary .zero, false, none, 0⟩

/-- Was the block recorded before the microphone was last unmuted? A time of
zero tells nothing. -/
def isLate (microphone : Microphone) (delivery : Delivery) : Bool :=
  match delivery.recordedAt with
  | some time => !time.isZero && time.lt microphone.unmutedAt
  | none => false

def deliver (threshold : Quantity) (delivery : Delivery) (microphone : Microphone) : Microphone :=
  let heard := { microphone with voice := Level.isSpeech threshold delivery.samples }
  if microphone.muted || microphone.isLate delivery then heard
  else { heard with queue := microphone.queue ++ [delivery.samples] }

def mute (microphone : Microphone) : Microphone := { microphone with muted := true, queue := [] }

def unmuteAt (now : Quantity) (microphone : Microphone) : Microphone :=
  let opened :=
    if microphone.muted then { microphone with queue := [], unmutedAt := now } else microphone
  { opened with muted := false, voice := false }

/-- Fill a window from a queue until it is complete. The window is missing if
the queue does not suffice. -/
def collect (window : Window) : List (List Sample) → Option Window × List (List Sample)
  | [] => (none, [])
  | block :: rest =>
      let filled := window.add block
      if filled.isComplete then (some filled, rest) else collect filled rest

end Microphone

/-- A microphone with its device, and what has happened to streams, the last
event first. -/
structure MicrophoneSystem where
  settings : MicrophoneSettings
  device : AudioDevice
  microphone : Microphone
  events : List StreamEvent

namespace MicrophoneSystem

def initial (settings : MicrophoneSettings) (device : AudioDevice) : MicrophoneSystem :=
  ⟨settings, device, .initial, []⟩

def update (step : Microphone → Microphone) (system : MicrophoneSystem) : MicrophoneSystem :=
  { system with microphone := step system.microphone }

def emit (event : StreamEvent) : Action MicrophoneSystem Unit :=
  .change fun system => { system with events := event :: system.events }

def hold (stream : Option Nat) : Action MicrophoneSystem Unit :=
  .change (update fun microphone => { microphone with stream })

def failIf (failure : Option Failure) : Action MicrophoneSystem Unit :=
  .ofResult (failure.elim (.ok ()) .error)

/-- Failures that mean that the device cannot be used as it was asked for. -/
def isRefusal (failure : Failure) : Bool :=
  failure.kind.isA .audioHost || failure.kind.isA .value

def openStream : Action MicrophoneSystem Unit := do
  let system ← get
  failIf system.device.openFailure
  let stream := system.microphone.openedStreams
  set (system.update fun microphone =>
    { microphone with stream := some stream, openedStreams := stream + 1 })
  emit (.opened stream system.settings.blockSize system.settings.device system.settings.rate)
  failIf system.device.startFailure
  emit (.started stream)

/-- Make sure that a stream is open. If the device refuses, no stream is
held. -/
def start : Action MicrophoneSystem Unit := do
  if (← get).microphone.stream.isNone then
    match ← Action.attempt openStream with
    | .ok () => pure ()
    | .error failure =>
        if isRefusal failure then
          hold none
          throw ⟨.device, s!"Could not open microphone: {failure.message}"⟩
        else throw failure

def stopStream (stream : Nat) : Action MicrophoneSystem Unit := do
  emit (.stopped stream)
  failIf (← get).device.stopFailure
  emit (.closed stream)

/-- Let go of the stream. The failure of the device to stop is ignored. -/
def close : Action MicrophoneSystem Unit := do
  match (← get).microphone.stream with
  | none => pure ()
  | some stream =>
      hold none
      match ← Action.attempt (stopStream stream) with
      | .ok () => pure ()
      | .error failure => if failure.kind.isA .audioHost then pure () else throw failure

def mute : Action MicrophoneSystem Unit := .change (update Microphone.mute)

/-- The clock of the held stream, or zero if there is none or it cannot be
read. -/
def streamTime (system : MicrophoneSystem) : Except Failure Quantity :=
  match system.microphone.stream, system.device.timeFailure with
  | none, _ => .ok (.binary .zero)
  | some _, none =>
      match system.device.time.toBinary? with
      | some time => .ok (.binary time)
      | none => .error .beyondBinary
  | some _, some failure =>
      if failure.kind.isA .audioHost then .ok (.binary .zero) else .error failure

def unmute : Action MicrophoneSystem Unit := do
  let now ← Action.ofResult (streamTime (← get))
  Action.change (update (Microphone.unmuteAt now))

def deliver (delivery : Delivery) : Action MicrophoneSystem Unit :=
  .change fun system => system.update (Microphone.deliver system.settings.threshold delivery)

/-- Why a timeout cannot be waited for, found out before any wait. An undefined
timeout is not among the causes: it is never over. -/
def timeoutFailure? (timeout : Quantity) : Option Failure :=
  if timeout.lt (.whole 0) then some ⟨.value, "'timeout' must be a non-negative number"⟩
  else if timeout.toBinary?.isNone then some .beyondBinary
  else none

/-- What is said when no sound comes, or when the wait for it would be too long
to begin. -/
def silenceFailure (system : MicrophoneSystem) : Failure :=
  let timeout := system.settings.timeout
  let state :=
    if system.microphone.stream.isSome && system.device.active then "silent" else "stopped"
  if timeout.isTooLong then ⟨.overflow, "timestamp out of range for platform time_t"⟩
  else ⟨.device, s!"No audio from microphone for {timeout.text}s (stream {state})"⟩

def windowRequest (settings : MicrophoneSettings) (maxSeconds : Quantity) : WindowRequest :=
  { maxSeconds, policy := settings.policy, rate := settings.rate
    silenceSeconds := settings.silenceSeconds, threshold := settings.threshold }

/-- Begin to listen, with a stream and an empty window. A muted microphone does
not listen. -/
def openWindow (maxSeconds : Quantity) : Action MicrophoneSystem Window := do
  if (← get).microphone.muted then
    throw ⟨.runtime, "capture_chunk() called while the microphone is muted"⟩
  start
  let request := windowRequest (← get).settings maxSeconds
  Action.ofResult ((Window.create request).mapError AudioFault.failure)

/-- Take blocks from the queue until a listening window is complete. Blocks that
do not suffice are lost. The wait for more ends, unless the timeout is undefined;
such a wait is not described here. -/
def capture (maxSeconds : Quantity) : Action MicrophoneSystem Chunk := do
  let window ← openWindow maxSeconds
  let system ← get
  failIf (timeoutFailure? system.settings.timeout)
  let (filled, queue) := Microphone.collect window system.microphone.queue
  Action.change (update fun microphone => { microphone with queue })
  match filled with
  | some window => pure window.chunk
  | none => throw (silenceFailure system)

end MicrophoneSystem

end SpokenCalculator
