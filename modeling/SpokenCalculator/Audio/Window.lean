import SpokenCalculator.Audio.Chunk
import SpokenCalculator.Audio.Level
import SpokenCalculator.Json.Shown

namespace SpokenCalculator

inductive WindowPolicy where
  | speech
  | fixed
  deriving DecidableEq

namespace WindowPolicy

def name : WindowPolicy → String
  | .speech => "vad"
  | .fixed => "fixed"

def all : List WindowPolicy := [.speech, .fixed]

def ofName? (name : String) : Option WindowPolicy := all.find? fun policy => policy.name == name

def ofSetting? : Json → Option WindowPolicy
  | .string name => ofName? name
  | _ => none

end WindowPolicy

namespace Audio

def usualRate : Quantity := .whole 16000

/-- Seconds of silence that end a window where nothing else is given. -/
def usualSilence : Quantity := .binary (.ofDecimal false 25 (-1))

end Audio

structure WindowRequest where
  maxSeconds : Quantity
  policy : Json
  rate : Quantity
  silenceSeconds : Quantity
  threshold : Quantity

/-- Blocks are held with the last one first, beside the number of their samples
and the number of those behind the last block with speech. -/
structure Window where
  policy : WindowPolicy
  rate : Int
  threshold : Quantity
  maxSamples : Int
  silenceSamples : Int
  blocks : List (List Sample)
  held : Nat
  trailingSilence : Nat
  hasSpeech : Bool

namespace Window

/-- The number of samples in some seconds, rounded to the nearest. -/
def samplesIn (rate : Int) (seconds : Quantity) : Except AudioFault Int :=
  match Quantity.times? rate seconds with
  | some samples => samples.nearestInt.mapError .amount
  | none => .error .tooLarge

def create (request : WindowRequest) : Except AudioFault Window := do
  if !request.maxSeconds.isPositive then throw .noDuration
  match WindowPolicy.ofSetting? request.policy with
  | none => throw (.unknownPolicy request.policy.shown)
  | some policy =>
      let rate ← request.rate.truncate.mapError .amount
      let maxSamples ← samplesIn rate request.maxSeconds
      let silenceSamples ← samplesIn rate request.silenceSeconds
      pure
        { policy, rate, threshold := request.threshold, maxSamples, silenceSamples
          blocks := [], held := 0, trailingSilence := 0, hasSpeech := false }

/-- Cut a block to the room that is left. Where the room is negative, that many
samples are dropped at the end. -/
def fit (room : Int) (block : List Sample) : List Sample :=
  if (block.length : Int) ≤ room then block
  else if 0 ≤ room then block.take room.toNat
  else block.take (block.length - room.natAbs)

def room (window : Window) : Int := window.maxSamples - window.held

def isComplete (window : Window) : Bool :=
  window.maxSamples ≤ window.held ||
    (window.policy == .speech && window.hasSpeech &&
      window.silenceSamples ≤ window.trailingSilence)

/-- Add a block. Whether the window is now complete is asked of the result. -/
def add (window : Window) (block : List Sample) : Window :=
  let kept := fit window.room block
  let speech := Level.isSpeech window.threshold kept
  { window with
    blocks := kept :: window.blocks
    held := window.held + kept.length
    trailingSilence := if speech then 0 else window.trailingSilence + kept.length
    hasSpeech := window.hasSpeech || speech }

def samples (window : Window) : List Sample := window.blocks.reverse.flatten

def duration (window : Window) : Except AudioFault Int :=
  durationMilliseconds window.held window.rate

def chunk (window : Window) : Chunk := Chunk.ofSamples window.samples window.rate

end Window

end SpokenCalculator
