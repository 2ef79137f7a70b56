import SpokenCalculator.Audio.Sample

namespace SpokenCalculator

structure Chunk where
  bytes : List UInt8
  rate : Int
  deriving DecidableEq

def durationMilliseconds (samples : Nat) (rate : Int) : Except AudioFault Int :=
  if rate = 0 then .error .zeroRate else .ok ((1000 * (samples : Int)).fdiv rate)

namespace Chunk

def sampleCount (chunk : Chunk) : Nat := chunk.bytes.length / 2

def duration (chunk : Chunk) : Except AudioFault Int :=
  durationMilliseconds chunk.sampleCount chunk.rate

def samples (chunk : Chunk) : Except AudioFault (List Sample) := Sample.decode chunk.bytes

def ofSamples (samples : List Sample) (rate : Int) : Chunk := ⟨samples.flatMap Sample.bytes, rate⟩

end Chunk

end SpokenCalculator
