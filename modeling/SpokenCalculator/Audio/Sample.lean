import SpokenCalculator.Failure
import SpokenCalculator.Quantity

namespace SpokenCalculator

abbrev Sample := Int16

/-- What can be wrong with sound and with the way it is collected. -/
inductive AudioFault where
  | outOfBounds (value : Int)
  | tooLarge
  | noChannel
  | zeroRate
  | oddLength
  | noDuration
  | unknownPolicy (shown : String)
  | amount (cause : IntegerConversion)
  deriving DecidableEq

namespace AudioFault

def failure : AudioFault → Failure
  | .outOfBounds value =>
      if Failure.isSized value then
        ⟨.overflow, s!"Python integer {value} out of bounds for int16"⟩
      else .beyondSize "long"
  | .tooLarge => .beyondBinary
  | .noChannel => ⟨.index, "index 0 is out of bounds for axis 1 with size 0"⟩
  | .zeroRate => ⟨.zeroDivision, "integer division or modulo by zero"⟩
  | .oddLength => ⟨.value, "buffer size must be a multiple of element size"⟩
  | .noDuration => ⟨.assertion, "max_seconds must be > 0"⟩
  | .unknownPolicy shown => ⟨.assertion, s!"unknown window policy {shown}"⟩
  | .amount .undefined => ⟨.value, "cannot convert float NaN to integer"⟩
  | .amount .infinite => ⟨.overflow, "cannot convert float infinity to integer"⟩

end AudioFault

namespace Sample

def ofInt? (value : Int) : Except AudioFault Sample :=
  if -32768 ≤ value ∧ value ≤ 32767 then .ok (Int16.ofInt value) else .error (.outOfBounds value)

def ofInts? (values : List Int) : Except AudioFault (List Sample) := values.mapM ofInt?

/-- The first channel of frames of sound. Every value has to be a sample. -/
def firstChannel? (frames : List (List Int)) : Except AudioFault (List Sample) := do
  let frames ← frames.mapM ofInts?
  if frames.any List.isEmpty then throw .noChannel
  pure (frames.filterMap List.head?)

def bytes (sample : Sample) : List UInt8 :=
  let code := sample.toUInt16.toNat
  [UInt8.ofNat (code % 256), UInt8.ofNat (code / 256)]

def ofBytes (low high : UInt8) : Sample := (UInt16.ofNat (low.toNat + 256 * high.toNat)).toInt16

/-- Decode bytes behind the samples read so far, the last one first. -/
def decodeAfter (read : List Sample) : List UInt8 → Except AudioFault (List Sample)
  | low :: high :: rest => decodeAfter (ofBytes low high :: read) rest
  | [] => .ok read.reverse
  | [_] => .error .oddLength

def decode (bytes : List UInt8) : Except AudioFault (List Sample) := decodeAfter [] bytes

end Sample

end SpokenCalculator
