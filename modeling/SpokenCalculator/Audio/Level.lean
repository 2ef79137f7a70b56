import SpokenCalculator.Audio.Sample

namespace SpokenCalculator.Level

/-- Round a quotient to single length. Levels never leave the range. -/
def single (numerator denominator : Nat) : BinaryMagnitude :=
  (BinaryFormat.single.nearest? numerator denominator).getD ⟨0, BinaryFormat.single.leastExponent⟩

def whole (x : BinaryMagnitude) : Nat := x.ratio.1 / x.ratio.2

def square (sample : Sample) : Nat :=
  let size := sample.toInt.natAbs
  whole (single (size * size) 1)

def rootFrom (n : Nat) : Nat → Nat → Nat
  | 0, root => root
  | bit + 1, root =>
      let larger := root + Nat.pow 2 bit
      rootFrom n bit (if larger * larger ≤ n then larger else root)

def integerRoot (n : Nat) : Nat := rootFrom n (n.log2 / 2 + 1) 0

/-- The root of a magnitude. Its square is scaled up by an even power of two,
and one more bit says whether the root of the scaled integer leaves a rest. -/
def root (x : BinaryMagnitude) : BinaryMagnitude :=
  let shift : Nat := if x.exponent % 2 = 0 then 64 else 65
  let scaled := x.significand * Nat.pow 2 shift
  let floor := integerRoot scaled
  let sticky := 2 * floor + if floor * floor = scaled then 0 else 1
  let exponent := (x.exponent - shift) / 2 - 1
  single (sticky * Nat.pow 2 exponent.toNat) (Nat.pow 2 (-exponent).toNat)

def mean (total count : Nat) : BinaryMagnitude :=
  let (numerator, denominator) := (single total 1).ratio
  single numerator (denominator * count)

/-- The root mean square of a block in single length: the squares, their sum, the
mean and the root are each rounded once. Rounding the sum once is a
simplification, as a mean of single length may round after every few summands,
and then the last bit of a level can differ. -/
def rms (block : List Sample) : BinaryMagnitude :=
  if block.isEmpty then single 0 1
  else root (mean (block.foldl (fun total sample => total + square sample) 0) block.length)

/-- Sign, exponent and fraction of a level packed into thirty-two bits. -/
def bits (level : BinaryMagnitude) : Nat :=
  let hidden := Nat.pow 2 23
  if level.significand < hidden then level.significand
  else (level.exponent + 150).toNat * hidden + (level.significand - hidden)

def exceeds (level : BinaryMagnitude) (threshold : Quantity) : Bool :=
  threshold.lt (.binary (.finite false level))

def usualThreshold : Quantity := .whole 500

def isSpeech (threshold : Quantity) (block : List Sample) : Bool := exceeds (rms block) threshold

end SpokenCalculator.Level
