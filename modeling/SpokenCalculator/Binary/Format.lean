import SpokenCalculator.Rounding

namespace SpokenCalculator

structure BinaryFormat where
  precision : Nat
  leastExponent : Int
  greatestExponent : Int

structure BinaryMagnitude where
  significand : Nat
  exponent : Int
  deriving DecidableEq

namespace BinaryMagnitude

def ratio (x : BinaryMagnitude) : Nat × Nat :=
  (x.significand * Nat.pow 2 x.exponent.toNat, Nat.pow 2 (-x.exponent).toNat)

end BinaryMagnitude

namespace BinaryFormat

def single : BinaryFormat := ⟨24, -149, 104⟩

def double : BinaryFormat := ⟨53, -1074, 971⟩

def unitsAt (numerator denominator : Nat) (exponent : Int) : Nat :=
  nearestQuotient (numerator * Nat.pow 2 (-exponent).toNat)
    (denominator * Nat.pow 2 exponent.toNat)

/-- The exponent at which a positive quotient fills the significand, not below
the least. The binary logarithms fix it up to one. -/
def exponentFor (format : BinaryFormat) (numerator denominator : Nat) : Int :=
  let estimate : Int := (numerator.log2 : Int) - denominator.log2 - format.precision
  let full :=
    Nat.pow 2 format.precision * denominator * Nat.pow 2 estimate.toNat ≤
      numerator * Nat.pow 2 (-estimate).toNat
  max format.leastExponent (if full then estimate + 1 else estimate)

/-- The number of the format nearest to a quotient, or nothing beyond its
range. -/
def nearest? (format : BinaryFormat) (numerator denominator : Nat) : Option BinaryMagnitude :=
  if numerator = 0 then some ⟨0, format.leastExponent⟩
  else
    let exponent := format.exponentFor numerator denominator
    let significand := unitsAt numerator denominator exponent
    let rounded : BinaryMagnitude :=
      if significand < Nat.pow 2 format.precision then ⟨significand, exponent⟩
      else ⟨significand / 2, exponent + 1⟩
    if format.greatestExponent < rounded.exponent then none else some rounded

end BinaryFormat

end SpokenCalculator
