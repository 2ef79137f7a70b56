import SpokenCalculator.Decimal.Digits

/-!
# Decimal numbers

A decimal number keeps the way it was written: a sign, a coefficient and a power of ten, so that
`1.5` and `1.50` are different numbers of equal value and zero has a sign. Beside the finite numbers
stand the two infinities and the results that are no number; a signaling one fails wherever it is
used.
-/

namespace SpokenCalculator

inductive Decimal where
  | finite (negative : Bool) (coefficient : Nat) (exponent : Int)
  | infinite (negative : Bool)
  | notNumber (negative signaling : Bool) (payload : Nat)
  deriving DecidableEq

namespace Decimal

def zero : Decimal := .finite false 0 0

def ofNat (n : Nat) : Decimal := .finite false n 0

def isFinite : Decimal → Bool
  | .finite .. => true
  | _ => false

def isZero : Decimal → Bool
  | .finite _ coefficient _ => coefficient == 0
  | _ => false

def opposite : Decimal → Decimal
  | .finite negative coefficient exponent => .finite (!negative) coefficient exponent
  | .infinite negative => .infinite (!negative)
  | .notNumber negative signaling payload => .notNumber (!negative) signaling payload

end Decimal

def leadingExponent (coefficient : Nat) (exponent : Int) : Int :=
  exponent + digitCount coefficient - 1

/-- Compare two magnitudes, each a coefficient at a power of ten. Magnitudes
whose leading digits stand apart are told apart without aligning them. -/
def compareMagnitudes (c : Nat) (e : Int) (d : Nat) (f : Int) : Ordering :=
  if c = 0 ∨ d = 0 then compare c d
  else
    (compare (leadingExponent c e) (leadingExponent d f)).then
      (compare (c * Nat.pow 10 (e - f).toNat) (d * Nat.pow 10 (f - e).toNat))

end SpokenCalculator
