import SpokenCalculator.Binary.Real

/-!
# The shortest decimal that reads back

A binary number is written with the fewest digits that round to it again. The
numbers that do so form an interval around it, from halfway to its lower
neighbour to halfway to its upper one, with the ends if the significand is even.
For one digit, two digits and so on, the two neighbours of the number on that
decimal grid are tried; if one lies in the interval, so does the number's
nearest neighbour there.
-/

namespace SpokenCalculator

structure DecimalDigits where
  coefficient : Nat
  exponent : Int

namespace BinaryMagnitude

/-- Numerators of the value and of the ends of its interval, over one
denominator. -/
structure Neighbourhood where
  value : Nat
  low : Nat
  high : Nat
  denominator : Nat
  closed : Bool

/-- Below a power of two the lower neighbour is only half as far away. -/
def neighbourhood (x : BinaryMagnitude) : Neighbourhood :=
  let scale := Nat.pow 2 x.exponent.toNat
  let below :=
    if x.significand = Nat.pow 2 52 ∧ BinaryFormat.double.leastExponent < x.exponent then 1 else 2
  { value := 4 * x.significand * scale
    low := (4 * x.significand - below) * scale
    high := (4 * x.significand + 2) * scale
    denominator := 4 * Nat.pow 2 (-x.exponent).toNat
    closed := x.significand % 2 == 0 }

end BinaryMagnitude

namespace BinaryMagnitude.Neighbourhood

def compareWith (n : Neighbourhood) (x : DecimalDigits) (numerator : Nat) : Ordering :=
  compare (x.coefficient * Nat.pow 10 x.exponent.toNat * n.denominator)
    (numerator * Nat.pow 10 (-x.exponent).toNat)

def readsBack (n : Neighbourhood) (x : DecimalDigits) : Bool :=
  let low := n.compareWith x n.low
  let high := n.compareWith x n.high
  (low == .gt || (n.closed && low == .eq)) && (high == .lt || (n.closed && high == .eq))

/-- The least exponent whose power of ten exceeds a positive value. -/
def ceilingExponent (n : Neighbourhood) : Int :=
  let estimate : Int := (digitCount n.value : Int) - digitCount n.denominator
  if n.value * Nat.pow 10 (-estimate).toNat < n.denominator * Nat.pow 10 estimate.toNat then
    estimate
  else estimate + 1

/-- The neighbour of the value on a decimal grid that reads back, if there is
one: the nearer of the two, and the even one when they are equally near. -/
def candidate? (n : Neighbourhood) (exponent : Int) : Option DecimalDigits :=
  let unit := n.denominator * Nat.pow 10 exponent.toNat
  let scaled := n.value * Nat.pow 10 (-exponent).toNat
  let nearest : DecimalDigits := ⟨nearestQuotient scaled unit, exponent⟩
  let below : DecimalDigits := ⟨scaled / unit, exponent⟩
  let above : DecimalDigits := ⟨scaled / unit + 1, exponent⟩
  [nearest, below, above].find? n.readsBack

end BinaryMagnitude.Neighbourhood

namespace BinaryMagnitude

/-- The fewest digits that read back to a positive magnitude. Seventeen are
always enough; the exact decimal form stands behind them. -/
def shortest (x : BinaryMagnitude) : DecimalDigits :=
  let n := x.neighbourhood
  let top := n.ceilingExponent
  let counts := (List.range 17).map fun count => top - (count + 1 : Nat)
  match counts.findSome? n.candidate? with
  | some digits => digits
  | none =>
      let places := (-x.exponent).toNat
      ⟨x.significand * Nat.pow 2 x.exponent.toNat * Nat.pow 5 places, -places⟩

end BinaryMagnitude

end SpokenCalculator
