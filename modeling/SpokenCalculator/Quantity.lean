import SpokenCalculator.Binary.Notation
import SpokenCalculator.Failure

namespace SpokenCalculator

inductive Quantity where
  | whole (value : Int)
  | binary (value : BinaryReal)
  deriving DecidableEq

inductive Extended where
  | lowest
  | finite (value : Rat)
  | highest

namespace Extended

def lt : Extended → Extended → Bool
  | .lowest, .lowest => false
  | .lowest, _ => true
  | .finite x, .finite y => x < y
  | .finite _, .highest => true
  | _, _ => false

end Extended

namespace Quantity

def text : Quantity → String
  | .whole value => toString value
  | .binary value => value.text

def extended? : Quantity → Option Extended
  | .whole value => some (.finite value)
  | .binary (.infinite negative) => some (if negative then .lowest else .highest)
  | .binary value => value.value?.map .finite

def isDefined (x : Quantity) : Bool := x.extended?.isSome

def lt (x y : Quantity) : Bool :=
  match x.extended?, y.extended? with
  | some x, some y => x.lt y
  | _, _ => false

def le (x y : Quantity) : Bool :=
  match x.extended?, y.extended? with
  | some x, some y => !y.lt x
  | _, _ => false

def isZero (x : Quantity) : Bool := le x (.whole 0) && le (.whole 0) x

def isPositive (x : Quantity) : Bool := lt (.whole 0) x

/-- More seconds than anybody can wait: their nanoseconds have to stay below the
limit of sizes. -/
def longestWait : Quantity := .whole (Failure.sizeLimit / 1000000000)

def isTooLong (seconds : Quantity) : Bool := longestWait.lt seconds

def toBinary : Quantity → BinaryReal
  | .whole value => .ofInt value
  | .binary value => value

/-- The binary number of an amount. A whole number may be too large for one. -/
def toBinary? (x : Quantity) : Option BinaryReal :=
  match x, x.toBinary with
  | .whole _, .infinite _ => none
  | _, value => some value

/-- The product of a whole number and a quantity. Whole numbers multiply
exactly; otherwise the whole number becomes binary, unless it is too large. -/
def times? (n : Int) : Quantity → Option Quantity
  | .whole value => some (.whole (n * value))
  | .binary value => (whole n).toBinary?.map fun factor => .binary (factor.multiply value)

end Quantity

/-- Why an amount has no integer: it is undefined or infinite. -/
inductive IntegerConversion where
  | undefined
  | infinite
  deriving DecidableEq

namespace Quantity

def convert (convert? : BinaryReal → Option Int) : Quantity → Except IntegerConversion Int
  | .whole value => .ok value
  | .binary value =>
      match convert? value, value with
      | some result, _ => .ok result
      | none, .undefined => .error .undefined
      | none, _ => .error .infinite

def nearestInt : Quantity → Except IntegerConversion Int := convert BinaryReal.nearestInt?

def truncate : Quantity → Except IntegerConversion Int := convert BinaryReal.truncate?

end Quantity

end SpokenCalculator
