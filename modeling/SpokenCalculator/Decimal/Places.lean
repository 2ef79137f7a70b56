import SpokenCalculator.Decimal.Arithmetic

namespace SpokenCalculator

namespace Context

/-- The power of ten with the given exponent, fitted into the context. Exponents
beyond twice the range are refused outright. -/
def powerOfTen (context : Context) (exponent : Int) : Except Signal Decimal :=
  if 2 * (context.maxExponent + context.precision) < exponent.natAbs then .error .invalidOperation
  else context.round false 1 exponent

/-- Round a magnitude to end at the given place. There is no result when it
would need more digits than the precision, or when the place is out of range. -/
def roundedAt (context : Context) (negative : Bool) (coefficient : Nat) (exponent place : Int) :
    Except Signal Decimal :=
  if place < context.leastPlace ∨ context.maxExponent < place then .error .invalidOperation
  else if coefficient = 0 then .ok (.finite negative 0 place)
  else
    let leading := leadingExponent coefficient exponent
    if context.maxExponent < leading ∨ context.precision < leading - place + 1 then
      .error .invalidOperation
    else
      let rounded :=
        if place ≤ exponent then coefficient * Nat.pow 10 (exponent - place).toNat
        else dropDigits coefficient (place - exponent).toNat
      if context.precision < digitCount rounded ∨
          context.maxExponent < leadingExponent rounded place then .error .invalidOperation
      else .ok (.finite negative rounded place)

/-- Round a number to the last place of another. What is no number stays so,
unless it signals. -/
def quantize (context : Context) : Decimal → Decimal → Except Signal Decimal
  | .notNumber _ true _, _ => .error .invalidOperation
  | _, .notNumber _ true _ => .error .invalidOperation
  | x@(.notNumber ..), _ => .ok x
  | _, y@(.notNumber ..) => .ok y
  | x@(.infinite _), .infinite _ => .ok x
  | .finite negative coefficient exponent, .finite _ _ place =>
      context.roundedAt negative coefficient exponent place
  | _, _ => .error .invalidOperation

/-- Round, then move all zeros at the end into the power of ten. Zero has the
exponent zero. -/
def reduce (context : Context) : Decimal → Except Signal Decimal
  | .finite negative coefficient exponent => do
      match ← context.round negative coefficient exponent with
      | .finite _ rounded place =>
          if rounded = 0 then pure (.finite negative 0 0)
          else
            let most := min (digitCount rounded) (context.maxExponent - place).toNat
            let (stripped, exponent) := stripZeros rounded place most
            pure (.finite negative stripped exponent)
      | other => pure other
  | .notNumber _ true _ => .error .invalidOperation
  | x => .ok x

end Context

def Decimal.isIntegral : Decimal → Bool
  | .finite _ coefficient exponent =>
      coefficient == 0 || 0 ≤ exponent ||
        ((-exponent).toNat ≤ digitCount coefficient &&
          coefficient % Nat.pow 10 (-exponent).toNat == 0)
  | _ => false

end SpokenCalculator
