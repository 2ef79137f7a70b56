import SpokenCalculator.Command
import SpokenCalculator.Decimal.Places
import SpokenCalculator.Failure

/-!
# Calculation

An operator is applied with forty digits and the result is rounded to twelve
places. Operands and results beyond ten to the fifteenth are refused, and so is
a result that is not zero and would become zero. What remains is kept in one
form: zero without sign, integers without a power of ten, and other numbers
without zeros at the end.
-/

namespace SpokenCalculator

/-- Why a command has no result. A signal arises only while the range is
checked. -/
inductive CalculationFault where
  | divisionByZero
  | tooLarge (value : Decimal)
  | tooSmall (exact : Decimal)
  | notEvaluated (lhs : Decimal) (operator : Operator) (rhs : Decimal) (signal : Signal)
  | unrecognized (heard : String)
  | signal (signal : Signal)
  deriving DecidableEq

namespace CalculationFault

def failure : CalculationFault → Failure
  | .divisionByZero => ⟨.divisionByZero, "Division by zero"⟩
  | .tooLarge value => ⟨.outOfRange, s!"Result too large: {value.text}"⟩
  | .tooSmall exact => ⟨.outOfRange, s!"Result too small: {exact.text}"⟩
  | .notEvaluated lhs operator rhs cause =>
      ⟨.outOfRange, s!"Could not evaluate {lhs.text} {operator.mark} {rhs.text}: " ++
        s!"{cause.name}({cause.message})"⟩
  | .unrecognized heard => .made .unrecognized heard
  | .signal cause => cause.failure

end CalculationFault

namespace Calculation

/-- Forty digits are enough for sixteen digits before the point and the places
behind it. -/
def context : Context := ⟨40, 999999, -999999⟩

def quantum : Decimal := .finite false 1 (-12)

def exceedsLimit : Decimal → Bool
  | .finite _ coefficient exponent => compareMagnitudes coefficient exponent 1 15 == .gt
  | .infinite _ => true
  | .notNumber .. => false

/-- A magnitude is compared with the limit after rounding to the standard
precision. -/
def checkRange (value : Decimal) : Except CalculationFault Unit :=
  if !value.isFinite then .error (.tooLarge value)
  else
    match Context.standard.absolute value with
    | .ok size => if exceedsLimit size then .error (.tooLarge value) else .ok ()
    | .error signal => .error (.signal signal)

def exactResult (operator : Operator) (lhs rhs : Decimal) : Except Signal Decimal :=
  match operator with
  | .add => context.add lhs rhs
  | .subtract => context.subtract lhs rhs
  | .multiply => context.multiply lhs rhs
  | .divide => context.divide lhs rhs

def canonical (rounded : Decimal) : Except Signal Decimal :=
  if rounded.isIntegral then context.quantize rounded (.ofNat 1) else context.reduce rounded

def settle (exact : Decimal) : Except CalculationFault Decimal := do
  let rounded ← (context.quantize exact quantum).mapError .signal
  if rounded.isZero then
    if exact.isZero then pure .zero else throw (.tooSmall exact)
  else (canonical rounded).mapError .signal

def apply (operator : Operator) (lhs rhs : Decimal) : Except CalculationFault Decimal := do
  checkRange lhs
  checkRange rhs
  if operator = .divide ∧ rhs.isZero then throw .divisionByZero
  match exactResult operator lhs rhs with
  | .error .divisionByZero => throw .divisionByZero
  | .error signal => throw (.notEvaluated lhs operator rhs signal)
  | .ok exact =>
      checkRange exact
      settle exact

end Calculation

end SpokenCalculator
