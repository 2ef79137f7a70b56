import SpokenCalculator.Decimal.Context

/-!
# Arithmetic on decimal numbers

Each operation works on finite numbers and fits its exact result into a context.
A sum of numbers that lie very far apart, and a quotient that does not end, are
replaced by a number with the same rounding: one digit of the order of the rest
stands for all that is left out.
-/

namespace SpokenCalculator

structure Magnitude where
  negative : Bool
  coefficient : Nat
  exponent : Int

namespace Magnitude

def leading (x : Magnitude) : Int := leadingExponent x.coefficient x.exponent

def signedAt (x : Magnitude) (place : Int) : Int :=
  let coefficient : Int := appendZeros x.coefficient (x.exponent - place).toNat
  if x.negative then -coefficient else coefficient

end Magnitude

namespace Context

/-- A place so far below the digits of a number that will be kept that nothing
under it can change how a sum rounds, except by not being zero. -/
def stickyPlace (context : Context) (x : Magnitude) : Int :=
  min x.exponent (x.leading - context.precision) - 3

/-- What a summand may be replaced by beside the other one: the number itself,
or a single digit if it lies wholly below the sticky place of the other. -/
def reduceBeside (context : Context) (x y : Magnitude) : Magnitude :=
  if x.coefficient ≠ 0 ∧ y.leading < context.stickyPlace x then
    ⟨y.negative, min y.coefficient 1, context.stickyPlace x⟩
  else y

def sumPlace (x y : Magnitude) : Int := min x.exponent y.exponent

def sum (context : Context) (x y : Magnitude) : Except Signal Decimal :=
  let y' := context.reduceBeside x y
  let x' := context.reduceBeside y x
  let place := sumPlace x' y'
  let total := x'.signedAt place + y'.signedAt place
  let negative := if total = 0 then x.negative && y.negative else total < 0
  context.round negative total.natAbs place

def product (context : Context) (x y : Magnitude) : Except Signal Decimal :=
  context.round (x.negative != y.negative) (x.coefficient * y.coefficient) (x.exponent + y.exponent)

/-- Move zeros at the end of a coefficient into the power of ten, at most the
given number. -/
def stripZeros (coefficient : Nat) (exponent : Int) : Nat → Nat × Int
  | 0 => (coefficient, exponent)
  | most + 1 =>
      if coefficient % 10 = 0 then stripZeros (coefficient / 10) (exponent + 1) most
      else (coefficient, exponent)

/-- Divide by a number that is not zero. The quotient is taken to one digit more
than the precision; if something remains and the last digit does not show it,
that digit is raised by one. A quotient that ends keeps the power of ten that
the operands suggest, as far as its zeros reach. -/
def quotient (context : Context) (x y : Magnitude) : Except Signal Decimal :=
  let negative := x.negative != y.negative
  let ideal := x.exponent - y.exponent
  if x.coefficient = 0 then context.round negative 0 ideal
  else
    let shift : Int :=
      (digitCount y.coefficient : Int) - digitCount x.coefficient + context.precision + 1
    let numerator := x.coefficient * Nat.pow 10 shift.toNat
    let denominator := y.coefficient * Nat.pow 10 (-shift).toNat
    let whole := numerator / denominator
    let place := ideal - shift
    if numerator % denominator = 0 then
      let (coefficient, exponent) := stripZeros whole place shift.toNat
      context.round negative coefficient exponent
    else
      context.round negative (if whole % 5 = 0 then whole + 1 else whole) place

def onFinite (operation : Magnitude → Magnitude → Except Signal Decimal) :
    Decimal → Decimal → Except Signal Decimal
  | .finite s c e, .finite t d f => operation ⟨s, c, e⟩ ⟨t, d, f⟩
  | _, _ => .error .invalidOperation

def add (context : Context) : Decimal → Decimal → Except Signal Decimal := onFinite context.sum

def subtract (context : Context) (x y : Decimal) : Except Signal Decimal :=
  context.add x y.opposite

def multiply (context : Context) : Decimal → Decimal → Except Signal Decimal :=
  onFinite context.product

def divide (context : Context) : Decimal → Decimal → Except Signal Decimal :=
  onFinite fun x y =>
    if y.coefficient = 0 then
      .error (if x.coefficient = 0 then .invalidOperation else .divisionByZero)
    else context.quotient x y

def negate (context : Context) : Decimal → Except Signal Decimal
  | .finite negative coefficient exponent =>
      context.round (!negative && coefficient ≠ 0) coefficient exponent
  | .infinite negative => .ok (.infinite !negative)
  | .notNumber _ true _ => .error .invalidOperation
  | x => .ok x

def absolute (context : Context) : Decimal → Except Signal Decimal
  | .finite _ coefficient exponent => context.round false coefficient exponent
  | .infinite _ => .ok (.infinite false)
  | .notNumber _ true _ => .error .invalidOperation
  | x => .ok x

end Context

end SpokenCalculator
