import SpokenCalculator.Decimal.Basic

namespace SpokenCalculator

inductive Signal where
  | invalidOperation
  | divisionByZero
  | overflow
  | malformedNumeral
  deriving DecidableEq

structure Context where
  precision : Nat
  maxExponent : Int
  minExponent : Int

namespace Context

def leastPlace (context : Context) : Int := context.minExponent - context.precision + 1

def bounded (context : Context) (negative : Bool) (coefficient : Nat) (exponent : Int) :
    Except Signal Decimal :=
  if context.maxExponent < leadingExponent coefficient exponent then .error .overflow
  else .ok (.finite negative coefficient exponent)

/-- The place at which a nonzero magnitude ends once it has been rounded. -/
def roundingPlace (context : Context) (coefficient : Nat) (exponent : Int) : Int :=
  max (exponent + digitCount coefficient - context.precision) context.leastPlace

/-- Fit an exact result, a coefficient at a power of ten, into the context. A
zero only has its power of ten brought into range. -/
def round (context : Context) (negative : Bool) (coefficient : Nat) (exponent : Int) :
    Except Signal Decimal :=
  if coefficient = 0 then
    .ok (.finite negative 0 (min (max exponent context.leastPlace) context.maxExponent))
  else
    let place := context.roundingPlace coefficient exponent
    if exponent < place then
      let kept := dropDigits coefficient (place - exponent).toNat
      if kept = 0 then .ok (.finite negative 0 place)
      else if context.precision < digitCount kept then
        context.bounded negative (kept / 10) (place + 1)
      else context.bounded negative kept place
    else context.bounded negative coefficient exponent

end Context

/-- Twenty-eight digits: the context of all operations that name no other. -/
def Context.standard : Context := ⟨28, 999999, -999999⟩

end SpokenCalculator
