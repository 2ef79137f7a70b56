import SpokenCalculator.Binary.Format
import SpokenCalculator.Decimal.Basic

namespace SpokenCalculator

inductive BinaryReal where
  | finite (negative : Bool) (magnitude : BinaryMagnitude)
  | infinite (negative : Bool)
  | undefined
  deriving DecidableEq

namespace BinaryReal

def zero : BinaryReal := .finite false ⟨0, -1074⟩

def ofRatio (negative : Bool) (numerator denominator : Nat) : BinaryReal :=
  match BinaryFormat.double.nearest? numerator denominator with
  | some magnitude => .finite negative magnitude
  | none => .infinite negative

def ofInt (n : Int) : BinaryReal := ofRatio (n < 0) n.natAbs 1

def ofRat (q : Rat) : BinaryReal := ofRatio (q < 0) q.num.natAbs q.den

/-- Round a decimal number. Powers of ten far outside the range are not
built. -/
def ofDecimal (negative : Bool) (coefficient : Nat) (exponent : Int) : BinaryReal :=
  let leading := leadingExponent coefficient exponent
  if coefficient = 0 ∨ leading < -400 then ofRatio negative 0 1
  else if 400 < leading then .infinite negative
  else ofRatio negative (coefficient * Nat.pow 10 exponent.toNat) (Nat.pow 10 (-exponent).toNat)

def value? : BinaryReal → Option Rat
  | .finite negative magnitude =>
      let (numerator, denominator) := magnitude.ratio
      let size := mkRat numerator denominator
      some (if negative then -size else size)
  | _ => none

def isNegative : BinaryReal → Bool
  | .finite negative _ => negative
  | .infinite negative => negative
  | .undefined => false

def add (x y : BinaryReal) : BinaryReal :=
  match x, y with
  | .undefined, _ | _, .undefined => .undefined
  | .infinite s, .infinite t => if s = t then .infinite s else .undefined
  | .infinite s, _ => .infinite s
  | _, .infinite t => .infinite t
  | .finite s _, .finite t _ =>
      let total := x.value?.getD 0 + y.value?.getD 0
      if total = 0 then ofRatio (s && t) 0 1 else ofRat total

def multiply : BinaryReal → BinaryReal → BinaryReal
  | .undefined, _ | _, .undefined => .undefined
  | .finite s x, .finite t y =>
      let (numerator, denominator) := x.ratio
      let (numerator', denominator') := y.ratio
      ofRatio (s != t) (numerator * numerator') (denominator * denominator')
  | .infinite s, .infinite t => .infinite (s != t)
  | .infinite s, .finite t y => if y.significand = 0 then .undefined else .infinite (s != t)
  | .finite s x, .infinite t => if x.significand = 0 then .undefined else .infinite (s != t)

def nearestInt? : BinaryReal → Option Int
  | .finite negative magnitude =>
      let (numerator, denominator) := magnitude.ratio
      let whole : Int := nearestQuotient numerator denominator
      some (if negative then -whole else whole)
  | _ => none

def truncate? : BinaryReal → Option Int
  | .finite negative magnitude =>
      let (numerator, denominator) := magnitude.ratio
      let whole : Int := ↑(numerator / denominator)
      some (if negative then -whole else whole)
  | _ => none

/-- The exact decimal form: the last place is the one where the binary fraction
ends. -/
def toDecimal : BinaryReal → Decimal
  | .finite negative magnitude =>
      let q := mkRat magnitude.ratio.1 magnitude.ratio.2
      let places := q.den.log2
      .finite negative (q.num.natAbs * Nat.pow 5 places) (-places)
  | .infinite negative => .infinite negative
  | .undefined => .notNumber false false 0

end BinaryReal

end SpokenCalculator
