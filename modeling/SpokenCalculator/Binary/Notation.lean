import SpokenCalculator.Binary.Shortest
import SpokenCalculator.Decimal.Notation
import SpokenCalculator.Decimal.Arithmetic

namespace SpokenCalculator.BinaryReal

/-- Digits with a point at the given distance from their first one, and at least
one place. -/
def plainNotation (digits : List Char) (leading : Int) : List Char :=
  if leading < 0 then
    "0.".toList ++ List.replicate (-leading - 1).toNat '0' ++ digits
  else
    let whole := leading.toNat + 1
    if digits.length ≤ whole then
      digits ++ List.replicate (whole - digits.length) '0' ++ ".0".toList
    else digits.take whole ++ '.' :: digits.drop whole

def exponentNotation (digits : List Char) (leading : Int) : List Char :=
  let mantissa :=
    match digits with
    | first :: second :: rest => first :: '.' :: second :: rest
    | short => short
  let exponent := Decimal.digitsOf leading.natAbs
  let padded := if exponent.length < 2 then '0' :: exponent else exponent
  mantissa ++ 'e' :: (if leading < 0 then '-' else '+') :: padded

def magnitudeNotation (magnitude : BinaryMagnitude) : List Char :=
  if magnitude.significand = 0 then "0.0".toList
  else
    let shortest := magnitude.shortest
    let (coefficient, exponent) :=
      Context.stripZeros shortest.coefficient shortest.exponent (digitCount shortest.coefficient)
    let digits := Decimal.digitsOf coefficient
    let leading := exponent + digits.length - 1
    if -4 ≤ leading ∧ leading < 16 then plainNotation digits leading
    else exponentNotation digits leading

def text : BinaryReal → String
  | .finite negative magnitude =>
      String.ofList (Decimal.signCharacters negative ++ magnitudeNotation magnitude)
  | .infinite negative => if negative then "-inf" else "inf"
  | .undefined => "nan"

end SpokenCalculator.BinaryReal
