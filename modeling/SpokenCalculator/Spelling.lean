import SpokenCalculator.Decimal.Places
import SpokenCalculator.Failure
import SpokenCalculator.Number.Spoken

namespace SpokenCalculator

/-- Why a number has no spelling. There is no word for a count of hundreds from
twenty on. -/
inductive SpellingFault where
  | noWord (hundreds : Nat)
  | undefined
  | tooManyDigits (digits : Nat)
  | signal (signal : Signal)
  deriving DecidableEq

def SpellingFault.failure : SpellingFault → Failure
  | .noWord hundreds =>
      if hundreds < Failure.sizeLimit then ⟨.index, "list index out of range"⟩
      else ⟨.index, "cannot fit 'int' into an index-sized integer"⟩
  | .undefined => ⟨.type, "'>=' not supported between instances of 'str' and 'int'"⟩
  | .tooManyDigits digits => ⟨.value, SpokenFault.tooLongMessage digits⟩
  | .signal cause => cause.failure

namespace Spelling

def scales : List (Nat × String) :=
  [(Nat.pow 10 15, "quadrillion"), (Nat.pow 10 12, "trillion"), (Nat.pow 10 9, "billion"),
   (Nat.pow 10 6, "million"), (Nat.pow 10 3, "thousand")]

def smallWord (n : Nat) : String := smallWords.getD n ""

def tensWord (count : Nat) : String := tensWords.getD (count - 2) ""

def belowHundred (n : Nat) : String :=
  if n < 20 then smallWord n
  else if n % 10 = 0 then tensWord (n / 10)
  else tensWord (n / 10) ++ "-" ++ smallWord (n % 10)

/-- A number below two thousand: its hundreds, counted together, and the
rest. -/
def groupWords (n : Nat) : Except SpellingFault (List String) :=
  if 2000 ≤ n then .error (.noWord (n / 100))
  else
    let hundreds := if n / 100 = 0 then [] else [smallWord (n / 100), "hundred"]
    let rest := if n % 100 = 0 && n / 100 ≠ 0 then [] else [belowHundred (n % 100)]
    .ok (hundreds ++ rest)

/-- Spell a number by the given scales, and leave out groups that are zero. -/
def scaledWords : List (Nat × String) → Nat → Except SpellingFault (List String)
  | [], n => if n = 0 then .ok [] else groupWords n
  | (size, name) :: smaller, n => do
      let group ← if n / size = 0 then .ok [] else (groupWords (n / size)).map (· ++ [name])
      let rest ← scaledWords smaller (n % size)
      pure (group ++ rest)

def natural (n : Nat) : Except SpellingFault String :=
  if n = 0 then .ok (smallWord 0) else (scaledWords scales n).map (" ".intercalate ·)

def negativeWord : String := "negative "

def integer (n : Int) : Except SpellingFault String :=
  (natural n.natAbs).map ((if n < 0 then negativeWord else "") ++ ·)

def digitParts (coefficient : Nat) (exponent : Int) : List Nat × List Nat :=
  let digits := Decimal.digitValues (Decimal.digitsOf coefficient)
  if 0 ≤ exponent then (digits ++ List.replicate exponent.toNat 0, [])
  else
    let places := (-exponent).toNat
    let padded := List.replicate (places + 1 - digits.length) 0 ++ digits
    (padded.take (padded.length - places), padded.drop (padded.length - places))

def finite (negative : Bool) (coefficient : Nat) (exponent : Int) :
    Except SpellingFault String := do
  let (whole, fraction) := digitParts coefficient exponent
  if Numeral.digitLimit < whole.length then throw (.tooManyDigits whole.length)
  let words ← natural (digitsValue whole)
  let sign := if negative then negativeWord else ""
  let tail :=
    if fraction.isEmpty then "" else " point " ++ " ".intercalate (fraction.map smallWord)
  pure (sign ++ words ++ tail)

/-- Round to the given number of places behind the point. A number that is not
zero and would become zero stays as it is. -/
def roundFor (value : Decimal) (places : Int) : Except Signal Decimal := do
  let unit ← Context.standard.powerOfTen (-places)
  let rounded ← Context.standard.quantize value unit
  pure (if rounded.isZero && !value.isZero then value else rounded)

/-- The words of a number with at most the given number of places behind the
point. -/
def number (value : Decimal) (places : Int) : Except SpellingFault String := do
  let rounded ← (roundFor value places).mapError .signal
  if rounded.isZero then pure (smallWord 0)
  else
    match ← (Context.standard.reduce rounded).mapError .signal with
    | .finite negative coefficient exponent => finite negative coefficient exponent
    | _ => throw .undefined

end Spelling

end SpokenCalculator
