import SpokenCalculator.Binary.Real
import SpokenCalculator.Decimal.Notation
import SpokenCalculator.Text.Blank

namespace SpokenCalculator.Numeral

def digitLimit : Nat := 4300

inductive IntegerFault where
  | malformed
  | tooLong (digits : Nat)
  deriving DecidableEq

/-- The separators of information, U+001C to U+001F, are no edge of a
numeral. -/
def isEdge (c : Char) : Bool := Text.isBlank c && !(0x1C ≤ c.toNat && c.toNat ≤ 0x1F)

def trimBlanks (text : List Char) : List Char := Text.trim isEdge text

/-- Take out the low lines, each of which has to stand between two digits. -/
def withoutSeparators? : Option Char → List Char → Option (List Char)
  | _, [] => some []
  | before, '_' :: rest =>
      if before.any Text.isDecimalDigit && rest.head?.any Text.isDecimalDigit then
        withoutSeparators? (some '_') rest
      else none
  | _, c :: rest => (withoutSeparators? (some c) rest).map (c :: ·)

def splitSign : List Char → Bool × List Char
  | '-' :: rest => (true, rest)
  | '+' :: rest => (false, rest)
  | rest => (false, rest)

def readInteger (text : String) : Except IntegerFault Int :=
  let (negative, digits) := splitSign (trimBlanks text.toList)
  match withoutSeparators? none digits with
  | none => .error .malformed
  | some digits =>
      let leading := (digits.takeWhile Text.isDecimalDigit).length
      if digitLimit < leading then .error (.tooLong leading)
      else if digits.isEmpty || leading < digits.length then .error .malformed
      else
        let size : Int := digitsValue (Decimal.digitValues digits)
        .ok (if negative then -size else size)

def readSpecial? (negative : Bool) (text : List Char) : Option BinaryReal :=
  match String.ofList (text.map Char.toLower) with
  | "inf" | "infinity" => some (.infinite negative)
  | "nan" => some .undefined
  | _ => none

/-- Read a number with an optional fraction and exponent, rounded to binary. -/
def readReal? (text : String) : Option BinaryReal := do
  let (negative, unsigned) := splitSign (trimBlanks text.toList)
  match readSpecial? negative unsigned with
  | some special => pure special
  | none =>
      let plain ← withoutSeparators? none unsigned
      match ← Decimal.readDigits? negative plain with
      | .finite negative coefficient exponent => pure (.ofDecimal negative coefficient exponent)
      | _ => none

end SpokenCalculator.Numeral
