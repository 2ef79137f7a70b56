import SpokenCalculator.Decimal.Basic
import SpokenCalculator.Text.Digit

namespace SpokenCalculator.Decimal

def digitsOf (n : Nat) : List Char := Nat.toDigits 10 n

/-- Set a point in front of the given number of last digits, with zeros as far
as needed. -/
def pointBefore (digits : List Char) (places : Nat) : List Char :=
  let padded := List.replicate (places + 1 - digits.length) '0' ++ digits
  let whole := padded.take (padded.length - places)
  if places = 0 then whole else whole ++ '.' :: padded.drop (padded.length - places)

/-- One digit, a point if more follow, and the exponent of the first digit with
its sign. -/
def scientific (digits : List Char) (exponent : Int) : List Char :=
  let mantissa :=
    match digits with
    | first :: second :: rest => first :: '.' :: second :: rest
    | short => short
  let sign := if exponent < 0 then '-' else '+'
  mantissa ++ 'E' :: sign :: digitsOf exponent.natAbs

def signCharacters (negative : Bool) : List Char := if negative then ['-'] else []

def characters : Decimal → List Char
  | .finite negative coefficient exponent =>
      let digits := digitsOf coefficient
      let leading := exponent + digits.length - 1
      signCharacters negative ++
        if exponent ≤ 0 ∧ -6 ≤ leading then pointBefore digits (-exponent).toNat
        else scientific digits leading
  | .infinite negative => signCharacters negative ++ "Infinity".toList
  | .notNumber negative signaling payload =>
      signCharacters negative ++ (if signaling then ['s'] else []) ++ "NaN".toList ++
        if payload = 0 then [] else digitsOf payload

def text (x : Decimal) : String := String.ofList x.characters

def spanDigits (text : List Char) : List Char × List Char :=
  (text.takeWhile Text.isDecimalDigit, text.dropWhile Text.isDecimalDigit)

def digitValues (digits : List Char) : List Nat := digits.filterMap Text.digitValue?

def ofParts (negative : Bool) (whole fraction : List Char) (exponent : Int) : Decimal :=
  .finite negative (digitsValue (digitValues (whole ++ fraction))) (exponent - fraction.length)

def readExponent? : List Char → Option Int
  | [] => some 0
  | mark :: rest =>
      if mark.toLower != 'e' then none
      else
        let (negative, digits) :=
          match rest with
          | '-' :: digits => (true, digits)
          | '+' :: digits => (false, digits)
          | digits => (false, digits)
        if digits.isEmpty || !digits.all Text.isDecimalDigit then none
        else
          let value : Int := digitsValue (digitValues digits)
          some (if negative then -value else value)

def readDigits? (negative : Bool) (text : List Char) : Option Decimal :=
  let (whole, afterWhole) := spanDigits text
  let (fraction, rest) :=
    match afterWhole with
    | '.' :: behind => spanDigits behind
    | _ => ([], afterWhole)
  if whole.isEmpty && fraction.isEmpty then none
  else (readExponent? rest).map (ofParts negative whole fraction)

/-- The word for what is no number, with the digits of its payload. -/
def readNotNumber? (negative signaling : Bool) (payload : List Char) : Option Decimal :=
  if payload.all Text.isDecimalDigit then
    some (.notNumber negative signaling (digitsValue (digitValues payload)))
  else none

def readUnsigned? (negative : Bool) (text : List Char) : Option Decimal :=
  match text.map Char.toLower with
  | ['i', 'n', 'f'] | ['i', 'n', 'f', 'i', 'n', 'i', 't', 'y'] => some (.infinite negative)
  | 'n' :: 'a' :: 'n' :: payload => readNotNumber? negative false payload
  | 's' :: 'n' :: 'a' :: 'n' :: payload => readNotNumber? negative true payload
  | _ => readDigits? negative text

/-- Read a number with an optional sign. Digits may be those of any script. -/
def read? (text : String) : Option Decimal :=
  match text.toList with
  | '-' :: rest => readUnsigned? true rest
  | '+' :: rest => readUnsigned? false rest
  | rest => readUnsigned? false rest

end SpokenCalculator.Decimal
