import SpokenCalculator.Number.Cardinal
import SpokenCalculator.Numeral
import SpokenCalculator.Text.LowerCase
import SpokenCalculator.Text.Quoted

/-!
# Reading a spoken number

A spoken number is a cardinal, optionally followed by the word "point" and
digits. The cardinal is read with some tolerance: hyphens part words, case does
not matter, other words are passed over, and a single numeral in digits stands
for itself. Only the exact lower-case "point" opens the exact fraction; one in
capitals belongs to the cardinal and makes its value a binary number.
-/

namespace SpokenCalculator

inductive SpokenFault where
  | repeatedPoint
  | nothingAfterPoint
  | notDigits (words : List String)
  | noNumberWords
  | repeatedScale
  | disorderedScales
  | emptyGroup (words : List String)
  | malformedInteger (text : String)
  | tooManyDigits (digits : Nat)
  | malformedDecimal
  deriving DecidableEq

namespace SpokenFault

def advice : String :=
  "Please enter a valid number word (eg. two million twenty three thousand and forty nine)"

def spaced (words : List String) : String := " ".intercalate words

def tooLongMessage (digits : Nat) : String :=
  s!"Exceeds the limit ({Numeral.digitLimit} digits) for integer string conversion: value has " ++
    s!"{digits} digits; use sys.set_int_max_str_digits() to increase the limit"

def message : SpokenFault → String
  | .repeatedPoint => "More than one decimal point"
  | .nothingAfterPoint => "Nothing after 'point'"
  | .notDigits words => "Not a digit after 'point': " ++ spaced words
  | .noNumberWords => "No valid number words found! " ++ advice
  | .repeatedScale => "Redundant number word! " ++ advice
  | .disorderedScales => "Malformed number! " ++ advice
  | .emptyGroup words => "Could not convert number phrase: " ++ spaced words
  | .malformedInteger text =>
      "invalid literal for int() with base 10: " ++
        String.ofList ((Text.quotedCharacters text.toList).take 200)
  | .tooManyDigits digits => tooLongMessage digits
  | .malformedDecimal => "[<class 'decimal.ConversionSyntax'>]"

end SpokenFault

/-- The value of a cardinal: exact, or binary if it has a fraction of its
own. -/
inductive CardinalValue where
  | exact (value : Nat)
  | binary (value : BinaryReal)
  deriving DecidableEq

namespace Spoken

/-- The characters of words in lower case, with spaces for hyphens. -/
def plainCharacters (words : List String) : List Char :=
  Text.lowerCase ((" ".intercalate words).toList.map fun c => if c == '-' then ' ' else c)

def readNumeral (text : List Char) : Except SpokenFault CardinalValue :=
  match Numeral.readInteger (String.ofList text) with
  | .ok value => .ok (.exact value.natAbs)
  | .error .malformed => .error (.malformedInteger (String.ofList text))
  | .error (.tooLong digits) => .error (.tooManyDigits digits)

def knownWords (text : List Char) : List String :=
  ((Text.words text).map String.ofList).filter fun word => word == pointWord || isNumberWord word

def isRepeated (words : List String) : Bool :=
  ["thousand", "million", "billion", pointWord].any fun word => 1 < words.count word

/-- The sum of an integer and a fraction in digit words; words that are no
digits add nothing. -/
def withFraction (whole : Nat) (fraction : List String) : CardinalValue :=
  if fraction.isEmpty then .exact whole
  else
    match fraction.mapM digitWordValue? with
    | some digits =>
        let part := BinaryReal.ofDecimal false (digitsValue digits) (-digits.length)
        .binary ((BinaryReal.ofInt whole).add part)
    | none => .exact whole

def beforePoint (words : List String) : List String := words.takeWhile (· ≠ pointWord)

def behindPoint (words : List String) : List String := (words.dropWhile (· ≠ pointWord)).tail

def ofKnownWords (given known : List String) : Except SpokenFault CardinalValue :=
  if known.isEmpty then .error .noNumberWords
  else if isRepeated known then .error .repeatedScale
  else
    match Cardinal.value ((beforePoint known).filterMap NumberWord.ofText?) with
    | .ok whole => .ok (withFraction whole (behindPoint known))
    | .error .disordered => .error .disorderedScales
    | .error .emptyGroup => .error (.emptyGroup given)

def readCardinal (words : List String) : Except SpokenFault CardinalValue :=
  let text := plainCharacters words
  if words.isEmpty then .ok (.exact 0)
  else if Text.isDigits text then readNumeral text
  else ofKnownWords words (knownWords text)

def attachFraction (digits : List Nat) : CardinalValue → Except SpokenFault Decimal
  | .exact whole =>
      .ok (.finite false (whole * Nat.pow 10 digits.length + digitsValue digits) (-digits.length))
  | .binary _ => .error .malformedDecimal

def toDecimal : CardinalValue → Decimal
  | .exact whole => .ofNat whole
  | .binary value => value.toDecimal

def read (words : List String) : Except SpokenFault Decimal :=
  if 1 < words.count pointWord then .error .repeatedPoint
  else if words.contains pointWord then
    let fraction := behindPoint words
    if fraction.isEmpty then .error .nothingAfterPoint
    else
      match fraction.mapM digitWordValue? with
      | none => .error (.notDigits fraction)
      | some digits => do attachFraction digits (← readCardinal (beforePoint words))
  else do pure (toDecimal (← readCardinal words))

end Spoken

end SpokenCalculator
