namespace SpokenCalculator

def smallWords : List String :=
  ["zero", "one", "two", "three", "four", "five", "six", "seven", "eight", "nine", "ten", "eleven",
   "twelve", "thirteen", "fourteen", "fifteen", "sixteen", "seventeen", "eighteen", "nineteen"]

def tensWords : List String :=
  ["twenty", "thirty", "forty", "fifty", "sixty", "seventy", "eighty", "ninety"]

inductive Scale where
  | hundred
  | thousand
  | million
  | billion
  deriving DecidableEq

namespace Scale

def value : Scale → Nat
  | .hundred => 100
  | .thousand => 1000
  | .million => 1000000
  | .billion => 1000000000

def ofText? : String → Option Scale
  | "hundred" => some .hundred
  | "thousand" => some .thousand
  | "million" => some .million
  | "billion" => some .billion
  | _ => none

end Scale

/-- A word that stands for a number: one below twenty, a count of tens, or a
scale. -/
inductive NumberWord where
  | small (value : Nat)
  | tens (count : Nat)
  | scale (unit : Scale)
  deriving DecidableEq

namespace NumberWord

def value : NumberWord → Nat
  | .small value => value
  | .tens count => 10 * count
  | .scale unit => unit.value

def ofText? (word : String) : Option NumberWord :=
  match smallWords.idxOf? word, tensWords.idxOf? word with
  | some value, _ => some (.small value)
  | none, some place => some (.tens (place + 2))
  | none, none => (Scale.ofText? word).map .scale

end NumberWord

def isNumberWord (word : String) : Bool := (NumberWord.ofText? word).isSome

def pointWord : String := "point"

def digitWordValue? (word : String) : Option Nat := (smallWords.take 10).idxOf? word

end SpokenCalculator
