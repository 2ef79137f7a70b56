import SpokenCalculator.Number.Word

namespace SpokenCalculator

/-- Does the second of two neighbouring words begin a number? A word below
twenty takes no further word below a hundred, and a tens word takes one from one
to nineteen. -/
def startsNumber (before word : String) : Bool :=
  match NumberWord.ofText? before, NumberWord.ofText? word with
  | some (.small _), some (.small _) => true
  | some (.small _), some (.tens _) => true
  | some (.tens _), some (.tens _) => true
  | some (.tens _), some (.small value) => value == 0
  | _, _ => false

def splitRun (words : List String) : List (List String) :=
  words.splitBy fun before word => !startsNumber before word

end SpokenCalculator
