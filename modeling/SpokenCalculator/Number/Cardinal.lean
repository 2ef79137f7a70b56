import SpokenCalculator.Number.Word

/-!
# The value of a cardinal in words

The words before billion, million and thousand form groups, each of which is
multiplied by its scale; what follows the last scale word is added. A group is
read by its length alone, and what follows million is read whole, so some
cardinals that end in a scale word get a value that is too large.
-/

namespace SpokenCalculator

inductive CardinalFault where
  | disordered
  | emptyGroup
  deriving DecidableEq

namespace Cardinal

def groupValue : List Nat → Except CardinalFault Nat
  | [] => .error .emptyGroup
  | [first, second] =>
      .ok (if first = 100 ∨ second = 100 then first * second else first + second)
  | [first, second, third] => .ok (first * second + third)
  | [first, second, third, fourth] => .ok (first * second + third + fourth)
  | first :: _ => .ok first

def wordsValue (words : List NumberWord) : Except CardinalFault Nat :=
  groupValue (words.map NumberWord.value)

/-- The words before and behind the first occurrence of a scale word. -/
def cutAt? (scale : Scale) (words : List NumberWord) :
    Option (List NumberWord × List NumberWord) :=
  if words.contains (.scale scale) then
    some (words.takeWhile (· ≠ .scale scale), (words.dropWhile (· ≠ .scale scale)).tail)
  else none

/-- What a scale word contributes together with the group before it, the words
behind it if it occurs, and the words that are left to read. -/
def takeScale (scale : Scale) (words : List NumberWord) :
    Except CardinalFault (Nat × Option (List NumberWord) × List NumberWord) :=
  match cutAt? scale words with
  | some (before, behind) => do
      pure ((← wordsValue before) * scale.value, some behind, behind)
  | none => pure (0, none, words)

/-- Does the first of two scale words occur before the first occurrence of the
second? -/
def precedes (scale other : Scale) (words : List NumberWord) : Bool :=
  match words.idxOf? (.scale scale), words.idxOf? (.scale other) with
  | some place, some place' => place < place'
  | _, _ => false

def isDisordered (words : List NumberWord) : Bool :=
  precedes .thousand .million words || precedes .thousand .billion words ||
    precedes .million .billion words

/-- What is added behind the scale words: the group behind the last of them that
is not the last word, or all words if there is no scale word. -/
def tailValue (words : List NumberWord) (behind : List (Option (List NumberWord))) :
    Except CardinalFault Nat :=
  match (behind.filterMap id).find? (!·.isEmpty), behind.any Option.isSome with
  | some rest, _ => wordsValue rest
  | none, true => pure 0
  | none, false => wordsValue words

def value (words : List NumberWord) : Except CardinalFault Nat :=
  if isDisordered words then .error .disordered
  else
    match words with
    | [] => pure 0
    | [word] => pure word.value
    | _ => do
        let (billions, behindBillion, words') ← takeScale .billion words
        let (millions, behindMillion, words'') ← takeScale .million words'
        let (thousands, behindThousand, _) ← takeScale .thousand words''
        let tail ← tailValue words [behindThousand, behindMillion, behindBillion]
        pure (billions + millions + thousands + tail)

end Cardinal

end SpokenCalculator
