import SpokenCalculator.Phrase.Item

/-!
# Signs

Plus and minus are signs of the number behind them when they follow another
operator, and also in front of the first number when another operator comes
later. Everywhere else they are operators.
-/

namespace SpokenCalculator.Phrase

/-- Whether an operator that may be a sign changes the sign of its number. -/
def signOf? : Operator → Option Bool
  | .add => some false
  | .subtract => some true
  | _ => none

/-- Does plus or minus act as a sign, given the items before it, the last one
first, and those behind its number? -/
def isSign (before behind : List Item) : Bool :=
  before.head?.any Item.isOperator || (!before.any Item.isNumber && behind.any Item.isOperator)

def applySign (negative : Bool) (value : Decimal) : Except Signal Decimal :=
  if negative then Context.standard.negate value else .ok value

/-- Join signs with their numbers behind the items that were read so far, the
last one first. -/
def resolveAfter (read : List Item) : List Item → Except Signal (List Item)
  | .operator operator :: .number value :: rest =>
      match signOf? operator with
      | some negative =>
          if isSign read rest then
            match applySign negative value with
            | .ok value => resolveAfter (.number value :: read) rest
            | .error signal => .error signal
          else resolveAfter (.operator operator :: read) (.number value :: rest)
      | none => resolveAfter (.operator operator :: read) (.number value :: rest)
  | item :: rest => resolveAfter (item :: read) rest
  | [] => .ok read.reverse

def resolveSigns (items : List Item) : Except Signal (List Item) := resolveAfter [] items

end SpokenCalculator.Phrase
