import SpokenCalculator.Decimal.Arithmetic
import SpokenCalculator.Number.Spoken
import SpokenCalculator.Phrase.Piece

namespace SpokenCalculator.Phrase

inductive Item where
  | number (value : Decimal)
  | operator (operator : Operator)
  | keyword (keyword : Keyword)
  deriving DecidableEq

namespace Item

def isOperator : Item → Bool
  | .operator _ => true
  | _ => false

def number? : Item → Option Decimal
  | .number value => some value
  | _ => none

def isNumber (item : Item) : Bool := item.number?.isSome

def keyword? : Item → Option Keyword
  | .keyword found => some found
  | _ => none

end Item

/-- Why a phrase has no items: its words are no number, or a number cannot
change its sign. -/
inductive ItemFault where
  | spoken (fault : SpokenFault)
  | signal (signal : Signal)
  deriving DecidableEq

/-- The numbers of a run. From "point" on, all words belong to the number that
stands before it. -/
def numbersOfRun (run : List String) : List (List String) :=
  if run.contains pointWord then
    let groups := splitRun (Spoken.beforePoint run)
    groups.dropLast ++ [groups.getLast?.getD [] ++ run.dropWhile (· ≠ pointWord)]
  else splitRun run

/-- Items read so far, the last one first, and whether the next number changes
its sign. -/
structure ItemState where
  found : List Item
  negative : Bool

namespace ItemState

def number (state : ItemState) (value : Decimal) : Except ItemFault ItemState :=
  if state.negative then
    match Context.standard.negate value with
    | .ok value => .ok ⟨.number value :: state.found, false⟩
    | .error signal => .error (.signal signal)
  else .ok ⟨.number value :: state.found, false⟩

def spoken (state : ItemState) (words : List String) : Except ItemFault ItemState :=
  match Spoken.read words with
  | .ok value => state.number value
  | .error fault => .error (.spoken fault)

def piece (state : ItemState) : Piece → Except ItemFault ItemState
  | .number value => state.number value
  | .run words => (numbersOfRun words).foldlM spoken state
  | .negative => .ok { state with negative := true }
  | .operator operator => .ok ⟨.operator operator :: state.found, false⟩
  | .keyword keyword => .ok ⟨.keyword keyword :: state.found, false⟩

end ItemState

def itemsOfPieces (pieces : List Piece) : Except ItemFault (List Item) := do
  let state ← pieces.foldlM ItemState.piece ⟨[], false⟩
  pure state.found.reverse

def itemsOf (tokens : List Token) : Except ItemFault (List Item) := itemsOfPieces (piecesOf tokens)

end SpokenCalculator.Phrase
