import SpokenCalculator.Command
import SpokenCalculator.Number.Run
import SpokenCalculator.Phrase.Token

namespace SpokenCalculator.Phrase

inductive Keyword where
  | recall
  | clear
  deriving DecidableEq

inductive Meaning where
  | number (value : Decimal)
  | spoken (word : String)
  | conjunction
  | negative
  | operator (operator : Operator)
  | keyword (keyword : Keyword)
  | filler

def operatorWords : List (String × Operator) :=
  [("plus", .add), ("add", .add), ("+", .add), ("minus", .subtract), ("subtract", .subtract),
   ("-", .subtract), ("times", .multiply), ("multiply", .multiply), ("into", .multiply),
   ("x", .multiply), ("*", .multiply), ("×", .multiply), ("over", .divide), ("divide", .divide),
   ("/", .divide), ("÷", .divide)]

def keywords : List (String × Keyword) :=
  [("recall", .recall), ("clear", .clear), ("reset", .clear)]

def wordMeaning (word : String) : Meaning :=
  if isNumberWord word || word == pointWord then .spoken word
  else if word == "and" then .conjunction
  else if word == "negative" then .negative
  else
    match operatorWords.lookup word, keywords.lookup word with
    | some operator, _ => .operator operator
    | none, some keyword => .keyword keyword
    | none, none => .filler

def Token.meaning : Token → Meaning
  | .numeral whole fraction => .number (Decimal.ofParts false whole fraction 0)
  | token => wordMeaning token.text

/-- Does the text go on with a number word? The word "point" is none. -/
def goesOnWithNumber : List Token → Bool
  | .word letters :: _ => isNumberWord (String.ofList letters)
  | _ => false

/-- A number in digits, a run of number words, or a token that acts on its
own. -/
inductive Piece where
  | number (value : Decimal)
  | run (words : List String)
  | negative
  | operator (operator : Operator)
  | keyword (keyword : Keyword)
  deriving DecidableEq

/-- Close a run, whose last word comes first, in front of the pieces found
before it. -/
def closeRun (found : List Piece) (run : List String) : List Piece :=
  if run.isEmpty then found else .run run.reverse :: found

/-- The pieces of the tokens behind an open run and behind the pieces found so
far. -/
def piecesAfter (found : List Piece) (run : List String) : List Token → List Piece
  | [] => (closeRun found run).reverse
  | token :: rest =>
      match token.meaning with
      | .spoken word => piecesAfter found (word :: run) rest
      | .conjunction =>
          if !run.isEmpty && goesOnWithNumber rest then piecesAfter found run rest
          else piecesAfter (closeRun found run) [] rest
      | .filler => piecesAfter (closeRun found run) [] rest
      | .number value => piecesAfter (.number value :: closeRun found run) [] rest
      | .negative => piecesAfter (.negative :: closeRun found run) [] rest
      | .operator operator => piecesAfter (.operator operator :: closeRun found run) [] rest
      | .keyword keyword => piecesAfter (.keyword keyword :: closeRun found run) [] rest

def piecesOf (tokens : List Token) : List Piece := piecesAfter [] [] tokens

end SpokenCalculator.Phrase
