import SpokenCalculator.Text.Blank
import SpokenCalculator.Text.Digit
import SpokenCalculator.Text.LowerCase
import SpokenCalculator.Text.WholePhrase

namespace SpokenCalculator.Phrase

def isLetter (c : Char) : Bool := 'a' ≤ c && c ≤ 'z'

def nextIsLetter (rest : List Char) : Bool := rest.head?.any isLetter

def partHyphenated (text : List Char) : List Char :=
  Text.transduceInContext
    (fun before c rest =>
      if c == '-' && before.any isLetter && nextIsLetter rest then [' '] else [c])
    text

def beginsWithGroup (text : List Char) : Bool :=
  (text.take 3).length == 3 && (text.take 3).all Text.isDecimalDigit

/-- A comma between a digit and a group of three digits is no part of the
number. -/
def joinDigitGroups (text : List Char) : List Char :=
  Text.transduceInContext
    (fun before c rest =>
      if c == ',' && before.any Text.isDecimalDigit && beginsWithGroup rest then [] else [c])
    text

def spaceSingly (text : List Char) : List Char := Text.joinWords (Text.words text)

/-- Expressions of several words and the keyword for each, in the order of their
replacement. -/
def expressions : List (String × String) :=
  [("multiplied by", "times"), ("multiply by", "times"), ("divided by", "over"),
   ("divide by", "over"), ("what is the total", "recall"), ("what's the total", "recall")]

def replaceExpressions (text : List Char) : List Char :=
  expressions.foldl
    (fun text (expression, keyword) => Text.replaceWhole expression.toList keyword.toList text) text

def normalCharacters (text : List Char) : List Char :=
  replaceExpressions (spaceSingly (joinDigitGroups (partHyphenated (Text.lowerCase text))))

def normalize (text : String) : String := String.ofList (normalCharacters text.toList)

end SpokenCalculator.Phrase
