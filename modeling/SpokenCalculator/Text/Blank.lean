import SpokenCalculator.Text.CodeRanges

namespace SpokenCalculator.Text

def blankRanges : List (Nat × Nat) :=
  [(0x9, 0xD), (0x1C, 0x20), (0x85, 0x85), (0xA0, 0xA0), (0x1680, 0x1680), (0x2000, 0x200A),
   (0x2028, 0x2029), (0x202F, 0x202F), (0x205F, 0x205F), (0x3000, 0x3000)]

def isBlank (c : Char) : Bool := coveredBy blankRanges c.toNat

/-- Add one character in front of words that were read from right to left. The
flag says whether the first word may still grow. -/
def prependToWords (c : Char) : Bool × List (List Char) → Bool × List (List Char)
  | (growing, found) =>
      if isBlank c then (false, found)
      else
        match growing, found with
        | true, first :: rest => (true, (c :: first) :: rest)
        | _, _ => (true, [c] :: found)

def words (text : List Char) : List (List Char) :=
  (text.foldr prependToWords (false, [])).2

def joinWords (parts : List (List Char)) : List Char :=
  [' '].intercalate parts

def trim (isEdge : Char → Bool) (text : List Char) : List Char :=
  ((text.dropWhile isEdge).reverse.dropWhile isEdge).reverse

end SpokenCalculator.Text
