/-!
# Sets of characters as ranges of code points

A property of characters is stored as closed ranges of code points, ascending
and apart. The properties in this folder are those of Unicode version 14.
-/

namespace SpokenCalculator.Text

/-- Does a range of the list hold the code point? The search ends at the first
range that starts above it. -/
def coveredBy : List (Nat × Nat) → Nat → Bool
  | [], _ => false
  | (first, last) :: rest, code =>
      if code < first then false
      else if code ≤ last then true
      else coveredBy rest code

end SpokenCalculator.Text
