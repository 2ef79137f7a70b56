import SpokenCalculator.Text.Transduction
import SpokenCalculator.Text.WordCharacter

/-!
# Phrases that stand on their own

A phrase stands on its own in a text when the edges of words fall on both of its
ends: "calc" does in "calc plus one" and does not in "calculator". An edge lies
between a word character and anything else, so a phrase that begins with a sign
needs a word character in front of it.
-/

namespace SpokenCalculator.Text

def isWordAt : Option Char → Bool
  | some c => isWordCharacter c
  | none => false

def isWordEdge (before after : Option Char) : Bool := isWordAt before != isWordAt after

/-- The last character of a phrase, or what stood before it when the phrase is
empty. -/
def lastOr (before : Option Char) (phrase : List Char) : Option Char :=
  match phrase.getLast? with
  | some c => some c
  | none => before

/-- Does the phrase stand on its own at the start of the text, behind the given
character? -/
def standsAt (phrase : List Char) (before : Option Char) (text : List Char) : Bool :=
  phrase.isPrefixOf text && isWordEdge before text.head? &&
    isWordEdge (lastOr before phrase) (text.drop phrase.length).head?

def standsIn (phrase : List Char) : Option Char → List Char → Bool
  | before, [] => standsAt phrase before []
  | before, c :: rest => standsAt phrase before (c :: rest) || standsIn phrase (some c) rest

/-- Where a replacement is in the text: the character before, and how much of
the replaced phrase is still to be passed over. -/
structure ReplacementState where
  before : Option Char
  pending : Nat

def replacementStep (phrase replacement : List Char) (state : ReplacementState) (c : Char)
    (rest : List Char) : ReplacementState × List Char :=
  match state.pending with
  | left + 1 => (⟨some c, left⟩, [])
  | 0 =>
      if standsAt phrase state.before (c :: rest) then
        match phrase.length with
        | 0 => (⟨some c, 0⟩, replacement ++ [c])
        | left + 1 => (⟨some c, left⟩, replacement)
      else (⟨some c, 0⟩, [c])

/-- Replace the phrase wherever it stands on its own, from left to right and
without overlap. An empty phrase stands at every edge of a word, also at the end
of the text. -/
def replaceWhole (phrase replacement text : List Char) : List Char :=
  transduce (replacementStep phrase replacement) ⟨none, 0⟩ text ++
    if phrase.isEmpty && isWordEdge text.getLast? none then replacement else []

end SpokenCalculator.Text
