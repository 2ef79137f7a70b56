import SpokenCalculator.Decimal.Notation
import SpokenCalculator.Phrase.Normal
import SpokenCalculator.Text.Quoted

namespace SpokenCalculator.Phrase

/-- A numeral keeps its digits before and behind the point; the second row is
empty when there is no point. -/
inductive Token where
  | numeral (whole fraction : List Char)
  | word (letters : List Char)
  | sign (mark : Char)
  deriving DecidableEq

namespace Token

def characters : Token → List Char
  | .numeral whole [] => whole
  | .numeral whole fraction => whole ++ '.' :: fraction
  | .word letters => letters
  | .sign mark => [mark]

def text (token : Token) : String := String.ofList token.characters

end Token

def isWordPart (c : Char) : Bool := isLetter c || c == Text.singleQuote

def signMarks : List Char := ['+', '-', '*', '/', '×', '÷']

/-- The numeral at the start of a text that begins with a digit. A point belongs
to it only if a digit follows. -/
def takeNumeral (text : List Char) : Token × List Char :=
  let (whole, behind) := Decimal.spanDigits text
  match behind with
  | '.' :: rest =>
      let (fraction, behind') := Decimal.spanDigits rest
      if fraction.isEmpty then (.numeral whole [], behind) else (.numeral whole fraction, behind')
  | _ => (.numeral whole [], behind)

def takeWord (text : List Char) : Token × List Char :=
  (.word (text.takeWhile isWordPart), text.dropWhile isWordPart)

def tokenAt? (c : Char) (rest : List Char) : Option (Token × List Char) :=
  if Text.isDecimalDigit c then some (takeNumeral (c :: rest))
  else if isWordPart c then some (takeWord (c :: rest))
  else if signMarks.contains c then some (.sign c, rest)
  else none

theorem length_dropWhile_le {α : Type} (isDropped : α → Bool) (items : List α) :
    (items.dropWhile isDropped).length ≤ items.length :=
  (List.dropWhile_sublist isDropped).length_le

theorem length_takeNumeral_lt (c : Char) (rest : List Char)
    (hdigit : Text.isDecimalDigit c = true) :
    (takeNumeral (c :: rest)).2.length < (c :: rest).length := by
  have hbehind := length_dropWhile_le Text.isDecimalDigit rest
  simp only [takeNumeral, Decimal.spanDigits, List.dropWhile_cons, hdigit, if_true,
    List.length_cons]
  split
  · rename_i fraction heq
    have hfraction := length_dropWhile_le Text.isDecimalDigit fraction
    rw [heq, List.length_cons] at hbehind
    split
    · rw [heq, List.length_cons]
      omega
    · change (fraction.dropWhile Text.isDecimalDigit).length < rest.length + 1
      omega
  · exact Nat.lt_succ_of_le hbehind

theorem length_takeWord_lt (c : Char) (rest : List Char) (hword : isWordPart c = true) :
    (takeWord (c :: rest)).2.length < (c :: rest).length := by
  have hbehind := length_dropWhile_le isWordPart rest
  simp only [takeWord, List.dropWhile_cons, hword, if_true, List.length_cons]
  omega

theorem length_tokenAt?_lt {c : Char} {rest behind : List Char} {token : Token}
    (h : tokenAt? c rest = some (token, behind)) : behind.length < (c :: rest).length := by
  unfold tokenAt? at h
  split at h
  · rename_i hdigit
    have hshort := length_takeNumeral_lt c rest hdigit
    rw [Option.some.inj h] at hshort
    exact hshort
  · split at h
    · rename_i hword
      have hshort := length_takeWord_lt c rest hword
      rw [Option.some.inj h] at hshort
      exact hshort
    · split at h
      · cases h
        exact Nat.lt_succ_self _
      · cases h

/-- The tokens of a text behind those found so far, the last one first. -/
def tokensAfter (found : List Token) (text : List Char) : List Token :=
  match text with
  | [] => found.reverse
  | c :: rest =>
      match _ : tokenAt? c rest with
      | some (token, behind) =>
          tokensAfter (token :: found) behind
      | none => tokensAfter found rest
termination_by text.length
decreasing_by
  · exact length_tokenAt?_lt (by assumption)
  · exact Nat.lt_succ_self _

def tokensOf (text : List Char) : List Token := tokensAfter [] text

def tokenize (text : String) : List Token := tokensOf (normalCharacters text.toList)

end SpokenCalculator.Phrase
