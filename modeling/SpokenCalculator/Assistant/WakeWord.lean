import SpokenCalculator.Text.Blank
import SpokenCalculator.Text.LowerCase
import SpokenCalculator.Text.WholePhrase

namespace SpokenCalculator

inductive Address where
  | ignored
  | wakeWordAlone
  | phrase (text : String)
  deriving DecidableEq

namespace WakeWord

def patternOf (wakeWord : String) : List Char := Text.lowerCase wakeWord.toList

def isPunctuation (c : Char) : Bool := " ,.!?".toList.contains c

/-- The text without wake words, in lower case and with single spaces, or
nothing if there was no wake word. -/
def strip? (wakeWords : List String) (text : String) : Option String :=
  let lower := Text.lowerCase text.toList
  let patterns := wakeWords.map patternOf
  if patterns.any fun pattern => Text.standsIn pattern none lower then
    let rest := patterns.foldl (fun rest pattern => Text.replaceWhole pattern [' '] rest) lower
    some (String.ofList (Text.trim isPunctuation (Text.joinWords (Text.words rest))))
  else none

/-- To whom a text is addressed, and whether the next phrase needs no wake word.
The flag says whether this one needs none. -/
def address (wakeWords : List String) (armed : Bool) (text : String) : Address × Bool :=
  if wakeWords.isEmpty then (.phrase text, armed)
  else
    match strip? wakeWords text with
    | none => (if armed then .phrase text else .ignored, false)
    | some rest => if rest.isEmpty then (.wakeWordAlone, true) else (.phrase rest, false)

end WakeWord

end SpokenCalculator
