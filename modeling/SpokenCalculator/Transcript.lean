import SpokenCalculator.Text.Blank

namespace SpokenCalculator

structure Transcript where
  text : Option String
  deriving DecidableEq

namespace Transcript

def silence : Transcript := ⟨none⟩

def recognized (text : String) : Transcript :=
  match Text.trim Text.isBlank text.toList with
  | [] => silence
  | heard => ⟨some (String.ofList heard)⟩

def isEmpty (transcript : Transcript) : Bool := transcript.text.all String.isEmpty

end Transcript

end SpokenCalculator
