import SpokenCalculator.Number.Spoken

namespace SpokenCalculator.Json

inductive Fault where
  | byteOrderMark
  | expectingValue
  | extraData
  | expectingName
  | expectingColon
  | expectingComma
  | controlCharacter
  | unterminatedText
  | unknownEscape
  | malformedCode
  deriving DecidableEq

def Fault.text : Fault → String
  | .byteOrderMark => "Unexpected UTF-8 BOM (decode using utf-8-sig)"
  | .expectingValue => "Expecting value"
  | .extraData => "Extra data"
  | .expectingName => "Expecting property name enclosed in double quotes"
  | .expectingColon => "Expecting ':' delimiter"
  | .expectingComma => "Expecting ',' delimiter"
  | .controlCharacter => "Invalid control character at"
  | .unterminatedText => "Unterminated string starting at"
  | .unknownEscape => "Invalid \\escape"
  | .malformedCode => "Invalid \\uXXXX escape"

/-- A fault before the given number of last characters, an integer with too many
digits, or values nested too deeply, with the kind of the innermost. -/
inductive Rejection where
  | malformed (fault : Fault) (remaining : Nat)
  | tooManyDigits (digits : Nat)
  | tooDeep (kind : String)
  deriving DecidableEq

/-- Line and column, from one, of what stands behind the given characters. -/
def placeBehind (before : List Char) : Nat × Nat :=
  before.foldl (fun (line, column) c => if c == '\n' then (line + 1, 1) else (line, column + 1))
    (1, 1)

def Rejection.message (text : String) : Rejection → String
  | .malformed fault remaining =>
      let before := text.toList.take (text.length - remaining)
      let (line, column) := placeBehind before
      s!"{fault.text}: line {line} column {column} (char {before.length})"
  | .tooManyDigits digits => SpokenFault.tooLongMessage digits
  | .tooDeep kind =>
      s!"maximum recursion depth exceeded while decoding a JSON {kind} from a unicode string"

end SpokenCalculator.Json
