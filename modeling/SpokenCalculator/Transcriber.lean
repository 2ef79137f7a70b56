import SpokenCalculator.Audio.Chunk
import SpokenCalculator.Json.Reader
import SpokenCalculator.Json.Shown
import SpokenCalculator.Transcript

/-!
# The transcriber

A recognizer is made for every chunk of sound, so that nothing is left over from
the chunk before. With a grammar it knows only the words of the calculator, and
other words come back as unknown and are dropped. Its result is a JSON record.
Whatever goes wrong in the recognizer or while its result is read becomes a
failure of the transcriber; a result of an unexpected shape does not.
-/

namespace SpokenCalculator

inductive RecognizerEvent where
  | silenced
  | loaded (path : String)
  | made (rate : Int) (grammar : Option String)
  | heard (bytes : List UInt8)
  deriving DecidableEq

inductive ModelSource where
  | given
  | path (directory : String)
  | missing
  deriving DecidableEq

structure Transcriber where
  grammar : Option String
  deriving DecidableEq

namespace Transcriber

def unknownWord : String := "[unk]"

def vocabulary : List String :=
  ["calculator", "calculate", "plus", "add", "minus", "subtract", "times", "multiply",
   "multiplied by", "multiply by", "into", "divided by", "divide by", "over", "recall",
   "what is the total", "clear", "reset", "zero", "one", "two", "three", "four", "five", "six",
   "seven", "eight", "nine", "ten", "eleven", "twelve", "thirteen", "fourteen", "fifteen",
   "sixteen", "seventeen", "eighteen", "nineteen", "twenty", "thirty", "forty", "fifty", "sixty",
   "seventy", "eighty", "ninety", "hundred", "thousand", "million", "billion", "and", "point",
   "negative", unknownWord]

/-- A list of words as the recognizer takes it. No words are no grammar. -/
def grammarOf (words : List String) : Option String :=
  if words.isEmpty then none else some (Json.list (words.map .string)).print

/-- Make the model ready. The fault is that of a model that cannot be loaded. -/
def load (quiet : Bool) (grammar : List String) (source : ModelSource) (fault : Option String) :
    List RecognizerEvent × Except Failure Transcriber :=
  let silenced := if quiet then [.silenced] else []
  match source with
  | .given => (silenced, .ok ⟨grammarOf grammar⟩)
  | .missing => (silenced, .error ⟨.value, "Either model_path or model is required"⟩)
  | .path directory =>
      let events := silenced ++ [.loaded directory]
      match fault with
      | none => (events, .ok ⟨grammarOf grammar⟩)
      | some message =>
          (events,
            .error ⟨.transcriber, s!"Failed to load Vosk model from {directory}: {message}"⟩)

def absent (value : Json) (member : String) : Failure :=
  ⟨.absentMember, s!"{Text.quoted value.kindName} object has no attribute {Text.quoted member}"⟩

def textOf (result : Json) : Except Failure String :=
  match result with
  | .record _ =>
      match result.member? "text" with
      | none => .ok ""
      | some (.string text) => .ok text
      | some other => .error (absent other "split")
  | other => .error (absent other "get")

def knownWords (text : String) : List String :=
  ((Text.words text.toList).map String.ofList).filter (· ≠ unknownWord)

def transcriptOf (text : String) : Transcript :=
  Transcript.recognized (" ".intercalate (knownWords text))

def readingFailure (text : String) (rejection : Json.Rejection) : Failure :=
  let kind :=
    match rejection with
    | .tooDeep _ => .recursion
    | _ => .value
  ⟨kind, rejection.message text⟩

def resultOf (recognition : Except Failure String) : Except Failure Json :=
  match recognition with
  | .error failure => .error failure
  | .ok text => (Json.read text).mapError (readingFailure text)

/-- A failure while the chunk was recognized. An interruption is passed on. -/
def recognitionFailure (chunk : Chunk) (failure : Failure) : Failure :=
  if failure.kind.isA .ordinary then
    match chunk.duration with
    | .ok duration => ⟨.transcriber, s!"Vosk failed on a {duration} ms chunk: {failure.message}"⟩
    | .error fault => fault.failure
  else failure

def transcribe (transcriber : Transcriber) (chunk : Chunk) (recognition : Except Failure String) :
    List RecognizerEvent × Except Failure Transcript :=
  if chunk.sampleCount = 0 then ([], .ok .silence)
  else
    let events := [.made chunk.rate transcriber.grammar, .heard chunk.bytes]
    match resultOf recognition with
    | .error failure => (events, .error (recognitionFailure chunk failure))
    | .ok result => (events, (textOf result).map transcriptOf)

end Transcriber

end SpokenCalculator
