import SpokenCalculator.Json.Basic
import SpokenCalculator.Json.Fault

namespace SpokenCalculator.Json

/-- A reader returns what it read and the text behind it. -/
abbrev Reader (α : Type) := List Char → Except Rejection (α × List Char)

def failAt {α : Type} (fault : Fault) (rest : List Char) : Except Rejection α :=
  .error (.malformed fault rest.length)

def isSpace (c : Char) : Bool := c == ' ' || c == '\t' || c == '\n' || c == '\r'

def skipSpace (text : List Char) : List Char := text.dropWhile isSpace

def hexValue? (c : Char) : Option Nat :=
  "0123456789abcdef".toList.idxOf? c.toLower

def hexCode? (digits : List Char) : Option Nat :=
  if digits.length == 4 then
    (digits.mapM hexValue?).map (·.foldl (fun value digit => value * 16 + digit) 0)
  else none

/-- The character of a code unit; a unit that is only half of a pair has
none. -/
def characterOf (code : Nat) : Char :=
  if code < 0xD800 || 0xDFFF < code then Char.ofNat code else Char.ofNat 0xFFFD

/-- The second half of a pair, from the text behind the first. A backslash and a
letter u have to be followed by four digits and one more character. -/
def lowUnit? (rest : List Char) : Except Rejection (Option (Nat × List Char)) :=
  match rest with
  | '\x5c' :: behind@('u' :: digits) =>
      if (digits.drop 4).isEmpty then .ok none
      else
        match hexCode? (digits.take 4) with
        | none => failAt .malformedCode behind
        | some code =>
            if 0xDC00 ≤ code && code ≤ 0xDFFF then .ok (some (code, digits.drop 4)) else .ok none
  | _ => .ok none

/-- The character of an escape by code, from the text that begins with the
letter u. -/
def readCode : Reader Char := fun text =>
  let digits := text.drop 1
  if (digits.drop 4).isEmpty then failAt .malformedCode text
  else
    match hexCode? (digits.take 4) with
    | none => failAt .malformedCode text
    | some code =>
        let behind := digits.drop 4
        if 0xD800 ≤ code && code ≤ 0xDBFF then do
          match ← lowUnit? behind with
          | some (low, behind') =>
              pure (Char.ofNat (0x10000 + (code - 0xD800) * 0x400 + (low - 0xDC00)), behind')
          | none => pure (characterOf code, behind)
        else pure (characterOf code, behind)

def simpleEscapes : List (Char × Char) :=
  [('\x22', '\x22'), ('\x5c', '\x5c'), ('/', '/'), ('b', Char.ofNat 8), ('f', Char.ofNat 12),
   ('n', '\n'), ('r', '\r'), ('t', '\t')]

/-- Read a text from behind its opening quote, given what was read of it, the
last character first. The bound is the length of what is left. -/
def readTextAfter (opening found : List Char) : Nat → Reader String
  | bound + 1, text@(c :: rest) =>
      if c == '\x22' then .ok (String.ofList found.reverse, rest)
      else if c.toNat < 0x20 then failAt .controlCharacter text
      else if c == '\x5c' then
        match rest with
        | [] => failAt .unterminatedText opening
        | 'u' :: _ => do
            let (character, behind) ← readCode rest
            readTextAfter opening (character :: found) bound behind
        | escape :: behind =>
            match simpleEscapes.lookup escape with
            | some character => readTextAfter opening (character :: found) bound behind
            | none => failAt .unknownEscape text
      else readTextAfter opening (c :: found) bound rest
  | _, _ => failAt .unterminatedText opening

def readText : Reader String := fun text =>
  readTextAfter text [] text.length (text.drop 1)

def takeDigits (text : List Char) : List Char × List Char :=
  (text.takeWhile Char.isDigit, text.dropWhile Char.isDigit)

def takeWhole : List Char → List Char × List Char
  | '0' :: rest => (['0'], rest)
  | text => takeDigits text

def takeFraction : List Char → List Char × List Char
  | text@('.' :: rest) =>
      let (digits, behind) := takeDigits rest
      if digits.isEmpty then ([], text) else ('.' :: digits, behind)
  | text => ([], text)

def takeExponentSign : List Char → List Char × List Char
  | '+' :: rest => (['+'], rest)
  | '-' :: rest => (['-'], rest)
  | text => ([], text)

def takeExponent (text : List Char) : List Char × List Char :=
  match text with
  | mark :: rest =>
      if mark.toLower == 'e' then
        let (sign, behind) := takeExponentSign rest
        let (digits, behind') := takeDigits behind
        if digits.isEmpty then ([], text) else (mark :: sign ++ digits, behind')
      else ([], text)
  | [] => ([], text)

def takeMinus : List Char → List Char × List Char
  | '-' :: rest => (['-'], rest)
  | text => ([], text)

def readNumber : Reader Json := fun text =>
  let (sign, unsigned) := takeMinus text
  let (whole, behindWhole) := takeWhole unsigned
  let (fraction, behindFraction) := takeFraction behindWhole
  let (exponent, behind) := takeExponent behindFraction
  if whole.isEmpty then failAt .expectingValue text
  else if fraction.isEmpty && exponent.isEmpty && Numeral.digitLimit < whole.length then
    .error (.tooManyDigits whole.length)
  else .ok (.number (String.ofList (sign ++ whole ++ fraction ++ exponent)), behind)

def namedValues : List (String × Json) :=
  [("null", .null), ("true", .flag true), ("false", .flag false), ("NaN", .number "NaN"),
   ("Infinity", .number "Infinity"), ("-Infinity", .number "-Infinity")]

def readNamed? (text : List Char) : Option (Json × List Char) :=
  namedValues.findSome? fun (name, value) =>
    if name.toList.isPrefixOf text then some (value, text.drop name.length) else none

/-- The items of a list behind those read so far. The bound is the length of
what is left. -/
def readItems (readOne : Reader Json) (found : List Json) :
    Nat → Reader Json
  | 0, text => failAt .expectingValue text
  | bound + 1, text => do
      let (item, behind) ← readOne text
      match skipSpace behind with
      | ']' :: rest => pure (.list (item :: found).reverse, rest)
      | ',' :: rest => readItems readOne (item :: found) bound (skipSpace rest)
      | rest => failAt .expectingComma rest

def readList (readOne : Reader Json) : Reader Json := fun text =>
  match skipSpace text with
  | ']' :: rest => .ok (.list [], rest)
  | rest => readItems readOne [] (rest.length + 1) rest

/-- The members of a record behind those read so far. The bound is the length of
what is left. -/
def readMembers (readOne : Reader Json) (found : List (String × Json)) :
    Nat → Reader Json
  | bound + 1, text@('\x22' :: _) => do
      let (name, behind) ← readText text
      match skipSpace behind with
      | ':' :: rest =>
          let (value, behindValue) ← readOne (skipSpace rest)
          match skipSpace behindValue with
          | '\x7d' :: rest => pure (.record ((name, value) :: found).reverse, rest)
          | ',' :: rest => readMembers readOne ((name, value) :: found) bound (skipSpace rest)
          | rest => failAt .expectingComma rest
      | rest => failAt .expectingColon rest
  | _, text => failAt .expectingName text

def readRecord (readOne : Reader Json) : Reader Json := fun text =>
  match skipSpace text with
  | '\x7d' :: rest => .ok (.record [], rest)
  | rest => readMembers readOne [] (rest.length + 1) rest

def nestingLimit : Nat := 990

/-- Read a value that may hold lists and records to the given depth. -/
def readValue : Nat → Reader Json
  | _, [] => failAt .expectingValue []
  | 0, text@(c :: _) =>
      if c == '[' then .error (.tooDeep "array")
      else if c == '\x7b' then .error (.tooDeep "object")
      else failAt .expectingValue text
  | depth + 1, text@(c :: rest) =>
      if c == '\x22' then (readText text).map fun (value, behind) => (.string value, behind)
      else if c == '\x7b' then readRecord (readValue depth) rest
      else if c == '[' then readList (readValue depth) rest
      else
        match readNamed? text with
        | some reading => .ok reading
        | none => readNumber text

def read (text : String) : Except Rejection Json :=
  match text.toList with
  | '\uFEFF' :: rest => failAt .byteOrderMark ('\uFEFF' :: rest)
  | characters => do
      let (value, behind) ← readValue (nestingLimit + 1) (skipSpace characters)
      match skipSpace behind with
      | [] => pure value
      | rest => failAt .extraData rest

end SpokenCalculator.Json
