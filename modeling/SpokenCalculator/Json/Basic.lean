import SpokenCalculator.Quantity
import SpokenCalculator.Numeral
import SpokenCalculator.Text.Quoted

namespace SpokenCalculator

inductive Json where
  | null
  | flag (value : Bool)
  | number (numeral : String)
  | string (value : String)
  | list (items : List Json)
  | record (members : List (String × Json))

namespace Json

/-- The member of a name. If there are several, the last one counts. -/
def member? (name : String) : Json → Option Json
  | .record members => members.reverse.lookup name
  | _ => none

mutual

def leaves : Json → List Json
  | .list items => leavesOf items
  | value => [value]

def leavesOf : List Json → List Json
  | [] => []
  | item :: rest => leaves item ++ leavesOf rest

end

def isWhole (numeral : String) : Bool :=
  numeral.toList.all fun c => c.isDigit || c == '-'

def quantity? (numeral : String) : Option Quantity :=
  if isWhole numeral then (Numeral.readInteger numeral).toOption.map .whole
  else (Numeral.readReal? numeral).map .binary

def unitEscape (code : Nat) : List Char := Text.backslash :: 'u' :: Text.hexDigits 4 code

/-- A character beyond ASCII is written as one code unit of sixteen bits or
two. -/
def codeEscape (code : Nat) : List Char :=
  if code < 0x10000 then unitEscape code
  else
    unitEscape (0xD800 + (code - 0x10000) / 0x400) ++ unitEscape (0xDC00 + (code - 0x10000) % 0x400)

def textCharacter (c : Char) : List Char :=
  if c == Text.doubleQuote || c == Text.backslash then [Text.backslash, c]
  else if c == '\n' then [Text.backslash, 'n']
  else if c == '\r' then [Text.backslash, 'r']
  else if c == '\t' then [Text.backslash, 't']
  else if c.toNat == 8 then [Text.backslash, 'b']
  else if c.toNat == 12 then [Text.backslash, 'f']
  else if 0x20 ≤ c.toNat && c.toNat < 0x7F then [c]
  else codeEscape c.toNat

def quotedText (value : String) : String :=
  String.ofList (Text.doubleQuote :: value.toList.flatMap textCharacter ++ [Text.doubleQuote])

mutual

def print : Json → String
  | .null => "null"
  | .flag value => if value then "true" else "false"
  | .number numeral => numeral
  | .string value => quotedText value
  | .list items => "[" ++ ", ".intercalate (printItems items) ++ "]"
  | .record members => "\x7b" ++ ", ".intercalate (printMembers members) ++ "\x7d"

def printItems : List Json → List String
  | [] => []
  | item :: rest => print item :: printItems rest

def printMembers : List (String × Json) → List String
  | [] => []
  | (name, value) :: rest => (quotedText name ++ ": " ++ print value) :: printMembers rest

end

end Json

end SpokenCalculator
