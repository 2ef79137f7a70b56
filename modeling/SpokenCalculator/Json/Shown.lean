import SpokenCalculator.Json.Basic

namespace SpokenCalculator.Json

mutual

def shown : Json → String
  | .null => "None"
  | .flag value => if value then "True" else "False"
  | .number numeral => ((quantity? numeral).map Quantity.text).getD numeral
  | .string value => Text.quoted value
  | .list items => "[" ++ ", ".intercalate (shownItems items) ++ "]"
  | .record members => "\x7b" ++ ", ".intercalate (shownMembers members) ++ "\x7d"

def shownItems : List Json → List String
  | [] => []
  | item :: rest => shown item :: shownItems rest

def shownMembers : List (String × Json) → List String
  | [] => []
  | (name, value) :: rest => (Text.quoted name ++ ": " ++ shown value) :: shownMembers rest

end

def shownSequence (items : List String) : String :=
  match items with
  | [item] => "(" ++ item ++ ",)"
  | items => "(" ++ ", ".intercalate items ++ ")"

def kindName : Json → String
  | .null => "NoneType"
  | .flag _ => "bool"
  | .number numeral => if isWhole numeral then "int" else "float"
  | .string _ => "str"
  | .list _ => "list"
  | .record _ => "dict"

end SpokenCalculator.Json
