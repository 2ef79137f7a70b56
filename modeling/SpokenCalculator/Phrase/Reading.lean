import SpokenCalculator.Phrase.Sign

namespace SpokenCalculator

namespace Phrase

def Keyword.command : Keyword → Command
  | .recall => .recall
  | .clear => .clear

def keywordCommand (heard : String) (items : List Item) : Command :=
  match items.findSome? Item.keyword?, items.any Item.isNumber with
  | some keyword, false => keyword.command
  | _, _ => .unrecognized heard

def commandOf (heard : String) (items : List Item) : Command :=
  let before := items.takeWhile (!·.isOperator)
  match items.dropWhile (!·.isOperator) with
  | [] => keywordCommand heard items
  | .operator operator :: .number rhs :: _ =>
      match before.filterMap Item.number? with
      | [] => .apply operator rhs
      | [lhs] => .compute lhs operator rhs
      | _ => .unrecognized heard
  | _ => .unrecognized heard

def resolvedItems (heard : String) : Except ItemFault (List Item) := do
  let items ← itemsOf (tokenize heard)
  (resolveSigns items).mapError .signal

end Phrase

/-- The command that a phrase stands for. A number that is too large to change
its sign is the one thing that cannot be understood at all. -/
def Command.parse (heard : String) : Except Signal Command :=
  if heard.toList.all Text.isBlank then .ok (.unrecognized heard)
  else
    match Phrase.resolvedItems heard with
    | .ok items => .ok (Phrase.commandOf heard items)
    | .error (.spoken _) => .ok (.unrecognized heard)
    | .error (.signal .overflow) => .error .overflow
    | .error (.signal _) => .ok (.unrecognized heard)

/-- The command for what was heard; nothing was when it is no text. -/
def Command.ofHeard : Option String → Except Signal Command
  | some heard => parse heard
  | none => .ok (.unrecognized "")

end SpokenCalculator
