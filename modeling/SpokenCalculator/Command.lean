import SpokenCalculator.Decimal.Notation
import SpokenCalculator.Text.Quoted

namespace SpokenCalculator

inductive Operator where
  | add
  | subtract
  | multiply
  | divide
  deriving DecidableEq

namespace Operator

def mark : Operator → String
  | .add => "+"
  | .subtract => "-"
  | .multiply => "*"
  | .divide => "/"

end Operator

/-- A calculation has two operands of its own or takes memory as the first one;
text that means nothing is kept as it was heard. -/
inductive Command where
  | compute (lhs : Decimal) (operator : Operator) (rhs : Decimal)
  | apply (operator : Operator) (rhs : Decimal)
  | recall
  | clear
  | unrecognized (heard : String)
  deriving DecidableEq

namespace Command

def text : Command → String
  | .compute lhs operator rhs => s!"{lhs.text} {operator.mark} {rhs.text}"
  | .apply operator rhs => s!"memory {operator.mark} {rhs.text}"
  | .recall => "recall"
  | .clear => "clear"
  | .unrecognized heard => s!"unrecognized({Text.quoted heard})"

end Command

end SpokenCalculator
