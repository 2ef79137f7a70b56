import SpokenCalculator.Calculation
import SpokenCalculator.Spelling

namespace SpokenCalculator.Reply

def notUnderstood : String := "I didn't understand that"

def cannotDivideByZero : String := "cannot divide by zero"

def outOfRange : String := "that number is out of range"

def memoryCleared : String := "memory cleared"

def ready : String := "ready"

def result (command : Command) (value : Decimal) (places : Int) : Except SpellingFault String :=
  match command with
  | .clear => pure memoryCleared
  | .recall => do pure (s!"the total is {← Spelling.number value places}")
  | _ => Spelling.number value places

def diagnosis (kind : FailureKind) : String :=
  if kind.isA .divisionByZero then cannotDivideByZero
  else if kind.isA .outOfRange then outOfRange
  else notUnderstood

end SpokenCalculator.Reply
