import SpokenCalculator.Calculation

namespace SpokenCalculator

structure HistoryEntry where
  command : Command
  result : Decimal
  deriving DecidableEq

/-- The history holds the oldest entry first, and at most as many as the
capacity if there is one. -/
structure Engine where
  memory : Decimal
  echo : Option Command
  history : List HistoryEntry
  capacity : Option Nat

/-- What the engine is asked to evaluate: a command, or a text that is none. -/
inductive Request where
  | command (command : Command)
  | foreign (text : String)

inductive EvaluationFault where
  | calculation (fault : CalculationFault)
  | notCommand (text : String)
  deriving DecidableEq

def EvaluationFault.failure : EvaluationFault → Failure
  | .calculation fault => fault.failure
  | .notCommand text => ⟨.type, s!"Not a calculator command: {Text.quoted text}"⟩

namespace Engine

def usualCapacity : Nat := 20

def fresh (capacity : Option Nat) : Engine := ⟨.zero, none, [], capacity⟩

def withMemory (memory : Decimal) : Engine := ⟨memory, none, [], some usualCapacity⟩

/-- A fresh engine whose history has the given size, or no bound. A size cannot
be negative. -/
def ofHistorySize : Option Int → Except Failure Engine
  | none => .ok (fresh none)
  | some size =>
      if !Failure.isSized size then .error (.beyondSize "ssize_t")
      else if size < 0 then .error ⟨.value, "maxlen must be non-negative"⟩
      else .ok (fresh (some size.toNat))

/-- The last entries of a history, as many as the capacity allows. -/
def lastEntries (capacity : Option Nat) (history : List HistoryEntry) : List HistoryEntry :=
  match capacity with
  | none => history
  | some capacity => history.drop (history.length - capacity)

def store (engine : Engine) (command : Command) (result : Decimal) : Engine :=
  { engine with
    memory := result
    echo := some command
    history := lastEntries engine.capacity (engine.history ++ [⟨command, result⟩]) }

def result (memory : Decimal) : Command → Except CalculationFault Decimal
  | .compute lhs operator rhs => Calculation.apply operator lhs rhs
  | .apply operator rhs => Calculation.apply operator memory rhs
  | .clear => .ok .zero
  | .recall => .ok memory
  | .unrecognized heard => .error (.unrecognized heard)

def isStored : Command → Bool
  | .compute .. | .apply .. | .clear => true
  | .recall | .unrecognized _ => false

def evaluate (engine : Engine) (command : Command) :
    Except CalculationFault (Decimal × Engine) := do
  let result ← result engine.memory command
  pure (result, if isStored command then engine.store command result else engine)

def answer (engine : Engine) : Request → Except EvaluationFault (Decimal × Engine)
  | .command command => (engine.evaluate command).mapError .calculation
  | .foreign text => .error (.notCommand text)

end Engine

end SpokenCalculator
