import SpokenCalculator.Decimal.Context
import SpokenCalculator.Text.Quoted

/-!
# Failures

A failure has a kind and a message. Kinds form a hierarchy, and whoever handles
a kind handles all kinds under it. The failures of the calculator itself are
those of a calculation, of the microphone, of the transcriber and of the
speaker; the others come from outside or from wrong arguments.
-/

namespace SpokenCalculator

inductive FailureKind where
  /-- the top of the hierarchy -/
  | anything
  | raised
  | ordinary
  | arithmetic
  | lookup
  | interrupt
  | assertion
  | absentMember
  | value
  | type
  | index
  | key
  | runtime
  | recursion
  | system
  | importing
  | overflow
  | zeroDivision
  | audioHost
  | invalidOperation
  | decimalOverflow
  | calculator
  | calculation
  | divisionByZero
  | outOfRange
  | unrecognized
  | device
  | transcriber
  | speaker
  deriving DecidableEq

namespace FailureKind

def ordinaryLineage : List FailureKind := [.ordinary, .raised, .anything]

def arithmeticLineage : List FailureKind := .arithmetic :: ordinaryLineage

def calculationLineage : List FailureKind := [.calculation, .calculator, .value] ++ ordinaryLineage

def equipmentLineage : List FailureKind := [.calculator, .runtime] ++ ordinaryLineage

def lineage : FailureKind → List FailureKind
  | .anything => [.anything]
  | .raised => [.raised, .anything]
  | .ordinary => ordinaryLineage
  | .interrupt => [.interrupt, .raised, .anything]
  | .arithmetic => arithmeticLineage
  | .overflow => .overflow :: arithmeticLineage
  | .zeroDivision => .zeroDivision :: arithmeticLineage
  | .invalidOperation => .invalidOperation :: arithmeticLineage
  | .decimalOverflow => .decimalOverflow :: arithmeticLineage
  | .index => [.index, .lookup] ++ ordinaryLineage
  | .key => [.key, .lookup] ++ ordinaryLineage
  | .recursion => [.recursion, .runtime] ++ ordinaryLineage
  | .calculation => calculationLineage
  | .divisionByZero => [.divisionByZero, .zeroDivision, .arithmetic] ++ calculationLineage
  | .outOfRange => .outOfRange :: calculationLineage
  | .unrecognized => .unrecognized :: calculationLineage
  | .device => .device :: equipmentLineage
  | .transcriber => .transcriber :: equipmentLineage
  | .speaker => .speaker :: equipmentLineage
  | kind => kind :: ordinaryLineage

def isA (kind ancestor : FailureKind) : Bool := kind.lineage.contains ancestor

end FailureKind

structure Failure where
  kind : FailureKind
  message : String
  deriving DecidableEq

namespace Failure

def sizeLimit : Nat := Nat.pow 2 63

/-- Is an integer within the limit of sizes, on either side of zero? -/
def isSized (n : Int) : Bool := -(sizeLimit : Int) ≤ n && n < sizeLimit

def beyondSize (kind : String) : Failure :=
  ⟨.overflow, s!"Python int too large to convert to C {kind}"⟩

def beyondBinary : Failure := ⟨.overflow, "int too large to convert to float"⟩

def misunderstanding (heard : String) : String := s!"Could not understand: {Text.quoted heard}"

/-- A failure of a kind that was made with a text. A missing key is shown
between quotes. -/
def made (kind : FailureKind) (text : String) : Failure :=
  match kind with
  | .key => ⟨.key, Text.quoted text⟩
  | .unrecognized => ⟨.unrecognized, misunderstanding text⟩
  | kind => ⟨kind, text⟩

end Failure

namespace Signal

def name : Signal → String
  | .invalidOperation => "InvalidOperation"
  | .divisionByZero => "DivisionByZero"
  | .overflow => "Overflow"
  | .malformedNumeral => "ConversionSyntax"

def message (signal : Signal) : String := s!"[<class 'decimal.{signal.name}'>]"

/-- The signal as a failure. Numerals that cannot be read count as invalid
operations. -/
def failure (signal : Signal) : Failure :=
  match signal with
  | .overflow => ⟨.decimalOverflow, signal.message⟩
  | .divisionByZero => ⟨.zeroDivision, signal.message⟩
  | _ => ⟨.invalidOperation, signal.message⟩

end Signal

end SpokenCalculator
