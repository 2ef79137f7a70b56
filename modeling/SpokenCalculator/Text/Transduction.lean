/-!
# Transduction of a text from left to right

A transduction reads a text once, with a state that sums up what lies behind and
with the rest of the text in view, and writes any number of characters for each
one it reads.
-/

namespace SpokenCalculator.Text

/-- Transduce the rest of a text behind what was already written, the last
character first. -/
def transduceAfter {σ : Type} (step : σ → Char → List Char → σ × List Char) :
    σ → List Char → List Char → List Char
  | _, written, [] => written.reverse
  | state, written, c :: rest =>
      let (next, output) := step state c rest
      transduceAfter step next (output.reverse ++ written) rest

def transduce {σ : Type} (step : σ → Char → List Char → σ × List Char) (state : σ)
    (text : List Char) : List Char :=
  transduceAfter step state [] text

theorem transduceAfter_eq {σ : Type} (step : σ → Char → List Char → σ × List Char) (state : σ)
    (written text : List Char) :
    transduceAfter step state written text = written.reverse ++ transduce step state text := by
  induction text generalizing state written with
  | nil => simp [transduce, transduceAfter]
  | cons c rest ih =>
      simp only [transduce, transduceAfter]
      rw [ih, ih (step state c rest).1 ((step state c rest).2.reverse ++ [])]
      simp

@[simp] theorem transduce_nil {σ : Type} (step : σ → Char → List Char → σ × List Char)
    (state : σ) : transduce step state [] = [] := rfl

theorem transduce_cons {σ : Type} (step : σ → Char → List Char → σ × List Char) (state : σ)
    (c : Char) (rest : List Char) :
    transduce step state (c :: rest) =
      (step state c rest).2 ++ transduce step (step state c rest).1 rest := by
  change transduceAfter step (step state c rest).1 ((step state c rest).2.reverse ++ []) rest = _
  rw [transduceAfter_eq]
  simp

/-- Transduce each character in view of the one before it and of all that
follow. -/
def transduceInContext (step : Option Char → Char → List Char → List Char) (text : List Char) :
    List Char :=
  transduce (fun previous c rest => (some c, step previous c rest)) none text

end SpokenCalculator.Text
