namespace SpokenCalculator.History

variable {ε : Type}

/-- Each occurrence of a history, which has the last one first, is backed by those
before it. -/
def Backed (backs : List ε → ε → Prop) (history : List ε) : Prop :=
  ∀ later occurrence earlier, history = later ++ occurrence :: earlier → backs earlier occurrence

variable {backs : List ε → ε → Prop} {history : List ε}

theorem backed_nil : Backed backs [] := by
  intro later occurrence earlier h
  exact absurd h.symm (List.append_ne_nil_of_right_ne_nil later (List.cons_ne_nil _ _))

theorem Backed.cons {occurrence : ε} (h : Backed backs history)
    (hbacks : backs history occurrence) :
    Backed backs (occurrence :: history) := by
  intro later other earlier hsplit
  cases later with
  | nil =>
      cases hsplit
      exact hbacks
  | cons last later =>
      cases hsplit
      exact h later other earlier rfl

end SpokenCalculator.History
