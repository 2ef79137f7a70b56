import SpokenCalculator.Phrase.Piece

namespace SpokenCalculator.Phrase

namespace Meaning

/-- Whatever is no number word and no "and" ends a run. -/
def EndsRun : Meaning → Prop
  | .number _ | .negative | .operator _ | .keyword _ | .filler => True
  | .spoken _ | .conjunction => False

theorem endsRun_of_ne {meaning : Meaning} (hspoken : ∀ word, meaning ≠ .spoken word)
    (hconjunction : meaning ≠ .conjunction) : meaning.EndsRun := by
  cases meaning with
  | number | negative | operator | keyword | filler => trivial
  | spoken word => exact hspoken word rfl
  | conjunction => exact hconjunction rfl

theorem EndsRun.ne_spoken {meaning : Meaning} (h : meaning.EndsRun) (word : String) :
    meaning ≠ .spoken word := by
  rintro rfl
  exact h

def ownPieces : Meaning → List Piece
  | .number value => [.number value]
  | .negative => [.negative]
  | .operator sign => [.operator sign]
  | .keyword word => [.keyword word]
  | .spoken _ | .conjunction | .filler => []

/-- The pieces that come behind those found so far, the last one first, and the
run that is open then. -/
def goOn (run : List String) (numberNext : Bool) : Meaning → List Piece × List String
  | .spoken word => ([], word :: run)
  | .conjunction => if !run.isEmpty && numberNext then ([], run) else (closeRun [] run, [])
  | meaning => (meaning.ownPieces ++ closeRun [] run, [])

theorem EndsRun.goOn_eq {meaning : Meaning} (h : meaning.EndsRun) (run : List String)
    (numberNext : Bool) :
    meaning.goOn run numberNext = (meaning.ownPieces ++ closeRun [] run, []) := by
  cases meaning with
  | number | negative | operator | keyword | filler => rfl
  | spoken | conjunction => exact h.elim

end Meaning

theorem closeRun_eq (found : List Piece) (run : List String) :
    closeRun found run = closeRun [] run ++ found := by
  unfold closeRun
  split <;> rfl

theorem piecesAfter_cons (found : List Piece) (run : List String) (token : Token)
    (rest : List Token) :
    piecesAfter found run (token :: rest) =
      piecesAfter ((token.meaning.goOn run (goesOnWithNumber rest)).1 ++ found)
        (token.meaning.goOn run (goesOnWithNumber rest)).2 rest := by
  rw [piecesAfter, closeRun_eq found run]
  cases token.meaning with
  | number | spoken | negative | operator | keyword | filler => rfl
  | conjunction =>
      dsimp only [Meaning.goOn]
      split <;> rfl

theorem piecesAfter_of_endsRun {token : Token} (h : token.meaning.EndsRun) (found : List Piece)
    (run : List String) (rest : List Token) :
    piecesAfter found run (token :: rest) =
      piecesAfter (token.meaning.ownPieces ++ closeRun found run) [] rest := by
  rw [piecesAfter_cons, h.goOn_eq, closeRun_eq found, List.append_assoc]

theorem piecesAfter_eq (found : List Piece) (run : List String) (tokens : List Token) :
    piecesAfter found run tokens = found.reverse ++ piecesAfter [] run tokens := by
  induction tokens generalizing found run with
  | nil => rw [piecesAfter, piecesAfter, closeRun_eq, List.reverse_append]
  | cons token rest ih =>
      rw [piecesAfter_cons, piecesAfter_cons, ih (_ ++ found), ih (_ ++ []), List.append_nil,
        List.reverse_append, List.append_assoc]

end SpokenCalculator.Phrase
