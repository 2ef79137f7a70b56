import SpokenCalculator.Proofs.Phrase.Parting
import SpokenCalculator.Proofs.Phrase.Printed
import SpokenCalculator.Proofs.Result

namespace SpokenCalculator.Phrase

def boundaryItem? (word : String) : Option Item :=
  ((operatorWords.lookup word).map .operator).or ((keywords.lookup word).map .keyword)

def Token.boundary? : Token → Option Item
  | .numeral .. => none
  | token => boundaryItem? token.text

/-! ### Pieces -/

/-- No word of the tables has a meaning that is tried before. -/
theorem not_tried_before {word : String}
    (h : (operatorWords.lookup word).isSome ∨ (keywords.lookup word).isSome) :
    (isNumberWord word || word == pointWord) = false ∧ (word == "and") = false ∧
      (word == "negative") = false := by
  have hall : ∀ entry ∈ operatorWords.map Prod.fst ++ keywords.map Prod.fst,
      (isNumberWord entry || entry == pointWord) = false ∧ (entry == "and") = false ∧
        (entry == "negative") = false := by
    decide +kernel
  have hmem : word ∈ operatorWords.map Prod.fst ∨ word ∈ keywords.map Prod.fst := by
    refine h.imp ?_ ?_ <;>
    · rw [List.lookup_isSome_iff]
      rintro ⟨entry, hentry, hsame⟩
      rw [eq_of_beq hsame]
      exact List.mem_map_of_mem hentry
  exact hall word (List.mem_append.mpr hmem)

theorem wordMeaning_of_boundaryItem? {word : String} {item : Item}
    (h : boundaryItem? word = some item) :
    wordMeaning word = item.meaning ∧ item.isNumber = false := by
  unfold boundaryItem? at h
  unfold wordMeaning
  cases hoperator : operatorWords.lookup word with
  | some operator =>
      have hlisted : (operatorWords.lookup word).isSome := by rw [hoperator]; rfl
      obtain ⟨hspoken, hand, hnegative⟩ := not_tried_before (.inl hlisted)
      rw [hoperator] at h
      cases h
      rw [hspoken, hand, hnegative]
      exact ⟨rfl, rfl⟩
  | none =>
      rw [hoperator] at h
      cases hkeyword : keywords.lookup word with
      | none =>
          rw [hkeyword] at h
          cases h
      | some keyword =>
          have hlisted : (keywords.lookup word).isSome := by rw [hkeyword]; rfl
          obtain ⟨hspoken, hand, hnegative⟩ := not_tried_before (.inr hlisted)
          rw [hkeyword] at h
          cases h
          rw [hspoken, hand, hnegative]
          exact ⟨rfl, rfl⟩

theorem Token.meaning_of_boundary? {token : Token} {item : Item}
    (h : token.boundary? = some item) :
    token.meaning = item.meaning ∧ item.isNumber = false := by
  cases token with
  | numeral => cases h
  | word letters => exact wordMeaning_of_boundaryItem? h
  | sign mark => exact wordMeaning_of_boundaryItem? h

/-- A token that means an item parts the pieces and leaves the one of its
item. -/
theorem piecesOf_append_item {token : Token} {item : Item} (h : token.meaning = item.meaning)
    (before behind : List Token) :
    piecesOf (before ++ token :: behind) = piecesOf before ++ item.piece :: piecesOf behind := by
  have hends : token.meaning.EndsRun := by
    rw [h]
    cases item <;> trivial
  have hown : token.meaning.ownPieces = [item.piece] := by
    rw [h]
    cases item <;> rfl
  have hparted := piecesAfter_append_parting hends [] [] before behind
  rwa [hown] at hparted

/-! ### Items -/

namespace ItemState

/-- A state with more items read before. -/
def behind (items : List Item) (state : ItemState) : ItemState :=
  ⟨state.found ++ items, state.negative⟩

variable (items : List Item) (state : ItemState)

theorem number_behind (value : Decimal) :
    (state.behind items).number value = (state.number value).map (behind items) := by
  unfold number
  change (if state.negative then _ else _) = _
  split
  · split <;> rfl
  · rfl

theorem spoken_behind (words : List String) :
    (state.behind items).spoken words = (state.spoken words).map (behind items) := by
  unfold spoken
  split
  · exact number_behind items state _
  · rfl

theorem piece_behind (piece : Piece) :
    (state.behind items).piece piece = (state.piece piece).map (behind items) := by
  cases piece with
  | number value => exact number_behind items state value
  | run words => exact foldlM_frame (spoken_behind items) (numbersOfRun words) state
  | negative => rfl
  | operator operator => rfl
  | keyword keyword => rfl

end ItemState

/-- The pieces behind an operator or a keyword are read as if nothing stood
before it. -/
theorem itemsOfPieces_append_item {item : Item} (hitem : item.isNumber = false)
    (before behind : List Piece) :
    itemsOfPieces (before ++ item.piece :: behind) =
      (itemsOfPieces before).bind fun front =>
        (itemsOfPieces behind).map fun back => front ++ item :: back := by
  unfold itemsOfPieces
  rw [List.foldlM_append]
  cases before.foldlM ItemState.piece ⟨[], false⟩ with
  | error fault => rfl
  | ok state =>
      -- the state behind the item is the initial one, with more items read before
      have hpiece : state.piece item.piece =
          .ok (ItemState.behind (item :: state.found) ⟨[], false⟩) := by
        cases item with
        | number value => cases hitem
        | operator operator => rfl
        | keyword keyword => rfl
      have hbehind : (item.piece :: behind).foldlM ItemState.piece state =
          (behind.foldlM ItemState.piece ⟨[], false⟩).map
            (ItemState.behind (item :: state.found)) := by
        rw [List.foldlM_cons, hpiece]
        exact foldlM_frame (ItemState.piece_behind _) behind _
      simp only [bind, Except.bind] at hbehind ⊢
      rw [hbehind]
      cases behind.foldlM ItemState.piece ⟨[], false⟩ with
      | error fault => rfl
      | ok last => simp [ItemState.behind, Except.map, pure, Except.pure]

/-- The items of a phrase with an operator or a keyword are those in front of
it, its own and those behind it, and reading fails as it does for the first side
that cannot be read. -/
theorem itemsOf_append_boundary {token : Token} {item : Item} (h : token.boundary? = some item)
    (before behind : List Token) :
    itemsOf (before ++ token :: behind) =
      (itemsOf before).bind fun front =>
        (itemsOf behind).map fun back => front ++ item :: back := by
  obtain ⟨hmeaning, hitem⟩ := Token.meaning_of_boundary? h
  rw [itemsOf, piecesOf_append_item hmeaning]
  exact itemsOfPieces_append_item hitem _ _

/-- Neither the "negative" nor the "and" reaches across the operator. -/
theorem itemsOf_append_boundary_negative :
    let before := ["one", "hundred", "negative", "and"].map fun word => Token.word word.toList
    let behind := [Token.word "five".toList]
    (Token.sign '×').boundary? = some (.operator .multiply) ∧
      itemsOf (before ++ .sign '×' :: behind) =
        .ok [.number (.ofNat 100), .operator .multiply, .number (.ofNat 5)] := by
  intro before behind
  have hboundary : (Token.sign '×').boundary? = some (.operator .multiply) := by decide +kernel
  refine ⟨hboundary, ?_⟩
  rw [itemsOf_append_boundary hboundary]
  decide +kernel

end SpokenCalculator.Phrase
