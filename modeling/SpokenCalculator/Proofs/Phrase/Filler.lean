import SpokenCalculator.Proofs.Phrase.Boundary
import SpokenCalculator.Proofs.Phrase.Insertion
import SpokenCalculator.Proofs.Phrase.Trimmed

namespace SpokenCalculator.Phrase

def isNumberPart (word : String) : Bool :=
  isNumberWord word || word == pointWord || word == "and"

def isFillerWord (word : String) : Bool :=
  !(isNumberPart word || word == "negative" || (boundaryItem? word).isSome)

namespace Token

def isNumberPart : Token → Bool
  | .numeral .. => false
  | token => Phrase.isNumberPart token.text

/-- A token that neither is a numeral nor stands in one of the tables of words. -/
def isFiller : Token → Bool
  | .numeral .. => false
  | token => isFillerWord token.text

end Token

/-! ### Meanings -/

theorem wordMeaning_of_isFillerWord {word : String} (h : isFillerWord word) :
    wordMeaning word = .filler := by
  simp only [isFillerWord, isNumberPart, boundaryItem?, Bool.not_eq_true', Bool.or_eq_false_iff,
    Option.isSome_eq_false_iff, Option.isNone_iff_eq_none, Option.or_eq_none_iff,
    Option.map_eq_none_iff] at h
  obtain ⟨⟨⟨⟨hnumber, hpoint⟩, hand⟩, hnegative⟩, hoperator, hkeyword⟩ := h
  rw [wordMeaning, hnumber, hpoint, hand, hnegative, hoperator, hkeyword]
  rfl

theorem Token.meaning_of_isFiller {token : Token} (h : token.isFiller) :
    token.meaning = .filler := by
  cases token with
  | numeral => cases h
  | word letters => exact wordMeaning_of_isFillerWord h
  | sign mark => exact wordMeaning_of_isFillerWord h

theorem wordMeaning_of_not_isNumberPart {word : String} (h : isNumberPart word = false) :
    (∀ spoken, wordMeaning word ≠ .spoken spoken) ∧ wordMeaning word ≠ .conjunction := by
  rw [isNumberPart, Bool.or_eq_false_iff] at h
  rw [wordMeaning, h.1, h.2, if_neg Bool.false_ne_true, if_neg Bool.false_ne_true]
  cases word == "negative" <;> cases operatorWords.lookup word <;> cases keywords.lookup word <;>
    simp

theorem Token.meaning_of_not_isNumberPart {token : Token} (h : token.isNumberPart = false) :
    (∀ spoken, token.meaning ≠ .spoken spoken) ∧ token.meaning ≠ .conjunction := by
  cases token with
  | numeral => exact ⟨nofun, nofun⟩
  | word letters => exact wordMeaning_of_not_isNumberPart h
  | sign mark => exact wordMeaning_of_not_isNumberPart h

/-! ### Pieces -/

/-- A token that is no part of a number ends a run and leaves pieces of its own,
the same ones wherever it stands. -/
theorem exists_piecesOf_append_token {token : Token} (h : token.isNumberPart = false) :
    ∃ own, ∀ before behind,
      piecesOf (before ++ token :: behind) = piecesOf before ++ (own ++ piecesOf behind) := by
  obtain ⟨hspoken, hconjunction⟩ := Token.meaning_of_not_isNumberPart h
  have hends := Meaning.endsRun_of_ne hspoken hconjunction
  exact ⟨token.meaning.ownPieces.reverse, piecesAfter_append_parting hends [] []⟩

section

variable {before behind : List Token}

theorem piecesOf_append_of_last (h : before.getLast?.any Token.isNumberPart = false) :
    piecesOf (before ++ behind) = piecesOf before ++ piecesOf behind := by
  rcases List.eq_nil_or_concat' before with rfl | ⟨front, last, rfl⟩
  · rfl
  · rw [List.getLast?_concat, Option.any_some] at h
    obtain ⟨own, hown⟩ := exists_piecesOf_append_token h
    rw [List.append_assoc, List.singleton_append, hown front behind, hown front [],
      List.append_assoc, List.append_assoc]
    rfl

theorem piecesOf_append_of_first (h : behind.head?.any Token.isNumberPart = false) :
    piecesOf (before ++ behind) = piecesOf before ++ piecesOf behind := by
  cases behind with
  | nil => rw [List.append_nil]; exact (List.append_nil _).symm
  | cons first rest =>
      obtain ⟨own, hown⟩ := exists_piecesOf_append_token h
      have hfirst := hown [] rest
      rw [List.nil_append] at hfirst
      rw [hown before rest, hfirst]
      rfl

/-- No number goes across the border of two parts if one of the two tokens at it
is no part of a number. -/
theorem piecesOf_append
    (h : ¬ (before.getLast?.any Token.isNumberPart ∧ behind.head?.any Token.isNumberPart)) :
    piecesOf (before ++ behind) = piecesOf before ++ piecesOf behind := by
  rcases not_and_or.mp h with hlast | hfirst
  · exact piecesOf_append_of_last (Bool.eq_false_iff.mpr hlast)
  · exact piecesOf_append_of_first (Bool.eq_false_iff.mpr hfirst)

end

/-! ### Items and commands -/

/-- A word without meaning changes no items where no number goes across, and
reading fails without it as it does with it. So two phrases whose tokens differ in
such a word stand for the same command, and a word that belongs to no expression
can be put between any two texts. -/
theorem itemsOf_append_filler {filler : Token} (hfiller : filler.isFiller)
    {before behind : List Token}
    (houtside :
      ¬ (before.getLast?.any Token.isNumberPart ∧ behind.head?.any Token.isNumberPart)) :
    itemsOf (before ++ filler :: behind) = itemsOf (before ++ behind) ∧
      ∀ heard, tokenize heard = before ++ behind →
        (∀ longer, tokenize longer = before ++ filler :: behind →
          (Command.parse heard).map (Command.reworded longer) = Command.parse longer) ∧
        ∀ word front back, filler = .word word.toList → IsLoose word.toList →
          tokenize front = before → tokenize back = behind →
          let longer := front ++ " " ++ word ++ " " ++ back
          (Command.parse heard).map (Command.reworded longer) = Command.parse longer := by
  have hitems : itemsOf (before ++ filler :: behind) = itemsOf (before ++ behind) := by
    rw [itemsOf, piecesOf_append_filler (Token.meaning_of_isFiller hfiller), itemsOf,
      piecesOf_append houtside]
  refine ⟨hitems, fun heard hheard => ?_⟩
  have hcommand : ∀ longer, tokenize longer = before ++ filler :: behind →
      (Command.parse heard).map (Command.reworded longer) = Command.parse longer := by
    intro longer hlonger
    refine parse_of_itemsOf ?_
    rw [hheard, hlonger, hitems]
  refine ⟨hcommand, ?_⟩
  rintro word front back rfl hloose rfl rfl
  exact hcommand _ (tokenize_around hloose front back)

/-- The sign still waits for its number behind the word. -/
theorem itemsOf_append_filler_negative :
    let before := ["ten", "times", "negative"].map fun word => Token.word word.toList
    let filler := Token.word "please".toList
    let behind := [Token.word "five".toList]
    let product := Command.compute (.ofNat 10) .multiply (.finite true 5 0)
    filler.isFiller ∧
      ¬ (before.getLast?.any Token.isNumberPart ∧ behind.head?.any Token.isNumberPart) ∧
      itemsOf (before ++ filler :: behind) =
        .ok [.number (.ofNat 10), .operator .multiply, .number (.finite true 5 0)] ∧
      tokenize "ten times negative five" = before ++ behind ∧
      tokenize "Ten times negative, please: five" = before ++ filler :: behind ∧
      Command.parse "Ten times negative, please: five" = .ok product ∧
      IsLoose "please".toList ∧ tokenize "ten times negative" = before ∧
      tokenize "five" = behind ∧
      Command.parse ("ten times negative" ++ " " ++ "please" ++ " " ++ "five") = .ok product := by
  intro before filler behind product
  have hfiller : filler.isFiller := by decide +kernel
  have houtside :
      ¬ (before.getLast?.any Token.isNumberPart ∧ behind.head?.any Token.isNumberPart) := by
    decide +kernel
  have hheard : tokenize "ten times negative five" = before ++ behind := by decide +kernel
  have hlonger : tokenize "Ten times negative, please: five" = before ++ filler :: behind := by
    decide +kernel
  have hloose : IsLoose "please".toList := by decide +kernel
  have hfront : tokenize "ten times negative" = before := by decide +kernel
  have hback : tokenize "five" = behind := by decide +kernel
  have hread : itemsOf (before ++ behind) =
      .ok [.number (.ofNat 10), .operator .multiply, .number (.finite true 5 0)] := by
    decide +kernel
  have hproduct : Command.parse "ten times negative five" = .ok product :=
    Command.parse_of_items (by rw [hheard, hread]) rfl
  obtain ⟨hitems, hcommands⟩ := itemsOf_append_filler hfiller houtside
  obtain ⟨hsame, hinserted⟩ := hcommands _ hheard
  have hpunctuated := hsame _ hlonger
  have hspaced := hinserted "please" _ _ rfl hloose hfront hback
  rw [hproduct] at hpunctuated hspaced
  exact ⟨hfiller, houtside, hitems.trans hread, hheard, hlonger, hpunctuated.symm, hloose, hfront,
    hback, hspaced.symm⟩

/-- The words of an expression mean nothing alone, but one of them can complete
it. -/
theorem divided_two_is_not_divided_by_two :
    ¬ ∀ front word back : String, (Token.word word.toList).isFiller →
      tokenize (front ++ " " ++ back) = tokenize front ++ tokenize back →
      ¬ ((tokenize front).getLast?.any Token.isNumberPart ∧
        (tokenize back).head?.any Token.isNumberPart) →
      let longer := front ++ " " ++ word ++ " " ++ back
      (Command.parse (front ++ " " ++ back)).map (Command.reworded longer) =
        Command.parse longer := by
  intro hignored
  have hsame := hignored "ten divided" "by" "two" (by decide +kernel) (by decide +kernel)
    (by decide +kernel)
  have hwithout : Command.parse ("ten divided" ++ " " ++ "two") =
      .ok (.unrecognized "ten divided two") := by decide +kernel
  have hquotient : Command.parse ("ten divided" ++ " " ++ "by" ++ " " ++ "two") =
      .ok (.compute (.ofNat 10) .divide (.ofNat 2)) := by decide +kernel
  cases (congrArg (Except.map (Command.reworded _)) hwithout).symm.trans (hsame.trans hquotient)

end SpokenCalculator.Phrase
