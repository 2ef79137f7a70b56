import SpokenCalculator.Proofs.Number.Heard
import SpokenCalculator.Proofs.Phrase.Resolved
import SpokenCalculator.Proofs.Phrase.Sign

namespace SpokenCalculator

namespace Spoken

def fractionWords (digits : List ℕ) : List String :=
  if digits.isEmpty then [] else pointWord :: digits.map Spelling.smallWord

@[simp] theorem fractionWords_nil : fractionWords [] = [] := rfl

theorem fractionWords_of_ne_nil {digits : List ℕ} (hne : digits ≠ []) :
    fractionWords digits = pointWord :: digits.map Spelling.smallWord :=
  if_neg (by simpa using hne)

theorem eq_or_exists_of_mem_fractionWords {digits : List ℕ}
    (hdigits : ∀ digit ∈ digits, digit < 10) {word : String} (h : word ∈ fractionWords digits) :
    word = pointWord ∨ ∃ digit < 10, word = Spelling.smallWord digit := by
  by_cases hne : digits = []
  · subst hne
    contradiction
  · rw [fractionWords_of_ne_nil hne] at h
    rcases List.mem_cons.mp h with hpoint | hdigit
    · exact .inl hpoint
    · obtain ⟨digit, hmem, rfl⟩ := List.mem_map.mp hdigit
      exact .inr ⟨digit, hdigits digit hmem, rfl⟩

theorem mapM_digitWordValue?_smallWord {digits : List ℕ} (hdigits : ∀ digit ∈ digits, digit < 10) :
    (digits.map Spelling.smallWord).mapM digitWordValue? = some digits := by
  have hword : ∀ digit < 10, digitWordValue? (Spelling.smallWord digit) = some digit := by
    decide
  induction digits with
  | nil => rfl
  | cons digit rest ih =>
      rw [List.map_cons, List.mapM_cons, hword digit (hdigits digit List.mem_cons_self),
        ih fun other hother => hdigits other (List.mem_cons_of_mem digit hother)]
      rfl

theorem isNumberWord_smallWord {n : ℕ} (h : n < 20) : isNumberWord (Spelling.smallWord n) := by
  have hall : ∀ n < 20, isNumberWord (Spelling.smallWord n) := by decide
  exact hall n h

theorem isRunWord_of_mem_fractionWords {digits : List ℕ} (hdigits : ∀ digit ∈ digits, digit < 10) :
    ∀ word ∈ fractionWords digits, IsRunWord word := by
  intro word hword
  rcases eq_or_exists_of_mem_fractionWords hdigits hword with rfl | ⟨digit, hdigit, rfl⟩
  · exact .inr rfl
  · exact .inl (isNumberWord_smallWord (hdigit.trans (by decide)))

/-- The words of one whole number, or no words, and the value that is read. -/
structure IsWhole (words : List String) (value : ℕ) : Prop where
  isNumberWord : ∀ word ∈ words, isNumberWord word
  single : words = [] ∨ splitRun words = [words]
  read : readCardinal words = .ok (.exact value)

theorem isWhole_nil : IsWhole [] 0 := ⟨List.forall_mem_nil _, .inl rfl, rfl⟩

theorem exists_isWhole {n : ℕ} (h : n < 10 ^ 12) :
    ∃ heard, IsWhole (Cardinal.cardinalWords n) heard ∧
      (heard = n ↔ Cardinal.IsHeardRight n) := by
  obtain ⟨heard, hread, -, hiff⟩ := Cardinal.exists_readCardinal h
  exact ⟨heard, ⟨Cardinal.isNumberWord_of_mem_cardinalWords h,
    .inr (Cardinal.splitRun_cardinalWords n), hread⟩, hiff⟩

def withDigits (whole : ℕ) (digits : List ℕ) : Decimal :=
  .finite false (whole * 10 ^ digits.length + digitsValue digits) (-digits.length)

structure IsOperand (words : List String) (value : Decimal) : Prop where
  isRunWord : ∀ word ∈ words, IsRunWord word
  ne_nil : words ≠ []
  single : Phrase.numbersOfRun words = [words]
  read : read words = .ok value

variable {words : List String} {value : ℕ}

theorem IsWhole.isOperand (h : IsWhole words value) (hne : words ≠ []) :
    IsOperand words (withDigits value []) := by
  have hpoint : words.contains pointWord = false := by
    simpa using pointWord_not_mem h.isNumberWord
  have hvalue : withDigits value [] = .ofNat value := by
    simp [withDigits, Decimal.ofNat]
  refine ⟨fun word hword => .inl (h.isNumberWord word hword), hne, ?_, ?_⟩
  · rw [Phrase.numbersOfRun, hpoint, if_neg (by decide), h.single.resolve_left hne]
  · rw [read_eq h.isNumberWord, h.read, hvalue]
    rfl

/-- The digits behind the point belong to the whole number before it, which may
be left out. -/
theorem IsWhole.isOperand_point (h : IsWhole words value) {digits : List ℕ} (hne : digits ≠ [])
    (hdigits : ∀ digit ∈ digits, digit < 10) :
    IsOperand (words ++ fractionWords digits) (withDigits value digits) := by
  have hpoint := pointWord_not_mem h.isNumberWord
  have hsmall : ∀ word ∈ digits.map Spelling.smallWord, SpokenCalculator.isNumberWord word := by
    intro word hword
    obtain ⟨digit, hmem, rfl⟩ := List.mem_map.mp hword
    exact isNumberWord_smallWord ((hdigits digit hmem).trans (by decide))
  have hfraction := fractionWords_of_ne_nil hne
  -- The run is cut at its only point, and the last number before it takes the rest.
  obtain ⟨htake, hdrop⟩ := cut_append hpoint (digits.map Spelling.smallWord)
  have hcount : (words ++ pointWord :: digits.map Spelling.smallWord).count pointWord = 1 := by
    rw [List.count_append, List.count_eq_zero.mpr hpoint, List.count_cons_self,
      List.count_eq_zero.mpr (pointWord_not_mem hsmall)]
  have hcontains : (words ++ pointWord :: digits.map Spelling.smallWord).contains pointWord := by
    simp
  refine ⟨?_, by simp [hfraction], ?_, ?_⟩
  · intro word hword
    rcases List.mem_append.mp hword with hwhole | hfraction
    · exact .inl (h.isNumberWord word hwhole)
    · exact isRunWord_of_mem_fractionWords hdigits word hfraction
  · rw [hfraction, Phrase.numbersOfRun, if_pos hcontains]
    dsimp only
    rw [beforePoint, htake, hdrop]
    rcases h.single with rfl | hsingle
    · rfl
    · rw [hsingle]
      rfl
  · have hnone : (digits.map Spelling.smallWord).isEmpty = false := by simpa using hne
    rw [hfraction, Spoken.read, hcount, if_neg (by decide), if_pos hcontains]
    dsimp only
    rw [behindPoint, hdrop, List.tail_cons, hnone, if_neg (by decide),
      mapM_digitWordValue?_smallWord hdigits, beforePoint, htake, h.read]
    rfl

/-- A whole number and the digits behind its point are one number, unless
nothing is said. -/
theorem IsWhole.isOperand_append (h : IsWhole words value) {digits : List ℕ}
    (hne : words ++ fractionWords digits ≠ []) (hdigits : ∀ digit ∈ digits, digit < 10) :
    IsOperand (words ++ fractionWords digits) (withDigits value digits) := by
  by_cases hnone : digits = []
  · subst hnone
    rw [fractionWords_nil, List.append_nil] at hne ⊢
    exact h.isOperand hne
  · exact h.isOperand_point hnone hdigits

end Spoken

namespace Phrase

open Spoken (IsRunWord IsOperand)

variable {words : List String} {value : Decimal}

def wordTokens (words : List String) : List Token := words.map fun word => .word word.toList

theorem wordTokens_append (words behind : List String) :
    wordTokens (words ++ behind) = wordTokens words ++ wordTokens behind :=
  List.map_append

theorem meaning_word (word : String) : (Token.word word.toList).meaning = wordMeaning word := by
  rw [Token.meaning, Token.text, Token.characters, String.ofList_toList]
  nofun

theorem wordMeaning_of_isRunWord {word : String} (h : IsRunWord word) :
    wordMeaning word = .spoken word := by
  have hspoken : (isNumberWord word || word == pointWord) = true := by
    rcases h with hnumber | rfl
    · rw [hnumber]
      rfl
    · simp
  rw [wordMeaning, if_pos hspoken]

theorem piecesAfter_wordTokens (found : List Piece) {words : List String}
    (hwords : ∀ word ∈ words, IsRunWord word) (run : List String) (rest : List Token) :
    piecesAfter found run (wordTokens words ++ rest) =
      piecesAfter found (words.reverse ++ run) rest := by
  induction words generalizing run with
  | nil => rfl
  | cons word others ih =>
      have hword : (Token.word word.toList).meaning = .spoken word := by
        rw [meaning_word, wordMeaning_of_isRunWord (hwords word List.mem_cons_self)]
      have hothers := ih (fun other hother => hwords other (List.mem_cons_of_mem word hother))
        (word :: run)
      rw [wordTokens, List.map_cons, List.cons_append, piecesAfter, hword]
      dsimp only
      rw [← wordTokens, hothers, List.reverse_cons, List.append_assoc]
      rfl

theorem piecesAfter_filler {word : String} (h : wordMeaning word = .filler) (found : List Piece)
    (run : List String) (rest : List Token) :
    piecesAfter found run (wordTokens [word] ++ rest) =
      piecesAfter (closeRun found run) [] rest := by
  have hmeaning : (Token.word word.toList).meaning = .filler := by rw [meaning_word, h]
  rw [wordTokens, List.map_singleton, List.singleton_append, piecesAfter, hmeaning]

/-- What may follow an operand, and its pieces: nothing, or a word without
meaning and perhaps another number. -/
inductive IsAside : List String → List Piece → Prop where
  | nil : IsAside [] []
  | filler {word : String} (hfiller : wordMeaning word = .filler) : IsAside [word] []
  | number {word : String} {words : List String} {value : Decimal}
      (hfiller : wordMeaning word = .filler) (hwords : IsOperand words value) :
      IsAside (word :: words) [.run words]

theorem closeRun_reverse (found : List Piece) (hne : words ≠ []) :
    closeRun found words.reverse = .run words :: found := by
  have hempty : words.reverse.isEmpty = false := by simpa using hne
  rw [closeRun, hempty, if_neg (by decide), List.reverse_reverse]

theorem piecesAfter_aside {behind : List String} {pieces : List Piece} (h : IsAside behind pieces)
    (found : List Piece) (run : List String) :
    piecesAfter found run (wordTokens behind) = (closeRun found run).reverse ++ pieces := by
  cases h with
  | nil =>
      rw [List.append_nil]
      rfl
  | filler hfiller =>
      have hnone := piecesAfter_filler hfiller found run []
      rw [List.append_nil] at hnone
      rw [hnone, List.append_nil]
      rfl
  | number hfiller hwords =>
      have hrun := piecesAfter_wordTokens (closeRun found run) hwords.isRunWord [] []
      rw [List.append_nil, List.append_nil, piecesAfter, closeRun_reverse _ hwords.ne_nil,
        List.reverse_cons] at hrun
      rw [← List.singleton_append, wordTokens_append, piecesAfter_filler hfiller, hrun]

def additionWords (negative : Bool) (words : List String) : List String :=
  "plus" :: (if negative then ["negative"] else []) ++ words

def additionPieces (negative : Bool) (words : List String) : List Piece :=
  .operator .add :: (if negative then [.negative] else []) ++ [.run words]

theorem piecesOf_addition (negative : Bool) {behind : List String} {pieces : List Piece}
    (h : IsOperand words value) (hbehind : IsAside behind pieces) :
    piecesOf (wordTokens (additionWords negative words ++ behind)) =
      additionPieces negative words ++ pieces := by
  have hplus : (Token.word "plus".toList).meaning = .operator .add := by
    rw [meaning_word]
    rfl
  have hnegative : (Token.word "negative".toList).meaning = .negative := by
    rw [meaning_word]
    rfl
  have hrun : ∀ found, piecesAfter found [] (wordTokens words ++ wordTokens behind) =
      (.run words :: found).reverse ++ pieces := by
    intro found
    rw [piecesAfter_wordTokens found h.isRunWord, List.append_nil, piecesAfter_aside hbehind,
      closeRun_reverse found h.ne_nil]
  -- Neither the operator nor the sign has a run to close.
  have hfirst : ∀ rest, piecesAfter [] [] (.word "plus".toList :: rest) =
      piecesAfter [.operator .add] [] rest := by
    intro rest
    rw [piecesAfter, hplus]
    rfl
  rw [piecesOf, wordTokens_append]
  cases negative with
  | false => exact (hfirst _).trans (hrun _)
  | true =>
      have hsecond : ∀ found rest, piecesAfter found [] (.word "negative".toList :: rest) =
          piecesAfter (.negative :: found) [] rest := by
        intro found rest
        rw [piecesAfter, hnegative]
        rfl
      exact (hfirst _).trans ((hsecond _ _).trans (hrun _))

namespace ItemState

theorem number_eq (state : ItemState) {result : Decimal}
    (hsign : applySign state.negative value = .ok result) :
    state.number value = .ok ⟨.number result :: state.found, false⟩ := by
  unfold applySign at hsign
  unfold number
  split at hsign
  · rename_i hnegative
    rw [if_pos hnegative, hsign]
  · rename_i hnegative
    cases hsign
    rw [if_neg hnegative]

theorem piece_run (state : ItemState) (h : IsOperand words value) :
    state.piece (.run words) = state.number value := by
  have hread : state.spoken words = state.number value := by
    rw [spoken, h.read]
  rw [piece, h.single, List.foldlM_cons, hread]
  cases state.number value <;> rfl

end ItemState

/-- The items of an addition: the operator and its operand, and behind them
numbers only. -/
theorem itemsOfPieces_addition (negative : Bool) {behind : List String} {pieces : List Piece}
    {result : Decimal} (h : IsOperand words value) (hbehind : IsAside behind pieces)
    (hsign : applySign negative value = .ok result) :
    ∃ others, itemsOfPieces (additionPieces negative words ++ pieces) =
        .ok (.operator .add :: .number result :: others) ∧
      ∀ item ∈ others, item.isOperator = false := by
  have hoperand : (additionPieces negative words).foldlM ItemState.piece ⟨[], false⟩ =
      .ok ⟨[.number result, .operator .add], false⟩ := by
    have hrun : ItemState.piece ⟨[.operator .add], negative⟩ (.run words) =
        .ok ⟨[.number result, .operator .add], false⟩ := by
      rw [ItemState.piece_run _ h]
      exact ItemState.number_eq ⟨[.operator .add], negative⟩ hsign
    cases negative with
    | false => exact congrArg (· >>= pure) hrun
    | true => exact congrArg (· >>= pure) hrun
  unfold itemsOfPieces
  rw [List.foldlM_append, hoperand]
  cases hbehind with
  | nil => exact ⟨[], rfl, List.forall_mem_nil _⟩
  | filler _ => exact ⟨[], rfl, List.forall_mem_nil _⟩
  | number _ hwords =>
      rename_i other _
      refine ⟨[.number other], ?_, by simp [Item.isOperator]⟩
      have hnumber : ItemState.piece ⟨[.number result, .operator .add], false⟩ (.run _) =
          .ok ⟨[.number other, .number result, .operator .add], false⟩ :=
        (ItemState.piece_run _ hwords).trans (ItemState.number_eq _ rfl)
      simp only [bind, Except.bind, List.foldlM_cons, hnumber]
      rfl

/-- A leading operator is no sign if no other operator follows. -/
theorem resolveSigns_addition {others : List Item}
    (h : ∀ item ∈ others, item.isOperator = false) (result : Decimal) :
    resolveSigns (.operator .add :: .number result :: others) =
      .ok (.operator .add :: .number result :: others) := by
  have hnone : others.any Item.isOperator = false := OperatorFree.any_eq_false h
  have hsign : isSign [] others = false := by
    rw [isSign, hnone]
    rfl
  have hbehind : ∀ item ∈ Item.number result :: others, item.isOperator = false := by
    rw [List.forall_mem_cons]
    exact ⟨rfl, h⟩
  rw [resolveSigns, resolveAfter, hsign]
  exact resolveAfter_eq_of_operatorFree hbehind [.operator .add]

theorem parse_addition (negative : Bool) {heard : String} {behind : List String}
    {pieces : List Piece} {result : Decimal}
    (htokens : tokenize heard = wordTokens (additionWords negative words ++ behind))
    (h : IsOperand words value) (hbehind : IsAside behind pieces)
    (hsign : applySign negative value = .ok result) :
    Command.parse heard = .ok (.apply .add result) := by
  obtain ⟨others, hitems, hothers⟩ := itemsOfPieces_addition negative h hbehind hsign
  refine Command.parse_of_items ?_ (resolveSigns_addition hothers result)
  rw [itemsOf, htokens, piecesOf_addition negative h hbehind, hitems]

end Phrase

end SpokenCalculator
