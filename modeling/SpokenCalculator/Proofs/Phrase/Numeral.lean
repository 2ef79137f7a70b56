import SpokenCalculator.Proofs.Decimal.Row
import SpokenCalculator.Proofs.Phrase.Normal
import SpokenCalculator.Proofs.Phrase.Token

namespace SpokenCalculator.Phrase

open Text

def numerals : List Char := "0123456789".toList

def figures : List Char := numerals ++ ".+-*/".toList

theorem isDecimalDigit_of_mem_numerals {c : Char} (hc : c ∈ numerals) : isDecimalDigit c := by
  have hall : numerals.all isDecimalDigit := by decide
  exact List.all_eq_true.mp hall c hc

theorem mem_figures_of_mem_numerals {c : Char} (hc : c ∈ numerals) : c ∈ figures :=
  List.mem_append_left _ hc

theorem isNormal_of_figures {part : List Char} (hne : part ≠ []) (hpart : ∀ c ∈ part, c ∈ figures) :
    IsNormal part := by
  have hall : figures.all fun c =>
      !isBlank c && !isLetter c && decide (c.toNat < 0x41 ∧ c ≠ ',') := by decide
  have hfigure : ∀ c ∈ part,
      (isBlank c = false ∧ isLetter c = false) ∧ c.toNat < 0x41 ∧ c ≠ ',' := fun c hc => by
    simpa only [Bool.and_eq_true, Bool.not_eq_true', decide_eq_true_eq] using
      List.all_eq_true.mp hall c (hpart c hc)
  have hletter : ∀ {c : Char} {pair : List Char}, isLetter c → ¬ c :: pair <:+: part :=
    fun hc hpair => by
      rw [(hfigure _ (hpair.mem List.mem_cons_self)).1.2] at hc
      cases hc
  exact ⟨⟨hne, fun c hc => (hfigure c hc).1.1⟩,
    fun c hc => ⟨.inl (hfigure c hc).2.1, (hfigure c hc).2.2⟩,
    fun c => hletter, hletter (by decide), hletter (by decide)⟩

theorem tokenize_joinWords {parts : List (List Char)} {tokens : List (List Token)}
    (hnormal : ∀ part ∈ parts, IsNormal part) (hlexes : List.Forall₂ Lexes parts tokens) :
    tokenize (String.ofList (joinWords parts)) = tokens.flatten := by
  rw [tokenize, String.toList_ofList, normalCharacters_eq_self hnormal,
    tokensOf_joinWords_of_lexes hlexes]

theorem tokenize_word_numeral {digits : List Char} (hdigits : ∀ c ∈ digits, c ∈ numerals)
    (hne : digits ≠ []) {word : List Char} (hword : IsSimple word) :
    tokenize (String.ofList (word ++ ' ' :: digits)) = [.word word, .numeral digits []] := by
  have hjoined : word ++ ' ' :: digits = joinWords [word, digits] := by
    rw [joinWords_cons_cons]
    simp [joinWords]
  have hnormal : ∀ part ∈ [word, digits], IsNormal part := by
    rw [List.forall_mem_cons, List.forall_mem_singleton]
    exact ⟨hword.isNormal,
      isNormal_of_figures hne fun c hc => mem_figures_of_mem_numerals (hdigits c hc)⟩
  have hnumeral : Lexes digits [.numeral digits []] :=
    lexes_numeral hne (fun c hc => isDecimalDigit_of_mem_numerals (hdigits c hc))
      (List.forall_mem_nil _)
  rw [hjoined, tokenize_joinWords hnormal
    (.cons (lexes_word hword.ne_nil hword.letters) (.cons hnumeral .nil))]
  rfl

theorem digitsValue_power (count : ℕ) :
    digitsValue (Decimal.digitValues ('1' :: List.replicate count '0')) = 10 ^ count := by
  have hzero : digitValue? '0' = some 0 := by decide
  have hdigits : Decimal.digitValues ('1' :: List.replicate count '0') =
      1 :: List.replicate count 0 := by
    have hone : digitValue? '1' = some 1 := by decide
    simp [Decimal.digitValues, hone, hzero]
  rw [hdigits, digitsValue_cons, digitsValue_replicate_zero, List.length_replicate, Nat.one_mul,
    Nat.add_zero]

end SpokenCalculator.Phrase
