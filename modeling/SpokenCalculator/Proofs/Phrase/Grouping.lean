import SpokenCalculator.Proofs.Phrase.Parting
import SpokenCalculator.Proofs.Phrase.Printed
import SpokenCalculator.Proofs.Text.LowerCase

namespace SpokenCalculator.Phrase

open Text

/-- Digits with a comma in front of each group of three, counted from the end,
that has digits before it. -/
def separateThousands : List Char → List Char
  | [] => []
  | digit :: rest =>
      if rest.length % 3 = 0 ∧ rest ≠ [] then digit :: ',' :: separateThousands rest
      else digit :: separateThousands rest

example : separateThousands "1234567".toList = "1,234,567".toList := by decide

def isNumeralPart (c : Char) : Bool := isDecimalDigit c || c == ','

theorem isNumeralPart_eq_false_iff {c : Char} :
    isNumeralPart c = false ↔ isDecimalDigit c = false ∧ c ≠ ',' := by
  rw [isNumeralPart, Bool.or_eq_false_iff, beq_eq_false_iff_ne]

/-! ### Around a numeral -/

/-- What a numeral with separators is written with. -/
def separated : List Char := ',' :: numerals

theorem mem_separated_of_mem_separateThousands {digits : List Char}
    (hdigits : ∀ c ∈ digits, c ∈ numerals) : ∀ c ∈ separateThousands digits, c ∈ separated := by
  induction digits with
  | nil => exact List.forall_mem_nil _
  | cons digit rest ih =>
      obtain ⟨hdigit, hrest⟩ := List.forall_mem_cons.mp hdigits
      have hfirst : digit ∈ separated := List.mem_cons_of_mem _ hdigit
      rw [separateThousands]
      split
      · exact List.forall_mem_cons.mpr
          ⟨hfirst, List.forall_mem_cons.mpr ⟨List.mem_cons_self, ih hrest⟩⟩
      · exact List.forall_mem_cons.mpr ⟨hfirst, ih hrest⟩

theorem isUncased_of_mem_separated {c : Char} (hc : c ∈ separated) : IsUncased c := by
  have hall : separated.all fun c =>
      !isCaseIgnorable c && !isCased c && decide (c.toNat < 0x41) := by decide
  have hplain := List.all_eq_true.mp hall c hc
  simp only [Bool.and_eq_true, Bool.not_eq_true', decide_eq_true_eq] at hplain
  exact ⟨IsPlain.isCaseless (.inl hplain.2), hplain.1.1, hplain.1.2⟩

theorem not_isLetter_of_mem_separated {c : Char} (hc : c ∈ separated) :
    isLetter c = false ∧ c ≠ '-' := by
  have hall : separated.all fun c => !isLetter c && c != '-' := by decide
  simpa using List.all_eq_true.mp hall c hc

section

variable {numeral : List Char} (hne : numeral ≠ []) (hnumeral : ∀ c ∈ numeral, c ∈ separated)

include hne hnumeral

theorem lowerCase_around (text behind : List Char) :
    lowerCase (text ++ numeral ++ behind) = lowerCase text ++ numeral ++ lowerCase behind := by
  obtain ⟨first, rest, rfl⟩ := List.exists_cons_of_ne_nil hne
  obtain ⟨hfirst, hrest⟩ := List.forall_mem_cons.mp hnumeral
  rw [List.append_assoc, List.cons_append,
    (isUncased_of_mem_separated hfirst).lowerCase_append,
    lowerCase_of_uncased fun c hc => isUncased_of_mem_separated (hrest c hc), List.append_assoc,
    List.cons_append]

theorem partHyphenated_around (text behind : List Char) :
    partHyphenated (text ++ numeral ++ behind) =
      partHyphenated text ++ numeral ++ partHyphenated behind := by
  obtain ⟨first, rest, rfl⟩ := List.exists_cons_of_ne_nil hne
  have hgap : ∀ c ∈ first :: rest, (!isLetter c) = true := fun c hc => by
    simp [not_isLetter_of_mem_separated (hnumeral c hc)]
  obtain ⟨hfirst, hrest⟩ := List.forall_mem_cons.mp hgap
  have hwritten : ∀ before behind, hyphenStep before first behind = [first] := by
    have hhyphen := (not_isLetter_of_mem_separated (hnumeral first List.mem_cons_self)).2
    simp [hyphenStep, hhyphen]
  have hparts := isParting_hyphenStep_of_letters.transduceInContext_append hfirst hwritten text
    (rest ++ behind)
  rw [isParting_hyphenStep_of_letters.transduceInContext_of_gaps hrest] at hparts
  rw [List.append_assoc, List.cons_append, List.append_assoc, List.cons_append]
  exact hparts

end

/-- Commas do not act across the border to a character that is no part of a
numeral. -/
theorem joinDigitGroups_around {text behind : List Char}
    (htext : ∀ c ∈ text.getLast?, isNumeralPart c = false)
    (hbehind : ∀ c ∈ behind.head?, isNumeralPart c = false) (numeral : List Char) :
    joinDigitGroups (text ++ numeral ++ behind) =
      joinDigitGroups text ++ joinDigitGroups numeral ++ joinDigitGroups behind := by
  have hgap : ∀ {c : Char}, isNumeralPart c = false →
      (!isDecimalDigit c) = true ∧ ∀ before rest, commaStep before c rest = [c] := by
    intro c hc
    obtain ⟨hdigit, hcomma⟩ := isNumeralPart_eq_false_iff.mp hc
    exact ⟨by rw [hdigit]; rfl, by simp [commaStep, hcomma]⟩
  have hparting := isParting_commaStep_of_digits
  have hlast := hparting.transduceInContext_append_of_last fun c hc => hgap (htext c hc)
  have hfirst := hparting.transduceInContext_append_of_first fun c hc => hgap (hbehind c hc)
  exact (hfirst (text ++ numeral)).trans (congrArg (· ++ _) (hlast numeral))

/-! ### Inside a numeral -/

theorem beginsWithGroup_separateThousands {digits : List Char}
    (hdigits : ∀ c ∈ digits, isDecimalDigit c) (hlength : digits.length % 3 = 0)
    (hne : digits ≠ []) : beginsWithGroup (separateThousands digits) := by
  match digits with
  | [] => exact absurd rfl hne
  | [_] => simp at hlength
  | [_, _] => simp at hlength
  | a :: b :: c :: rest =>
      have hb : ¬((b :: c :: rest).length % 3 = 0 ∧ b :: c :: rest ≠ []) := by
        simp only [List.length_cons] at hlength ⊢
        omega
      have hc : ¬((c :: rest).length % 3 = 0 ∧ c :: rest ≠ []) := by
        simp only [List.length_cons] at hlength ⊢
        omega
      simp only [List.forall_mem_cons] at hdigits
      rw [separateThousands, if_neg hb, separateThousands, if_neg hc, separateThousands]
      split <;> simp [beginsWithGroup, hdigits]

theorem ne_comma_of_isDecimalDigit {c : Char} (h : isDecimalDigit c) : c ≠ ',' := by
  rintro rfl
  revert h
  decide

theorem commaStep_digit {digit : Char} (hdigit : isDecimalDigit digit) (before : Option Char)
    (rest : List Char) : commaStep before digit rest = [digit] := by
  simp [commaStep, ne_comma_of_isDecimalDigit hdigit]

/-- Every comma of a numeral stands between a digit and a group, so all are
removed. -/
theorem joinDigitGroups_separateThousands {digits : List Char}
    (hdigits : ∀ c ∈ digits, isDecimalDigit c) :
    joinDigitGroups (separateThousands digits) = digits := by
  -- behind a removed comma the next digit has that comma before it, so for any character before
  have hall : ∀ before : Option Char,
      transduce (fun previous c rest => (some c, commaStep previous c rest)) before
        (separateThousands digits) = digits := by
    induction digits with
    | nil => exact fun _ => rfl
    | cons digit rest ih =>
        obtain ⟨hdigit, hrest⟩ := List.forall_mem_cons.mp hdigits
        intro before
        rw [separateThousands]
        split
        · rename_i hgroups
          have hcomma : commaStep (some digit) ',' (separateThousands rest) = [] := by
            rw [commaStep, beginsWithGroup_separateThousands hrest hgroups.1 hgroups.2,
              Option.any_some, hdigit]
            rfl
          rw [transduce_cons, transduce_cons, commaStep_digit hdigit, hcomma, ih hrest]
          rfl
        · rw [transduce_cons, commaStep_digit hdigit, ih hrest]
          rfl
  exact hall none

/-! ### Texts with a numeral -/

theorem isNumeralPart_lowerStep {c : Char} (hc : isNumeralPart c = false) (casedBefore : Bool)
    (rest : List Char) :
    ∀ small ∈ (lowerStep casedBefore c rest).2, isNumeralPart small = false := by
  refine forall_mem_lowerStep (fun _ => by decide) (fun _ => by decide) (fun _ _ => ?_) _ _
  obtain ⟨hdigit, hcomma⟩ := isNumeralPart_eq_false_iff.mp hc
  refine isNumeralPart_eq_false_iff.mpr ⟨isDecimalDigit_lowerCaseOf hdigit, fun hsmall => ?_⟩
  have hrange : (0x2C, 0x2C) ∈ CapitalRun.apartRanges := by decide
  have hcode : c.toNat ≠ ','.toNat := fun heq => hcomma (Char.toNat_inj.mp heq)
  have hapart := apart_lowerCaseOf hrange (Nat.lt_or_gt_of_ne hcode)
  rw [hsmall] at hapart
  exact absurd hapart (by decide)

theorem plainWords_around {numeral text behind : List Char} (hne : numeral ≠ [])
    (hnumeral : ∀ c ∈ numeral, c ∈ separated) (htext : ∀ c ∈ text.getLast?, isNumeralPart c = false)
    (hbehind : ∀ c ∈ behind.head?, isNumeralPart c = false) :
    plainWords (lowerCase (text ++ numeral ++ behind)) =
      words (joinDigitGroups (partHyphenated (lowerCase text)) ++ joinDigitGroups numeral ++
        joinDigitGroups (partHyphenated (lowerCase behind))) := by
  have hstep : ∀ c, isNumeralPart c = false → ∀ casedBefore rest,
      ∀ small ∈ (lowerStep casedBefore c rest).2, isNumeralPart small = false :=
    fun c hc => isNumeralPart_lowerStep hc
  have hlast : ∀ c ∈ (partHyphenated (lowerCase text)).getLast?, isNumeralPart c = false := by
    have hlower := forall_getLast?_transduce lowerStep_ne_nil hstep htext false
    rwa [← isParting_hyphenStep.getLast?_transduceInContext] at hlower
  have hfirst : ∀ c ∈ (partHyphenated (lowerCase behind)).head?, isNumeralPart c = false := by
    have hlower := forall_head?_transduce lowerStep_ne_nil hstep hbehind false
    rwa [← isParting_hyphenStep.head?_transduceInContext] at hlower
  rw [plainWords, lowerCase_around hne hnumeral, partHyphenated_around hne hnumeral,
    joinDigitGroups_around hlast hfirst]

/-- A numeral is read alike with and without commas between its groups of
digits, in any text in which neither a digit nor a comma stands next to it. -/
theorem tokenize_separateThousands {text behind : String} (n : ℕ)
    (htext : ∀ c ∈ text.toList.getLast?, isNumeralPart c = false)
    (hbehind : ∀ c ∈ behind.toList.head?, isNumeralPart c = false) :
    tokenize (text ++ String.ofList (separateThousands (Decimal.digitsOf n)) ++ behind) =
      tokenize (text ++ String.ofList (Decimal.digitsOf n) ++ behind) := by
  have hdigits : ∀ c ∈ Decimal.digitsOf n, c ∈ numerals := mem_numerals_of_mem_digitsOf
  have hdecimal : ∀ c ∈ Decimal.digitsOf n, isDecimalDigit c := fun c hc =>
    isDecimalDigit_of_mem_numerals (hdigits c hc)
  have hplain : ∀ c ∈ Decimal.digitsOf n, c ∈ separated := fun c hc =>
    List.mem_cons_of_mem _ (hdigits c hc)
  have hcomma : ',' ∉ Decimal.digitsOf n := fun hc =>
    ne_comma_of_isDecimalDigit (hdecimal ',' hc) rfl
  have hne : Decimal.digitsOf n ≠ [] := Nat.toDigits_ne_nil
  have hseparated : separateThousands (Decimal.digitsOf n) ≠ [] := by
    intro hnil
    have hjoined := joinDigitGroups_separateThousands hdecimal
    rw [hnil] at hjoined
    exact hne hjoined.symm
  simp only [tokenize, normalCharacters_eq, String.toList_append, String.toList_ofList]
  rw [plainWords_around hseparated (mem_separated_of_mem_separateThousands hdigits) htext hbehind,
    plainWords_around hne hplain htext hbehind, joinDigitGroups_separateThousands hdecimal,
    joinDigitGroups_eq_self hcomma]

/-- Other commas and digits may stand further away, and a point next to the
numeral. -/
theorem tokenize_separateThousands_decimal :
    let text := "1,000-fold, plus "
    let behind := ".250,5 times 2,000"
    (∀ c ∈ text.toList.getLast?, isNumeralPart c = false) ∧
      (∀ c ∈ behind.toList.head?, isNumeralPart c = false) ∧
      tokenize (text ++ "1,234,567" ++ behind) = tokenize (text ++ "1234567" ++ behind) := by
  intro text behind
  have hlast : text.toList.getLast? = some ' ' := by decide
  have hfirst : behind.toList.head? = some '.' := by decide
  have htext : ∀ c ∈ text.toList.getLast?, isNumeralPart c = false := by
    rw [hlast]
    rintro _ ⟨⟩
    decide
  have hbehind : ∀ c ∈ behind.toList.head?, isNumeralPart c = false := by
    rw [hfirst]
    rintro _ ⟨⟩
    decide
  exact ⟨htext, hbehind, tokenize_separateThousands 1234567 htext hbehind⟩

end SpokenCalculator.Phrase
