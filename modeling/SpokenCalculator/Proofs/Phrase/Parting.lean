import SpokenCalculator.Proofs.Phrase.Piece
import SpokenCalculator.Proofs.Phrase.Token
import SpokenCalculator.Proofs.Text.Parting

namespace SpokenCalculator.Phrase

open Text

/-! ### Hyphens and commas -/

def isGap (c : Char) : Bool := !isLetter c && !isDecimalDigit c

theorem isGap_iff {c : Char} : isGap c ↔ isLetter c = false ∧ isDecimalDigit c = false := by
  rw [isGap, Bool.and_eq_true, Bool.not_eq_true', Bool.not_eq_true']

def hyphenStep (before : Option Char) (c : Char) (rest : List Char) : List Char :=
  if c == '-' && before.any isLetter && nextIsLetter rest then [' '] else [c]

def commaStep (before : Option Char) (c : Char) (rest : List Char) : List Char :=
  if c == ',' && before.any isDecimalDigit && beginsWithGroup rest then [] else [c]

/-- Hyphens are removed between letters only. -/
theorem isParting_hyphenStep_of_letters : IsParting hyphenStep (! isLetter ·) where
  ahead {gap} hgap before c rest behind := by
    rw [Bool.not_eq_true'] at hgap
    have hnext : nextIsLetter (rest ++ gap :: behind) = nextIsLetter rest := by
      cases rest with
      | nil => exact hgap
      | cons d rest => rfl
    rw [hyphenStep, hyphenStep, hnext]
  behind {gap} hgap := by
    rw [Bool.not_eq_true'] at hgap
    funext c rest
    rw [hyphenStep, hyphenStep, Option.any_some, hgap]
    rfl
  first c rest := by simp [hyphenStep]
  last before c := by simp [hyphenStep, nextIsLetter]

theorem isParting_hyphenStep : IsParting hyphenStep isGap :=
  isParting_hyphenStep_of_letters.mono fun c hgap => by simp [(isGap_iff.mp hgap).1]

theorem beginsWithGroup_append_gap {gap : Char} (hgap : isDecimalDigit gap = false)
    (rest behind : List Char) : beginsWithGroup (rest ++ gap :: behind) = beginsWithGroup rest := by
  rcases rest with _ | ⟨a, _ | ⟨b, _ | ⟨c, rest⟩⟩⟩
  · simp [beginsWithGroup, hgap]
  · simp [beginsWithGroup, hgap]
  · simp [beginsWithGroup, hgap]
  · rfl

/-- Commas are removed between digits only. -/
theorem isParting_commaStep_of_digits : IsParting commaStep (! isDecimalDigit ·) where
  ahead {gap} hgap before c rest behind := by
    rw [Bool.not_eq_true'] at hgap
    rw [commaStep, commaStep, beginsWithGroup_append_gap hgap]
  behind {gap} hgap := by
    rw [Bool.not_eq_true'] at hgap
    funext c rest
    rw [commaStep, commaStep, Option.any_some, hgap]
    rfl
  first c rest := by simp [commaStep]
  last before c := by simp [commaStep, beginsWithGroup]

theorem isParting_commaStep : IsParting commaStep isGap :=
  isParting_commaStep_of_digits.mono fun c hgap => by simp [(isGap_iff.mp hgap).2]

theorem isGap_of_isBlank {c : Char} (h : isBlank c) : isGap c := by
  rw [isGap_iff]
  constructor
  · rw [← Bool.not_eq_true]
    intro hletter
    rw [isBlank_of_isLetter hletter] at h
    cases h
  · rw [← Bool.not_eq_true]
    intro hdigit
    have hblanks : blankRanges.all fun range =>
        decimalZeros.all fun first => decide (range.2 < first ∨ first + 9 < range.1) := by decide
    obtain ⟨range, hrange, hcode⟩ := exists_range_of_coveredBy h
    obtain ⟨first, hfirst, hvalue⟩ :
        ∃ first ∈ decimalZeros, first ≤ c.toNat ∧ c.toNat < first + 10 := by
      rw [isDecimalDigit, digitValue?, Option.isSome_map, List.find?_isSome] at hdigit
      simpa using hdigit
    have hapart := List.all_eq_true.mp (List.all_eq_true.mp hblanks range hrange) first hfirst
    rw [decide_eq_true_eq] at hapart
    omega

/-- The words of a text in lower case, once hyphens and commas are removed. -/
def plainWords (text : List Char) : List (List Char) :=
  words (joinDigitGroups (partHyphenated text))

theorem plainWords_append_blank {blank : Char} (hblank : isBlank blank) (text behind : List Char) :
    plainWords (text ++ blank :: behind) = plainWords text ++ plainWords behind := by
  have hgap := isGap_of_isBlank hblank
  have hmark : ∀ mark, isBlank mark = false → (blank == mark) = false := by
    intro mark hmark
    rw [beq_eq_false_iff_ne]
    rintro rfl
    rw [hblank] at hmark
    cases hmark
  have hhyphens := isParting_hyphenStep.transduceInContext_append hgap
    (fun before rest => by rw [hyphenStep, hmark '-' (by decide)]; rfl) text behind
  have hcommas := isParting_commaStep.transduceInContext_append hgap
    (fun before rest => by rw [commaStep, hmark ',' (by decide)]; rfl)
    (partHyphenated text) (partHyphenated behind)
  have hparted : partHyphenated (text ++ blank :: behind) =
      partHyphenated text ++ blank :: partHyphenated behind := hhyphens
  have hjoined : joinDigitGroups (partHyphenated text ++ blank :: partHyphenated behind) =
      joinDigitGroups (partHyphenated text) ++ blank :: joinDigitGroups (partHyphenated behind) :=
    hcommas
  rw [plainWords, hparted, hjoined, words_append_blank hblank]
  rfl

theorem normalCharacters_eq (text : List Char) :
    normalCharacters text = replaceExpressions (joinWords (plainWords (lowerCase text))) := rfl

/-! ### Expressions -/

theorem isWordCharacter_ends {expression : String × String} (h : expression ∈ expressions) :
    expression.1.toList.head?.any isWordCharacter ∧
      expression.1.toList.getLast?.any isWordCharacter := by
  have hall : ∀ expression ∈ expressions, expression.1.toList.head?.any isWordCharacter ∧
      expression.1.toList.getLast?.any isWordCharacter := by
    decide +kernel
  exact hall expression h

theorem replaceExpressions_comm (change : List Char → List Char)
    (h : ∀ expression ∈ expressions, ∀ text,
      replaceWhole expression.1.toList expression.2.toList (change text) =
        change (replaceWhole expression.1.toList expression.2.toList text))
    (text : List Char) : replaceExpressions (change text) = change (replaceExpressions text) := by
  have hall : ∀ pairs : List (String × String), (∀ pair ∈ pairs, pair ∈ expressions) → ∀ text,
      let replaced := fun text : List Char => pairs.foldl
        (fun text pair => replaceWhole pair.1.toList pair.2.toList text) text
      replaced (change text) = change (replaced text) := by
    intro pairs hpairs
    induction pairs with
    | nil => exact fun _ => rfl
    | cons pair others ih =>
        obtain ⟨hpair, hothers⟩ := List.forall_mem_cons.mp hpairs
        intro text replaced
        simp only [replaced, List.foldl_cons, h pair hpair]
        exact ih hothers _
  exact hall expressions (fun _ hmem => hmem) text

section

variable {gaps : List Char} (hgaps : ∀ c ∈ gaps, isWordCharacter c = false)

include hgaps

theorem replaceExpressions_of_gaps (text : List Char) :
    replaceExpressions (gaps ++ text) = gaps ++ replaceExpressions text :=
  replaceExpressions_comm (gaps ++ ·) (fun _ hexpression =>
    replaceWhole_of_gaps hgaps (isWordCharacter_ends hexpression).1 _) text

theorem replaceExpressions_append_gaps (text : List Char) :
    replaceExpressions (text ++ gaps) = replaceExpressions text ++ gaps :=
  replaceExpressions_comm (· ++ gaps) (fun _ hexpression =>
    replaceWhole_append_gaps hgaps (isWordCharacter_ends hexpression).1
      (isWordCharacter_ends hexpression).2 _) text

end

/-! ### Tokens -/

/-- No token goes on in what stands behind it, and no point of a numeral does. -/
structure Closes (behind : List Char) : Prop where
  first : ∀ c ∈ behind.head?, isDecimalDigit c = false ∧ isWordPart c = false
  point : ∀ rest, behind = '.' :: rest → ∀ c ∈ rest.head?, isDecimalDigit c = false

theorem Stops.closes {behind : List Char} (h : Stops behind) : Closes behind := by
  rcases h with rfl | ⟨rest, rfl⟩
  · exact ⟨nofun, nofun⟩
  · refine ⟨?_, fun rest hpoint => ?_⟩
    · rintro _ ⟨⟩
      exact ⟨by decide, by decide⟩
    · cases hpoint

section

variable {behind : List Char}

theorem takeWhile_append_closed {isPart : Char → Bool}
    (hfirst : ∀ c ∈ behind.head?, isPart c = false) (text : List Char) :
    (text ++ behind).takeWhile isPart = text.takeWhile isPart ∧
      (text ++ behind).dropWhile isPart = text.dropWhile isPart ++ behind := by
  induction text with
  | nil =>
      cases behind with
      | nil => exact ⟨rfl, rfl⟩
      | cons c rest => simp [hfirst c rfl]
  | cons c rest ih =>
      by_cases hpart : isPart c
      · simp [hpart, ih]
      · simp [hpart]

theorem takeNumeral_append (h : Closes behind) (text : List Char) :
    takeNumeral (text ++ behind) = ((takeNumeral text).1, (takeNumeral text).2 ++ behind) := by
  have hdigits := takeWhile_append_closed fun c hc => (h.first c hc).1
  simp only [takeNumeral, Decimal.spanDigits, hdigits]
  cases hrest : text.dropWhile isDecimalDigit with
  | nil =>
      rw [List.nil_append]
      dsimp only
      split
      · rename_i fraction
        have hnone : fraction.takeWhile isDecimalDigit = [] := by
          have hpoint := h.point fraction rfl
          cases fraction with
          | nil => rfl
          | cons c rest => simp [hpoint c rfl]
        rw [hnone]
        rfl
      · rfl
  | cons c rest =>
      rw [List.cons_append]
      by_cases hpoint : c = '.'
      · subst hpoint
        simp only [hdigits]
        by_cases hnone : (rest.takeWhile isDecimalDigit).isEmpty
        · simp only [hnone, if_true, List.cons_append]
        · simp only [hnone, if_false, Bool.false_eq_true]
      · simp [hpoint]

theorem tokenAt?_append (h : Closes behind) (c : Char) (rest : List Char) :
    tokenAt? c (rest ++ behind) =
      (tokenAt? c rest).map fun (token, left) => (token, left ++ behind) := by
  have hword := takeWhile_append_closed (fun c hc => (h.first c hc).2) (c :: rest)
  have hnumeral := takeNumeral_append h (c :: rest)
  rw [List.cons_append] at hword hnumeral
  unfold tokenAt?
  rw [hnumeral, takeWord, takeWord, hword.1, hword.2]
  split
  · rfl
  · split
    · rfl
    · split <;> rfl

/-- A text is read token by token, and characters between the tokens are passed
over. -/
theorem tokens_induction {motive : List Char → Prop} (nil : motive [])
    (token : ∀ {c rest token left}, tokenAt? c rest = some (token, left) → motive left →
      motive (c :: rest))
    (skip : ∀ {c rest}, tokenAt? c rest = none → motive rest → motive (c :: rest))
    (text : List Char) : motive text := by
  have hall : ∀ (found : List Token) (text : List Char), motive text := by
    intro found text
    induction found, text using tokensAfter.induct with
    | case1 => exact nil
    | case2 found c rest next behind htoken ih => exact token htoken ih
    | case3 found c rest hnone ih => exact skip hnone ih
  exact hall [] text

theorem tokensAfter_of_none {c : Char} {rest : List Char} (h : tokenAt? c rest = none)
    (found : List Token) : tokensAfter found (c :: rest) = tokensAfter found rest := by
  rw [tokensAfter]
  split
  · rename_i hsome
    cases h.symm.trans hsome
  · rfl

theorem tokensOf_nil : tokensOf [] = [] := by
  rw [tokensOf, tokensAfter]
  rfl

theorem tokensAfter_eq (found : List Token) (text : List Char) :
    tokensAfter found text = found.reverse ++ tokensOf text := by
  refine tokens_induction (motive := fun text => ∀ found : List Token,
    tokensAfter found text = found.reverse ++ tokensOf text) ?_ ?_ ?_ text found
  · intro found
    rw [tokensAfter, tokensOf_nil, List.append_nil]
  · intro c rest token left htoken ih found
    rw [tokensOf, tokensAfter_of_tokenAt? htoken, tokensAfter_of_tokenAt? htoken,
      ih (token :: found), ih [token], List.reverse_cons, List.append_assoc]
    rfl
  · intro c rest hnone ih found
    rw [tokensOf, tokensAfter_of_none hnone, tokensAfter_of_none hnone, ih found, ih []]
    rfl

theorem tokensOf_cons_of_tokenAt? {c : Char} {rest left : List Char} {token : Token}
    (h : tokenAt? c rest = some (token, left)) : tokensOf (c :: rest) = token :: tokensOf left := by
  rw [tokensOf, tokensAfter_of_tokenAt? h, tokensAfter_eq]
  rfl

theorem tokensOf_append (h : Closes behind) (text : List Char) :
    tokensOf (text ++ behind) = tokensOf text ++ tokensOf behind := by
  refine tokens_induction (motive := fun text =>
    tokensOf (text ++ behind) = tokensOf text ++ tokensOf behind) ?_ ?_ ?_ text
  · rw [tokensOf_nil, List.nil_append, List.nil_append]
  · intro c rest token left htoken ih
    have hafter := tokenAt?_append h c rest
    rw [htoken] at hafter
    rw [List.cons_append, tokensOf_cons_of_tokenAt? htoken, tokensOf_cons_of_tokenAt? hafter, ih,
      List.cons_append]
  · intro c rest hnone ih
    have hafter := tokenAt?_append h c rest
    rw [hnone] at hafter
    rw [List.cons_append, tokensOf, tokensAfter_of_none hafter, tokensOf,
      tokensAfter_of_none hnone]
    exact ih

end

theorem tokensOf_space (rest : List Char) : tokensOf (' ' :: rest) = tokensOf rest :=
  tokensAfter_space [] rest

/-! ### Pieces -/

theorem goesOnWithNumber_eq_false {token : Token} (h : ∀ word, token.meaning ≠ .spoken word)
    (behind : List Token) : goesOnWithNumber (token :: behind) = false := by
  cases token with
  | numeral => rfl
  | sign => rfl
  | word letters =>
      rw [← Bool.not_eq_true]
      intro hnumber
      refine h (String.ofList letters) ?_
      change isNumberWord (String.ofList letters) = true at hnumber
      change wordMeaning (String.ofList letters) = .spoken (String.ofList letters)
      rw [wordMeaning, hnumber]
      rfl

/-- A token that ends a run parts the pieces. -/
theorem piecesAfter_append_parting {parting : Token} (h : parting.meaning.EndsRun)
    (found : List Piece) (run : List String) (tokens behind : List Token) :
    piecesAfter found run (tokens ++ parting :: behind) =
      piecesAfter found run tokens ++ (parting.meaning.ownPieces.reverse ++ piecesOf behind) := by
  induction tokens generalizing found run with
  | nil =>
      rw [List.nil_append, piecesAfter_of_endsRun h, piecesAfter_eq, List.reverse_append,
        piecesAfter, List.append_assoc]
      rfl
  | cons token rest ih =>
      have hahead : goesOnWithNumber (rest ++ parting :: behind) = goesOnWithNumber rest := by
        cases rest with
        | nil => exact goesOnWithNumber_eq_false h.ne_spoken behind
        | cons next rest => cases next <;> rfl
      rw [List.cons_append, piecesAfter_cons, piecesAfter_cons, hahead, ih]

theorem piecesOf_append_filler {word : Token} (hfiller : word.meaning = .filler)
    (tokens behind : List Token) :
    piecesOf (tokens ++ word :: behind) = piecesOf tokens ++ piecesOf behind := by
  have hends : word.meaning.EndsRun := hfiller ▸ trivial
  have hparted := piecesAfter_append_parting hends [] [] tokens behind
  rwa [hfiller] at hparted

end SpokenCalculator.Phrase
