import SpokenCalculator.Proofs.Decimal.Value
import SpokenCalculator.Proofs.Phrase.Numeral
import SpokenCalculator.Proofs.Phrase.Piece
import SpokenCalculator.Proofs.Phrase.Resolved
import SpokenCalculator.Proofs.Phrase.Sign

namespace SpokenCalculator

/-! ### Plain digits -/

theorem mem_numerals_of_mem_digitsOf {n : ℕ} : ∀ c ∈ Decimal.digitsOf n, c ∈ Phrase.numerals := by
  have hdigit : ∀ digit < 10, Nat.digitChar digit ∈ Phrase.numerals := by decide
  induction n using Nat.strong_induction_on with
  | _ n ih =>
      unfold Decimal.digitsOf at ih ⊢
      rw [Nat.toDigits_eq_if (by norm_num)]
      split
      · rw [List.forall_mem_singleton]
        exact hdigit n ‹_›
      · rw [List.forall_mem_append, List.forall_mem_singleton]
        exact ⟨ih (n / 10) (by omega), hdigit (n % 10) (Nat.mod_lt n (by norm_num))⟩

theorem length_digitsOf (n : ℕ) : (Decimal.digitsOf n).length = digitCount n := by
  have hcount : 0 < digitCount n := by
    rw [digitCount_eq]
    omega
  have hlength : 0 < (Decimal.digitsOf n).length := Nat.length_toDigits_pos
  refine Nat.le_antisymm ?_ ?_
  · exact (Nat.length_toDigits_le_iff (by norm_num) hcount).2 (lt_pow_digitCount n)
  · exact digitCount_le_of_lt hlength
      ((Nat.length_toDigits_le_iff (by norm_num) hlength).1 (Nat.le_refl _))

namespace Decimal

variable {coefficient places : ℕ}

/-- The digits of a number that has the given places behind the point, with
zeros in front as far as needed. -/
def paddedDigits (coefficient places : ℕ) : List Char :=
  List.replicate (places + 1 - (digitsOf coefficient).length) '0' ++ digitsOf coefficient

def wholeDigits (coefficient places : ℕ) : List Char :=
  (paddedDigits coefficient places).take ((paddedDigits coefficient places).length - places)

def fractionDigits (coefficient places : ℕ) : List Char :=
  (paddedDigits coefficient places).drop ((paddedDigits coefficient places).length - places)

theorem lt_length_paddedDigits (coefficient places : ℕ) :
    places < (paddedDigits coefficient places).length := by
  rw [paddedDigits, List.length_append, List.length_replicate]
  omega

theorem mem_numerals_of_mem_paddedDigits :
    ∀ c ∈ paddedDigits coefficient places, c ∈ Phrase.numerals := by
  rw [paddedDigits, List.forall_mem_append]
  refine ⟨fun c hc => ?_, mem_numerals_of_mem_digitsOf⟩
  rw [List.eq_of_mem_replicate hc]
  decide

theorem mem_numerals_of_mem_digits (coefficient places : ℕ) :
    (∀ c ∈ wholeDigits coefficient places, c ∈ Phrase.numerals) ∧
      ∀ c ∈ fractionDigits coefficient places, c ∈ Phrase.numerals :=
  ⟨fun c hc => mem_numerals_of_mem_paddedDigits c (List.mem_of_mem_take hc),
    fun c hc => mem_numerals_of_mem_paddedDigits c (List.mem_of_mem_drop hc)⟩

theorem wholeDigits_ne_nil (coefficient places : ℕ) : wholeDigits coefficient places ≠ [] := by
  have hlength := lt_length_paddedDigits coefficient places
  rw [← List.length_pos_iff, wholeDigits, List.length_take]
  omega

theorem length_fractionDigits (coefficient places : ℕ) :
    (fractionDigits coefficient places).length = places := by
  have hlength := lt_length_paddedDigits coefficient places
  rw [fractionDigits, List.length_drop]
  omega

theorem pointBefore_digitsOf (coefficient places : ℕ) :
    pointBefore (digitsOf coefficient) places =
      if places = 0 then wholeDigits coefficient places
      else wholeDigits coefficient places ++ '.' :: fractionDigits coefficient places := rfl

/-- The digits around the point give the coefficient and its places back. -/
theorem ofParts_digits (coefficient places : ℕ) :
    ofParts false (wholeDigits coefficient places) (fractionDigits coefficient places) 0 =
      .finite false coefficient (-places) := by
  have hzeros : ∀ count, digitValues (List.replicate count '0') = List.replicate count 0 := by
    have hzero : Text.digitValue? '0' = some 0 := by decide
    intro count
    simp [digitValues, hzero]
  have hvalue : digitsValue (digitValues (paddedDigits coefficient places)) = coefficient := by
    rw [paddedDigits, digitValues, List.filterMap_append, ← digitValues, hzeros,
      digitsValue_append, digitsValue_replicate_zero, Nat.zero_mul, Nat.zero_add]
    exact digitsValue_digitRow coefficient
  rw [ofParts, length_fractionDigits, wholeDigits, fractionDigits, List.take_append_drop, hvalue,
    zero_sub]

/-- A number that is read back as it is written: it is written without a power
of ten, and the sign of a negative one can be changed without rounding. -/
def Legible : Decimal → Prop
  | .finite negative coefficient exponent =>
      exponent ≤ 0 ∧ -6 ≤ leadingExponent coefficient exponent ∧
        (negative → coefficient ≠ 0 ∧ digitCount coefficient ≤ Context.standard.precision)
  | _ => False

instance : DecidablePred Legible
  | .finite .. => inferInstanceAs (Decidable (_ ∧ _))
  | .infinite _ => inferInstanceAs (Decidable False)
  | .notNumber .. => inferInstanceAs (Decidable False)

theorem negate_of_legible {exponent : ℤ} (h : Legible (.finite true coefficient exponent)) :
    Context.standard.negate (.finite false coefficient exponent) =
      .ok (.finite true coefficient exponent) := by
  obtain ⟨hexponent, hleading, hnegative⟩ := h
  obtain ⟨hne, hcount⟩ := hnegative rfl
  unfold leadingExponent at hleading
  have hprecision : Context.standard.precision = 28 := rfl
  have hleast : Context.standard.leastPlace = -1000026 := rfl
  have hmost : Context.standard.maxExponent = 999999 := rfl
  rw [Context.negate, Context.round, if_neg hne, Context.roundingPlace]
  dsimp only
  rw [if_neg (by omega), Context.bounded, if_neg]
  · simp [hne]
  · unfold leadingExponent
    omega

end Decimal

namespace Phrase

open Decimal

/-! ### The items of tokens that stand for themselves -/

def Item.meaning : Item → Meaning
  | .number value => .number value
  | .operator sign => .operator sign
  | .keyword word => .keyword word

def Item.piece : Item → Piece
  | .number value => .number value
  | .operator sign => .operator sign
  | .keyword word => .keyword word

/-- Tokens that mean one item each, and fillers between them. -/
inductive Reads : List Token → List Item → Prop
  | nil : Reads [] []
  | item {token : Token} {tokens : List Token} {items : List Item} (item : Item)
      (hmeaning : token.meaning = item.meaning) (hrest : Reads tokens items) :
      Reads (token :: tokens) (item :: items)
  | filler {token : Token} {tokens : List Token} {items : List Item}
      (hmeaning : token.meaning = .filler) (hrest : Reads tokens items) :
      Reads (token :: tokens) items

theorem Reads.append {tokens others : List Token} {items behind : List Item}
    (h : Reads tokens items) (hothers : Reads others behind) :
    Reads (tokens ++ others) (items ++ behind) := by
  induction h with
  | nil => exact hothers
  | item item hmeaning _ ih => exact .item item hmeaning ih
  | filler hmeaning _ ih => exact .filler hmeaning ih

theorem Reads.piecesAfter_eq {tokens : List Token} {items : List Item} (h : Reads tokens items)
    (found : List Piece) :
    piecesAfter found [] tokens = found.reverse ++ items.map Item.piece := by
  induction h generalizing found with
  | nil => simp [piecesAfter, closeRun]
  | item item hmeaning _ ih =>
      rw [piecesAfter_cons, hmeaning]
      cases item <;> simp [Item.meaning, Item.piece, Meaning.goOn, Meaning.ownPieces, closeRun, ih]
  | filler hmeaning _ ih =>
      rw [piecesAfter_cons, hmeaning]
      exact ih found

theorem itemsOf_of_reads {tokens : List Token} {items : List Item} (h : Reads tokens items) :
    itemsOf tokens = .ok items := by
  have hfold : ∀ found, (items.map Item.piece).foldlM ItemState.piece ⟨found, false⟩ =
      .ok ⟨items.reverse ++ found, false⟩ := by
    clear h
    induction items with
    | nil => exact fun _ => rfl
    | cons item rest ih =>
        intro found
        have hpiece : ItemState.piece ⟨found, false⟩ item.piece = .ok ⟨item :: found, false⟩ := by
          cases item <;> rfl
        rw [List.map_cons, List.foldlM_cons, hpiece, List.reverse_cons, List.append_assoc]
        exact ih (item :: found)
  rw [itemsOf, piecesOf, h.piecesAfter_eq, List.reverse_nil, List.nil_append, itemsOfPieces, hfold]
  simp [bind, Except.bind, pure, Except.pure]

/-! ### Operands -/

/-- The items of a number: the number itself, or a minus and the number without
its sign. -/
inductive Denotes : List Item → Decimal → Prop
  | plain (value : Decimal) : Denotes [.number value] value
  | negative {value negated : Decimal} (h : Context.standard.negate value = .ok negated) :
      Denotes [.operator .subtract, .number value] negated

/-- Behind an operator the minus of an operand is its sign. -/
theorem Denotes.resolveAfter_eq {items : List Item} {value : Decimal} (h : Denotes items value)
    (read : List Item) (operator : Operator) :
    resolveAfter (.operator operator :: read) items =
      .ok (read.reverse ++ [.operator operator, .number value]) := by
  cases h with
  | plain => simp [resolveAfter]
  | negative hnegate =>
      rename_i magnitude
      have hsigned : applySign true magnitude = .ok value := hnegate
      have hsign : isSign (.operator operator :: read) [] = true := rfl
      simp [resolveAfter, signOf?, hsign, hsigned]

/-- In front of an operator the minus of an operand is its sign, and the
operator is none. -/
theorem Denotes.resolveAfter_append {items : List Item} {value : Decimal} (h : Denotes items value)
    (operator : Operator) (behind : List Item) :
    resolveAfter [] (items ++ .operator operator :: behind) =
      resolveAfter [.operator operator, .number value] behind := by
  cases h with
  | plain =>
      have hfree : OperatorFree [.number value] := List.forall_mem_singleton.2 rfl
      rw [resolveAfter_of_operatorFree hfree]
      exact resolveAfter_operator fun _ _ _ _ => isSign_of_operatorFree hfree _
  | negative hnegate =>
      have hnone : OperatorFree [] := List.forall_mem_nil _
      exact resolveAfter_leading hnone hnone (rfl : signOf? .subtract = some true) hnegate operator
        rfl

theorem Denotes.resolveSigns_compute {lhsItems rhsItems : List Item} {lhs rhs : Decimal}
    (hlhs : Denotes lhsItems lhs) (hrhs : Denotes rhsItems rhs) (operator : Operator) :
    resolveSigns (lhsItems ++ .operator operator :: rhsItems) =
      .ok [.number lhs, .operator operator, .number rhs] := by
  rw [resolveSigns, hlhs.resolveAfter_append, hrhs.resolveAfter_eq]
  rfl

/-- The operator in front of the only operand is no sign. -/
theorem Denotes.resolveSigns_apply {items : List Item} {value : Decimal} (h : Denotes items value)
    (operator : Operator) :
    resolveSigns (.operator operator :: items) = .ok [.operator operator, .number value] := by
  have hoperator : resolveAfter [] (.operator operator :: items) =
      resolveAfter [.operator operator] items := by
    refine resolveAfter_operator fun other rest hitems _ => ?_
    cases h <;> cases hitems
    rfl
  rw [resolveSigns, hoperator, h.resolveAfter_eq]
  rfl

def plainNumeral (coefficient places : ℕ) : Token :=
  .numeral (wholeDigits coefficient places) (fractionDigits coefficient places)

theorem characters_plainNumeral (coefficient places : ℕ) :
    (plainNumeral coefficient places).characters =
      pointBefore (digitsOf coefficient) places := by
  have hlength := length_fractionDigits coefficient places
  rw [plainNumeral, pointBefore_digitsOf]
  cases hfraction : fractionDigits coefficient places with
  | nil =>
      rw [hfraction, List.length_nil] at hlength
      rw [if_pos hlength.symm, Token.characters]
  | cons digit rest =>
      rw [hfraction, List.length_cons] at hlength
      rw [if_neg (by omega)]
      rfl

theorem characters_of_legible {negative : Bool} {coefficient places : ℕ}
    (h : Legible (.finite negative coefficient (-places))) :
    characters (.finite negative coefficient (-places)) =
      signCharacters negative ++ (plainNumeral coefficient places).characters := by
  have hplain : -(places : ℤ) ≤ 0 ∧ -6 ≤ -(places : ℤ) + (digitsOf coefficient).length - 1 := by
    rw [length_digitsOf]
    exact ⟨h.1, h.2.1⟩
  have hplaces : (- -(places : ℤ)).toNat = places := by omega
  simp only [characters, if_pos hplain, hplaces, characters_plainNumeral]

theorem plainNumeral_figures (coefficient places : ℕ) :
    (plainNumeral coefficient places).characters ≠ [] ∧
      ∀ c ∈ (plainNumeral coefficient places).characters, c ∈ figures := by
  obtain ⟨hwhole, hfraction⟩ := mem_numerals_of_mem_digits coefficient places
  have hne := wholeDigits_ne_nil coefficient places
  rw [characters_plainNumeral, pointBefore_digitsOf]
  split
  · exact ⟨hne, fun c hc => mem_figures_of_mem_numerals (hwhole c hc)⟩
  · refine ⟨List.append_ne_nil_of_left_ne_nil hne _, ?_⟩
    rw [List.forall_mem_append, List.forall_mem_cons]
    exact ⟨fun c hc => mem_figures_of_mem_numerals (hwhole c hc), by decide,
      fun c hc => mem_figures_of_mem_numerals (hfraction c hc)⟩

theorem lexes_plainNumeral (coefficient places : ℕ) :
    Lexes (plainNumeral coefficient places).characters [plainNumeral coefficient places] := by
  obtain ⟨hwhole, hfraction⟩ := mem_numerals_of_mem_digits coefficient places
  exact lexes_numeral (wholeDigits_ne_nil coefficient places)
    (fun c hc => isDecimalDigit_of_mem_numerals (hwhole c hc))
    (fun c hc => isDecimalDigit_of_mem_numerals (hfraction c hc))

theorem reads_plainNumeral (coefficient places : ℕ) :
    Reads [plainNumeral coefficient places] [.number (.finite false coefficient (-places))] :=
  .item (.number _) (congrArg Meaning.number (ofParts_digits coefficient places)) .nil

/-- How a part of a text is heard: in normal form, as tokens that mean the given
items. -/
structure IsHeardAs (part : List Char) (tokens : List Token) (items : List Item) : Prop where
  isNormal : IsNormal part
  lexes : Lexes part tokens
  reads : Reads tokens items

/-- A number that is written plainly is heard as its items. -/
theorem exists_isHeardAs {x : Decimal} (h : x.Legible) :
    ∃ tokens items, IsHeardAs x.characters tokens items ∧ Denotes items x := by
  cases x with
  | infinite negative => exact h.elim
  | notNumber negative signaling payload => exact h.elim
  | finite negative coefficient exponent =>
      have hexponent : exponent ≤ 0 := h.1
      obtain ⟨places, rfl⟩ : ∃ places : ℕ, exponent = -places := ⟨(-exponent).toNat, by omega⟩
      obtain ⟨hne, hfigures⟩ := plainNumeral_figures coefficient places
      have hlexes := lexes_plainNumeral coefficient places
      have hreads := reads_plainNumeral coefficient places
      rw [characters_of_legible h]
      cases negative with
      | false => exact ⟨_, _, ⟨isNormal_of_figures hne hfigures, hlexes, hreads⟩, .plain _⟩
      | true =>
          have hminus : ∀ c ∈ '-' :: (plainNumeral coefficient places).characters, c ∈ figures :=
            List.forall_mem_cons.2 ⟨by decide, hfigures⟩
          exact ⟨_, _, ⟨isNormal_of_figures (List.cons_ne_nil _ _) hminus, hlexes.sign (by decide),
            .item (.operator .subtract) rfl hreads⟩, .negative (negate_of_legible h)⟩

/-- The sign of an operator between spaces is heard as this operator. -/
theorem exists_isHeardAs_mark (operator : Operator) :
    ∃ tokens, IsHeardAs operator.mark.toList tokens [.operator operator] := by
  have hmark : ∃ mark, operator.mark.toList = [mark] ∧ mark ∈ signMarks ∧ mark ∈ figures ∧
      (Token.sign mark).meaning = .operator operator := by
    cases operator <;> exact ⟨_, rfl, by decide, by decide, rfl⟩
  obtain ⟨mark, hsingle, hsign, hfigure, hmeaning⟩ := hmark
  rw [hsingle]
  exact ⟨_, isNormal_of_figures (List.cons_ne_nil _ _) (List.forall_mem_singleton.2 hfigure),
    lexes_nil.sign hsign, .item (.operator operator) hmeaning .nil⟩

theorem isHeardAs_memory : IsHeardAs "memory".toList [.word "memory".toList] [] := by
  have hword : IsSimple "memory".toList := by decide
  exact ⟨hword.isNormal, lexes_word hword.ne_nil hword.letters, .filler rfl .nil⟩

theorem itemsOf_tokenize_three {first second third : List Char}
    {firstTokens secondTokens thirdTokens : List Token}
    {firstItems secondItems thirdItems : List Item}
    (hfirst : IsHeardAs first firstTokens firstItems)
    (hsecond : IsHeardAs second secondTokens secondItems)
    (hthird : IsHeardAs third thirdTokens thirdItems) :
    itemsOf (tokenize (String.ofList (Text.joinWords [first, second, third]))) =
      .ok (firstItems ++ secondItems ++ thirdItems) := by
  have hnormal : ∀ part ∈ [first, second, third], IsNormal part := by
    rw [List.forall_mem_cons, List.forall_mem_cons, List.forall_mem_singleton]
    exact ⟨hfirst.isNormal, hsecond.isNormal, hthird.isNormal⟩
  rw [tokenize_joinWords hnormal (.cons hfirst.lexes (.cons hsecond.lexes (.cons hthird.lexes
    .nil)))]
  refine itemsOf_of_reads ?_
  rw [List.flatten_cons, List.flatten_cons, List.flatten_cons, List.flatten_nil, List.append_nil,
    ← List.append_assoc]
  exact (hfirst.reads.append hsecond.reads).append hthird.reads

end Phrase

namespace Command

open Phrase

/-- A command of legible numbers, or one that needs no number. -/
def Legible : Command → Prop
  | .compute lhs _ rhs => lhs.Legible ∧ rhs.Legible
  | .apply _ rhs => rhs.Legible
  | .recall => True
  | .clear => True
  | .unrecognized _ => False

instance : DecidablePred Legible
  | .compute .. => inferInstanceAs (Decidable (_ ∧ _))
  | .apply _ rhs => inferInstanceAs (Decidable rhs.Legible)
  | .recall => inferInstanceAs (Decidable True)
  | .clear => inferInstanceAs (Decidable True)
  | .unrecognized _ => inferInstanceAs (Decidable False)

theorem text_compute (lhs : Decimal) (operator : Operator) (rhs : Decimal) :
    (compute lhs operator rhs).text =
      String.ofList (Text.joinWords [lhs.characters, operator.mark.toList, rhs.characters]) := by
  refine String.toList_injective ?_
  rw [Text.joinWords_cons_cons, Text.joinWords_cons_cons]
  simp [text, Decimal.text, Text.joinWords, toString]

theorem text_apply (operator : Operator) (rhs : Decimal) :
    (apply operator rhs).text =
      String.ofList (Text.joinWords ["memory".toList, operator.mark.toList, rhs.characters]) := by
  refine String.toList_injective ?_
  rw [Text.joinWords_cons_cons, Text.joinWords_cons_cons]
  simp [text, Decimal.text, Text.joinWords, toString]

/-- The text of a legible command is read as this command, with the digits and
places of its numbers as they were. -/
theorem parse_text {command : Command} (h : command.Legible) :
    parse command.text = .ok command := by
  cases command with
  | compute lhs operator rhs =>
      obtain ⟨_, _, hlhs, hleft⟩ := exists_isHeardAs h.1
      obtain ⟨_, _, hrhs, hright⟩ := exists_isHeardAs h.2
      obtain ⟨_, hmark⟩ := exists_isHeardAs_mark operator
      have hitems := itemsOf_tokenize_three hlhs hmark hrhs
      rw [← text_compute, List.append_assoc] at hitems
      exact parse_of_items hitems (hleft.resolveSigns_compute hright operator)
  | apply operator rhs =>
      obtain ⟨_, _, hrhs, hright⟩ := exists_isHeardAs h
      obtain ⟨_, hmark⟩ := exists_isHeardAs_mark operator
      have hitems := itemsOf_tokenize_three isHeardAs_memory hmark hrhs
      rw [← text_apply] at hitems
      exact parse_of_items hitems (hright.resolveSigns_apply operator)
  | «recall» => decide +kernel
  | clear => decide +kernel
  | unrecognized heard => exact h.elim

/-- Two signs around an operator, and a sign behind a minus that is none. -/
theorem parse_text_of_signs :
    let quotient := compute (.finite true 4 0) .divide (.finite true 3 0)
    let difference := apply .subtract (.finite true 250 (-2))
    quotient.Legible ∧ difference.Legible ∧ parse "-4 / -3" = .ok quotient ∧
      parse "memory - -2.50" = .ok difference := by
  intro quotient difference
  have hquotient : quotient.Legible := by decide +kernel
  have hdifference : difference.Legible := by decide +kernel
  have hfirst : quotient.text = "-4 / -3" := by decide +kernel
  have hsecond : difference.text = "memory - -2.50" := by decide +kernel
  rw [← hfirst, ← hsecond]
  exact ⟨hquotient, hdifference, parse_text hquotient, parse_text hdifference⟩

end Command

end SpokenCalculator
