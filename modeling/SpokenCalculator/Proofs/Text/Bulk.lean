import Mathlib.Algebra.BigOperators.Group.List.Basic
import Mathlib.Algebra.GroupWithZero.Nat
import SpokenCalculator.Phrase.Normal
import SpokenCalculator.Proofs.Text.Words

/-!
# The bulk of a text

The bulk of a text is the number of its characters, spaces and the combining dot
left out. What is done to a text before its tokens are read never makes its bulk
larger: lower case writes two characters only where the second is a combining
dot, and whatever is put into a text takes the place of something of at least
the same bulk or is a space.
-/

namespace SpokenCalculator.Text

/-- The dot that lower case writes above the small letter of a dotted
capital. -/
def combiningDot : Char := Char.ofNat 0x307

def isBulky (c : Char) : Bool := c != ' ' && c != combiningDot

def bulk (text : List Char) : Nat := text.countP isBulky

@[simp] theorem bulk_nil : bulk [] = 0 := rfl

theorem bulk_cons (c : Char) (rest : List Char) : bulk (c :: rest) = bulk [c] + bulk rest := by
  simp [bulk, List.countP_cons, Nat.add_comm]

@[simp] theorem bulk_append (text behind : List Char) :
    bulk (text ++ behind) = bulk text + bulk behind :=
  List.countP_append

theorem bulk_le_length (text : List Char) : bulk text ≤ text.length := List.countP_le_length

theorem bulk_le_of_sublist {part text : List Char} (h : part.Sublist text) :
    bulk part ≤ bulk text :=
  h.countP_le

theorem bulk_eq_length {text : List Char} (h : ∀ c ∈ text, isBulky c) :
    bulk text = text.length :=
  List.countP_eq_length.mpr h

theorem bulk_singleton_of_isBulky {c : Char} (h : isBulky c) : bulk [c] = 1 := by
  simp [bulk, h]

theorem bulk_transduce_le {σ : Type} {step : σ → Char → List Char → σ × List Char}
    (hstep : ∀ state c rest, bulk (step state c rest).2 ≤ bulk [c]) (state : σ)
    (text : List Char) : bulk (transduce step state text) ≤ bulk text := by
  induction text generalizing state with
  | nil => exact Nat.le_refl 0
  | cons c rest ih =>
      have hrest := ih (step state c rest).1
      have hc := hstep state c rest
      rw [transduce_cons, bulk_append, bulk_cons]
      omega

theorem bulk_transduceInContext_le {step : Option Char → Char → List Char → List Char}
    (hstep : ∀ before c rest, bulk (step before c rest) ≤ bulk [c]) (text : List Char) :
    bulk (transduceInContext step text) ≤ bulk text :=
  bulk_transduce_le (fun before c rest => hstep before c rest) none text

theorem bulk_lowerStep_le (casedBefore : Bool) (c : Char) (rest : List Char) :
    bulk (lowerStep casedBefore c rest).2 ≤ bulk [c] := by
  by_cases hbulky : isBulky c
  · rw [bulk_singleton_of_isBulky hbulky]
    unfold lowerStep
    dsimp only
    split
    · exact bulk_le_length _
    · split
      · decide
      · exact bulk_le_length _
  · -- the two characters without bulk are their own small letters
    have heq : c = ' ' ∨ c = combiningDot := by
      simp only [isBulky, Bool.and_eq_true, bne_iff_ne, not_and, Decidable.not_not] at hbulky
      exact Decidable.or_iff_not_imp_left.mpr hbulky
    rcases heq with rfl | rfl
    · change bulk [lowerCaseOf ' '] ≤ _
      decide
    · change bulk [lowerCaseOf combiningDot] ≤ _
      decide

theorem bulk_lowerCase_le (text : List Char) : bulk (lowerCase text) ≤ bulk text :=
  bulk_transduce_le bulk_lowerStep_le false text

theorem bulk_trim_le (isEdge : Char → Bool) (text : List Char) :
    bulk (trim isEdge text) ≤ bulk text := by
  refine bulk_le_of_sublist ?_
  have hinner := (List.dropWhile_sublist isEdge (l := (text.dropWhile isEdge).reverse)).reverse
  rw [List.reverse_reverse] at hinner
  exact hinner.trans (List.dropWhile_sublist isEdge)

theorem bulk_joinWords (parts : List (List Char)) :
    bulk (joinWords parts) = (parts.map bulk).sum := by
  induction parts with
  | nil => rfl
  | cons word others ih =>
      cases others with
      | nil => simp [joinWords]
      | cons next others =>
          have hspace : bulk [' '] = 0 := by decide
          rw [joinWords_cons_cons, bulk_append, bulk_cons, hspace, ih]
          simp

theorem sum_bulk_words_le (text : List Char) : ((words text).map bulk).sum ≤ bulk text := by
  unfold words
  induction text with
  | nil => exact Nat.le_refl 0
  | cons c rest ih =>
      rw [List.foldr_cons, bulk_cons]
      generalize rest.foldr prependToWords (false, []) = state at ih ⊢
      obtain ⟨growing, found⟩ := state
      unfold prependToWords
      by_cases hblank : isBlank c
      · simp only [hblank, if_true] at ih ⊢
        omega
      · simp only [hblank, Bool.false_eq_true, if_false] at ih ⊢
        split
        · simp only [List.map_cons, List.sum_cons] at ih ⊢
          rw [bulk_cons]
          omega
        · simp only [List.map_cons, List.sum_cons]
          omega

/-- Behind a phrase that is still to be passed over, replacing writes no more
than the rest of the text holds. -/
theorem bulk_transduce_replacementStep_le {phrase replacement : List Char}
    (hsmall : bulk replacement ≤ bulk phrase) (state : ReplacementState) (text : List Char) :
    bulk (transduce (replacementStep phrase replacement) state text) ≤
      bulk (text.drop state.pending) := by
  induction text generalizing state with
  | nil => simp
  | cons c rest ih =>
      rw [transduce_cons, bulk_append]
      obtain ⟨before, pending⟩ := state
      cases pending with
      | succ left =>
          have hrest := ih ⟨some c, left⟩
          simp only [replacementStep, bulk_nil, List.drop_succ_cons, Nat.zero_add]
          exact hrest
      | zero =>
          simp only [replacementStep, List.drop_zero]
          split
          · rename_i hstands
            have hprefix : phrase.isPrefixOf (c :: rest) := by
              simp only [standsAt, Bool.and_eq_true] at hstands
              exact hstands.1.1
            obtain ⟨behind, hbehind⟩ := List.isPrefixOf_iff_prefix.mp hprefix
            split
            · rename_i hempty
              have hrest := ih ⟨some c, 0⟩
              rw [List.length_eq_zero_iff] at hempty
              subst hempty
              rw [bulk_nil] at hsmall
              rw [List.drop_zero] at hrest
              rw [bulk_append, bulk_cons c rest]
              dsimp only
              omega
            · rename_i left hlength
              have hrest := ih ⟨some c, left⟩
              have hdrop : rest.drop left = behind := by
                have : (c :: rest).drop phrase.length = behind := by
                  rw [← hbehind, List.drop_left]
                rwa [hlength] at this
              dsimp only at hrest ⊢
              rw [hdrop] at hrest
              rw [← hbehind, bulk_append]
              omega
          · have hrest := ih ⟨some c, 0⟩
            rw [List.drop_zero] at hrest
            rw [bulk_cons c rest]
            dsimp only
            omega

theorem bulk_replaceWhole_le {phrase replacement : List Char}
    (hsmall : bulk replacement ≤ bulk phrase) (text : List Char) :
    bulk (replaceWhole phrase replacement text) ≤ bulk text := by
  have hbody := bulk_transduce_replacementStep_le hsmall ⟨none, 0⟩ text
  rw [List.drop_zero] at hbody
  unfold replaceWhole
  split
  · rename_i hempty
    simp only [Bool.and_eq_true, List.isEmpty_iff] at hempty
    rw [hempty.1, bulk_nil] at hsmall
    rw [bulk_append]
    omega
  · simpa using hbody

end SpokenCalculator.Text

namespace SpokenCalculator.Phrase

open Text

theorem bulk_normalCharacters_le (text : List Char) : bulk (normalCharacters text) ≤ bulk text := by
  have hspace : bulk [' '] = 0 := by decide
  have hparted : ∀ text, bulk (partHyphenated text) ≤ bulk text :=
    bulk_transduceInContext_le fun before c rest => by
      split <;> simp [hspace]
  have hjoined : ∀ text, bulk (joinDigitGroups text) ≤ bulk text :=
    bulk_transduceInContext_le fun before c rest => by
      split <;> simp
  have hspaced : ∀ text, bulk (spaceSingly text) ≤ bulk text := fun text => by
    rw [spaceSingly, bulk_joinWords]
    exact sum_bulk_words_le text
  have hreplaced : ∀ (pairs : List (String × String)) (text : List Char),
      (∀ pair ∈ pairs, bulk pair.2.toList ≤ bulk pair.1.toList) →
        bulk (pairs.foldl (fun text pair =>
          replaceWhole pair.1.toList pair.2.toList text) text) ≤ bulk text := by
    intro pairs
    induction pairs with
    | nil => exact fun text _ => Nat.le_refl _
    | cons pair others ih =>
        intro text hsmall
        have hfirst := hsmall pair List.mem_cons_self
        exact Nat.le_trans
          (ih _ fun other hother => hsmall other (List.mem_cons_of_mem pair hother))
          (bulk_replaceWhole_le hfirst text)
  have hkeywords : ∀ pair ∈ expressions, bulk pair.2.toList ≤ bulk pair.1.toList := by
    decide
  unfold normalCharacters replaceExpressions
  refine Nat.le_trans (hreplaced expressions _ hkeywords) ?_
  refine Nat.le_trans (hspaced _) ?_
  refine Nat.le_trans (hjoined _) ?_
  exact Nat.le_trans (hparted _) (bulk_lowerCase_le text)

end SpokenCalculator.Phrase
