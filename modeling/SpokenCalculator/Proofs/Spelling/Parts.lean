import SpokenCalculator.Proofs.Phrase.Operand
import SpokenCalculator.Proofs.Spelling.Heard

namespace SpokenCalculator.Spelling

open Phrase (IsSimple heardWords)
open Spoken (fractionWords)

variable {digits : List ℕ}

def numberParts (negative : Bool) (whole : ℕ) (digits : List ℕ) : List String :=
  (if negative then ["negative"] else []) ++ naturalList whole ++ fractionWords digits

theorem intercalate_numberParts (negative : Bool) (whole : ℕ) (digits : List ℕ) :
    signText negative ++ " ".intercalate (naturalList whole) ++ fractionText digits =
      " ".intercalate (numberParts negative whole digits) := by
  have hne := naturalList_ne_nil whole
  have hpoint : " point " = " " ++ "point" ++ " " := rfl
  have hnegative : negativeWord = "negative" ++ " " := rfl
  have hfraction : " ".intercalate (naturalList whole) ++ fractionText digits =
      " ".intercalate (naturalList whole ++ fractionWords digits) := by
    by_cases hdigits : digits = []
    · subst hdigits
      simp [fractionText]
    · have hempty : digits.isEmpty = false := by simpa using hdigits
      have hmap : digits.map smallWord ≠ [] := by simpa using hdigits
      rw [Spoken.fractionWords_of_ne_nil hdigits,
        String.intercalate_append_of_ne_nil hne (by simp),
        String.intercalate_cons_of_ne_nil hmap, fractionText, hempty, if_neg (by decide), hpoint]
      simp only [String.append_assoc]
      rfl
  rw [String.append_assoc, hfraction, numberParts, List.append_assoc]
  cases negative with
  | false => simp [signText]
  | true =>
      have hbehind : naturalList whole ++ fractionWords digits ≠ [] := by simp [hne]
      rw [signText, if_pos rfl, if_pos rfl, List.singleton_append,
        String.intercalate_cons_of_ne_nil hbehind, hnegative]

theorem fraction_lt_one (hdigits : ∀ digit ∈ digits, digit < 10) :
    (digitsValue digits : ℚ) / 10 ^ digits.length < 1 := by
  rw [div_lt_one (by positivity)]
  exact_mod_cast digitsValue_lt hdigits

theorem isSimple_of_mem_fractionWords (hdigits : ∀ digit ∈ digits, digit < 10) :
    ∀ word ∈ fractionWords digits, IsSimple word.toList := by
  intro word hword
  rcases Spoken.eq_or_exists_of_mem_fractionWords hdigits hword with rfl | ⟨digit, hdigit, rfl⟩
  · exact isSimple_of_mem_spokenWords _ (by simp [spokenWords])
  · exact isSimple_smallWord (hdigit.trans (by decide))

theorem flatMap_simple {words : List String} (h : ∀ word ∈ words, IsSimple word.toList) :
    words.flatMap heardWords = words := by
  rw [List.flatMap_congr fun word hword => (h word hword).heardWords_eq]
  exact List.flatMap_singleton' words

theorem isSimple_of_mem_sign {negative : Bool} :
    ∀ word ∈ (if negative then ["negative"] else []), IsSimple word.toList := by
  intro word hword
  refine isSimple_of_mem_spokenWords _ ?_
  cases negative with
  | false => contradiction
  | true =>
      rw [List.mem_singleton.mp hword]
      simp [spokenWords]

theorem flatMap_numberParts (negative : Bool) (whole : ℕ) (hdigits : ∀ digit ∈ digits, digit < 10) :
    (numberParts negative whole digits).flatMap heardWords =
      (if negative then ["negative"] else []) ++ (naturalList whole).flatMap heardWords ++
        fractionWords digits := by
  rw [numberParts, List.flatMap_append, List.flatMap_append,
    flatMap_simple (isSimple_of_mem_fractionWords hdigits), flatMap_simple isSimple_of_mem_sign]

end SpokenCalculator.Spelling
