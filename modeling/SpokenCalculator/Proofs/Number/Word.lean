import Mathlib.Algebra.Group.Nat.Defs
import SpokenCalculator.Number.Word
import SpokenCalculator.Proofs.Text.Plain

namespace SpokenCalculator

def scaleWords : List String := ["hundred", "thousand", "million", "billion"]

def IsLettered (word : String) : Prop := word.toList ≠ [] ∧ ∀ c ∈ word.toList, Phrase.isLetter c

instance (word : String) : Decidable (IsLettered word) :=
  decidable_of_iff (word.toList ≠ [] ∧ word.toList.all Phrase.isLetter)
    (and_congr_right' List.all_eq_true)

namespace NumberWord

theorem mem_scaleWords {word : String} {scale : Scale} (h : Scale.ofText? word = some scale) :
    word ∈ scaleWords := by
  unfold Scale.ofText? at h
  split at h
  · decide
  · decide
  · decide
  · decide
  · cases h

theorem mem_of_ofText? {word : String} {numberWord : NumberWord}
    (h : ofText? word = some numberWord) : word ∈ smallWords ++ tensWords ++ scaleWords := by
  rw [List.mem_append, List.mem_append]
  unfold ofText? at h
  split at h
  · rename_i value hsmall
    refine Or.inl (Or.inl (Decidable.byContradiction fun hmem => ?_))
    rw [List.idxOf?_eq_none_iff.mpr hmem] at hsmall
    cases hsmall
  · rename_i place _ htens
    refine Or.inl (Or.inr (Decidable.byContradiction fun hmem => ?_))
    rw [List.idxOf?_eq_none_iff.mpr hmem] at htens
    cases htens
  · obtain ⟨scale, hscale, _⟩ := Option.map_eq_some_iff.mp h
    exact Or.inr (mem_scaleWords hscale)

theorem value_le_of_ofText? {word : String} {numberWord : NumberWord}
    (h : ofText? word = some numberWord) : numberWord.value ≤ 10 ^ 9 := by
  have hall : ∀ word ∈ smallWords ++ tensWords ++ scaleWords,
      (ofText? word).all (·.value ≤ 10 ^ 9) := by
    decide
  have := hall word (mem_of_ofText? h)
  simpa [h] using this

end NumberWord

theorem isLettered_of_isNumberWord {word : String} (h : isNumberWord word) : IsLettered word := by
  have hall : ∀ word ∈ smallWords ++ tensWords ++ scaleWords, IsLettered word := by
    decide
  obtain ⟨numberWord, hsome⟩ := Option.isSome_iff_exists.mp h
  exact hall word (NumberWord.mem_of_ofText? hsome)

theorem isNumberWord_pointWord : isNumberWord pointWord = false := by
  decide

theorem digitWordValue?_lt {word : String} {digit : Nat} (h : digitWordValue? word = some digit) :
    digit < 10 := by
  obtain ⟨hlt, _⟩ := List.idxOf?_eq_some_iff.mp h
  exact hlt

end SpokenCalculator
