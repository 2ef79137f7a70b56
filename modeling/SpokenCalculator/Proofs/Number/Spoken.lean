import Mathlib.Data.List.TakeWhile
import SpokenCalculator.Number.Spoken
import SpokenCalculator.Proofs.Decimal.Overflow
import SpokenCalculator.Proofs.Decimal.Written
import SpokenCalculator.Proofs.Number.Cardinal
import SpokenCalculator.Proofs.Number.Word

namespace SpokenCalculator

theorem IsLettered.isWord {word : String} (h : IsLettered word) : Text.IsWord word.toList :=
  ⟨h.1, fun c hc => Text.isBlank_of_isLetter (h.2 c hc)⟩

namespace Spoken

variable {words : List String}

theorem letter_of_mem_joinWords (hwords : ∀ word ∈ words, IsLettered word) {c : Char}
    (h : c ∈ Text.joinWords (words.map String.toList)) : c = ' ' ∨ Phrase.isLetter c := by
  rcases Text.mem_joinWords h with heq | ⟨_, hpart, hc⟩
  · exact Or.inl heq
  · obtain ⟨word, hword, rfl⟩ := List.mem_map.mp hpart
    exact Or.inr ((hwords word hword).2 c hc)

theorem plainCharacters_eq (hwords : ∀ word ∈ words, IsLettered word) :
    plainCharacters words = Text.joinWords (words.map String.toList) := by
  have hjoin : (" ".intercalate words).toList = Text.joinWords (words.map String.toList) := by
    rw [String.toList_intercalate]
    rfl
  have hunhyphened : (Text.joinWords (words.map String.toList)).map
      (fun c => if c == '-' then ' ' else c) = Text.joinWords (words.map String.toList) := by
    refine (List.map_congr_left fun c hc => ?_).trans (List.map_id _)
    rcases letter_of_mem_joinWords hwords hc with rfl | hletter
    · rfl
    · have hhyphen : c ≠ '-' := by
        rintro rfl
        revert hletter
        decide
      simp [hhyphen]
  rw [plainCharacters, hjoin, hunhyphened]
  refine Text.lowerCase_eq_self fun c hc => ?_
  rcases letter_of_mem_joinWords hwords hc with rfl | hletter
  · exact Or.inl (by decide)
  · exact Text.isPlain_of_isLetter hletter

variable (hwords : ∀ word ∈ words, isNumberWord word)

include hwords

/-- The reader finds all words that it was given, and nothing else. -/
theorem knownWords_plainCharacters : knownWords (plainCharacters words) = words := by
  have hlettered : ∀ word ∈ words, IsLettered word := fun word hword =>
    isLettered_of_isNumberWord (hwords word hword)
  rw [plainCharacters_eq hlettered, knownWords, Text.words_joinWords, List.map_map]
  · have hsame : words.map (String.ofList ∘ String.toList) = words := by simp
    rw [hsame, List.filter_eq_self]
    intro word hword
    simp [hwords word hword]
  · intro part hpart
    obtain ⟨word, hword, rfl⟩ := List.mem_map.mp hpart
    exact (hlettered word hword).isWord

theorem isDigits_plainCharacters (hne : words ≠ []) :
    Text.isDigits (plainCharacters words) = false := by
  have hlettered : ∀ word ∈ words, IsLettered word := fun word hword =>
    isLettered_of_isNumberWord (hwords word hword)
  rw [plainCharacters_eq hlettered]
  obtain ⟨word, others, rfl⟩ := List.exists_cons_of_ne_nil hne
  have hword := hlettered word List.mem_cons_self
  obtain ⟨c, rest, hc⟩ := List.exists_cons_of_ne_nil hword.1
  have hletter : Phrase.isLetter c := hword.2 c (by rw [hc]; exact List.mem_cons_self)
  have hmem : c ∈ Text.joinWords ((word :: others).map String.toList) := by
    cases others with
    | nil => simp [Text.joinWords, hc]
    | cons next others => simp [Text.joinWords_cons_cons, hc]
  have hall : (Text.joinWords ((word :: others).map String.toList)).all Text.isDigit = false :=
    List.all_eq_false.mpr ⟨c, hmem, by simp [Text.isDigit_of_isLetter hletter]⟩
  rw [Text.isDigits, hall, Bool.and_false]

theorem pointWord_not_mem : pointWord ∉ words := by
  intro hmem
  have := hwords pointWord hmem
  rw [isNumberWord_pointWord] at this
  cases this

theorem read_eq : read words = (readCardinal words).map toDecimal := by
  have hpoint := pointWord_not_mem hwords
  have hcount : ¬ 1 < words.count pointWord := by
    rw [List.count_eq_zero.mpr hpoint]
    decide
  have hcontains : ¬ words.contains pointWord := by simpa using hpoint
  rw [read, if_neg hcount, if_neg hcontains]
  cases readCardinal words <;> rfl

theorem readCardinal_eq (hne : words ≠ []) : readCardinal words = ofKnownWords words words := by
  have hempty : words.isEmpty = false := by simpa using hne
  simp only [readCardinal, hempty, isDigits_plainCharacters hwords hne,
    knownWords_plainCharacters hwords, Bool.false_eq_true, if_false]

theorem ofKnownWords_eq (given : List String) (hne : words ≠ []) :
    ofKnownWords given words =
      if isRepeated words then .error .repeatedScale
      else
        match Cardinal.value (words.filterMap NumberWord.ofText?) with
        | .ok whole => .ok (.exact whole)
        | .error .disordered => .error .disorderedScales
        | .error .emptyGroup => .error (.emptyGroup given) := by
  have hpoint : ∀ word ∈ words, decide (word ≠ pointWord) = true := fun word hword => by
    rw [decide_eq_true_eq]
    rintro rfl
    exact pointWord_not_mem hwords hword
  have hbefore : beforePoint words = words := List.takeWhile_eq_self_iff.mpr hpoint
  have hbehind : behindPoint words = [] := by
    rw [behindPoint, List.dropWhile_eq_nil_iff.mpr hpoint]
    rfl
  have hempty : words.isEmpty = false := by simpa using hne
  simp only [ofKnownWords, hempty, hbefore, hbehind, Bool.false_eq_true, if_false]
  rfl

/-- What number words without a point stand for is whole and has at most
twenty-eight digits. -/
theorem readCardinal_lt {value : CardinalValue} (hread : readCardinal words = .ok value) :
    ∃ whole, value = .exact whole ∧ whole < 10 ^ 28 := by
  by_cases hne : words = []
  · subst hne
    cases hread
    exact ⟨0, rfl, by decide⟩
  · have hmoderate : Cardinal.IsModerate (words.filterMap NumberWord.ofText?) := by
      intro numberWord hmem
      obtain ⟨word, _, hsome⟩ := List.mem_filterMap.mp hmem
      exact NumberWord.value_le_of_ofText? hsome
    rw [readCardinal_eq hwords hne, ofKnownWords_eq hwords words hne] at hread
    split at hread
    · cases hread
    · split at hread
      · rename_i whole hvalue
        cases hread
        exact ⟨whole, rfl, Cardinal.value_lt hmoderate hvalue⟩
      · cases hread
      · cases hread

end Spoken

namespace Spoken

variable {words : List String}

def IsRunWord (word : String) : Prop := isNumberWord word ∨ word = pointWord

theorem IsRunWord.length_pos {word : String} (h : IsRunWord word) : 0 < word.length := by
  have hne : word.toList ≠ [] := by
    rcases h with hnumber | rfl
    · exact (isLettered_of_isNumberWord hnumber).1
    · decide
  rw [← String.length_toList]
  exact List.length_pos_of_ne_nil hne

def size (words : List String) : ℕ := (words.map String.length).sum

theorem length_le_size (hwords : ∀ word ∈ words, IsRunWord word) : words.length ≤ size words := by
  induction words with
  | nil => exact Nat.le_refl 0
  | cons word others ih =>
      have hword := (hwords word List.mem_cons_self).length_pos
      have hothers := ih fun other hother => hwords other (List.mem_cons_of_mem word hother)
      simp only [size, List.length_cons, List.map_cons, List.sum_cons] at hothers ⊢
      omega

theorem mapM_digitWordValue? {fraction : List String} {digits : List ℕ}
    (h : fraction.mapM digitWordValue? = some digits) :
    digits.length = fraction.length ∧ ∀ digit ∈ digits, digit < 10 := by
  induction fraction generalizing digits with
  | nil =>
      cases h
      exact ⟨rfl, fun _ hnone => by cases hnone⟩
  | cons word others ih =>
      rw [List.mapM_cons] at h
      obtain ⟨digit, hdigit, h⟩ := Option.bind_eq_some_iff.mp h
      obtain ⟨rest, hrest, h⟩ := Option.bind_eq_some_iff.mp h
      cases h
      obtain ⟨hlength, hsmall⟩ := ih hrest
      refine ⟨by simp [hlength], ?_⟩
      rintro other hother
      rcases List.mem_cons.mp hother with rfl | hother
      · exact digitWordValue?_lt hdigit
      · exact hsmall other hother

theorem beforePoint_append (h : pointWord ∈ words) :
    beforePoint words ++ pointWord :: behindPoint words = words := by
  have hne : words.dropWhile (· ≠ pointWord) ≠ [] := by
    rw [ne_eq, List.dropWhile_eq_nil_iff]
    intro hall
    simpa using hall pointWord h
  have hhead : (words.dropWhile (· ≠ pointWord)).head hne = pointWord := by
    simpa using List.head_dropWhile_not (fun word => decide (word ≠ pointWord)) hne
  have hcons := List.cons_head_tail hne
  rw [hhead] at hcons
  rw [beforePoint, behindPoint, hcons, List.takeWhile_append_dropWhile]

theorem isNumberWord_of_mem_beforePoint (hwords : ∀ word ∈ words, IsRunWord word) {word : String}
    (h : word ∈ beforePoint words) : isNumberWord word := by
  have hne : word ≠ pointWord := by simpa using List.mem_takeWhile_imp h
  exact (hwords word ((List.takeWhile_sublist _).mem h)).resolve_right hne

/-- A number is read with digits behind its point, or without a point. -/
theorem read_cases {x : Decimal} (hread : read words = .ok x) :
    (pointWord ∈ words ∧ ∃ digits value, (behindPoint words).mapM digitWordValue? = some digits ∧
      readCardinal (beforePoint words) = .ok value ∧ attachFraction digits value = .ok x) ∨
    (pointWord ∉ words ∧ ∃ value, readCardinal words = .ok value ∧ x = toDecimal value) := by
  unfold read at hread
  split at hread
  · cases hread
  · split at hread
    · rename_i hpoint
      dsimp only at hread
      split at hread
      · cases hread
      · split at hread
        · cases hread
        · rename_i digits hdigits
          obtain ⟨value, hvalue, hattached⟩ := bind_eq_ok.mp hread
          exact Or.inl ⟨List.contains_iff_mem.mp hpoint, digits, value, hdigits, hvalue, hattached⟩
    · rename_i hpoint
      obtain ⟨value, hvalue, hdecimal⟩ := bind_eq_ok.mp hread
      cases hdecimal
      exact Or.inr ⟨fun hmem => hpoint (List.contains_iff_mem.mpr hmem), value, hvalue, rfl⟩

/-- The digits behind the point are fewer than the letters of the words. -/
theorem length_behindPoint_lt (hwords : ∀ word ∈ words, IsRunWord word) (h : pointWord ∈ words) :
    (behindPoint words).length < size words := by
  refine Nat.lt_of_lt_of_le ?_ (length_le_size hwords)
  calc
    (behindPoint words).length <
        (beforePoint words ++ pointWord :: behindPoint words).length := by
      rw [List.length_append, List.length_cons]
      omega
    _ = words.length := by rw [beforePoint_append h]

/-- A number that was read has at most twenty-eight digits before its point, and
fewer behind it than the words have letters. -/
theorem exists_of_read_eq (hwords : ∀ word ∈ words, IsRunWord word) {x : Decimal}
    (hread : read words = .ok x) :
    x = .ofNat 0 ∨ ∃ coefficient places : ℕ, x = .finite false coefficient (-places) ∧
      coefficient < 10 ^ (28 + places) ∧ places < size words := by
  rcases read_cases hread with
    ⟨hpoint, digits, value, hdigits, hvalue, hattached⟩ | ⟨hpoint, value, hvalue, rfl⟩
  · obtain ⟨whole, rfl, hwhole⟩ :=
      readCardinal_lt (fun word => isNumberWord_of_mem_beforePoint hwords) hvalue
    obtain ⟨hlength, hsmall⟩ := mapM_digitWordValue? hdigits
    cases hattached
    have hrow := digitsValue_lt hsmall
    refine Or.inr ⟨_, digits.length, rfl, ?_, hlength ▸ length_behindPoint_lt hwords hpoint⟩
    rw [natPow_eq, pow_add]
    calc
      whole * 10 ^ digits.length + digitsValue digits < (whole + 1) * 10 ^ digits.length := by
        rw [Nat.add_mul]
        omega
      _ ≤ 10 ^ 28 * 10 ^ digits.length := Nat.mul_le_mul_right _ hwhole
  · have hnumber : ∀ word ∈ words, isNumberWord word := fun word hword => by
      refine (hwords word hword).resolve_right ?_
      rintro rfl
      exact hpoint hword
    obtain ⟨whole, rfl, hwhole⟩ := readCardinal_lt hnumber hvalue
    rcases eq_or_ne words [] with rfl | hne
    · cases hvalue
      exact Or.inl rfl
    · have hpos : 0 < size words :=
        (List.length_pos_of_ne_nil hne).trans_le (length_le_size hwords)
      exact Or.inr ⟨whole, 0, rfl, hwhole, hpos⟩

theorem read_writtenIn (hwords : ∀ word ∈ words, IsRunWord word) {x : Decimal}
    (hread : read words = .ok x) : x.WrittenIn (size words) := by
  rcases exists_of_read_eq hwords hread with rfl | ⟨coefficient, places, rfl, hcoefficient, hplaces⟩
  · exact Decimal.writtenIn_zero _
  · exact Decimal.writtenIn_finite places hplaces (le_max_right _ _) hcoefficient

/-- Number words never reach beyond the standard range, however many there are. -/
theorem not_overflows_of_read_eq (hwords : ∀ word ∈ words, IsRunWord word) {x : Decimal}
    (hread : read words = .ok x) : ¬ x.Overflows := by
  apply Decimal.not_overflows_of_le
  have hsmall : |x.value| ≤ 10 ^ 28 := by
    rcases exists_of_read_eq hwords hread with rfl | ⟨coefficient, places, rfl, hcoefficient, _⟩
    · have hzero : (Decimal.ofNat 0).value = 0 := Decimal.value_zero
      rw [hzero, abs_zero]
      positivity
    · exact Decimal.abs_value_places_le hcoefficient
  calc
    |x.value| ≤ 10 ^ (28 : ℤ) := by exact_mod_cast hsmall
    _ ≤ 10 ^ (999999 : ℤ) := zpow_le_zpow_right₀ (by norm_num) (by norm_num)

end Spoken

end SpokenCalculator
