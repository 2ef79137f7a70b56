import SpokenCalculator.Proofs.Number.Grammar
import SpokenCalculator.Proofs.Number.Heard
import SpokenCalculator.Proofs.Number.Order

namespace SpokenCalculator

namespace Cardinal

def IsRefused (words : List NumberWord) : Prop :=
  ¬ Descends words ∨ 2 ≤ words.length ∧ (Sections.of words).HasBareScale

instance (words : List NumberWord) : Decidable (IsRefused words) :=
  inferInstanceAs (Decidable (_ ∨ _))

namespace Sections

variable {sections : Sections}

theorem exists_value_iff (h : sections.IsProper) (hlength : 2 ≤ sections.words.length) :
    (∃ n, value sections.words = .ok n) ↔ ¬ sections.HasBareScale := by
  simp only [HasBareScale, List.mem_cons, List.not_mem_nil, or_false, not_or]
  constructor
  · rintro ⟨n, hvalue⟩
    obtain ⟨billions, millions, thousands, hbillions, hmillions, hthousands⟩ :=
      Sections.exists_sectionValue h hlength hvalue
    exact ⟨(exists_sectionValue_iff.mp ⟨_, hbillions⟩).symm,
      (exists_sectionValue_iff.mp ⟨_, hmillions⟩).symm,
      (exists_sectionValue_iff.mp ⟨_, hthousands⟩).symm⟩
  · rintro ⟨hbillions, hmillions, hthousands⟩
    obtain ⟨billions, hbillions⟩ := exists_sectionValue_iff.mpr (Ne.symm hbillions)
    obtain ⟨millions, hmillions⟩ := exists_sectionValue_iff.mpr (Ne.symm hmillions)
    obtain ⟨thousands, hthousands⟩ := exists_sectionValue_iff.mpr (Ne.symm hthousands)
    rw [value_words h hlength hbillions hmillions hthousands]
    split
    · exact ⟨_, rfl⟩
    · rename_i htail
      obtain ⟨tail, htail⟩ := exists_wordsValue htail
      rw [htail]
      exact ⟨_, rfl⟩

end Sections

/-- Words are read unless they are refused, if no scale word is repeated. -/
theorem exists_value_iff {words : List NumberWord} (hne : words ≠ []) (h : Descends words) :
    (∃ n, value words = .ok n) ↔ ¬ IsRefused words := by
  have hrefused : IsRefused words ↔ 2 ≤ words.length ∧ (Sections.of words).HasBareScale := by
    simp [IsRefused, h]
  rw [hrefused]
  by_cases hlength : 2 ≤ words.length
  · have hsections :=
      Sections.exists_value_iff h.isProper ((Sections.words_of words).symm ▸ hlength)
    rw [Sections.words_of] at hsections
    simp [hsections, hlength]
  · have hpos := List.length_pos_of_ne_nil hne
    obtain ⟨word, rfl⟩ := List.length_eq_one_iff.mp (by omega : words.length = 1)
    exact iff_of_true ⟨_, value_singleton word⟩ fun hboth => hlength hboth.1

theorem IsLast.eq_value {word : NumberWord} {n : ℕ} (h : IsLast [word] n) : n = word.value := by
  cases h with
  | hundreds h =>
      cases h with
      | units h => cases h <;> rfl
      | bare => rfl
      | bareUnits h => exact absurd rfl h.ne_nil

theorem IsSection.eq_value {scale : Scale} {n : ℕ} (h : IsSection scale (some []) n) :
    n = scale.value := by
  cases h with
  | bare => rfl
  | counted h => exact absurd rfl h.ne_nil

theorem Sections.isPlain_of_singleton (word : NumberWord) : (of [word]).IsPlain := by
  have hnil : IsClear [] := by simp [IsClear]
  have hword : IsClear [word] := fun hhead => by
    rw [Option.some.inj hhead]
  rcases of_singleton word with h | ⟨-, h⟩ | ⟨-, h⟩ | ⟨-, h⟩
  · rw [h]
    exact ⟨by simp, by simp, by simp, hword, fun hlast => by cases hlast⟩
  · rw [h]
    exact ⟨by simp [hnil], by simp, by simp, hnil, fun _ => by decide⟩
  · rw [h]
    exact ⟨by simp, by simp [hnil], by simp, hnil, fun _ => by decide⟩
  · rw [h]
    exact ⟨by simp, by simp, by simp [hnil], hnil, fun _ => by decide⟩

namespace IsCardinal

variable {words : List NumberWord} {n : ℕ}

theorem eq_value {word : NumberWord} (h : IsCardinal [word] n) : n = word.value := by
  generalize hwords : [word] = words at h
  cases h with
  | @intro sections billions millions thousands last hne hbillions hmillions hthousands hlast =>
      have hproper := Sections.isProper_of_isSection hbillions hmillions hthousands hlast
      have hof : Sections.of [word] = sections := by rw [hwords, Sections.of_words hproper]
      rcases Sections.of_singleton word with h | ⟨rfl, h⟩ | ⟨rfl, h⟩ | ⟨rfl, h⟩
      · obtain rfl := h.symm.trans hof
        rw [hbillions.eq_zero, hmillions.eq_zero, hthousands.eq_zero, hlast.eq_value]
        exact Nat.zero_add _
      · obtain rfl := h.symm.trans hof
        rw [hbillions.eq_value, hmillions.eq_zero, hthousands.eq_zero, hlast.eq_zero]
        rfl
      · obtain rfl := h.symm.trans hof
        rw [hbillions.eq_zero, hmillions.eq_value, hthousands.eq_zero, hlast.eq_zero]
        rfl
      · obtain rfl := h.symm.trans hof
        rw [hbillions.eq_zero, hmillions.eq_zero, hthousands.eq_value, hlast.eq_zero]
        rfl

/-- A cardinal that is not refused is read, and read right exactly if it is
plain. -/
theorem exists_value (h : IsCardinal words n) (hrefused : ¬ IsRefused words) :
    ∃ heard, value words = .ok heard ∧ (heard = n ↔ (Sections.of words).IsPlain) := by
  by_cases hlength : 2 ≤ words.length
  · cases h with
    | intro hne hbillions hmillions hthousands hlast =>
        have hproper :=
          Sections.isProper_of_isSection hbillions hmillions hthousands hlast
        rw [IsRefused, Sections.of_words hproper, not_or, not_and] at hrefused
        rw [Sections.of_words hproper]
        exact Sections.exists_value hbillions hmillions hthousands hlast hlength
          (hrefused.2 hlength)
  · have hpos : 0 < words.length := by
      cases h with
      | intro hne => exact List.length_pos_of_ne_nil hne
    obtain ⟨word, rfl⟩ := List.length_eq_one_iff.mp (by omega : words.length = 1)
    exact ⟨word.value, value_singleton word,
      iff_of_true h.eq_value.symm (Sections.isPlain_of_singleton word)⟩

end IsCardinal

end Cardinal

namespace NumberWord

instance : DecidablePred IsProper
  | .small value => inferInstanceAs (Decidable (value < 20))
  | .tens count => inferInstanceAs (Decidable (2 ≤ count ∧ count < 10))
  | .scale _ => inferInstanceAs (Decidable True)

theorem text_of_ofText? {word : String} {numberWord : NumberWord}
    (h : ofText? word = some numberWord) : numberWord.text = word ∧ numberWord.IsProper := by
  have hall : ∀ word ∈ smallWords ++ tensWords ++ scaleWords,
      (ofText? word).all fun numberWord => numberWord.text = word ∧ numberWord.IsProper := by
    decide
  simpa [h] using hall word (mem_of_ofText? h)

theorem map_text_filterMap {words : List String} (h : ∀ word ∈ words, isNumberWord word) :
    (words.filterMap ofText?).map text = words := by
  induction words with
  | nil => rfl
  | cons word rest ih =>
      rw [List.forall_mem_cons] at h
      obtain ⟨numberWord, hword⟩ := Option.isSome_iff_exists.mp h.1
      rw [List.filterMap_cons, hword, List.map_cons, ih h.2, (text_of_ofText? hword).1]

theorem isProper_of_mem_filterMap (words : List String) :
    ∀ word ∈ words.filterMap ofText?, word.IsProper := by
  intro word hword
  obtain ⟨_, -, htext⟩ := List.mem_filterMap.mp hword
  exact (text_of_ofText? htext).2

end NumberWord

namespace Spoken

open SpokenCalculator.Cardinal (IsCardinal IsRefused Descends Sections)

variable {words : List String}

section

variable (hwords : ∀ word ∈ words, isNumberWord word) (hne : words ≠ [])

include hwords

theorem filterMap_ne_nil (hne : words ≠ []) : words.filterMap NumberWord.ofText? ≠ [] := by
  intro hnil
  have hmap := NumberWord.map_text_filterMap hwords
  rw [hnil] at hmap
  exact hne hmap.symm

include hne

theorem isRefused_iff :
    IsRefused (words.filterMap NumberWord.ofText?) ↔
      isRepeated words = true ∨
        ¬ ∃ n, Cardinal.value (words.filterMap NumberWord.ofText?) = .ok n := by
  have hrepeated :=
    Cardinal.isRepeated_map_text (NumberWord.isProper_of_mem_filterMap words)
  rw [NumberWord.map_text_filterMap hwords] at hrepeated
  by_cases hdescends : Descends (words.filterMap NumberWord.ofText?)
  · have hunique : isRepeated words = false := hrepeated.mpr fun _ => hdescends.count_le
    rw [Cardinal.exists_value_iff (filterMap_ne_nil hwords hne) hdescends, hunique]
    simp
  · refine iff_of_true (.inl hdescends) ?_
    rcases Cardinal.repeated_or_isDisordered hdescends with
      ⟨scale, hscale, hcount⟩ | hdisordered
    · left
      rw [← Bool.not_eq_false, hrepeated]
      intro hunique
      exact absurd (hunique scale hscale) (by omega)
    · right
      rintro ⟨n, hvalue⟩
      unfold Cardinal.value at hvalue
      rw [if_pos hdisordered] at hvalue
      cases hvalue

/-- Number words are read as the value of their cardinal unless a scale word is
repeated. -/
theorem read_eq_of_numberWords :
    read words =
      if isRepeated words then .error .repeatedScale
      else
        match Cardinal.value (words.filterMap NumberWord.ofText?) with
        | .ok n => .ok (.ofNat n)
        | .error .disordered => .error .disorderedScales
        | .error .emptyGroup => .error (.emptyGroup words) := by
  rw [read_eq hwords, readCardinal_eq hwords hne, ofKnownWords_eq hwords words hne]
  split
  · rfl
  · rcases Cardinal.value (words.filterMap NumberWord.ofText?) with (_ | _) | n <;> rfl

theorem exists_read_eq_error (h : IsRefused (words.filterMap NumberWord.ofText?)) :
    ∃ fault, read words = .error fault := by
  rw [isRefused_iff hwords hne] at h
  rw [read_eq_of_numberWords hwords hne]
  split
  · exact ⟨_, rfl⟩
  · rename_i hunique
    have hnone := h.resolve_left hunique
    rcases hvalue : Cardinal.value (words.filterMap NumberWord.ofText?) with (_ | _) | n
    · exact ⟨_, rfl⟩
    · exact ⟨_, rfl⟩
    · exact absurd ⟨n, hvalue⟩ hnone

theorem read_of_value (h : ¬ IsRefused (words.filterMap NumberWord.ofText?)) {n : ℕ}
    (hvalue : Cardinal.value (words.filterMap NumberWord.ofText?) = .ok n) :
    read words = .ok (.ofNat n) := by
  rw [isRefused_iff hwords hne, not_or, Bool.not_eq_true] at h
  rw [read_eq_of_numberWords hwords hne, h.1, hvalue]
  rfl

theorem exists_value_of_not_isRefused (h : ¬ IsRefused (words.filterMap NumberWord.ofText?)) :
    ∃ n, Cardinal.value (words.filterMap NumberWord.ofText?) = .ok n := by
  rw [isRefused_iff hwords hne, not_or, not_not] at h
  exact h.2

end

theorem ofNat_injective {m n : ℕ}
    (h : (Except.ok (.ofNat m) : Except SpokenFault Decimal) = .ok (.ofNat n)) : m = n := by
  injection h with h
  injection h

/-- Which number words are refused, and which cardinals are read as their
value. -/
theorem read_numberWords (hwords : ∀ word ∈ words, isNumberWord word) (hne : words ≠ []) :
    ((∃ fault, read words = .error fault) ↔ IsRefused (words.filterMap NumberWord.ofText?)) ∧
      ((∃ n, IsCardinal (words.filterMap NumberWord.ofText?) n ∧ read words = .ok (.ofNat n)) ↔
        ¬ IsRefused (words.filterMap NumberWord.ofText?) ∧
          (Sections.of (words.filterMap NumberWord.ofText?)).IsPlain ∧
            ∃ n, IsCardinal (words.filterMap NumberWord.ofText?) n) := by
  have hrefused : (∃ fault, read words = .error fault) ↔
      IsRefused (words.filterMap NumberWord.ofText?) := by
    refine ⟨?_, exists_read_eq_error hwords hne⟩
    rintro ⟨fault, hfault⟩
    by_contra hread
    obtain ⟨n, hvalue⟩ := exists_value_of_not_isRefused hwords hne hread
    rw [read_of_value hwords hne hread hvalue] at hfault
    cases hfault
  refine ⟨hrefused, ?_⟩
  constructor
  · rintro ⟨n, hcardinal, hread⟩
    have hnot : ¬ IsRefused (words.filterMap NumberWord.ofText?) := by
      rw [← hrefused, hread]
      rintro ⟨fault, hfault⟩
      cases hfault
    obtain ⟨heard, hvalue, hplain⟩ := hcardinal.exists_value hnot
    rw [read_of_value hwords hne hnot hvalue] at hread
    exact ⟨hnot, hplain.mp (ofNat_injective hread), n, hcardinal⟩
  · rintro ⟨hnot, hplain, n, hcardinal⟩
    obtain ⟨heard, hvalue, hiff⟩ := hcardinal.exists_value hnot
    rw [hiff.mpr hplain] at hvalue
    exact ⟨n, hcardinal, read_of_value hwords hne hnot hvalue⟩

/-- Hundreds without a count may stand at the end of a cardinal. -/
theorem read_numberWords_bare_hundred :
    ∃ n, IsCardinal
        (["twelve", "hundred", "million", "ninety", "nine", "thousand", "hundred"].filterMap
          NumberWord.ofText?) n ∧
      read ["twelve", "hundred", "million", "ninety", "nine", "thousand", "hundred"] =
        .ok (.ofNat n) := by
  have hcardinal : IsCardinal (Sections.words ⟨none, some [.small 12, .scale .hundred],
      some [.tens 9, .small 9], [.scale .hundred]⟩) _ :=
    .intro (by decide) .absent (.counted (.counted (by decide) (by decide)))
      (.counted (.units (.both (by decide) (by decide) (by decide) (by decide))))
      (.hundreds .bare)
  exact (read_numberWords (by decide) (by decide)).2.mpr ⟨by decide, by decide, _, hcardinal⟩

/-- A cardinal that ends in a scale word is read with a tail that it does not
have. -/
theorem misread_two_scales :
    splitRun ["two", "million", "five", "hundred", "thousand"] =
        [["two", "million", "five", "hundred", "thousand"]] ∧
      (∀ word ∈ ["two", "million", "five", "hundred", "thousand"], isNumberWord word) ∧
      IsCardinal (["two", "million", "five", "hundred", "thousand"].filterMap NumberWord.ofText?)
        2500000 ∧
      read ["two", "million", "five", "hundred", "thousand"] = .ok (.ofNat 2501500) ∧
      ¬ IsCardinal (["two", "million", "five", "hundred", "thousand"].filterMap NumberWord.ofText?)
        2501500 := by
  have hcardinal : IsCardinal
      (Sections.words ⟨none, some [.small 2], some [.small 5, .scale .hundred], []⟩)
      (0 + 2 * Scale.million.value + 100 * 5 * Scale.thousand.value + 0) :=
    .intro (by decide) .absent (.counted (.units (.small (by decide))))
      (.counted (.counted (by decide) (by decide))) .nil
  refine ⟨by decide, by decide, hcardinal, by decide +kernel, fun hwrong => ?_⟩
  obtain ⟨heard, hvalue, hiff⟩ := hwrong.exists_value (by decide)
  have hread : Cardinal.value
      (["two", "million", "five", "hundred", "thousand"].filterMap NumberWord.ofText?) =
        .ok 2501500 := by
    decide
  rw [hread] at hvalue
  exact absurd (hiff.mp (Except.ok.inj hvalue).symm) (by decide)

end Spoken

end SpokenCalculator
