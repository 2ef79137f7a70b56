import Mathlib.Data.List.Nodup
import Mathlib.Order.Nat
import SpokenCalculator.Proofs.Number.Section

namespace SpokenCalculator.Cardinal

/-- The group before the first occurrence of a scale word, if it occurs, and the
words behind it. -/
def cut (scale : Scale) (words : List NumberWord) : Option (List NumberWord) × List NumberWord :=
  match cutAt? scale words with
  | some (before, behind) => (some before, behind)
  | none => (none, words)

section

variable {scale : Scale} {words behind : List NumberWord} {part : Option (List NumberWord)}

theorem cut_cases (scale : Scale) (words : List NumberWord) :
    (.scale scale ∉ words ∧ cut scale words = (none, words)) ∨
      ∃ before behind, words = before ++ .scale scale :: behind ∧ .scale scale ∉ before ∧
        cut scale words = (some before, behind) := by
  by_cases hmem : .scale scale ∈ words
  · obtain ⟨before, behind, rfl, hbefore⟩ := List.eq_append_cons_of_mem hmem
    exact .inr ⟨before, behind, rfl, hbefore, by rw [cut, cutAt?_append hbefore]⟩
  · exact .inl ⟨hmem, by rw [cut, cutAt?_of_not_mem hmem]⟩

theorem sectionWords_cut (scale : Scale) (words : List NumberWord) :
    sectionWords scale (cut scale words).1 ++ (cut scale words).2 = words := by
  rcases cut_cases scale words with ⟨-, hcut⟩ | ⟨before, behind, rfl, -, hcut⟩
  · rw [hcut]
    rfl
  · rw [hcut, sectionWords, List.append_assoc]
    rfl

theorem cut_sectionWords (hscale : scale ≠ .hundred) (hpart : ∀ group ∈ part, IsGroup group)
    (hbehind : .scale scale ∉ behind) :
    cut scale (sectionWords scale part ++ behind) = (part, behind) := by
  cases part with
  | none => rw [sectionWords, List.nil_append, cut, cutAt?_of_not_mem hbehind]
  | some group =>
      rw [sectionWords, List.append_assoc, List.singleton_append, cut,
        cutAt?_append (hpart group rfl scale hscale)]

end

namespace Sections

def of (words : List NumberWord) : Sections :=
  let billions := cut .billion words
  let millions := cut .million billions.2
  let thousands := cut .thousand millions.2
  ⟨billions.1, millions.1, thousands.1, thousands.2⟩

theorem words_of (words : List NumberWord) : (of words).words = words := by
  unfold Sections.words belowBillion belowMillion of
  dsimp only
  rw [sectionWords_cut, sectionWords_cut, sectionWords_cut]

theorem of_words {sections : Sections} (h : sections.IsProper) : of sections.words = sections := by
  have hbillion : cut .billion sections.words = (sections.billions, sections.belowBillion) :=
    cut_sectionWords (by decide) h.billions (billion_not_mem_belowBillion h)
  have hmillion : cut .million sections.belowBillion = (sections.millions, sections.belowMillion) :=
    cut_sectionWords (by decide) h.millions (scale_not_mem_belowMillion h (by decide) (by decide))
  have hthousand : cut .thousand sections.belowMillion = (sections.thousands, sections.last) :=
    cut_sectionWords (by decide) h.thousands (h.last .thousand (by decide))
  rw [of, hbillion]
  dsimp only
  rw [hmillion]
  dsimp only
  rw [hthousand]

end Sections

/-- The sections of a single word: a scale word from thousand up is a section of
its own, and everything else is a group. -/
theorem Sections.of_singleton (word : NumberWord) :
    Sections.of [word] = ⟨none, none, none, [word]⟩ ∨
      (word = .scale .billion ∧ Sections.of [word] = ⟨some [], none, none, []⟩) ∨
      (word = .scale .million ∧ Sections.of [word] = ⟨none, some [], none, []⟩) ∨
      (word = .scale .thousand ∧ Sections.of [word] = ⟨none, none, some [], []⟩) := by
  cases word with
  | small value => exact .inl rfl
  | tens count => exact .inl rfl
  | scale unit =>
      cases unit with
      | hundred => exact .inl rfl
      | thousand => exact .inr (.inr (.inr ⟨rfl, rfl⟩))
      | million => exact .inr (.inr (.inl ⟨rfl, rfl⟩))
      | billion => exact .inr (.inl ⟨rfl, rfl⟩)

def isLarge : NumberWord → Bool
  | .scale unit => unit ≠ .hundred
  | _ => false

def Descends (words : List NumberWord) : Prop :=
  (words.filter isLarge).Pairwise fun word other => other.value < word.value

instance (words : List NumberWord) : Decidable (Descends words) :=
  inferInstanceAs (Decidable (List.Pairwise _ _))

section

variable {scale other : Scale} {words before behind : List NumberWord}

theorem value_injective (h : scale.value = other.value) : scale = other := by
  cases scale <;> cases other <;> first | rfl | cases h

theorem Descends.append (h : Descends (before ++ .scale scale :: behind))
    (hscale : scale ≠ .hundred) :
    (∀ other : Scale, other ≠ .hundred → .scale other ∈ before → scale.value < other.value) ∧
      Descends behind ∧
      ∀ other : Scale, other ≠ .hundred → .scale other ∈ behind → other.value < scale.value := by
  have hlarge : ∀ other : Scale, other ≠ .hundred → isLarge (.scale other) = true :=
    fun other hother => by simpa [isLarge] using hother
  rw [Descends, List.filter_append, List.filter_cons, if_pos (hlarge scale hscale),
    List.pairwise_append, List.pairwise_cons] at h
  obtain ⟨-, ⟨hbelow, hbehind⟩, habove⟩ := h
  refine ⟨fun other hother hmem => ?_, hbehind, fun other hother hmem => ?_⟩
  · exact habove _ (List.mem_filter.mpr ⟨hmem, hlarge other hother⟩) _ List.mem_cons_self
  · exact hbelow _ (List.mem_filter.mpr ⟨hmem, hlarge other hother⟩)

/-- Below the scale words that have been cut off, the next one takes a group
before it and leaves smaller ones behind. -/
theorem Descends.cut (h : Descends words) (scale : Scale) (hscale : scale ≠ .hundred)
    (hbelow : ∀ larger : Scale, scale.value < larger.value → .scale larger ∉ words) :
    (∀ group ∈ (cut scale words).1, IsGroup group) ∧ Descends (Cardinal.cut scale words).2 ∧
      ∀ larger : Scale, scale.value ≤ larger.value →
        .scale larger ∉ (Cardinal.cut scale words).2 := by
  rcases cut_cases scale words with ⟨hnone, hcut⟩ | ⟨before, behind, rfl, -, hcut⟩
  · rw [hcut]
    refine ⟨by simp, h, fun larger hle hmem => ?_⟩
    rcases Nat.lt_or_eq_of_le hle with hlt | heq
    · exact hbelow larger hlt hmem
    · exact hnone (value_injective heq ▸ hmem)
  · obtain ⟨habove, hbehind, hsmaller⟩ := h.append hscale
    rw [hcut]
    refine ⟨?_, hbehind, fun larger hle hmem => ?_⟩
    · rintro _ ⟨⟩ other hother hmem
      exact hbelow other (habove other hother hmem) (List.mem_append_left _ hmem)
    · have hlarge : larger ≠ .hundred := by
        rintro rfl
        have := le_value hscale
        simp only [Scale.value] at hle this
        omega
      have := hsmaller larger hlarge hmem
      omega

theorem Descends.isProper (h : Descends words) : (Sections.of words).IsProper := by
  have hnone : ∀ larger : Scale, ¬ Scale.billion.value < larger.value := by
    intro larger
    cases larger <;> decide
  have hbillion : ∀ larger : Scale, Scale.million.value < larger.value →
      Scale.billion.value ≤ larger.value := by
    intro larger
    cases larger <;> decide
  have hmillion : ∀ larger : Scale, Scale.thousand.value < larger.value →
      Scale.million.value ≤ larger.value := by
    intro larger
    cases larger <;> decide
  obtain ⟨hbillions, hrest, hless⟩ := h.cut .billion (by decide)
    fun larger hlt => absurd hlt (hnone larger)
  obtain ⟨hmillions, hrest, hless⟩ := hrest.cut .million (by decide)
    fun larger hlt => hless larger (hbillion larger hlt)
  obtain ⟨hthousands, -, hless⟩ := hrest.cut .thousand (by decide)
    fun larger hlt => hless larger (hmillion larger hlt)
  exact ⟨hbillions, hmillions, hthousands, fun other hother => hless other (le_value hother)⟩

/-- A scale word that stands before another one precedes it, if that one does
not stand before it as well. -/
theorem precedes_append (hbefore : .scale other ∉ before) (hne : scale ≠ other)
    (hbehind : .scale other ∈ behind) :
    precedes scale other (before ++ .scale scale :: behind) = true := by
  have hscale : .scale scale ∈ before ++ [.scale scale] := by simp
  have hother : .scale other ∉ before ++ [.scale scale] := by
    simp [hbefore, hne.symm]
  rw [List.append_cons]
  obtain ⟨place, hplace⟩ := Option.isSome_iff_exists.mp
    (List.isSome_idxOf?.mpr (List.mem_append_left behind hscale))
  obtain ⟨place', hplace'⟩ := Option.isSome_iff_exists.mp
    (List.isSome_idxOf?.mpr (List.mem_append_right (before ++ [.scale scale]) hbehind))
  have hlow := lt_length_of_idxOf? hscale hplace
  have hhigh := length_le_of_idxOf? hother hplace'
  rw [precedes, hplace, hplace', decide_eq_true_eq]
  omega

theorem isDisordered_of_precedes (hscale : scale ≠ .hundred) (hlt : scale.value < other.value)
    (h : precedes scale other words = true) : isDisordered words = true := by
  rw [isDisordered, Bool.or_eq_true, Bool.or_eq_true]
  cases scale <;> cases other <;> first | contradiction | simp [h]

theorem exists_scale_of_isLarge {word : NumberWord} (h : isLarge word = true) :
    ∃ scale : Scale, scale ≠ .hundred ∧ word = .scale scale := by
  cases word with
  | small value => cases h
  | tens count => cases h
  | scale unit => exact ⟨unit, by simpa [isLarge] using h, rfl⟩

/-- Two scale words from thousand up that do not descend are the same one twice,
or they are in the wrong order. -/
theorem repeated_or_isDisordered (h : ¬ Descends words) :
    (∃ scale : Scale, scale ≠ .hundred ∧ 1 < words.count (.scale scale)) ∨
      isDisordered words = true := by
  rw [Descends, List.pairwise_iff_forall_sublist] at h
  push Not at h
  obtain ⟨first, second, hfiltered, hle⟩ := h
  obtain ⟨scale, hscale, rfl⟩ :=
    exists_scale_of_isLarge (List.of_mem_filter (hfiltered.mem (by simp : first ∈ _)))
  obtain ⟨other, hother, rfl⟩ :=
    exists_scale_of_isLarge (List.of_mem_filter (hfiltered.mem (by simp : second ∈ _)))
  have hsublist := hfiltered.trans List.filter_sublist
  rcases Nat.lt_or_eq_of_le hle with hlt | heq
  -- Only first occurrences are compared: a larger scale word that is also in
  -- front of the smaller one is not found, but then it is repeated.
  · by_cases hcount : 1 < words.count (.scale other)
    · exact .inl ⟨other, hother, hcount⟩
    · obtain ⟨front, back, rfl, hfront, hback⟩ := List.cons_sublist_iff.mp hsublist
      obtain ⟨before, between, rfl⟩ := List.append_of_mem hfront
      rw [List.singleton_sublist] at hback
      have hbefore : .scale other ∉ before := by
        intro hmem
        have hpos := List.count_pos_iff.mpr hmem
        have hpos' := List.count_pos_iff.mpr hback
        rw [List.count_append, List.count_append] at hcount
        omega
      have hne : scale ≠ other := by
        rintro rfl
        exact lt_irrefl _ hlt
      have hprecedes := precedes_append hbefore hne (List.mem_append_right between hback)
      refine .inr (isDisordered_of_precedes hscale hlt ?_)
      rwa [List.append_assoc]
  · obtain rfl := value_injective heq
    have hcount := hsublist.count_le (.scale scale)
    rw [List.count_cons_self, List.count_cons_self] at hcount
    exact .inl ⟨scale, hscale, by omega⟩

theorem Descends.count_le (h : Descends words) (hscale : scale ≠ .hundred) :
    words.count (.scale scale) ≤ 1 := by
  have hnodup : (words.filter isLarge).Nodup :=
    List.Pairwise.imp (fun hlt heq => absurd hlt (by rw [heq]; exact lt_irrefl _)) h
  have hlarge : isLarge (.scale scale) = true := by simpa [isLarge] using hscale
  rw [← List.count_filter hlarge]
  exact List.nodup_iff_count_le_one.mp hnodup _

end

end SpokenCalculator.Cardinal
