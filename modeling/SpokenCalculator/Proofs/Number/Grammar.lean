import Mathlib.Tactic.Linarith
import SpokenCalculator.Proofs.Number.Section

namespace SpokenCalculator.Cardinal

inductive IsUnits : List NumberWord → ℕ → Prop
  | small {value : ℕ} (h : value < 20) : IsUnits [.small value] value
  | tens {count : ℕ} (hlow : 2 ≤ count) (h : count < 10) : IsUnits [.tens count] (10 * count)
  | both {count value : ℕ} (hlow : 2 ≤ count) (h : count < 10) (hpos : 0 < value)
      (hvalue : value < 10) : IsUnits [.tens count, .small value] (10 * count + value)

/-- A number below two thousand: units, or hundreds with a count of at most
nineteen or without one, perhaps with units behind them. -/
inductive IsHundreds : List NumberWord → ℕ → Prop
  | units {words : List NumberWord} {n : ℕ} (h : IsUnits words n) : IsHundreds words n
  | bare : IsHundreds [.scale .hundred] 100
  | bareUnits {words : List NumberWord} {n : ℕ} (h : IsUnits words n) :
      IsHundreds (.scale .hundred :: words) (100 + n)
  | counted {count : ℕ} (hpos : 0 < count) (hcount : count < 20) :
      IsHundreds [.small count, .scale .hundred] (100 * count)
  | countedUnits {count : ℕ} {words : List NumberWord} {n : ℕ} (hpos : 0 < count)
      (hcount : count < 20) (h : IsUnits words n) :
      IsHundreds (.small count :: .scale .hundred :: words) (100 * count + n)

/-- A group with a scale word behind it. The scale word alone counts one. -/
inductive IsSection (scale : Scale) : Option (List NumberWord) → ℕ → Prop
  | absent : IsSection scale none 0
  | bare : IsSection scale (some []) scale.value
  | counted {words : List NumberWord} {n : ℕ} (h : IsHundreds words n) :
      IsSection scale (some words) (n * scale.value)

inductive IsLast : List NumberWord → ℕ → Prop
  | nil : IsLast [] 0
  | hundreds {words : List NumberWord} {n : ℕ} (h : IsHundreds words n) : IsLast words n

inductive IsCardinal : List NumberWord → ℕ → Prop
  | intro {sections : Sections} {billions millions thousands last : ℕ}
      (hne : sections.words ≠ [])
      (hbillions : IsSection .billion sections.billions billions)
      (hmillions : IsSection .million sections.millions millions)
      (hthousands : IsSection .thousand sections.thousands thousands)
      (hlast : IsLast sections.last last) :
      IsCardinal sections.words (billions + millions + thousands + last)

/-- Hundreds in a group have a count, or nothing stands with them. -/
def IsClear (words : List NumberWord) : Prop :=
  words.head? = some (.scale .hundred) → words = [.scale .hundred]

instance (words : List NumberWord) : Decidable (IsClear words) :=
  inferInstanceAs (Decidable (_ → _))

/-- What is heard for a count. Where the words are not clear, the hundred is
multiplied by the first word behind it. -/
def IsHeardAs (clear : Prop) (count heard : ℕ) : Prop :=
  clear ∧ heard = count ∨
    ¬ clear ∧ ∃ first second, first ≤ 90 ∧ second ≤ 9 ∧ count = 100 + first + second ∧
      heard = 100 * first + second

section

variable {words : List NumberWord} {n : ℕ}

namespace IsUnits

theorem ne_nil (h : IsUnits words n) : words ≠ [] := by
  cases h <;> exact List.cons_ne_nil _ _

theorem isClear (h : IsUnits words n) : IsClear words := by
  cases h <;> simp [IsClear]

theorem isGroup (h : IsUnits words n) : IsGroup words := by
  cases h <;> simp [IsGroup]

theorem wordsValue_eq (h : IsUnits words n) : wordsValue words = .ok n := by
  cases h with
  | small h => rfl
  | tens hlow h => rfl
  | both hlow h hpos hvalue =>
      rename_i count value
      have hplain : ¬ (10 * count = 100 ∨ value = 100) := by omega
      exact congrArg Except.ok (if_neg hplain)

theorem exists_wordsValue_scale (h : IsUnits words n) {scale : Scale} (hscale : scale ≠ .hundred) :
    ∃ tail, wordsValue (words ++ [.scale scale]) = .ok tail ∧ 0 < tail ∧
      tail ≤ 100 * scale.value := by
  have hlarge := le_value hscale
  cases h with
  | small h =>
      have hplain : ¬ (n = 100 ∨ scale.value = 100) := by omega
      exact ⟨n + scale.value, congrArg Except.ok (if_neg hplain), by omega, by omega⟩
  | tens hlow h =>
      rename_i count
      have hplain : ¬ (10 * count = 100 ∨ scale.value = 100) := by omega
      exact ⟨10 * count + scale.value, congrArg Except.ok (if_neg hplain), by omega, by omega⟩
  | both hlow h hpos hvalue =>
      rename_i count value
      have hproduct : 10 * count * value ≤ 90 * 9 := Nat.mul_le_mul (by omega) (by omega)
      exact ⟨10 * count * value + scale.value, rfl, by omega, by omega⟩

/-- Units behind a hundred without a count are hundreds themselves. -/
theorem exists_wordsValue_bare (h : IsUnits words n) :
    ∃ first second, first ≤ 90 ∧ second ≤ 9 ∧ n = first + second ∧
      wordsValue (.scale .hundred :: words) = .ok (100 * first + second) ∧
      ∀ scale : Scale, wordsValue (.scale .hundred :: words ++ [.scale scale]) =
        .ok (100 * first + second + scale.value) := by
  cases h with
  | small h => exact ⟨n, 0, by omega, by omega, rfl, rfl, fun _ => rfl⟩
  | tens hlow h =>
      rename_i count
      exact ⟨10 * count, 0, by omega, by omega, rfl, rfl, fun _ => rfl⟩
  | both hlow h hpos hvalue =>
      rename_i count value
      exact ⟨10 * count, value, by omega, by omega, rfl, rfl, fun _ => rfl⟩

theorem wordsValue_counted (h : IsUnits words n) (count : ℕ) :
    wordsValue (.small count :: .scale .hundred :: words) = .ok (100 * count + n) := by
  rw [Nat.mul_comm]
  cases h with
  | small h => rfl
  | tens hlow h => rfl
  | both hlow h hpos hvalue => exact congrArg Except.ok (Nat.add_assoc _ _ _)

theorem exists_wordsValue_counted_scale (h : IsUnits words n) {count : ℕ} (hpos : 0 < count)
    (hcount : count < 20) {scale : Scale} (hscale : scale ≠ .hundred) :
    ∃ tail, wordsValue (.small count :: .scale .hundred :: words ++ [.scale scale]) = .ok tail ∧
      0 < tail ∧ tail ≤ 100 * scale.value := by
  have hlarge := le_value hscale
  cases h with
  | small h => exact ⟨count * 100 + n + scale.value, rfl, by omega, by omega⟩
  | tens hlow h =>
      rename_i tens
      exact ⟨count * 100 + 10 * tens + scale.value, rfl, by omega, by omega⟩
  | both hlow h hpos' hvalue => exact ⟨count, rfl, by omega, by omega⟩

end IsUnits

/-- What is heard if a group is read together with the scale word behind it. -/
def IsTailOf (clear : Prop) (heard limit tail : ℕ) : Prop :=
  clear ∧ 0 < tail ∧ tail ≤ 100 * limit ∨ ¬ clear ∧ tail = heard + limit

/-- What is heard for a section: its group by itself and, if it is read as the
tail, together with the scale word behind it. -/
structure IsHeardSection (scale : Scale) (part : Option (List NumberWord)) (count heard : ℕ) :
    Prop where
  value : sectionValue scale part = .ok (heard * scale.value)
  isHeardAs : IsHeardAs (∀ words ∈ part, IsClear words) count heard
  exists_tail : ∀ words ∈ part, ∃ tail, wordsValue (words ++ [.scale scale]) = .ok tail ∧
    IsTailOf (∀ words ∈ part, IsClear words) heard scale.value tail
  eq_zero : part = none → count = 0 ∧ heard = 0

namespace IsHundreds

theorem ne_nil (h : IsHundreds words n) : words ≠ [] := by
  cases h with
  | units h => exact h.ne_nil
  | _ => exact List.cons_ne_nil _ _

theorem isGroup (h : IsHundreds words n) : IsGroup words := by
  cases h with
  | units h => exact h.isGroup
  | bare => simp [IsGroup]
  | bareUnits h =>
      intro scale hscale
      simp [hscale, h.isGroup scale hscale]
  | counted => simp [IsGroup]
  | countedUnits _ _ h =>
      intro scale hscale
      simp [hscale, h.isGroup scale hscale]

theorem not_isClear_bareUnits (h : IsUnits words n) : ¬ IsClear (.scale .hundred :: words) := by
  simp [IsClear, h.ne_nil]

/-- A group is heard by itself, or together with the scale word behind it. -/
theorem exists_heard (h : IsHundreds words n) :
    ∃ heard, wordsValue words = .ok heard ∧ IsHeardAs (IsClear words) n heard ∧
      ∀ scale : Scale, scale ≠ .hundred → ∃ tail, wordsValue (words ++ [.scale scale]) = .ok tail ∧
        IsTailOf (IsClear words) heard scale.value tail := by
  cases h with
  | units h =>
      refine ⟨n, h.wordsValue_eq, .inl ⟨h.isClear, rfl⟩, fun scale hscale => ?_⟩
      obtain ⟨tail, htail, hbounds⟩ := h.exists_wordsValue_scale hscale
      exact ⟨tail, htail, .inl ⟨h.isClear, hbounds⟩⟩
  | bare =>
      have hclear : IsClear [.scale .hundred] := fun _ => rfl
      refine ⟨100, rfl, .inl ⟨hclear, rfl⟩, fun scale hscale => ?_⟩
      have hlarge := le_value hscale
      exact ⟨100 * scale.value, rfl, .inl ⟨hclear, by omega, Nat.le_refl _⟩⟩
  | bareUnits h =>
      have hnot := not_isClear_bareUnits h
      obtain ⟨first, second, hfirst, hsecond, hsum, hvalue, htail⟩ := h.exists_wordsValue_bare
      exact ⟨_, hvalue, .inr ⟨hnot, first, second, hfirst, hsecond, by omega, rfl⟩,
        fun scale _ => ⟨_, htail scale, .inr ⟨hnot, rfl⟩⟩⟩
  | counted hpos hcount =>
      rename_i count
      have hclear : IsClear [.small count, .scale .hundred] := by simp [IsClear]
      have hvalue : wordsValue [.small count, .scale .hundred] = .ok (count * 100) :=
        congrArg Except.ok (if_pos (.inr rfl))
      rw [Nat.mul_comm] at hvalue
      refine ⟨_, hvalue, .inl ⟨hclear, rfl⟩, fun scale hscale => ?_⟩
      have hlarge := le_value hscale
      exact ⟨count * 100 + scale.value, rfl, .inl ⟨hclear, by omega, by omega⟩⟩
  | countedUnits hpos hcount h =>
      rename_i count words n
      have hclear : IsClear (.small count :: .scale .hundred :: words) := by simp [IsClear]
      refine ⟨_, h.wordsValue_counted count, .inl ⟨hclear, rfl⟩, fun scale hscale => ?_⟩
      obtain ⟨tail, htail, hbounds⟩ := h.exists_wordsValue_counted_scale hpos hcount hscale
      exact ⟨tail, htail, .inl ⟨hclear, hbounds⟩⟩

end IsHundreds

end

namespace IsHeardAs

variable {clear : Prop} {count heard : ℕ}

/-- A count that is not heard right is not even heard right up to thousands. -/
theorem clear_of_mod (h : IsHeardAs clear count heard) (hmod : heard % 1000 = count % 1000) :
    clear ∧ heard = count := by
  rcases h with hclear | ⟨-, first, second, hfirst, hsecond, rfl, rfl⟩
  · exact hclear
  · omega

theorem eq_of_clear (h : IsHeardAs clear count heard) (hclear : clear) : heard = count := by
  rcases h with ⟨-, heq⟩ | ⟨hnot, -⟩
  · exact heq
  · exact absurd hclear hnot

theorem of_nothing (h : clear) : IsHeardAs clear 0 0 := .inl ⟨h, rfl⟩

end IsHeardAs

/-- Misheard groups do not make up for each other. -/
theorem heard_eq_iff {clear₁ clear₂ clear₃ clear₄ : Prop}
    {count₁ count₂ count₃ count₄ heard₁ heard₂ heard₃ heard₄ : ℕ}
    (h₁ : IsHeardAs clear₁ count₁ heard₁) (h₂ : IsHeardAs clear₂ count₂ heard₂)
    (h₃ : IsHeardAs clear₃ count₃ heard₃) (h₄ : IsHeardAs clear₄ count₄ heard₄) :
    heard₁ * Scale.billion.value + heard₂ * Scale.million.value +
          heard₃ * Scale.thousand.value + heard₄ =
        count₁ * Scale.billion.value + count₂ * Scale.million.value +
          count₃ * Scale.thousand.value + count₄ ↔
      clear₁ ∧ clear₂ ∧ clear₃ ∧ clear₄ := by
  simp only [Scale.value]
  constructor
  -- From the last group up, as a group that is misheard is wrong modulo thousand.
  · intro heq
    obtain ⟨hclear₄, rfl⟩ := h₄.clear_of_mod (by omega)
    obtain ⟨hclear₃, rfl⟩ := h₃.clear_of_mod (by omega)
    obtain ⟨hclear₂, rfl⟩ := h₂.clear_of_mod (by omega)
    obtain ⟨hclear₁, rfl⟩ := h₁.clear_of_mod (by omega)
    exact ⟨hclear₁, hclear₂, hclear₃, hclear₄⟩
  · rintro ⟨hclear₁, hclear₂, hclear₃, hclear₄⟩
    rw [h₁.eq_of_clear hclear₁, h₂.eq_of_clear hclear₂, h₃.eq_of_clear hclear₃,
      h₄.eq_of_clear hclear₄]

/-- A group that is heard twice is heard wrong, whatever is heard before it. -/
theorem heard_ne_of_tail {clear : Prop} {count heard tail unit : ℕ}
    (hunit : unit = Scale.thousand.value ∨ unit = Scale.million.value)
    (h : IsHeardAs clear count heard) (htail : IsTailOf clear heard unit tail)
    (higher higher' : ℕ) :
    higher' * (1000 * unit) + heard * unit + tail ≠ higher * (1000 * unit) + count * unit := by
  simp only [Scale.value] at hunit
  rcases h with ⟨hclear, rfl⟩ | ⟨hnot, first, second, hfirst, hsecond, rfl, rfl⟩
  · rcases htail with ⟨-, hpos, hle⟩ | ⟨hnot, -⟩
    · rcases hunit with rfl | rfl <;> omega
    · exact absurd hclear hnot
  · rcases htail with ⟨hclear, -⟩ | ⟨-, rfl⟩
    · exact absurd hclear hnot
    · rcases hunit with rfl | rfl <;> omega

section

variable {scale : Scale} {part : Option (List NumberWord)} {n : ℕ}

theorem IsSection.isGroup (h : IsSection scale part n) : ∀ words ∈ part, IsGroup words := by
  rintro words hwords
  cases h with
  | absent => contradiction
  | bare =>
      cases hwords
      exact fun _ _ => List.not_mem_nil
  | counted h =>
      cases hwords
      exact h.isGroup

theorem IsLast.isGroup {words : List NumberWord} (h : IsLast words n) : IsGroup words := by
  cases h with
  | nil => exact fun _ _ => List.not_mem_nil
  | hundreds h => exact h.isGroup

theorem IsSection.eq_zero (h : IsSection scale none n) : n = 0 := by
  cases h
  rfl

/-- A section has a value unless its scale word stands alone. -/
theorem IsSection.exists_heard (h : IsSection scale part n) (hbare : part ≠ some [])
    (hscale : scale ≠ .hundred) :
    ∃ count heard, n = count * scale.value ∧ IsHeardSection scale part count heard := by
  cases h with
  | absent =>
      have hvalue : sectionValue scale none = .ok (0 * scale.value) := by
        rw [Nat.zero_mul]
        rfl
      exact ⟨0, 0, (Nat.zero_mul _).symm, hvalue, .of_nothing (by simp), by simp,
        fun _ => ⟨rfl, rfl⟩⟩
  | bare => exact absurd rfl hbare
  | counted h =>
      rename_i words count
      obtain ⟨heard, hvalue, hheard, htail⟩ := h.exists_heard
      have hclear : (∀ other ∈ some words, IsClear other) ↔ IsClear words := by simp
      rw [← hclear] at hheard
      simp only [← hclear] at htail
      refine ⟨count, heard, rfl, ?_, hheard, ?_, nofun⟩
      · rw [sectionValue, hvalue]
        rfl
      · rintro other ⟨⟩
        exact htail scale hscale

theorem IsLast.eq_zero (h : IsLast [] n) : n = 0 := by
  cases h with
  | nil => rfl
  | hundreds h => exact absurd rfl h.ne_nil

theorem IsLast.exists_heard {words : List NumberWord} (h : IsLast words n) :
    ∃ heard, (if words = [] then .ok 0 else wordsValue words) = .ok heard ∧
      IsHeardAs (IsClear words) n heard := by
  cases h with
  | nil => exact ⟨0, rfl, .of_nothing (by simp [IsClear])⟩
  | hundreds h =>
      obtain ⟨heard, hvalue, hheard, -⟩ := h.exists_heard
      exact ⟨heard, (if_neg h.ne_nil).trans hvalue, hheard⟩

end

namespace Sections

/-- No group has hundreds without a count before units, and words that end in a
scale word from thousand up have no other one before. -/
structure IsPlain (sections : Sections) : Prop where
  billions : ∀ words ∈ sections.billions, IsClear words
  millions : ∀ words ∈ sections.millions, IsClear words
  thousands : ∀ words ∈ sections.thousands, IsClear words
  last : IsClear sections.last
  single : sections.last = [] → sections.scaleCount ≤ 1

/-- A scale word from thousand up stands without a group before it. -/
def HasBareScale (sections : Sections) : Prop :=
  some [] ∈ [sections.billions, sections.millions, sections.thousands]

instance (sections : Sections) : Decidable sections.IsPlain :=
  decidable_of_iff
    ((∀ words ∈ sections.billions, IsClear words) ∧ (∀ words ∈ sections.millions, IsClear words) ∧
      (∀ words ∈ sections.thousands, IsClear words) ∧ IsClear sections.last ∧
      (sections.last = [] → sections.scaleCount ≤ 1))
    ⟨fun ⟨h₁, h₂, h₃, h₄, h₅⟩ => ⟨h₁, h₂, h₃, h₄, h₅⟩,
      fun h => ⟨h.billions, h.millions, h.thousands, h.last, h.single⟩⟩

instance (sections : Sections) : Decidable sections.HasBareScale :=
  inferInstanceAs (Decidable (_ ∈ _))

variable {sections : Sections}

/-- The last section is heard twice if another scale word stands before, and no
section before it makes up for that. -/
theorem exists_tail_ne {count₂ count₃ heard₂ heard₃ : ℕ}
    (h₂ : IsHeardSection .million sections.millions count₂ heard₂)
    (h₃ : IsHeardSection .thousand sections.thousands count₃ heard₃)
    (hlast : sections.last = []) (hscales : 1 < sections.scaleCount) (count₁ heard₁ : ℕ) :
    ∃ tail, (if sections.tail = [] then .ok 0 else wordsValue sections.tail) = .ok tail ∧
      heard₁ * Scale.billion.value + heard₂ * Scale.million.value +
          heard₃ * Scale.thousand.value + tail ≠
        count₁ * Scale.billion.value + count₂ * Scale.million.value +
          count₃ * Scale.thousand.value := by
  rcases tail_of_last_eq_nil hlast with
    ⟨hle, -⟩ | ⟨-, group, ⟨hsome, htail⟩ | ⟨hnone, hsome, htail⟩⟩
  · omega
  · obtain ⟨tail, hvalue, htailOf⟩ := h₃.exists_tail group hsome
    have hne := heard_ne_of_tail (.inl rfl) h₃.isHeardAs htailOf (count₁ * 1000 + count₂)
      (heard₁ * 1000 + heard₂)
    rw [htail, if_neg (by simp)]
    refine ⟨tail, hvalue, fun heq => hne ?_⟩
    simp only [Scale.value] at heq ⊢
    linarith
  · obtain ⟨tail, hvalue, htailOf⟩ := h₂.exists_tail group hsome
    have hne := heard_ne_of_tail (.inr rfl) h₂.isHeardAs htailOf count₁ heard₁
    obtain ⟨rfl, rfl⟩ := h₃.eq_zero hnone
    rw [htail, if_neg (by simp)]
    refine ⟨tail, hvalue, fun heq => hne ?_⟩
    simp only [Scale.value] at heq ⊢
    linarith

variable {billions millions thousands last : ℕ}
  (hbillions : IsSection .billion sections.billions billions)
  (hmillions : IsSection .million sections.millions millions)
  (hthousands : IsSection .thousand sections.thousands thousands)
  (hlast : IsLast sections.last last)

include hbillions hmillions hthousands hlast

theorem isProper_of_isSection : sections.IsProper :=
  ⟨hbillions.isGroup, hmillions.isGroup, hthousands.isGroup, hlast.isGroup⟩

/-- A cardinal without bare scale words is heard, and heard right exactly if it
is plain. -/
theorem exists_value (hlength : 2 ≤ sections.words.length) (hbare : ¬ sections.HasBareScale) :
    ∃ heard, value sections.words = .ok heard ∧
      (heard = billions + millions + thousands + last ↔ sections.IsPlain) := by
  have hproper := isProper_of_isSection hbillions hmillions hthousands hlast
  simp only [HasBareScale, List.mem_cons, List.not_mem_nil, or_false, not_or] at hbare
  obtain ⟨count₁, heard₁, rfl, h₁⟩ := hbillions.exists_heard (Ne.symm hbare.1) (by decide)
  obtain ⟨count₂, heard₂, rfl, h₂⟩ := hmillions.exists_heard (Ne.symm hbare.2.1) (by decide)
  obtain ⟨count₃, heard₃, rfl, h₃⟩ := hthousands.exists_heard (Ne.symm hbare.2.2) (by decide)
  rw [value_words hproper hlength h₁.value h₂.value h₃.value]
  by_cases hnil : sections.last = []
  · obtain rfl := (hnil ▸ hlast).eq_zero
    by_cases hscales : sections.scaleCount ≤ 1
    · have htail : sections.tail = [] := by
        rcases tail_of_last_eq_nil hnil with ⟨-, htail⟩ | ⟨hlt, -⟩
        · exact htail
        · omega
      have hclear : IsClear sections.last := by simp [hnil, IsClear]
      rw [htail, if_pos rfl]
      refine ⟨_, rfl, ?_⟩
      rw [heard_eq_iff h₁.isHeardAs h₂.isHeardAs h₃.isHeardAs (.of_nothing hclear)]
      exact ⟨fun ⟨h₁, h₂, h₃, h₄⟩ => ⟨h₁, h₂, h₃, h₄, fun _ => hscales⟩,
        fun h => ⟨h.billions, h.millions, h.thousands, h.last⟩⟩
    · obtain ⟨tail, hvalue, hne⟩ := exists_tail_ne h₂ h₃ hnil (by omega) count₁ heard₁
      rw [hvalue]
      refine ⟨_, rfl, iff_of_false ?_ fun h => hscales (h.single hnil)⟩
      rw [Nat.add_zero]
      exact hne
  · obtain ⟨heard₄, hvalue₄, hheard₄⟩ := hlast.exists_heard
    rw [tail_of_last_ne_nil hnil, hvalue₄]
    refine ⟨_, rfl, ?_⟩
    rw [heard_eq_iff h₁.isHeardAs h₂.isHeardAs h₃.isHeardAs hheard₄]
    exact ⟨fun ⟨h₁, h₂, h₃, h₄⟩ => ⟨h₁, h₂, h₃, h₄, fun h => absurd h hnil⟩,
      fun h => ⟨h.billions, h.millions, h.thousands, h.last⟩⟩

end Sections

end SpokenCalculator.Cardinal
