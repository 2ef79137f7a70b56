import Mathlib.Data.List.Chain
import Mathlib.Data.List.SplitBy
import SpokenCalculator.Number.Run
import SpokenCalculator.Proofs.Number.Section
import SpokenCalculator.Proofs.Number.Spoken

namespace SpokenCalculator

namespace Cardinal

open NumberWord (group)

variable {n : ℕ}

/-- The words before a scale word, and that word. Nothing is said where nothing
is counted. -/
def segment (scale : Scale) (count : ℕ) : List NumberWord :=
  if count = 0 then [] else group count ++ [.scale scale]

def lastGroup (count : ℕ) : List NumberWord := if count = 0 then [] else group count

/-- The group before a scale word, if anything is counted. -/
def counted (count : ℕ) : Option (List NumberWord) :=
  if count = 0 then none else some (group count)

variable {scale : Scale} {count : ℕ}

theorem eq_of_counted_eq_some {words : List NumberWord} (h : counted count = some words) :
    count ≠ 0 ∧ words = group count := by
  unfold counted at h
  split at h
  · contradiction
  · rename_i hne
    exact ⟨hne, (Option.some.inj h).symm⟩

theorem isGroup_group (h : count < 1000) : IsGroup (group count) := by
  intro scale hscale hmem
  have hword := NumberWord.isGroupWord_of_mem_group (by omega : count < 2000) _ hmem
  exact hscale (hword.scale scale rfl)

theorem isGroup_lastGroup (h : count < 1000) : IsGroup (lastGroup count) := by
  unfold lastGroup
  split
  · exact fun _ _ => List.not_mem_nil
  · exact isGroup_group h

theorem isGroup_counted (h : count < 1000) : ∀ words ∈ counted count, IsGroup words := by
  intro words hwords
  rw [(eq_of_counted_eq_some hwords).2]
  exact isGroup_group h

theorem segment_eq (scale : Scale) (count : ℕ) :
    segment scale count = sectionWords scale (counted count) := by
  unfold segment counted
  split <;> rfl

theorem scale_not_mem_segment {other : Scale} (hscale : scale ≠ .hundred) (hother : scale ≠ other)
    (h : count < 1000) : .scale scale ∉ segment other count := by
  rw [segment_eq]
  exact scale_not_mem_sectionWords hscale hother (isGroup_counted h)

theorem sectionValue_counted (scale : Scale) (count : ℕ) :
    sectionValue scale (counted count) = .ok (count * scale.value) := by
  unfold counted
  split
  · rename_i hzero
    rw [hzero, Nat.zero_mul]
    rfl
  · rw [sectionValue, wordsValue_group]
    rfl

section

variable {billions millions thousands ones : ℕ}

def belowMillion (thousands ones : ℕ) : List NumberWord :=
  segment .thousand thousands ++ lastGroup ones

def belowBillion (millions thousands ones : ℕ) : List NumberWord :=
  segment .million millions ++ belowMillion thousands ones

/-- The words of four groups, the largest first. -/
def groupsOf (billions millions thousands ones : ℕ) : List NumberWord :=
  segment .billion billions ++ belowBillion millions thousands ones

def sectionsOf (billions millions thousands ones : ℕ) : Sections :=
  ⟨counted billions, counted millions, counted thousands, lastGroup ones⟩

theorem words_sectionsOf (billions millions thousands ones : ℕ) :
    (sectionsOf billions millions thousands ones).words =
      groupsOf billions millions thousands ones := by
  rw [groupsOf, belowBillion, belowMillion, segment_eq, segment_eq, segment_eq]
  rfl

theorem exists_segment_value_pos (scale : Scale) (hne : count ≠ 0) :
    ∃ value, wordsValue (group count ++ [.scale scale]) = .ok value ∧ 0 < value := by
  refine exists_wordsValue_pos (by simp) ?_
  intro word hword
  rcases List.mem_append.mp hword with hgroup | hscale
  · exact NumberWord.value_pos_of_mem_group hne hgroup
  · rw [List.mem_singleton.mp hscale]
    cases scale <;> decide

theorem scaleCount_sectionsOf (billions millions thousands ones : ℕ) :
    (sectionsOf billions millions thousands ones).scaleCount =
      [billions, millions, thousands].countP (· ≠ 0) := by
  have hsome : ∀ count, (counted count).isSome = decide (count ≠ 0) := by
    intro count
    by_cases hzero : count = 0 <;> simp [counted, hzero]
  simp [Sections.scaleCount, sectionsOf, List.countP_cons, hsome]

theorem exists_tailValue (billions millions thousands ones : ℕ) :
    ∃ tail, (if (sectionsOf billions millions thousands ones).tail = [] then .ok 0
        else wordsValue (sectionsOf billions millions thousands ones).tail) = .ok tail ∧
      ones ≤ tail ∧
      (tail = ones ↔ ones ≠ 0 ∨ [billions, millions, thousands, ones].countP (· ≠ 0) ≤ 1) := by
  by_cases hlast : ones = 0
  · subst hlast
    have hcount : [billions, millions, thousands, 0].countP (· ≠ 0) =
        (sectionsOf billions millions thousands 0).scaleCount := by
      rw [scaleCount_sectionsOf]
      simp [List.countP_cons]
    rw [hcount]
    rcases Sections.tail_of_last_eq_nil
        (rfl : (sectionsOf billions millions thousands 0).last = []) with
      ⟨hle, hnil⟩ | ⟨hlt, words, htail⟩
    · rw [if_pos hnil]
      exact ⟨0, rfl, le_rfl, iff_of_true rfl (.inr hle)⟩
    · obtain ⟨value, hvalue, hpos⟩ : ∃ value,
          wordsValue (sectionsOf billions millions thousands 0).tail = .ok value ∧ 0 < value := by
        rcases htail with ⟨hthousands, htail⟩ | ⟨-, hmillions, htail⟩
        · obtain ⟨hne, rfl⟩ := eq_of_counted_eq_some hthousands
          exact htail ▸ exists_segment_value_pos .thousand hne
        · obtain ⟨hne, rfl⟩ := eq_of_counted_eq_some hmillions
          exact htail ▸ exists_segment_value_pos .million hne
      have hsome : (sectionsOf billions millions thousands 0).tail ≠ [] := by
        rintro hnil
        rw [hnil] at hvalue
        cases hvalue
      rw [if_neg hsome]
      exact ⟨value, hvalue, Nat.zero_le value, by omega⟩
  · have hgroup : (sectionsOf billions millions thousands ones).last = group ones := if_neg hlast
    have hne := NumberWord.group_ne_nil ones
    rw [Sections.tail_of_last_ne_nil (hgroup ▸ hne), hgroup, if_neg hne, wordsValue_group]
    exact ⟨ones, rfl, le_rfl, by simp [hlast]⟩

theorem two_le_length_groupsOf (ones : ℕ)
    (hhigher : billions ≠ 0 ∨ millions ≠ 0 ∨ thousands ≠ 0) :
    2 ≤ (groupsOf billions millions thousands ones).length := by
  have hsegment : ∀ scale count, count ≠ 0 → 2 ≤ (segment scale count).length := by
    intro scale count hne
    have hpos := List.length_pos_of_ne_nil (NumberWord.group_ne_nil count)
    rw [segment, if_neg hne, List.length_append, List.length_singleton]
    omega
  simp only [groupsOf, belowBillion, belowMillion, List.length_append]
  rcases hhigher with hne | hne | hne
  · have := hsegment .billion billions hne
    omega
  · have := hsegment .million millions hne
    omega
  · have := hsegment .thousand thousands hne
    omega

variable (hbillions : billions < 1000) (hmillions : millions < 1000)
  (hthousands : thousands < 1000) (hones : ones < 1000)

include hbillions hmillions hthousands hones

theorem isProper_sectionsOf : (sectionsOf billions millions thousands ones).IsProper where
  billions := isGroup_counted hbillions
  millions := isGroup_counted hmillions
  thousands := isGroup_counted hthousands
  last := isGroup_lastGroup hones

theorem exists_value_groupsOf (hhigher : billions ≠ 0 ∨ millions ≠ 0 ∨ thousands ≠ 0) :
    ∃ tail, value (groupsOf billions millions thousands ones) =
        .ok (billions * 10 ^ 9 + millions * 10 ^ 6 + thousands * 10 ^ 3 + tail) ∧ ones ≤ tail ∧
      (tail = ones ↔ ones ≠ 0 ∨ [billions, millions, thousands, ones].countP (· ≠ 0) ≤ 1) := by
  obtain ⟨tail, htail, hle, hiff⟩ := exists_tailValue billions millions thousands ones
  have hproper := isProper_sectionsOf hbillions hmillions hthousands hones
  have hlength := two_le_length_groupsOf ones hhigher
  rw [← words_sectionsOf] at hlength ⊢
  have hvalue := Sections.value_words hproper hlength (sectionValue_counted _ _)
    (sectionValue_counted _ _) (sectionValue_counted _ _)
  rw [htail] at hvalue
  exact ⟨tail, hvalue, hle, hiff⟩

end

def cardinal (n : ℕ) : List NumberWord :=
  if n = 0 then [.small 0]
  else groupsOf (n / 10 ^ 9) (n % 10 ^ 9 / 10 ^ 6) (n % 10 ^ 6 / 10 ^ 3) (n % 10 ^ 3)

/-- The numbers that are heard as they are spoken: the last group is not zero,
or at most one group is not. -/
def IsHeardRight (n : ℕ) : Prop :=
  n % 10 ^ 3 ≠ 0 ∨
    [n / 10 ^ 9, n % 10 ^ 9 / 10 ^ 6, n % 10 ^ 6 / 10 ^ 3, n % 10 ^ 3].countP (· ≠ 0) ≤ 1

theorem value_group (h : n < 1000) : value (group n) = .ok n := by
  have hread := wordsValue_group n
  have hne := NumberWord.group_ne_nil n
  by_cases hlength : 2 ≤ (group n).length
  · have hproper : (⟨none, none, none, group n⟩ : Sections).IsProper :=
      ⟨by simp, by simp, by simp, isGroup_group h⟩
    have hvalue := Sections.value_words hproper hlength rfl rfl rfl
    rw [Sections.tail_of_last_ne_nil hne, if_neg hne, hread] at hvalue
    exact hvalue.trans (congrArg Except.ok (Nat.zero_add n))
  · have hpos := List.length_pos_of_ne_nil hne
    obtain ⟨word, hword⟩ := List.length_eq_one_iff.mp (by omega : (group n).length = 1)
    rw [hword] at hread ⊢
    exact (value_singleton word).trans hread

theorem cardinal_of_lt (h : n < 1000) : cardinal n = group n := by
  have hbillions : n / 10 ^ 9 = 0 := by omega
  have hmillions : n % 10 ^ 9 / 10 ^ 6 = 0 := by omega
  have hthousands : n % 10 ^ 6 / 10 ^ 3 = 0 := by omega
  have hones : n % 10 ^ 3 = n := Nat.mod_eq_of_lt h
  rw [cardinal, hbillions, hmillions, hthousands, hones]
  split
  · rename_i hzero
    subst hzero
    rfl
  · rename_i hne
    exact if_neg hne

theorem isHeardRight_of_lt (h : n < 1000) : IsHeardRight n := by
  have hbillions : n / 10 ^ 9 = 0 := by omega
  have hmillions : n % 10 ^ 9 / 10 ^ 6 = 0 := by omega
  have hthousands : n % 10 ^ 6 / 10 ^ 3 = 0 := by omega
  have hones : n % 10 ^ 3 = n := Nat.mod_eq_of_lt h
  rw [IsHeardRight, hbillions, hmillions, hthousands, hones]
  by_cases hzero : n = 0
  · exact .inr (by simp [hzero])
  · exact .inl hzero

theorem cardinal_of_le (hlow : 1000 ≤ n) :
    cardinal n =
        groupsOf (n / 10 ^ 9) (n % 10 ^ 9 / 10 ^ 6) (n % 10 ^ 6 / 10 ^ 3) (n % 10 ^ 3) ∧
      (n / 10 ^ 9 ≠ 0 ∨ n % 10 ^ 9 / 10 ^ 6 ≠ 0 ∨ n % 10 ^ 6 / 10 ^ 3 ≠ 0) :=
  ⟨if_neg (by omega), by omega⟩

/-- The words of a number are read as a number that is no smaller, and exactly
those that are heard right as the number itself. -/
theorem exists_value_cardinal (h : n < 10 ^ 12) :
    ∃ heard, value (cardinal n) = .ok heard ∧ n ≤ heard ∧ (heard = n ↔ IsHeardRight n) := by
  rcases Nat.lt_or_ge n 1000 with hlt | hlow
  · rw [cardinal_of_lt hlt, value_group hlt]
    exact ⟨n, rfl, le_rfl, by simp [isHeardRight_of_lt hlt]⟩
  · obtain ⟨hcardinal, hhigher⟩ := cardinal_of_le hlow
    have hones : n % 10 ^ 3 < 1000 := by omega
    obtain ⟨tail, hvalue, hle, hiff⟩ :=
      exists_value_groupsOf (by omega) (by omega) (by omega) hones hhigher
    rw [hcardinal]
    refine ⟨_, hvalue, by omega, ?_⟩
    rw [IsHeardRight, ← hiff]
    omega

section

variable {billions millions thousands ones : ℕ} (hbillions : billions < 1000)
  (hmillions : millions < 1000) (hthousands : thousands < 1000) (hones : ones < 1000)

include hbillions hmillions hthousands hones

theorem isProper_of_mem_groupsOf :
    ∀ word ∈ groupsOf billions millions thousands ones, word.IsProper := by
  have hgroup : ∀ count < 1000, ∀ word ∈ group count, word.IsProper :=
    fun count hcount word hword =>
      (NumberWord.isGroupWord_of_mem_group (by omega) word hword).proper
  have hsegment : ∀ scale, ∀ count < 1000, ∀ word ∈ segment scale count, word.IsProper := by
    intro scale count hcount word hword
    unfold segment at hword
    split at hword
    · contradiction
    · rcases List.mem_append.mp hword with hword | hword
      · exact hgroup count hcount word hword
      · rw [List.mem_singleton.mp hword]
        trivial
  intro word hword
  simp only [groupsOf, belowBillion, belowMillion, List.mem_append] at hword
  rcases hword with hword | hword | hword | hword
  · exact hsegment .billion billions hbillions word hword
  · exact hsegment .million millions hmillions word hword
  · exact hsegment .thousand thousands hthousands word hword
  · unfold lastGroup at hword
    split at hword
    · contradiction
    · exact hgroup ones hones word hword

end

end Cardinal

namespace NumberWord

/-- The second word goes on with the number of the first one. -/
def Continues (before word : NumberWord) : Prop := startsNumber before.text word.text = false

theorem continues_scale (unit : Scale) (word : NumberWord) : (scale unit).Continues word := by
  have hscale : ofText? (scale unit).text = some (.scale unit) := ofText?_text trivial
  unfold Continues startsNumber
  rw [hscale]

theorem continues_to_scale (before : NumberWord) (unit : Scale) :
    before.Continues (scale unit) := by
  have hscale : ofText? (scale unit).text = some (.scale unit) := ofText?_text trivial
  unfold Continues startsNumber
  rw [hscale]
  rcases ofText? before.text with _ | _ | _ | _ <;> rfl

theorem continues_tens_small {count value : ℕ} (htens : (tens count).IsProper)
    (hsmall : (small value).IsProper) (hne : value ≠ 0) : (tens count).Continues (small value) := by
  unfold Continues startsNumber
  rw [ofText?_text htens, ofText?_text hsmall]
  simpa using hne

theorem isChain_belowHundred {n : ℕ} (h : n < 100) : (belowHundred n).IsChain Continues := by
  have hproper := isGroupWord_of_mem_belowHundred h
  rcases belowHundred_cases h with ⟨-, h⟩ | ⟨-, -, h⟩ | ⟨-, hrest, h⟩
  · rw [h]
    exact .singleton _
  · rw [h]
    exact .singleton _
  · rw [h, List.forall_mem_cons, List.forall_mem_singleton] at hproper
    rw [h, List.isChain_pair]
    exact continues_tens_small hproper.1.proper hproper.2.proper hrest

theorem isChain_group (n : ℕ) : (group n).IsChain Continues := by
  rcases group_cases n with ⟨hlt, h⟩ | ⟨-, -, h⟩ | ⟨-, -, h⟩
  · rw [h]
    exact isChain_belowHundred hlt
  · rw [h, List.isChain_pair]
    exact continues_to_scale _ _
  · rw [h, List.isChain_cons_cons, List.isChain_cons]
    exact ⟨continues_to_scale _ _, fun word _ => continues_scale _ word,
      isChain_belowHundred (Nat.mod_lt n (by decide))⟩

end NumberWord

namespace Cardinal

open NumberWord (group Continues)

variable {n : ℕ}

theorem isChain_segment_append {scale : Scale} {count : ℕ} {behind : List NumberWord}
    (hbehind : behind.IsChain Continues) :
    (segment scale count ++ behind).IsChain Continues := by
  unfold segment
  split
  · exact hbehind
  · rw [List.append_assoc, List.isChain_append]
    refine ⟨NumberWord.isChain_group count, ?_, ?_⟩
    · exact List.isChain_cons.mpr ⟨fun word _ => NumberWord.continues_scale scale word, hbehind⟩
    · rintro before - _ ⟨⟩
      exact NumberWord.continues_to_scale before scale

theorem isChain_cardinal (n : ℕ) : (cardinal n).IsChain Continues := by
  rcases Nat.lt_or_ge n 1000 with hlt | hlow
  · rw [cardinal_of_lt hlt]
    exact NumberWord.isChain_group n
  · have hlast : (lastGroup (n % 10 ^ 3)).IsChain Continues := by
      unfold lastGroup
      split
      · exact .nil
      · exact NumberWord.isChain_group _
    rw [(cardinal_of_le hlow).1]
    exact isChain_segment_append (isChain_segment_append (isChain_segment_append hlast))

theorem cardinal_ne_nil (n : ℕ) : cardinal n ≠ [] := by
  rcases Nat.lt_or_ge n 1000 with hlt | hlow
  · rw [cardinal_of_lt hlt]
    exact NumberWord.group_ne_nil n
  · obtain ⟨hcardinal, hhigher⟩ := cardinal_of_le hlow
    have hlength : 2 ≤ (groupsOf (n / 10 ^ 9) (n % 10 ^ 9 / 10 ^ 6) (n % 10 ^ 6 / 10 ^ 3)
        (n % 10 ^ 3)).length :=
      two_le_length_groupsOf _ hhigher
    rw [hcardinal]
    rintro hnil
    rw [hnil] at hlength
    contradiction

theorem isProper_of_mem_cardinal (h : n < 10 ^ 12) : ∀ word ∈ cardinal n, word.IsProper := by
  rcases Nat.lt_or_ge n 1000 with hlt | hlow
  · rw [cardinal_of_lt hlt]
    exact fun word hword => (NumberWord.isGroupWord_of_mem_group (by omega) word hword).proper
  · rw [(cardinal_of_le hlow).1]
    exact isProper_of_mem_groupsOf (by omega) (by omega) (by omega) (by omega)

theorem count_segment_le {scale : Scale} (hscale : scale ≠ .hundred) {count : ℕ}
    (hcount : count < 1000) : (segment scale count).count (.scale scale) ≤ 1 := by
  unfold segment
  split
  · exact Nat.zero_le 1
  · rw [List.count_append, List.count_eq_zero.mpr (isGroup_group hcount scale hscale)]
    simp

theorem count_scale_cardinal_le (h : n < 10 ^ 12) {scale : Scale} (hscale : scale ≠ .hundred) :
    (cardinal n).count (.scale scale) ≤ 1 := by
  rcases Nat.lt_or_ge n 1000 with hlt | hlow
  · rw [cardinal_of_lt hlt, List.count_eq_zero.mpr (isGroup_group hlt scale hscale)]
    exact Nat.zero_le 1
  · have hother : ∀ other, ∀ count < 1000, scale ≠ other →
        (segment other count).count (.scale scale) = 0 := fun other count hcount hne =>
      List.count_eq_zero.mpr (scale_not_mem_segment hscale hne hcount)
    have hbillion := count_segment_le hscale (by omega : n / 10 ^ 9 < 1000)
    have hmillion := count_segment_le hscale (by omega : n % 10 ^ 9 / 10 ^ 6 < 1000)
    have hthousand := count_segment_le hscale (by omega : n % 10 ^ 6 / 10 ^ 3 < 1000)
    have hlast := List.count_eq_zero.mpr
      (isGroup_lastGroup (by omega : n % 10 ^ 3 < 1000) scale hscale)
    rw [(cardinal_of_le hlow).1, groupsOf, belowBillion, belowMillion, List.count_append,
      List.count_append, List.count_append, hlast]
    cases scale with
    | hundred => exact absurd rfl hscale
    | thousand =>
        rw [hother .billion _ (by omega) (by decide), hother .million _ (by omega) (by decide)]
        omega
    | million =>
        rw [hother .billion _ (by omega) (by decide), hother .thousand _ (by omega) (by decide)]
        omega
    | billion =>
        rw [hother .million _ (by omega) (by decide), hother .thousand _ (by omega) (by decide)]
        omega

def cardinalWords (n : ℕ) : List String := (cardinal n).map NumberWord.text

theorem isNumberWord_of_mem_cardinalWords (h : n < 10 ^ 12) :
    ∀ word ∈ cardinalWords n, isNumberWord word := by
  intro word hword
  obtain ⟨numberWord, hmem, rfl⟩ := List.mem_map.mp hword
  exact NumberWord.isNumberWord_text (isProper_of_mem_cardinal h numberWord hmem)

theorem cardinalWords_ne_nil (n : ℕ) : cardinalWords n ≠ [] := by
  simpa [cardinalWords] using cardinal_ne_nil n

/-- The words of a number are one number for the listener. -/
theorem splitRun_cardinalWords (n : ℕ) :
    splitRun (cardinalWords n) = [cardinalWords n] := by
  refine List.splitBy_of_isChain (cardinalWords_ne_nil n) ?_
  rw [cardinalWords, List.isChain_map]
  exact (isChain_cardinal n).imp fun before word hcontinues => by
    rw [Continues] at hcontinues
    simp [hcontinues]

/-- Only the scale words from thousand up may not be repeated. -/
theorem isRepeated_map_text {words : List NumberWord} (h : ∀ word ∈ words, word.IsProper) :
    Spoken.isRepeated (words.map NumberWord.text) = false ↔
      ∀ unit : Scale, unit ≠ .hundred → words.count (.scale unit) ≤ 1 := by
  have hpoint : pointWord ∉ words.map NumberWord.text := by
    refine Spoken.pointWord_not_mem fun word hword => ?_
    obtain ⟨numberWord, hmem, rfl⟩ := List.mem_map.mp hword
    exact NumberWord.isNumberWord_text (h numberWord hmem)
  have hcount := NumberWord.count_text h
  have hthousand : (words.map NumberWord.text).count "thousand" = _ := hcount .thousand
  have hmillion : (words.map NumberWord.text).count "million" = _ := hcount .million
  have hbillion : (words.map NumberWord.text).count "billion" = _ := hcount .billion
  rw [Spoken.isRepeated, List.any_eq_false]
  simp only [List.forall_mem_cons, decide_eq_true_eq, not_lt, hthousand,
    hmillion, hbillion, List.count_eq_zero.mpr hpoint]
  constructor
  · rintro ⟨hthousand, hmillion, hbillion, -⟩ unit hunit
    cases unit with
    | hundred => exact absurd rfl hunit
    | thousand => exact hthousand
    | million => exact hmillion
    | billion => exact hbillion
  · intro h
    exact ⟨h .thousand (by decide), h .million (by decide), h .billion (by decide),
      Nat.zero_le 1, List.forall_mem_nil _⟩

theorem isRepeated_cardinalWords (h : n < 10 ^ 12) :
    Spoken.isRepeated (cardinalWords n) = false :=
  (isRepeated_map_text (isProper_of_mem_cardinal h)).mpr fun _ => count_scale_cardinal_le h

/-- Heard again, the words of a number are read as a number that is no smaller,
and exactly those that are heard right as the number itself. -/
theorem exists_readCardinal (h : n < 10 ^ 12) :
    ∃ heard, Spoken.readCardinal (cardinalWords n) = .ok (.exact heard) ∧ n ≤ heard ∧
      (heard = n ↔ IsHeardRight n) := by
  obtain ⟨heard, hvalue, hle, hiff⟩ := exists_value_cardinal h
  have hwords := isNumberWord_of_mem_cardinalWords h
  have hne := cardinalWords_ne_nil n
  refine ⟨heard, ?_, hle, hiff⟩
  rw [Spoken.readCardinal_eq hwords hne, Spoken.ofKnownWords_eq hwords _ hne,
    isRepeated_cardinalWords h, cardinalWords,
    NumberWord.filterMap_ofText? (isProper_of_mem_cardinal h), hvalue]
  rfl

end Cardinal

end SpokenCalculator
