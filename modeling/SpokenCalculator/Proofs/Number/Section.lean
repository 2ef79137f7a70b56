import Mathlib.Data.List.Basic
import SpokenCalculator.Proofs.Number.Group

/-!
# The sections of a cardinal

The words from thousand up cut a cardinal into sections: a group of words with
the scale word behind it. What stands behind the last scale word is the last
group. If the scale words descend, each group before a scale word is read by
itself. The tail is the last group; if there is none, it is the last section
once more, unless that is the only one.
-/

namespace SpokenCalculator

/-- A list cut in front of the first occurrence of one of its elements. -/
theorem cut_append {α : Type} [DecidableEq α] {a : α} {before : List α} (h : a ∉ before)
    (behind : List α) :
    (before ++ a :: behind).takeWhile (· ≠ a) = before ∧
      (before ++ a :: behind).dropWhile (· ≠ a) = a :: behind := by
  have hother : ∀ other ∈ before, decide (other ≠ a) = true := by
    intro other hmem
    rw [decide_eq_true_eq]
    rintro rfl
    exact h hmem
  rw [List.takeWhile_append_of_pos hother, List.dropWhile_append_of_pos hother]
  simp

/-- What is not among the first elements of a list occurs behind them at the
earliest. -/
theorem length_le_of_idxOf? {α : Type} [DecidableEq α] {a : α} {before behind : List α} {place : ℕ}
    (h : a ∉ before) (hplace : (before ++ behind).idxOf? a = some place) :
    before.length ≤ place := by
  obtain ⟨hlt, ha, -⟩ := List.idxOf?_eq_some_iff.mp hplace
  by_contra hnot
  rw [List.getElem_append_left (by omega)] at ha
  exact h (ha ▸ List.getElem_mem _)

theorem lt_length_of_idxOf? {α : Type} [DecidableEq α] {a : α} {before behind : List α} {place : ℕ}
    (h : a ∈ before) (hplace : (before ++ behind).idxOf? a = some place) :
    place < before.length := by
  obtain ⟨_, -, hfirst⟩ := List.idxOf?_eq_some_iff.mp hplace
  obtain ⟨index, hlt, ha⟩ := List.getElem_of_mem h
  by_contra hnot
  refine hfirst index (by omega) ?_
  rw [List.getElem_append_left hlt, ha]

namespace Cardinal

theorem le_value {scale : Scale} (h : scale ≠ .hundred) : 1000 ≤ scale.value := by
  cases scale with
  | hundred => exact absurd rfl h
  | _ => decide

/-- Words below thousand: no scale word but hundred is among them. -/
def IsGroup (words : List NumberWord) : Prop :=
  ∀ scale : Scale, scale ≠ .hundred → .scale scale ∉ words

section

variable {scale : Scale} {words before behind : List NumberWord}

theorem cutAt?_of_not_mem (h : .scale scale ∉ words) : cutAt? scale words = none :=
  if_neg (by simpa using h)

theorem cutAt?_append (hbefore : .scale scale ∉ before) (behind : List NumberWord) :
    cutAt? scale (before ++ .scale scale :: behind) = some (before, behind) := by
  obtain ⟨htake, hdrop⟩ := cut_append hbefore behind
  rw [cutAt?, if_pos (by simp), htake, hdrop]
  rfl

theorem takeScale_of_not_mem (h : .scale scale ∉ words) :
    takeScale scale words = .ok (0, none, words) := by
  rw [takeScale, cutAt?_of_not_mem h]
  rfl

/-- The first occurrence of a scale word takes the group before it, and what is
behind it is left to read. -/
theorem takeScale_append (hbefore : .scale scale ∉ before) (behind : List NumberWord) :
    takeScale scale (before ++ .scale scale :: behind) =
      (wordsValue before).map fun value => (value * scale.value, some behind, behind) := by
  rw [takeScale, cutAt?_append hbefore]
  dsimp only
  cases wordsValue before <;> rfl

/-- Scale words are in order if the larger one is nowhere behind the smaller
one. -/
theorem precedes_eq_false {other : Scale} (hbefore : .scale scale ∉ before)
    (hbehind : .scale other ∉ behind) : precedes scale other (before ++ behind) = false := by
  unfold precedes
  split
  · rename_i place place' hplace hplace'
    have hmem : .scale other ∈ before ++ behind := by
      rw [← List.isSome_idxOf?, hplace']
      rfl
    have hother := (List.mem_append.mp hmem).resolve_right hbehind
    have hlow := length_le_of_idxOf? hbefore hplace
    have hhigh := lt_length_of_idxOf? hother hplace'
    rw [decide_eq_false_iff_not]
    omega
  · rfl

/-- What the scales contribute, with the tail added. A single word has no scales
to look for. -/
theorem value_eq {words behindBillion behindMillion behindThousand : List NumberWord}
    {billions millions thousands : ℕ} {behind behind' behind'' : Option (List NumberWord)}
    (hlength : 2 ≤ words.length) (hordered : isDisordered words = false)
    (hbillion : takeScale .billion words = .ok (billions, behind, behindBillion))
    (hmillion : takeScale .million behindBillion = .ok (millions, behind', behindMillion))
    (hthousand : takeScale .thousand behindMillion = .ok (thousands, behind'', behindThousand)) :
    value words =
      (tailValue words [behind'', behind', behind]).map (billions + millions + thousands + ·) := by
  match words, hlength with
  | first :: second :: rest, _ =>
      unfold value
      rw [hordered, hbillion]
      simp only [hmillion, hthousand, bind, Except.bind, pure, Except.pure, Bool.false_eq_true,
        if_false]
      cases tailValue (first :: second :: rest) [behind'', behind', behind] <;> rfl

theorem value_singleton (word : NumberWord) : value [word] = .ok word.value := by
  cases word with
  | small value => rfl
  | tens count => rfl
  | scale unit => cases unit <;> rfl

end

def sectionWords (scale : Scale) : Option (List NumberWord) → List NumberWord
  | none => []
  | some group => group ++ [.scale scale]

def sectionValue (scale : Scale) : Option (List NumberWord) → Except CardinalFault ℕ
  | none => .ok 0
  | some group => (wordsValue group).map (· * scale.value)

theorem exists_wordsValue {words : List NumberWord} (h : words ≠ []) :
    ∃ n, wordsValue words = .ok n := by
  match words, h with
  | [_], _ => exact ⟨_, rfl⟩
  | [_, _], _ => exact ⟨_, rfl⟩
  | [_, _, _], _ => exact ⟨_, rfl⟩
  | [_, _, _, _], _ => exact ⟨_, rfl⟩
  | _ :: _ :: _ :: _ :: _ :: _, _ => exact ⟨_, rfl⟩

/-- A section has a value unless its scale word stands alone. -/
theorem exists_sectionValue_iff {scale : Scale} {part : Option (List NumberWord)} :
    (∃ n, sectionValue scale part = .ok n) ↔ part ≠ some [] := by
  constructor
  · rintro ⟨n, hvalue⟩ rfl
    cases hvalue
  · intro hbare
    cases part with
    | none => exact ⟨0, rfl⟩
    | some group =>
        have hne : group ≠ [] := by simpa using hbare
        obtain ⟨n, hvalue⟩ := exists_wordsValue hne
        exact ⟨n * scale.value, by rw [sectionValue, hvalue]; rfl⟩

section

variable {scale : Scale} {part : Option (List NumberWord)} {behind : List NumberWord}

theorem scale_not_mem_sectionWords {other : Scale} (hscale : scale ≠ .hundred)
    (hother : scale ≠ other) (hpart : ∀ group ∈ part, IsGroup group) :
    .scale scale ∉ sectionWords other part := by
  cases part with
  | none => exact List.not_mem_nil
  | some group =>
      rw [sectionWords, List.mem_append, List.mem_singleton]
      rintro (hgroup | hsame)
      · exact hpart group rfl scale hscale hgroup
      · exact hother (NumberWord.scale.inj hsame)

theorem takeScale_section (hscale : scale ≠ .hundred) (hpart : ∀ group ∈ part, IsGroup group)
    (hbehind : .scale scale ∉ behind) :
    takeScale scale (sectionWords scale part ++ behind) =
      (sectionValue scale part).map fun value => (value, part.map fun _ => behind, behind) := by
  cases part with
  | none => exact takeScale_of_not_mem hbehind
  | some group =>
      have hwords : sectionWords scale (some group) ++ behind =
          group ++ .scale scale :: behind := by
        rw [sectionWords, List.append_assoc]
        rfl
      rw [hwords, takeScale_append (hpart group rfl scale hscale), sectionValue]
      cases wordsValue group <;> rfl

end

/-- The groups of a cardinal before its scale words, each with its scale word
where it is said, and the last group. -/
structure Sections where
  billions : Option (List NumberWord)
  millions : Option (List NumberWord)
  thousands : Option (List NumberWord)
  last : List NumberWord

namespace Sections

def belowMillion (sections : Sections) : List NumberWord :=
  sectionWords .thousand sections.thousands ++ sections.last

def belowBillion (sections : Sections) : List NumberWord :=
  sectionWords .million sections.millions ++ sections.belowMillion

def words (sections : Sections) : List NumberWord :=
  sectionWords .billion sections.billions ++ sections.belowBillion

/-- The groups hold no scale word from thousand up themselves. -/
structure IsProper (sections : Sections) : Prop where
  billions : ∀ group ∈ sections.billions, IsGroup group
  millions : ∀ group ∈ sections.millions, IsGroup group
  thousands : ∀ group ∈ sections.thousands, IsGroup group
  last : IsGroup sections.last

def tail (sections : Sections) : List NumberWord :=
  if sections.last ≠ [] then sections.last
  else
    match sections.billions, sections.millions, sections.thousands with
    | _, some _, some group => group ++ [.scale .thousand]
    | some _, none, some group => group ++ [.scale .thousand]
    | some _, some group, none => group ++ [.scale .million]
    | _, _, _ => []

def scaleCount (sections : Sections) : ℕ :=
  [sections.billions, sections.millions, sections.thousands].countP Option.isSome

variable {sections : Sections} {scale : Scale}

theorem tail_of_last_ne_nil (h : sections.last ≠ []) : sections.tail = sections.last := if_pos h

/-- Words that end in a scale word should have no tail, but the last section is
one as soon as another scale word stands before. -/
theorem tail_of_last_eq_nil (h : sections.last = []) :
    (sections.scaleCount ≤ 1 ∧ sections.tail = []) ∨
      (1 < sections.scaleCount ∧ ∃ group,
        (sections.thousands = some group ∧ sections.tail = group ++ [.scale .thousand]) ∨
        (sections.thousands = none ∧ sections.millions = some group ∧
          sections.tail = group ++ [.scale .million])) := by
  obtain ⟨billions, millions, thousands, last⟩ := sections
  subst h
  cases billions <;> cases millions <;> cases thousands <;> simp [scaleCount, tail]

theorem scale_not_mem_belowMillion (h : sections.IsProper) (hscale : scale ≠ .hundred)
    (hthousand : scale ≠ .thousand) : .scale scale ∉ sections.belowMillion := by
  rw [belowMillion, List.mem_append, not_or]
  exact ⟨scale_not_mem_sectionWords hscale hthousand h.thousands, h.last scale hscale⟩

theorem billion_not_mem_belowBillion (h : sections.IsProper) :
    .scale .billion ∉ sections.belowBillion := by
  rw [belowBillion, List.mem_append, not_or]
  exact ⟨scale_not_mem_sectionWords (by decide) (by decide) h.millions,
    scale_not_mem_belowMillion h (by decide) (by decide)⟩

theorem isDisordered_words (h : sections.IsProper) : isDisordered sections.words = false := by
  have hbillion := billion_not_mem_belowBillion h
  have hlow : ∀ scale : Scale, scale ≠ .hundred → scale ≠ .billion →
      precedes scale .billion sections.words = false := fun scale hscale hother =>
    precedes_eq_false (scale_not_mem_sectionWords hscale hother h.billions) hbillion
  have hmiddle : precedes .thousand .million sections.words = false := by
    rw [words, belowBillion, ← List.append_assoc]
    refine precedes_eq_false ?_ (scale_not_mem_belowMillion h (by decide) (by decide))
    rw [List.mem_append, not_or]
    exact ⟨scale_not_mem_sectionWords (by decide) (by decide) h.billions,
      scale_not_mem_sectionWords (by decide) (by decide) h.millions⟩
  rw [isDisordered, hmiddle, hlow .thousand (by decide) (by decide),
    hlow .million (by decide) (by decide)]
  rfl

def behindScales (sections : Sections) : List (Option (List NumberWord)) :=
  [sections.thousands.map fun _ => sections.last,
   sections.millions.map fun _ => sections.belowMillion,
   sections.billions.map fun _ => sections.belowBillion]

theorem tailValue_behindScales (hne : sections.words ≠ []) :
    tailValue sections.words sections.behindScales =
      if sections.tail = [] then .ok 0 else wordsValue sections.tail := by
  obtain ⟨billions, millions, thousands, last⟩ := sections
  by_cases hlast : last = []
  · subst hlast
    cases billions <;> cases millions <;> cases thousands <;>
      simp [tailValue, behindScales, tail, words, belowBillion, belowMillion, sectionWords] at hne ⊢
    all_goals rfl
  · have hempty : last.isEmpty = false := by simpa using hlast
    cases billions <;> cases millions <;> cases thousands <;>
      simp [tailValue, behindScales, tail, words, belowBillion, belowMillion, sectionWords, hlast,
        hempty]

section

variable (h : sections.IsProper)

include h

theorem takeScale_billion :
    takeScale .billion sections.words = (sectionValue .billion sections.billions).map fun value =>
      (value, sections.billions.map fun _ => sections.belowBillion, sections.belowBillion) :=
  takeScale_section (by decide) h.billions (billion_not_mem_belowBillion h)

theorem takeScale_million :
    takeScale .million sections.belowBillion =
      (sectionValue .million sections.millions).map fun value =>
        (value, sections.millions.map fun _ => sections.belowMillion, sections.belowMillion) :=
  takeScale_section (by decide) h.millions (scale_not_mem_belowMillion h (by decide) (by decide))

theorem takeScale_thousand :
    takeScale .thousand sections.belowMillion =
      (sectionValue .thousand sections.thousands).map fun value =>
        (value, sections.thousands.map fun _ => sections.last, sections.last) :=
  takeScale_section (by decide) h.thousands (h.last .thousand (by decide))

/-- The value of a cardinal is the sum of its sections and its tail. -/
theorem value_words {billions millions thousands : ℕ} (hlength : 2 ≤ sections.words.length)
    (hbillions : sectionValue .billion sections.billions = .ok billions)
    (hmillions : sectionValue .million sections.millions = .ok millions)
    (hthousands : sectionValue .thousand sections.thousands = .ok thousands) :
    value sections.words =
      (if sections.tail = [] then .ok 0 else wordsValue sections.tail).map
        (billions + millions + thousands + ·) := by
  have hne : sections.words ≠ [] := List.ne_nil_of_length_pos (by omega)
  have hbillion := takeScale_billion h
  have hmillion := takeScale_million h
  have hthousand := takeScale_thousand h
  rw [hbillions] at hbillion
  rw [hmillions] at hmillion
  rw [hthousands] at hthousand
  rw [value_eq hlength (isDisordered_words h) hbillion hmillion hthousand,
    ← tailValue_behindScales hne]
  rfl

/-- A cardinal that has a value has one in each of its sections. -/
theorem exists_sectionValue {n : ℕ} (hlength : 2 ≤ sections.words.length)
    (hvalue : value sections.words = .ok n) :
    ∃ billions millions thousands, sectionValue .billion sections.billions = .ok billions ∧
      sectionValue .million sections.millions = .ok millions ∧
      sectionValue .thousand sections.thousands = .ok thousands := by
  have hbillion := takeScale_billion h
  have hordered := isDisordered_words h
  generalize sections.words = words at *
  match words, hlength with
  | first :: second :: rest, _ =>
      unfold value at hvalue
      rw [hordered, if_neg Bool.false_ne_true] at hvalue
      obtain ⟨_, htaken, hvalue⟩ := bind_eq_ok.mp hvalue
      rw [hbillion] at htaken
      obtain ⟨billions, hbillions, rfl⟩ := map_eq_ok.mp htaken
      obtain ⟨_, htaken, hvalue⟩ := bind_eq_ok.mp hvalue
      rw [takeScale_million h] at htaken
      obtain ⟨millions, hmillions, rfl⟩ := map_eq_ok.mp htaken
      obtain ⟨_, htaken, hvalue⟩ := bind_eq_ok.mp hvalue
      rw [takeScale_thousand h] at htaken
      obtain ⟨thousands, hthousands, rfl⟩ := map_eq_ok.mp htaken
      exact ⟨billions, millions, thousands, hbillions, hmillions, hthousands⟩

end

end Sections

end Cardinal

end SpokenCalculator
