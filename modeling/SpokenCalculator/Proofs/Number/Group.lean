import Mathlib.Data.Nat.Notation
import SpokenCalculator.Proofs.Number.Cardinal
import SpokenCalculator.Spelling

namespace SpokenCalculator

namespace Scale

def text : Scale → String
  | .hundred => "hundred"
  | .thousand => "thousand"
  | .million => "million"
  | .billion => "billion"

end Scale

namespace NumberWord

def text : NumberWord → String
  | .small value => Spelling.smallWord value
  | .tens count => Spelling.tensWord count
  | .scale unit => unit.text

def IsProper : NumberWord → Prop
  | .small value => value < 20
  | .tens count => 2 ≤ count ∧ count < 10
  | .scale _ => True

theorem ofText?_text {word : NumberWord} (h : word.IsProper) : ofText? word.text = some word := by
  have hsmall : ∀ value < 20, ofText? (Spelling.smallWord value) = some (.small value) := by
    decide
  have htens : ∀ count < 10, 2 ≤ count →
      ofText? (Spelling.tensWord count) = some (.tens count) := by
    decide
  cases word with
  | small value => exact hsmall value h
  | tens count => exact htens count h.2 h.1
  | scale unit => cases unit <;> decide

theorem isNumberWord_text {word : NumberWord} (h : word.IsProper) : isNumberWord word.text := by
  rw [isNumberWord, ofText?_text h]
  rfl

theorem text_inj {word other : NumberWord} (hword : word.IsProper) (hother : other.IsProper)
    (h : word.text = other.text) : word = other := by
  have hsame := ofText?_text hword
  rw [h, ofText?_text hother] at hsame
  exact (Option.some.inj hsame).symm

theorem filterMap_ofText? {words : List NumberWord} (h : ∀ word ∈ words, word.IsProper) :
    (words.map text).filterMap ofText? = words := by
  induction words with
  | nil => rfl
  | cons word rest ih =>
      rw [List.map_cons, List.filterMap_cons, ofText?_text (h word List.mem_cons_self)]
      dsimp only
      rw [ih fun other hother => h other (List.mem_cons_of_mem word hother)]

theorem count_text {words : List NumberWord} (h : ∀ word ∈ words, word.IsProper) (unit : Scale) :
    (words.map text).count unit.text = words.count (.scale unit) := by
  have hunit : (scale unit).IsProper := trivial
  have hsame : ∀ word ∈ words, (word.text == unit.text) = (word == .scale unit) := by
    intro word hword
    rw [Bool.eq_iff_iff, beq_iff_eq, beq_iff_eq]
    exact ⟨text_inj (h word hword) hunit, congrArg text⟩
  rw [List.count, List.countP_map]
  exact List.countP_congr fun word hword => by
    rw [Function.comp_apply, hsame word hword]

def belowHundred (n : ℕ) : List NumberWord :=
  if n < 20 then [.small n]
  else if n % 10 = 0 then [.tens (n / 10)]
  else [.tens (n / 10), .small (n % 10)]

def group (n : ℕ) : List NumberWord :=
  (if n / 100 = 0 then [] else [.small (n / 100), .scale .hundred]) ++
    if n % 100 = 0 && n / 100 ≠ 0 then [] else belowHundred (n % 100)

variable {n : ℕ}

theorem belowHundred_cases (h : n < 100) :
    (n < 20 ∧ belowHundred n = [.small n]) ∨
    (20 ≤ n ∧ n % 10 = 0 ∧ belowHundred n = [.tens (n / 10)]) ∨
    (20 ≤ n ∧ n % 10 ≠ 0 ∧ belowHundred n = [.tens (n / 10), .small (n % 10)]) := by
  unfold belowHundred
  by_cases hsmall : n < 20
  · exact .inl ⟨hsmall, if_pos hsmall⟩
  · right
    rw [if_neg hsmall]
    by_cases hround : n % 10 = 0
    · exact .inl ⟨by omega, hround, if_pos hround⟩
    · exact .inr ⟨by omega, hround, if_neg hround⟩

theorem group_cases (n : ℕ) :
    (n < 100 ∧ group n = belowHundred n) ∨
    (100 ≤ n ∧ n % 100 = 0 ∧ group n = [.small (n / 100), .scale .hundred]) ∨
    (100 ≤ n ∧ n % 100 ≠ 0 ∧
      group n = .small (n / 100) :: .scale .hundred :: belowHundred (n % 100)) := by
  unfold group
  by_cases hsmall : n < 100
  · have hhundreds : n / 100 = 0 := Nat.div_eq_of_lt hsmall
    have hrest : n % 100 = n := Nat.mod_eq_of_lt hsmall
    simp [hsmall, hhundreds, hrest]
  · have hhundreds : n / 100 ≠ 0 := by omega
    by_cases hrest : n % 100 = 0
    · exact .inr (.inl ⟨by omega, hrest, by simp [hhundreds, hrest]⟩)
    · exact .inr (.inr ⟨by omega, hrest, by simp [hhundreds, hrest]⟩)

theorem belowHundred_ne_nil (h : n < 100) : belowHundred n ≠ [] := by
  rcases belowHundred_cases h with ⟨-, h⟩ | ⟨-, -, h⟩ | ⟨-, -, h⟩ <;> simp [h]

theorem group_ne_nil (n : ℕ) : group n ≠ [] := by
  rcases group_cases n with ⟨hlt, h⟩ | ⟨-, -, h⟩ | ⟨-, -, h⟩
  · rw [h]
    exact belowHundred_ne_nil hlt
  · simp [h]
  · simp [h]

/-- A word of a group: it has a word, and it is no larger scale than hundred. -/
structure IsGroupWord (word : NumberWord) : Prop where
  proper : word.IsProper
  scale : ∀ unit, word = .scale unit → unit = .hundred

theorem isGroupWord_of_mem_belowHundred (h : n < 100) :
    ∀ word ∈ belowHundred n, word.IsGroupWord := by
  have hsmall : ∀ value < 20, (small value).IsGroupWord := fun value hvalue => ⟨hvalue, nofun⟩
  have htens : ∀ count < 10, 2 ≤ count → (tens count).IsGroupWord :=
    fun count hhigh hlow => ⟨⟨hlow, hhigh⟩, nofun⟩
  rcases belowHundred_cases h with ⟨hlt, h⟩ | ⟨hlow, -, h⟩ | ⟨hlow, -, h⟩
  · rw [h, List.forall_mem_singleton]
    exact hsmall n hlt
  · rw [h, List.forall_mem_singleton]
    exact htens (n / 10) (by omega) (by omega)
  · rw [h, List.forall_mem_cons, List.forall_mem_singleton]
    exact ⟨htens (n / 10) (by omega) (by omega), hsmall (n % 10) (by omega)⟩

theorem isGroupWord_of_mem_group (h : n < 2000) : ∀ word ∈ group n, word.IsGroupWord := by
  have hhundreds : (small (n / 100)).IsGroupWord := ⟨by simp only [IsProper]; omega, nofun⟩
  have hhundred : (scale .hundred).IsGroupWord := ⟨trivial, by rintro _ ⟨⟩; rfl⟩
  rcases group_cases n with ⟨hlt, h⟩ | ⟨-, -, h⟩ | ⟨-, -, h⟩
  · rw [h]
    exact isGroupWord_of_mem_belowHundred hlt
  · rw [h, List.forall_mem_cons, List.forall_mem_singleton]
    exact ⟨hhundreds, hhundred⟩
  · rw [h, List.forall_mem_cons, List.forall_mem_cons]
    exact ⟨hhundreds, hhundred, isGroupWord_of_mem_belowHundred (Nat.mod_lt n (by decide))⟩

theorem value_pos_of_mem_group (hne : n ≠ 0) {word : NumberWord}
    (hword : word ∈ group n) : 0 < word.value := by
  have hbelow : ∀ m < 100, m ≠ 0 → ∀ word ∈ belowHundred m, 0 < word.value := by
    intro m hm hne
    rcases belowHundred_cases hm with ⟨-, hm⟩ | ⟨hlow, -, hm⟩ | ⟨hlow, hrest, hm⟩
    · rw [hm, List.forall_mem_singleton]
      exact Nat.pos_of_ne_zero hne
    · rw [hm, List.forall_mem_singleton]
      change 0 < 10 * (m / 10)
      omega
    · rw [hm, List.forall_mem_cons, List.forall_mem_singleton]
      change 0 < 10 * (m / 10) ∧ 0 < m % 10
      omega
  have hhundreds : 100 ≤ n → 0 < (small (n / 100)).value := fun hlow => by
    change 0 < n / 100
    omega
  rcases group_cases n with ⟨hlt, h⟩ | ⟨hlow, -, h⟩ | ⟨hlow, hrest, h⟩
  · rw [h] at hword
    exact hbelow n hlt hne word hword
  · rw [h] at hword
    simp only [List.mem_cons, List.not_mem_nil, or_false] at hword
    rcases hword with rfl | rfl
    · exact hhundreds hlow
    · decide
  · rw [h] at hword
    simp only [List.mem_cons] at hword
    rcases hword with rfl | rfl | hword
    · exact hhundreds hlow
    · decide
    · exact hbelow (n % 100) (Nat.mod_lt n (by decide)) hrest word hword

end NumberWord

namespace Cardinal

open NumberWord (group belowHundred)

variable {n : ℕ}

theorem wordsValue_belowHundred (h : n < 100) : wordsValue (belowHundred n) = .ok n := by
  rcases NumberWord.belowHundred_cases h with ⟨-, hn⟩ | ⟨-, hround, hn⟩ | ⟨-, -, hn⟩
  · rw [hn]
    rfl
  · have hvalue : 10 * (n / 10) = n := by omega
    rw [hn]
    exact congrArg Except.ok hvalue
  · have hvalue : 10 * (n / 10) + n % 10 = n := by omega
    have hplain : ¬ (10 * (n / 10) = 100 ∨ n % 10 = 100) := by omega
    rw [hn]
    exact congrArg Except.ok ((if_neg hplain).trans hvalue)

theorem wordsValue_hundreds (count : ℕ) {m : ℕ} (h : m < 100) :
    wordsValue (.small count :: .scale .hundred :: belowHundred m) = .ok (count * 100 + m) := by
  rcases NumberWord.belowHundred_cases h with ⟨-, hm⟩ | ⟨-, hround, hm⟩ | ⟨-, -, hm⟩
  · rw [hm]
    rfl
  · have hvalue : count * 100 + 10 * (m / 10) = count * 100 + m := by omega
    rw [hm]
    exact congrArg Except.ok hvalue
  · have hvalue : count * 100 + 10 * (m / 10) + m % 10 = count * 100 + m := by omega
    rw [hm]
    exact congrArg Except.ok hvalue

/-- A group is read by its length alone, and still has the right value. -/
theorem wordsValue_group (n : ℕ) : wordsValue (group n) = .ok n := by
  rcases NumberWord.group_cases n with ⟨hlt, hn⟩ | ⟨-, hround, hn⟩ | ⟨-, -, hn⟩
  · rw [hn]
    exact wordsValue_belowHundred hlt
  · have hvalue : n / 100 * 100 = n := by omega
    have hhundred : n / 100 = 100 ∨ 100 = 100 := .inr rfl
    rw [hn]
    exact congrArg Except.ok ((if_pos hhundred).trans hvalue)
  · have hvalue : n / 100 * 100 + n % 100 = n := by omega
    rw [hn, wordsValue_hundreds _ (Nat.mod_lt n (by decide)), hvalue]

theorem exists_wordsValue_pos {words : List NumberWord} (hne : words ≠ [])
    (hpos : ∀ word ∈ words, 0 < word.value) :
    ∃ value, wordsValue words = .ok value ∧ 0 < value := by
  match words, hne with
  | [first], _ => exact ⟨first.value, rfl, hpos first List.mem_cons_self⟩
  | [first, second], _ =>
      have hfirst := hpos first (by simp)
      have hsecond := hpos second (by simp)
      refine ⟨_, rfl, ?_⟩
      split
      · exact Nat.mul_pos hfirst hsecond
      · omega
  | [first, second, third], _ => exact ⟨_, rfl, Nat.add_pos_right _ (hpos third (by simp))⟩
  | [first, second, third, fourth], _ =>
      exact ⟨_, rfl, Nat.add_pos_right _ (hpos fourth (by simp))⟩
  | first :: second :: third :: fourth :: fifth :: rest, _ =>
      exact ⟨first.value, rfl, hpos first List.mem_cons_self⟩

end Cardinal

end SpokenCalculator
