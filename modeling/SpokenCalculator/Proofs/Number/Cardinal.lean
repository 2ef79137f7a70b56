import Mathlib.Algebra.Group.Nat.Defs
import SpokenCalculator.Number.Cardinal
import SpokenCalculator.Proofs.Result

namespace SpokenCalculator.Cardinal

variable {words behind rest : List NumberWord} {n : Nat} {scale : Scale}

def IsModerate (words : List NumberWord) : Prop := ∀ word ∈ words, word.value ≤ 10 ^ 9

theorem IsModerate.sublist (h : IsModerate words) (hsublist : rest.Sublist words) :
    IsModerate rest :=
  fun word hword => h word (hsublist.mem hword)

theorem wordsValue_le (h : IsModerate words) (hvalue : wordsValue words = .ok n) :
    n ≤ 2 * 10 ^ 18 := by
  have hall : ∀ value ∈ words.map NumberWord.value, value ≤ 10 ^ 9 := by
    intro value hmem
    obtain ⟨word, hword, rfl⟩ := List.mem_map.mp hmem
    exact h word hword
  have hproduct : ∀ first second : Nat, first ≤ 10 ^ 9 → second ≤ 10 ^ 9 →
      first * second ≤ 10 ^ 18 := by
    intro first second hfirst hsecond
    have hle : first * second ≤ 10 ^ 9 * 10 ^ 9 := Nat.mul_le_mul hfirst hsecond
    omega
  unfold wordsValue groupValue at hvalue
  split at hvalue
  · cases hvalue
  · rename_i first second heq
    simp only [heq, List.forall_mem_cons] at hall
    have := hproduct first second hall.1 hall.2.1
    cases hvalue
    split <;> omega
  · rename_i first second third heq
    simp only [heq, List.forall_mem_cons] at hall
    have := hproduct first second hall.1 hall.2.1
    cases hvalue
    omega
  · rename_i first second third fourth heq
    simp only [heq, List.forall_mem_cons] at hall
    have := hproduct first second hall.1 hall.2.1
    cases hvalue
    omega
  · rename_i first others _ _ _ heq
    simp only [heq, List.forall_mem_cons] at hall
    cases hvalue
    omega

/-- What a scale word contributes, and where the words that are left come
from. -/
theorem takeScale_le (h : IsModerate words) {after : Option (List NumberWord)}
    (htaken : takeScale scale words = .ok (n, after, rest)) :
    n ≤ 2 * 10 ^ 18 * scale.value ∧ IsModerate rest ∧ ∀ behind ∈ after, IsModerate behind := by
  unfold takeScale cutAt? at htaken
  split at htaken
  · rename_i before behind hcut
    split at hcut
    · cases hcut
      obtain ⟨group, hgroup, htaken⟩ := bind_eq_ok.mp htaken
      cases htaken
      have hbehind : IsModerate (words.dropWhile (· ≠ .scale scale)).tail :=
        h.sublist ((List.tail_sublist _).trans (List.dropWhile_sublist _))
      refine ⟨Nat.mul_le_mul_right _ (wordsValue_le (h.sublist (List.takeWhile_sublist _)) hgroup),
        hbehind, ?_⟩
      rintro behind ⟨⟩
      exact hbehind
    · cases hcut
  · cases htaken
    exact ⟨Nat.zero_le _, h, fun _ hnone => by cases hnone⟩

theorem tailValue_le (h : IsModerate words) {after : List (Option (List NumberWord))}
    (hafter : ∀ behind ∈ after.filterMap id, IsModerate behind)
    (hvalue : tailValue words after = .ok n) : n ≤ 2 * 10 ^ 18 := by
  unfold tailValue at hvalue
  split at hvalue
  · rename_i behind hfound
    exact wordsValue_le (hafter behind (List.mem_of_find?_eq_some hfound)) hvalue
  · cases hvalue
    exact Nat.zero_le _
  · exact wordsValue_le h hvalue

theorem value_lt (h : IsModerate words) (hvalue : value words = .ok n) : n < 10 ^ 28 := by
  unfold value at hvalue
  split at hvalue
  · cases hvalue
  · split at hvalue
    · cases hvalue
      decide
    · rename_i word _
      cases hvalue
      have := h word List.mem_cons_self
      omega
    · obtain ⟨⟨billions, afterBillion, words'⟩, hbillions, hvalue⟩ := bind_eq_ok.mp hvalue
      obtain ⟨⟨millions, afterMillion, words''⟩, hmillions, hvalue⟩ := bind_eq_ok.mp hvalue
      obtain ⟨⟨thousands, afterThousand, words'''⟩, hthousands, hvalue⟩ := bind_eq_ok.mp hvalue
      obtain ⟨tail, htail, hvalue⟩ := bind_eq_ok.mp hvalue
      cases hvalue
      obtain ⟨hbillions, hwords', hafterBillion⟩ := takeScale_le h hbillions
      obtain ⟨hmillions, hwords'', hafterMillion⟩ := takeScale_le hwords' hmillions
      obtain ⟨hthousands, _, hafterThousand⟩ := takeScale_le hwords'' hthousands
      have hrest := tailValue_le h (fun behind hbehind => by
        simp only [List.mem_filterMap, List.mem_cons, List.not_mem_nil, or_false, id] at hbehind
        obtain ⟨_, rfl | rfl | rfl, hsome⟩ := hbehind
        · exact hafterThousand behind hsome
        · exact hafterMillion behind hsome
        · exact hafterBillion behind hsome) htail
      simp only [Scale.value] at hbillions hmillions hthousands
      omega

end SpokenCalculator.Cardinal
