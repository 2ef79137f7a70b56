import SpokenCalculator.Proofs.Number.Heard
import SpokenCalculator.Proofs.Phrase.Token
import SpokenCalculator.Proofs.Phrase.Normal
import SpokenCalculator.Proofs.Spelling.Words

namespace SpokenCalculator

namespace Phrase

def heardWords (part : String) : List String :=
  (unhyphenedWords part.toList).map String.ofList

theorem tokenize_intercalate {parts : List String}
    (hparts : ∀ part ∈ parts, IsSpelled part.toList) :
    tokenize (" ".intercalate parts) =
      (parts.flatMap heardWords).map fun word => .word word.toList := by
  have hjoin : (" ".intercalate parts).toList = Text.joinWords (parts.map String.toList) := by
    rw [String.toList_intercalate]
    rfl
  have hspelled : ∀ part ∈ parts.map String.toList, IsSpelled part := by
    rwa [List.forall_mem_map]
  have hheard : (parts.map String.toList).flatMap unhyphenedWords =
      (parts.flatMap heardWords).map String.toList := by
    rw [List.flatMap_map, List.map_flatMap]
    refine List.flatMap_congr fun part _ => ?_
    simp [heardWords, Function.comp_def]
  have hlettered : ∀ word ∈ parts.flatMap heardWords, IsLettered word := by
    intro word hword
    obtain ⟨part, hpart, hword⟩ := List.mem_flatMap.mp hword
    obtain ⟨letters, hletters, rfl⟩ := List.mem_map.mp hword
    rw [IsLettered, String.toList_ofList]
    have hsimple := (hparts part hpart).simple letters hletters
    exact ⟨hsimple.ne_nil, hsimple.letters⟩
  rw [tokenize, hjoin, normalCharacters_joinWords hspelled, hheard, tokensOf_joinWords hlettered]

theorem heardWords_intercalate (parts : List String) :
    heardWords (" ".intercalate parts) = parts.flatMap heardWords := by
  have hjoin : (" ".intercalate parts).toList = Text.joinWords (parts.map String.toList) := by
    rw [String.toList_intercalate]
    rfl
  rw [heardWords, hjoin, unhyphenedWords, Text.map_joinWords rfl, Text.words_joinWords_flatMap,
    List.flatMap_map, List.flatMap_map, List.map_flatMap]
  rfl

theorem IsSimple.heardWords_eq {word : String} (h : IsSimple word.toList) :
    heardWords word = [word] := by
  rw [heardWords, h.unhyphenedWords_eq, List.map_singleton, String.ofList_toList]

end Phrase

namespace Spelling

open Phrase (IsSimple IsSpelled heardWords)
open NumberWord (group)
open SpokenCalculator.Cardinal (cardinalWords)

variable {n : ℕ}

def spokenWords : List String :=
  smallWords ++ tensWords ++ scales.map (·.2) ++ ["hundred", "negative", "plus", pointWord]

theorem isSimple_of_mem_spokenWords : ∀ word ∈ spokenWords, IsSimple word.toList := by
  decide +kernel

theorem isSimple_smallWord (h : n < 20) : IsSimple (smallWord n).toList := by
  have hlength : n < smallWords.length := h
  refine isSimple_of_mem_spokenWords _ ?_
  rw [smallWord, List.getD_eq_getElem?_getD, List.getElem?_eq_getElem hlength]
  simp [spokenWords]

theorem isSimple_tensWord {count : ℕ} (h : count < 10) : IsSimple (tensWord count).toList := by
  have hlength : count - 2 < tensWords.length := by
    change count - 2 < 8
    omega
  refine isSimple_of_mem_spokenWords _ ?_
  rw [tensWord, List.getD_eq_getElem?_getD, List.getElem?_eq_getElem hlength]
  simp [spokenWords]

theorem heardWords_of_mem_spokenWords {word : String} (h : word ∈ spokenWords) :
    heardWords word = [word] :=
  (isSimple_of_mem_spokenWords word h).heardWords_eq

theorem isSimple_hundred : IsSimple "hundred".toList :=
  isSimple_of_mem_spokenWords _ (by simp [spokenWords])

theorem isSimple_of_mem_scales : ∀ step ∈ scales, IsSimple step.2.toList := by
  intro step hstep
  refine isSimple_of_mem_spokenWords _ ?_
  simp only [spokenWords, List.mem_append, List.mem_map]
  exact .inl (.inr ⟨step, hstep, rfl⟩)

/-- A number below a hundred is spelled as one word, with a hyphen if it is
heard as two. -/
theorem isSpelled_belowHundred (h : n < 100) :
    IsSpelled (belowHundred n).toList ∧
      heardWords (belowHundred n) = (NumberWord.belowHundred n).map NumberWord.text := by
  have htens := isSimple_tensWord (by omega : n / 10 < 10)
  have hones := isSimple_smallWord (by omega : n % 10 < 20)
  rcases NumberWord.belowHundred_cases h with ⟨hlt, hn⟩ | ⟨hlow, hround, hn⟩ | ⟨hlow, hrest, hn⟩
  · have hword : belowHundred n = smallWord n := if_pos hlt
    have hsimple := isSimple_smallWord hlt
    rw [hn, hword]
    exact ⟨hsimple.isSpelled, hsimple.heardWords_eq⟩
  · have hword : belowHundred n = tensWord (n / 10) := by
      rw [belowHundred, if_neg (by omega), if_pos hround]
    rw [hn, hword]
    exact ⟨htens.isSpelled, htens.heardWords_eq⟩
  · have hword : (belowHundred n).toList =
        (tensWord (n / 10)).toList ++ '-' :: (smallWord (n % 10)).toList := by
      rw [belowHundred, if_neg (by omega), if_neg hrest]
      simp
    rw [heardWords, hn, hword, htens.unhyphenedWords_hyphen hones]
    refine ⟨htens.isSpelled_hyphen hones, ?_⟩
    simp [NumberWord.text]

theorem isSpelled_of_mem_groupList (h : n < 2000) :
    ∀ part ∈ groupList n, IsSpelled part.toList := by
  have hrest := isSpelled_belowHundred (Nat.mod_lt n (by decide : 0 < 100))
  have hhundreds := isSimple_smallWord (by omega : n / 100 < 20)
  intro part hpart
  rw [groupList, List.mem_append] at hpart
  rcases hpart with hpart | hpart
  · split at hpart
    · contradiction
    · simp only [List.mem_cons, List.not_mem_nil, or_false] at hpart
      rcases hpart with rfl | rfl
      · exact hhundreds.isSpelled
      · exact isSimple_hundred.isSpelled
  · split at hpart
    · contradiction
    · rw [List.mem_singleton.mp hpart]
      exact hrest.1

theorem flatMap_groupList (h : n < 2000) :
    (groupList n).flatMap heardWords = (group n).map NumberWord.text := by
  have hrest := (isSpelled_belowHundred (Nat.mod_lt n (by decide : 0 < 100))).2
  have hhundreds := (isSimple_smallWord (by omega : n / 100 < 20)).heardWords_eq
  unfold groupList group
  rw [List.flatMap_append, List.map_append]
  congr 1
  · split
    · rfl
    · rw [List.flatMap_cons, List.flatMap_singleton, hhundreds, isSimple_hundred.heardWords_eq]
      rfl
  · split
    · rfl
    · rw [List.flatMap_singleton, hrest]

def scaledGroup (count : ℕ) (name : String) : List String :=
  if count = 0 then [] else groupList count ++ [name]

theorem isSpelled_of_mem_scaledGroup {count : ℕ} {name : String} (hcount : count < 2000)
    (hname : IsSpelled name.toList) : ∀ part ∈ scaledGroup count name, IsSpelled part.toList := by
  intro part hpart
  unfold scaledGroup at hpart
  split at hpart
  · contradiction
  · rcases List.mem_append.mp hpart with hgroup | hlast
    · exact isSpelled_of_mem_groupList hcount part hgroup
    · rwa [List.mem_singleton.mp hlast]

theorem isSpelled_of_mem_scaledList {steps : List (ℕ × String)} {bound : ℕ}
    (hroom : LeavesRoom steps bound) (h : n < bound)
    (hsteps : ∀ step ∈ steps, IsSpelled step.2.toList) :
    ∀ part ∈ scaledList steps n, IsSpelled part.toList := by
  induction steps generalizing bound n with
  | nil =>
      intro part hpart
      unfold scaledList at hpart
      split at hpart
      · contradiction
      · exact isSpelled_of_mem_groupList (h.trans_le hroom) part hpart
  | cons step smaller ih =>
      obtain ⟨size, name⟩ := step
      have hcount := hroom.div_lt h
      obtain ⟨hpos, -, hsmaller⟩ := hroom
      intro part hpart
      rw [scaledList, List.mem_append] at hpart
      rcases hpart with hgroup | hrest
      · exact isSpelled_of_mem_scaledGroup hcount
          (hsteps (size, name) List.mem_cons_self) part hgroup
      · exact ih hsmaller (Nat.mod_lt n hpos)
          (fun step hstep => hsteps step (List.mem_cons_of_mem _ hstep)) part hrest

theorem isSpelled_of_mem_naturalList (h : n < 2000 * 10 ^ 15) :
    ∀ part ∈ naturalList n, IsSpelled part.toList := by
  intro part hpart
  unfold naturalList at hpart
  split at hpart
  · rw [List.mem_singleton.mp hpart]
    exact (isSimple_smallWord (by decide)).isSpelled
  · exact isSpelled_of_mem_scaledList leavesRoom_scales h
      (fun step hstep => (isSimple_of_mem_scales step hstep).isSpelled) part hpart

theorem flatMap_scaledGroup {count : ℕ} {name : String} (hcount : count < 2000)
    (hname : heardWords name = [name]) :
    (scaledGroup count name).flatMap heardWords =
      if count = 0 then [] else (group count).map NumberWord.text ++ [name] := by
  unfold scaledGroup
  split
  · rfl
  · rw [List.flatMap_append, flatMap_groupList hcount, List.flatMap_singleton, hname]

theorem flatMap_scaledGroup_text {count : ℕ} {scale : Scale} (hcount : count < 2000)
    (hname : heardWords scale.text = [scale.text]) :
    (scaledGroup count scale.text).flatMap heardWords =
      (Cardinal.segment scale count).map NumberWord.text := by
  rw [flatMap_scaledGroup hcount hname, Cardinal.segment]
  split
  · rfl
  · rw [List.map_append]
    rfl

def numberScales : List (ℕ × String) :=
  [(10 ^ 9, "billion"), (10 ^ 6, "million"), (10 ^ 3, "thousand")]

def heardBelow (n : ℕ) : List String := if n = 0 then [] else cardinalWords n

theorem flatMap_numberScales (h : n < 10 ^ 12) :
    (scaledList numberScales n).flatMap heardWords = heardBelow n := by
  have hname : ∀ scale : Scale, heardWords scale.text = [scale.text] := fun scale => by
    refine heardWords_of_mem_spokenWords ?_
    cases scale <;> simp [spokenWords, scales, Scale.text]
  have hmillions : n % 10 ^ 9 % 10 ^ 6 = n % 10 ^ 6 := by omega
  have hthousands : n % 10 ^ 6 % 10 ^ 3 = n % 10 ^ 3 := by omega
  have hlist : scaledList numberScales n =
      scaledGroup (n / 10 ^ 9) Scale.billion.text ++
        (scaledGroup (n % 10 ^ 9 / 10 ^ 6) Scale.million.text ++
          (scaledGroup (n % 10 ^ 6 / 10 ^ 3) Scale.thousand.text ++
            if n % 10 ^ 3 = 0 then [] else groupList (n % 10 ^ 3))) := by
    simp only [numberScales, scaledList, hmillions, hthousands]
    rfl
  have hlast : (if n % 10 ^ 3 = 0 then [] else groupList (n % 10 ^ 3)).flatMap heardWords =
      (Cardinal.lastGroup (n % 10 ^ 3)).map NumberWord.text := by
    unfold Cardinal.lastGroup
    split
    · rfl
    · exact flatMap_groupList (by omega)
  rw [hlist, List.flatMap_append, List.flatMap_append, List.flatMap_append, hlast,
    flatMap_scaledGroup_text (by omega) (hname _), flatMap_scaledGroup_text (by omega) (hname _),
    flatMap_scaledGroup_text (by omega) (hname _), ← List.map_append, ← List.map_append,
    ← List.map_append, heardBelow]
  by_cases hzero : n = 0
  · subst hzero
    rfl
  · rw [if_neg hzero, cardinalWords, Cardinal.cardinal, if_neg hzero]
    rfl

/-- What is heard for an integer with a word that is no number word: the count
of the largest such scale. -/
def leadingCount (n : ℕ) : ℕ := if n < 10 ^ 15 then n / 10 ^ 12 else n / 10 ^ 15

theorem naturalList_eq (hne : n ≠ 0) :
    naturalList n =
      scaledGroup (n / 10 ^ 15) "quadrillion" ++
        (scaledGroup (n % 10 ^ 15 / 10 ^ 12) "trillion" ++
          scaledList numberScales (n % 10 ^ 12)) := by
  have hrest : n % 10 ^ 15 % 10 ^ 12 = n % 10 ^ 12 := by omega
  rw [naturalList, if_neg hne, ← hrest]
  rfl

theorem flatMap_naturalList_of_lt (h : n < 10 ^ 12) :
    (naturalList n).flatMap heardWords = cardinalWords n := by
  by_cases hzero : n = 0
  · have hword := (isSimple_smallWord (by decide : 0 < 20)).heardWords_eq
    rw [hzero, naturalList, if_pos rfl, List.flatMap_singleton, hword]
    rfl
  · have hquadrillions : n / 10 ^ 15 = 0 := by omega
    have htrillions : n % 10 ^ 15 / 10 ^ 12 = 0 := by omega
    have hrest : n % 10 ^ 12 = n := Nat.mod_eq_of_lt h
    have hempty : ∀ name, scaledGroup 0 name = [] := fun _ => rfl
    rw [naturalList_eq hzero, hquadrillions, htrillions, hrest, hempty, hempty, List.nil_append,
      List.nil_append, flatMap_numberScales h, heardBelow, if_neg hzero]

/-- The words of an integer with a scale for which there is no number word. -/
theorem flatMap_naturalList_of_le (hlow : 10 ^ 12 ≤ n) (hhigh : n ≤ 10 ^ 15) :
    ∃ name, (name = "trillion" ∨ name = "quadrillion") ∧
      (naturalList n).flatMap heardWords =
        cardinalWords (leadingCount n) ++ name :: heardBelow (n % 10 ^ 12) := by
  have hrest : (scaledList numberScales (n % 10 ^ 12)).flatMap heardWords = _ :=
    flatMap_numberScales (by omega)
  have hcount : leadingCount n < 1000 := by
    unfold leadingCount
    split <;> omega
  have hname : ∀ name ∈ scales.map (·.2), heardWords name = [name] := fun name hname =>
    heardWords_of_mem_spokenWords
      (List.mem_append_left _ (List.mem_append_right _ hname))
  have htrillion := hname "trillion" (by simp [scales])
  have hquadrillion := hname "quadrillion" (by simp [scales])
  rw [naturalList_eq (by omega), List.flatMap_append, List.flatMap_append, hrest, cardinalWords,
    Cardinal.cardinal_of_lt hcount]
  -- Only the limit itself has a quadrillion, and nothing behind it.
  rcases hhigh.lt_or_eq with hlt | rfl
  · have hquadrillions : n / 10 ^ 15 = 0 := by omega
    have htrillions : n % 10 ^ 15 / 10 ^ 12 = n / 10 ^ 12 := by omega
    have hne : n / 10 ^ 12 ≠ 0 := by omega
    refine ⟨"trillion", .inl rfl, ?_⟩
    rw [hquadrillions, htrillions, flatMap_scaledGroup (by omega) hquadrillion, if_pos rfl,
      flatMap_scaledGroup (by omega) htrillion, if_neg hne, leadingCount, if_pos hlt]
    simp
  · refine ⟨"quadrillion", .inr rfl, ?_⟩
    rw [flatMap_scaledGroup (by decide) hquadrillion, flatMap_scaledGroup (by decide) htrillion]
    rfl

end Spelling

end SpokenCalculator
