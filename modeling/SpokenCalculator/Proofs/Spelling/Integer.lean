import SpokenCalculator.Proofs.Spelling.English

namespace SpokenCalculator.Spelling

open Phrase (heardWords)
open SpokenCalculator.Cardinal (cardinalWords IsHeardRight)

variable {n : ℕ}

theorem natural_eq_error (h : 2000 * 10 ^ 15 ≤ n) :
    natural n = .error (.noWord (n / 10 ^ 15 / 100)) := by
  have hcount : 2000 ≤ n / 10 ^ 15 := by omega
  have hgroup : groupWords (n / 10 ^ 15) = .error (.noWord (n / 10 ^ 15 / 100)) := if_pos hcount
  have hsome : n / 10 ^ 15 ≠ 0 := by omega
  have hscaled : scaledWords scales n = .error (.noWord (n / 10 ^ 15 / 100)) := by
    have hsize : Nat.pow 10 15 = 10 ^ 15 := rfl
    rw [scales, scaledWords, hsize, if_neg hsome, hgroup]
    rfl
  rw [natural, if_neg (by omega), hscaled]
  rfl

theorem integer_eq (z : ℤ) (h : z.natAbs < 2000 * 10 ^ 15) :
    integer z = .ok (" ".intercalate (numberParts (decide (z < 0)) z.natAbs [])) := by
  have hsign : (if z < 0 then negativeWord else "") = signText (decide (z < 0)) := by
    simp [signText]
  have hempty : fractionText [] = "" := rfl
  have hparts := intercalate_numberParts (decide (z < 0)) z.natAbs []
  rw [hempty, String.append_empty] at hparts
  rw [integer, natural_eq h, Except.map, hsign, hparts]

theorem integer?_numberParts (z : ℤ) (h : z.natAbs < 2000 * 10 ^ 15) :
    English.integer? (" ".intercalate (numberParts (decide (z < 0)) z.natAbs [])) = some z := by
  have hhead := head?_naturalList_append h (Spoken.fractionWords [])
  rw [English.integer?, Phrase.heardWords_intercalate,
    flatMap_numberParts _ _ (List.forall_mem_nil _), List.append_assoc,
    English.withSign?_sign _ hhead, Spoken.fractionWords_nil, List.append_nil,
    natural?_naturalList h]
  by_cases hneg : z < 0
  · have hvalue : -(z.natAbs : ℤ) = z := by omega
    rw [decide_eq_true hneg, if_pos rfl, Option.map_some, Option.map_some, hvalue]
  · have hvalue : (z.natAbs : ℤ) = z := by omega
    rw [decide_eq_false hneg, if_neg Bool.false_ne_true, Option.map_some, hvalue]

theorem integer_eq_error (z : ℤ) (h : 2000 * 10 ^ 15 ≤ z.natAbs) :
    integer z = .error (.noWord (z.natAbs / 10 ^ 15 / 100)) := by
  rw [integer, natural_eq_error h]
  rfl

theorem kind_noWord (hundreds : ℕ) : (SpellingFault.noWord hundreds).failure.kind = .index := by
  rw [SpellingFault.failure]
  split <;> rfl

/-- A text that is returned is read as the integer, which is small enough for
the words that there are. -/
theorem integer?_of_eq_ok {z : ℤ} {text : String} (h : integer z = .ok text) :
    z.natAbs < 2000 * 10 ^ 15 ∧ English.integer? text = some z := by
  rcases lt_or_ge z.natAbs (2000 * 10 ^ 15) with hlt | hle
  · rw [integer_eq z hlt] at h
    cases h
    exact ⟨hlt, integer?_numberParts z hlt⟩
  · rw [integer_eq_error z hle] at h
    cases h

/-- Spelling has an inverse in English, as far as there are words. -/
theorem integer_faithful (z : ℤ) :
    ((∃ text, integer z = .ok text ∧ English.integer? text = some z) ↔
      z.natAbs < 2 * 10 ^ 18) ∧
    ((∃ fault, integer z = .error fault ∧ fault.failure.kind = .index) ↔
      2 * 10 ^ 18 ≤ z.natAbs) ∧
    ∀ other text, integer z = .ok text → integer other = .ok text → other = z := by
  have hbound : 2000 * 10 ^ 15 = 2 * 10 ^ 18 := by norm_num
  rw [← hbound]
  refine ⟨⟨?_, fun h => ⟨_, integer_eq z h, integer?_numberParts z h⟩⟩,
    ⟨?_, fun h => ⟨_, integer_eq_error z h, kind_noWord _⟩⟩, ?_⟩
  · rintro ⟨text, htext, -⟩
    exact (integer?_of_eq_ok htext).1
  · rintro ⟨fault, hfault, -⟩
    by_contra hlt
    rw [integer_eq z (not_le.mp hlt)] at hfault
    cases hfault
  · intro other text htext hother
    have hsame := (integer?_of_eq_ok hother).2.symm.trans (integer?_of_eq_ok htext).2
    exact Option.some.inj hsame

theorem exists_integer_eq (h : n < 10 ^ 12) :
    ∃ text, integer n = .ok text ∧ heardWords text = cardinalWords n := by
  have hsmall : (n : ℤ).natAbs < 2000 * 10 ^ 15 := by omega
  have hsign : decide ((n : ℤ) < 0) = false := by simp
  refine ⟨_, integer_eq n hsmall, ?_⟩
  rw [Phrase.heardWords_intercalate, flatMap_numberParts _ _ (List.forall_mem_nil _), hsign,
    Int.natAbs_natCast, flatMap_naturalList_of_lt h]
  simp

/-- An integer is read back as itself if its last group is not zero or only one
of its groups is not zero, and as a larger one otherwise. -/
theorem integer_readBack (h : n < 10 ^ 12) :
    ∃ text heard, integer n = .ok text ∧
      splitRun (heardWords text) = [heardWords text] ∧
      Spoken.read (heardWords text) = .ok (.ofNat heard) ∧
      (heard = n ↔ IsHeardRight n) ∧ (¬ IsHeardRight n → n < heard) := by
  obtain ⟨text, htext, hwords⟩ := exists_integer_eq h
  obtain ⟨heard, hread, hle, hiff⟩ := Cardinal.exists_readCardinal h
  refine ⟨text, heard, htext, ?_, ?_, hiff, fun hwrong => ?_⟩
  · rw [hwords, Cardinal.splitRun_cardinalWords]
  · rw [hwords, Spoken.read_eq (Cardinal.isNumberWord_of_mem_cardinalWords h), hread]
    rfl
  · have hne : heard ≠ n := hiff.not.mpr hwrong
    omega

/-- A million and a thousand end in a scale word with another one before. -/
theorem integer_readBack_two_scales :
    1001000 < 10 ^ 12 ∧
      ∃ text heard, integer 1001000 = .ok text ∧
        splitRun (heardWords text) = [heardWords text] ∧
        Spoken.read (heardWords text) = .ok (.ofNat heard) ∧ 1001000 < heard := by
  have hwrong : ¬ IsHeardRight 1001000 := by
    unfold IsHeardRight
    decide
  obtain ⟨text, heard, htext, hsplit, hread, -, hlt⟩ :=
    integer_readBack (by norm_num : 1001000 < 10 ^ 12)
  exact ⟨by norm_num, text, heard, htext, hsplit, hread, hlt hwrong⟩

end SpokenCalculator.Spelling
