import SpokenCalculator.Proofs.Spelling.English
import SpokenCalculator.Proofs.Spelling.Number

namespace SpokenCalculator.Spelling

open Phrase (heardWords)
open Spoken (behindPoint)
open Context (magnitude_pos)

/-- A number with words for its sign, its whole part and the digits of its
fraction, the last of which is not zero. -/
structure IsParted (q : ℚ) (negative : Bool) (whole : ℕ) (digits : List ℕ) : Prop where
  value : q = signed negative (whole + digitsValue digits / 10 ^ digits.length)
  whole_lt : whole < 2000 * 10 ^ 15
  digits_lt : ∀ digit ∈ digits, digit < 10
  last_ne : digits.getLast? ≠ some 0
  unsigned : q = 0 → negative = false

section

variable {q : ℚ} {negative : Bool} {whole : ℕ} {digits : List ℕ}

theorem digitsValue_pos (hlast : digits.getLast? ≠ some 0) (hne : digits ≠ []) :
    0 < digitsValue digits := by
  have hsplit := List.dropLast_append_getLast hne
  rw [List.getLast?_eq_some_getLast hne, ne_eq, Option.some.injEq] at hlast
  rw [← hsplit, digitsValue_append, digitsValue_cons, digitsValue_nil]
  simp only [List.length_nil, pow_zero]
  omega

namespace IsParted

variable (h : IsParted q negative whole digits)

include h

theorem fraction_mem (hne : digits ≠ []) :
    0 < (digitsValue digits : ℚ) / 10 ^ digits.length ∧
      (digitsValue digits : ℚ) / 10 ^ digits.length < 1 := by
  have hpos : (0 : ℚ) < digitsValue digits := by exact_mod_cast digitsValue_pos h.last_ne hne
  exact ⟨by positivity, fraction_lt_one h.digits_lt⟩

theorem abs_eq : |q| = whole + digitsValue digits / 10 ^ digits.length := by
  rw [h.value, abs_signed, abs_of_nonneg (by positivity)]

theorem whole_le : (whole : ℚ) ≤ |q| := by
  rw [h.abs_eq]
  exact le_add_of_nonneg_right (by positivity)

/-- A fraction is left exactly if the number is no integer. -/
theorem digits_ne_nil_iff : digits ≠ [] ↔ ¬ ∃ n : ℤ, q = n := by
  have habs := h.abs_eq
  constructor
  · rintro hne ⟨n, rfl⟩
    obtain ⟨hpos, hlt⟩ := h.fraction_mem hne
    rw [← Int.cast_abs] at habs
    have hlow : (whole : ℤ) < |n| := by
      have : (whole : ℚ) < |n| := by linarith
      exact_mod_cast this
    have hhigh : |n| < (whole : ℤ) + 1 := by
      have : ((|n| : ℤ) : ℚ) < whole + 1 := by linarith
      exact_mod_cast this
    omega
  · intro hno hnil
    refine hno ⟨if negative then -whole else whole, ?_⟩
    rw [h.value, hnil]
    cases negative <;> simp [signed]

theorem eq_zero (hzero : q = 0) : negative = false ∧ whole = 0 ∧ digits = [] := by
  have hnil : digits = [] := by
    by_contra hne
    exact h.digits_ne_nil_iff.mp hne ⟨0, by simpa using hzero⟩
  have hwhole := h.value
  rw [hzero, eq_comm, signed_eq_zero, hnil] at hwhole
  exact ⟨h.unsigned hzero, by simpa using hwhole, hnil⟩

end IsParted

end

/-- The digits behind the point of a reduced number end with its own last
digit. -/
theorem getLast?_digitParts {coefficient : ℕ} (hlast : coefficient % 10 ≠ 0) (exponent : ℤ) :
    (digitParts coefficient exponent).2.getLast? ≠ some 0 := by
  intro hzero
  obtain ⟨before, hsplit⟩ := List.getLast?_eq_some_iff.mp hzero
  have hparts := isDigitParts coefficient exponent
  have hplaces := hparts.places
  have hvalue := hparts.fraction
  rw [hsplit, List.length_append, List.length_singleton] at hplaces
  rw [hsplit, digitsValue_append, fractionPart, if_neg (by omega), ← hplaces, pow_succ] at hvalue
  have hdigit : coefficient % (10 ^ before.length * 10) % 10 = coefficient % 10 :=
    Nat.mod_mod_of_dvd _ (Nat.dvd_mul_left 10 _)
  rw [← hvalue, digitsValue_cons] at hdigit
  simp only [List.length_singleton, pow_one, digitsValue_nil] at hdigit
  omega

theorem Reduced.isParted {coefficient : ℕ} {exponent : ℤ} (h : Reduced coefficient exponent)
    (negative : Bool) :
    IsParted (signed negative (coefficient * 10 ^ exponent)) negative
      (wholePart coefficient exponent) (digitParts coefficient exponent).2 where
  value := by
    have hparts := isDigitParts coefficient exponent
    rw [hparts.fraction, hparts.places, wholePart_add_fractionPart]
  whole_lt := h.wholePart_lt
  digits_lt := (isDigitParts coefficient exponent).fraction_lt
  last_ne := getLast?_digitParts h.last_ne exponent
  unsigned := by
    intro hzero
    rw [signed_eq_zero] at hzero
    exact absurd hzero (magnitude_pos h.coefficient_ne exponent).ne'

theorem isParted_zero : IsParted 0 false 0 [] where
  value := by simp [signed]
  whole_lt := by norm_num
  digits_lt := List.forall_mem_nil _
  last_ne := by simp
  unsigned := fun _ => rfl

theorem exists_parted {x : Decimal} {places place : ℤ} {negative : Bool} {kept : ℕ}
    (hround : roundFor x places = .ok (.finite negative kept place)) (hkept : kept < 10 ^ 28)
    (hplace : Context.standard.leastPlace ≤ place)
    (hbounded : (kept : ℚ) * 10 ^ place < 2000 * 10 ^ 15) :
    ∃ sign whole digits, number x places =
        .ok (" ".intercalate (numberParts sign whole digits)) ∧
      IsParted (Decimal.value (.finite negative kept place)) sign whole digits ∧
      digits.length ≤ (-place).toNat := by
  rcases Nat.eq_zero_or_pos kept with rfl | hpos
  · have hvalue : Decimal.value (.finite negative 0 place) = 0 := by simp [Decimal.value]
    refine ⟨false, 0, [], ?_, hvalue ▸ isParted_zero, Nat.zero_le _⟩
    rw [number_of_isZero hround]
    rfl
  · obtain ⟨coefficient, exponent, hnumber, hreduced, hsame, hle⟩ :=
      number_of_roundFor hround hpos.ne' hkept hplace hbounded
    refine ⟨negative, wholePart coefficient exponent, (digitParts coefficient exponent).2,
      ?_, ?_, ?_⟩
    · rw [hnumber, hreduced.finite_eq, intercalate_numberParts]
    · rw [Decimal.value, ← hsame]
      exact hreduced.isParted negative
    · rw [(isDigitParts coefficient exponent).places]
      omega

structure Denotes (text : String) (q : ℚ) : Prop where
  read : English.number? text = some q
  zero : q = 0 → text = "zero"
  point : pointWord ∈ heardWords text ↔ ¬ ∃ n : ℤ, q = n
  last_ne : (behindPoint (heardWords text)).getLast? ≠ some "zero"

namespace IsParted

variable {q : ℚ} {negative : Bool} {whole : ℕ} {digits : List ℕ}
  (h : IsParted q negative whole digits)

include h

theorem behindPoint_eq :
    (pointWord ∈ heardWords (" ".intercalate (numberParts negative whole digits)) ↔
        digits ≠ []) ∧
      behindPoint (heardWords (" ".intercalate (numberParts negative whole digits))) =
        digits.map smallWord := by
  rw [Phrase.heardWords_intercalate, flatMap_numberParts negative whole h.digits_lt]
  set before := (if negative then ["negative"] else []) ++ (naturalList whole).flatMap heardWords
    with hbefore
  have hpoint : pointWord ∉ before := by
    have hwhole := not_mem_naturalList h.whole_lt
      (by decide : pointWord ∉ groupTexts ++ scales.map (·.2))
    have hnegative : pointWord ≠ "negative" := by decide
    cases negative <;> simp [hbefore, hwhole, hnegative]
  by_cases hnone : digits = []
  · have hdrop : before.dropWhile (· ≠ pointWord) = [] := by
      rw [List.dropWhile_eq_nil_iff]
      intro word hword
      rw [decide_eq_true_eq]
      rintro rfl
      exact hpoint hword
    rw [hnone, Spoken.fractionWords_nil, List.append_nil, behindPoint, hdrop]
    simp [hpoint]
  · rw [Spoken.fractionWords_of_ne_nil hnone, behindPoint, (cut_append hpoint _).2]
    simp [hnone]

theorem denotes : Denotes (" ".intercalate (numberParts negative whole digits)) q := by
  obtain ⟨hpoint, hbehind⟩ := h.behindPoint_eq
  refine ⟨?_, ?_, hpoint.trans h.digits_ne_nil_iff, ?_⟩
  · rw [number?_numberParts negative h.whole_lt h.digits_lt, ← h.value]
  · intro hzero
    obtain ⟨rfl, rfl, rfl⟩ := h.eq_zero hzero
    rfl
  · have hword : ∀ digit < 10, smallWord digit = "zero" → digit = 0 := by decide
    rw [hbehind, List.getLast?_map]
    intro hlast
    obtain ⟨digit, hdigit, hzero⟩ := Option.map_eq_some_iff.mp hlast
    have hsmall := h.digits_lt digit (List.mem_of_getLast? hdigit)
    exact h.last_ne (hword digit hsmall hzero ▸ hdigit)

end IsParted

def spokenValue (x : Decimal) (places : ℤ) : ℚ :=
  if roundTo (-places) x.value = 0 then x.value else roundTo (-places) x.value

theorem abs_lt_of_roundTo_eq_zero {place : ℤ} {q : ℚ} (h : roundTo place q = 0) :
    |q| < 10 ^ place := by
  by_contra hle
  have hlow := le_roundTo (.zpow le_rfl) (not_lt.mp hle)
  rw [roundTo_abs, h, abs_zero] at hlow
  exact absurd (zpow_ten_pos place) (not_lt.mpr hlow)

theorem spokenValue_eq {x : Decimal} {places : ℤ} {negative : Bool} {kept : ℕ}
    (hvalue : Decimal.value (.finite negative kept (-places)) = roundTo (-places) x.value)
    (hvanishes : kept = 0 → x.value = 0) :
    spokenValue x places = Decimal.value (.finite negative kept (-places)) := by
  rw [spokenValue, hvalue]
  split
  · rename_i hzero
    rw [← hvalue, Decimal.value, signed_eq_zero, mul_eq_zero] at hzero
    have hkept := hzero.resolve_right (zpow_ten_pos _).ne'
    rw [hvanishes (by exact_mod_cast hkept), roundTo_zero]
  · rfl

/-- A number within the range of exponents has no place beyond the least. -/
theorem leastPlace_le_of_normal {coefficient : ℕ} {exponent : ℤ} (hdigits : coefficient < 10 ^ 28)
    (hnormal : -999999 ≤ leadingExponent coefficient exponent) :
    Context.standard.leastPlace ≤ exponent := by
  have hcount := digitCount_le_of_lt (by norm_num) hdigits
  change (-1000026 : ℤ) ≤ _
  unfold leadingExponent at hnormal
  omega

/-- A number is rounded and then said exactly, with at most the digits that were
asked for. A number that would vanish is said with all of its digits. -/
theorem number_denotes {x : Decimal} {negative : Bool} {coefficient : ℕ} {exponent : ℤ} {places : ℕ}
    (hx : x = .finite negative coefficient exponent) (hdigits : coefficient < 10 ^ 28)
    (hnormal : -999999 ≤ leadingExponent coefficient exponent) (hplaces : places ≤ 999999)
    (hroom : |roundTo (-places) x.value| < 10 ^ (28 - places : ℤ))
    (hwhole : |roundTo (-places) x.value| < 2 * 10 ^ 18) :
    ∃ text, number x places = .ok text ∧ Denotes text (spokenValue x places) ∧
      ((behindPoint (heardWords text)).length ≤ places ∨
        roundTo (-places) x.value = 0 ∧ x.value ≠ 0) := by
  have hbound : (2000 * 10 ^ 15 : ℚ) = 2 * 10 ^ 18 := by norm_num
  have hplace : Context.standard.leastPlace ≤ -(places : ℤ) := by
    change (-1000026 : ℤ) ≤ _
    omega
  rw [← hbound] at hwhole
  rw [sub_eq_neg_add] at hroom
  have hfinite : x.isFinite := hx ▸ rfl
  rcases roundFor_cases hfinite (by omega) (by omega) hroom with
    ⟨sign, kept, hround, hvalue, hvanishes⟩ | ⟨hround, hzero, hne⟩
  · have hmagnitude := Decimal.abs_value_finite sign kept (-places)
    rw [hvalue] at hmagnitude
    rw [hmagnitude] at hroom hwhole
    obtain ⟨sign', whole, digits, hnumber, hparted, hlength⟩ :=
      exists_parted hround (Context.lt_pow_of_mul_zpow_lt hroom) hplace hwhole
    refine ⟨_, hnumber, spokenValue_eq hvalue hvanishes ▸ hparted.denotes, .inl ?_⟩
    rw [hparted.behindPoint_eq.2, List.length_map]
    omega
  -- What vanishes is below the last place, so it has room with all of its digits.
  · have hspoken : spokenValue x places = x.value := if_pos hzero
    have hsmall : (coefficient : ℚ) * 10 ^ exponent < 2000 * 10 ^ 15 := by
      have hunit : (10 : ℚ) ^ (-places : ℤ) ≤ 1 := zpow_le_one_of_nonpos₀ (by norm_num) (by omega)
      rw [← Decimal.abs_value_finite negative, ← hx]
      exact ((abs_lt_of_roundTo_eq_zero hzero).trans_le hunit).trans (by norm_num)
    rw [hx] at hround
    obtain ⟨sign, whole, digits, hnumber, hparted, -⟩ :=
      exists_parted hround hdigits (leastPlace_le_of_normal hdigits hnormal) hsmall
    rw [← hx] at hnumber hparted
    exact ⟨_, hnumber, hspoken ▸ hparted.denotes, .inr ⟨hzero, hne⟩⟩

/-- Rounding to an even hundredth carries into the whole part, and no point is
left. -/
theorem number_denotes_carry :
    roundTo (-2) (Decimal.value (.finite true 1995 (-3))) = -2 ∧
      -999999 ≤ leadingExponent 1995 (-3) ∧
      ∃ text, number (.finite true 1995 (-3)) 2 = .ok text ∧
        English.number? text = some (-2) ∧ pointWord ∉ heardWords text := by
  have hrounded : roundTo (-2) (Decimal.value (.finite true 1995 (-3))) = -2 := by
    have hquotient : (Decimal.value (.finite true 1995 (-3)) : ℚ) / 10 ^ (-2 : ℤ) = -399 / 2 := by
      norm_num [Decimal.value, signed]
    have hfloor : ⌊(-399 / 2 : ℚ)⌋ = -200 := by norm_num
    rw [roundTo, hquotient, nearestEven, hfloor]
    norm_num
  have hnormal : -999999 ≤ leadingExponent 1995 (-3) := by
    rw [leadingExponent, digitCount_eq]
    omega
  have hspoken : spokenValue (.finite true 1995 (-3)) (2 : ℕ) = -2 := by
    rw [spokenValue, Nat.cast_ofNat, hrounded, if_neg (by norm_num)]
  have hroom : |roundTo (-(2 : ℕ)) (Decimal.value (.finite true 1995 (-3)))| = 2 := by
    rw [Nat.cast_ofNat, hrounded]
    norm_num
  obtain ⟨text, hnumber, hdenotes, -⟩ := number_denotes rfl (by norm_num) hnormal
    (by norm_num : 2 ≤ 999999) (hroom.trans_lt (by norm_num)) (hroom.trans_lt (by norm_num))
  rw [hspoken] at hdenotes
  exact ⟨hrounded, hnormal, text, hnumber, hdenotes.read, fun hpoint =>
    hdenotes.point.mp hpoint ⟨-2, by norm_num⟩⟩

end SpokenCalculator.Spelling
