import SpokenCalculator.Proofs.Spelling.Rounded

namespace SpokenCalculator

namespace Spelling

open Phrase (IsSimple IsSpelled heardWords tokenize wordTokens additionWords IsAside)
open Spoken (fractionWords withDigits IsOperand)
open SpokenCalculator.Cardinal (cardinalWords IsHeardRight)

variable {negative : Bool} {whole : ℕ} {digits : List ℕ}

/-- Every number that memory can hold is spelled by its sign, its whole part and
the digits behind its point. -/
theorem exists_parted_of_storable {x : Decimal} (hx : x.Storable) :
    ∃ negative whole digits, number x 12 =
        .ok (" ".intercalate (numberParts negative whole digits)) ∧
      x.value = signed negative (whole + digitsValue digits / 10 ^ digits.length) ∧
      whole ≤ 10 ^ 15 ∧ digits.length ≤ 12 ∧ ∀ digit ∈ digits, digit < 10 := by
  have hbounded := hx.bounded
  -- With all places spoken, a number of memory is not rounded before it is spelled.
  have hgrid : roundTo (-12) x.value = x.value := roundTo_of_onGrid hx.onGrid
  have hroom := roundTo_lt_of_storable hx (by norm_num) le_rfl
  rcases roundFor_cases hx.isFinite (by norm_num) (by norm_num) hroom with
    ⟨negative, kept, hround, hvalue, -⟩ | ⟨-, hzero, hne⟩
  · rw [hgrid] at hvalue
    have hmagnitude := Decimal.abs_value_finite negative kept (-12)
    rw [hvalue] at hmagnitude
    rw [hmagnitude] at hbounded
    obtain ⟨sign, whole, digits, hnumber, hparted, hlength⟩ :=
      exists_parted hround (coefficient_lt_of_bounded le_rfl hbounded) (by decide)
        (hbounded.trans_lt (by norm_num))
    rw [hvalue] at hparted
    refine ⟨sign, whole, digits, hnumber, hparted.value, ?_, hlength, hparted.digits_lt⟩
    have hwhole := hparted.whole_le.trans (hmagnitude.trans_le hbounded)
    exact_mod_cast hwhole
  · exact absurd (hgrid.symm.trans hzero) hne

theorem tokenize_plus (negative : Bool) (h : whole ≤ 10 ^ 15)
    (hdigits : ∀ digit ∈ digits, digit < 10) :
    tokenize ("plus " ++ " ".intercalate (numberParts negative whole digits)) =
      wordTokens (additionWords negative ((naturalList whole).flatMap heardWords) ++
        fractionWords digits) := by
  have hplus : IsSimple "plus".toList := isSimple_of_mem_spokenWords _ (by simp [spokenWords])
  have hspace : "plus " = "plus" ++ " " := rfl
  have hparts : numberParts negative whole digits ≠ [] := by
    simp [numberParts, naturalList_ne_nil]
  have hspelled : ∀ part ∈ "plus" :: numberParts negative whole digits, IsSpelled part.toList := by
    rw [List.forall_mem_cons, numberParts, List.forall_mem_append, List.forall_mem_append]
    exact ⟨hplus.isSpelled, ⟨fun part hpart => (isSimple_of_mem_sign part hpart).isSpelled,
      isSpelled_of_mem_naturalList (h.trans_lt (by norm_num))⟩,
      fun part hpart => (isSimple_of_mem_fractionWords hdigits part hpart).isSpelled⟩
  rw [hspace, ← String.intercalate_cons_of_ne_nil hparts, Phrase.tokenize_intercalate hspelled,
    List.flatMap_cons, hplus.heardWords_eq, flatMap_numberParts negative whole hdigits]
  simp [wordTokens, additionWords]

theorem value_withDigits (whole : ℕ) (digits : List ℕ) :
    (withDigits whole digits).value = whole + digitsValue digits / 10 ^ digits.length := by
  have hpos : (10 : ℚ) ^ digits.length ≠ 0 := by positivity
  have hvalue : (withDigits whole digits).value =
      ((whole * 10 ^ digits.length + digitsValue digits : ℕ) : ℚ) *
        10 ^ (-digits.length : ℤ) := rfl
  rw [hvalue, zpow_neg, zpow_natCast, ← div_eq_mul_inv, Nat.cast_add, Nat.cast_mul, Nat.cast_pow,
    Nat.cast_ofNat, add_div, mul_div_cancel_right₀ _ hpos]

/-- Joining a sign with a spoken number gives a number, and exactly the one with
this sign if there is room for all digits. -/
theorem exists_applySign (negative : Bool) (hwhole : whole < 10 ^ 28) (hlength : digits.length ≤ 12)
    (hdigits : ∀ digit ∈ digits, digit < 10) :
    ∃ result, Phrase.applySign negative (withDigits whole digits) = .ok result ∧ result.isFinite ∧
      (whole < 10 ^ 12 → result.value = signed negative (withDigits whole digits).value) := by
  have hrow := digitsValue_lt hdigits
  have hcoefficient : whole * 10 ^ digits.length + digitsValue digits <
      10 ^ (28 + digits.length) := by
    have hmul : (whole + 1) * 10 ^ digits.length ≤ 10 ^ 28 * 10 ^ digits.length :=
      Nat.mul_le_mul_right _ hwhole
    rw [Nat.add_mul] at hmul
    rw [pow_add]
    omega
  -- Without a change of sign nothing is rounded; with one, to twenty-eight digits.
  have hwritten : (withDigits whole digits).WrittenIn 13 :=
    Decimal.writtenIn_finite digits.length (by omega) (le_max_right _ _) hcoefficient
  cases negative with
  | false => exact ⟨_, rfl, rfl, fun _ => rfl⟩
  | true =>
      obtain ⟨result, hnegate, hresult⟩ := hwritten.negate (by norm_num)
      refine ⟨result, hnegate, hresult.isFinite, fun hsmall => ?_⟩
      have hrounds : Context.standard.RoundsTo (-(withDigits whole digits).value)
          (Context.standard.negate (withDigits whole digits)) :=
        Context.negate_roundsTo (by decide) rfl
      have hfits : Context.standard.Fits (withDigits whole digits).value := by
        have hgrid : OnGrid (-12) (withDigits whole digits).value := hwritten.onGrid
        refine .of_bound hgrid (by decide) ?_
        have hwhole : (whole : ℚ) + 1 ≤ 10 ^ 12 := by exact_mod_cast hsmall
        have hnonneg : (0 : ℚ) ≤ whole + digitsValue digits / 10 ^ digits.length := by positivity
        have hprecision : (-12 + (Context.standard.precision : ℕ) : ℤ) = 16 := by decide
        have hfraction := fraction_lt_one hdigits
        rw [value_withDigits, abs_of_nonneg hnonneg, hprecision]
        calc
          (whole : ℚ) + digitsValue digits / 10 ^ digits.length < whole + 1 := by linarith
          _ ≤ 10 ^ 12 := hwhole
          _ ≤ 10 ^ (16 : ℤ) := by norm_num
      rcases hrounds with ⟨rounded, hok, -, hvalue, -⟩ | ⟨herror, -⟩
      · rw [hnegate] at hok
        cases hok
        rw [hvalue, hfits.neg.rounded_eq]
        rfl
      · rw [hnegate] at herror
        cases herror

/-- Below a million million the whole number is heard, though not always
right. -/
theorem exists_parse_of_lt (negative : Bool) (h : whole < 10 ^ 12) (hlength : digits.length ≤ 12)
    (hdigits : ∀ digit ∈ digits, digit < 10) :
    ∃ result, Command.parse ("plus " ++ " ".intercalate (numberParts negative whole digits)) =
        .ok (.apply .add result) ∧ result.isFinite ∧
      (IsHeardRight whole → result.value = signed negative (withDigits whole digits).value) := by
  obtain ⟨heard, hwhole, hright⟩ := Spoken.exists_isWhole h
  obtain ⟨_, hexact, hbound⟩ := Spoken.readCardinal_lt hwhole.isNumberWord hwhole.read
  cases hexact
  obtain ⟨result, hsign, hfinite, hvalue⟩ := exists_applySign negative hbound hlength hdigits
  have hoperand := hwhole.isOperand_append (by simp [Cardinal.cardinalWords_ne_nil]) hdigits
  have htokens := tokenize_plus negative (h.le.trans (by norm_num)) hdigits
  rw [flatMap_naturalList_of_lt h] at htokens
  refine ⟨result, ?_, hfinite, fun hheard => ?_⟩
  · refine Phrase.parse_addition negative ?_ hoperand .nil hsign
    rw [htokens, List.append_nil]
    simp [additionWords]
  · have hsame := hright.mpr hheard
    subst hsame
    exact hvalue h

/-- Words behind a scale word that is no number word do not change the
operand. -/
theorem exists_isAside {name : String} (hname : name = "trillion" ∨ name = "quadrillion")
    {rest : ℕ} (hrest : rest < 10 ^ 12) (hdigits : ∀ digit ∈ digits, digit < 10) :
    ∃ pieces, IsAside (name :: (heardBelow rest ++ fractionWords digits)) pieces := by
  have hfiller : Phrase.wordMeaning name = .filler := by
    rcases hname with rfl | rfl <;> rfl
  have hwhole : ∃ heard, Spoken.IsWhole (heardBelow rest) heard := by
    unfold heardBelow
    split
    · exact ⟨0, Spoken.isWhole_nil⟩
    · obtain ⟨heard, hwhole, -⟩ := Spoken.exists_isWhole hrest
      exact ⟨heard, hwhole⟩
  obtain ⟨heard, hwhole⟩ := hwhole
  by_cases hnone : heardBelow rest ++ fractionWords digits = []
  · rw [hnone]
    exact ⟨[], .filler hfiller⟩
  · exact ⟨_, .number hfiller (hwhole.isOperand_append hnone hdigits)⟩

/-- From a million million on the count of the leading scale is heard, and
nothing else matters. -/
theorem exists_parse_of_le (negative : Bool) (hlow : 10 ^ 12 ≤ whole) (hhigh : whole ≤ 10 ^ 15)
    (hdigits : ∀ digit ∈ digits, digit < 10) :
    ∃ result, Command.parse ("plus " ++ " ".intercalate (numberParts negative whole digits)) =
        .ok (.apply .add result) ∧ result.isFinite ∧
      result.value = signed negative (leadingCount whole) := by
  have hcount : leadingCount whole < 1000 := by
    unfold leadingCount
    split <;> omega
  have hsmall : leadingCount whole < 10 ^ 12 := hcount.trans (by norm_num)
  obtain ⟨heard, hwhole, hright⟩ := Spoken.exists_isWhole hsmall
  -- The leading count is below a thousand, so it is heard right.
  have hsame := hright.mpr (Cardinal.isHeardRight_of_lt hcount)
  rw [hsame] at hwhole
  obtain ⟨result, hsign, hfinite, hvalue⟩ := exists_applySign negative
    (hcount.trans (by norm_num)) (by decide) (List.forall_mem_nil (· < 10))
  obtain ⟨name, hname, hheard⟩ := flatMap_naturalList_of_le hlow hhigh
  obtain ⟨pieces, haside⟩ := exists_isAside hname (Nat.mod_lt whole (by norm_num)) hdigits
  have htokens := tokenize_plus negative hhigh hdigits
  rw [hheard] at htokens
  refine ⟨result, ?_, hfinite, ?_⟩
  · refine Phrase.parse_addition negative ?_
      (hwhole.isOperand (Cardinal.cardinalWords_ne_nil _)) haside hsign
    rw [htokens]
    simp [additionWords]
  · rw [hvalue hsmall, value_withDigits]
    simp

/-- Every number that memory can hold, spelled with all of its places, is
understood behind "plus" as the command to add a number. Below a million million
it is the number itself if its whole part is heard right, and from there on it
is the count of the leading scale. -/
theorem parse_plus_number {x : Decimal} (hx : x.Storable) :
    ∃ words result, number x 12 = .ok words ∧
      Command.parse ("plus " ++ words) = .ok (.apply .add result) ∧ result.isFinite ∧
      (|x.value| < 10 ^ 12 → IsHeardRight ⌊|x.value|⌋₊ → result.value = x.value) ∧
      (10 ^ 12 ≤ |x.value| →
        result.value = signed (x.value < 0) (leadingCount ⌊|x.value|⌋₊)) := by
  obtain ⟨negative, whole, digits, hnumber, hvalue, hhigh, hlength, hdigits⟩ :=
    exists_parted_of_storable hx
  have hfraction := fraction_lt_one hdigits
  have hnonneg : (0 : ℚ) ≤ digitsValue digits / 10 ^ digits.length := by positivity
  have hsize : |x.value| = whole + digitsValue digits / 10 ^ digits.length := by
    rw [hvalue, abs_signed, abs_of_nonneg (by positivity)]
  have hfloor : ⌊|x.value|⌋₊ = whole := by
    rw [hsize, Nat.floor_eq_iff (by positivity)]
    constructor <;> linarith
  rw [hfloor, hsize]
  rcases Nat.lt_or_ge whole (10 ^ 12) with hlt | hlow
  · obtain ⟨result, hparse, hfinite, hright⟩ := exists_parse_of_lt negative hlt hlength hdigits
    refine ⟨_, result, hnumber, hparse, hfinite, fun _ hheard => ?_, fun hle => ?_⟩
    · rw [hright hheard, value_withDigits, hvalue]
    · have hbelow : (whole : ℚ) + 1 ≤ 10 ^ 12 := by exact_mod_cast hlt
      exact absurd hle (by linarith)
  · obtain ⟨result, hparse, hfinite, hcount⟩ := exists_parse_of_le negative hlow hhigh hdigits
    have habove : (10 : ℚ) ^ 12 ≤ whole := by exact_mod_cast hlow
    have hpos : (0 : ℚ) < whole + digitsValue digits / 10 ^ digits.length := by linarith
    have hsign : decide (x.value < 0) = negative := by
      rw [hvalue]
      cases negative with
      | false => exact decide_eq_false (not_lt.mpr hpos.le)
      | true => exact decide_eq_true (neg_lt_zero.mpr hpos)
    refine ⟨_, result, hnumber, hparse, hfinite, fun hlt => ?_, fun _ => ?_⟩
    · exact absurd hlt (by linarith)
    · rw [hcount, hsign]

/-- A negative number with a fraction. -/
theorem parse_plus_number_negative_fraction :
    (Decimal.finite true 15 (-1)).Storable ∧
      ∃ words result, number (.finite true 15 (-1)) 12 = .ok words ∧
        Command.parse ("plus " ++ words) = .ok (.apply .add result) ∧ result.isFinite ∧
        result.value = -(3 / 2) := by
  have hvalue : (Decimal.finite true 15 (-1)).value = -(3 / 2) := by
    norm_num [Decimal.value, signed]
  have habs : |(Decimal.finite true 15 (-1)).value| = 3 / 2 := by
    rw [hvalue]
    norm_num
  have hstorable : (Decimal.finite true 15 (-1)).Storable := by
    refine ⟨rfl, (OnGrid.natCast_mul 15 (-1)).neg.mono (by norm_num), ?_⟩
    rw [habs]
    norm_num
  obtain ⟨words, result, hnumber, hparse, hfinite, hsame, -⟩ := parse_plus_number hstorable
  rw [habs, hvalue] at hsame
  have hheard : IsHeardRight ⌊(3 / 2 : ℚ)⌋₊ :=
    Cardinal.isHeardRight_of_lt ((Nat.floor_lt (by norm_num)).mpr (by norm_num))
  exact ⟨hstorable, words, result, hnumber, hparse, hfinite, hsame (by norm_num) hheard⟩

/-- A million million is spelled with a scale word that is not heard, so that
one is added. A million and a thousand is spelled with two scale words and no
group behind them, so that too much is added. -/
theorem not_understood_one_trillion :
    (Decimal.ofNat 1000000000000).Storable ∧
      number (.ofNat 1000000000000) 12 = .ok "one trillion" ∧
      Command.parse ("plus " ++ "one trillion") = .ok (.apply .add (.ofNat 1)) ∧
      (Decimal.ofNat 1).value ≠ (Decimal.ofNat 1000000000000).value ∧
      (Decimal.ofNat 1001000).Storable ∧
      number (.ofNat 1001000) 12 = .ok "one million one thousand" ∧
      Command.parse ("plus " ++ "one million one thousand") =
        .ok (.apply .add (.ofNat 1002001)) ∧
      (Decimal.ofNat 1002001).value ≠ (Decimal.ofNat 1001000).value := by
  have hvalue : ∀ n : ℕ, (Decimal.ofNat n).value = n := fun n => by
    simp [Decimal.ofNat, Decimal.value, signed]
  refine ⟨Decimal.storable_ofNat (by norm_num), by decide +kernel, by decide +kernel, ?_,
    Decimal.storable_ofNat (by norm_num), by decide +kernel, by decide +kernel, ?_⟩
  · rw [hvalue, hvalue]
    norm_num
  · rw [hvalue, hvalue]
    norm_num

end Spelling

end SpokenCalculator
