import SpokenCalculator.Decimal.Notation
import Mathlib.Tactic.Ring

namespace SpokenCalculator

theorem foldl_digits (digits : List ℕ) (start : ℕ) :
    digits.foldl (fun value digit => value * 10 + digit) start =
      start * 10 ^ digits.length + digitsValue digits := by
  induction digits generalizing start with
  | nil => simp [digitsValue_eq_foldl]
  | cons digit rest ih =>
      rw [digitsValue_eq_foldl, List.foldl_cons, List.foldl_cons, ih, ih (0 * 10 + digit),
        List.length_cons]
      ring

@[simp] theorem digitsValue_nil : digitsValue [] = 0 := by
  simp [digitsValue_eq_foldl]

theorem digitsValue_append (digits behind : List ℕ) :
    digitsValue (digits ++ behind) =
      digitsValue digits * 10 ^ behind.length + digitsValue behind := by
  rw [digitsValue_eq_foldl, List.foldl_append, foldl_digits behind, ← digitsValue_eq_foldl]

theorem digitsValue_cons (digit : ℕ) (rest : List ℕ) :
    digitsValue (digit :: rest) = digit * 10 ^ rest.length + digitsValue rest := by
  have hsingle : digitsValue [digit] = digit := by simp [digitsValue_eq_foldl]
  rw [← List.singleton_append, digitsValue_append, hsingle]

theorem digitsValue_replicate_zero (count : ℕ) : digitsValue (List.replicate count 0) = 0 := by
  induction count with
  | zero => exact digitsValue_nil
  | succ count ih => rw [List.replicate_succ, digitsValue_cons, ih, Nat.zero_mul]

theorem digitsValue_lt {digits : List ℕ} (hdigits : ∀ digit ∈ digits, digit < 10) :
    digitsValue digits < 10 ^ digits.length := by
  induction digits with
  | nil => simp
  | cons digit rest ih =>
      have hrest := ih fun other hother => hdigits other (List.mem_cons_of_mem digit hother)
      have hdigit : digit + 1 ≤ 10 := hdigits digit List.mem_cons_self
      rw [digitsValue_cons]
      calc
        digit * 10 ^ rest.length + digitsValue rest < (digit + 1) * 10 ^ rest.length := by
          rw [Nat.add_mul]
          omega
        _ ≤ 10 * 10 ^ rest.length := Nat.mul_le_mul_right _ hdigit
        _ = 10 ^ (digit :: rest).length := by
          rw [List.length_cons, pow_succ]
          ring

theorem Text.digitValue?_lt {c : Char} {digit : ℕ} (h : digitValue? c = some digit) :
    digit < 10 := by
  obtain ⟨first, hfound, rfl⟩ := Option.map_eq_some_iff.mp h
  have hrange := List.find?_some hfound
  simp only [Bool.and_eq_true, decide_eq_true_eq] at hrange
  omega

theorem Decimal.digitValues_lt (text : List Char) : ∀ digit ∈ digitValues text, digit < 10 := by
  intro digit hdigit
  obtain ⟨c, _, hvalue⟩ := List.mem_filterMap.mp hdigit
  exact Text.digitValue?_lt hvalue

theorem Decimal.length_digitValues_le (text : List Char) :
    (digitValues text).length ≤ text.length :=
  List.length_filterMap_le _ _

def digitRow (n : ℕ) : List ℕ := Decimal.digitValues (Decimal.digitsOf n)

theorem digitRow_eq (n : ℕ) :
    digitRow n = if n < 10 then [n] else digitRow (n / 10) ++ [n % 10] := by
  have hsingle : ∀ digit < 10, Decimal.digitValues [Nat.digitChar digit] = [digit] := by
    decide
  unfold digitRow Decimal.digitsOf
  rw [Nat.toDigits_eq_if (by norm_num)]
  split
  · exact hsingle n ‹_›
  · rw [Decimal.digitValues, List.filterMap_append]
    exact congrArg _ (hsingle (n % 10) (Nat.mod_lt n (by norm_num)))

theorem digitRow_lt (n : ℕ) : ∀ digit ∈ digitRow n, digit < 10 := Decimal.digitValues_lt _

@[simp] theorem digitsValue_digitRow (n : ℕ) : digitsValue (digitRow n) = n := by
  induction n using Nat.strong_induction_on with
  | _ n ih =>
      rw [digitRow_eq]
      split
      · simp [digitsValue_cons]
      · rw [digitsValue_append, ih (n / 10) (by omega), digitsValue_cons]
        simp
        omega

theorem length_digitRow_le {n count : ℕ} (hpos : 0 < count) (h : n < 10 ^ count) :
    (digitRow n).length ≤ count :=
  (Decimal.length_digitValues_le _).trans ((Nat.length_toDigits_le_iff (by norm_num) hpos).mpr h)

end SpokenCalculator
