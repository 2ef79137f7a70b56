import Mathlib.Algebra.Order.Field.Power
import Mathlib.Algebra.Order.Floor.Ring
import Mathlib.Data.Int.Log
import Mathlib.Data.Rat.Floor
import Mathlib.Tactic.FieldSimp
import Mathlib.Tactic.Linarith
import Mathlib.Tactic.Positivity
import Mathlib.Tactic.Ring
import SpokenCalculator.Rounding

/-!
# Rounding rational numbers to a decimal place

The multiples of a power of ten form a grid. Rounding to a place takes the
nearest point of the grid, and of two nearest points the even one. The main
statements say that rounding respects order and sign, keeps every point of a
coarser grid on its side, and does not see where a number lies between two
neighbouring multiples of half a unit.
-/

namespace SpokenCalculator

/-- The integer nearest to a rational number; a half goes to the even
neighbour. -/
def nearestEven (q : ℚ) : ℤ :=
  if q - ⌊q⌋ < 1 / 2 ∨ (q - ⌊q⌋ = 1 / 2 ∧ ⌊q⌋ % 2 = 0) then ⌊q⌋ else ⌊q⌋ + 1

theorem nearestEven_le (q : ℚ) : (nearestEven q : ℚ) ≤ q + 1 / 2 := by
  have hfloor := Int.floor_le q
  unfold nearestEven
  split
  · linarith
  · rename_i hfar
    push Not at hfar
    push_cast
    linarith [hfar.1]

theorem le_nearestEven (q : ℚ) : q - 1 / 2 ≤ (nearestEven q : ℚ) := by
  have hfloor := Int.lt_floor_add_one q
  unfold nearestEven
  split
  · rename_i hnear
    rcases hnear with hlow | ⟨htie, _⟩ <;> linarith
  · push_cast
    linarith

theorem nearestEven_even_of_tie {q : ℚ} (htie : q - ⌊q⌋ = 1 / 2) : nearestEven q % 2 = 0 := by
  unfold nearestEven
  split
  · rename_i hnear
    rcases hnear with hlow | ⟨_, heven⟩
    · linarith
    · exact heven
  · rename_i hfar
    have hodd : ¬ ⌊q⌋ % 2 = 0 := fun heven => hfar (Or.inr ⟨htie, heven⟩)
    omega

/-- Whatever lies within half a unit, and is even if it lies exactly half a unit
off, is the nearest integer. -/
theorem eq_nearestEven {q : ℚ} {n : ℤ} (hlow : q - 1 / 2 ≤ n) (hhigh : (n : ℚ) ≤ q + 1 / 2)
    (htie : (n : ℚ) = q - 1 / 2 ∨ (n : ℚ) = q + 1 / 2 → n % 2 = 0) : n = nearestEven q := by
  have hfloor := Int.floor_le q
  have hfloor' := Int.lt_floor_add_one q
  have hbelow : (⌊q⌋ : ℚ) - 1 < n := by linarith
  have habove : (n : ℚ) < ⌊q⌋ + 2 := by linarith
  have hbelow' : ⌊q⌋ ≤ n := by
    have : ⌊q⌋ - 1 < n := by exact_mod_cast hbelow
    omega
  have habove' : n ≤ ⌊q⌋ + 1 := by
    have : n < ⌊q⌋ + 2 := by exact_mod_cast habove
    omega
  unfold nearestEven
  rcases (by omega : n = ⌊q⌋ ∨ n = ⌊q⌋ + 1) with rfl | rfl
  · rw [if_pos]
    rcases lt_or_eq_of_le (by linarith : q - ⌊q⌋ ≤ 1 / 2) with hlt | heq
    · exact Or.inl hlt
    · exact Or.inr ⟨heq, htie (Or.inl (by linarith))⟩
  · push_cast at hhigh htie
    rw [if_neg]
    rintro (hlt | ⟨heq, heven⟩)
    · linarith
    · have := htie (Or.inr (by linarith))
      omega

@[simp] theorem nearestEven_intCast (n : ℤ) : nearestEven n = n := by
  refine (eq_nearestEven (by linarith) (by linarith) ?_).symm
  rintro (h | h) <;> linarith

theorem sub_floor_of_tie {q : ℚ} {n : ℤ} (h : (n : ℚ) = q - 1 / 2 ∨ (n : ℚ) = q + 1 / 2) :
    q - ⌊q⌋ = 1 / 2 := by
  rcases h with h | h
  · have hfloor : ⌊q⌋ = n := Int.floor_eq_iff.mpr ⟨by linarith, by linarith⟩
    rw [hfloor]
    linarith
  · have hfloor : ⌊q⌋ = n - 1 := by
      refine Int.floor_eq_iff.mpr ⟨?_, ?_⟩ <;> push_cast <;> linarith
    rw [hfloor]
    push_cast
    linarith

theorem nearestEven_neg (q : ℚ) : nearestEven (-q) = -nearestEven q := by
  refine (eq_nearestEven ?_ ?_ ?_).symm
  · push_cast
    linarith [nearestEven_le q]
  · push_cast
    linarith [le_nearestEven q]
  · push_cast
    intro hends
    have htie : q - ⌊q⌋ = 1 / 2 := by
      refine sub_floor_of_tie (n := nearestEven q) ?_
      rcases hends with h | h
      · exact Or.inr (by linarith)
      · exact Or.inl (by linarith)
    have := nearestEven_even_of_tie htie
    omega

theorem nearestEven_mono {q r : ℚ} (h : q ≤ r) : nearestEven q ≤ nearestEven r := by
  have hfloor : ⌊q⌋ ≤ ⌊r⌋ := Int.floor_mono h
  rcases lt_or_eq_of_le hfloor with hlt | heq
  · have hq : nearestEven q ≤ ⌊q⌋ + 1 := by
      unfold nearestEven
      split <;> omega
    have hr : ⌊r⌋ ≤ nearestEven r := by
      unfold nearestEven
      split <;> omega
    omega
  · unfold nearestEven
    rw [← heq]
    split
    · split <;> omega
    · rename_i hfar
      rw [if_neg]
      push Not at hfar ⊢
      refine ⟨by linarith [hfar.1], fun htie => hfar.2 ?_⟩
      linarith [hfar.1]

/-- On quotients of natural numbers this is the rounding of the library. -/
theorem nearestEven_div (numerator : ℕ) {denominator : ℕ} (hpos : 0 < denominator) :
    nearestEven ((numerator : ℚ) / denominator) = nearestQuotient numerator denominator := by
  have hden : (0 : ℚ) < denominator := by exact_mod_cast hpos
  have hdivision : (numerator : ℚ) / denominator * denominator = numerator :=
    div_mul_cancel₀ _ hden.ne'
  have hlow : 2 * (numerator : ℚ) ≤
      2 * (nearestQuotient numerator denominator * denominator) + denominator := by
    exact_mod_cast le_nearestQuotient_mul numerator hpos
  have hhigh : 2 * ((nearestQuotient numerator denominator : ℚ) * denominator) ≤
      2 * numerator + denominator := by
    exact_mod_cast nearestQuotient_mul_le numerator denominator
  refine (eq_nearestEven ?_ ?_ ?_).symm
  · push_cast
    nlinarith
  · push_cast
    nlinarith
  · intro hends
    push_cast at hends
    have htie := sub_floor_of_tie (n := nearestQuotient numerator denominator) hends
    rw [Rat.floor_natCast_div_natCast, ← Int.natCast_ediv, Int.cast_natCast] at htie
    have htwice : 2 * ((numerator % denominator : ℕ) : ℚ) = denominator := by
      have hdiv : (denominator : ℚ) * (numerator / denominator : ℕ) +
          (numerator % denominator : ℕ) =
          numerator := by
        exact_mod_cast Nat.div_add_mod numerator denominator
      nlinarith
    have := nearestQuotient_even_of_tie (by exact_mod_cast htwice)
    omega

/-- A rational number is a multiple of the power of ten that belongs to a
place. -/
def OnGrid (place : ℤ) (q : ℚ) : Prop := ∃ n : ℤ, q = n * 10 ^ place

namespace OnGrid

variable {place finer : ℤ} {q r : ℚ}

theorem zero (place : ℤ) : OnGrid place 0 := ⟨0, by simp⟩

theorem natCast_mul (n : ℕ) (place : ℤ) : OnGrid place (n * 10 ^ place) := ⟨n, by simp⟩

theorem neg (h : OnGrid place q) : OnGrid place (-q) := by
  obtain ⟨n, rfl⟩ := h
  exact ⟨-n, by push_cast; ring⟩

theorem add (hq : OnGrid place q) (hr : OnGrid place r) : OnGrid place (q + r) := by
  obtain ⟨n, rfl⟩ := hq
  obtain ⟨m, rfl⟩ := hr
  exact ⟨n + m, by push_cast; ring⟩

theorem sub (hq : OnGrid place q) (hr : OnGrid place r) : OnGrid place (q - r) := by
  rw [sub_eq_add_neg]
  exact hq.add hr.neg

theorem mul (hq : OnGrid place q) (hr : OnGrid finer r) : OnGrid (place + finer) (q * r) := by
  obtain ⟨n, rfl⟩ := hq
  obtain ⟨m, rfl⟩ := hr
  refine ⟨n * m, ?_⟩
  rw [zpow_add₀ (by norm_num)]
  push_cast
  ring

theorem mono (h : OnGrid place q) (hfiner : finer ≤ place) : OnGrid finer q := by
  obtain ⟨n, rfl⟩ := h
  refine ⟨n * 10 ^ (place - finer).toNat, ?_⟩
  have hpower : (10 : ℚ) ^ place = 10 ^ (place - finer).toNat * 10 ^ finer := by
    rw [← zpow_natCast, ← zpow_add₀ (by norm_num)]
    congr 1
    omega
  rw [hpower]
  push_cast
  ring

theorem zpow (h : place ≤ finer) : OnGrid place (10 ^ finer : ℚ) :=
  OnGrid.mono ⟨1, by simp⟩ h

theorem zpow_le_abs (h : OnGrid place q) (hne : q ≠ 0) : (10 : ℚ) ^ place ≤ |q| := by
  obtain ⟨n, rfl⟩ := h
  have hn : n ≠ 0 := by
    rintro rfl
    simp at hne
  have hone : (1 : ℚ) ≤ |(n : ℚ)| := by exact_mod_cast Int.one_le_abs hn
  rw [abs_mul, abs_of_pos (zpow_pos (by norm_num) place : (0 : ℚ) < 10 ^ place)]
  exact le_mul_of_one_le_left (by positivity) hone

end OnGrid

/-- The point of a grid nearest to a rational number; a half goes to the even
neighbour. -/
def roundTo (place : ℤ) (q : ℚ) : ℚ := nearestEven (q / 10 ^ place) * 10 ^ place

section

variable {place : ℤ} {q r : ℚ}

theorem zpow_ten_pos (place : ℤ) : (0 : ℚ) < 10 ^ place := zpow_pos (by norm_num) place

theorem onGrid_roundTo (place : ℤ) (q : ℚ) : OnGrid place (roundTo place q) := ⟨_, rfl⟩

theorem roundTo_of_onGrid (h : OnGrid place q) : roundTo place q = q := by
  obtain ⟨n, rfl⟩ := h
  rw [roundTo, mul_div_cancel_right₀ _ (zpow_ten_pos place).ne', nearestEven_intCast]

@[simp] theorem roundTo_zero (place : ℤ) : roundTo place 0 = 0 := roundTo_of_onGrid (.zero place)

theorem roundTo_neg (place : ℤ) (q : ℚ) : roundTo place (-q) = -roundTo place q := by
  rw [roundTo, roundTo, neg_div, nearestEven_neg]
  push_cast
  ring

theorem roundTo_mono (place : ℤ) (h : q ≤ r) : roundTo place q ≤ roundTo place r := by
  have hpos := zpow_ten_pos place
  have hquotient : q / 10 ^ place ≤ r / 10 ^ place := by gcongr
  have hcast : (nearestEven (q / 10 ^ place) : ℚ) ≤ nearestEven (r / 10 ^ place) := by
    exact_mod_cast nearestEven_mono hquotient
  exact mul_le_mul_of_nonneg_right hcast hpos.le

theorem le_roundTo (h : OnGrid place r) (hle : r ≤ q) : r ≤ roundTo place q := by
  have := roundTo_mono place hle
  rwa [roundTo_of_onGrid h] at this

theorem roundTo_le (h : OnGrid place r) (hle : q ≤ r) : roundTo place q ≤ r := by
  have := roundTo_mono place hle
  rwa [roundTo_of_onGrid h] at this

theorem roundTo_nonneg (h : 0 ≤ q) : 0 ≤ roundTo place q := le_roundTo (.zero place) h

theorem roundTo_abs (place : ℤ) (q : ℚ) : roundTo place |q| = |roundTo place q| := by
  rcases le_total 0 q with h | h
  · rw [abs_of_nonneg h, abs_of_nonneg (roundTo_nonneg h)]
  · have : 0 ≤ roundTo place (-q) := roundTo_nonneg (neg_nonneg.mpr h)
    rw [roundTo_neg] at this
    rw [abs_of_nonpos h, roundTo_neg, abs_of_nonpos (by linarith)]

theorem abs_roundTo_sub_le (place : ℤ) (q : ℚ) : |roundTo place q - q| ≤ 10 ^ place / 2 := by
  have hpos := zpow_ten_pos place
  have hlow := le_nearestEven (q / 10 ^ place)
  have hhigh := nearestEven_le (q / 10 ^ place)
  have hq : q = q / 10 ^ place * 10 ^ place := (div_mul_cancel₀ _ hpos.ne').symm
  have hfactor : roundTo place q - q =
      (nearestEven (q / 10 ^ place) - q / 10 ^ place) * 10 ^ place := by
    rw [roundTo, sub_mul, ← hq]
  have hdistance : |(nearestEven (q / 10 ^ place) : ℚ) - q / 10 ^ place| ≤ 1 / 2 :=
    abs_le.mpr ⟨by linarith, by linarith⟩
  rw [hfactor, abs_mul, abs_of_pos hpos]
  calc
    _ ≤ 1 / 2 * (10 : ℚ) ^ place := mul_le_mul_of_nonneg_right hdistance hpos.le
    _ = 10 ^ place / 2 := by ring

/-- Nothing is left of a number exactly if it is at most half a unit, because
zero is even. -/
theorem roundTo_eq_zero_iff (place : ℤ) (q : ℚ) : roundTo place q = 0 ↔ |q| ≤ 10 ^ place / 2 := by
  have hunit := zpow_ten_pos place
  constructor
  · intro hzero
    have hnear := abs_roundTo_sub_le place q
    rwa [hzero, zero_sub, abs_neg] at hnear
  · intro hle
    obtain ⟨hlow, hhigh⟩ := abs_le.mp hle
    have hnearest : (0 : ℤ) = nearestEven (q / 10 ^ place) := by
      refine eq_nearestEven ?_ ?_ fun _ => rfl
      · rw [Int.cast_zero, sub_nonpos, div_le_iff₀ hunit]
        linarith
      · rw [Int.cast_zero, ← sub_le_iff_le_add, le_div_iff₀ hunit]
        linarith
    rw [roundTo, ← hnearest, Int.cast_zero, zero_mul]

theorem OnGrid.roundTo {finer : ℤ} (h : OnGrid finer q) (place : ℤ) :
    OnGrid finer (roundTo place q) := by
  rcases le_total place finer with hle | hle
  · rwa [roundTo_of_onGrid (h.mono hle)]
  · exact (onGrid_roundTo place q).mono hle

end

/-- Two numbers lie strictly between the same two neighbouring multiples of five
units of a place. Nothing that rounding to a higher place asks of a number tells
them apart. -/
def SameCell (place : ℤ) (q r : ℚ) : Prop :=
  ∃ k : ℤ, (k * (5 * 10 ^ place) < q ∧ q < (k + 1) * (5 * 10 ^ place)) ∧
    k * (5 * 10 ^ place) < r ∧ r < (k + 1) * (5 * 10 ^ place)

theorem nearestEven_of_cell {q : ℚ} {k : ℤ} (hlow : (k : ℚ) / 2 < q) (hhigh : q < (k + 1) / 2) :
    nearestEven q = (k + 1) / 2 := by
  symm
  obtain ⟨j, hj⟩ : ∃ j : ℤ, k = 2 * j ∨ k = 2 * j + 1 := ⟨k / 2, by omega⟩
  rcases hj with rfl | rfl
  · have hhalf : (2 * j + 1) / 2 = j := by omega
    rw [hhalf]
    push_cast at hlow hhigh
    refine eq_nearestEven (by linarith) (by linarith) ?_
    rintro (h | h) <;> linarith
  · have hhalf : (2 * j + 1 + 1) / 2 = j + 1 := by omega
    rw [hhalf]
    push_cast at hlow hhigh
    refine eq_nearestEven (by push_cast; linarith) (by push_cast; linarith) ?_
    push_cast
    rintro (h | h) <;> linarith

namespace SameCell

variable {place coarser : ℤ} {q r : ℚ}

theorem mono (h : SameCell place q r) (hle : place ≤ coarser) : SameCell coarser q r := by
  obtain ⟨k, ⟨hq, hq'⟩, hr, hr'⟩ := h
  obtain ⟨shift, rfl⟩ : ∃ shift : ℕ, coarser = place + shift :=
    ⟨(coarser - place).toNat, by omega⟩
  set factor : ℤ := 10 ^ shift with hfactor
  have hpos : 0 < factor := by positivity
  have hunit : (5 * 10 ^ (place + shift) : ℚ) = factor * (5 * 10 ^ place) := by
    rw [hfactor, zpow_add₀ (by norm_num), zpow_natCast]
    push_cast
    ring
  have hwidth : (0 : ℚ) < 5 * 10 ^ place := by positivity
  have hbelow : ((k / factor : ℤ) : ℚ) * factor ≤ k := by
    exact_mod_cast Int.ediv_mul_le k hpos.ne'
  have habove : (k : ℚ) + 1 ≤ ((k / factor : ℤ) + 1) * factor := by
    exact_mod_cast Int.lt_ediv_add_one_mul_self k hpos
  have hlow : ((k / factor : ℤ) : ℚ) * (5 * 10 ^ (place + shift)) ≤ k * (5 * 10 ^ place) := by
    rw [hunit, ← mul_assoc]
    exact mul_le_mul_of_nonneg_right hbelow hwidth.le
  have hhigh : (k + 1 : ℚ) * (5 * 10 ^ place) ≤
      ((k / factor : ℤ) + 1) * (5 * 10 ^ (place + shift)) := by
    rw [hunit, ← mul_assoc (((k / factor : ℤ) : ℚ) + 1)]
    exact mul_le_mul_of_nonneg_right habove hwidth.le
  exact ⟨k / factor, ⟨hlow.trans_lt hq, hq'.trans_le hhigh⟩, hlow.trans_lt hr,
    hr'.trans_le hhigh⟩

theorem roundTo_eq (h : SameCell place q r) (hlt : place < coarser) :
    roundTo coarser q = roundTo coarser r := by
  obtain ⟨k, hq, hr⟩ := h.mono (by omega : place ≤ coarser - 1)
  have hunit : (5 * 10 ^ (coarser - 1) : ℚ) = 10 ^ coarser / 2 := by
    rw [zpow_sub_one₀ (by norm_num)]
    ring
  have hpos := zpow_ten_pos coarser
  have hnearest : ∀ s : ℚ, k * (5 * 10 ^ (coarser - 1)) < s ∧
      s < (k + 1) * (5 * 10 ^ (coarser - 1)) →
        nearestEven (s / 10 ^ coarser) = (k + 1) / 2 := by
    rw [hunit]
    rintro s ⟨hlow, hhigh⟩
    refine nearestEven_of_cell ?_ ?_
    · rw [lt_div_iff₀ hpos]
      linarith
    · rw [div_lt_iff₀ hpos]
      linarith
  rw [roundTo, roundTo, hnearest q hq, hnearest r hr]

theorem zpow_le_iff (h : SameCell place q r) (hlt : place < coarser) :
    (10 : ℚ) ^ coarser ≤ q ↔ (10 : ℚ) ^ coarser ≤ r := by
  obtain ⟨k, hq, hr⟩ := h.mono (by omega : place ≤ coarser - 1)
  have hunit : (10 : ℚ) ^ coarser = 2 * (5 * 10 ^ (coarser - 1)) := by
    rw [zpow_sub_one₀ (by norm_num)]
    ring
  have hwidth : (0 : ℚ) < 5 * 10 ^ (coarser - 1) := by positivity
  have hside : ∀ s : ℚ, k * (5 * 10 ^ (coarser - 1)) < s ∧
      s < (k + 1) * (5 * 10 ^ (coarser - 1)) → ((10 : ℚ) ^ coarser ≤ s ↔ 2 ≤ k) := by
    rw [hunit]
    rintro s ⟨hlow, hhigh⟩
    constructor
    · intro hle
      have hfactor : (2 : ℚ) < k + 1 := lt_of_mul_lt_mul_right (hle.trans_lt hhigh) hwidth.le
      have : 2 < k + 1 := by exact_mod_cast hfactor
      omega
    · intro hle
      have hfactor : (2 : ℚ) ≤ k := by exact_mod_cast hle
      exact (mul_le_mul_of_nonneg_right hfactor hwidth.le).trans hlow.le
  rw [hside q hq, hside r hr]

theorem log_le (h : SameCell place q r) (hlow : (10 : ℚ) ^ (place + 1) ≤ q) :
    Int.log 10 q ≤ Int.log 10 r := by
  have hpos := zpow_ten_pos (place + 1)
  have hq : 0 < q := hpos.trans_le hlow
  have hr : 0 < r := hpos.trans_le ((h.zpow_le_iff (by omega)).mp hlow)
  have hlog : place + 1 ≤ Int.log 10 q :=
    (Int.zpow_le_iff_le_log (b := 10) (by norm_num) hq).mp (by exact_mod_cast hlow)
  rw [← Int.zpow_le_iff_le_log (by norm_num) hr]
  have hself : (10 : ℚ) ^ Int.log 10 q ≤ q := by
    exact_mod_cast Int.zpow_log_le_self (b := 10) (by norm_num) hq
  exact_mod_cast (h.zpow_le_iff (by omega)).mp hself

theorem symm (h : SameCell place q r) : SameCell place r q := by
  obtain ⟨k, hq, hr⟩ := h
  exact ⟨k, hr, hq⟩

theorem log_eq (h : SameCell place q r) (hlow : (10 : ℚ) ^ (place + 1) ≤ q) :
    Int.log 10 q = Int.log 10 r :=
  le_antisymm (h.log_le hlow) (h.symm.log_le ((h.zpow_le_iff (by omega)).mp hlow))

end SameCell

end SpokenCalculator
