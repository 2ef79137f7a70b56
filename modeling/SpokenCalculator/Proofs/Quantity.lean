import SpokenCalculator.Quantity
import Mathlib.Algebra.Order.Ring.Cast
import Mathlib.Algebra.Order.Ring.Rat

namespace SpokenCalculator

namespace BinaryReal

theorem isNegative_ofRatio (negative : Bool) (numerator denominator : Nat) :
    (ofRatio negative numerator denominator).isNegative = negative := by
  unfold ofRatio
  split <;> rfl

theorem isNegative_multiply {x y : BinaryReal} (hx : x.isNegative = false)
    (hy : y.isNegative = false) : (x.multiply y).isNegative = false := by
  fun_cases multiply x y with
  | case1 => rfl
  | case2 => rfl
  | case3 s x t y =>
      cases hx
      cases hy
      exact isNegative_ofRatio false _ _
  | case4 s t =>
      cases hx
      cases hy
      rfl
  | case5 => rfl
  | case6 s t y =>
      cases hx
      cases hy
      rfl
  | case7 => rfl
  | case8 s x t =>
      cases hx
      cases hy
      rfl

theorem nearestInt?_nonneg {x : BinaryReal} {n : Int} (h : x.isNegative = false)
    (hn : x.nearestInt? = some n) : 0 ≤ n := by
  cases x with
  | undefined => cases hn
  | infinite s => cases hn
  | finite s magnitude =>
      cases h
      cases hn
      exact Int.natCast_nonneg _

end BinaryReal

namespace Quantity

theorem isNegative_of_isPositive {value : BinaryReal}
    (h : (Quantity.binary value).isPositive = true) : value.isNegative = false := by
  cases value with
  | undefined => rfl
  | infinite s =>
      cases s with
      | false => rfl
      | true => cases h
  | finite s magnitude =>
      cases s with
      | false => rfl
      | true =>
          have hsize := Rat.mkRat_nonneg (Int.natCast_nonneg magnitude.ratio.1) magnitude.ratio.2
          have hlt : (0 : Rat) < -mkRat magnitude.ratio.1 magnitude.ratio.2 := of_decide_eq_true h
          exact absurd (neg_pos.mp hlt) (not_lt.mpr hsize)

theorem isNegative_of_toBinary? {n : Int} {x : BinaryReal} (hn : 0 ≤ n)
    (h : (whole n).toBinary? = some x) : x.isNegative = false := by
  have hx : BinaryReal.ofInt n = x := by
    unfold toBinary? at h
    split at h
    · cases h
    · exact Option.some.inj h
  rw [← hx, BinaryReal.ofInt, decide_eq_false (Int.not_lt.mpr hn)]
  exact BinaryReal.isNegative_ofRatio false _ _

theorem lt_eq_false_of_le {x y : Quantity} (h : x.le y = true) : y.lt x = false := by
  unfold le at h
  unfold lt
  split at h
  · rename_i hx hy
    rw [hx, hy]
    exact Bool.not_eq_true' _ ▸ h
  · cases h

theorem nearestInt_times?_nonneg {n result : Int} {x product : Quantity} (hn : 0 ≤ n)
    (hx : x.isPositive = true) (hproduct : times? n x = some product)
    (h : product.nearestInt = .ok result) : 0 ≤ result := by
  cases x with
  | whole value =>
      have hvalue : (0 : Rat) < value := of_decide_eq_true hx
      cases hproduct
      cases h
      exact Int.mul_nonneg hn (Int.cast_pos.mp hvalue).le
  | binary value =>
      obtain ⟨factor, hfactor, rfl⟩ := Option.map_eq_some_iff.mp hproduct
      have hunsigned := BinaryReal.isNegative_multiply (isNegative_of_toBinary? hn hfactor)
        (isNegative_of_isPositive hx)
      unfold nearestInt convert at h
      dsimp only at h
      split at h
      · rename_i nearest hnearest
        cases h
        exact BinaryReal.nearestInt?_nonneg hunsigned hnearest
      · cases h
      · cases h

end Quantity

end SpokenCalculator
