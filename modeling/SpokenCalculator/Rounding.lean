namespace SpokenCalculator

/-- The integer nearest to a quotient; a half goes to the even neighbour. -/
def nearestQuotient (numerator denominator : Nat) : Nat :=
  let quotient := numerator / denominator
  let twice := 2 * (numerator % denominator)
  if twice < denominator ∨ (twice = denominator ∧ quotient % 2 = 0) then quotient
  else quotient + 1

theorem nearestQuotient_mul_le (numerator denominator : Nat) :
    2 * (nearestQuotient numerator denominator * denominator) ≤ 2 * numerator + denominator := by
  have hdivision := Nat.div_add_mod numerator denominator
  simp only [nearestQuotient]
  have hproduct : denominator * (numerator / denominator) =
      numerator / denominator * denominator := Nat.mul_comm ..
  split
  · omega
  · rename_i hnear
    rw [Nat.add_mul]
    omega

theorem le_nearestQuotient_mul {denominator : Nat} (numerator : Nat) (hpos : 0 < denominator) :
    2 * numerator ≤ 2 * (nearestQuotient numerator denominator * denominator) + denominator := by
  have hdivision := Nat.div_add_mod numerator denominator
  have hrest := Nat.mod_lt numerator hpos
  simp only [nearestQuotient]
  have hproduct : denominator * (numerator / denominator) =
      numerator / denominator * denominator := Nat.mul_comm ..
  split
  · omega
  · rw [Nat.add_mul]
    omega

theorem nearestQuotient_even_of_tie {numerator denominator : Nat}
    (htie : 2 * (numerator % denominator) = denominator) :
    nearestQuotient numerator denominator % 2 = 0 := by
  simp only [nearestQuotient]
  split
  · rename_i hnear
    rcases hnear with hlow | ⟨_, heven⟩
    · omega
    · exact heven
  · rename_i hfar
    have : ¬ numerator / denominator % 2 = 0 := fun heven => hfar (Or.inr ⟨htie, heven⟩)
    omega

end SpokenCalculator
