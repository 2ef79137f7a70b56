import SpokenCalculator.Rounding

namespace SpokenCalculator

/-- The least exponent from the given one upward whose power of ten exceeds the
number. -/
def digitCountFrom (n exponent : Nat) : Nat :=
  if Nat.pow 10 exponent ≤ n then digitCountFrom n (exponent + 1) else exponent
termination_by n - exponent
decreasing_by
  have hbelow : exponent < Nat.pow 10 exponent := Nat.lt_pow_self (by decide)
  omega

/-- The number of decimal digits, one for zero. The search starts from the
binary logarithm: the quotient 1233 / 4096 is just below the decimal logarithm
of two, so it starts at or before its goal, and for numbers of a million digits
it ends a few steps later. -/
def digitCount (n : Nat) : Nat := digitCountFrom n (n.log2 * 1233 / 4096 + 1)

theorem lt_pow_digitCountFrom (n exponent : Nat) : n < Nat.pow 10 (digitCountFrom n exponent) := by
  fun_induction digitCountFrom n exponent with
  | case1 _ _ ih => exact ih
  | case2 _ hlow => omega

theorem lt_pow_digitCount (n : Nat) : n < Nat.pow 10 (digitCount n) := lt_pow_digitCountFrom n _

/-- Digits read so far: the leading ones, and a group of at most eighteen behind
them with the power of ten that the group has reached. Groups keep the large
number from being touched at each digit. -/
structure DigitGroups where
  leading : Nat
  group : Nat
  scale : Nat

namespace DigitGroups

def value (groups : DigitGroups) : Nat := groups.leading * groups.scale + groups.group

def push (groups : DigitGroups) (digit : Nat) : DigitGroups :=
  if groups.scale < Nat.pow 10 18 then
    ⟨groups.leading, groups.group * 10 + digit, groups.scale * 10⟩
  else ⟨groups.value, digit, 10⟩

@[simp] theorem value_push (groups : DigitGroups) (digit : Nat) :
    (groups.push digit).value = groups.value * 10 + digit := by
  unfold push
  split
  · simp only [value, Nat.add_mul, Nat.mul_assoc, Nat.add_assoc]
  · rfl

end DigitGroups

def digitsValue (digits : List Nat) : Nat := (digits.foldl DigitGroups.push ⟨0, 0, 1⟩).value

theorem value_foldl_push (digits : List Nat) (groups : DigitGroups) :
    (digits.foldl DigitGroups.push groups).value =
      digits.foldl (fun value digit => value * 10 + digit) groups.value := by
  induction digits generalizing groups with
  | nil => rfl
  | cons digit rest ih => simp [ih]

theorem digitsValue_eq_foldl (digits : List Nat) :
    digitsValue digits = digits.foldl (fun value digit => value * 10 + digit) 0 :=
  value_foldl_push digits ⟨0, 0, 1⟩

/-- Remove the lowest digits, rounding to the nearest. When more digits go than
the number has places to hold half a unit, nothing is left and no power of ten
is built. -/
def dropDigits (coefficient count : Nat) : Nat :=
  if digitCount coefficient < count then 0 else nearestQuotient coefficient (Nat.pow 10 count)

def appendZeros (coefficient count : Nat) : Nat :=
  if coefficient = 0 then 0 else coefficient * Nat.pow 10 count

@[simp] theorem appendZeros_eq (coefficient count : Nat) :
    appendZeros coefficient count = coefficient * Nat.pow 10 count := by
  unfold appendZeros
  split
  · simp_all
  · rfl

theorem dropDigits_eq (coefficient count : Nat) :
    dropDigits coefficient count = nearestQuotient coefficient (Nat.pow 10 count) := by
  unfold dropDigits
  split
  · rename_i hshort
    have hlt := lt_pow_digitCount coefficient
    have hstep : Nat.pow 10 (digitCount coefficient + 1) ≤ Nat.pow 10 count :=
      Nat.pow_le_pow_right (by decide) hshort
    have hsucc : Nat.pow 10 (digitCount coefficient + 1) =
        Nat.pow 10 (digitCount coefficient) * 10 := rfl
    have hquotient : coefficient / Nat.pow 10 count = 0 := Nat.div_eq_of_lt (by omega)
    have hrest : coefficient % Nat.pow 10 count = coefficient := Nat.mod_eq_of_lt (by omega)
    simp only [nearestQuotient, hquotient, hrest]
    split
    · rfl
    · omega
  · rfl

end SpokenCalculator
