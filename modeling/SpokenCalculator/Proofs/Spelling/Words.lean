import SpokenCalculator.Proofs.Decimal.Row
import SpokenCalculator.Spelling

namespace SpokenCalculator.Spelling

def groupList (n : ℕ) : List String :=
  (if n / 100 = 0 then [] else [smallWord (n / 100), "hundred"]) ++
    if n % 100 = 0 && n / 100 ≠ 0 then [] else [belowHundred (n % 100)]

theorem groupWords_eq {n : ℕ} (h : n < 2000) : groupWords n = .ok (groupList n) := by
  rw [groupWords, if_neg (by omega)]
  rfl

def scaledList : List (ℕ × String) → ℕ → List String
  | [], n => if n = 0 then [] else groupList n
  | (size, name) :: smaller, n =>
      (if n / size = 0 then [] else groupList (n / size) ++ [name]) ++ scaledList smaller (n % size)

/-- Scales that leave room for every group below them. -/
def LeavesRoom : List (ℕ × String) → ℕ → Prop
  | [], bound => bound ≤ 2000
  | (size, _) :: smaller, bound => 0 < size ∧ bound ≤ 2000 * size ∧ LeavesRoom smaller size

theorem LeavesRoom.div_lt {size : ℕ} {name : String} {smaller : List (ℕ × String)} {bound n : ℕ}
    (hroom : LeavesRoom ((size, name) :: smaller) bound) (h : n < bound) : n / size < 2000 := by
  obtain ⟨hpos, hbound, -⟩ := hroom
  rw [Nat.div_lt_iff_lt_mul hpos]
  omega

theorem scaledWords_eq {steps : List (ℕ × String)} {bound n : ℕ} (hroom : LeavesRoom steps bound)
    (h : n < bound) : scaledWords steps n = .ok (scaledList steps n) := by
  induction steps generalizing bound n with
  | nil =>
      rw [scaledWords, scaledList]
      split
      · rfl
      · exact groupWords_eq (h.trans_le hroom)
  | cons step smaller ih =>
      obtain ⟨size, name⟩ := step
      have hgroup := hroom.div_lt h
      obtain ⟨hpos, -, hsmaller⟩ := hroom
      rw [scaledWords, scaledList, ih hsmaller (Nat.mod_lt n hpos)]
      split
      · rfl
      · rw [groupWords_eq hgroup]
        rfl

theorem leavesRoom_scales : LeavesRoom scales (2000 * 10 ^ 15) := by
  simp [scales, LeavesRoom]

def naturalList (n : ℕ) : List String :=
  if n = 0 then [smallWord 0] else scaledList scales n

theorem natural_eq {n : ℕ} (h : n < 2000 * 10 ^ 15) :
    natural n = .ok (" ".intercalate (naturalList n)) := by
  unfold natural naturalList
  split
  · simp
  · rw [scaledWords_eq leavesRoom_scales h]
    rfl

theorem groupList_ne_nil (n : ℕ) : groupList n ≠ [] := by
  unfold groupList
  split
  · rename_i hzero
    simp [hzero]
  · exact List.cons_ne_nil _ _

theorem scaledList_ne_nil {n : ℕ} (hne : n ≠ 0) (steps : List (ℕ × String)) :
    scaledList steps n ≠ [] := by
  induction steps generalizing n with
  | nil =>
      rw [scaledList, if_neg hne]
      exact groupList_ne_nil n
  | cons step smaller ih =>
      obtain ⟨size, name⟩ := step
      rw [scaledList]
      by_cases hcount : n / size = 0
      · have hrest : n % size ≠ 0 := by
          intro hzero
          have hsplit := Nat.div_add_mod n size
          rw [hcount, hzero] at hsplit
          exact hne hsplit.symm
        rw [if_pos hcount, List.nil_append]
        exact ih hrest
      · simp [hcount]

theorem naturalList_ne_nil (n : ℕ) : naturalList n ≠ [] := by
  unfold naturalList
  split
  · exact List.cons_ne_nil _ _
  · rename_i hne
    exact scaledList_ne_nil hne scales

/-- The whole part of a number and its fraction, counted in units of its last
place. -/
def wholePart (coefficient : ℕ) (exponent : ℤ) : ℕ :=
  if 0 ≤ exponent then coefficient * 10 ^ exponent.toNat else coefficient / 10 ^ (-exponent).toNat

def fractionPart (coefficient : ℕ) (exponent : ℤ) : ℕ :=
  if 0 ≤ exponent then 0 else coefficient % 10 ^ (-exponent).toNat

theorem digitsValue_take_drop {digits : List ℕ} (hdigits : ∀ digit ∈ digits, digit < 10)
    {places : ℕ} (hle : places ≤ digits.length) :
    digitsValue (digits.take (digits.length - places)) = digitsValue digits / 10 ^ places ∧
      digitsValue (digits.drop (digits.length - places)) = digitsValue digits % 10 ^ places := by
  set whole := digits.take (digits.length - places) with hwhole
  set fraction := digits.drop (digits.length - places) with hfraction
  have hlength : fraction.length = places := by
    rw [hfraction, List.length_drop]
    omega
  have hsmall : ∀ digit ∈ fraction, digit < 10 := fun digit hdigit =>
    hdigits digit (List.mem_of_mem_drop hdigit)
  have hrow := digitsValue_lt hsmall
  rw [hlength] at hrow
  have hsplit : digitsValue digits = 10 ^ places * digitsValue whole + digitsValue fraction := by
    rw [Nat.mul_comm, ← hlength, ← digitsValue_append, hwhole, hfraction, List.take_append_drop]
  have hpos : 0 < 10 ^ places := Nat.pow_pos (by decide)
  constructor
  · rw [hsplit, Nat.mul_add_div hpos, Nat.div_eq_of_lt hrow, Nat.add_zero]
  · rw [hsplit, Nat.mul_add_mod, Nat.mod_eq_of_lt hrow]

def paddedRow (coefficient places : ℕ) : List ℕ :=
  List.replicate (places + 1 - (digitRow coefficient).length) 0 ++ digitRow coefficient

theorem digitsValue_paddedRow (coefficient places : ℕ) :
    digitsValue (paddedRow coefficient places) = coefficient := by
  rw [paddedRow, digitsValue_append, digitsValue_replicate_zero, digitsValue_digitRow,
    Nat.zero_mul, Nat.zero_add]

theorem paddedRow_lt (coefficient places : ℕ) :
    ∀ digit ∈ paddedRow coefficient places, digit < 10 := by
  intro digit hdigit
  rcases List.mem_append.mp hdigit with hzero | hrow
  · rw [(List.mem_replicate.mp hzero).2]
    decide
  · exact digitRow_lt coefficient digit hrow

theorem length_paddedRow (coefficient places : ℕ) :
    (paddedRow coefficient places).length = max (places + 1) (digitRow coefficient).length := by
  rw [paddedRow, List.length_append, List.length_replicate]
  omega

/-- What the digits before and behind the point are. -/
structure IsDigitParts (coefficient : ℕ) (exponent : ℤ) (parts : List ℕ × List ℕ) : Prop where
  whole : digitsValue parts.1 = wholePart coefficient exponent
  fraction : digitsValue parts.2 = fractionPart coefficient exponent
  places : parts.2.length = (-exponent).toNat
  fraction_lt : ∀ digit ∈ parts.2, digit < 10
  length_le : parts.1.length ≤ (digitRow coefficient).length + exponent.toNat + 1

theorem isDigitParts (coefficient : ℕ) (exponent : ℤ) :
    IsDigitParts coefficient exponent (digitParts coefficient exponent) := by
  by_cases hle : 0 ≤ exponent
  · have hparts : digitParts coefficient exponent =
        (digitRow coefficient ++ List.replicate exponent.toNat 0, []) := if_pos hle
    rw [hparts]
    refine ⟨?_, ?_, ?_, List.forall_mem_nil _, ?_⟩
    · rw [digitsValue_append, digitsValue_replicate_zero, digitsValue_digitRow,
        List.length_replicate, wholePart, if_pos hle, Nat.add_zero]
    · rw [digitsValue_nil, fractionPart, if_pos hle]
    · rw [List.length_nil]
      omega
    · rw [List.length_append, List.length_replicate]
      omega
  · set places := (-exponent).toNat with hplaces
    set padded := paddedRow coefficient places with hpadded
    have hparts : digitParts coefficient exponent =
        (padded.take (padded.length - places), padded.drop (padded.length - places)) := if_neg hle
    have hlength := length_paddedRow coefficient places
    have hvalues := digitsValue_take_drop (paddedRow_lt coefficient places)
      (by omega : places ≤ (paddedRow coefficient places).length)
    rw [digitsValue_paddedRow, ← hpadded] at hvalues
    rw [← hpadded] at hlength
    rw [hparts]
    refine ⟨?_, ?_, ?_, ?_, ?_⟩
    · rw [hvalues.1, wholePart, if_neg hle]
    · rw [hvalues.2, fractionPart, if_neg hle]
    · rw [List.length_drop]
      omega
    · exact fun digit hdigit =>
        paddedRow_lt coefficient places digit (List.mem_of_mem_drop hdigit)
    · rw [List.length_take]
      omega

def fractionText (fraction : List ℕ) : String :=
  if fraction.isEmpty then "" else " point " ++ " ".intercalate (fraction.map smallWord)

def signText (negative : Bool) : String := if negative then negativeWord else ""

/-- The words of a reduced number: a sign, the whole part and the digits behind
the point. -/
theorem finite_eq (negative : Bool) {coefficient : ℕ} {exponent : ℤ}
    (hwhole : wholePart coefficient exponent < 2000 * 10 ^ 15)
    (hlength : (digitRow coefficient).length + exponent.toNat < Numeral.digitLimit) :
    finite negative coefficient exponent =
      .ok (signText negative ++ " ".intercalate (naturalList (wholePart coefficient exponent)) ++
        fractionText (digitParts coefficient exponent).2) := by
  have hparts := isDigitParts coefficient exponent
  have hlimit : ¬ Numeral.digitLimit < (digitParts coefficient exponent).1.length := by
    have := hparts.length_le
    omega
  unfold finite
  rw [← hparts.whole] at hwhole ⊢
  simp only [bind, Except.bind, if_neg hlimit, natural_eq hwhole, pure, Except.pure]
  rfl

end SpokenCalculator.Spelling
