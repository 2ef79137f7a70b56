import SpokenCalculator.Proofs.Decimal.Value

namespace SpokenCalculator.Context

def lastPlace (context : Context) (q : ℚ) : ℤ :=
  max (Int.log 10 |q| + 1 - context.precision) context.leastPlace

/-- A number as the context keeps it, were there no largest exponent. -/
def rounded (context : Context) (q : ℚ) : ℚ := roundTo (context.lastPlace q) q

def beyond (context : Context) : ℚ := 10 ^ (context.maxExponent + 1)

variable {context : Context} {q r : ℚ}

theorem zpow_lt_beyond {place : ℤ} (h : place ≤ context.maxExponent) :
    (10 : ℚ) ^ place < context.beyond :=
  zpow_lt_zpow_right₀ (by norm_num) (Int.lt_add_one_iff.mpr h)

@[simp] theorem rounded_zero (context : Context) : context.rounded 0 = 0 := roundTo_zero _

@[simp] theorem lastPlace_neg (context : Context) (q : ℚ) :
    context.lastPlace (-q) = context.lastPlace q := by
  rw [lastPlace, lastPlace, abs_neg]

@[simp] theorem rounded_neg (context : Context) (q : ℚ) :
    context.rounded (-q) = -context.rounded q := by
  rw [rounded, rounded, lastPlace_neg, roundTo_neg]

theorem rounded_signed (context : Context) (negative : Bool) (q : ℚ) :
    context.rounded (signed negative q) = signed negative (context.rounded q) := by
  cases negative
  · rfl
  · exact rounded_neg context q

theorem rounded_abs (context : Context) (q : ℚ) : context.rounded |q| = |context.rounded q| := by
  rw [rounded, rounded, lastPlace, lastPlace, abs_abs, roundTo_abs]

theorem rounded_nonneg (context : Context) (h : 0 ≤ q) : 0 ≤ context.rounded q := roundTo_nonneg h

theorem onGrid_rounded {place : ℤ} (context : Context) (h : OnGrid place q) :
    OnGrid place (context.rounded q) :=
  h.roundTo _

theorem abs_rounded_sub_le (context : Context) (q : ℚ) :
    |context.rounded q - q| ≤ 10 ^ context.lastPlace q / 2 :=
  abs_roundTo_sub_le _ _

theorem lastPlace_mono (context : Context) (hq : q ≠ 0) (h : |q| ≤ |r|) :
    context.lastPlace q ≤ context.lastPlace r := by
  have hlog : Int.log 10 |q| ≤ Int.log 10 |r| := Int.log_mono_right (abs_pos.mpr hq) h
  unfold lastPlace
  omega

theorem abs_lt_zpow_lastPlace (context : Context) (q : ℚ) :
    |q| < 10 ^ (context.lastPlace q + context.precision) := by
  have hlog : |q| < ((10 : ℕ) : ℚ) ^ (Int.log 10 |q| + 1) :=
    Int.lt_zpow_succ_log_self (by norm_num) |q|
  refine hlog.trans_le (zpow_le_zpow_right₀ (by norm_num) ?_)
  unfold lastPlace
  omega

/-- A context turns a number into zero exactly if it is at most half a unit of
the least place. -/
theorem rounded_eq_zero_iff (hprecision : 0 < context.precision) (q : ℚ) :
    context.rounded q = 0 ↔ |q| ≤ 10 ^ context.leastPlace / 2 := by
  have hleast : context.leastPlace ≤ context.lastPlace q := le_max_right _ _
  rw [rounded, roundTo_eq_zero_iff]
  constructor
  · intro hle
    rcases eq_or_ne q 0 with rfl | hne
    · have := zpow_ten_pos context.leastPlace
      rw [abs_zero]
      positivity
    · rcases hleast.eq_or_lt with heq | hlt
      · rwa [heq]
      · -- above the least place a number has a whole unit of its last place
        have hplace : context.lastPlace q ≤ Int.log 10 |q| := by
          unfold lastPlace at hlt ⊢
          omega
        have hself : (10 : ℚ) ^ Int.log 10 |q| ≤ |q| := by
          exact_mod_cast Int.zpow_log_le_self (b := 10) (by norm_num) (abs_pos.mpr hne)
        have hpower : (10 : ℚ) ^ context.lastPlace q ≤ 10 ^ Int.log 10 |q| :=
          zpow_le_zpow_right₀ (by norm_num) hplace
        have := zpow_ten_pos (context.lastPlace q)
        linarith
  · intro hle
    have hpower : (10 : ℚ) ^ context.leastPlace ≤ 10 ^ context.lastPlace q :=
      zpow_le_zpow_right₀ (by norm_num) hleast
    linarith

def Fits (context : Context) (q : ℚ) : Prop := OnGrid (context.lastPlace q) q

theorem Fits.of_bound {place : ℤ} (hgrid : OnGrid place q) (hleast : context.leastPlace ≤ place)
    (hbound : |q| < 10 ^ (place + context.precision)) : context.Fits q := by
  rcases eq_or_ne q 0 with rfl | hne
  · exact .zero _
  · refine hgrid.mono ?_
    have hlog : Int.log 10 |q| < place + context.precision := by
      rw [← Int.lt_zpow_iff_log_lt (b := 10) (by norm_num) (abs_pos.mpr hne)]
      exact_mod_cast hbound
    unfold lastPlace
    omega

theorem Fits.zpow {place : ℤ} (hleast : context.leastPlace ≤ place) (hpos : 0 < context.precision) :
    context.Fits (10 ^ place) := by
  refine .of_bound (.zpow le_rfl) hleast ?_
  rw [abs_of_pos (zpow_ten_pos place)]
  exact zpow_lt_zpow_right₀ (by norm_num) (by omega)

theorem Fits.neg (h : context.Fits q) : context.Fits (-q) := by
  rw [Fits, lastPlace_neg]
  exact OnGrid.neg h

theorem Fits.rounded_eq (h : context.Fits q) : context.rounded q = q := roundTo_of_onGrid h

/-- What fits is never passed by rounding, from below nor from above. -/
theorem Fits.rounded_le (hr : context.Fits r) (hq : 0 ≤ q) (hle : q ≤ r) :
    context.rounded q ≤ r := by
  rcases hq.eq_or_lt with rfl | hpos
  · rwa [rounded_zero]
  · have habs : |q| ≤ |r| := by rwa [abs_of_pos hpos, abs_of_pos (hpos.trans_le hle)]
    exact roundTo_le (OnGrid.mono hr (lastPlace_mono context hpos.ne' habs)) hle

theorem Fits.le_rounded (hr : context.Fits r) (hprecision : 0 < context.precision) (h : 0 ≤ r)
    (hle : r ≤ q) : r ≤ context.rounded q := by
  rcases h.eq_or_lt with rfl | hpos
  · exact rounded_nonneg context hle
  · have hq : 0 < q := hpos.trans_le hle
    have habs : |r| ≤ |q| := by rwa [abs_of_pos hpos, abs_of_pos hq]
    have hlast := lastPlace_mono context hpos.ne' habs
    rcases hlast.eq_or_lt with heq | hlt
    · exact le_roundTo (OnGrid.mono hr heq.ge) hle
    · -- a power of ten separates the two numbers
      have hlog : Int.log 10 |r| < Int.log 10 |q| := by
        unfold lastPlace at hlt
        omega
      have hpower : r < 10 ^ Int.log 10 |q| := by
        have hupper : |r| < ((10 : ℕ) : ℚ) ^ (Int.log 10 |r| + 1) :=
          Int.lt_zpow_succ_log_self (by norm_num) |r|
        rw [abs_of_pos hpos] at hupper hlog
        exact hupper.trans_le (zpow_le_zpow_right₀ (by norm_num) hlog)
      have hself : (10 : ℚ) ^ Int.log 10 |q| ≤ q := by
        have := Int.zpow_log_le_self (b := 10) (r := |q|) (by norm_num) (abs_pos.mpr hq.ne')
        rw [abs_of_pos hq] at this ⊢
        exact_mod_cast this
      have hplace : context.lastPlace q ≤ Int.log 10 |q| := by
        have hleast : context.leastPlace ≤ context.lastPlace r := le_max_right _ _
        unfold lastPlace at hlt hleast ⊢
        omega
      exact hpower.le.trans (le_roundTo (.zpow hplace) hself)

section

variable {coefficient : ℕ} (hne : coefficient ≠ 0) (exponent : ℤ)

include hne

theorem magnitude_pos : (0 : ℚ) < coefficient * 10 ^ exponent := by
  have : (0 : ℚ) < coefficient := by exact_mod_cast Nat.pos_of_ne_zero hne
  have := zpow_ten_pos exponent
  positivity

theorem roundingPlace_eq (context : Context) :
    context.roundingPlace coefficient exponent =
      context.lastPlace (coefficient * 10 ^ exponent) := by
  have hleading := leadingExponent_eq hne exponent
  rw [leadingExponent] at hleading
  rw [roundingPlace, lastPlace, abs_of_pos (magnitude_pos hne exponent), ← hleading]
  congr 1
  omega

theorem lt_leadingExponent_iff (context : Context) :
    context.maxExponent < leadingExponent coefficient exponent ↔
      context.beyond ≤ coefficient * 10 ^ exponent := by
  rw [leadingExponent_eq hne, beyond, ← Int.add_one_le_iff,
    ← Int.zpow_le_iff_le_log (by norm_num) (magnitude_pos hne exponent)]
  norm_cast

theorem bounded_cases (context : Context) (negative : Bool) {value : ℚ}
    (hvalue : (coefficient : ℚ) * 10 ^ exponent = value) :
    (∃ kept place,
      context.bounded negative coefficient exponent = .ok (.finite negative kept place) ∧
      (kept : ℚ) * 10 ^ place = value ∧ value < context.beyond) ∨
    (context.bounded negative coefficient exponent = .error .overflow ∧
      context.beyond ≤ value) := by
  have hrange := lt_leadingExponent_iff hne exponent context
  rw [hvalue] at hrange
  unfold bounded
  split
  · rename_i hlarge
    exact Or.inr ⟨rfl, hrange.mp hlarge⟩
  · rename_i hsmall
    rw [hrange] at hsmall
    exact Or.inl ⟨coefficient, exponent, rfl, hvalue, lt_of_not_ge hsmall⟩

end

theorem dropDigits_mul_zpow (coefficient : ℕ) {exponent place : ℤ} (hlt : exponent ≤ place) :
    (dropDigits coefficient (place - exponent).toNat : ℚ) * 10 ^ place =
      roundTo place (coefficient * 10 ^ exponent) := by
  have hpower : (10 : ℚ) ^ place = 10 ^ (place - exponent).toNat * 10 ^ exponent := by
    rw [← zpow_natCast, ← zpow_add₀ (by norm_num)]
    congr 1
    omega
  have hquotient : (coefficient : ℚ) * 10 ^ exponent / 10 ^ place =
      coefficient / ((10 ^ (place - exponent).toNat : ℕ) : ℚ) := by
    rw [hpower, mul_div_mul_right _ _ (zpow_ten_pos exponent).ne']
    push_cast
    rfl
  rw [roundTo, hquotient, nearestEven_div _ (by positivity), dropDigits_eq, natPow_eq]
  rfl

theorem le_pow_of_mul_zpow_le {kept digits : ℕ} {place : ℤ}
    (h : (kept : ℚ) * 10 ^ place ≤ 10 ^ (place + digits)) : kept ≤ 10 ^ digits := by
  rw [zpow_add₀ (by norm_num), mul_comm, mul_le_mul_iff_right₀ (zpow_ten_pos place)] at h
  exact_mod_cast h

theorem lt_pow_of_mul_zpow_lt {kept digits : ℕ} {place : ℤ}
    (h : (kept : ℚ) * 10 ^ place < 10 ^ (place + digits)) : kept < 10 ^ digits := by
  rw [zpow_add₀ (by norm_num), mul_comm, mul_lt_mul_iff_right₀ (zpow_ten_pos place)] at h
  exact_mod_cast h

theorem rounded_le_zpow_lastPlace (context : Context) (hpos : 0 < q) :
    context.rounded q ≤ 10 ^ (context.lastPlace q + context.precision) := by
  have habove := context.abs_lt_zpow_lastPlace q
  rw [abs_of_pos hpos] at habove
  exact roundTo_le (.zpow (by omega)) habove.le

/-- To drop a last digit that is a zero keeps the value. -/
theorem div_ten_mul_zpow {coefficient : ℕ} (h : 10 ∣ coefficient) (exponent : ℤ) :
    ((coefficient / 10 : ℕ) : ℚ) * 10 ^ (exponent + 1) = coefficient * 10 ^ exponent := by
  obtain ⟨rest, rfl⟩ := h
  rw [Nat.mul_div_cancel_left rest (by norm_num), zpow_add_one₀ (by norm_num)]
  push_cast
  ring

/-- When rounding up carries to one digit more than there is room for, the last
one is a zero. -/
theorem ten_dvd_of_carry {kept digits : ℕ} (hdigits : 0 < digits) (hkept : kept ≠ 0)
    (hroom : kept ≤ 10 ^ digits) (hcarry : digits < digitCount kept) : 10 ∣ kept := by
  have hpower : kept = 10 ^ digits := le_antisymm hroom ((lt_digitCount_iff hkept).mp hcarry)
  rw [hpower]
  exact dvd_pow_self 10 hdigits.ne'

theorem round_cases (hprecision : 0 < context.precision) (negative : Bool) (coefficient : ℕ)
    (exponent : ℤ) :
    (∃ kept place, context.round negative coefficient exponent = .ok (.finite negative kept place) ∧
      (kept : ℚ) * 10 ^ place = context.rounded (coefficient * 10 ^ exponent) ∧
      context.rounded (coefficient * 10 ^ exponent) < context.beyond) ∨
    (context.round negative coefficient exponent = .error .overflow ∧
      context.beyond ≤ context.rounded (coefficient * 10 ^ exponent)) := by
  have hbeyond : (0 : ℚ) < context.beyond := zpow_ten_pos _
  unfold round
  split
  · rename_i hzero
    subst hzero
    exact Or.inl ⟨_, _, rfl, by simp, by simpa using hbeyond⟩
  · rename_i hne
    rw [roundingPlace_eq hne]
    have hpos : (0 : ℚ) < coefficient * 10 ^ exponent := magnitude_pos hne exponent
    dsimp only
    split
    · rename_i hlt
      have hvalue : (dropDigits coefficient _ : ℚ) * 10 ^ context.lastPlace _ =
          context.rounded (coefficient * 10 ^ exponent) := dropDigits_mul_zpow coefficient hlt.le
      have hroom := context.rounded_le_zpow_lastPlace hpos
      rw [← hvalue] at hroom
      set place := context.lastPlace (coefficient * 10 ^ exponent)
      set kept := dropDigits coefficient (place - exponent).toNat
      split
      · rename_i hzero
        have hvanishes : context.rounded (coefficient * 10 ^ exponent) = 0 := by
          rw [← hvalue, hzero, Nat.cast_zero, zero_mul]
        rw [hvanishes]
        exact Or.inl ⟨_, _, rfl, by simp, hbeyond⟩
      · rename_i hkept
        split
        · rename_i hcarry
          have hten : 10 ∣ kept :=
            ten_dvd_of_carry hprecision hkept (le_pow_of_mul_zpow_le hroom) hcarry
          have hne' : kept / 10 ≠ 0 := by omega
          exact bounded_cases hne' _ context negative ((div_ten_mul_zpow hten _).trans hvalue)
        · exact bounded_cases hkept _ context negative hvalue
    · rename_i hle
      have hfits : context.rounded (coefficient * 10 ^ exponent) = coefficient * 10 ^ exponent :=
        Fits.rounded_eq ((OnGrid.natCast_mul coefficient exponent).mono (not_lt.mp hle))
      exact bounded_cases hne exponent context negative hfits.symm

end SpokenCalculator.Context
