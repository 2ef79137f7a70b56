import SpokenCalculator.Proofs.Decimal.Operations

namespace SpokenCalculator

namespace Context

theorem RoundsTo.eq_error_iff {context : Context} {q : ℚ} {outcome : Except Signal Decimal}
    (h : context.RoundsTo q outcome) (signal : Signal) :
    outcome = .error signal ↔ signal = .overflow ∧ context.beyond ≤ |context.rounded q| := by
  rcases h with ⟨x, rfl, _, _, hsmall⟩ | ⟨rfl, hlarge⟩
  · constructor
    · intro herror
      cases herror
    · rintro ⟨_, hlarge⟩
      exact absurd hlarge (not_le.mpr hsmall)
  · constructor
    · intro herror
      cases herror
      exact ⟨rfl, hlarge⟩
    · rintro ⟨rfl, _⟩
      rfl

def largest : ℚ := (10 ^ 28 - 1) * 10 ^ (999972 : ℤ)

theorem zpow_million_eq : (10 : ℚ) ^ (1000000 : ℤ) = 10 ^ 28 * 10 ^ (999972 : ℤ) := by
  rw [← zpow_natCast, ← zpow_add₀ (by norm_num)]
  rfl

theorem largest_pos : 0 < largest := mul_pos (by norm_num) (zpow_ten_pos _)

theorem largest_lt : largest < 10 ^ (1000000 : ℤ) := by
  rw [zpow_million_eq]
  exact mul_lt_mul_of_pos_right (by norm_num) (zpow_ten_pos _)

theorem abs_rounded_le_largest {context : Context} (hprecision : 28 ≤ context.precision)
    (hleast : context.leastPlace ≤ 0) {q : ℚ} (hq : |q| ≤ largest) :
    |context.rounded q| ≤ largest := by
  have hgrid : OnGrid 999972 largest :=
    ⟨10 ^ 28 - 1, congrArg (· * (10 : ℚ) ^ (999972 : ℤ)) (by norm_num)⟩
  have hfits : context.Fits largest := by
    refine .of_bound hgrid (hleast.trans (by norm_num)) ?_
    rw [abs_of_pos largest_pos]
    refine largest_lt.trans_le (zpow_le_zpow_right₀ (by norm_num) ?_)
    omega
  rw [← rounded_abs]
  exact hfits.rounded_le (abs_nonneg q) hq

end Context

namespace Decimal

/-- Rounded to the standard precision, the number is beyond the standard
range. -/
structure Overflows (x : Decimal) : Prop where
  isFinite : x.isFinite
  beyond : Context.standard.beyond ≤ |Context.standard.rounded x.value|

variable {x : Decimal}

theorem negate_eq_error_iff (hfinite : x.isFinite) (signal : Signal) :
    Context.standard.negate x = .error signal ↔ signal = .overflow ∧ x.Overflows := by
  have hrounds : Context.standard.RoundsTo (-x.value) (Context.standard.negate x) :=
    Context.negate_roundsTo (by decide) hfinite
  rw [hrounds.eq_error_iff, Context.rounded_neg, abs_neg]
  exact and_congr_right fun _ => ⟨fun hlarge => ⟨hfinite, hlarge⟩, fun h => h.beyond⟩

theorem overflows_of_le (hfinite : x.isFinite) (hle : Context.standard.beyond ≤ |x.value|) :
    x.Overflows := by
  have hfits : Context.standard.Fits Context.standard.beyond := .zpow (by decide) (by decide)
  have hrounded := hfits.le_rounded (by decide) (zpow_ten_pos _).le hle
  rw [Context.rounded_abs] at hrounded
  exact ⟨hfinite, hrounded⟩

theorem not_overflows_of_le (hle : |x.value| ≤ 10 ^ (999999 : ℤ)) : ¬ x.Overflows := by
  intro hoverflows
  have hfits : Context.standard.Fits (10 ^ (999999 : ℤ)) := .zpow (by decide) (by decide)
  have hrounded := hfits.rounded_le (abs_nonneg x.value) hle
  rw [Context.rounded_abs] at hrounded
  have hbelow : (10 : ℚ) ^ (999999 : ℤ) < Context.standard.beyond :=
    Context.zpow_lt_beyond (by decide)
  exact absurd (hoverflows.beyond.trans hrounded) (not_le.mpr hbelow)

end Decimal

end SpokenCalculator
