import Mathlib.Algebra.Order.Field.Power
import Mathlib.Data.Int.Log
import Mathlib.Data.Rat.Floor
import Mathlib.Tactic.Positivity
import Mathlib.Tactic.Ring
import Recast.Number.Binary
set_option autoImplicit false

namespace Recast

theorem two_power_split (k : Int) : (2 : ℚ) ^ k * 2 ^ (-k).toNat = 2 ^ k.toNat := by
  rw [← zpow_natCast, ← zpow_natCast, ← zpow_add₀ two_ne_zero]
  congr 1
  omega

theorem scaled_lt_iff (x y : Nat) (k : Int) :
    x * 2 ^ (-k).toNat < y * 2 ^ k.toNat ↔ (x : ℚ) < y * 2 ^ k := by
  have positive : (0 : ℚ) < 2 ^ (-k).toNat := by positivity
  rw [← Nat.cast_lt (α := ℚ), Nat.cast_mul, Nat.cast_mul, Nat.cast_pow, Nat.cast_pow, Nat.cast_ofNat,
    ← two_power_split k, ← mul_assoc, mul_lt_mul_iff_left₀ positive]

theorem scaled_eq_iff (x y : Nat) (k : Int) :
    x * 2 ^ (-k).toNat = y * 2 ^ k.toNat ↔ (x : ℚ) = y * 2 ^ k := by
  have positive : (0 : ℚ) < 2 ^ (-k).toNat := by positivity
  rw [← Nat.cast_inj (R := ℚ), Nat.cast_mul, Nat.cast_mul, Nat.cast_pow, Nat.cast_pow, Nat.cast_ofNat,
    ← two_power_split k, ← mul_assoc, mul_left_inj' positive.ne']

theorem round_half_even_exact (whole : Nat) {den : Nat} (positive : 0 < den) :
    roundHalfEven (whole * den) den = whole := by
  simp only [roundHalfEven, Nat.mul_div_cancel whole positive, Nat.mul_mod_left, Nat.mul_zero, if_pos positive]

theorem log_two_bounds {n : Nat} (positive : 0 < n) :
    (2 : ℚ) ^ (n.log2 : Int) ≤ n ∧ (n : ℚ) < 2 ^ ((n.log2 : Int) + 1) := by
  have least : 2 ^ n.log2 ≤ n := Nat.log2_self_le positive.ne'
  have greatest : n < 2 ^ (n.log2 + 1) := Nat.lt_log2_self
  constructor
  · rw [zpow_natCast]
    exact_mod_cast least
  · rw [← Nat.cast_succ, zpow_natCast]
    exact_mod_cast greatest

theorem floor_log_eq {num den : Nat} (numerator : 0 < num) (denominator : 0 < den) :
    floorLog2 num den = Int.log 2 ((num : ℚ) / den) := by
  have divisor : (0 : ℚ) < den := Nat.cast_pos.mpr denominator
  have quotient : (0 : ℚ) < num / den := div_pos (Nat.cast_pos.mpr numerator) divisor
  have numBounds := log_two_bounds numerator
  have denBounds := log_two_bounds denominator
  have guessed : ∀ k : Int, num * 2 ^ (-k).toNat < den * 2 ^ k.toNat ↔ Int.log 2 ((num : ℚ) / den) < k := by
    intro k
    rw [scaled_lt_iff, ← Int.lt_zpow_iff_log_lt Nat.one_lt_two quotient, div_lt_iff₀' divisor, Nat.cast_ofNat]
  have atMost : Int.log 2 ((num : ℚ) / den) < (num.log2 : Int) - den.log2 + 1 := by
    rw [← Int.lt_zpow_iff_log_lt Nat.one_lt_two quotient, div_lt_iff₀' divisor]
    calc (num : ℚ) < 2 ^ ((num.log2 : Int) + 1) := numBounds.2
      _ = 2 ^ (den.log2 : Int) * 2 ^ ((num.log2 : Int) - den.log2 + 1) := by
        rw [← zpow_add₀ two_ne_zero]
        congr 1
        ring
      _ ≤ den * 2 ^ ((num.log2 : Int) - den.log2 + 1) := by
        exact mul_le_mul_of_nonneg_right denBounds.1 (by positivity)
  have atLeast : (num.log2 : Int) - den.log2 - 1 ≤ Int.log 2 ((num : ℚ) / den) := by
    rw [← Int.zpow_le_iff_le_log Nat.one_lt_two quotient, le_div_iff₀' divisor]
    calc (den : ℚ) * 2 ^ ((num.log2 : Int) - den.log2 - 1)
      _ ≤ 2 ^ ((den.log2 : Int) + 1) * 2 ^ ((num.log2 : Int) - den.log2 - 1) := by
        exact mul_le_mul_of_nonneg_right denBounds.2.le (by positivity)
      _ = 2 ^ (num.log2 : Int) := by
        rw [← zpow_add₀ two_ne_zero]
        congr 1
        ring
      _ ≤ num := numBounds.1
  simp only [floorLog2, guessed]
  by_cases less : Int.log 2 ((num : ℚ) / den) < (num.log2 : Int) - den.log2
  · rw [if_pos less]
    omega
  · rw [if_neg less]
    omega

theorem log_scaled {significand : Nat} (positive : 0 < significand) (exponent : Int) :
    Int.log 2 ((significand : ℚ) * 2 ^ exponent) = significand.log2 + exponent := by
  have unit : (0 : ℚ) < 2 ^ exponent := by positivity
  have whole : (0 : ℚ) < significand * 2 ^ exponent := mul_pos (Nat.cast_pos.mpr positive) unit
  obtain ⟨low, high⟩ := log_two_bounds positive
  have atLeast : (significand.log2 : Int) + exponent ≤ Int.log 2 ((significand : ℚ) * 2 ^ exponent) := by
    rw [← Int.zpow_le_iff_le_log Nat.one_lt_two whole, Nat.cast_ofNat, zpow_add₀ two_ne_zero]
    exact mul_le_mul_of_nonneg_right low unit.le
  have below : Int.log 2 ((significand : ℚ) * 2 ^ exponent) < (significand.log2 : Int) + 1 + exponent := by
    rw [← Int.lt_zpow_iff_log_lt Nat.one_lt_two whole, Nat.cast_ofNat, zpow_add₀ two_ne_zero]
    exact mul_lt_mul_of_pos_right high unit
  omega

namespace Binary

variable {format : Format} {significand : Nat} {exponent : Int}

theorem last_place (canonical : format.Canonical significand exponent) (nonzero : significand ≠ 0) :
    max ((significand.log2 : Int) + exponent - ((format.precision : Int) - 1)) format.least = exponent := by
  obtain ⟨fits, low, high, subnormal⟩ := canonical
  have atMost : significand.log2 < format.precision := (Nat.log2_lt nonzero).mpr fits
  by_cases leading : significand < 2 ^ (format.precision - 1)
  · have least := subnormal leading
    omega
  · have atLeast : format.precision - 1 ≤ significand.log2 := (Nat.le_log2 nonzero).mpr (Nat.not_lt.mp leading)
    omega

theorem nearest_exact (negative : Bool) {num den : Nat} (canonical : format.Canonical significand exponent)
    (nonzero : significand ≠ 0) (denominator : 0 < den) (value : (num : ℚ) = den * (significand * 2 ^ exponent)) :
    nearest negative num den = .finite negative significand exponent canonical := by
  have divisor : (0 : ℚ) < den := Nat.cast_pos.mpr denominator
  have positive : 0 < significand := Nat.pos_of_ne_zero nonzero
  have numerator : 0 < num := by
    rw [← Nat.cast_pos (α := ℚ), value]
    have := Nat.cast_pos (α := ℚ) |>.mpr positive
    positivity
  have place : max (floorLog2 num den - ((format.precision : Int) - 1)) format.least = exponent := by
    have log : floorLog2 num den = significand.log2 + exponent := by
      rw [floor_log_eq numerator denominator, value, mul_div_cancel_left₀ _ divisor.ne', log_scaled positive]
    rw [log, last_place canonical nonzero]
  have kept : roundHalfEven (num * 2 ^ (-exponent).toNat) (den * 2 ^ exponent.toNat) = significand := by
    have scaled : num * 2 ^ (-exponent).toNat = significand * (den * 2 ^ exponent.toNat) := by
      rw [← Nat.mul_assoc, scaled_eq_iff, value, Nat.cast_mul]
      ring
    rw [scaled, round_half_even_exact significand (by positivity)]
  have fits : significand ≠ 2 ^ format.precision := canonical.1.ne
  simp only [nearest, if_neg numerator.ne', place, kept, if_neg fits, ofParts, dif_pos canonical]

theorem nearest_scaled_exact (negative : Bool) {other : Nat} {scale : Int}
    (canonical : format.Canonical significand exponent)
    (value : (other : ℚ) * 2 ^ scale = significand * 2 ^ exponent) :
    nearestScaled negative other scale = .finite negative significand exponent canonical := by
  by_cases zero : significand = 0
  · subst zero
    obtain rfl : exponent = format.least := canonical.2.2.2 (by positivity)
    have none : other = 0 := by
      rw [Nat.cast_zero, zero_mul] at value
      exact_mod_cast (mul_eq_zero_iff_right (by positivity)).mp value
    rw [nearestScaled, none, Nat.zero_mul, nearest, if_pos rfl, Binary.zero]
  · refine nearest_exact negative canonical zero (by positivity) ?_
    rw [← value, Nat.cast_mul, Nat.cast_pow, Nat.cast_pow, Nat.cast_ofNat, ← two_power_split scale]
    ring

theorem exceeds_iff (target : Format) (negative : Bool) (canonical : format.Canonical significand exponent) :
    (finite negative significand exponent canonical).exceeds target = true ↔
      ((2 ^ target.precision - 1 : Nat) : ℚ) * 2 ^ target.greatest < significand * 2 ^ exponent := by
  have unit : (0 : ℚ) < 2 ^ target.greatest := by positivity
  have split : (2 : ℚ) ^ exponent = 2 ^ (exponent - target.greatest) * 2 ^ target.greatest := by
    rw [← zpow_add₀ two_ne_zero, sub_add_cancel]
  rw [exceeds, decide_eq_true_eq, scaled_lt_iff, split, ← mul_assoc, mul_lt_mul_iff_left₀ unit]

theorem canonical_within (canonical : format.Canonical significand exponent) :
    (significand : ℚ) * 2 ^ exponent ≤ ((2 ^ format.precision - 1 : Nat) : ℚ) * 2 ^ format.greatest := by
  obtain ⟨fits, -, high, -⟩ := canonical
  have units : (2 : ℚ) ^ exponent ≤ 2 ^ format.greatest := zpow_le_zpow_right₀ one_le_two high
  have whole : (significand : ℚ) ≤ ((2 ^ format.precision - 1 : Nat) : ℚ) := Nat.cast_le.mpr (by omega)
  exact mul_le_mul whole units (by positivity) (by positivity)

theorem leading_bit_moved {shift top : Nat} (nonzero : significand ≠ 0) (moved : significand.log2 + shift = top) :
    2 ^ top ≤ significand * 2 ^ shift ∧ significand * 2 ^ shift < 2 ^ (top + 1) := by
  have least : 2 ^ significand.log2 ≤ significand := Nat.log2_self_le nonzero
  have greatest : significand < 2 ^ (significand.log2 + 1) := Nat.lt_log2_self
  have next : significand.log2 + 1 + shift = top + 1 := by omega
  rw [← next, ← moved, pow_add, pow_add _ (significand.log2 + 1)]
  exact ⟨Nat.mul_le_mul_right _ least, Nat.mul_lt_mul_of_pos_right greatest (by positivity)⟩

theorem canonical_widened (canonical : Format.single.Canonical significand exponent) :
    ∃ wider place, Format.double.Canonical wider place ∧ (wider : ℚ) * 2 ^ place = significand * 2 ^ exponent := by
  by_cases zero : significand = 0
  · subst zero
    refine ⟨0, Format.double.least, Format.double.canonical_zero, ?_⟩
    rw [Nat.cast_zero, zero_mul, zero_mul]
  · obtain ⟨fits, low, high, -⟩ := canonical
    have bits : significand.log2 < 24 := (Nat.log2_lt zero).mpr fits
    obtain ⟨shift, moved⟩ : ∃ shift : Nat, significand.log2 + shift = 52 := ⟨52 - significand.log2, by omega⟩
    obtain ⟨atLeast, below⟩ := leading_bit_moved zero moved
    simp only [Format.least, Format.greatest] at low high
    have wide : Format.double.Canonical (significand * 2 ^ shift) (exponent - shift) := by
      refine ⟨below, ?_, ?_, fun small => absurd small (Nat.not_lt.mpr atLeast)⟩
      · simp only [Format.least]
        omega
      · simp only [Format.greatest]
        omega
    refine ⟨significand * 2 ^ shift, exponent - shift, wide, ?_⟩
    rw [Nat.cast_mul, Nat.cast_pow, Nat.cast_ofNat, ← zpow_natCast, mul_assoc, ← zpow_add₀ two_ne_zero,
      add_sub_cancel]

theorem widened_finite (negative : Bool) (canonical : Format.single.Canonical significand exponent) :
    ∃ wider place, ∃ wide : Format.double.Canonical wider place,
      (finite negative significand exponent canonical).toFormat .double = finite negative wider place wide ∧
        (wider : ℚ) * 2 ^ place = significand * 2 ^ exponent := by
  obtain ⟨wider, place, wide, value⟩ := canonical_widened canonical
  exact ⟨wider, place, wide, nearest_scaled_exact negative wide value.symm, value⟩

theorem narrow_widened (x : Single) : (x.toFormat .double).toFormat .single = x := by
  cases x with
  | nan | infinite negative => rfl
  | finite negative significand exponent canonical =>
    obtain ⟨wider, place, wide, widened, value⟩ := widened_finite negative canonical
    rw [widened]
    exact nearest_scaled_exact negative canonical value

theorem widened_within (x : Single) : (x.toFormat .double).exceeds .single = false := by
  cases x with
  | nan | infinite negative => rfl
  | finite negative significand exponent canonical =>
    obtain ⟨wider, place, wide, widened, value⟩ := widened_finite negative canonical
    rw [widened, ← Bool.not_eq_true, exceeds_iff, value, not_lt]
    exact canonical_within canonical

end Binary

end Recast
