import Mathlib.Tactic.Linarith
import Recast.Proofs.Number.Rounding
set_option autoImplicit false

/-!
Rounding to a format, said without an algorithm: of all its numbers none is nearer, and of two equally near
it is the even one. Quotients and decimals are rounded so, whatever their size.
-/

namespace Recast

theorem round_half_even_near (num : Nat) {den : Nat} (positive : 0 < den) :
    |(num : ℚ) / den - roundHalfEven num den| ≤ 1 / 2 ∧
      (|(num : ℚ) / den - roundHalfEven num den| = 1 / 2 → roundHalfEven num den % 2 = 0) := by
  have divisor : (0 : ℚ) < den := Nat.cast_pos.mpr positive
  have split : (num : ℚ) / den = (num / den : Nat) + ((num % den : Nat) : ℚ) / den := by
    rw [eq_comm, ← mul_left_inj' divisor.ne', add_mul, div_mul_cancel₀ _ divisor.ne', div_mul_cancel₀ _ divisor.ne']
    exact_mod_cast Nat.div_add_mod' num den
  have proper : ((num % den : Nat) : ℚ) / den < 1 := by
    rw [div_lt_one divisor]
    exact Nat.cast_lt.mpr (Nat.mod_lt num positive)
  have less : 2 * (num % den) < den ↔ ((num % den : Nat) : ℚ) / den < 1 / 2 := by
    rw [div_lt_div_iff₀ divisor two_pos, one_mul, mul_comm]
    exact_mod_cast Iff.rfl
  have more : den < 2 * (num % den) ↔ 1 / 2 < ((num % den : Nat) : ℚ) / den := by
    rw [div_lt_div_iff₀ two_pos divisor, one_mul, mul_comm]
    exact_mod_cast Iff.rfl
  have nonneg : 0 ≤ ((num % den : Nat) : ℚ) / den := by positivity
  simp only [split, roundHalfEven, less, more]
  generalize ((num % den : Nat) : ℚ) / den = fraction at *
  generalize num / den = whole
  rcases lt_trichotomy fraction (1 / 2) with below | half | above
  · rw [if_pos below, add_sub_cancel_left, abs_of_nonneg nonneg]
    exact ⟨below.le, fun tie => absurd tie below.ne⟩
  · subst half
    rw [if_neg (lt_irrefl _), if_neg (lt_irrefl _)]
    by_cases even : whole % 2 = 0
    · rw [if_pos even, add_sub_cancel_left, abs_of_pos one_half_pos]
      exact ⟨le_rfl, fun _ => even⟩
    · have odd : (whole + 1) % 2 = 0 := by omega
      have distance : (whole : ℚ) + 1 / 2 - (whole + 1 : Nat) = -(1 / 2) := by
        push_cast
        ring
      rw [if_neg even, distance, abs_neg, abs_of_pos one_half_pos]
      exact ⟨le_rfl, fun _ => odd⟩
  · have distance : (whole : ℚ) + fraction - (whole + 1 : Nat) = -(1 - fraction) := by
      push_cast
      ring
    rw [if_neg above.not_gt, if_pos above, distance, abs_neg, abs_of_pos (sub_pos.mpr proper)]
    exact ⟨by linarith, fun tie => absurd tie (by linarith)⟩

theorem near_among_integers {r : ℚ} {kept : Nat} (near : |r - kept| ≤ 1 / 2)
    (tie : |r - kept| = 1 / 2 → kept % 2 = 0) (other : Nat) :
    |r - kept| ≤ |r - other| ∧ (|r - other| = |r - kept| → other = kept ∨ kept % 2 = 0) := by
  by_cases same : other = kept
  · rw [same]
    exact ⟨le_rfl, fun _ => .inl rfl⟩
  · have apart : (1 : ℚ) ≤ |(other : ℚ) - kept| := by
      have : (1 : Int) ≤ |(other : Int) - kept| := Int.one_le_abs (by omega)
      exact_mod_cast this
    have between : |(other : ℚ) - kept| ≤ |r - other| + |r - kept| := by
      rw [abs_sub_comm r other]
      exact abs_sub_le (other : ℚ) r kept
    exact ⟨by linarith, fun equal => .inr (tie (by linarith))⟩

namespace Format

theorem precision_split (format : Format) : format.precision - 1 + 1 = format.precision := by
  cases format <;> rfl

def overflow (format : Format) : ℚ := (2 ^ format.precision - 1 / 2) * 2 ^ format.greatest

theorem precision_power (format : Format) : (2 : ℚ) ^ format.precision = 2 ^ (format.precision - 1) * 2 := by
  rw [← pow_succ, format.precision_split]

theorem overflow_positive (format : Format) : 0 < format.overflow := by
  have top : (1 : ℚ) ≤ 2 ^ format.precision := one_le_pow₀ one_le_two
  exact mul_pos (by linarith) (by positivity)

end Format

def onSide (negative : Bool) (magnitude : ℚ) : ℚ := if negative then -magnitude else magnitude

theorem on_side_distance (negative : Bool) (a b : ℚ) : |onSide negative a - onSide negative b| = |a - b| := by
  cases negative with
  | false => rfl
  | true => rw [onSide, onSide, if_pos rfl, if_pos rfl, neg_sub_neg, abs_sub_comm]

theorem across_distance {negative other : Bool} (across : negative ≠ other) (a b : ℚ) :
    |onSide negative a - onSide other b| = |a + b| := by
  cases negative <;> cases other <;> simp [onSide] at across ⊢
  rw [← abs_neg, neg_sub, sub_neg_eq_add, add_comm]

theorem abs_on_side (negative : Bool) (magnitude : ℚ) : |onSide negative magnitude| = |magnitude| := by
  cases negative with
  | false => rfl
  | true => exact abs_neg magnitude

theorem on_side_abs (q : ℚ) : onSide (decide (q < 0)) |q| = q := by
  by_cases negative : q < 0
  · rw [decide_eq_true negative, onSide, if_pos rfl, abs_of_neg negative, neg_neg]
  · rw [decide_eq_false negative, onSide, if_neg Bool.false_ne_true, abs_of_nonneg (not_lt.mp negative)]

namespace Binary

variable {format : Format}

def value? : Binary format → Option ℚ
  | .finite negative significand exponent _ => some (onSide negative (significand * 2 ^ exponent))
  | _ => none

-- What rounding gives: no number of the format is nearer, and if another one is as near, then this one is
-- even. From halfway past the greatest number on it is infinite.
def IsNearest (q : ℚ) : Binary format → Prop
  | .nan => False
  | .infinite negative => format.overflow ≤ |q| ∧ (negative = true ↔ q < 0)
  | .finite negative significand exponent _ =>
    |q| < format.overflow ∧ ∀ (other : Binary format) (v : ℚ), other.value? = some v →
      |q - onSide negative (significand * 2 ^ exponent)| ≤ |q - v| ∧
        (|q - v| = |q - onSide negative (significand * 2 ^ exponent)| →
          v = onSide negative (significand * 2 ^ exponent) ∨ significand % 2 = 0)

-- The numbers whose last place is above are multiples of the last place; those whose last place is below are
-- all smaller than what the leading bit stands for.
theorem near_among_canonical {r : ℚ} {kept : Nat} {last : Int} (near : |r - kept| ≤ 1 / 2)
    (tie : |r - kept| = 1 / 2 → kept % 2 = 0) (place : last = format.least ∨ 2 ^ (format.precision - 1) ≤ r)
    {significand : Nat} {exponent : Int} (canonical : format.Canonical significand exponent) :
    |r - kept| ≤ |r - significand * 2 ^ (exponent - last)| ∧
      (|r - significand * 2 ^ (exponent - last)| = |r - kept| →
        significand * 2 ^ (exponent - last) = (kept : ℚ) ∨ kept % 2 = 0) := by
  by_cases above : last ≤ exponent
  · have multiple : (significand : ℚ) * 2 ^ (exponent - last) = (significand * 2 ^ (exponent - last).toNat : Nat) := by
      rw [Nat.cast_mul, Nat.cast_pow, Nat.cast_ofNat, ← zpow_natCast, Int.toNat_of_nonneg (by omega)]
    rw [multiple]
    obtain ⟨closest, equal⟩ := near_among_integers near tie (significand * 2 ^ (exponent - last).toNat)
    exact ⟨closest, fun same => (equal same).imp_left fun found => by rw [found]⟩
  · have low := canonical.2.1
    have leading : 2 ^ (format.precision - 1) ≤ r := place.resolve_left (by omega)
    have smaller : (significand : ℚ) * 2 ^ (exponent - last) < (2 ^ (format.precision - 1) : Nat) := by
      have fits : (significand : ℚ) < 2 ^ format.precision := by exact_mod_cast canonical.1
      have shift : (2 : ℚ) ^ (exponent - last) ≤ 2 ^ (-1 : Int) := zpow_le_zpow_right₀ one_le_two (by omega)
      calc (significand : ℚ) * 2 ^ (exponent - last)
        _ < 2 ^ format.precision * 2 ^ (exponent - last) := mul_lt_mul_of_pos_right fits (by positivity)
        _ ≤ 2 ^ format.precision * 2 ^ (-1 : Int) := mul_le_mul_of_nonneg_left shift (by positivity)
        _ = (2 ^ (format.precision - 1) : Nat) := by
          rw [← format.precision_split, zpow_neg_one, pow_succ, mul_assoc, mul_inv_cancel₀ two_ne_zero, mul_one,
            Nat.cast_pow, Nat.cast_ofNat, Nat.add_sub_cancel]
    obtain ⟨closest, -⟩ := near_among_integers near tie (2 ^ (format.precision - 1))
    have farther : |r - kept| < |r - significand * 2 ^ (exponent - last)| := by
      rw [abs_of_nonneg (a := r - _ * _) (by push_cast at smaller; linarith)]
      rw [abs_of_nonneg (a := r - (2 ^ (format.precision - 1) : Nat)) (by push_cast; linarith)] at closest
      linarith
    exact ⟨farther.le, fun same => absurd same farther.ne'⟩

structure Kept (format : Format) (a : ℚ) (kept : Nat) (last : Int) : Prop where
  near : |a / 2 ^ last - kept| ≤ 1 / 2
  tie : |a / 2 ^ last - kept| = 1 / 2 → kept % 2 = 0
  least : format.least ≤ last
  fits : a / 2 ^ last < 2 ^ format.precision
  place : last = format.least ∨ 2 ^ (format.precision - 1) ≤ a / 2 ^ last

theorem kept_by_nearest {num den : Nat} (numerator : 0 < num) (denominator : 0 < den) {last : Int}
    (given : last = max (floorLog2 num den - ((format.precision : Int) - 1)) format.least) :
    Kept format ((num : ℚ) / den) (roundHalfEven (num * 2 ^ (-last).toNat) (den * 2 ^ last.toNat)) last := by
  have divisor : (0 : ℚ) < den := Nat.cast_pos.mpr denominator
  have quotient : (0 : ℚ) < num / den := div_pos (Nat.cast_pos.mpr numerator) divisor
  have unit : (0 : ℚ) < 2 ^ last := by positivity
  have low := Int.zpow_log_le_self Nat.one_lt_two quotient
  have high := Int.lt_zpow_succ_log_self Nat.one_lt_two ((num : ℚ) / den)
  rw [floor_log_eq numerator denominator] at given
  have scaled : ((num * 2 ^ (-last).toNat : Nat) : ℚ) / (den * 2 ^ last.toNat : Nat) = num / den / 2 ^ last := by
    rw [Nat.cast_mul, Nat.cast_mul, Nat.cast_pow, Nat.cast_pow, Nat.cast_ofNat, ← two_power_split last, div_div,
      ← mul_assoc, mul_div_mul_right _ _ (by positivity)]
  have bottom : 0 < den * 2 ^ last.toNat := by positivity
  obtain ⟨near, tie⟩ := round_half_even_near (num * 2 ^ (-last).toNat) bottom
  rw [scaled] at near tie
  refine ⟨near, tie, by omega, ?_, ?_⟩
  · rw [div_lt_iff₀ unit, ← zpow_natCast, ← zpow_add₀ two_ne_zero]
    exact high.trans_le (zpow_le_zpow_right₀ one_le_two (by omega))
  · by_cases subnormal : last = format.least
    · exact .inl subnormal
    · right
      have positive := format.precision_split
      rw [le_div_iff₀ unit, ← zpow_natCast, ← zpow_add₀ two_ne_zero]
      refine le_trans (zpow_le_zpow_right₀ one_le_two ?_) low
      omega

namespace Kept

variable {a : ℚ} {kept : Nat} {last : Int} (rounded : Kept format a kept last)

include rounded

theorem at_most : kept ≤ 2 ^ format.precision := by
  have close := (abs_le.mp rounded.near).1
  have fits := rounded.fits
  have : (kept : ℚ) < (2 ^ format.precision + 1 : Nat) := by
    push_cast
    linarith
  exact Nat.lt_succ_iff.mp (Nat.cast_lt.mp this)

theorem at_least (leading : 2 ^ (format.precision - 1) ≤ a / 2 ^ last) : 2 ^ (format.precision - 1) ≤ kept := by
  have close := (abs_le.mp rounded.near).2
  have : ((2 ^ (format.precision - 1) : Nat) : ℚ) < (kept + 1 : Nat) := by
    push_cast
    linarith
  exact Nat.lt_succ_iff.mp (Nat.cast_lt.mp this)

theorem below_last_half (short : kept ≠ 2 ^ format.precision) : a / 2 ^ last < 2 ^ format.precision - 1 / 2 := by
  have close := (abs_le.mp rounded.near).2
  have smaller : kept + 1 ≤ 2 ^ format.precision := Nat.lt_of_le_of_ne rounded.at_most short
  have cast : (kept : ℚ) + 1 ≤ 2 ^ format.precision := by exact_mod_cast smaller
  refine lt_of_le_of_ne (by linarith) fun half => ?_
  have full : (kept : ℚ) + 1 = 2 ^ format.precision := by linarith
  have odd : kept + 1 = 2 ^ format.precision := by exact_mod_cast full
  have distance : a / 2 ^ last - kept = 1 / 2 := by linarith
  have even := rounded.tie (by rw [distance, abs_of_pos one_half_pos])
  rw [← format.precision_split, pow_succ] at odd
  omega

theorem below_overflow_iff :
    a < format.overflow ↔ (if kept = 2 ^ format.precision then last + 1 else last) ≤ format.greatest := by
  have unit : (0 : ℚ) < 2 ^ last := by positivity
  have whole : a = a / 2 ^ last * 2 ^ last := (div_mul_cancel₀ a unit.ne').symm
  have top : (1 : ℚ) ≤ 2 ^ (format.precision - 1) := one_le_pow₀ one_le_two
  have double := format.precision_power
  by_cases full : kept = 2 ^ format.precision
  · have reached : 2 ^ format.precision - 1 / 2 ≤ a / 2 ^ last := by
      have close := (abs_le.mp rounded.near).1
      rw [full] at close
      push_cast at close
      linarith
    rw [if_pos full]
    constructor
    · intro below
      by_contra beyond
      refine absurd below (not_lt.mpr ?_)
      rw [whole]
      exact mul_le_mul reached (zpow_le_zpow_right₀ one_le_two (by omega)) (by positivity) (by linarith)
    · intro within
      calc a = a / 2 ^ last * 2 ^ last := whole
        _ < 2 ^ format.precision * 2 ^ last := mul_lt_mul_of_pos_right rounded.fits unit
        _ = 2 ^ (format.precision - 1) * 2 ^ (last + 1) := by
          rw [double, zpow_add_one₀ two_ne_zero]
          ring
        _ ≤ 2 ^ (format.precision - 1) * 2 ^ format.greatest :=
          mul_le_mul_of_nonneg_left (zpow_le_zpow_right₀ one_le_two within) (by positivity)
        _ ≤ format.overflow := mul_le_mul_of_nonneg_right (by linarith) (by positivity)
  · rw [if_neg full]
    constructor
    · intro below
      by_contra beyond
      have low : format.least ≤ format.greatest := by cases format <;> decide
      have leading := rounded.place.resolve_left (by omega)
      refine absurd below (not_lt.mpr ?_)
      calc format.overflow
        _ ≤ 2 ^ format.precision * 2 ^ format.greatest := mul_le_mul_of_nonneg_right (by linarith) (by positivity)
        _ = 2 ^ (format.precision - 1) * 2 ^ (format.greatest + 1) := by
          rw [double, zpow_add_one₀ two_ne_zero]
          ring
        _ ≤ a / 2 ^ last * 2 ^ last :=
          mul_le_mul leading (zpow_le_zpow_right₀ one_le_two (by omega)) (by positivity) (by linarith)
        _ = a := whole.symm
    · intro within
      calc a = a / 2 ^ last * 2 ^ last := whole
        _ < (2 ^ format.precision - 1 / 2) * 2 ^ last := mul_lt_mul_of_pos_right (rounded.below_last_half full) unit
        _ ≤ format.overflow :=
          mul_le_mul_of_nonneg_left (zpow_le_zpow_right₀ one_le_two within) (by linarith)

-- A significand that has become too long by one bit is halved, and then it is even as well.
theorem of_parts_eq (negative : Bool) :
    (a < format.overflow → ∃ significand exponent, ∃ canonical : format.Canonical significand exponent,
      (if kept = 2 ^ format.precision then ofParts negative (2 ^ (format.precision - 1)) (last + 1)
        else ofParts negative kept last) = finite negative significand exponent canonical ∧
      (significand : ℚ) * 2 ^ exponent = kept * 2 ^ last ∧ (kept % 2 = 0 → significand % 2 = 0)) ∧
    (¬ a < format.overflow →
      (if kept = 2 ^ format.precision then ofParts negative (2 ^ (format.precision - 1)) (last + 1)
        else ofParts negative kept last : Binary format) = infinite negative) := by
  rw [rounded.below_overflow_iff]
  have low := rounded.least
  by_cases full : kept = 2 ^ format.precision
  · simp only [if_pos full]
    have halved : format.Canonical (2 ^ (format.precision - 1)) (last + 1) ↔ last + 1 ≤ format.greatest := by
      constructor
      · exact fun canonical => canonical.2.2.1
      · exact fun within => ⟨Nat.pow_lt_pow_right Nat.one_lt_two (by cases format <;> decide), by omega, within,
          fun small => absurd small (Nat.lt_irrefl _)⟩
    constructor
    · intro within
      refine ⟨_, _, halved.mpr within, dif_pos (halved.mpr within), ?_, fun _ => by cases format <;> decide⟩
      rw [full, ← format.precision_split, Nat.add_sub_cancel, zpow_add_one₀ two_ne_zero]
      push_cast
      ring
    · exact fun beyond => dif_neg (mt halved.mp beyond)
  · simp only [if_neg full]
    have canonical : format.Canonical kept last ↔ last ≤ format.greatest := by
      constructor
      · exact fun canonical => canonical.2.2.1
      · refine fun within => ⟨Nat.lt_of_le_of_ne rounded.at_most full, low, within, fun small => ?_⟩
        exact rounded.place.resolve_right fun leading => absurd small (Nat.not_lt.mpr (rounded.at_least leading))
    constructor
    · exact fun within => ⟨_, _, canonical.mpr within, dif_pos (canonical.mpr within), rfl, id⟩
    · exact fun beyond => dif_neg (mt canonical.mp beyond)

theorem closest {significand : Nat} {exponent : Int} (canonical : format.Canonical significand exponent) :
    |a - kept * 2 ^ last| ≤ |a - significand * 2 ^ exponent| ∧
      (|a - significand * 2 ^ exponent| = |a - kept * 2 ^ last| →
        (significand : ℚ) * 2 ^ exponent = kept * 2 ^ last ∨ kept % 2 = 0) := by
  have unit : (0 : ℚ) < 2 ^ last := by positivity
  have scale (x : ℚ) : |a - x * 2 ^ last| = |a / 2 ^ last - x| * 2 ^ last := by
    rw [← abs_of_pos unit, ← abs_mul, abs_of_pos unit, sub_mul, div_mul_cancel₀ a unit.ne']
  have other : (significand : ℚ) * 2 ^ exponent = significand * 2 ^ (exponent - last) * 2 ^ last := by
    rw [mul_assoc, ← zpow_add₀ two_ne_zero, sub_add_cancel]
  obtain ⟨closest, equal⟩ := near_among_canonical rounded.near rounded.tie rounded.place canonical
  rw [other, scale, scale, mul_le_mul_iff_left₀ unit, mul_left_inj' unit.ne', mul_left_inj' unit.ne']
  exact ⟨closest, equal⟩

end Kept

theorem across_farther {negative other : Bool} {a b : ℚ} (across : negative ≠ other) (positive : 0 < a)
    (nonneg : 0 ≤ b) :
    |a - b| ≤ |onSide negative a - onSide other b| ∧
      (|onSide negative a - onSide other b| = |a - b| → b = 0) := by
  rw [across_distance across, abs_of_nonneg (add_nonneg positive.le nonneg)]
  rcases abs_cases (a - b) with ⟨same, -⟩ | ⟨same, -⟩
  · rw [same]
    exact ⟨by linarith, fun equal => by linarith⟩
  · rw [same]
    exact ⟨by linarith, fun equal => by linarith⟩

theorem infinite_is_nearest (negative : Bool) {a : ℚ} (beyond : format.overflow ≤ a) :
    IsNearest (onSide negative a) (infinite negative : Binary format) := by
  have positive : 0 < a := format.overflow_positive.trans_le beyond
  refine ⟨by rwa [abs_on_side, abs_of_pos positive], ?_⟩
  cases negative with
  | false => exact iff_of_false nofun positive.not_gt
  | true => exact iff_of_true rfl (neg_lt_zero.mpr positive)

theorem nearest_is_nearest (negative : Bool) {num den : Nat} (numerator : 0 < num) (denominator : 0 < den) :
    IsNearest (onSide negative ((num : ℚ) / den)) (nearest negative num den : Binary format) := by
  have positive : (0 : ℚ) < num / den := div_pos (Nat.cast_pos.mpr numerator) (Nat.cast_pos.mpr denominator)
  have magnitude : |onSide negative ((num : ℚ) / den)| = num / den := by rw [abs_on_side, abs_of_pos positive]
  have rounded : Kept format ((num : ℚ) / den) _ _ := kept_by_nearest numerator denominator rfl
  obtain ⟨within, beyond⟩ := rounded.of_parts_eq negative
  simp only [nearest, if_neg numerator.ne']
  by_cases finite : (num : ℚ) / den < format.overflow
  · obtain ⟨significand, exponent, canonical, same, value, even⟩ := within finite
    rw [same]
    refine ⟨magnitude.trans_lt finite, fun other v given => ?_⟩
    cases other with
    | nan | infinite => cases given
    | finite side s e legal =>
      obtain ⟨closest, equal⟩ := rounded.closest legal
      rw [← value] at closest equal
      obtain rfl : onSide side (s * 2 ^ e) = v := Option.some.inj given
      rw [on_side_distance]
      by_cases across : negative = side
      · subst across
        rw [on_side_distance]
        exact ⟨closest, fun tie => (equal tie).imp (congrArg (onSide negative)) even⟩
      · obtain ⟨farther, zero⟩ := across_farther across positive (b := s * 2 ^ e) (by positivity)
        refine ⟨closest.trans farther, fun tie => ?_⟩
        have level := le_antisymm (farther.trans_eq tie) closest
        refine (equal level).imp (fun found => ?_) even
        have nothing := zero (tie.trans level.symm)
        rw [← found, nothing]
        cases negative <;> cases side <;> simp [onSide]
  · rw [beyond finite]
    exact infinite_is_nearest negative (not_lt.mp finite)

theorem zero_is_nearest (negative : Bool) {q : ℚ} (tiny : |q| < 2 ^ (format.least - 1)) :
    IsNearest q (zero negative : Binary format) := by
  have unit : (2 : ℚ) ^ format.least = 2 * 2 ^ (format.least - 1) := by
    rw [mul_comm, ← zpow_add_one₀ two_ne_zero, sub_add_cancel]
  have nothing : onSide negative (((0 : Nat) : ℚ) * 2 ^ format.least) = 0 := by
    cases negative <;> simp [onSide]
  have within : (2 : ℚ) ^ (format.least - 1) ≤ format.overflow := by
    have top : (1 : ℚ) ≤ 2 ^ format.precision - 1 / 2 := by
      have : (2 : ℚ) ≤ 2 ^ format.precision := le_self_pow₀ one_le_two (by cases format <;> decide)
      linarith
    calc (2 : ℚ) ^ (format.least - 1)
      _ ≤ 2 ^ format.greatest := zpow_le_zpow_right₀ one_le_two (by cases format <;> decide)
      _ ≤ format.overflow := le_mul_of_one_le_left (by positivity) top
  refine ⟨tiny.trans_le within, fun other v given => ?_⟩
  rw [nothing, sub_zero]
  cases other with
  | nan | infinite => cases given
  | finite side significand exponent canonical =>
    obtain rfl : onSide side (significand * 2 ^ exponent) = v := Option.some.inj given
    refine ⟨?_, fun _ => .inr rfl⟩
    by_cases none : significand = 0
    · rw [none, Nat.cast_zero, zero_mul]
      cases side <;> simp [onSide]
    · have one : (1 : ℚ) ≤ significand := by exact_mod_cast Nat.one_le_iff_ne_zero.mpr none
      have least : (2 : ℚ) ^ format.least ≤ significand * 2 ^ exponent :=
        (zpow_le_zpow_right₀ one_le_two canonical.2.1).trans (le_mul_of_one_le_left (by positivity) one)
      have size : |onSide side ((significand : ℚ) * 2 ^ exponent)| = significand * 2 ^ exponent := by
        rw [abs_on_side, abs_of_nonneg (by positivity)]
      have apart := abs_sub_abs_le_abs_sub (onSide side ((significand : ℚ) * 2 ^ exponent)) q
      rw [abs_sub_comm, size] at apart
      linarith

theorem digit_count_bounds {n : Nat} (positive : 0 < n) : 10 ^ (digitCount n - 1) ≤ n ∧ n < 10 ^ digitCount n := by
  have written : 0 < digitCount n := Nat.length_toDigits_pos
  refine ⟨?_, (Nat.length_toDigits_le_iff (by decide) written).mp le_rfl⟩
  by_cases single : digitCount n - 1 = 0
  · rw [single, pow_zero]
    exact positive
  · by_contra less
    have shorter := (Nat.length_toDigits_le_iff (by decide) (Nat.pos_of_ne_zero single)).mpr (Nat.not_le.mp less)
    change digitCount n ≤ digitCount n - 1 at shorter
    omega

theorem two_power_below_ten_power : (2 : ℚ) ^ (1200 : Int) ≤ 10 ^ (400 : Int) := by
  have cube : (2 : ℚ) ^ (1200 : Int) = (2 ^ (3 : Int)) ^ (400 : Int) := by rw [← zpow_mul]; rfl
  rw [cube]
  exact zpow_le_zpow_left₀ (by norm_num) (by norm_num) (by norm_num)

theorem overflow_below_ten_power : format.overflow ≤ 10 ^ (400 : Int) :=
  calc format.overflow
    _ ≤ 2 ^ format.precision * 2 ^ format.greatest :=
      mul_le_mul_of_nonneg_right (sub_le_self _ one_half_pos.le) (by positivity)
    _ = 2 ^ ((format.precision : Int) + format.greatest) := by rw [zpow_add₀ two_ne_zero, zpow_natCast]
    _ ≤ 2 ^ (1200 : Int) := zpow_le_zpow_right₀ one_le_two (by cases format <;> decide)
    _ ≤ 10 ^ (400 : Int) := two_power_below_ten_power

theorem ten_power_below_least : (10 : ℚ) ^ (-400 : Int) ≤ 2 ^ (format.least - 1) :=
  calc (10 : ℚ) ^ (-400 : Int)
    _ = (10 ^ (400 : Int))⁻¹ := zpow_neg 10 400
    _ ≤ (2 ^ (1200 : Int))⁻¹ := inv_anti₀ (by positivity) two_power_below_ten_power
    _ = 2 ^ (-1200 : Int) := (zpow_neg 2 1200).symm
    _ ≤ 2 ^ (format.least - 1) := zpow_le_zpow_right₀ one_le_two (by cases format <;> decide)

theorem ten_power_split (k : Int) : (10 : ℚ) ^ k * 10 ^ (-k).toNat = 10 ^ k.toNat := by
  rw [← zpow_natCast, ← zpow_natCast, ← zpow_add₀ (by norm_num)]
  congr 1
  omega

theorem nearest_decimal_is_nearest (negative : Bool) (digits : Nat) (exponent : Int) :
    IsNearest (onSide negative (digits * 10 ^ exponent)) (nearestDecimal negative digits exponent : Binary format) := by
  rw [nearestDecimal]
  by_cases zero : digits = 0
  · rw [if_pos zero, zero]
    exact zero_is_nearest negative (by rw [Nat.cast_zero, zero_mul, abs_on_side, abs_zero]; positivity)
  · have positive : 0 < digits := Nat.pos_of_ne_zero zero
    have magnitude : |onSide negative ((digits : ℚ) * 10 ^ exponent)| = digits * 10 ^ exponent := by
      rw [abs_on_side, abs_of_nonneg (by positivity)]
    obtain ⟨low, high⟩ := digit_count_bounds positive
    have written : 0 < digitCount digits := Nat.length_toDigits_pos
    generalize digitCount digits = count at *
    rw [if_neg zero]
    by_cases large : 400 < (count : Int) + exponent
    · have beyond : format.overflow ≤ digits * 10 ^ exponent :=
        calc format.overflow
          _ ≤ 10 ^ (400 : Int) := overflow_below_ten_power
          _ ≤ 10 ^ (((count - 1 : Nat) : Int) + exponent) := zpow_le_zpow_right₀ (by norm_num) (by omega)
          _ = (10 ^ (count - 1) : Nat) * 10 ^ exponent := by rw [zpow_add₀ (by norm_num), zpow_natCast]; norm_cast
          _ ≤ digits * 10 ^ exponent := mul_le_mul_of_nonneg_right (Nat.cast_le.mpr low) (by positivity)
      rw [if_pos large]
      exact infinite_is_nearest negative beyond
    · rw [if_neg large]
      by_cases small : (count : Int) + exponent < -400
      · have tiny : (digits : ℚ) * 10 ^ exponent < 2 ^ (format.least - 1) :=
          calc (digits : ℚ) * 10 ^ exponent
            _ < (10 ^ count : Nat) * 10 ^ exponent := mul_lt_mul_of_pos_right (Nat.cast_lt.mpr high) (by positivity)
            _ = 10 ^ ((count : Int) + exponent) := by rw [zpow_add₀ (by norm_num), zpow_natCast]; norm_cast
            _ ≤ 10 ^ (-400 : Int) := zpow_le_zpow_right₀ (by norm_num) (by omega)
            _ ≤ 2 ^ (format.least - 1) := ten_power_below_least
        rw [if_pos small]
        exact zero_is_nearest negative (magnitude.trans_lt tiny)
      · have split : ((digits * 10 ^ exponent.toNat : Nat) : ℚ) / (10 ^ (-exponent).toNat : Nat) =
            digits * 10 ^ exponent := by
          rw [div_eq_iff (by positivity), mul_assoc]
          push_cast
          rw [ten_power_split]
        rw [if_neg small, ← split]
        exact nearest_is_nearest negative (by positivity) (by positivity)

end Binary

end Recast
