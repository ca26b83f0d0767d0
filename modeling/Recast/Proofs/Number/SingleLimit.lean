import Recast.Proofs.Number.DecimalFloat
set_option autoImplicit false

/-!
The range of the narrower format, seen through the doubles. A number becomes a double before it is tested, so the limit
is not the greatest number of the narrower format: it is where doubles stop being rounded down to that number.
-/

namespace Recast

def Format.singleTop : ℚ := (2 ^ 24 - 1) * 2 ^ 104

def Format.singleLimit : ℚ := singleTop + 2 ^ 74

namespace Binary

variable {q v : ℚ} {x : Double}

theorem exceeds_single_iff (given : x.value? = some v) : x.exceeds .single = true ↔ Format.singleTop < |v| := by
  cases x with
  | nan | infinite => cases given
  | finite negative significand exponent canonical =>
    rw [exceeds_iff, magnitude_scaled (Option.some.inj given), Format.singleTop, Format.precision, Format.greatest]
    norm_num

theorem to_single_finite (given : x.value? = some v) (within : |v| ≤ Format.singleTop) :
    ((x.toFormat .single).toFormat .double).isFinite = true := by
  cases x with
  | nan | infinite => cases given
  | finite negative significand exponent canonical =>
    obtain rfl : onSide negative (significand * 2 ^ exponent) = v := Option.some.inj given
    have nearest : IsNearest _ (nearestScaled negative significand exponent : Single) :=
      nearest_scaled_is_nearest negative significand exponent
    have below : Format.singleTop < Format.single.overflow := by
      rw [Format.singleTop, Format.overflow, Format.precision, Format.greatest]
      norm_num
    obtain ⟨w, number⟩ := nearest.has_value (within.trans_lt below)
    rw [toFormat]
    generalize (nearestScaled negative significand exponent : Single) = y at *
    cases y with
    | nan | infinite => cases number
    | finite side narrow place legal =>
      obtain ⟨wider, last, wide, same, -⟩ := widened_finite side legal
      rw [same]
      rfl

-- A double that tells of a number, up to this part of the two limits, on which side of them it is: whether there are
-- doubles for it, and whether those are beyond the greatest number of the narrower format.
structure Shows (slack q : ℚ) (x : Double) : Prop where
  finite : |q| < Format.double.overflow * (1 - slack) → ∃ v, x.value? = some v
  within : |q| ≤ Format.singleLimit * (1 - slack) → ∃ v, x.value? = some v ∧ |v| ≤ Format.singleTop
  beyond : Format.singleLimit * (1 + slack) < |q| → ∀ v, x.value? = some v → Format.singleTop < |v|
  infinite : Format.double.overflow * (1 + slack) ≤ |q| → x.value? = none
  side : x.value? = none → x = .infinite (decide (q < 0))

theorem IsNearest.within_single_iff (nearest : IsNearest q x) (given : x.value? = some v) :
    |v| ≤ Format.singleTop ↔ |q| ≤ Format.singleLimit := by
  have even : Format.double.Canonical (2 ^ 53 - 2 ^ 29) 75 := by decide
  have odd : Format.double.Canonical (2 ^ 53 - 2 ^ 29 + 1) 75 := by decide
  have within := nearest.within_iff given (by decide) (by decide) even odd
  rw [Format.singleLimit, Format.singleTop]
  norm_num at within ⊢
  exact within

theorem overflow_great : (2 : ℚ) ^ 200 ≤ Format.double.overflow := by
  have units : (2 : ℚ) ^ (200 : Int) ≤ 2 ^ Format.double.greatest := zpow_le_zpow_right₀ one_le_two (by decide)
  have digits : (1 : ℚ) ≤ 2 ^ 53 - 1 / 2 := by norm_num
  calc (2 : ℚ) ^ 200
    _ = 1 * 2 ^ (200 : Int) := by rw [one_mul]; rfl
    _ ≤ Format.double.overflow := mul_le_mul digits units (by positivity) (zero_le_one.trans digits)

theorem limit_below_overflow : Format.singleLimit < Format.double.overflow := by
  refine lt_of_lt_of_le ?_ overflow_great
  rw [Format.singleLimit, Format.singleTop]
  norm_num

theorem infinite_on_side {negative : Bool} (side : negative = true ↔ q < 0) :
    (infinite negative : Double) = .infinite (decide (q < 0)) := by
  rw [Bool.eq_iff_iff.mpr (side.trans decide_eq_true_iff.symm)]

theorem IsNearest.shows (nearest : IsNearest q x) : Shows 0 q x := by
  refine ⟨fun below => ?_, fun near => ?_, fun far v given => ?_, fun beyond => ?_, fun none => ?_⟩
  · rw [sub_zero, mul_one] at below
    exact nearest.has_value below
  · rw [sub_zero, mul_one] at near
    obtain ⟨v, given⟩ := nearest.has_value (near.trans_lt limit_below_overflow)
    exact ⟨v, given, (nearest.within_single_iff given).mpr near⟩
  · rw [add_zero, mul_one] at far
    exact not_le.mp (mt (nearest.within_single_iff given).mp far.not_ge)
  · rw [add_zero, mul_one] at beyond
    cases x with
    | nan | infinite => rfl
    | finite => exact absurd nearest.1 beyond.not_gt
  · cases x with
    | nan => exact nearest.elim
    | infinite negative => exact infinite_on_side nearest.2
    | finite => cases none

theorem IsClose.shows (close : IsClose q x) : Shows (1 / 2 ^ 40) q x := by
  have great := overflow_great
  have limit := limit_below_overflow
  cases x with
  | nan => exact close.elim
  | infinite negative =>
    obtain ⟨beyond, side⟩ := close
    refine ⟨fun below => ?_, fun near => ?_, fun _ _ given => (by cases given), fun _ => rfl,
      fun _ => infinite_on_side side⟩
    · linarith
    · linarith
  | finite negative significand exponent canonical =>
    obtain ⟨low, high⟩ := close
    have bound := value_below_overflow (x := finite negative significand exponent canonical) rfl
    have size : |onSide negative ((significand : ℚ) * 2 ^ exponent)| = significand * 2 ^ exponent := by
      rw [abs_on_side, abs_of_nonneg (by positivity)]
    rw [size] at bound
    refine ⟨fun _ => ⟨_, rfl⟩, fun near => ⟨_, rfl, ?_⟩, fun far v given => ?_, fun beyond => ?_, fun none => (by cases none)⟩
    · rw [size]
      rw [Format.singleLimit, Format.singleTop] at *
      linarith
    · rw [← Option.some.inj given, size]
      rw [Format.singleLimit, Format.singleTop] at *
      linarith
    · linarith

theorem nearest_of_value (given : x.value? = some q) : IsNearest q x := by
  have within := value_below_overflow given
  cases x with
  | nan | infinite => cases given
  | finite negative significand exponent canonical =>
    have same : onSide negative ((significand : ℚ) * 2 ^ exponent) = q := Option.some.inj given
    rw [IsNearest, same, sub_self, abs_zero]
    exact ⟨within, fun other v _ => ⟨abs_nonneg _, fun equal => .inl (sub_eq_zero.mp (abs_eq_zero.mp equal)).symm⟩⟩

end Binary

end Recast
