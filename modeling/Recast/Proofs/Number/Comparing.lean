import Recast.Proofs.Number.Arithmetic
set_option autoImplicit false

namespace Recast

theorem on_side_cast (negative : Bool) (n : Int) :
    ((if negative then -n else n : Int) : ℚ) = onSide negative n := by
  cases negative with
  | false => rfl
  | true => exact Int.cast_neg n

namespace Binary

variable {format : Format}

theorem is_finite_iff {x : Binary format} : x.isFinite = true ↔ ∃ q, x.value? = some q := by
  cases x with
  | finite negative significand exponent canonical => exact iff_of_true rfl ⟨_, rfl⟩
  | nan | infinite => exact iff_of_false nofun nofun

theorem trunc_value {x : Binary format} {q : ℚ} (given : x.value? = some q) :
    x.trunc.value? = some (towardZero q : ℚ) := by
  cases x with
  | nan | infinite => cases given
  | finite negative significand exponent canonical =>
    obtain rfl : onSide negative (significand * 2 ^ exponent) = q := Option.some.inj given
    have nonneg : (0 : ℚ) ≤ significand * 2 ^ exponent := by positivity
    obtain ⟨y, number⟩ : ∃ y : Binary format, y.value? = some (⌊(significand : ℚ) * 2 ^ exponent⌋ : ℚ) :=
      floor_is_number (x := finite false significand exponent canonical) rfl nonneg
    rw [toward_zero_on_side negative nonneg, on_side_cast, trunc]
    rw [floor_scaled, Int.cast_natCast] at number ⊢
    generalize significand * 2 ^ exponent.toNat / 2 ^ (-exponent).toNat = whole at *
    by_cases zero : whole = 0
    · subst zero
      rw [nearest, if_pos rfl, zero_value, Nat.cast_zero, onSide, neg_zero, ite_self]
    · have rounded : IsNearest (onSide negative ((whole : ℚ) / (1 : Nat))) (nearest negative whole 1 : Binary format) :=
        nearest_is_nearest negative (Nat.pos_of_ne_zero zero) Nat.one_pos
      rw [Nat.cast_one, div_one] at rounded
      cases negative with
      | false => exact rounded.exact number
      | true => exact rounded.exact (value_neg number)

theorem truncate_trunc (x : Binary format) : x.trunc.truncate? = x.truncate? := by
  rw [truncate_eq, truncate_eq]
  cases given : x.value? with
  | none =>
    cases x with
    | nan | infinite => rfl
    | finite => cases given
  | some q => rw [trunc_value given, Option.map_some, Option.map_some, toward_zero_int]

theorem compare_scaled {i j : Int} {unit : ℚ} (positive : 0 < unit) :
    compare i j = compare ((i : ℚ) * unit) (j * unit) := by
  rcases lt_trichotomy i j with less | rfl | more
  · have scaled : (i : ℚ) * unit < j * unit := mul_lt_mul_of_pos_right (Int.cast_lt.mpr less) positive
    rw [compare_lt_iff_lt.mpr less, compare_lt_iff_lt.mpr scaled]
  · rw [compare_eq_iff_eq.mpr rfl, compare_eq_iff_eq.mpr rfl]
  · have scaled : (j : ℚ) * unit < i * unit := mul_lt_mul_of_pos_right (Int.cast_lt.mpr more) positive
    rw [compare_gt_iff_gt.mpr more, compare_gt_iff_gt.mpr scaled]

section

variable {x y : Binary format} {a b : ℚ} (first : x.value? = some a) (second : y.value? = some b)

include first second

theorem compare_value : x.compare? y = some (compare a b) := by
  cases x with
  | nan | infinite => cases first
  | finite n₁ m₁ e₁ canonical₁ =>
    cases y with
    | nan | infinite => cases second
    | finite n₂ m₂ e₂ canonical₂ =>
      obtain rfl : onSide n₁ (m₁ * 2 ^ e₁) = a := Option.some.inj first
      obtain rfl : onSide n₂ (m₂ * 2 ^ e₂) = b := Option.some.inj second
      have unit : (0 : ℚ) < 2 ^ min e₁ e₂ := by positivity
      rw [compare?, compare_scaled unit, in_units_value n₁ m₁ (min_le_left e₁ e₂),
        in_units_value n₂ m₂ (min_le_right e₁ e₂)]

theorem is_below_iff : x.isBelow y = true ↔ a < b := by
  rw [isBelow, compare_value first second, beq_iff_eq, Option.some_inj, compare_lt_iff_lt]

theorem is_at_least_iff : x.isAtLeast y = true ↔ b ≤ a := by
  rw [isAtLeast, compare_value first second, Option.any_some, bne_iff_ne, Ne, compare_lt_iff_lt, not_lt]

end

end Binary

namespace Literal

open Binary

theorem word_limit_value : wordLimit.value? = some (2 ^ 63) := limit_value false

theorem word_limit_neg_value : wordLimit.neg.value? = some (-2 ^ 63) := limit_value true

theorem saturated_within {n : Int} (low : -2 ^ 63 ≤ n) (high : n < 2 ^ 63) : Decimal.saturated n = n := by
  rw [Decimal.saturated]
  omega

theorem saturated_word_eq {x : Double} {n : Int} (whole : x.truncate? = some n) :
    saturatedWord x = Int64.ofInt (Decimal.saturated n) := by
  rw [saturatedWord, whole]

-- The cast is reached for whole parts within 64 bits only, so it never stops at the ends of their range.
theorem float_word_eq (x : Double) : floatWord? x = x.truncate?.bind Numeral.toWord? := by
  rw [floatWord?]
  cases given : x.value? with
  | none =>
    cases x with
    | nan | infinite => rfl
    | finite => cases given
  | some q =>
    have whole := trunc_value given
    have finite : x.trunc.isFinite = true := is_finite_iff.mpr ⟨_, whole⟩
    have cut : x.trunc.truncate? = some (towardZero q) := by rw [truncate_trunc, truncate_eq, given, Option.map_some]
    have above : x.trunc.isAtLeast wordLimit = true ↔ 2 ^ 63 ≤ towardZero q := by
      rw [is_at_least_iff whole word_limit_value]
      exact_mod_cast Iff.rfl
    have below : x.trunc.isBelow wordLimit.neg = true ↔ towardZero q < -2 ^ 63 := by
      rw [is_below_iff whole word_limit_neg_value]
      exact_mod_cast Iff.rfl
    rw [← truncate_trunc, cut, Option.bind_some]
    simp only [finite, Bool.not_true, Bool.false_or, Bool.or_eq_true, above, below]
    by_cases outside : 2 ^ 63 ≤ towardZero q ∨ towardZero q < -2 ^ 63
    · rw [if_pos outside, to_word_none outside.symm]
    · obtain ⟨high, low⟩ := not_or.mp outside
      rw [if_neg outside, saturated_word_eq cut, saturated_within (not_lt.mp low) (not_le.mp high),
        to_word_some (not_lt.mp low) (not_le.mp high)]

end Literal

end Recast
