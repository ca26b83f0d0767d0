import Recast.Proofs.Number.Whole
set_option autoImplicit false

namespace Recast

theorem on_side_mul (first second : Bool) (a b : ℚ) :
    onSide first a * onSide second b = onSide (first != second) (a * b) := by
  cases first <;> cases second <;> simp [onSide]

namespace Binary

variable {format : Format}

theorem nearest_scaled_is_nearest (negative : Bool) (significand : Nat) (exponent : Int) :
    IsNearest (onSide negative (significand * 2 ^ exponent))
      (nearestScaled negative significand exponent : Binary format) := by
  by_cases zero : significand = 0
  · rw [zero, nearestScaled, Nat.zero_mul, nearest, if_pos rfl]
    exact zero_is_nearest negative (by rw [Nat.cast_zero, zero_mul, abs_on_side, abs_zero]; positivity)
  · have positive : 0 < significand := Nat.pos_of_ne_zero zero
    have split : ((significand * 2 ^ exponent.toNat : Nat) : ℚ) / (2 ^ (-exponent).toNat : Nat) =
        significand * 2 ^ exponent := by
      rw [div_eq_iff (by positivity), mul_assoc]
      push_cast
      rw [two_power_split]
    rw [← split]
    exact nearest_is_nearest negative (by positivity) (by positivity)

theorem in_units_value (negative : Bool) (significand : Nat) {exponent unit : Int} (low : unit ≤ exponent) :
    (inUnits negative significand exponent unit : ℚ) * 2 ^ unit = onSide negative (significand * 2 ^ exponent) := by
  have moved : ((significand * 2 ^ (exponent - unit).toNat : Nat) : ℚ) * 2 ^ unit = significand * 2 ^ exponent := by
    rw [Nat.cast_mul, Nat.cast_pow, Nat.cast_ofNat, ← zpow_natCast, Int.toNat_of_nonneg (by omega), mul_assoc,
      ← zpow_add₀ two_ne_zero, sub_add_cancel]
  rw [← moved, inUnits]
  cases negative <;> simp [onSide]

theorem on_side_of_int (n : Int) (unit : ℚ) : onSide (decide (n < 0)) (n.natAbs * unit) = n * unit := by
  rw [Nat.cast_natAbs]
  by_cases negative : n < 0
  · rw [decide_eq_true negative, onSide, if_pos rfl, abs_of_neg negative, Int.cast_neg, neg_mul, neg_neg]
  · rw [decide_eq_false negative, onSide, if_neg Bool.false_ne_true, abs_of_nonneg (not_lt.mp negative)]

theorem of_int_is_nearest (n : Int) : IsNearest (n : ℚ) (ofInt n : Binary format) := by
  by_cases zero : n = 0
  · subst zero
    exact zero_is_nearest false (by rw [Int.cast_zero, abs_zero]; positivity)
  · have magnitude : onSide (decide (n < 0)) ((n.natAbs : ℚ) / (1 : Nat)) = n := by
      rw [div_eq_mul_inv, on_side_of_int, Nat.cast_one, inv_one, mul_one]
    rw [← magnitude]
    exact nearest_is_nearest _ (Int.natAbs_pos.mpr zero) Nat.one_pos

section

variable {x y : Binary format} {a b : ℚ} (first : x.value? = some a) (second : y.value? = some b)

include first second

theorem mul_is_nearest : IsNearest (a * b) (x.mul y) := by
  cases x with
  | nan | infinite => cases first
  | finite n₁ m₁ e₁ canonical₁ =>
    cases y with
    | nan | infinite => cases second
    | finite n₂ m₂ e₂ canonical₂ =>
      obtain rfl : onSide n₁ (m₁ * 2 ^ e₁) = a := Option.some.inj first
      obtain rfl : onSide n₂ (m₂ * 2 ^ e₂) = b := Option.some.inj second
      have product : onSide n₁ ((m₁ : ℚ) * 2 ^ e₁) * onSide n₂ (m₂ * 2 ^ e₂) =
          onSide (n₁ != n₂) ((m₁ * m₂ : Nat) * 2 ^ (e₁ + e₂)) := by
        rw [on_side_mul, zpow_add₀ two_ne_zero, Nat.cast_mul, mul_mul_mul_comm]
      rw [product]
      exact nearest_scaled_is_nearest ..

theorem add_is_nearest : IsNearest (a + b) (x.add y) := by
  cases x with
  | nan | infinite => cases first
  | finite n₁ m₁ e₁ canonical₁ =>
    cases y with
    | nan | infinite => cases second
    | finite n₂ m₂ e₂ canonical₂ =>
      obtain rfl : onSide n₁ (m₁ * 2 ^ e₁) = a := Option.some.inj first
      obtain rfl : onSide n₂ (m₂ * 2 ^ e₂) = b := Option.some.inj second
      rw [← in_units_value n₁ m₁ (min_le_left e₁ e₂), ← in_units_value n₂ m₂ (min_le_right e₁ e₂), ← add_mul,
        ← Int.cast_add]
      simp only [add]
      generalize inUnits n₁ m₁ e₁ (min e₁ e₂) + inUnits n₂ m₂ e₂ (min e₁ e₂) = sum
      by_cases zero : sum = 0
      · rw [if_pos zero, zero, Int.cast_zero, zero_mul]
        exact zero_is_nearest _ (by rw [abs_zero]; positivity)
      · rw [if_neg zero, ← on_side_of_int]
        exact nearest_scaled_is_nearest ..

end

theorem zero_value (negative : Bool) : (zero negative : Binary format).value? = some 0 := by
  rw [zero, value?, Nat.cast_zero, zero_mul, onSide, neg_zero, ite_self]

theorem integer_is_number {n : Int} (short : n.natAbs < 2 ^ format.precision) :
    ∃ x : Binary format, x.value? = some (n : ℚ) := by
  obtain ⟨x, number⟩ : ∃ x : Binary format, _ := scaled_is_number short (Nat.zero_le 100)
  rw [Nat.cast_zero, neg_zero, zpow_zero, mul_one] at number
  obtain ⟨m, rfl | rfl⟩ := Int.eq_nat_or_neg n
  · rw [Int.natAbs_natCast] at number
    exact ⟨x, number⟩
  · rw [Int.natAbs_neg, Int.natAbs_natCast] at number
    refine ⟨x.neg, (value_neg number).trans ?_⟩
    rw [Int.cast_neg, Int.cast_natCast]

def IsAtMost (b : ℚ) : Binary format → Prop
  | .nan => False
  | .infinite negative => negative = true
  | .finite negative significand exponent _ => onSide negative (significand * 2 ^ exponent) ≤ b

namespace IsNearest

variable {q b : ℚ} {x y : Binary format} (nearest : IsNearest q x)

include nearest

theorem exact (number : y.value? = some q) : x.value? = some q := by
  obtain ⟨v, given⟩ := nearest.has_value (value_below_overflow number)
  have close := closest nearest given number
  rw [sub_self, abs_zero, abs_nonpos_iff, sub_eq_zero] at close
  rw [given, close]

theorem is_at_most (number : y.value? = some b) (reached : q ≤ b) : x.IsAtMost b := by
  cases x with
  | nan => exact nearest
  | infinite negative =>
    have below := value_below_overflow number
    have beyond := nearest.1
    rw [IsAtMost, nearest.2]
    by_contra nonneg
    rw [abs_of_nonneg (not_lt.mp nonneg)] at beyond
    exact absurd (le_abs_self b) (by linarith)
  | finite negative significand exponent canonical => exact at_most nearest rfl number reached

theorem is_below_zero (clear : q < -2 ^ (format.least - 1)) :
    ∃ (z : Binary format) (b : ℚ), z.value? = some b ∧ b < 0 ∧ x.IsAtMost b := by
  have canonical : format.Canonical 1 format.least := by cases format <;> decide
  have least : (finite true 1 format.least canonical).value? = some (-2 ^ format.least) := by
    simp [value?, onSide]
  have halves : (2 : ℚ) ^ format.least = 2 * 2 ^ (format.least - 1) := by
    rw [mul_comm, ← zpow_add_one₀ two_ne_zero, sub_add_cancel]
  have unit : (0 : ℚ) < 2 ^ (format.least - 1) := by positivity
  cases x with
  | nan => exact nearest.elim
  | infinite negative => exact ⟨_, _, least, by linarith, nearest.2.mpr (by linarith)⟩
  | finite negative significand exponent legal =>
    refine ⟨finite negative significand exponent legal, _, rfl, ?_, le_refl (onSide _ _)⟩
    have close := closest nearest rfl least
    by_contra nonneg
    rw [abs_of_nonpos (a := q - onSide _ _) (by linarith)] at close
    rcases abs_cases (q - -2 ^ format.least) with ⟨same, -⟩ | ⟨same, -⟩
    · rw [same] at close
      linarith
    · rw [same] at close
      linarith

end IsNearest

namespace IsAtMost

variable {x y z : Binary format} {a b c u : ℚ}

theorem of_value (given : x.value? = some a) (reached : a ≤ b) : x.IsAtMost b := by
  cases x with
  | nan | infinite => cases given
  | finite negative significand exponent canonical => exact (Option.some.inj given).trans_le reached

theorem add (first : x.IsAtMost a) (second : y.IsAtMost b) (number : z.value? = some c) (reached : a + b ≤ c) :
    (x.add y).IsAtMost c := by
  cases x with
  | nan => exact first.elim
  | infinite negative =>
    obtain rfl : negative = true := first
    cases y with
    | nan => exact second.elim
    | infinite negative =>
      obtain rfl : negative = true := second
      rfl
    | finite negative significand exponent canonical => rfl
  | finite n₁ m₁ e₁ canonical₁ =>
    cases y with
    | nan => exact second.elim
    | infinite negative => exact second
    | finite n₂ m₂ e₂ canonical₂ =>
      exact (add_is_nearest rfl rfl).is_at_most number ((add_le_add first second).trans reached)

theorem mul (low : x.IsAtMost b) (number : z.value? = some b) (nonpos : b ≤ 0) (unit : y.value? = some u)
    (one : 1 ≤ u) : (x.mul y).IsAtMost b := by
  cases x with
  | nan => exact low.elim
  | infinite negative =>
    obtain rfl : negative = true := low
    cases y with
    | nan | infinite => cases unit
    | finite side significand exponent canonical =>
      obtain rfl : onSide side (significand * 2 ^ exponent) = u := Option.some.inj unit
      have nonneg : (0 : ℚ) ≤ significand * 2 ^ exponent := by positivity
      cases side with
      | true =>
        rw [onSide, if_pos rfl] at one
        linarith
      | false =>
        cases significand with
        | zero =>
          rw [Nat.cast_zero, zero_mul, onSide, if_neg Bool.false_ne_true] at one
          linarith
        | succ m => rfl
  | finite negative significand exponent canonical =>
    refine (mul_is_nearest rfl unit).is_at_most number (le_trans ?_ low)
    exact mul_le_of_one_le_right (low.trans nonpos) one

end IsAtMost

end Binary

end Recast
