import Recast.Proofs.Number.Arithmetic
set_option autoImplicit false

/-!
How far roundings that follow one another lead away from the exact number: each adds or takes at most the part that half
of the last bit is of the leading one. A power is squared and multiplied together, with such a rounding in every product.
-/

namespace Recast

theorem on_side_negative_iff (negative : Bool) {a : ℚ} (positive : 0 < a) :
    onSide negative a < 0 ↔ negative = true := by
  cases negative with
  | false => exact iff_of_false positive.not_gt nofun
  | true => exact iff_of_true (neg_lt_zero.mpr positive) rfl

def Format.roundoff (format : Format) : ℚ := 1 / 2 ^ format.precision

theorem Format.roundoff_bounds (format : Format) : 0 < format.roundoff ∧ format.roundoff < 1 := by
  refine ⟨by rw [roundoff]; positivity, ?_⟩
  rw [roundoff, div_lt_one (by positivity)]
  exact one_lt_pow₀ one_lt_two (by cases format <;> decide)

namespace Binary

variable {format : Format}

theorem IsNearest.relative {q v : ℚ} {x : Binary format} (nearest : IsNearest q x) (given : x.value? = some v)
    (leading : 2 ^ (format.least + (format.precision - 1 : Nat)) ≤ |q|) : |q - v| ≤ |q| * format.roundoff := by
  have positive : 0 < |q| := lt_of_lt_of_le (by positivity) leading
  have within : |q| < format.overflow := by
    cases x with
    | nan | infinite => cases given
    | finite => exact nearest.1
  have fraction : ((|q|.num.natAbs : Nat) : ℚ) / |q|.den = |q| := by
    rw [Nat.cast_natAbs, abs_of_pos (Rat.num_pos.mpr positive), Rat.num_div_den]
  have numerator : 0 < |q|.num.natAbs := Int.natAbs_pos.mpr (Rat.num_ne_zero.mpr positive.ne')
  have rounded : Kept format _ _ _ := kept_by_nearest numerator |q|.den_pos rfl
  rw [fraction] at rounded
  generalize max (floorLog2 |q|.num.natAbs |q|.den - ((format.precision : Int) - 1)) format.least = last at rounded
  generalize roundHalfEven _ _ = kept at rounded
  obtain ⟨significand, exponent, canonical, -, value, -⟩ := (rounded.of_parts_eq (decide (q < 0))).1 within
  have unit : (0 : ℚ) < 2 ^ last := by positivity
  have large : 2 ^ (format.precision - 1) ≤ |q| / 2 ^ last := by
    rcases rounded.place with least | large
    · rwa [le_div_iff₀ unit, least, ← zpow_natCast, ← zpow_add₀ two_ne_zero, add_comm]
    · exact large
  have close := nearest.closest given (y := finite (decide (q < 0)) significand exponent canonical) rfl
  rw [value] at close
  calc |q - v|
    _ ≤ |onSide (decide (q < 0)) |q| - onSide (decide (q < 0)) (kept * 2 ^ last)| := by rwa [on_side_abs]
    _ = |(|q| / 2 ^ last - kept) * 2 ^ last| := by rw [on_side_distance, sub_mul, div_mul_cancel₀ _ unit.ne']
    _ ≤ 1 / 2 * 2 ^ last := by
      rw [abs_mul, abs_of_pos unit]
      exact mul_le_mul_of_nonneg_right rounded.near unit.le
    _ ≤ |q| * format.roundoff := by
      rw [le_div_iff₀ unit] at large
      rw [Format.roundoff, mul_one_div, le_div_iff₀ (by positivity), format.precision_power]
      linarith

theorem one_is_number (negative : Bool) : ∃ x : Binary format, x.value? = some (onSide negative 1) := by
  obtain ⟨x, number⟩ : ∃ x : Binary format, _ := integer_is_number (n := 1) (by cases format <;> decide)
  rw [Int.cast_one] at number
  cases negative with
  | false => exact ⟨x, number⟩
  | true => exact ⟨x.neg, value_neg number⟩

-- What so many roundings one after another make of a number from one on. An infinity among them stays.
def Tracks (negative : Bool) (a : ℚ) (roundings : Nat) : Binary format → Prop
  | .nan => False
  | .infinite side => side = negative ∧ format.overflow ≤ a * (1 + format.roundoff) ^ roundings
  | .finite side significand exponent _ =>
    side = negative ∧ 1 ≤ (significand : ℚ) * 2 ^ exponent ∧
      a * (1 - format.roundoff) ^ roundings ≤ significand * 2 ^ exponent ∧
      significand * 2 ^ exponent ≤ a * (1 + format.roundoff) ^ roundings

section

variable {negative : Bool} {a b : ℚ} {roundings : Nat} {x : Binary format}

theorem tracks_of_value (given : x.value? = some a) (one : 1 ≤ a) : Tracks false a 0 x := by
  cases x with
  | nan | infinite => cases given
  | finite side significand exponent canonical =>
    obtain rfl : onSide side (significand * 2 ^ exponent) = a := Option.some.inj given
    have nonneg : (0 : ℚ) ≤ significand * 2 ^ exponent := by positivity
    cases side with
    | false =>
      rw [onSide, if_neg Bool.false_ne_true] at one
      rw [Tracks, onSide, if_neg Bool.false_ne_true, pow_zero, pow_zero, mul_one]
      exact ⟨rfl, one, le_rfl, le_rfl⟩
    | true =>
      rw [onSide, if_pos rfl] at one
      linarith

theorem IsNearest.close_of_one_le {side : Bool} {significand : Nat} {exponent : Int}
    {canonical : format.Canonical significand exponent}
    (nearest : IsNearest (onSide negative b) (finite side significand exponent canonical)) (one : 1 ≤ b) :
    side = negative ∧ 1 ≤ (significand : ℚ) * 2 ^ exponent ∧
      |b - significand * 2 ^ exponent| ≤ b * format.roundoff := by
  have size : |onSide negative b| = b := by rw [abs_on_side, abs_of_nonneg (by linarith)]
  have leading : (2 : ℚ) ^ (format.least + (format.precision - 1 : Nat)) ≤ |onSide negative b| := by
    rw [size]
    exact (zpow_le_one_of_nonpos₀ one_le_two (by cases format <;> decide)).trans one
  have close := nearest.relative rfl leading
  obtain ⟨y, unit⟩ : ∃ y : Binary format, _ := one_is_number negative
  have least := nearest.closest rfl unit
  have nonneg : (0 : ℚ) ≤ significand * 2 ^ exponent := by positivity
  generalize (significand : ℚ) * 2 ^ exponent = c at *
  rw [size] at close
  by_cases across : negative = side
  · subst across
    rw [on_side_distance] at close least
    rw [on_side_distance, abs_of_nonneg (a := b - 1) (by linarith)] at least
    exact ⟨rfl, by linarith [le_abs_self (b - c)], close⟩
  · rw [across_distance across, abs_of_nonneg (by linarith)] at close
    have less : b * format.roundoff < b := mul_lt_of_lt_one_right (by linarith) format.roundoff_bounds.2
    linarith

theorem IsNearest.tracks (nearest : IsNearest (onSide negative b) x) (one : 1 ≤ b)
    (low : a * (1 - format.roundoff) ^ roundings ≤ b) (high : b ≤ a * (1 + format.roundoff) ^ roundings) :
    Tracks negative a (roundings + 1) x := by
  obtain ⟨positive, proper⟩ := format.roundoff_bounds
  have next (part : ℚ) : a * part ^ roundings * part = a * part ^ (roundings + 1) := by rw [pow_succ, mul_assoc]
  have lower : a * (1 - format.roundoff) ^ (roundings + 1) ≤ b * (1 - format.roundoff) := by
    rw [← next]
    exact mul_le_mul_of_nonneg_right low (by linarith)
  have upper : b * (1 + format.roundoff) ≤ a * (1 + format.roundoff) ^ (roundings + 1) := by
    rw [← next]
    exact mul_le_mul_of_nonneg_right high (by linarith)
  cases x with
  | nan => exact nearest
  | infinite side =>
    obtain ⟨beyond, sides⟩ := nearest
    rw [on_side_negative_iff negative (by linarith)] at sides
    rw [abs_on_side, abs_of_nonneg (by linarith)] at beyond
    have more : b * 1 ≤ b * (1 + format.roundoff) := mul_le_mul_of_nonneg_left (by linarith) (by linarith)
    exact ⟨Bool.eq_iff_iff.mpr sides, by linarith⟩
  | finite side significand exponent canonical =>
    obtain ⟨same, least, close⟩ := nearest.close_of_one_le one
    obtain ⟨before, after⟩ := abs_le.mp close
    exact ⟨same, least, by linarith, by linarith⟩

end

theorem mul_of_infinite {x y : Binary format}
    (beyond : x.isInfinite = true ∧ y ≠ .nan ∨ x ≠ .nan ∧ y.isInfinite = true)
    (nonzero : x.isZero = false ∧ y.isZero = false) : x.mul y = .infinite (x.isNegative != y.isNegative) := by
  have product : x.mul y = if x.isZero || y.isZero then .nan else .infinite (x.isNegative != y.isNegative) := by
    cases x with
    | nan => simp [isInfinite] at beyond
    | infinite first =>
      cases y with
      | nan => simp [isInfinite] at beyond
      | infinite second => rfl
      | finite side significand exponent canonical => rfl
    | finite side significand exponent canonical =>
      cases y with
      | nan | finite => simp [isInfinite] at beyond
      | infinite second => rfl
  rw [product, nonzero.1, nonzero.2, if_neg (by decide)]

namespace Tracks

variable {n₁ n₂ : Bool} {a b : ℚ} {j k : Nat} {x y : Binary format}

theorem not_nan (tracks : Tracks n₁ a k x) : x ≠ .nan := by
  rintro rfl
  exact tracks

theorem not_zero (tracks : Tracks n₁ a k x) : x.isZero = false := by
  cases x with
  | nan => exact tracks.elim
  | infinite side => rfl
  | finite side significand exponent canonical =>
    cases significand with
    | zero =>
      have one := tracks.2.1
      rw [Nat.cast_zero, zero_mul] at one
      exact absurd one (by norm_num)
    | succ m => rfl

theorem side_eq (tracks : Tracks n₁ a k x) : x.isNegative = n₁ := by
  cases x with
  | nan => exact tracks.elim
  | infinite side | finite side significand exponent canonical => exact tracks.1

theorem mul (first : Tracks n₁ a j x) (second : Tracks n₂ b k y) (left : 1 ≤ a) (right : 1 ≤ b) :
    Tracks (n₁ != n₂) (a * b) (j + k + 1) (x.mul y) := by
  obtain ⟨positive, proper⟩ := format.roundoff_bounds
  have more {i : Nat} (fewer : i ≤ j + k + 1) : (1 + format.roundoff) ^ i ≤ (1 + format.roundoff) ^ (j + k + 1) :=
    pow_le_pow_right₀ (by linarith) fewer
  have nonzero := And.intro first.not_zero second.not_zero
  have sides : (x.isNegative != y.isNegative) = (n₁ != n₂) := by rw [first.side_eq, second.side_eq]
  cases x with
  | nan => exact first.elim
  | infinite side =>
    rw [mul_of_infinite (.inl ⟨rfl, second.not_nan⟩) nonzero, sides]
    have factor : a ≤ a * b := le_mul_of_one_le_right (by linarith) right
    exact ⟨rfl, first.2.trans (mul_le_mul factor (more (by omega)) (by positivity) (by positivity))⟩
  | finite side₁ m₁ e₁ canonical₁ =>
    cases y with
    | nan => exact second.elim
    | infinite side =>
      rw [mul_of_infinite (.inr ⟨first.not_nan, rfl⟩) nonzero, sides]
      have factor : b ≤ a * b := le_mul_of_one_le_left (by linarith) left
      exact ⟨rfl, second.2.trans (mul_le_mul factor (more (by omega)) (by positivity) (by positivity))⟩
    | finite side₂ m₂ e₂ canonical₂ =>
      obtain ⟨rfl, one₁, low₁, high₁⟩ := first
      obtain ⟨rfl, one₂, low₂, high₂⟩ := second
      have nearest : IsNearest _ (mul (finite side₁ m₁ e₁ canonical₁) (finite side₂ m₂ e₂ canonical₂)) :=
        mul_is_nearest rfl rfl
      rw [on_side_mul] at nearest
      refine nearest.tracks (one_le_mul_of_one_le_of_one_le one₁ one₂) ?_ ?_
      · rw [pow_add, mul_mul_mul_comm]
        exact mul_le_mul low₁ low₂ (mul_nonneg (by linarith) (pow_nonneg (by linarith) _)) (by linarith)
      · rw [pow_add, mul_mul_mul_comm a]
        exact mul_le_mul high₁ high₂ (by linarith) (by positivity)

-- The squares of the base stand for its powers with exponents that double, the product for the factors taken so far.
theorem power_loop {base product : Binary format} (unit : 1 ≤ a) (fuel : Nat) {n : Nat} (enough : n < 2 ^ fuel)
    (squared : Tracks false (a ^ (j + 1)) j base) (taken : Tracks false (a ^ k) k product) :
    Tracks false (a ^ (k + (j + 1) * n)) (k + (j + 1) * n) (powerLoop fuel base n product) := by
  induction fuel generalizing base product j k n with
  | zero =>
    obtain rfl : n = 0 := by omega
    exact taken
  | succ fuel ih =>
    have step : Tracks false (a ^ (k + (j + 1) * (n % 2))) (k + (j + 1) * (n % 2))
        (if n % 2 = 1 then product.mul base else product) := by
      by_cases odd : n % 2 = 1
      · rw [if_pos odd, odd, mul_one, pow_add]
        exact taken.mul squared (one_le_pow₀ unit) (one_le_pow₀ unit)
      · obtain even : n % 2 = 0 := by omega
        rw [if_neg odd, even]
        exact taken
    rw [powerLoop]
    by_cases last : n / 2 = 0
    · have whole : n % 2 = n := by omega
      rw [if_pos last]
      simpa only [whole] using step
    · have double : Tracks false (a ^ (j + (j + 1) + 1)) (j + (j + 1)) (base.mul base) := by
        have square := squared.mul squared (one_le_pow₀ unit) (one_le_pow₀ unit)
        rwa [← pow_add, add_right_comm j, add_assoc j] at square
      have rest := ih (n := n / 2) (by rw [pow_succ] at enough; omega) double step
      have all : k + (j + 1) * (n % 2) + (j + (j + 1) + 1) * (n / 2) = k + (j + 1) * n := by
        have split := Nat.div_add_mod n 2
        generalize n / 2 = half at *
        generalize n % 2 = bit at *
        subst split
        ring
      rw [if_neg last]
      rwa [all] at rest

end Tracks

theorem power_tracks {a : ℚ} {base : Binary format} (given : base.value? = some a) (unit : 1 ≤ a) (n : Nat) :
    Tracks false (a ^ n) n (base.power n) := by
  have squared : Tracks false (a ^ (0 + 1)) 0 base := by
    rw [zero_add, pow_one]
    exact tracks_of_value given unit
  have taken : Tracks false (a ^ 0) 0 (ofInt 1 : Binary format) := by
    obtain ⟨y, number⟩ : ∃ y : Binary format, _ := one_is_number false
    have nearest : IsNearest _ (ofInt 1 : Binary format) := of_int_is_nearest 1
    rw [Int.cast_one] at nearest
    rw [pow_zero]
    exact tracks_of_value (nearest.exact number) le_rfl
  have all := Tracks.power_loop unit (n.log2 + 1) Nat.lt_log2_self squared taken
  rwa [zero_add, zero_add, one_mul] at all

end Binary

end Recast
