import Recast.Number.Literal
import Recast.Proofs.Number.Nearest
set_option autoImplicit false

/-!
The whole part of a rational, and that of the double nearest to it. They are the same if from the rational on a
double comes before the next whole number; the limits of 64 bits are where doubles are 1024 and 2048 apart.
-/

namespace Recast

def towardZero (q : ℚ) : Int := if q < 0 then ⌈q⌉ else ⌊q⌋

theorem toward_zero_of_nonneg {q : ℚ} (nonneg : 0 ≤ q) : towardZero q = ⌊|q|⌋ := by
  rw [towardZero, if_neg nonneg.not_gt, abs_of_nonneg nonneg]

theorem toward_zero_of_nonpos {q : ℚ} (nonpos : q ≤ 0) : towardZero q = -⌊|q|⌋ := by
  rw [towardZero, abs_of_nonpos nonpos, Int.floor_neg, neg_neg]
  by_cases zero : q = 0
  · subst zero
    rfl
  · rw [if_pos (lt_of_le_of_ne nonpos zero)]

theorem toward_zero_int (n : Int) : towardZero n = n := by
  rw [towardZero, Int.ceil_intCast, Int.floor_intCast, ite_self]

theorem toward_zero_on_side (negative : Bool) {a : ℚ} (nonneg : 0 ≤ a) :
    towardZero (onSide negative a) = if negative then -⌊a⌋ else ⌊a⌋ := by
  cases negative with
  | false => exact (toward_zero_of_nonneg nonneg).trans (by rw [abs_of_nonneg nonneg]; rfl)
  | true => exact (toward_zero_of_nonpos (neg_nonpos.mpr nonneg)).trans (by rw [abs_neg, abs_of_nonneg nonneg]; rfl)

theorem to_word_none {n : Int} (outside : n < -2 ^ 63 ∨ 2 ^ 63 ≤ n) : Numeral.toWord? n = none := by
  rw [Numeral.toWord?, if_neg (by omega)]

theorem to_word_some {n : Int} (low : -2 ^ 63 ≤ n) (high : n < 2 ^ 63) : Numeral.toWord? n = some (Int64.ofInt n) := by
  rw [Numeral.toWord?, if_pos ⟨low, high⟩]

theorem to_word_of_word (n : Int64) : Numeral.toWord? n.toInt = some n := by
  rw [to_word_some (Int64.le_toInt n) (Int64.toInt_lt n), Int64.ofInt_toInt]

theorem to_word_iff {n : Int} {word : Int64} : Numeral.toWord? n = some word ↔ word.toInt = n := by
  constructor
  · intro fits
    by_cases within : -2 ^ 63 ≤ n ∧ n < 2 ^ 63
    · rw [to_word_some within.1 within.2] at fits
      rw [← Option.some.inj fits, Int64.toInt_ofInt_of_le within.1 within.2]
    · rw [to_word_none (by omega)] at fits
      cases fits
  · rintro rfl
    exact to_word_of_word word

theorem to_word_none_iff {n : Int} : Numeral.toWord? n = none ↔ n < -2 ^ 63 ∨ 2 ^ 63 ≤ n := by
  simp [Numeral.toWord?]
  omega

namespace Binary

variable {format : Format}

theorem floor_scaled (significand : Nat) (exponent : Int) :
    ⌊(significand : ℚ) * 2 ^ exponent⌋ = (significand * 2 ^ exponent.toNat / 2 ^ (-exponent).toNat : Nat) := by
  have quotient : (significand : ℚ) * 2 ^ exponent =
      (significand * 2 ^ exponent.toNat : Nat) / (2 ^ (-exponent).toNat : Nat) := by
    rw [eq_div_iff (by positivity), mul_assoc]
    push_cast
    rw [two_power_split]
  rw [quotient, Rat.floor_natCast_div_natCast]
  rfl

theorem truncate_eq (x : Binary format) : x.truncate? = x.value?.map towardZero := by
  cases x with
  | nan | infinite => rfl
  | finite negative significand exponent canonical =>
    rw [truncate?, value?, Option.map_some, toward_zero_on_side negative (by positivity), floor_scaled]

theorem value_below_overflow {x : Binary format} {v : ℚ} (given : x.value? = some v) : |v| < format.overflow := by
  cases x with
  | nan | infinite => cases given
  | finite negative significand exponent canonical =>
    obtain rfl : onSide negative (significand * 2 ^ exponent) = v := Option.some.inj given
    rw [abs_on_side, abs_of_nonneg (by positivity)]
    refine (canonical_within canonical).trans_lt (mul_lt_mul_of_pos_right ?_ (by positivity))
    rw [Nat.cast_sub Nat.one_le_two_pow]
    push_cast
    linarith

theorem value_neg {x : Binary format} {v : ℚ} (given : x.value? = some v) : x.neg.value? = some (-v) := by
  cases x with
  | nan | infinite => cases given
  | finite negative significand exponent canonical =>
    obtain rfl : onSide negative (significand * 2 ^ exponent) = v := Option.some.inj given
    cases negative <;> simp [neg, value?, onSide]

theorem scaled_is_number {n places : Nat} (short : n < 2 ^ format.precision) (few : places ≤ 100) :
    ∃ x : Binary format, x.value? = some ((n : ℚ) * 2 ^ (-places : Int)) := by
  by_cases zero : n = 0
  · exact ⟨Binary.zero false, by simp [Binary.zero, value?, onSide, zero]⟩
  · have bits : n.log2 < format.precision := (Nat.log2_lt zero).mpr short
    obtain ⟨shift, moved⟩ : ∃ shift : Nat, n.log2 + shift = format.precision - 1 :=
      ⟨format.precision - 1 - n.log2, by omega⟩
    obtain ⟨atLeast, below⟩ := leading_bit_moved zero moved
    rw [format.precision_split] at below
    have canonical : format.Canonical (n * 2 ^ shift) (-shift - places) := by
      refine ⟨below, ?_, ?_, fun small => absurd small (Nat.not_lt.mpr atLeast)⟩
      · have : shift ≤ format.precision - 1 := by omega
        cases format <;> simp only [Format.least, Format.precision] at * <;> omega
      · cases format <;> simp only [Format.greatest] <;> omega
    refine ⟨finite false _ _ canonical, congrArg some ?_⟩
    rw [onSide, if_neg Bool.false_ne_true, Nat.cast_mul, Nat.cast_pow, Nat.cast_ofNat, ← zpow_natCast, mul_assoc,
      ← zpow_add₀ two_ne_zero]
    congr 2
    omega

theorem floor_is_number {x : Binary format} {v : ℚ} (given : x.value? = some v) (nonneg : 0 ≤ v) :
    ∃ y : Binary format, y.value? = some (⌊v⌋ : ℚ) := by
  cases x with
  | nan | infinite => cases given
  | finite negative significand exponent canonical =>
    obtain rfl : onSide negative (significand * 2 ^ exponent) = v := Option.some.inj given
    have magnitude : onSide negative ((significand : ℚ) * 2 ^ exponent) = significand * 2 ^ exponent := by
      rw [← abs_of_nonneg nonneg, abs_on_side, abs_of_nonneg (by positivity)]
    rw [magnitude, floor_scaled]
    by_cases whole : 0 ≤ exponent
    · refine ⟨finite negative significand exponent canonical, given.trans (congrArg some (magnitude.trans ?_))⟩
      have scale : (2 : ℚ) ^ exponent = (2 ^ exponent.toNat : Nat) := by
        rw [Nat.cast_pow, Nat.cast_ofNat, ← zpow_natCast, Int.toNat_of_nonneg whole]
      rw [show (-exponent).toNat = 0 by omega, pow_zero, Nat.div_one, scale]
      push_cast
      rfl
    · have fits : significand * 2 ^ exponent.toNat / 2 ^ (-exponent).toNat < 2 ^ format.precision := by
        rw [show exponent.toNat = 0 by omega, pow_zero, mul_one]
        exact (Nat.div_le_self ..).trans_lt canonical.1
      obtain ⟨y, number⟩ := scaled_is_number fits (Nat.zero_le 100)
      rw [Nat.cast_zero, neg_zero, zpow_zero, mul_one, ← Int.cast_natCast] at number
      exact ⟨y, number⟩

namespace IsNearest

variable {q v b : ℚ} {x y : Binary format}

theorem has_value (nearest : IsNearest q x) (within : |q| < format.overflow) : ∃ v, x.value? = some v := by
  cases x with
  | nan => exact nearest.elim
  | infinite negative => exact absurd within (not_lt.mpr nearest.1)
  | finite negative significand exponent canonical => exact ⟨_, rfl⟩

variable (nearest : IsNearest q x) (given : x.value? = some v) (other : y.value? = some b)

include nearest given other

theorem closest : |q - v| ≤ |q - b| := by
  cases x with
  | nan | infinite => cases given
  | finite negative significand exponent canonical =>
    obtain rfl : onSide negative (significand * 2 ^ exponent) = v := Option.some.inj given
    exact (nearest.2 y b other).1

theorem at_least (reached : b ≤ q) : b ≤ v := by
  have close := closest nearest given other
  by_contra below
  rw [abs_of_nonneg (by linarith), abs_of_nonneg (by linarith)] at close
  linarith

theorem at_most (reached : q ≤ b) : v ≤ b := by
  have close := closest nearest given other
  by_contra above
  rw [abs_of_nonpos (by linarith), abs_of_nonpos (by linarith)] at close
  linarith

end IsNearest

def HasRoom (q : ℚ) : Prop := ∃ (y : Double) (b : ℚ), y.value? = some b ∧ |q| ≤ b ∧ b < ⌊|q|⌋ + 1

theorem two_power_above {n : Nat} (positive : 0 < n) : ∃ bits, n < 2 ^ bits ∧ 2 ^ bits ≤ 2 * n := by
  refine ⟨n.log2 + 1, Nat.lt_log2_self, ?_⟩
  rw [pow_succ, mul_comm]
  exact Nat.mul_le_mul_left 2 (Nat.log2_self_le positive.ne')

-- Fifteen digits, the point anywhere among or before them: the last place of a double below the next whole
-- number is finer than the last digit.
theorem has_room_of_short {q : ℚ} {n places : Nat} (size : |q| = n / 10 ^ places) (short : n < 10 ^ 15) :
    HasRoom q := by
  have unit : (0 : ℚ) < 10 ^ places := by positivity
  have floor : ⌊|q|⌋ = (n / 10 ^ places : Nat) := by
    rw [size]
    exact_mod_cast Rat.floor_natCast_div_natCast n (10 ^ places)
  by_cases few : places ≤ 15
  · have small : 10 ^ places ≤ 10 ^ 15 := Nat.pow_le_pow_right (by omega) few
    obtain ⟨bits, low, high⟩ := two_power_above (show 0 < 10 ^ places by positivity)
    generalize before : n / 10 ^ places = whole at *
    have atLeast : whole * 10 ^ places ≤ n := before ▸ Nat.div_mul_le_self ..
    have next : n + 1 ≤ (whole + 1) * 10 ^ places := before ▸ Nat.lt_mul_of_div_lt (Nat.lt_succ_self _) (by positivity)
    have fits : (whole + 1) * 2 ^ bits < 2 ^ 53 := by
      calc
        (whole + 1) * 2 ^ bits ≤ (whole + 1) * (2 * 10 ^ places) := Nat.mul_le_mul_left _ high
        _ = 2 * (whole * 10 ^ places + 10 ^ places) := by ring
        _ < 2 ^ 53 := by omega
    have few : bits ≤ 100 := by
      have : 2 ^ bits < 2 ^ 100 := by omega
      exact (Nat.pow_lt_pow_iff_right Nat.one_lt_two).mp this |>.le
    obtain ⟨y, number⟩ : ∃ y : Double, _ := scaled_is_number ((Nat.sub_le _ 1).trans_lt fits) few
    have last : n * 2 ^ bits + 10 ^ places ≤ (whole + 1) * 2 ^ bits * 10 ^ places := by
      calc
        n * 2 ^ bits + 10 ^ places ≤ (n + 1) * 2 ^ bits := by rw [Nat.succ_mul]; omega
        _ ≤ (whole + 1) * 10 ^ places * 2 ^ bits := Nat.mul_le_mul_right _ next
        _ = (whole + 1) * 2 ^ bits * 10 ^ places := Nat.mul_right_comm ..
    have positive : (0 : ℚ) < 2 ^ bits := by positivity
    have nonzero : 1 ≤ (whole + 1) * 2 ^ bits := Nat.mul_pos (Nat.succ_pos _) (Nat.two_pow_pos _)
    rw [zpow_neg, zpow_natCast, ← div_eq_mul_inv, Nat.cast_sub nonzero] at number
    push_cast at number
    have last : (n : ℚ) * 2 ^ bits + 10 ^ places ≤ (whole + 1) * 2 ^ bits * 10 ^ places := by exact_mod_cast last
    refine ⟨y, _, number, ?_, ?_⟩
    · rw [size, div_le_div_iff₀ unit positive]
      linarith
    · rw [floor, div_lt_iff₀ positive]
      push_cast
      linarith
  · have large : 10 ^ 16 ≤ 10 ^ places := Nat.pow_le_pow_right (by omega) (by omega)
    obtain ⟨y, number⟩ : ∃ y : Double, y.value? = some (((1 : Nat) : ℚ) * 2 ^ (-(1 : Nat) : Int)) :=
      scaled_is_number (by decide) (by decide)
    refine ⟨y, _, number, ?_, ?_⟩
    · have large : (10 : ℚ) ^ 16 ≤ 10 ^ places := by exact_mod_cast large
      have short : (n : ℚ) < 10 ^ 15 := by exact_mod_cast short
      rw [size, div_le_iff₀ unit]
      norm_num
      linarith
    · rw [floor, Nat.div_eq_of_lt (by omega)]
      norm_num

theorem IsNearest.truncate_of_room {q : ℚ} {x : Double} (nearest : IsNearest q x) (room : HasRoom q) :
    x.truncate? = some (towardZero q) := by
  obtain ⟨y, b, next, reached, before⟩ := room
  have floor : ⌊b⌋ = ⌊|q|⌋ := Int.floor_eq_iff.mpr ⟨(Int.floor_le _).trans reached, before⟩
  obtain ⟨z, last⟩ := floor_is_number next ((abs_nonneg q).trans reached)
  obtain ⟨v, given⟩ := nearest.has_value (reached.trans_lt ((le_abs_self b).trans_lt (value_below_overflow next)))
  have nonneg : (0 : ℚ) ≤ ⌊|q|⌋ := by exact_mod_cast Int.floor_nonneg.mpr (abs_nonneg q)
  have below := Int.floor_le |q|
  rw [floor] at last
  rw [truncate_eq, given, Option.map_some]
  congr 1
  rcases le_total 0 q with positive | negative
  · rw [abs_of_nonneg positive] at *
    have low := nearest.at_least given last below
    have high := nearest.at_most given next reached
    have side : 0 ≤ v := nonneg.trans low
    rw [toward_zero_of_nonneg positive, toward_zero_of_nonneg side, abs_of_nonneg positive, abs_of_nonneg side]
    exact Int.floor_eq_iff.mpr ⟨low, high.trans_lt before⟩
  · rw [abs_of_nonpos negative] at *
    have low := nearest.at_least given (value_neg next) (neg_le.mp reached)
    have high := nearest.at_most given (value_neg last) (le_neg.mp below)
    have side : v ≤ 0 := high.trans (neg_nonpos.mpr nonneg)
    rw [toward_zero_of_nonpos negative, toward_zero_of_nonpos side, abs_of_nonpos negative, abs_of_nonpos side]
    congr 1
    exact Int.floor_eq_iff.mpr ⟨le_neg.mp high, (neg_le.mp low).trans_lt before⟩

theorem beyond_number {limit : Nat} {place : Int} (leading : 2 ^ (format.precision - 1) ≤ limit) {significand : Nat}
    {exponent : Int} (canonical : format.Canonical significand exponent)
    (beyond : (limit : ℚ) * 2 ^ place < significand * 2 ^ exponent) :
    ((limit + 1 : Nat) : ℚ) * 2 ^ place ≤ significand * 2 ^ exponent ∧
      ((significand : ℚ) * 2 ^ exponent = (limit + 1 : Nat) * 2 ^ place → limit % 2 = 0 → significand % 2 = 1) := by
  have unit : (0 : ℚ) < 2 ^ place := by positivity
  have above : place ≤ exponent := by
    by_contra below
    have fits : significand * 2 ^ 0 < 2 ^ (format.precision - 1) * 2 := by
      rw [← pow_succ, format.precision_split, pow_zero, mul_one]
      exact canonical.1
    have fits : (significand : ℚ) < 2 ^ (format.precision - 1) * 2 := by
      rw [pow_zero, mul_one] at fits
      exact_mod_cast fits
    have leading : (2 : ℚ) ^ (format.precision - 1) ≤ limit := by exact_mod_cast leading
    refine absurd beyond (not_lt.mpr ?_)
    calc (significand : ℚ) * 2 ^ exponent
      _ ≤ 2 ^ (format.precision - 1) * 2 * 2 ^ (place - 1) :=
        mul_le_mul fits.le (zpow_le_zpow_right₀ one_le_two (by omega)) (by positivity) (by positivity)
      _ = 2 ^ (format.precision - 1) * 2 ^ place := by
        rw [mul_assoc, ← zpow_one_add₀ two_ne_zero, add_sub_cancel]
      _ ≤ limit * 2 ^ place := mul_le_mul_of_nonneg_right leading unit.le
  obtain ⟨shift, rfl⟩ : ∃ shift : Nat, exponent = shift + place := ⟨(exponent - place).toNat, by omega⟩
  have whole : (significand : ℚ) * 2 ^ ((shift : Int) + place) = (significand * 2 ^ shift : Nat) * 2 ^ place := by
    rw [zpow_add₀ two_ne_zero, zpow_natCast]
    push_cast
    ring
  rw [whole] at beyond ⊢
  rw [mul_lt_mul_iff_left₀ unit, Nat.cast_lt] at beyond
  rw [mul_le_mul_iff_left₀ unit, mul_left_inj' unit.ne', Nat.cast_le, Nat.cast_inj]
  refine ⟨beyond, fun next even => ?_⟩
  by_contra twice
  have : 2 ∣ significand * 2 ^ shift := Dvd.dvd.mul_right (Nat.dvd_of_mod_eq_zero (by omega)) _
  omega

theorem magnitude_scaled {negative : Bool} {significand : Nat} {exponent : Int} {v : ℚ}
    (given : onSide negative (significand * 2 ^ exponent) = v) : significand * 2 ^ exponent = |v| := by
  rw [← given, abs_on_side, abs_of_nonneg (by positivity)]

theorem IsNearest.within_iff {q v : ℚ} {x : Binary format} (nearest : IsNearest q x) (given : x.value? = some v)
    {limit : Nat} {place : Int} (leading : 2 ^ (format.precision - 1) ≤ limit) (even : limit % 2 = 0)
    (canonical : format.Canonical limit place) (next : format.Canonical (limit + 1) place) :
    |v| ≤ limit * 2 ^ place ↔ |q| ≤ (limit + 1 / 2) * 2 ^ place := by
  cases x with
  | nan | infinite => cases given
  | finite negative significand exponent legal =>
    have value : onSide negative ((significand : ℚ) * 2 ^ exponent) = v := Option.some.inj given
    have unit : (0 : ℚ) < 2 ^ place := by positivity
    have distance (s : ℚ) : |q - onSide (decide (q < 0)) s| = |(|q| - s)| := by
      have same := on_side_distance (decide (q < 0)) |q| s
      rwa [on_side_abs] at same
    obtain ⟨close, tie⟩ := nearest.2 (finite (decide (q < 0)) limit place canonical) _ rfl
    obtain ⟨closeNext, -⟩ := nearest.2 (finite (decide (q < 0)) (limit + 1) place next) _ rfl
    have apart := abs_abs_sub_abs_le q v
    rw [value, distance] at close tie closeNext
    push_cast at closeNext
    constructor
    · intro within
      by_contra beyond
      have far : |q| - |v| ≤ |q - v| := (le_abs_self _).trans apart
      rcases abs_cases (|q| - ((limit : ℚ) + 1) * 2 ^ place) with ⟨same, -⟩ | ⟨same, -⟩
      · rw [same] at closeNext
        linarith
      · rw [same] at closeNext
        linarith
    · intro within
      by_contra beyond
      have more : (limit : ℚ) * 2 ^ place < significand * 2 ^ exponent := by
        rw [magnitude_scaled value]
        exact not_le.mp beyond
      obtain ⟨after, odd⟩ := beyond_number leading legal more
      rw [magnitude_scaled value] at after odd
      push_cast at after odd
      have far : |v| - |q| ≤ |q - v| := by
        rw [abs_sub_comm q v]
        exact (le_abs_self _).trans (abs_abs_sub_abs_le v q)
      rcases abs_cases (|q| - (limit : ℚ) * 2 ^ place) with ⟨same, -⟩ | ⟨same, -⟩
      · -- Halfway between the two numbers, where only the limit is even.
        rw [same] at close tie
        rcases tie (by linarith) with equal | twice
        · refine beyond (le_of_eq ?_)
          rw [← equal, abs_on_side, abs_of_nonneg (by positivity)]
        · have uneven := odd (by linarith) even
          omega
      · rw [same] at close
        linarith

theorem limit_canonical : Format.double.Canonical (2 ^ 52) 11 := by decide
theorem after_limit_canonical : Format.double.Canonical (2 ^ 52 + 1) 11 := by decide

theorem limit_value (negative : Bool) :
    (finite negative (2 ^ 52) 11 limit_canonical).value? = some (onSide negative (2 ^ 63)) := by
  rw [value?]
  congr 2
  norm_num

theorem after_limit_value (negative : Bool) :
    (finite negative (2 ^ 52 + 1) 11 after_limit_canonical).value? = some (onSide negative (2 ^ 63 + 2048)) := by
  rw [value?]
  congr 2
  norm_num

namespace IsNearest

variable {q : ℚ} {x : Double} (nearest : IsNearest q x)

include nearest

theorem word_above (large : 2 ^ 63 ≤ q) : x.truncate?.bind Numeral.toWord? = none := by
  rw [truncate_eq]
  cases given : x.value? with
  | none => rfl
  | some v =>
    have low : 2 ^ 63 ≤ v := nearest.at_least given (limit_value false) large
    have whole : 2 ^ 63 ≤ towardZero v := by
      rw [toward_zero_of_nonneg (by linarith), abs_of_nonneg (by linarith)]
      exact Int.le_floor.mpr (by exact_mod_cast low)
    exact to_word_none (.inr whole)

theorem word_within_iff {v : ℚ} (given : x.value? = some v) : |v| ≤ 2 ^ 63 ↔ |q| ≤ 2 ^ 63 + 1024 := by
  have within := nearest.within_iff given (by decide) (by decide) limit_canonical after_limit_canonical
  norm_num at within ⊢
  exact within

theorem word_far_below (small : q < -2 ^ 63 - 1024) : x.truncate?.bind Numeral.toWord? = none := by
  cases x with
  | nan | infinite => rfl
  | finite negative significand exponent canonical =>
    rw [truncate_eq, value?, Option.map_some, Option.bind_some]
    generalize given : onSide negative ((significand : ℚ) * 2 ^ exponent) = v
    have value : (finite negative significand exponent canonical).value? = some v := congrArg some given
    have high : v ≤ -2 ^ 63 := nearest.at_most value (limit_value true) (by linarith)
    have size : |q| = -q := abs_of_neg (by linarith)
    have beyond : ¬ |v| ≤ 2 ^ 63 := by
      rw [nearest.word_within_iff value, size]
      linarith
    have more : ((2 ^ 52 : Nat) : ℚ) * 2 ^ (11 : Int) < significand * 2 ^ exponent := by
      rw [magnitude_scaled given]
      norm_num at beyond ⊢
      exact beyond
    obtain ⟨far, -⟩ := beyond_number (by decide) canonical more
    rw [magnitude_scaled given] at far
    norm_num at far
    refine to_word_none (.inl ?_)
    have whole : 2 ^ 63 + 2048 ≤ ⌊|v|⌋ := Int.le_floor.mpr (by norm_num; exact far)
    rw [toward_zero_of_nonpos (by linarith)]
    omega

theorem word_at_limit (low : -2 ^ 63 - 1024 ≤ q) (high : q ≤ -2 ^ 63) :
    x.truncate?.bind Numeral.toWord? = some Int64.minValue := by
  have size : |q| ≤ 2 ^ 63 + 1024 := by
    rw [abs_of_nonpos (by linarith)]
    linarith
  obtain ⟨v, value⟩ := nearest.has_value (by
    refine (size.trans ?_).trans_lt (value_below_overflow (after_limit_value false))
    rw [onSide, if_neg Bool.false_ne_true, abs_of_nonneg (by norm_num)]
    linarith)
  have atMost : v ≤ -2 ^ 63 := nearest.at_most value (limit_value true) high
  have atLeast := (nearest.word_within_iff value).mpr size
  have limit : v = -2 ^ 63 := le_antisymm atMost (by linarith [neg_abs_le v])
  have whole : towardZero (-2 ^ 63) = -2 ^ 63 := by
    have := toward_zero_int (-2 ^ 63)
    push_cast at this
    exact this
  rw [truncate_eq, value, Option.map_some, Option.bind_some, limit, whole]
  decide

end IsNearest

end Binary

end Recast
