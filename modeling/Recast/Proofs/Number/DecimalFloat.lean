import Recast.Proofs.Number.Estimate
import Recast.Proofs.Number.Powers
set_option autoImplicit false

/-!
How near the double of a decimal is to the decimal. Digits beyond the first two dozen are dropped, and the power of ten
is multiplied in with a rounding for every place, yet the first dozen digits are right. What is not near is a decimal
whose last digit stands too far behind the point: that one becomes infinite.
-/

namespace Recast

namespace Binary

-- The same number up to a few of its last bits, or neither far above one. Only numbers that close to those without a
-- double are infinite.
def IsClose (q : ℚ) : Double → Prop
  | .nan => False
  | .infinite negative => Format.double.overflow * (1 - 1 / 2 ^ 43) ≤ |q| ∧ (negative = true ↔ q < 0)
  | .finite _ significand exponent _ =>
    |q| * (1 - 1 / 2 ^ 43) ≤ significand * 2 ^ exponent + 1 ∧
      significand * 2 ^ exponent ≤ |q| * (1 + 1 / 2 ^ 43) + 1

theorem roundoff_eq : Format.roundoff .double = 1 / 2 ^ 53 := rfl

theorem few_places {a : ℚ} {places : Nat} (reached : 10 ^ places ≤ 1000 * a) (below : a ≤ 2 * Format.double.overflow) :
    places ≤ 404 := by
  have positive := Format.double.overflow_positive
  have bound : (10 : ℚ) ^ places ≤ 10 ^ 404 :=
    calc (10 : ℚ) ^ places
      _ ≤ 10 ^ 4 * Format.double.overflow := by linarith
      _ ≤ 10 ^ 4 * 10 ^ (400 : Int) := mul_le_mul_of_nonneg_left overflow_below_ten_power (by norm_num)
      _ = 10 ^ 404 := by rw [pow_add 10 4 400, ← zpow_natCast 10 400, Nat.cast_ofNat]
  exact (pow_le_pow_iff_right₀ (by norm_num)).mp bound

section

variable (roundings : Nat)

theorem roundings_low : 1 - (roundings : ℚ) / 2 ^ 53 ≤ (1 - Format.roundoff .double) ^ roundings := by
  have bernoulli := one_add_mul_le_pow (a := -(1 / 2 ^ 53 : ℚ)) (by norm_num) roundings
  rw [roundoff_eq]
  calc 1 - (roundings : ℚ) / 2 ^ 53
    _ = 1 + roundings * -(1 / 2 ^ 53) := by ring
    _ ≤ (1 + -(1 / 2 ^ 53)) ^ roundings := bernoulli
    _ = (1 - 1 / 2 ^ 53) ^ roundings := by rw [← sub_eq_add_neg]

theorem roundings_high : (1 + Format.roundoff .double) ^ roundings * (1 - (roundings : ℚ) / 2 ^ 53) ≤ 1 := by
  obtain ⟨positive, proper⟩ := Format.roundoff_bounds .double
  calc (1 + Format.roundoff .double) ^ roundings * (1 - (roundings : ℚ) / 2 ^ 53)
    _ ≤ (1 + Format.roundoff .double) ^ roundings * (1 - Format.roundoff .double) ^ roundings :=
      mul_le_mul_of_nonneg_left (roundings_low roundings) (by positivity)
    _ = ((1 + Format.roundoff .double) * (1 - Format.roundoff .double)) ^ roundings := (mul_pow ..).symm
    _ ≤ 1 := pow_le_one₀ (by nlinarith) (by nlinarith)

end

theorem Tracks.is_close {negative : Bool} {a : ℚ} {roundings : Nat} {x : Double} (tracks : Tracks negative a roundings x)
    (one : 1 ≤ a) (few : roundings ≤ 2 ^ 32) (places : 10 ^ roundings ≤ 1000 * a) : IsClose (onSide negative a) x := by
  have share {bound : Nat} (fewer : roundings ≤ bound) : (roundings : ℚ) / 2 ^ 53 ≤ bound / 2 ^ 53 :=
    div_le_div_of_nonneg_right (Nat.cast_le.mpr fewer) (by positivity)
  have sharp (below : a ≤ 2 * Format.double.overflow) : (roundings : ℚ) / 2 ^ 53 ≤ 1 / 2 ^ 44 :=
    (share (few_places places below)).trans (by norm_num)
  have half : (roundings : ℚ) / 2 ^ 53 ≤ 1 / 2 := (share few).trans (by norm_num)
  have size : |onSide negative a| = a := by rw [abs_on_side, abs_of_nonneg (by linarith)]
  have limit := Format.double.overflow_positive
  have high := roundings_high roundings
  have low := roundings_low roundings
  generalize (roundings : ℚ) / 2 ^ 53 = part at *
  cases x with
  | nan => exact tracks
  | infinite side =>
    obtain ⟨rfl, beyond⟩ := tracks
    rw [IsClose, size, on_side_negative_iff side (by linarith)]
    refine ⟨?_, Iff.rfl⟩
    have reached : Format.double.overflow * (1 - part) ≤ a :=
      calc Format.double.overflow * (1 - part)
        _ ≤ a * (1 + Format.roundoff .double) ^ roundings * (1 - part) :=
          mul_le_mul_of_nonneg_right beyond (by linarith)
        _ ≤ a := by
          rw [mul_assoc]
          exact mul_le_of_le_one_right (by linarith) high
    by_contra far
    have tiny := sharp (by linarith)
    have kept : Format.double.overflow * (1 - 1 / 2 ^ 43) ≤ Format.double.overflow * (1 - part) :=
      mul_le_mul_of_nonneg_left (by linarith) limit.le
    exact far (kept.trans reached)
  | finite side significand exponent canonical =>
    have within := value_below_overflow (x := finite side significand exponent canonical) rfl
    rw [abs_on_side, abs_of_nonneg (by positivity)] at within
    obtain ⟨rfl, -, least, most⟩ := tracks
    rw [IsClose, size]
    generalize (significand : ℚ) * 2 ^ exponent = c at *
    have lower : a * (1 - part) ≤ c := (mul_le_mul_of_nonneg_left low (by linarith)).trans least
    have crude : a * (1 / 2) ≤ a * (1 - part) := mul_le_mul_of_nonneg_left (by linarith) (by linarith)
    have tiny := sharp (by linarith)
    have kept : a * (1 - 1 / 2 ^ 43) ≤ a * (1 - part) := mul_le_mul_of_nonneg_left (by linarith) (by linarith)
    refine ⟨by linarith, ?_⟩
    have upper : (1 + Format.roundoff .double) ^ roundings ≤ 1 + 1 / 2 ^ 43 := by
      have positive : (0 : ℚ) ≤ (1 + Format.roundoff .double) ^ roundings :=
        pow_nonneg (by rw [roundoff_eq]; positivity) _
      have share := mul_le_mul_of_nonneg_left (show 1 - 1 / 2 ^ 44 ≤ 1 - part by linarith) positive
      linarith
    linarith [mul_le_mul_of_nonneg_left upper (show 0 ≤ a by linarith)]

theorem IsNearest.is_close_cut {negative : Bool} {a b : ℚ} {x : Double} (nearest : IsNearest (onSide negative a) x)
    (nonneg : 0 ≤ a) (low : b * (1 - Format.roundoff .double) ≤ a) (high : a ≤ b) :
    IsClose (onSide negative b) x := by
  by_cases one : 1 ≤ a
  · have above : b * 1 ≤ b * (1 + Format.roundoff .double) ^ 1 :=
      mul_le_mul_of_nonneg_left (by rw [roundoff_eq]; norm_num) (by linarith)
    have tracks : Tracks negative b (1 + 1) x :=
      nearest.tracks one (by rwa [pow_one]) (by linarith)
    exact tracks.is_close (by linarith) (by norm_num) (by norm_num; linarith)
  · have size : |onSide negative b| = b := by rw [abs_on_side, abs_of_nonneg (by linarith)]
    obtain ⟨y, unit⟩ : ∃ y : Double, _ := one_is_number negative
    have limit : 1 < Format.double.overflow := by
      have below := value_below_overflow unit
      rwa [abs_on_side, abs_one] at below
    rw [roundoff_eq] at low
    cases x with
    | nan => exact nearest
    | infinite side =>
      have beyond := nearest.1
      rw [abs_on_side, abs_of_nonneg nonneg] at beyond
      linarith
    | finite side significand exponent canonical =>
      have close := nearest.closest rfl unit
      have distance := abs_sub_abs_le_abs_sub (onSide side ((significand : ℚ) * 2 ^ exponent)) (onSide negative a)
      have magnitude : (0 : ℚ) ≤ significand * 2 ^ exponent := by positivity
      rw [on_side_distance, abs_sub_comm a, abs_of_nonneg (a := 1 - a) (by linarith), abs_sub_comm] at close
      rw [abs_on_side, abs_on_side, abs_of_nonneg nonneg, abs_of_nonneg magnitude] at distance
      rw [IsClose, size]
      exact ⟨by linarith, by linarith⟩

theorem IsNearest.is_close {q : ℚ} {x : Double} (nearest : IsNearest q x) : IsClose q x := by
  have same := on_side_abs q
  rw [← same] at nearest ⊢
  refine nearest.is_close_cut (abs_nonneg q) (mul_le_of_le_one_right (abs_nonneg q) ?_) le_rfl
  rw [roundoff_eq]
  norm_num

end Binary

namespace Decimal

open Binary

variable (d : Decimal)

def dropped : Nat := 19 * spareBlocks (bitLength d.mantissa.natAbs)

def kept : Nat := d.mantissa.natAbs / 10 ^ d.dropped

-- The last digit that is kept stands more places behind the point than 32 bits with a sign count.
def IsFine : Prop := d.mantissa ≠ 0 ∧ 2 ^ 31 ≤ d.scale - d.dropped

theorem to_binary_eq : d.toBinary =
    if d.mantissa = 0 then zero false
    else if d.scale = 0 then Binary.ofInt d.mantissa
    else if d.scale - d.dropped ≤ -2 ^ 31 ∨ 2 ^ 31 ≤ d.scale - d.dropped then .infinite (decide (d.mantissa < 0))
    else if d.scale - d.dropped ≤ 0 then
      (nearest (decide (d.mantissa < 0)) d.kept 1).mul ((Binary.ofInt 10).power (-(d.scale - d.dropped)).toNat)
    else nearestDecimal (decide (d.mantissa < 0)) d.kept (-(d.scale - d.dropped)) := by
  have places : (d.dropped : Int) = 19 * spareBlocks (bitLength d.mantissa.natAbs) := by
    rw [dropped]
    push_cast
    rfl
  rw [places]
  rfl

theorem value_eq : d.value = onSide (decide (d.mantissa < 0)) (d.mantissa.natAbs * 10 ^ (-d.scale)) :=
  (on_side_of_int ..).symm

theorem value_cut : d.value =
    onSide (decide (d.mantissa < 0)) (d.mantissa.natAbs / 10 ^ d.dropped * 10 ^ (-(d.scale - d.dropped))) := by
  rw [value_eq, neg_sub, sub_eq_add_neg, zpow_add₀ (by norm_num), zpow_natCast, ← mul_assoc,
    div_mul_cancel₀ _ (by positivity)]

theorem below_dropped : d.mantissa.natAbs < 10 ^ (d.dropped + 44) := by
  refine (below_estimate d.mantissa.natAbs).trans_le (Nat.pow_le_pow_right (by decide) ?_)
  have more : timesLog10Two (bitLength d.mantissa.natAbs) ≤ timesLog10Two (bitLength d.mantissa.natAbs + 1) :=
    Nat.div_le_div_right (Nat.mul_le_mul_right _ (Nat.le_succ _))
  rw [dropped, spareBlocks]
  generalize timesLog10Two (bitLength d.mantissa.natAbs + 1) = places at *
  split <;> omega

variable {d}

theorem fine_below_one (fine : d.IsFine) : |d.value| < 1 := by
  have unit : (0 : ℚ) < 10 ^ (-d.scale) := by positivity
  have few : (d.mantissa.natAbs : ℚ) < 10 ^ (d.dropped + 44) := by exact_mod_cast d.below_dropped
  have far := fine.2
  rw [value_eq, abs_on_side, abs_of_nonneg (mul_nonneg (Nat.cast_nonneg _) unit.le)]
  calc (d.mantissa.natAbs : ℚ) * 10 ^ (-d.scale)
    _ < 10 ^ (d.dropped + 44) * 10 ^ (-d.scale) := mul_lt_mul_of_pos_right few unit
    _ = 10 ^ ((d.dropped + 44 : Nat) - d.scale) := by rw [sub_eq_add_neg, zpow_add₀ (by norm_num), zpow_natCast]
    _ ≤ 1 := zpow_le_one_of_nonpos₀ (by norm_num) (by omega)

theorem to_binary_of_fine (fine : d.IsFine) : d.toBinary = .infinite (decide (d.value < 0)) := by
  have positive : 0 < (d.mantissa.natAbs : ℚ) * 10 ^ (-d.scale) :=
    mul_pos (Nat.cast_pos.mpr (Int.natAbs_pos.mpr fine.1)) (by positivity)
  have side : decide (d.value < 0) = decide (d.mantissa < 0) := by
    rw [value_eq, decide_eq_decide, on_side_negative_iff _ positive, decide_eq_true_iff]
  have far := fine.2
  have dotted : d.scale ≠ 0 := by omega
  rw [to_binary_eq, if_neg fine.1, if_neg dotted, if_pos (.inr far), side]

theorem to_binary_nearest (once : d.mantissa = 0 ∨ d.scale = 0) : IsNearest d.value d.toBinary := by
  rw [to_binary_eq]
  by_cases zero : d.mantissa = 0
  · rw [if_pos zero, value, zero, Int.cast_zero, zero_mul]
    exact zero_is_nearest false (by rw [abs_zero]; positivity)
  · have whole := once.resolve_left zero
    rw [if_neg zero, if_pos whole, value, whole, neg_zero, zpow_zero, mul_one]
    exact of_int_is_nearest d.mantissa

variable (nonzero : d.mantissa ≠ 0) (counted : bitLength d.mantissa.natAbs < 2 ^ 64)

include nonzero counted

theorem kept_long : d.dropped = 0 ∨ 10 ^ (d.dropped + 16) ≤ d.mantissa.natAbs := by
  have positive : d.mantissa.natAbs ≠ 0 := Int.natAbs_ne_zero.mpr nonzero
  have reached := estimate_reached (n := bitLength d.mantissa.natAbs + 1) (by omega)
  have bits := bit_length_at_most positive
  obtain ⟨length, same⟩ : ∃ length, bitLength d.mantissa.natAbs = length + 1 :=
    ⟨d.mantissa.natAbs.log2, by rw [bitLength, if_neg positive]⟩
  rw [dropped, spareBlocks]
  generalize timesLog10Two (bitLength d.mantissa.natAbs + 1) = places at *
  by_cases many : 25 < places
  · right
    rw [if_pos many]
    have fewer : 19 * ((places - 25) / 19) + 25 ≤ places := by omega
    have digits : 10 ^ (19 * ((places - 25) / 19) + 16) * 10 ^ 9 ≤ 10 ^ places := by
      rw [← Nat.pow_add]
      exact Nat.pow_le_pow_right (by decide) fewer
    rw [same, Nat.add_sub_cancel] at bits
    rw [same, Nat.pow_succ, Nat.pow_succ] at reached
    omega
  · left
    rw [if_neg many]

theorem kept_near : (d.kept : ℚ) ≤ d.mantissa.natAbs / 10 ^ d.dropped ∧
    d.mantissa.natAbs / 10 ^ d.dropped * (1 - Format.roundoff .double) ≤ d.kept ∧ 1 ≤ (d.kept : ℚ) := by
  have unit : (0 : ℚ) < 10 ^ d.dropped := by positivity
  have positive : 1 ≤ d.mantissa.natAbs := Int.natAbs_pos.mpr nonzero
  rw [roundoff_eq]
  rcases kept_long nonzero counted with all | long
  · rw [kept, all, pow_zero, Nat.div_one, pow_zero, div_one]
    have one : (1 : ℚ) ≤ d.mantissa.natAbs := by exact_mod_cast positive
    exact ⟨le_rfl, by linarith, one⟩
  · have low : d.kept * 10 ^ d.dropped ≤ d.mantissa.natAbs := Nat.div_mul_le_self ..
    have high : d.mantissa.natAbs < (d.kept + 1) * 10 ^ d.dropped :=
      Nat.lt_mul_of_div_lt (Nat.lt_succ_self _) (by positivity)
    have digits : 10 ^ 16 ≤ d.kept := by
      rw [kept, Nat.le_div_iff_mul_le (by positivity), ← Nat.pow_add, Nat.add_comm]
      exact long
    have digits : (10 ^ 16 : ℚ) ≤ d.kept := by exact_mod_cast digits
    have low : (d.kept : ℚ) * 10 ^ d.dropped ≤ d.mantissa.natAbs := by exact_mod_cast low
    have high : (d.mantissa.natAbs : ℚ) < (d.kept + 1) * 10 ^ d.dropped := by exact_mod_cast high
    rw [← le_div_iff₀ unit] at low
    rw [← div_lt_iff₀ unit] at high
    exact ⟨low, by linarith, by linarith⟩

theorem product_is_close {n : Nat} (few : n < 2 ^ 31) :
    IsClose (onSide (decide (d.mantissa < 0)) (d.mantissa.natAbs / 10 ^ d.dropped * 10 ^ n))
      ((nearest (decide (d.mantissa < 0)) d.kept 1).mul ((Binary.ofInt 10).power n)) := by
  obtain ⟨high, low, one⟩ := kept_near nonzero counted
  have whole : (1 : ℚ) ≤ d.mantissa.natAbs / 10 ^ d.dropped := one.trans high
  have unit : (1 : ℚ) ≤ 10 ^ n := one_le_pow₀ (by norm_num)
  have rounded : IsNearest (onSide (decide (d.mantissa < 0)) ((d.kept : ℚ) / (1 : Nat)))
      (nearest (decide (d.mantissa < 0)) d.kept 1 : Double) :=
    nearest_is_nearest _ (Nat.cast_pos.mp (one_pos.trans_le one)) Nat.one_pos
  rw [Nat.cast_one, div_one] at rounded
  have first : Tracks _ (d.mantissa.natAbs / 10 ^ d.dropped : ℚ) (1 + 1) _ :=
    rounded.tracks one (by rwa [pow_one])
      (high.trans (le_mul_of_one_le_right (by linarith) (by rw [roundoff_eq]; norm_num)))
  have ten : (Binary.ofInt 10 : Double).value? = some 10 := by
    obtain ⟨y, number⟩ : ∃ y : Double, _ := integer_is_number (n := 10) (by decide)
    exact (of_int_is_nearest 10).exact number
  have product := first.mul (power_tracks ten (by norm_num) n) whole unit
  rw [Bool.bne_false] at product
  refine product.is_close (one_le_mul_of_one_le_of_one_le whole unit) (by omega) ?_
  have places : (10 : ℚ) ^ (1 + 1 + n + 1) = 1000 * 10 ^ n := by ring
  have factor := mul_le_mul_of_nonneg_right whole (by positivity : (0 : ℚ) ≤ 10 ^ n)
  linarith

theorem great_is_close {scale : Int} (great : scale ≤ -2 ^ 31) :
    IsClose (onSide (decide (d.mantissa < 0)) (d.mantissa.natAbs / 10 ^ d.dropped * 10 ^ (-scale)))
      (.infinite (decide (d.mantissa < 0))) := by
  obtain ⟨high, -, one⟩ := kept_near nonzero counted
  have power : (10 : ℚ) ^ (400 : Int) ≤ 10 ^ (-scale) := zpow_le_zpow_right₀ (by norm_num) (by omega)
  have size := power.trans (le_mul_of_one_le_left (by positivity) (one.trans high))
  exact (infinite_is_nearest _ (overflow_below_ten_power.trans size)).is_close

theorem fraction_is_close (scale : Int) :
    IsClose (onSide (decide (d.mantissa < 0)) (d.mantissa.natAbs / 10 ^ d.dropped * 10 ^ (-scale)))
      (nearestDecimal (decide (d.mantissa < 0)) d.kept (-scale)) := by
  obtain ⟨high, low, -⟩ := kept_near nonzero counted
  refine (nearest_decimal_is_nearest ..).is_close_cut (by positivity) ?_ ?_
  · rw [mul_right_comm]
    exact mul_le_mul_of_nonneg_right low (by positivity)
  · exact mul_le_mul_of_nonneg_right high (by positivity)

omit nonzero in
theorem to_binary_close (coarse : ¬ d.IsFine) : IsClose d.value d.toBinary := by
  by_cases once : d.mantissa = 0 ∨ d.scale = 0
  · exact (to_binary_nearest once).is_close
  · obtain ⟨nonzero, dotted⟩ := not_or.mp once
    have near : ¬ 2 ^ 31 ≤ d.scale - d.dropped := fun far => coarse ⟨nonzero, far⟩
    rw [to_binary_eq, if_neg nonzero, if_neg dotted, value_cut]
    generalize d.scale - d.dropped = scale at *
    by_cases great : scale ≤ -2 ^ 31
    · rw [if_pos (.inl great)]
      exact great_is_close nonzero counted great
    · rw [if_neg (not_or.mpr ⟨great, near⟩)]
      by_cases whole : scale ≤ 0
      · have power : (10 : ℚ) ^ (-scale) = 10 ^ (-scale).toNat := by
          rw [← zpow_natCast, Int.toNat_of_nonneg (by omega)]
        rw [if_pos whole, power]
        exact product_is_close nonzero counted (by omega)
      · rw [if_neg whole]
        exact fraction_is_close nonzero counted scale

end Decimal

end Recast
