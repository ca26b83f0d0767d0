import Recast.Proofs.Number.Whole
set_option autoImplicit false

/-!
How many digits a number of so many bits has: the estimate of a decimal's length from its bits is the length or one
more. Twenty tenth powers from two on, rounded down or up, enclose the logarithm that the estimate multiplies with.
-/

namespace Recast

def tenthPower (up : Nat) (number : Nat × Nat) : Nat × Nat :=
  let cut := 3 * number.1.log2 - 25
  ((number.1 ^ 10 + up * (10 ^ cut - 1)) / 10 ^ cut, 10 * number.2 + cut)

theorem tenth_power_below {number : Nat × Nat} {n : Nat} (below : number.1 * 10 ^ number.2 ≤ n) :
    (tenthPower 0 number).1 * 10 ^ (tenthPower 0 number).2 ≤ n ^ 10 := by
  obtain ⟨mantissa, exponent⟩ := number
  simp only [tenthPower, Nat.zero_mul, Nat.add_zero]
  generalize 3 * mantissa.log2 - 25 = cut
  calc
    mantissa ^ 10 / 10 ^ cut * 10 ^ (10 * exponent + cut)
        = mantissa ^ 10 / 10 ^ cut * 10 ^ cut * (10 ^ exponent) ^ 10 := by ring
    _ ≤ mantissa ^ 10 * (10 ^ exponent) ^ 10 := Nat.mul_le_mul_right _ (Nat.div_mul_le_self ..)
    _ = (mantissa * 10 ^ exponent) ^ 10 := (Nat.mul_pow ..).symm
    _ ≤ n ^ 10 := Nat.pow_le_pow_left below 10

theorem tenth_power_above {number : Nat × Nat} {n : Nat} (above : n ≤ number.1 * 10 ^ number.2) :
    n ^ 10 ≤ (tenthPower 1 number).1 * 10 ^ (tenthPower 1 number).2 := by
  obtain ⟨mantissa, exponent⟩ := number
  simp only [tenthPower, Nat.one_mul]
  generalize 3 * mantissa.log2 - 25 = cut
  have rounded : mantissa ^ 10 ≤ (mantissa ^ 10 + (10 ^ cut - 1)) / 10 ^ cut * 10 ^ cut := by
    have unit : 0 < 10 ^ cut := by positivity
    have next : mantissa ^ 10 + (10 ^ cut - 1) < _ := Nat.lt_div_mul_add unit
    omega
  calc
    n ^ 10 ≤ (mantissa * 10 ^ exponent) ^ 10 := Nat.pow_le_pow_left above 10
    _ = mantissa ^ 10 * (10 ^ exponent) ^ 10 := Nat.mul_pow ..
    _ ≤ (mantissa ^ 10 + (10 ^ cut - 1)) / 10 ^ cut * 10 ^ cut * (10 ^ exponent) ^ 10 := Nat.mul_le_mul_right _ rounded
    _ = _ := by ring

theorem iterated_below (k : Nat) :
    ((tenthPower 0)^[k] (2, 0)).1 * 10 ^ ((tenthPower 0)^[k] (2, 0)).2 ≤ 2 ^ 10 ^ k := by
  induction k with
  | zero => decide
  | succ k ih =>
    rw [Function.iterate_succ_apply', Nat.pow_succ, Nat.pow_mul]
    exact tenth_power_below ih

theorem iterated_above (k : Nat) :
    2 ^ 10 ^ k ≤ ((tenthPower 1)^[k] (2, 0)).1 * 10 ^ ((tenthPower 1)^[k] (2, 0)).2 := by
  induction k with
  | zero => decide
  | succ k ih =>
    rw [Function.iterate_succ_apply', Nat.pow_succ, Nat.pow_mul]
    exact tenth_power_above ih

theorem two_power_from {k mantissa exponent lead : Nat} (reached : (tenthPower 0)^[k] (2, 0) = (mantissa, exponent))
    (leads : 10 ^ lead ≤ mantissa) : 10 ^ (lead + exponent) ≤ 2 ^ 10 ^ k := by
  have below := iterated_below k
  rw [reached] at below
  rw [Nat.pow_add]
  exact (Nat.mul_le_mul_right _ leads).trans below

theorem two_power_up_to {k mantissa exponent lead : Nat} (reached : (tenthPower 1)^[k] (2, 0) = (mantissa, exponent))
    (led : mantissa ≤ 10 ^ lead) : 2 ^ 10 ^ k ≤ 10 ^ (lead + exponent) := by
  have above := iterated_above k
  rw [reached] at above
  rw [Nat.pow_add]
  exact above.trans (Nat.mul_le_mul_right _ led)

theorem below_bit_length (n : Nat) : n < 2 ^ bitLength n := by
  unfold bitLength
  split
  · next zero =>
    subst zero
    decide
  · exact Nat.lt_log2_self

theorem bit_length_at_most {n : Nat} (nonzero : n ≠ 0) : 2 ^ (bitLength n - 1) ≤ n := by
  rw [bitLength, if_neg nonzero]
  exact Nat.log2_self_le nonzero

section

variable {scale log n : Nat}

theorem digits_within {length digits : Nat} (above : 2 ^ scale ≤ 10 ^ log) (positive : 0 < scale)
    (reached : 10 ^ digits ≤ 2 ^ length) : digits ≤ length * log / scale := by
  have power : (10 ^ digits) ^ scale ≤ (10 ^ log) ^ length := by
    calc
      (10 ^ digits) ^ scale ≤ (2 ^ length) ^ scale := Nat.pow_le_pow_left reached scale
      _ = (2 ^ scale) ^ length := Nat.pow_right_comm ..
      _ ≤ (10 ^ log) ^ length := Nat.pow_le_pow_left above length
  rw [← Nat.pow_mul, ← Nat.pow_mul, Nat.pow_le_pow_iff_right (by decide), Nat.mul_comm log] at power
  exact (Nat.le_div_iff_mul_le positive).mpr power

theorem digits_beyond {length digits : Nat} (below : 10 ^ log ≤ 2 ^ scale) (positive : 0 < scale)
    (short : 2 ^ length < 10 ^ digits) : length * log < digits * scale := by
  have power : (10 ^ log) ^ length < (10 ^ digits) ^ scale := by
    calc
      (10 ^ log) ^ length ≤ (2 ^ scale) ^ length := Nat.pow_le_pow_left below length
      _ = (2 ^ length) ^ scale := Nat.pow_right_comm ..
      _ < (10 ^ digits) ^ scale := Nat.pow_lt_pow_left short positive.ne'
  rwa [← Nat.pow_mul, ← Nat.pow_mul, Nat.pow_lt_pow_iff_right (by decide), Nat.mul_comm log] at power

theorem below_digits (above : 2 ^ scale ≤ 10 ^ log) (positive : 0 < scale) :
    n < 10 ^ (bitLength n * log / scale + 1) := by
  by_contra reached
  have within := digits_within above positive ((not_lt.mp reached).trans (below_bit_length n).le)
  omega

theorem digits_at_most (below : 10 ^ log ≤ 2 ^ scale) {digits : Nat} (nonzero : n ≠ 0) (short : n < 10 ^ digits)
    (room : 4 * digits + log ≤ scale) : bitLength n * (log + 1) / scale ≤ digits := by
  obtain ⟨length, same⟩ : ∃ length, bitLength n = length + 1 := ⟨n.log2, by rw [bitLength, if_neg nonzero]⟩
  have bits := bit_length_at_most nonzero
  rw [same, Nat.add_sub_cancel] at bits
  have few : length < 4 * digits := by
    have : 2 ^ length < 2 ^ (4 * digits) := by
      calc
        2 ^ length < 10 ^ digits := bits.trans_lt short
        _ ≤ (2 ^ 4) ^ digits := Nat.pow_le_pow_left (by decide) digits
        _ = 2 ^ (4 * digits) := (Nat.pow_mul ..).symm
    exact (Nat.pow_lt_pow_iff_right (by decide)).mp this
  have power := digits_beyond below (by omega) (bits.trans_lt short)
  rw [same, ← Nat.lt_succ_iff, Nat.div_lt_iff_lt_mul (by omega)]
  calc
    (length + 1) * (log + 1) = length * log + (length + log + 1) := by ring
    _ < digits * scale + scale := by omega
    _ = (digits + 1) * scale := (Nat.succ_mul ..).symm

end

theorem twenty_below : (tenthPower 0)^[20] (2, 0) = (2365317639496503450885967274, 30102999566398119494) := by
  decide +kernel

theorem twenty_above : (tenthPower 1)^[20] (2, 0) = (2365317826283061958860948354, 30102999566398119494) := by
  decide +kernel

theorem twenty_leads : 10 ^ 27 ≤ 2365317639496503450885967274 := by decide

theorem twenty_led : 2365317826283061958860948354 ≤ 10 ^ 28 := by decide

-- The power of two to the twentieth power of ten occurs in these three only as `two_power_from` and
-- `two_power_up_to` state it, so that nothing expands it.
theorem below_estimate (n : Nat) : n < 10 ^ (timesLog10Two (bitLength n) + 1) := by
  have enough := below_digits (n := n) (two_power_up_to twenty_above twenty_led) (by decide)
  exact enough

theorem estimate_at_most {n digits : Nat} (nonzero : n ≠ 0) (short : n < 10 ^ digits) (few : digits < 10 ^ 19) :
    timesLog10Two (bitLength n) ≤ digits := by
  have within := digits_at_most (two_power_from twenty_below twenty_leads) nonzero short (by omega)
  exact within

theorem estimate_reached {n : Nat} (few : n ≤ 10 ^ 20) : 10 ^ timesLog10Two n ≤ 10 * 2 ^ n := by
  by_contra more
  have within : timesLog10Two n * 10 ^ 20 ≤ n * 30102999566398119522 := Nat.div_mul_le_self ..
  generalize timesLog10Two n = places at *
  cases places with
  | zero =>
    have positive : 0 < 2 ^ n := Nat.two_pow_pos n
    omega
  | succ digits =>
    have short : 2 ^ n < 10 ^ digits := by
      rw [Nat.pow_succ'] at more
      omega
    have beyond := digits_beyond (two_power_from twenty_below twenty_leads) (by decide) short
    omega

-- Between the two fractions of twenty places that enclose the logarithm lies none with so small a denominator: those
-- are kept out by 15392313 / 51132157 and 44240665 / 146964308, which enclose both and are neighbours. There a
-- product in double precision has another whole part for the first time.
theorem times_log_le_iff {n k : Nat} (few : n < 146964308) : timesLog10Two n ≤ k ↔ 2 ^ n < 10 ^ (k + 1) := by
  unfold timesLog10Two
  constructor
  · intro estimate
    by_contra reached
    have within := digits_within (two_power_up_to twenty_above twenty_led) (by decide) (not_lt.mp reached)
    omega
  · intro short
    have beyond := digits_beyond (two_power_from twenty_below twenty_leads) (by decide) short
    rw [← Nat.lt_succ_iff, Nat.div_lt_iff_lt_mul (by decide)]
    by_contra reached
    have above : 15392313 * n < 51132157 * (k + 1) := by omega
    have below : 146964308 * (k + 1) < 44240665 * n := by omega
    omega

theorem toward_zero_div (a : Int) (b : Nat) : towardZero (a / b) = a.tdiv b := by
  rcases le_total 0 a with nonneg | nonpos
  · have side : (0 : ℚ) ≤ a / b := div_nonneg (Int.cast_nonneg nonneg) b.cast_nonneg
    rw [towardZero, if_neg side.not_gt, Rat.floor_intCast_div_natCast, Int.tdiv_eq_ediv_of_nonneg nonneg]
  · have side : (a : ℚ) / b ≤ 0 := div_nonpos_of_nonpos_of_nonneg (Int.cast_nonpos.mpr nonpos) b.cast_nonneg
    rw [toward_zero_of_nonpos side, abs_of_nonpos side, ← neg_div, ← Int.cast_neg, Rat.floor_intCast_div_natCast,
      ← Int.tdiv_eq_ediv_of_nonneg (Int.neg_nonneg.mpr nonpos), Int.neg_tdiv, Int.neg_neg]

namespace Decimal

variable (d : Decimal)

def value : ℚ := d.mantissa * 10 ^ (-d.scale)

theorem whole_eq : d.whole = towardZero d.value := by
  have quotient : d.value = (d.mantissa * 10 ^ (-d.scale).toNat : Int) / (10 ^ d.scale.toNat : Nat) := by
    have split := Binary.ten_power_split (-d.scale)
    rw [neg_neg] at split
    rw [value, eq_div_iff (by positivity), mul_assoc]
    push_cast
    rw [split]
  rw [quotient, toward_zero_div, whole]
  push_cast
  rfl

theorem whole_magnitude :
    d.whole.natAbs = d.mantissa.natAbs * 10 ^ (-d.scale).toNat / 10 ^ d.scale.toNat := by
  rw [whole, Int.natAbs_tdiv, Int.natAbs_mul, Int.natAbs_pow, Int.natAbs_pow]
  rfl

variable {d}

theorem mantissa_below {limit : Nat} (short : d.whole.natAbs < 10 ^ limit) (nonzero : d.mantissa ≠ 0) :
    0 ≤ limit + d.scale ∧ d.mantissa.natAbs < 10 ^ (limit + d.scale).toNat := by
  have positive : 0 < d.mantissa.natAbs := Int.natAbs_pos.mpr nonzero
  rw [whole_magnitude, Nat.div_lt_iff_lt_mul (by positivity), ← Nat.pow_add] at short
  have fewer : 10 ^ (-d.scale).toNat < 10 ^ (limit + d.scale.toNat) :=
    (Nat.le_mul_of_pos_left _ positive).trans_lt short
  rw [Nat.pow_lt_pow_iff_right (by decide)] at fewer
  rw [show limit + d.scale.toNat = (limit + d.scale).toNat + (-d.scale).toNat by omega, Nat.pow_add] at short
  exact ⟨by omega, lt_of_mul_lt_mul_right short (Nat.zero_le _)⟩

theorem whole_below (d : Decimal) : d.whole.natAbs < 10 ^ d.places.toNat := by
  have enough := below_estimate d.mantissa.natAbs
  rw [whole_magnitude, Nat.div_lt_iff_lt_mul (by positivity), ← Nat.pow_add]
  unfold places
  generalize timesLog10Two (bitLength d.mantissa.natAbs) = length at *
  calc
    d.mantissa.natAbs * 10 ^ (-d.scale).toNat < 10 ^ (length + 1) * 10 ^ (-d.scale).toNat :=
      Nat.mul_lt_mul_of_pos_right enough (by positivity)
    _ = 10 ^ (length + 1 + (-d.scale).toNat) := (Nat.pow_add ..).symm
    _ ≤ 10 ^ (((length : Int) + 1 - d.scale).toNat + d.scale.toNat) := Nat.pow_le_pow_right (by decide) (by omega)

theorem places_above {limit : Nat} (long : 10 ^ limit ≤ d.whole.natAbs) : limit < d.places := by
  have more := (Nat.pow_lt_pow_iff_right (by decide)).mp (long.trans_lt d.whole_below)
  omega

theorem places_within {limit : Nat} (short : d.whole.natAbs < 10 ^ limit) (few : limit < 10 ^ 17)
    (range : d.scale < 2 ^ 63) : d.places ≤ limit + 1 ↔ ¬ (d.mantissa = 0 ∧ limit + 1 ≤ -d.scale) := by
  unfold places
  by_cases zero : d.mantissa = 0
  · have length : timesLog10Two (bitLength (0 : Int).natAbs) = 0 := by decide
    rw [zero, length]
    omega
  · obtain ⟨nonneg, below⟩ := mantissa_below short zero
    have estimate := estimate_at_most (Int.natAbs_ne_zero.mpr zero) below (by omega)
    exact iff_of_true (by omega) fun both => zero both.1

-- The least power of two above the mantissa stands in for it.
def bound (d : Decimal) : ℚ := 2 ^ bitLength d.mantissa.natAbs * 10 ^ (-d.scale)

theorem places_le_iff {limit : Nat} (few : bitLength d.mantissa.natAbs < 146964308) :
    d.places ≤ limit ↔ d.bound < 10 ^ limit := by
  have scaled : d.bound < 10 ^ limit ↔ (2 : ℚ) ^ bitLength d.mantissa.natAbs < 10 ^ (limit + d.scale) := by
    rw [bound, zpow_neg, ← div_eq_mul_inv, div_lt_iff₀ (by positivity), zpow_add₀ (by decide), zpow_natCast]
  rw [scaled, places]
  rcases le_or_gt (limit + d.scale) 0 with nonpos | positive
  · have beyond : (10 : ℚ) ^ (limit + d.scale) ≤ 2 ^ bitLength d.mantissa.natAbs :=
      (zpow_le_one_of_nonpos₀ (by norm_num) nonpos).trans (one_le_pow₀ (by norm_num))
    exact iff_of_false (by omega) (not_lt.mpr beyond)
  · obtain ⟨digits, same⟩ : ∃ digits : Nat, limit + d.scale = (digits + 1 : Nat) :=
      ⟨(limit + d.scale).toNat - 1, by omega⟩
    have estimate := times_log_le_iff (k := digits) few
    rw [same, zpow_natCast]
    have cast : (2 : ℚ) ^ bitLength d.mantissa.natAbs < 10 ^ (digits + 1) ↔
        2 ^ bitLength d.mantissa.natAbs < 10 ^ (digits + 1) := by exact_mod_cast Iff.rfl
    rw [cast, ← estimate]
    omega

theorem saturated_le_iff {n bound : Int} (low : -2 ^ 63 ≤ bound) (high : bound < 2 ^ 63 - 1) :
    saturated n ≤ bound ↔ n ≤ bound := by
  unfold saturated
  omega

-- Neither the early zero nor the end of the range of 64 bits is seen: what decides is the estimate.
theorem truncate_eq {limit : Int} (nonneg : 0 ≤ limit) (fits : limit < 2 ^ 63 - 1) :
    d.truncate? limit = if d.places ≤ limit then some d.whole else none := by
  have atLimit : saturated d.places ≤ limit ↔ d.places ≤ limit := saturated_le_iff (by omega) fits
  have atZero : saturated d.places ≤ 0 ↔ d.places ≤ 0 := saturated_le_iff (by decide) (by decide)
  simp only [truncate?, ← not_le, atLimit, atZero]
  by_cases early : d.places ≤ 0
  · have nothing := d.whole_below
    rw [Int.toNat_of_nonpos early, Nat.pow_zero, Nat.lt_one_iff, Int.natAbs_eq_zero] at nothing
    rw [if_pos early, if_pos (early.trans nonneg), nothing]
  · rw [if_neg early, ite_not]

theorem truncate_within {limit : Nat} (short : d.whole.natAbs < 10 ^ limit) (few : limit < 10 ^ 17)
    (range : d.scale < 2 ^ 63) :
    d.truncate? (limit + 1) = if d.mantissa = 0 ∧ limit + 1 ≤ -d.scale then none else some d.whole := by
  rw [truncate_eq (by omega) (by omega), if_congr (places_within short few range) rfl rfl, ite_not]

end Decimal

end Recast
