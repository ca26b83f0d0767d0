import Recast.Proofs.Number.Estimate
import Recast.Proofs.Scalar.Soundness
set_option autoImplicit false

/-!
Exact numbers as integers: what is behind the point is cut off, and what does not fit is refused. The length of a
decimal is estimated before it is written out. The estimate refuses no word but zero with many zeros behind it, and of
the integers of ten thousand digits those whose mantissa is too near below a power of two.
-/

namespace Recast.Scalar

-- The scale of a decimal is an integer of 64 bits.
inductive Denotes : Value → ℚ → Prop where
  | int (n : Int64) : Denotes (.int n) n.toInt
  | bool (b : Bool) : Denotes (.bool b) (if b then 1 else 0)
  | bigInt (n : Int) : Denotes (.bigInt n) n
  | decimal (d : Decimal) (low : -2 ^ 63 ≤ d.scale) (high : d.scale < 2 ^ 63) : Denotes (.decimal d) d.value

def isLonger (limit : Int) : Value → Bool
  | .decimal d => decide (limit < d.places)
  | _ => false

variable {config : Config} {target : Descriptor} {value : Value} {q : ℚ} {width : Width}

theorem Denotes.not_blank (denotes : Denotes value q) : value.isBlank = false := by
  cases denotes <;> rfl

theorem truncate_longer {limit : Int} (d : Decimal) (nonneg : 0 ≤ limit) (fits : limit < 2 ^ 63 - 1) :
    d.truncate? limit = if isLonger limit (.decimal d) then none else some (towardZero d.value) := by
  rw [Decimal.truncate_eq nonneg fits, Decimal.whole_eq, isLonger]
  by_cases within : d.places ≤ limit
  · rw [if_pos within, if_neg (by simpa using within)]
  · rw [if_neg within, if_pos (by simpa using within)]

theorem word_of_bool_value (b : Bool) : (if b then 1 else 0 : ℚ) = (wordOfBool b).toInt := by
  cases b with
  | false => exact Int.cast_zero.symm
  | true => exact Int.cast_one.symm

theorem toward_zero_bool (b : Bool) : towardZero (if b then 1 else 0) = (wordOfBool b).toInt := by
  rw [word_of_bool_value, toward_zero_int]

theorem word_of_denotes (denotes : Denotes value q) :
    word config value = .ok (if isLonger wordDigits value then none else Numeral.toWord? (towardZero q)) := by
  cases denotes with
  | int n => rw [toward_zero_int, to_word_of_word]; rfl
  | bool b => rw [toward_zero_bool, to_word_of_word]; rfl
  | bigInt n => rw [toward_zero_int]; rfl
  | decimal d low high =>
    rw [word, truncate_longer d (by decide) (by decide)]
    split <;> rfl

theorem to_integer_of_denotes (denotes : Denotes value q) : toInteger config width value =
    if isLonger wordDigits value ∨ ¬ (-2 ^ 63 ≤ towardZero q ∧ towardZero q < 2 ^ 63) then .error .notInteger
    else if towardZero q < width.low ∨ width.high < towardZero q then
      .error (.outOfRange (towardZero q) width.low width.high)
    else .ok (.int (Int64.ofInt (towardZero q))) := by
  simp only [toInteger, denotes.not_blank, word_of_denotes denotes, Bool.false_eq_true, if_false]
  by_cases longer : isLonger wordDigits value = true
  · simp only [if_pos longer, if_pos (Or.inl longer)]
  · by_cases within : -2 ^ 63 ≤ towardZero q ∧ towardZero q < 2 ^ 63
    · have number := Int64.toInt_ofInt_of_le within.1 within.2
      simp only [if_neg longer, to_word_some within.1 within.2, inWidth, number,
        if_neg (not_or.mpr ⟨longer, not_not.mpr within⟩)]
    · simp only [if_neg longer, to_word_none (n := towardZero q) (by omega), if_pos (Or.inr within)]

theorem to_big_integer_of_denotes (denotes : Denotes value q) : toBigInteger config value =
    if isLonger Literal.wholeLimit value then .error .notInteger else .ok (.bigInt (towardZero q)) := by
  simp only [toBigInteger, denotes.not_blank, Bool.false_eq_true, if_false]
  cases denotes with
  | int n => rw [toward_zero_int]; rfl
  | bool b => rw [toward_zero_bool]; rfl
  | bigInt n => rw [toward_zero_int]; rfl
  | decimal d low high =>
    have limit : d.truncate? Literal.wholeLimit = _ := truncate_longer d (by decide) (by decide)
    simp only [limit]
    split <;> rfl

theorem is_longer_iff {limit : Nat} {d : Decimal} (short : (towardZero d.value).natAbs < 10 ^ limit)
    (few : limit < 10 ^ 17) (high : d.scale < 2 ^ 63) :
    isLonger (limit + 1) (.decimal d) = true ↔ d.mantissa = 0 ∧ limit + 1 ≤ -d.scale := by
  rw [← Decimal.whole_eq] at short
  rw [isLonger, decide_eq_true_iff, ← not_le, Decimal.places_within short few high, not_not]

theorem not_longer {limit : Nat} (denotes : Denotes value q) (nonzero : q ≠ 0)
    (short : (towardZero q).natAbs < 10 ^ limit) (few : limit < 10 ^ 17) : ¬ isLonger (limit + 1) value = true := by
  cases denotes with
  | int n | bool b | bigInt n => exact Bool.false_ne_true
  | decimal d low high =>
    rw [is_longer_iff short few high]
    rintro ⟨zero, -⟩
    exact nonzero (by rw [Decimal.value, zero, Int.cast_zero, zero_mul])

theorem short_of_word {n : Int} (within : -2 ^ 63 ≤ n ∧ n < 2 ^ 63) : n.natAbs < 10 ^ 19 := by
  omega

theorem narrowed_exactly (denotes : Denotes value q) (width : Width) :
    (∀ n, (Scalar.int width).convert config target value = .ok (.int n) →
      n.toInt = towardZero q ∧ width.low ≤ n.toInt ∧ n.toInt ≤ width.high) ∧
    (∀ n, Scalar.bigInteger.convert config target value = .ok (.bigInt n) → n = towardZero q) ∧
    (q ≠ 0 →
      (width.low ≤ towardZero q ∧ towardZero q ≤ width.high →
        (Scalar.int width).convert config target value = .ok (.int (Int64.ofInt (towardZero q)))) ∧
      ((towardZero q).natAbs < 10 ^ 9999 →
        Scalar.bigInteger.convert config target value = .ok (.bigInt (towardZero q)))) := by
  simp only [convert_ok_iff, read, to_integer_of_denotes denotes, to_big_integer_of_denotes denotes]
  refine ⟨fun n given => ?_, fun n given => ?_, fun nonzero => ⟨fun within => ?_, fun short => ?_⟩⟩
  · split at given
    · cases given
    · next fits =>
      split at given
      · cases given
      · next inside =>
        cases given
        have word := not_not.mp (not_or.mp fits).2
        rw [Int64.toInt_ofInt_of_le word.1 word.2]
        omega
  · split at given
    · cases given
    · cases given
      rfl
  · have limits := width_within_word width
    have word : -2 ^ 63 ≤ towardZero q ∧ towardZero q < 2 ^ 63 := by omega
    have longer := not_longer denotes nonzero (short_of_word word) (by decide)
    change ¬ isLonger wordDigits value = true at longer
    rw [if_neg (not_or.mpr ⟨longer, not_not.mpr word⟩), if_neg (by omega)]
  · have longer := not_longer denotes nonzero short (by decide)
    change ¬ isLonger Literal.wholeLimit value = true at longer
    rw [if_neg longer]

theorem cents_cut_to_byte :
    (Scalar.int .bits8).convert Config.default (Scalar.int .bits8).descriptor (.decimal ⟨-12899, 2⟩) =
        .ok (.int (-128)) ∧
      Scalar.bigInteger.convert Config.default Scalar.bigInteger.descriptor (.decimal ⟨-12899, 2⟩) =
        .ok (.bigInt (-128)) ∧
      Int64.toInt (-128) = towardZero (Decimal.value ⟨-12899, 2⟩) := by
  have denotes : Denotes (.decimal ⟨-12899, 2⟩) (Decimal.value ⟨-12899, 2⟩) := .decimal _ (by decide) (by decide)
  have law (target : Descriptor) := @narrowed_exactly Config.default target _ _ denotes .bits8
  have number : Decimal.value ⟨-12899, 2⟩ = -12899 / 100 := by
    rw [Decimal.value]
    norm_num
  have nonzero : Decimal.value ⟨-12899, 2⟩ ≠ 0 := by
    rw [number]
    norm_num
  have whole : towardZero (Decimal.value ⟨-12899, 2⟩) = -128 := by
    rw [number, towardZero, if_pos (by norm_num)]
    norm_num
  have digits := Nat.pow_le_pow_right (show 0 < 10 by decide) (show 3 ≤ 9999 by decide)
  have short : (towardZero (Decimal.value ⟨-12899, 2⟩)).natAbs < 10 ^ 9999 := by
    rw [whole]
    exact Nat.lt_of_lt_of_le (by decide) digits
  have byte := ((law (Scalar.int .bits8).descriptor).2.2 nonzero).1 (by rw [whole]; decide)
  have big := ((law Scalar.bigInteger.descriptor).2.2 nonzero).2 short
  rw [whole] at byte big
  exact ⟨byte, big, ((law (Scalar.int .bits8).descriptor).1 _ byte).1⟩

section

variable {d : Decimal} (low : -2 ^ 63 ≤ d.scale) (high : d.scale < 2 ^ 63)

include low high

theorem word_of_decimal : (Scalar.int .bits64).convert config target (.decimal d) =
    if (-2 ^ 63 ≤ towardZero d.value ∧ towardZero d.value < 2 ^ 63) ∧ ¬ (d.mantissa = 0 ∧ 20 ≤ -d.scale) then
      .ok (.int (Int64.ofInt (towardZero d.value)))
    else .error (.reject target (.decimal d) .notInteger) := by
  have outcome : toInteger config .bits64 (.decimal d) = _ := to_integer_of_denotes (.decimal d low high)
  by_cases word : -2 ^ 63 ≤ towardZero d.value ∧ towardZero d.value < 2 ^ 63
  · have longer := is_longer_iff (short_of_word word) (by decide) high
    change isLonger wordDigits (.decimal d) = true ↔ d.mantissa = 0 ∧ 20 ≤ -d.scale at longer
    by_cases zero : d.mantissa = 0 ∧ 20 ≤ -d.scale
    · rw [if_pos (.inl (longer.mpr zero))] at outcome
      rw [if_neg fun both => both.2 zero]
      exact convert_error_iff.mpr ⟨_, outcome, rfl⟩
    · have inside : ¬ (towardZero d.value < Width.low .bits64 ∨ Width.high .bits64 < towardZero d.value) := by
        simp only [Width.low, Width.high, Width.bits]
        omega
      rw [if_neg (not_or.mpr ⟨mt longer.mp zero, not_not.mpr word⟩), if_neg inside] at outcome
      rw [if_pos ⟨word, zero⟩]
      exact convert_ok_iff.mpr outcome
  · rw [if_pos (.inr word)] at outcome
    rw [if_neg fun both => word both.1]
    exact convert_error_iff.mpr ⟨_, outcome, rfl⟩

theorem big_integer_of_places : Scalar.bigInteger.convert config target (.decimal d) =
    if d.places ≤ 10000 then .ok (.bigInt (towardZero d.value))
    else .error (.reject target (.decimal d) .notInteger) := by
  have outcome : toBigInteger config (.decimal d) = _ := to_big_integer_of_denotes (.decimal d low high)
  have longer : isLonger Literal.wholeLimit (.decimal d) = true ↔ ¬ d.places ≤ 10000 :=
    decide_eq_true_iff.trans not_le.symm
  by_cases within : d.places ≤ 10000
  · rw [if_neg fun beyond => longer.mp beyond within] at outcome
    rw [if_pos within]
    exact convert_ok_iff.mpr outcome
  · rw [if_pos (longer.mpr within)] at outcome
    rw [if_neg within]
    exact convert_error_iff.mpr ⟨_, outcome, rfl⟩

-- A word is refused for the length of a decimal only if that is zero. An integer of any size has to have fewer digits
-- than the limit, or no more with the power of two in place of the mantissa. The last part ends where a product in
-- double precision would first estimate another length.
theorem decimal_limits :
    (Scalar.int .bits64).convert config target (.decimal d) =
      (if (-2 ^ 63 ≤ towardZero d.value ∧ towardZero d.value < 2 ^ 63) ∧ ¬ (d.mantissa = 0 ∧ 20 ≤ -d.scale) then
        .ok (.int (Int64.ofInt (towardZero d.value)))
      else .error (.reject target (.decimal d) .notInteger)) ∧
    ((towardZero d.value).natAbs < 10 ^ 9999 → ¬ (d.mantissa = 0 ∧ 10000 ≤ -d.scale) →
      Scalar.bigInteger.convert config target (.decimal d) = .ok (.bigInt (towardZero d.value))) ∧
    (10 ^ 10000 ≤ (towardZero d.value).natAbs ∨ d.mantissa = 0 ∧ 10000 ≤ -d.scale →
      Scalar.bigInteger.convert config target (.decimal d) = .error (.reject target (.decimal d) .notInteger)) ∧
    (bitLength d.mantissa.natAbs < 146964308 →
      Scalar.bigInteger.convert config target (.decimal d) =
        if d.bound < 10 ^ 10000 then .ok (.bigInt (towardZero d.value))
        else .error (.reject target (.decimal d) .notInteger)) := by
  rw [big_integer_of_places low high, ← Decimal.whole_eq]
  refine ⟨?_, fun short filled => ?_, fun refused => ?_, fun few => ?_⟩
  · rw [Decimal.whole_eq]
    exact word_of_decimal low high
  · have within : d.places ≤ 10000 := (Decimal.places_within short (by decide) high).mpr filled
    rw [if_pos within]
  · have beyond : ¬ d.places ≤ 10000 := by
      rcases refused with long | zero
      · exact not_le.mpr (@Decimal.places_above d 10000 long)
      · have short : d.whole.natAbs < 10 ^ 9999 := by
          rw [Decimal.whole, zero.1, Int.zero_mul, Int.zero_tdiv]
          positivity
        exact fun within => (Decimal.places_within short (by decide) high).mp within zero
    rw [if_neg beyond]
  · have estimate := @Decimal.places_le_iff d 10000 few
    by_cases within : d.places ≤ 10000
    · rw [if_pos within, if_pos (estimate.mp within)]
    · rw [if_neg within, if_neg (mt estimate.mpr within)]

end

theorem value_of_zeros (mantissa : Int) (k : Nat) : Decimal.value ⟨mantissa, -k⟩ = (mantissa * 10 ^ k : Int) := by
  rw [Decimal.value, neg_neg, zpow_natCast]
  push_cast
  rfl

theorem digit_below_ten {R : Type} [CommRing R] [LinearOrder R] [IsStrictOrderedRing R] {digit : R} (single : digit < 10)
    (k : Nat) : digit * 10 ^ k < 10 ^ (k + 1) := by
  rw [pow_succ']
  exact mul_lt_mul_of_pos_right single (by positivity)

theorem least_word_of_decimal :
    (Scalar.int .bits64).convert Config.default (Scalar.int .bits64).descriptor
        (.decimal ⟨-92233720368547758089, 1⟩) = .ok (.int Int64.minValue) ∧
      Scalar.bigInteger.convert Config.default Scalar.bigInteger.descriptor (.decimal ⟨-92233720368547758089, 1⟩) =
        .ok (.bigInt (-2 ^ 63)) ∧
      Scalar.bigInteger.convert Config.default Scalar.bigInteger.descriptor (.decimal ⟨0, -10000⟩) =
        .error (.reject Scalar.bigInteger.descriptor (.decimal ⟨0, -10000⟩) .notInteger) ∧
      Scalar.bigInteger.convert Config.default Scalar.bigInteger.descriptor (.decimal ⟨7, -9999⟩) =
        .ok (.bigInt (towardZero (Decimal.value ⟨7, -9999⟩))) := by
  have law (target : Descriptor) (d : Decimal) := @decimal_limits Config.default target d
  have least := law (Scalar.int .bits64).descriptor ⟨-92233720368547758089, 1⟩ (by decide) (by decide)
  have great := law Scalar.bigInteger.descriptor ⟨-92233720368547758089, 1⟩ (by decide) (by decide)
  have zero := law Scalar.bigInteger.descriptor ⟨0, -10000⟩ (by decide) (by decide)
  have seven := law Scalar.bigInteger.descriptor ⟨7, -9999⟩ (by decide) (by decide)
  have whole : towardZero (Decimal.value ⟨-92233720368547758089, 1⟩) = -2 ^ 63 := by
    rw [← Decimal.whole_eq]
    decide
  have digits := Nat.pow_le_pow_right (show 0 < 10 by decide) (show 19 ≤ 9999 by decide)
  have short : (towardZero (Decimal.value ⟨-92233720368547758089, 1⟩)).natAbs < 10 ^ 9999 := by
    rw [whole]
    exact Nat.lt_of_lt_of_le (by decide) digits
  have bound : Decimal.bound ⟨7, -9999⟩ < 10 ^ 10000 := by
    have zeros : (10 : ℚ) ^ (9999 : Int) = 10 ^ 9999 := zpow_natCast 10 9999
    rw [Decimal.bound, show bitLength (7 : Int).natAbs = 3 by decide, neg_neg, zeros]
    exact digit_below_ten (by norm_num) 9999
  have word := least.1.trans (if_pos (by rw [whole]; decide))
  have big := great.2.1 short (by decide)
  rw [whole] at word big
  exact ⟨word, big, zero.2.2.1 (.inr (by decide)), (seven.2.2.2 (by decide)).trans (if_pos bound)⟩

theorem long_zero_refused :
    (towardZero (Decimal.value ⟨0, -20⟩) = 0 ∧
      (Scalar.int .bits64).convert Config.default (Scalar.int .bits64).descriptor (.decimal ⟨0, -20⟩) =
        .error (.reject (Scalar.int .bits64).descriptor (.decimal ⟨0, -20⟩) .notInteger)) ∧
    (towardZero (Decimal.value ⟨9, -9999⟩) = 9 * 10 ^ 9999 ∧ (9 * 10 ^ 9999 : Int) < 10 ^ 10000 ∧
      Scalar.bigInteger.convert Config.default Scalar.bigInteger.descriptor (.decimal ⟨9, -9999⟩) =
        .error (.reject Scalar.bigInteger.descriptor (.decimal ⟨9, -9999⟩) .notInteger)) := by
  have zero : Decimal.value ⟨0, -20⟩ = (0 : Int) := value_of_zeros 0 20
  have nine : Decimal.value ⟨9, -9999⟩ = (9 * 10 ^ 9999 : Int) := value_of_zeros 9 9999
  have more : (9 * 10 ^ 9999 : Int) < 10 ^ 10000 := digit_below_ten (by decide) 9999
  exact ⟨⟨by rw [zero, toward_zero_int], rfl⟩, by rw [nine, toward_zero_int], more, rfl⟩

end Recast.Scalar
