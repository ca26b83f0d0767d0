import Recast.Proofs.Number.Comparing
import Recast.Proofs.Number.Writing
set_option autoImplicit false

/-!
Integers of 64 bits from text. Digits alone are read exactly, and refused out of range, except just below it. A
point or an exponent leads through the nearest double, which has the whole part of the number only as long as
rounding leaves the number between the same whole numbers.
-/

namespace Recast

-- Rounding to a double neither takes such a number past a whole number nor into the 64-bit range.
def Steady (q : ℚ) : Prop := Binary.HasRoom q ∨ 2 ^ 63 ≤ q ∨ q < -2 ^ 63 - 1024

theorem Writing.steady_of_short {writing : Writing} (short : Numeral.value writing.digits < 10 ^ 15)
    (filled : writing.power ≤ writing.places) : Steady writing.value := by
  have size : |writing.value| = Numeral.value writing.digits / 10 ^ (writing.places - writing.power).toNat := by
    rw [value, abs_on_side, abs_of_nonneg (by positivity), div_eq_mul_inv, ← zpow_natCast, ← zpow_neg,
      Int.toNat_of_nonneg (by omega), neg_sub]
  exact .inl (Binary.has_room_of_short size short)

theorem Binary.IsNearest.word_of_steady {q : ℚ} {x : Double} (nearest : IsNearest q x) (steady : Steady q) :
    x.truncate?.bind Numeral.toWord? = Numeral.toWord? (towardZero q) := by
  rcases steady with room | above | below
  · rw [nearest.truncate_of_room room, Option.bind_some]
  · have whole : 2 ^ 63 ≤ towardZero q := by
      rw [toward_zero_of_nonneg (by linarith), abs_of_nonneg (by linarith)]
      exact Int.le_floor.mpr (by exact_mod_cast above)
    rw [nearest.word_above above, to_word_none (.inr whole)]
  · have whole : 2 ^ 63 + 1024 ≤ ⌊|q|⌋ := by
      rw [abs_of_neg (by linarith)]
      exact Int.le_floor.mpr (by push_cast; linarith)
    have small : towardZero q < -2 ^ 63 := by
      rw [toward_zero_of_nonpos (by linarith)]
      omega
    rw [nearest.word_far_below below, to_word_none (.inl small)]

namespace Writing

variable (writing : Writing)

theorem integer_text {text : String} (written : Literal.ungrouped text = writing.chars) :
    ∃ x : Double, Binary.IsNearest writing.value x ∧
      Literal.integer? text =
        ((Numeral.integer? writing.chars).bind Numeral.toWord?).or (x.truncate?.bind Numeral.toWord?) := by
  obtain ⟨x, read, nearest⟩ : ∃ x : Double, _ := writing.float_nearest
  refine ⟨x, nearest, ?_⟩
  simp only [Literal.integer?, written, writing.signed_chars, writing.hex_digits_unsigned, read]
  cases (Numeral.integer? writing.chars).bind Numeral.toWord? with
  | none => exact Literal.float_word_eq x
  | some n => rfl

theorem exists_plain (sign : Sign) {digits : List Char} (run : ∀ c ∈ digits, c.isDigit = true)
    (nonempty : digits ≠ []) :
    ∃ writing : Writing, writing.chars = sign.chars ++ digits ∧ writing.IsPlain ∧
      writing.value = sign.apply (Numeral.value digits) := by
  refine ⟨⟨sign, digits, none, none, by simpa using run, by simpa using nonempty⟩, ?_, ⟨rfl, rfl⟩, ?_⟩
  · simp [chars, unsigned, pointed, marked]
  · rw [value_eq]
    simp [Writing.digits, power, places]

end Writing

-- Digits just below the range are taken for its least number: the double nearest to them is within.
theorem integer_of_digits {text : String} {sign : Sign} {digits : List Char}
    (written : Literal.ungrouped text = sign.chars ++ digits) (run : ∀ c ∈ digits, c.isDigit = true)
    (nonempty : digits ≠ []) :
    Literal.integer? text =
      if -2 ^ 63 ≤ sign.apply (Numeral.value digits) ∧ sign.apply (Numeral.value digits) < 2 ^ 63 then
        some (Int64.ofInt (sign.apply (Numeral.value digits)))
      else if -2 ^ 63 - 1024 ≤ sign.apply (Numeral.value digits) ∧ sign.apply (Numeral.value digits) < -2 ^ 63 then
        some Int64.minValue
      else none := by
  have exact := Numeral.integer_signed sign run nonempty
  obtain ⟨literal, chars, -, value⟩ := Writing.exists_plain sign run nonempty
  rw [← chars] at written exact
  obtain ⟨x, nearest, read⟩ := literal.integer_text written
  rw [value] at nearest
  rw [read, exact, Option.bind_some]
  generalize sign.apply (Numeral.value digits) = n at *
  by_cases within : -2 ^ 63 ≤ n ∧ n < 2 ^ 63
  · rw [if_pos within, to_word_some within.1 within.2]
    rfl
  · rw [if_neg within, to_word_none (by omega), Option.none_or]
    by_cases near : -2 ^ 63 - 1024 ≤ n ∧ n < -2 ^ 63
    · rw [if_pos near]
      exact nearest.word_at_limit (by exact_mod_cast near.1) (by exact_mod_cast near.2.le)
    · rw [if_neg near]
      rcases le_or_gt (2 ^ 63) n with above | below
      · exact nearest.word_above (by exact_mod_cast above)
      · exact nearest.word_far_below (by exact_mod_cast (show n < -2 ^ 63 - 1024 by omega))

theorem grouped_digits_read : Literal.integer? "-1_000" = some (-1000) :=
  (integer_of_digits (show Literal.ungrouped "-1_000" = Sign.minus.chars ++ ['1', '0', '0', '0'] by decide)
    (List.all_eq_true.mp rfl) (by decide)).trans (by decide)

theorem digits_below_range_accepted :
    Literal.ungrouped "-9223372036854775809" = Sign.minus.chars ++ "9223372036854775809".toList ∧
      Sign.minus.apply (Numeral.value "9223372036854775809".toList) = -2 ^ 63 - 1 ∧
      Literal.integer? "-9223372036854775809" = some Int64.minValue := by decide

theorem integer_of_fraction {text : String} {literal : Writing} (written : Literal.ungrouped text = literal.chars)
    (marked : ¬ literal.IsPlain) :
    ∃ x : Double, Binary.IsNearest literal.value x ∧
      Literal.integer? text = x.truncate?.bind Numeral.toWord? ∧
      (Steady literal.value → Literal.integer? text = Numeral.toWord? (towardZero literal.value)) := by
  obtain ⟨x, nearest, read⟩ := literal.integer_text written
  rw [literal.integer_not_plain marked, Option.bind_none, Option.none_or] at read
  refine ⟨x, nearest, read, fun steady => ?_⟩
  rw [read, nearest.word_of_steady steady]

def twentySevenTenths : Writing :=
  ⟨.minus, ['2', '7', '0'], some ['0'], some ⟨'e', .minus, ['2'], rfl, List.all_eq_true.mp rfl, by decide⟩,
    List.all_eq_true.mp rfl, by decide⟩

theorem twenty_seven_tenths_cut : Literal.integer? "-270.0e-2" = some (-2) := by
  obtain ⟨x, nearest, read, steady⟩ := integer_of_fraction
    (show Literal.ungrouped "-270.0e-2" = twentySevenTenths.chars by decide) fun plain => nomatch plain.1
  have mantissa : twentySevenTenths.sign.apply (Numeral.value twentySevenTenths.digits) = -2700 := by decide
  have exponent : twentySevenTenths.power - twentySevenTenths.places = -3 := by decide
  have whole : towardZero twentySevenTenths.value = -2 := by
    rw [Writing.value_eq, mantissa, exponent, towardZero]
    norm_num
  rw [steady (Writing.steady_of_short (by decide) (by decide)), whole]
  decide

def greatFraction : Writing :=
  ⟨.bare, "9007199254740993".toList, some ['0'], none, List.all_eq_true.mp rfl, by decide⟩

theorem great_fraction_rounded :
    Literal.ungrouped "9007199254740993.0" = greatFraction.chars ∧ ¬ greatFraction.IsPlain ∧
      greatFraction.value = 9007199254740993 ∧ Literal.integer? "9007199254740993.0" = some 9007199254740992 := by
  have mantissa : greatFraction.sign.apply (Numeral.value greatFraction.digits) = 90071992547409930 := by decide
  have exponent : greatFraction.power - greatFraction.places = -1 := by decide
  refine ⟨by decide, fun plain => (nomatch plain.1), ?_, by decide⟩
  rw [Writing.value_eq, mantissa, exponent]
  norm_num

end Recast
