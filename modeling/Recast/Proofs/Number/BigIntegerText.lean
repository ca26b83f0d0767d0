import Recast.Proofs.Number.Estimate
import Recast.Proofs.Number.IntegerText
set_option autoImplicit false

/-!
Integers of any size from text, against decimals from the same text. Three readers are tried in turn, and the second
rounds: it hides the third from what it accepts. What it leaves is read as the decimal is, save where only the
reader of decimals removes a plus.
-/

namespace Recast

def Misplaced (chars : List Char) : Prop :=
  ∃ c rest, (c = '-' ∨ c = '+') ∧ (chars = c :: rest ∨ chars = '.' :: c :: rest)

namespace Misplaced

variable {chars : List Char} (misplaced : Misplaced chars)

include misplaced

theorem head : ∃ c rest, chars = c :: rest ∧ c.isDigit = false ∧ c.toLower ≠ 'n' ∧ c.toLower ≠ 'i' := by
  obtain ⟨c, rest, rfl | rfl, rfl | rfl⟩ := misplaced <;> exact ⟨_, _, rfl, by decide⟩

theorem natural_none : Numeral.natural? chars = none := by
  obtain ⟨c, rest, rfl, other, -⟩ := misplaced.head
  exact Numeral.natural_none List.mem_cons_self other

theorem float_digits_none {format : Format} (negative : Bool) :
    (Literal.floatDigits? negative chars : Option (Binary format)) = none := by
  obtain ⟨c, rest, rfl | rfl, rfl | rfl⟩ := misplaced <;> rfl

theorem float_none {format : Format} {all : List Char} {negative : Bool}
    (split : Literal.signed all = (negative, chars)) : (Literal.float? all : Option (Binary format)) = none := by
  have noDigits : (Literal.floatDigits? negative chars : Option (Binary format)) = none :=
    misplaced.float_digits_none negative
  obtain ⟨c, rest, rfl, -, noWord⟩ := misplaced.head
  exact (Literal.float_of_head split noWord).trans noDigits

theorem hex_digits_none : Literal.hexDigits? chars = none := by
  obtain ⟨c, rest, rfl | rfl, rfl | rfl⟩ := misplaced <;> rfl

theorem integer_text_none {text : String} {negative : Bool}
    (split : Literal.signed (Literal.ungrouped text) = (negative, chars))
    (unread : Numeral.integer? (Literal.ungrouped text) = none) : Literal.integer? text = none := by
  have noFloat : (Literal.float? (Literal.ungrouped text) : Option Double) = none := misplaced.float_none split
  simp only [Literal.integer?, split, misplaced.hex_digits_none, unread, noFloat]
  rfl

theorem decimal_none {sign : Char} (isSign : sign = '-' ∨ sign = '+') : Decimal.read? (sign :: chars) = none := by
  rw [Option.eq_none_iff_forall_ne_some]
  intro d read
  rcases decimal_some read with ⟨literal, same⟩ | ⟨c, rest, -, same⟩
  · have unsigned : literal.unsigned = chars := by
      have split := literal.signed_chars
      rw [← same] at split
      rcases isSign with rfl | rfl <;> exact (Prod.mk.inj split).2.symm
    have digits : (Literal.floatDigits? false literal.unsigned : Option Double) = _ :=
      literal.float_digits_unsigned false
    rw [unsigned, misplaced.float_digits_none] at digits
    cases digits
  · rcases isSign with rfl | rfl <;> cases same

end Misplaced

theorem to_word_int (n : Int) : ((Numeral.toWord? n).map Int64.toInt).getD n = n := by
  unfold Numeral.toWord?
  split
  · next within => exact Int64.toInt_ofInt_of_le within.1 within.2
  · rfl

theorem Literal.without_plus_of_head {c : Char} {rest : List Char} (noPlus : c ≠ '+') :
    withoutPlus (c :: rest) = c :: rest := by
  unfold withoutPlus
  split
  · next same => exact absurd (List.cons.inj same).1 noPlus
  · rfl

theorem Literal.without_plus_cases (chars : List Char) :
    chars = '+' :: withoutPlus chars ∨ withoutPlus chars = chars ∧ chars.head? ≠ some '+' := by
  cases chars with
  | nil => exact .inr ⟨rfl, nofun⟩
  | cons c rest =>
    by_cases plus : c = '+'
    · subst plus
      exact .inl rfl
    · exact .inr ⟨without_plus_of_head plus, fun same => plus (Option.some.inj same)⟩

namespace Writing

variable {literal : Writing}

theorem plain_decimal (plain : literal.IsPlain) :
    Decimal.read? literal.chars = some ⟨literal.sign.apply (Numeral.value literal.digits), 0⟩ := by
  have power : literal.power = 0 := by rw [Writing.power, plain.2]; rfl
  have places : literal.places = 0 := by rw [Writing.places, plain.1]; rfl
  rw [literal.decimal_chars, power, places]
  rfl

theorem decimal_value {d : Decimal} (read : Decimal.read? literal.chars = some d) : d.value = literal.value := by
  rw [literal.decimal_chars] at read
  split at read
  · cases read
    rw [Decimal.value, value_eq, neg_sub]
  · cases read

theorem without_plus (literal : Writing) : ∃ other : Writing, Literal.withoutPlus literal.chars = other.chars ∧
    (other.IsPlain ↔ literal.IsPlain) ∧ Decimal.read? other.chars = Decimal.read? literal.chars := by
  cases kind : literal.sign with
  | bare =>
    obtain ⟨c, rest, same, noSign, -⟩ := literal.unsigned_head
    refine ⟨literal, ?_, Iff.rfl, rfl⟩
    rw [chars, kind, same]
    exact Literal.without_plus_of_head noSign.2
  | plus =>
    refine ⟨{ literal with sign := .bare }, ?_, Iff.rfl, ?_⟩
    · rw [chars, kind]
      rfl
    · rw [decimal_chars, decimal_chars, kind]
      rfl
  | minus =>
    refine ⟨literal, ?_, Iff.rfl, rfl⟩
    rw [chars, kind]
    rfl

end Writing

section

variable {text : String} {d : Decimal} (read : Literal.decimal? text = some d)

include read

theorem big_integer_exact {n : Int} (whole : Numeral.integer? (Literal.withoutPlus (Literal.ungrouped text)) = some n) :
    Literal.bigInteger? text = some (towardZero d.value) := by
  have same : n = towardZero d.value := by
    obtain ⟨sign, digits, chars, run, nonempty⟩ := Numeral.integer_some whole
    obtain ⟨literal, written, plain, -⟩ := Writing.exists_plain sign run nonempty
    rw [Literal.decimal?, chars, ← written, Writing.plain_decimal plain] at read
    rw [chars, ← written, Writing.integer_plain literal plain] at whole
    cases read
    cases whole
    rw [Decimal.value, neg_zero, zpow_zero, mul_one, toward_zero_int]
  simp only [Literal.bigInteger?, whole, same]

theorem decimal_whole (short : (towardZero d.value).natAbs < 10 ^ 9999) : d.truncate? Literal.wholeLimit =
    if d.mantissa = 0 ∧ 10000 ≤ -d.scale then none else some (towardZero d.value) := by
  obtain ⟨base, mark, exponent, digits, places, -, -, -, -, -, range⟩ := decimal_steps read
  rw [← Decimal.whole_eq] at short ⊢
  exact Decimal.truncate_within short (by decide) range.2

theorem big_integer_rounded {literal : Writing} (written : Literal.ungrouped text = literal.chars)
    (part : Numeral.integer? (Literal.withoutPlus (Literal.ungrouped text)) = none)
    (short : (towardZero d.value).natAbs < 10 ^ 9999) :
    ∃ x : Double, Binary.IsNearest d.value x ∧ Literal.bigInteger? text =
      some (((x.truncate?.bind Numeral.toWord?).map Int64.toInt).getD (towardZero d.value)) := by
  obtain ⟨other, chars, plain, same⟩ := literal.without_plus
  have decimal : Decimal.read? literal.chars = some d := by
    rw [← same, ← chars, ← written]
    exact read
  have marked : ¬ literal.IsPlain := by
    intro digits
    rw [written, chars, other.integer_plain (plain.mpr digits)] at part
    cases part
  obtain ⟨x, nearest, word⟩ := literal.integer_text written
  rw [literal.integer_not_plain marked, Option.bind_none, Option.none_or] at word
  rw [← Writing.decimal_value decimal] at nearest
  refine ⟨x, nearest, ?_⟩
  simp only [Literal.bigInteger?, part, word]
  cases found : x.truncate?.bind Numeral.toWord? with
  | some n => rfl
  | none =>
    have nonzero : d.mantissa ≠ 0 := by
      intro zero
      have value : d.value = 0 := by rw [Decimal.value, zero, Int.cast_zero, zero_mul]
      rw [value] at nearest
      have room : Binary.HasRoom 0 :=
        Binary.has_room_of_short (show |(0 : ℚ)| = (0 : Nat) / 10 ^ 0 by simp) (by decide)
      rw [nearest.truncate_of_room room] at found
      cases found
    dsimp only
    rw [written, decimal, Option.bind_some, decimal_whole read short, if_neg fun both => nonzero both.1]
    rfl

-- Neither of the first two reads a misplaced sign. The third does, but not behind a plus.
theorem big_integer_misplaced (apart : ∀ literal : Writing, Literal.ungrouped text ≠ literal.chars)
    (part : Numeral.integer? (Literal.withoutPlus (Literal.ungrouped text)) = none)
    (short : (towardZero d.value).natAbs < 10 ^ 9999) :
    Literal.bigInteger? text =
      if (Literal.ungrouped text).head? = some '+' ∨ d.mantissa = 0 ∧ 10000 ≤ -d.scale then none
      else some (towardZero d.value) := by
  have last (noWord : Literal.integer? text = none) : Literal.bigInteger? text =
      (Decimal.read? (Literal.ungrouped text)).bind (Decimal.truncate? Literal.wholeLimit) := by
    simp only [Literal.bigInteger?, part, noWord]
  have whole := decimal_whole read short
  have accepted := decimal_some read
  unfold Literal.decimal? at read
  rcases Literal.without_plus_cases (Literal.ungrouped text) with behind | ⟨same, noPlus⟩
  · generalize Literal.withoutPlus (Literal.ungrouped text) = chars at *
    have misplaced : Misplaced chars := by
      rcases accepted with ⟨literal, rfl⟩ | ⟨c, rest, sign, rfl⟩
      · cases kind : literal.sign with
        | bare => exact absurd (by rw [behind, Writing.chars, kind]; rfl) (apart { literal with sign := .plus })
        | plus => exact ⟨'+', literal.unsigned, .inr rfl, .inl (by rw [Writing.chars, kind]; rfl)⟩
        | minus => exact ⟨'-', literal.unsigned, .inl rfl, .inl (by rw [Writing.chars, kind]; rfl)⟩
      · exact ⟨c, rest, sign, .inr rfl⟩
    have unread : Numeral.integer? (Literal.ungrouped text) = none := by
      rw [behind, Numeral.integer?, misplaced.natural_none]
      rfl
    have noWord := misplaced.integer_text_none (by rw [behind]; rfl) unread
    have plus : (Literal.ungrouped text).head? = some '+' := by rw [behind, List.head?_cons]
    rw [last noWord, if_pos (.inl plus), behind, misplaced.decimal_none (.inr rfl), Option.bind_none]
  · rw [same] at read part accepted
    obtain ⟨c, rest, sign, chars⟩ := accepted.resolve_left (not_exists.mpr apart)
    have misplaced : Misplaced (Literal.ungrouped text) := ⟨c, rest, sign, .inr chars⟩
    have noWord := misplaced.integer_text_none (by rw [chars]; rfl) part
    simp only [last noWord, read, Option.bind_some, whole, noPlus, false_or]

end

theorem big_integer_of_decimal {text : String} {d : Decimal} (read : Literal.decimal? text = some d)
    (short : (towardZero d.value).natAbs < 10 ^ 9999) :
    (∀ n, Numeral.integer? (Literal.withoutPlus (Literal.ungrouped text)) = some n →
      Literal.bigInteger? text = some (towardZero d.value)) ∧
    (Numeral.integer? (Literal.withoutPlus (Literal.ungrouped text)) = none →
      (∀ literal : Writing, Literal.ungrouped text = literal.chars →
        (Steady d.value → Literal.bigInteger? text = some (towardZero d.value)) ∧
        ∃ x : Double, Binary.IsNearest d.value x ∧ Literal.bigInteger? text =
          some (((x.truncate?.bind Numeral.toWord?).map Int64.toInt).getD (towardZero d.value))) ∧
      ((∀ literal : Writing, Literal.ungrouped text ≠ literal.chars) →
        Literal.bigInteger? text =
          if (Literal.ungrouped text).head? = some '+' ∨ d.mantissa = 0 ∧ 10000 ≤ -d.scale then none
          else some (towardZero d.value))) := by
  refine ⟨fun n whole => big_integer_exact read whole, fun part => ⟨fun literal written => ?_, fun apart => ?_⟩⟩
  · obtain ⟨x, nearest, big⟩ := big_integer_rounded read written part short
    refine ⟨fun steady => ?_, x, nearest, big⟩
    rw [big, nearest.word_of_steady steady, to_word_int]
  · exact big_integer_misplaced read apart part short

def beyondWords : Writing :=
  ⟨.bare, "36893488147419103232".toList, some ['5'], none, List.all_eq_true.mp rfl, by decide⟩

theorem beyond_words_cut : Literal.bigInteger? "36893488147419103232.5" = some (2 ^ 65) := by
  have value : Decimal.value ⟨368934881474191032325, 1⟩ = 2 ^ 65 + 1 / 2 := by
    rw [Decimal.value]
    norm_num
  have whole : towardZero (2 ^ 65 + 1 / 2) = 2 ^ 65 := by
    rw [towardZero, if_neg (by norm_num)]
    norm_num
  have steady : Steady (2 ^ 65 + 1 / 2) := .inr (.inl (by norm_num))
  have digits := Nat.pow_le_pow_right (show 0 < 10 by decide) (show 20 ≤ 9999 by decide)
  have short : (2 ^ 65 : Int).natAbs < 10 ^ 9999 := Nat.lt_of_lt_of_le (by decide) digits
  rw [← whole, ← value] at short ⊢
  rw [← value] at steady
  have law := big_integer_of_decimal
    (show Literal.decimal? "36893488147419103232.5" = some ⟨368934881474191032325, 1⟩ by decide) short
  exact ((law.2 (by decide)).1 beyondWords (by decide)).1 steady

theorem great_decimal_rounded :
    Literal.decimal? "9007199254740993.5" = some ⟨90071992547409935, 1⟩ ∧
      towardZero (Decimal.value ⟨90071992547409935, 1⟩) = 9007199254740993 ∧
      Literal.bigInteger? "9007199254740993.5" = some 9007199254740994 := by
  refine ⟨by decide, ?_, by decide⟩
  rw [Decimal.value, towardZero]
  norm_num

example : Literal.decimal? "++1.5" = some ⟨15, 1⟩ ∧ Literal.bigInteger? "++1.5" = none := by decide

end Recast
