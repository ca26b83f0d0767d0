import Recast.Proofs.Number.BigIntegerText
import Recast.Proofs.Text.Pieces
set_option autoImplicit false

namespace Recast

def Sign.ofInt (n : Int) : Sign := if n < 0 then .minus else .bare

theorem Sign.apply_of_int (n : Int) : (ofInt n).apply n.natAbs = n := by
  by_cases negative : n < 0
  · simp [ofInt, negative, apply, isMinus, abs_of_neg negative]
  · simp [ofInt, negative, apply, isMinus, abs_of_nonneg (not_lt.mp negative)]

theorem digit_not_blank {c : Char} (digit : c.isDigit = true) : Text.isBlankChar c = false := by
  have bounds : 48 ≤ c.toNat ∧ c.toNat ≤ 57 := Char.isDigit_iff_toNat.mp digit
  simp [Text.isBlankChar, Text.inRanges, Text.blankRanges]
  omega

namespace Numeral

theorem are_digits (m : Nat) : ∀ c ∈ Nat.toDigits 10 m, c.isDigit = true := fun _ present =>
  Nat.isDigit_of_mem_toDigits (by decide) (by decide) present

theorem value_to_digits (m : Nat) : value (Nat.toDigits 10 m) = m := Nat.ofDigitChars_ten_toDigits

variable (n : Int)

theorem to_chars_eq : toChars n = (Sign.ofInt n).chars ++ Nat.toDigits 10 n.natAbs := by
  by_cases negative : n < 0 <;> simp [toChars, Sign.ofInt, negative, Sign.chars]

theorem integer_to_chars : integer? (toChars n) = some n := by
  rw [to_chars_eq, integer_signed (.ofInt n) (are_digits _) Nat.toDigits_ne_nil, value_to_digits, Sign.apply_of_int]

theorem mem_to_chars {c : Char} (present : c ∈ toChars n) : c.isDigit = true ∨ c = '-' := by
  by_cases negative : n < 0
  · rw [toChars, if_pos negative, List.mem_cons] at present
    exact present.symm.imp_left (are_digits _ c)
  · rw [toChars, if_neg negative] at present
    exact .inl (are_digits _ c present)

theorem not_mem_to_chars {mark : Char} (noDigit : mark.isDigit = false) (noMinus : mark ≠ '-') :
    mark ∉ toChars n := by
  intro present
  simpa [noDigit, noMinus] using mem_to_chars n present

theorem text_to_list : (text n).toList = toChars n := by
  rw [text, String.toList_ofList]

theorem text_eq : text n = toString n := by
  cases n with
  | ofNat m =>
    have natural : ¬ (m : Int) < 0 := Int.not_lt.mpr (Int.natCast_nonneg m)
    change text m = Nat.repr m
    simp [text, toChars, natural, Nat.repr_eq_ofList_toDigits]
  | negSucc m =>
    change text (Int.negSucc m) = "-" ++ Nat.repr (m + 1)
    simp [text, toChars, Nat.repr_eq_ofList_toDigits, Int.negSucc_lt_zero]

theorem text_solid : Text.IsSolid (text n) := by
  intro c present
  rw [text_to_list] at present
  cases mem_to_chars n present with
  | inl digit => exact digit_not_blank digit
  | inr minus => rw [minus]; rfl

theorem text_not_blank : Text.isBlank (text n) = false := by
  have nonempty : toChars n ≠ [] := by
    rw [to_chars_eq]
    exact List.append_ne_nil_of_right_ne_nil _ Nat.toDigits_ne_nil
  exact (text_solid n).not_blank (by rwa [text_to_list])

section

variable {low high : Int}

theorem read_unsigned {c : Char} {rest : List Char} (noMinus : c ≠ '-') (noPlus : c ≠ '+') :
    read low high (c :: rest) = readDigits low high false 0 (c :: rest) := by
  unfold read
  split <;> simp_all

variable (below : low ≤ 0)

include below

-- On a run of digits the number read so far only grows, so the bounds hold on the way if they hold in the end.
theorem read_digits_run {digits : List Char} (run : ∀ c ∈ digits, c.isDigit = true) {m : Nat}
    (fits : (Nat.ofDigitChars 10 digits m : Int) ≤ high) :
    readDigits low high false m digits = .ok (Nat.ofDigitChars 10 digits m) := by
  induction digits generalizing m with
  | nil => rfl
  | cons c rest ih =>
    obtain ⟨digit, others⟩ := List.forall_mem_cons.mp run
    rw [Nat.ofDigitChars_cons] at fits ⊢
    have next : 10 * (m : Int) + digitValue c = (10 * m + (c.toNat - '0'.toNat) : Nat) := by simp [digitValue]
    have grows : 10 * m + (c.toNat - '0'.toNat) ≤ Nat.ofDigitChars 10 rest (10 * m + (c.toNat - '0'.toNat)) := by
      rw [Nat.ofDigitChars_eq_ofDigitChars_zero]
      exact (Nat.le_mul_of_pos_left _ (Nat.pow_pos (by decide))).trans (Nat.le_add_right _ _)
    simp only [readDigits, digit, Bool.not_true, Bool.false_eq_true, if_false, next]
    rw [if_neg (by omega), if_neg (by omega), ih others fits]

theorem read_own_text {n : Int} (nonneg : 0 ≤ n) (fits : n ≤ high) : read low high (text n).toList = .ok n := by
  obtain ⟨m, rfl⟩ := Int.eq_ofNat_of_zero_le nonneg
  have chars : (text m).toList = Nat.toDigits 10 m := by
    rw [text_to_list, toChars, if_neg (by omega), Int.natAbs_natCast]
  obtain ⟨c, rest, written⟩ := List.exists_cons_of_ne_nil (Nat.toDigits_ne_nil (n := m) (b := 10))
  have digit : c.isDigit = true := are_digits m c (written ▸ List.mem_cons_self)
  have value : Nat.ofDigitChars 10 (Nat.toDigits 10 m) 0 = m := Nat.ofDigitChars_ten_toDigits
  have bound : (Nat.ofDigitChars 10 (Nat.toDigits 10 m) 0 : Int) ≤ high := by rwa [value]
  rw [chars, written, read_unsigned (ne_of_is_digit digit rfl) (ne_of_is_digit digit rfl), ← written]
  exact (read_digits_run below (are_digits m) bound).trans (by rw [value])

end

end Numeral

namespace Literal

variable (n : Int)

theorem ungrouped_text : ungrouped (Numeral.text n) = Numeral.toChars n := by
  rw [ungrouped, Numeral.text_to_list, List.filter_eq_self]
  intro c present
  have noLine : c ≠ '_' := ne_of_mem_of_not_mem present (Numeral.not_mem_to_chars n rfl (by decide))
  have noComma : c ≠ ',' := ne_of_mem_of_not_mem present (Numeral.not_mem_to_chars n rfl (by decide))
  simp [isGrouping, noLine, noComma]

theorem without_plus_text : withoutPlus (Numeral.toChars n) = Numeral.toChars n := by
  refine ((without_plus_cases _).resolve_left fun plus => ?_).1
  exact Numeral.not_mem_to_chars n rfl (by decide) (plus ▸ List.mem_cons_self)

theorem integer_own_text (n : Int64) : integer? (Numeral.text n.toInt) = some n := by
  obtain ⟨literal, chars, -, -⟩ :=
    Writing.exists_plain (.ofInt n.toInt) (Numeral.are_digits n.toInt.natAbs) Nat.toDigits_ne_nil
  rw [← Numeral.to_chars_eq] at chars
  have written : ungrouped (Numeral.text n.toInt) = literal.chars := by rw [ungrouped_text, chars]
  obtain ⟨x, -, read⟩ := literal.integer_text written
  rw [read, chars, Numeral.integer_to_chars, Option.bind_some, to_word_of_word, Option.some_or]

theorem big_integer_own_text : bigInteger? (Numeral.text n) = some n := by
  simp [bigInteger?, ungrouped_text, without_plus_text, Numeral.integer_to_chars]

end Literal

end Recast
