import Mathlib.Data.Bool.AllAny
import Mathlib.Data.Nat.Digits.Defs
import Recast.Proofs.Number.Whole
import Recast.Proofs.Number.Writing
set_option autoImplicit false

namespace Recast

namespace Literal

def hexAlphabet : List Char := "0123456789abcdef".toList

def IsHexDigit (c : Char) : Prop := c.toLower ∈ hexAlphabet

instance (c : Char) : Decidable (IsHexDigit c) := inferInstanceAs (Decidable (_ ∈ _))

def hexNumber (digits : List Char) : Nat :=
  Nat.ofDigits 16 (digits.reverse.map fun c => hexAlphabet.idxOf c.toLower)

theorem hex_value_ascii : ∀ n < 128, hexValue? (Char.ofNat n) =
    if IsHexDigit (Char.ofNat n) then some (hexAlphabet.idxOf (Char.ofNat n).toLower) else none := by
  decide +kernel

theorem hex_value_beyond {c : Char} (beyond : 128 ≤ c.toNat) : hexValue? c = none := by
  have above {high : Char} (ascii : high.toNat < 128) : ¬ c ≤ high := by
    intro low
    have : c.toNat ≤ high.toNat := low
    omega
  have noDigit : ¬ c.isDigit = true := by
    intro digit
    have low : c ≤ '9' := of_decide_eq_true (Bool.and_eq_true_iff.mp digit).2
    exact above (by decide) low
  rw [hexValue?, if_neg noDigit, if_neg fun small => above (by decide) small.2,
    if_neg fun capital => above (by decide) capital.2]

theorem alphabet_ascii : ∀ c ∈ hexAlphabet, c.toNat < 128 := List.all_iff_forall_prop.mp rfl

theorem to_lower_beyond {c : Char} (beyond : 128 ≤ c.toNat) : c.toLower = c := by
  refine dif_neg ?_
  rintro ⟨-, upper⟩
  have : c.toNat ≤ 'Z'.toNat := upper
  have : 'Z'.toNat = 90 := rfl
  omega

theorem hex_value_eq (c : Char) :
    hexValue? c = if IsHexDigit c then some (hexAlphabet.idxOf c.toLower) else none := by
  by_cases ascii : c.toNat < 128
  · have value := hex_value_ascii c.toNat ascii
    rwa [Char.ofNat_toNat] at value
  · have noDigit : ¬ IsHexDigit c := by
      intro digit
      rw [IsHexDigit, to_lower_beyond (not_lt.mp ascii)] at digit
      exact ascii (alphabet_ascii c digit)
    rw [hex_value_beyond (not_lt.mp ascii), if_neg noDigit]

theorem hex_number_cons (c : Char) (rest : List Char) :
    hexNumber (c :: rest) = hexAlphabet.idxOf c.toLower * 16 ^ rest.length + hexNumber rest := by
  unfold hexNumber
  rw [List.reverse_cons, List.map_append, Nat.ofDigits_append, List.length_map, List.length_reverse,
    List.map_singleton, Nat.ofDigits_singleton, Nat.add_comm, Nat.mul_comm]

theorem hexadecimal_from (digits : List Char) (n : Nat) :
    digits.foldlM (fun n c => (hexValue? c).map fun digit => 16 * n + digit) n =
      if digits.all (IsHexDigit ·) then some (n * 16 ^ digits.length + hexNumber digits) else none := by
  induction digits generalizing n with
  | nil => simp [hexNumber]
  | cons c rest ih =>
    rw [List.foldlM_cons, hex_value_eq]
    by_cases digit : IsHexDigit c
    · rw [if_pos digit, Option.map_some, Option.bind_eq_bind, Option.bind_some, ih, hex_number_cons,
        List.length_cons]
      simp only [List.all_cons, decide_eq_true digit, Bool.true_and]
      congr 2
      ring
    · rw [if_neg digit, List.all_cons, decide_eq_false digit, Bool.false_and]
      rfl

theorem hex_word_eq (digits : List Char) :
    hexWord? digits =
      if (digits ≠ [] ∧ digits.all (IsHexDigit ·)) ∧ hexNumber digits < 2 ^ 64 then some (hexNumber digits)
      else none := by
  rw [hexWord?, hexadecimal?, hexadecimal_from, Nat.zero_mul, Nat.zero_add]
  by_cases empty : digits = []
  · rw [if_pos empty, if_neg fun all => all.1.1 empty]
  · rw [if_neg empty]
    by_cases run : digits.all (IsHexDigit ·) = true
    · simp only [if_pos run, Option.filter_some, decide_eq_true_eq, and_iff_right (And.intro empty run)]
    · rw [if_neg run, if_neg fun all => run all.1.2, Option.filter_none]

theorem hex_digits_marked {x : Char} (mark : x = 'x' ∨ x = 'X') (digits : List Char) :
    hexDigits? ('0' :: x :: digits) = some digits := by
  rcases mark with rfl | rfl <;> rfl

theorem signed_marked (sign : Sign) (rest : List Char) :
    signed (sign.chars ++ '0' :: rest) = (sign.isMinus, '0' :: rest) := by
  cases sign <;> rfl

end Literal

open Literal

theorem hexadecimal_exact {text : String} {sign : Sign} {x : Char} {digits : List Char}
    (written : ungrouped text = sign.chars ++ '0' :: x :: digits) (mark : x = 'x' ∨ x = 'X') :
    (digits ≠ [] → (∀ c ∈ digits, IsHexDigit c) → Literal.integer? text =
      if -2 ^ 63 ≤ sign.apply (hexNumber digits) ∧ sign.apply (hexNumber digits) < 2 ^ 63 then
        some (Int64.ofInt (sign.apply (hexNumber digits)))
      else none) ∧
    (digits = [] ∨ (∃ c ∈ digits, ¬ IsHexDigit c) → Literal.integer? text = none) := by
  have read : Literal.integer? text = (hexWord? digits).bind fun n => Numeral.toWord? (sign.apply n) := by
    simp only [Literal.integer?, written, signed_marked, hex_digits_marked mark, Sign.apply]
  rw [read, hex_word_eq]
  constructor
  · intro nonempty run
    by_cases fits : hexNumber digits < 2 ^ 64
    · rw [if_pos ⟨⟨nonempty, List.all_iff_forall_prop.mpr run⟩, fits⟩, Option.bind_some, Numeral.toWord?]
    · have outside : ¬ (-2 ^ 63 ≤ sign.apply (hexNumber digits) ∧ sign.apply (hexNumber digits) < 2 ^ 63) := by
        unfold Sign.apply
        split <;> omega
      rw [if_neg fun all => fits all.2, if_neg outside, Option.bind_none]
  · rintro (empty | ⟨c, present, other⟩)
    · rw [if_neg fun all => all.1.1 empty, Option.bind_none]
    · rw [if_neg fun all => other (List.all_iff_forall_prop.mp all.1.2 c present), Option.bind_none]

theorem least_word_in_hexadecimal :
    Literal.integer? "-0X_0000_0000_8000_0000_0000_0000" = some Int64.minValue ∧ Literal.integer? "0x-1F" = none := by
  have least : ungrouped "-0X_0000_0000_8000_0000_0000_0000" =
      Sign.minus.chars ++ '0' :: 'X' :: "000000008000000000000000".toList := by decide
  have second : ungrouped "0x-1F" = Sign.bare.chars ++ ['0', 'x', '-', '1', 'F'] := by decide
  have digits : ∀ c ∈ "000000008000000000000000".toList, IsHexDigit c := List.all_iff_forall_prop.mp rfl
  refine ⟨((hexadecimal_exact least (.inr rfl)).1 (by decide) digits).trans (by decide), ?_⟩
  exact (hexadecimal_exact second (.inl rfl)).2 (.inr ⟨'-', by decide, by decide⟩)

end Recast
