import Mathlib.Data.List.TakeWhile
import Recast.Proofs.Number.Writing
set_option autoImplicit false

namespace Recast

theorem is_alpha_iff {c : Char} :
    c.isAlpha = true ↔ 65 ≤ c.toNat ∧ c.toNat ≤ 90 ∨ 97 ≤ c.toNat ∧ c.toNat ≤ 122 := by
  have upper : c.isUpper = true ↔ 65 ≤ c.toNat ∧ c.toNat ≤ 90 := decide_eq_true_iff
  have lower : c.isLower = true ↔ 97 ≤ c.toNat ∧ c.toNat ≤ 122 :=
    Bool.and_eq_true_iff.trans (and_congr decide_eq_true_iff decide_eq_true_iff)
  rw [← upper, ← lower]
  exact Bool.or_eq_true_iff

theorem is_alpha_of_lower {c : Char} (letter : c.toLower.isAlpha = true) : c.isAlpha = true := by
  by_cases upper : c.val ≥ 'A'.val ∧ c.val ≤ 'Z'.val
  · exact is_alpha_iff.mpr (.inl upper)
  · have same : c.toLower = c := dif_neg upper
    rwa [same] at letter

theorem Exponent.mark_is_alpha (exponent : Exponent) : exponent.mark.isAlpha = true := by
  rcases (is_exponent_mark_iff _).mp exponent.isMark with mark | mark <;> rw [mark] <;> rfl

namespace Literal

theorem signed_split (chars : List Char) :
    ∃ sign : Sign, chars = sign.chars ++ (signed chars).2 ∧ (signed chars).1 = sign.isMinus := by
  unfold signed
  split
  · exact ⟨.minus, rfl, rfl⟩
  · exact ⟨.plus, rfl, rfl⟩
  · exact ⟨.bare, rfl, rfl⟩

theorem float_exponent_some {chars : List Char} {n : Int} (read : floatExponent? chars = some n) :
    ∃ exponent, chars = Writing.marked exponent := by
  cases chars with
  | nil => exact ⟨none, rfl⟩
  | cons c rest =>
    rw [floatExponent?] at read
    split at read
    · next isMark =>
      obtain ⟨sign, digits, rfl, run, nonempty⟩ := Numeral.integer_some read
      exact ⟨some ⟨c, sign, digits, isMark, run, nonempty⟩, rfl⟩
    · cases read

theorem behind_point_split (chars : List Char) :
    ∃ fraction, chars = Writing.pointed fraction ++ (behindPoint chars).2 ∧
      (behindPoint chars).1 = fraction.getD [] ∧ ∀ c ∈ fraction.getD [], c.isDigit = true := by
  unfold behindPoint
  split
  · next rest =>
    refine ⟨some (rest.takeWhile Char.isDigit), ?_, rfl, fun c present => List.mem_takeWhile_imp present⟩
    rw [Writing.pointed, List.cons_append, List.takeWhile_append_dropWhile]
  · exact ⟨none, rfl, rfl, List.forall_mem_nil _⟩

theorem float_digits_some {format : Format} {negative : Bool} {chars : List Char} {x : Binary format}
    (read : floatDigits? negative chars = some x) :
    ∃ literal : Writing, literal.sign = .bare ∧ literal.unsigned = chars := by
  unfold floatDigits? at read
  obtain ⟨fraction, behind, point, run⟩ := behind_point_split (chars.dropWhile Char.isDigit)
  simp only [point] at read
  split at read
  · cases read
  · next written =>
    obtain ⟨n, power, -⟩ := Option.bind_eq_some_iff.mp read
    obtain ⟨exponent, rest⟩ := float_exponent_some power
    refine ⟨⟨.bare, chars.takeWhile Char.isDigit, fraction, exponent, ?_, ?_⟩, rfl, ?_⟩
    · intro c present
      exact (List.mem_append.mp present).elim List.mem_takeWhile_imp (run c)
    · rwa [Ne, List.append_eq_nil_iff]
    · rw [Writing.unsigned, ← rest, ← behind, List.takeWhile_append_dropWhile]

theorem float_some {format : Format} {chars : List Char} {x : Binary format} (read : float? chars = some x) :
    (∃ literal : Writing, chars = literal.chars) ∨
      ∃ (sign : Sign) (word : List Char), chars = sign.chars ++ word ∧ word ≠ [] ∧ ∀ c ∈ word, c.isAlpha = true := by
  obtain ⟨sign, split, -⟩ := signed_split chars
  simp only [float?] at read
  generalize (signed chars).2 = rest at split read
  generalize (signed chars).1 = negative at read
  have letters {word : List Char} (same : rest.map Char.toLower = word) (nonempty : word ≠ [])
      (alpha : ∀ c ∈ word, c.isAlpha = true) :
      ∃ (sign : Sign) (word : List Char), chars = sign.chars ++ word ∧ word ≠ [] ∧ ∀ c ∈ word, c.isAlpha = true := by
    subst same
    exact ⟨sign, rest, split, by simpa using nonempty,
      fun c present => is_alpha_of_lower (alpha _ (List.mem_map_of_mem present))⟩
  split at read
  · next nan => exact .inr (letters nan (by decide) (List.all_eq_true.mp rfl))
  · split at read
    · next infinity =>
      rcases infinity with short | long
      · exact .inr (letters short (by decide) (List.all_eq_true.mp rfl))
      · exact .inr (letters long (by decide) (List.all_eq_true.mp rfl))
    · obtain ⟨literal, -, same⟩ := float_digits_some read
      exact .inl ⟨{ literal with sign }, by rw [split, ← same]; rfl⟩

end Literal

end Recast
