import Recast.Proofs.Number.Arithmetic
import Recast.Proofs.Number.Estimate
set_option autoImplicit false

namespace Recast

namespace Binary

variable {format : Format}

theorem canonical_unique {m₁ m₂ : Nat} {e₁ e₂ : Int} (first : format.Canonical m₁ e₁) (second : format.Canonical m₂ e₂)
    (same : (m₁ : ℚ) * 2 ^ e₁ = m₂ * 2 ^ e₂) : m₁ = m₂ ∧ e₁ = e₂ := by
  have forms := (nearest_scaled_exact false first rfl).symm.trans (nearest_scaled_exact false second same)
  cases forms
  exact ⟨rfl, rfl⟩

theorem on_side_eq_iff {negative other : Bool} {a b : ℚ} (first : 0 ≤ a) (second : 0 ≤ b) :
    onSide negative a = onSide other b ↔ (a = 0 ∧ b = 0) ∨ (negative = other ∧ a = b) := by
  have size : onSide negative a = onSide other b → a = b := by
    intro same
    rw [← abs_of_nonneg first, ← abs_of_nonneg second, ← abs_on_side negative, same, abs_on_side]
  by_cases sides : negative = other
  · subst sides
    refine ⟨fun same => .inr ⟨rfl, size same⟩, ?_⟩
    rintro (⟨rfl, rfl⟩ | ⟨-, rfl⟩) <;> rfl
  · constructor
    · intro same
      obtain rfl := size same
      have none := across_distance sides a a
      rw [same, sub_self, abs_zero, eq_comm, abs_eq_zero, ← two_mul, mul_eq_zero, or_iff_right two_ne_zero] at none
      exact .inl ⟨none, none⟩
    · rintro (⟨rfl, rfl⟩ | ⟨same, -⟩)
      · simp [onSide]
      · exact absurd same sides

inductive Extended where
  | number (q : ℚ)
  | infinite (negative : Bool)
deriving DecidableEq

def extended? : Binary format → Option Extended
  | .nan => none
  | .infinite negative => some (.infinite negative)
  | .finite negative significand exponent _ => some (.number (onSide negative (significand * 2 ^ exponent)))

theorem equal_iff (x y : Binary format) :
    x.equal y = true ↔ x.extended? = y.extended? ∧ x.extended? ≠ none := by
  cases x with
  | nan => simp [equal, extended?]
  | infinite negative => cases y <;> simp [equal, extended?]
  | finite n₁ m₁ e₁ first =>
    cases y with
    | nan | infinite => simp [equal, extended?]
    | finite n₂ m₂ e₂ second =>
      have zero (m : Nat) (e : Int) : (m : ℚ) * 2 ^ e = 0 ↔ m = 0 := by
        rw [mul_eq_zero, Nat.cast_eq_zero, or_iff_left (by positivity)]
      have forms : (m₁ : ℚ) * 2 ^ e₁ = m₂ * 2 ^ e₂ ↔ m₁ = m₂ ∧ e₁ = e₂ :=
        ⟨canonical_unique first second, fun same => by rw [same.1, same.2]⟩
      have sides : onSide n₁ (m₁ * 2 ^ e₁) = onSide n₂ (m₂ * 2 ^ e₂) ↔ _ :=
        on_side_eq_iff (by positivity) (by positivity)
      rw [zero, zero, forms] at sides
      simp [equal, extended?, sides, and_assoc]

end Binary

namespace Decimal

theorem strip_zeros_value (fuel digits : Nat) (exponent : Int) :
    ((stripZeros fuel digits exponent).1 : ℚ) * 10 ^ (stripZeros fuel digits exponent).2 = digits * 10 ^ exponent := by
  induction fuel generalizing digits exponent with
  | zero => rfl
  | succ fuel ih =>
    rw [stripZeros]
    by_cases more : digits ≠ 0 ∧ digits % 10 = 0
    · have whole : (digits : ℚ) = (digits / 10 : Nat) * 10 := by
        exact_mod_cast (Nat.div_mul_cancel (Nat.dvd_of_mod_eq_zero more.2)).symm
      rw [if_pos more, ih, whole, zpow_add_one₀ (by norm_num)]
      ring
    · rw [if_neg more]

theorem strip_zeros_last {fuel digits : Nat} (exponent : Int) (nonzero : digits ≠ 0) (short : digits < 10 ^ fuel) :
    ¬ 10 ∣ (stripZeros fuel digits exponent).1 := by
  induction fuel generalizing digits exponent with
  | zero => omega
  | succ fuel ih =>
    rw [stripZeros]
    by_cases more : digits ≠ 0 ∧ digits % 10 = 0
    · rw [if_pos more]
      exact ih _ (by omega) (by omega)
    · rw [if_neg more]
      omega

theorem reduced_value (d : Decimal) : (d.reduced.1 : ℚ) * 10 ^ d.reduced.2 = d.value := by
  rw [reduced]
  by_cases zero : d.mantissa = 0
  · simp [zero, value]
  · have magnitude := Binary.on_side_of_int d.mantissa (10 ^ (-d.scale))
    rw [if_neg zero, value, ← magnitude, ← strip_zeros_value (Binary.digitCount d.mantissa.natAbs)]
    by_cases negative : d.mantissa < 0 <;> simp [negative, onSide]

theorem reduced_last (d : Decimal) : (d.mantissa = 0 ∧ d.reduced = (0, 0)) ∨ (d.mantissa ≠ 0 ∧ ¬ 10 ∣ d.reduced.1) := by
  by_cases zero : d.mantissa = 0
  · exact .inl ⟨zero, if_pos zero⟩
  · have positive : 0 < d.mantissa.natAbs := Int.natAbs_pos.mpr zero
    have last := strip_zeros_last (-d.scale) positive.ne' (Binary.digit_count_bounds positive).2
    refine .inr ⟨zero, ?_⟩
    rw [reduced, if_neg zero]
    dsimp only
    split <;> omega

-- Of the forms of a number, one that does not end in zero has the greatest power of ten.
theorem power_at_most {m n : Int} {e f : Int} (same : (m : ℚ) * 10 ^ e = n * 10 ^ f) (last : ¬ 10 ∣ m) : f ≤ e := by
  by_contra above
  have split : (10 : ℚ) ^ f = 10 ^ (f - e).toNat * 10 ^ e := by
    rw [← zpow_natCast, ← zpow_add₀ (by norm_num)]
    congr 1
    omega
  have whole : (m : ℚ) = n * 10 ^ (f - e).toNat := by
    rw [split, ← mul_assoc] at same
    exact mul_right_cancel₀ (by positivity) same
  have multiple : m = n * 10 ^ (f - e).toNat := by exact_mod_cast whole
  exact last (multiple ▸ Dvd.dvd.mul_left (dvd_pow_self 10 (by omega)) n)

theorem equal_iff (a b : Decimal) : a.equal b = true ↔ a.value = b.value := by
  rw [equal, beq_iff_eq]
  constructor
  · intro same
    rw [← reduced_value, same, reduced_value]
  · intro same
    have values : (a.reduced.1 : ℚ) * 10 ^ a.reduced.2 = b.reduced.1 * 10 ^ b.reduced.2 := by
      rw [reduced_value, same, reduced_value]
    have none (d : Decimal) : d.value = 0 ↔ d.mantissa = 0 := by
      rw [value, mul_eq_zero, Int.cast_eq_zero, or_iff_left (by positivity)]
    obtain ⟨zero, first⟩ | ⟨nonzero, first⟩ := a.reduced_last
    · obtain ⟨-, second⟩ | ⟨nonzero, -⟩ := b.reduced_last
      · rw [first, second]
      · exact absurd ((none b).mp (same ▸ (none a).mpr zero)) nonzero
    · obtain ⟨zero, -⟩ | ⟨-, second⟩ := b.reduced_last
      · exact absurd ((none a).mp (same ▸ (none b).mpr zero)) nonzero
      · have powers : a.reduced.2 = b.reduced.2 := le_antisymm (power_at_most values.symm second) (power_at_most values first)
        rw [powers] at values
        have digits : (a.reduced.1 : ℚ) = b.reduced.1 := mul_right_cancel₀ (by positivity) values
        exact Prod.ext (by exact_mod_cast digits) powers

end Decimal

end Recast
