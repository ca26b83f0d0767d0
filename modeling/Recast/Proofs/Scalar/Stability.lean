import Recast.Proofs.Number.Rounding
import Recast.Proofs.Scalar.Soundness
set_option autoImplicit false

namespace Recast.Scalar

variable {config : Config} {value out : Value}

theorem read_null (scalar : Scalar) : scalar.read config .null = .ok .null := by
  cases scalar <;> rfl

theorem in_width_within {width : Width} {n : Int64} (range : (Scalar.int width).Holds (.int n)) :
    inWidth width n = .ok (.int n) := by
  obtain ⟨low, high⟩ := range
  have inside : ¬ (n.toInt < width.low ∨ width.high < n.toInt) := by omega
  rw [inWidth, if_neg inside]

theorem read_held {scalar : Scalar} (holds : scalar.Holds value) (wide : scalar ≠ .float .single) :
    scalar.read config value = .ok value := by
  cases scalar with
  | int width =>
    cases value with
    | int n => exact in_width_within holds
    | _ => cases holds
  | float format =>
    cases format with
    | single => exact absurd rfl wide
    | double =>
      cases value with
      | float x => rfl
      | _ => cases holds
  | _ =>
    cases value <;> first
      | rfl
      | cases holds

theorem in_format_widened (x : Single) : inFormat .single (x.toFormat .double) = .ok (.float (x.toFormat .double)) := by
  simp only [inFormat, Binary.widened_within, Binary.narrow_widened, Bool.false_eq_true, if_false]

theorem to_float_single (given : toFloat config .single value = .ok out) :
    out = .null ∨ ∃ x : Single, out = .float (x.toFormat .double) := by
  unfold toFloat at given
  by_cases blank : value.isBlank = true
  · rw [if_pos blank] at given
    exact .inl (Except.ok.inj given).symm
  · rw [if_neg blank] at given
    cases read : double config value with
    | error reason =>
      rw [read] at given
      cases given
    | ok float =>
      rw [read] at given
      cases float with
      | none => cases given
      | some x =>
        simp only [inFormat] at given
        by_cases beyond : x.exceeds .single = true
        · rw [if_pos beyond] at given
          cases given
        · rw [if_neg beyond] at given
          exact .inr ⟨x.toFormat .single, (Except.ok.inj given).symm⟩

theorem read_again {scalar : Scalar} (given : scalar.read config value = .ok out) :
    scalar.read config out = .ok out := by
  by_cases narrow : scalar = .float .single
  · subst narrow
    rcases to_float_single given with rfl | ⟨x, rfl⟩
    · exact read_null _
    · exact in_format_widened x
  · have sound := scalar.read_yields config value
    rw [given] at sound
    cases sound with
    | null => exact read_null scalar
    | value _ holds => exact read_held holds narrow

theorem convert_again {scalar : Scalar} {target : Descriptor}
    (converted : scalar.convert config target value = .ok out) : scalar.convert config target out = .ok out :=
  convert_ok_iff.mpr (read_again (convert_ok_iff.mp converted))

end Recast.Scalar
