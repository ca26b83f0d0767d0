import Recast.Registry.Typed
set_option autoImplicit false

namespace Recast.Registry

variable {α : Type} [Typed α]

def YieldsNull (registry : Registry) (α : Type) [Typed α] (value : Value) : Prop :=
  value = .null ∨ registry.convert (Typed.descriptor α) value = .ok .null

theorem take_none_iff (input out : Value) : take α input out = .ok none ↔ out = .null := by
  constructor
  · intro nothing
    cases out with
    | null => rfl
    | _ =>
      simp only [take] at nothing
      split at nothing <;> simp at nothing
  · rintro rfl
    rfl

theorem take_present {input out : Value} (present : out ≠ .null) :
    take α input out = match Typed.extract out with
      | .ok x => .ok (some x)
      | .error (.shape target found) => .error (.ofUnfit (Typed.descriptor α) input (.shape target found))
      | .error error => .error error := by
  cases out with
  | null => exact absurd rfl present
  | _ => rfl

theorem produce_present (registry : Registry) (value : Value) (present : value.isNull = false) :
    registry.produce α value false =
      (registry.convert (Typed.descriptor α) value).bind (take α value) := by
  simp only [produce, attempt, present, convert]
  cases (registry.run (Typed.descriptor α) value).result.bind (take α value) with
  | error error => rfl
  | ok out => rfl

theorem produce_none_iff (registry : Registry) (value : Value) :
    registry.produce α value false = .ok none ↔ registry.YieldsNull α value := by
  by_cases null : value = .null
  · subst null
    exact iff_of_true rfl (.inl rfl)
  · rw [produce_present registry value (Value.is_null_false_iff.mpr null), YieldsNull, or_iff_right null]
    cases registry.convert (Typed.descriptor α) value with
    | error error => simp [Except.bind]
    | ok out => simpa [Except.bind] using take_none_iff value out

theorem produce_quiet (registry : Registry) (value : Value) :
    registry.produce α value true =
      .ok (match registry.produce α value false with | .ok out => out | .error _ => none) := by
  simp only [produce, attempt]
  cases value.isNull with
  | true => rfl
  | false =>
    cases (registry.run (Typed.descriptor α) value).result.bind (take α value) with
    | error error => rfl
    | ok out => rfl

-- What each way makes of an attempt that is not quiet, which is all that they differ in.
section

variable (registry : Registry) (value : Value)

theorem convert_to_eq :
    registry.convertTo α value = match registry.produce α value false with
      | .ok (some x) => .ok x
      | .ok none => .error (.reject (Typed.descriptor α) value .nothingProduced)
      | .error error => .error error := by
  rw [convertTo]
  cases registry.produce α value false with
  | error error => rfl
  | ok out => cases out <;> rfl

theorem convert_or_eq (default : α) :
    registry.convertOr value default = (registry.produce α value false).map (·.getD default) := by
  rw [convertOr]
  cases registry.produce α value false <;> rfl

theorem convert_checked_eq (default : Option α) :
    registry.convertChecked value default false = (registry.produce α value false).map (· <|> default) := by
  rw [convertChecked]
  cases registry.produce α value false <;> rfl

theorem quietly_opt_eq : registry.quietly? α value = (registry.convertTo α value).toOption := by
  rw [quietly?, produce_quiet, convert_to_eq]
  cases registry.produce α value false with
  | error error => rfl
  | ok out => cases out <;> rfl

theorem convert_checked_quiet (default : Option α) :
    registry.convertChecked value default true = .ok (registry.quietly? α value <|> default) := by
  rw [convertChecked, quietly?, produce_quiet]
  rfl

end

theorem modes_agree (registry : Registry) (value : Value) (default : α) :
    registry.quietly? α value = (registry.convertTo α value).toOption ∧
    registry.quietly value default = (registry.convertTo α value).toOption.getD default ∧
    registry.convertChecked value (some default) true = .ok (some (registry.quietly value default)) ∧
    (∀ fallback : Option α, ∃ out, registry.convertChecked value fallback true = .ok out) ∧
    ((∃ x, ¬ registry.YieldsNull α value ∧ registry.convertTo α value = .ok x ∧
        registry.convertOr value default = .ok x ∧
        registry.convertChecked value (some default) false = .ok (some x)) ∨
      (registry.YieldsNull α value ∧
        registry.convertTo α value = .error (.reject (Typed.descriptor α) value .nothingProduced) ∧
        registry.convertOr value default = .ok default ∧
        registry.convertChecked value (some default) false = .ok (some default)) ∨
      (∃ error, ¬ registry.YieldsNull α value ∧ registry.convertTo α value = .error error ∧
        registry.convertOr value default = .error error ∧
        registry.convertChecked value (some default) false = .error error)) ∧
    (∀ quiet, (registry.attempt α .null quiet).calls = []) := by
  refine ⟨quietly_opt_eq registry value, ?_, ?_, fun fallback => ?_, ?_, fun quiet => rfl⟩
  · rw [quietly, quietly_opt_eq]
  · rw [convert_checked_quiet, quietly]
    cases registry.quietly? α value <;> rfl
  · exact ⟨_, convert_checked_quiet registry value fallback⟩
  · rw [← produce_none_iff, convert_to_eq, convert_or_eq, convert_checked_eq]
    cases registry.produce α value false with
    | error error => exact .inr (.inr ⟨error, nofun, rfl, rfl, rfl⟩)
    | ok out =>
      cases out with
      | none => exact .inr (.inl ⟨rfl, rfl, rfl, rfl⟩)
      | some x => exact .inl ⟨x, nofun, rfl, rfl, rfl⟩

end Recast.Registry
