import Recast.Proofs.Registry.Dispatch
import Recast.Proofs.Registry.Modes
import Recast.Proofs.Value.Embedding
set_option autoImplicit false

namespace Recast.Registry

def outcome {α : Type} (given : Except Error α) : Except ErrorKind α := given.mapError Error.kind

section

variable {α : Type} {given : Except Error α}

theorem outcome_ok_iff {x : α} : outcome given = .ok x ↔ given = .ok x := by
  cases given <;> simp [outcome, Except.mapError]

theorem outcome_error_iff {kind : ErrorKind} :
    outcome given = .error kind ↔ ∃ error, given = .error error ∧ error.kind = kind := by
  cases given <;> simp [outcome, Except.mapError]

theorem outcome_to_option : (outcome given).toOption = given.toOption := by
  cases given <;> rfl

end

section

variable {α : Type} [Typed α] {registry : Registry}

theorem take_option (input out : Value) :
    outcome (take (Option α) input out) = outcome ((take α input out).map (Option.map some)) := by
  by_cases null : out = .null
  · subst null
    rfl
  · rw [take_present null, take_present null, Typed.extract_present null]
    cases Typed.extract (α := α) out with
    | ok x => rfl
    | error error => cases error <;> rfl

variable (served : registry.resolve? (.optionOf (Typed.descriptor α)) = some (.builtin .option)) (value : Value)

include served

theorem produce_option : outcome (registry.produce (Option α) value false) =
    outcome ((registry.produce α value false).map (Option.map some)) := by
  by_cases null : value = .null
  · subst null
    rfl
  · have present : value.isNull = false := Value.is_null_false_iff.mpr null
    have same : registry.convert (Typed.descriptor (Option α)) value = registry.convert (Typed.descriptor α) value := by
      refine (convert_option served value).trans ?_
      rw [present, if_neg Bool.false_ne_true]
    rw [produce_present registry value present, produce_present registry value present, same]
    cases registry.convert (Typed.descriptor α) value with
    | error error => rfl
    | ok out => exact take_option value out

theorem convert_to_option :
    outcome (registry.convertTo (Option α) value) = outcome ((registry.convertTo α value).map some) := by
  have same := produce_option served value
  rw [convert_to_eq, convert_to_eq]
  cases given : registry.produce α value false with
  | error error =>
    rw [given] at same
    obtain ⟨other, failed, kind⟩ := outcome_error_iff.mp same
    rw [failed]
    exact congrArg Except.error kind
  | ok out =>
    rw [given] at same
    rw [outcome_ok_iff.mp same]
    cases out <;> rfl

theorem option_adds_wrapper :
    registry.quietly? (Option α) value = (registry.quietly? α value).map some ∧
    (∀ y, registry.convertTo (Option α) value = .ok y ↔ ∃ x, y = some x ∧ registry.convertTo α value = .ok x) ∧
    registry.convertTo (Option α) value ≠ .ok none ∧
    (∀ kind, (∃ error, registry.convertTo (Option α) value = .error error ∧ error.kind = kind) ↔
      ∃ error, registry.convertTo α value = .error error ∧ error.kind = kind) := by
  have same := convert_to_option served value
  have given (y : Option α) : registry.convertTo (Option α) value = .ok y ↔
      ∃ x, y = some x ∧ registry.convertTo α value = .ok x := by
    rw [← outcome_ok_iff, same, outcome_ok_iff, Traversal.map_ok_iff]
    exact exists_congr fun x => and_comm.trans (and_congr_left' eq_comm)
  refine ⟨?_, given, fun nothing => ?_, fun kind => ?_⟩
  · calc registry.quietly? (Option α) value
      _ = (outcome (registry.convertTo (Option α) value)).toOption := by rw [quietly_opt_eq, outcome_to_option]
      _ = ((registry.convertTo α value).map some).toOption := by rw [same, outcome_to_option]
      _ = (registry.quietly? α value).map some := by
        rw [quietly_opt_eq]
        cases registry.convertTo α value <;> rfl
  · obtain ⟨x, something, -⟩ := (given none).mp nothing
    cases something
  · rw [← outcome_error_iff, same, outcome_error_iff]
    simp only [Traversal.map_error_iff]

end

theorem fickle_byte_in_option :
    let answer : Value → Except Error Value := fun value =>
      match value with
      | .bool true => .ok (.int 7)
      | .bool false => .ok .null
      | .str text => .ok (.str text)
      | _ => .error (.contract "Fickle" .forward)
    let registry := (new .default).put (.concrete "i8") (.custom 0 fun _ _ value => .done (answer value))
    registry.quietly? (Option Int8) (.bool true) = some (some 7) ∧
      registry.convertTo (Option Int8) (.bool true) = .ok (some 7) ∧
      registry.convertTo (Option Int8) (.bool false) ≠ .ok none ∧
      registry.quietly? (Option Int8) (.bool false) = none ∧
      (∃ error, registry.convertTo (Option Int8) (.str "7") = .error error ∧ error.kind = .conversion) ∧
      (∃ error, registry.convertTo (Option Int8) .null = .error error ∧ error.kind = .conversion) ∧
      (∃ error, registry.convertTo (Option Int8) (.int 7) = .error error ∧ error.kind = .contractViolation) := by
  intro answer registry
  have served : registry.resolve? (.optionOf (Typed.descriptor Int8)) = some (.builtin .option) := rfl
  have wrapped := option_adds_wrapper served
  obtain ⟨quiet, given, -, -⟩ := wrapped (.bool true)
  obtain ⟨nothing, -, missing, -⟩ := wrapped (.bool false)
  obtain ⟨-, -, -, unfit⟩ := wrapped (.str "7")
  obtain ⟨-, -, -, absent⟩ := wrapped .null
  obtain ⟨-, -, -, broken⟩ := wrapped (.int 7)
  exact ⟨quiet, (given (some 7)).mpr ⟨7, rfl, rfl⟩, missing, nothing, (unfit .conversion).mpr ⟨_, rfl, rfl⟩,
    (absent .conversion).mpr ⟨_, rfl, rfl⟩, (broken .contractViolation).mpr ⟨_, rfl, rfl⟩⟩

end Recast.Registry
