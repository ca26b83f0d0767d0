import Recast.Proofs.Registry.Soundness
import Recast.Proofs.Scalar.Stability
set_option autoImplicit false

namespace Recast.Registry

theorem builtin_type_cases {target : Descriptor} (known : target ∈ builtinTypes)
    (other : target ≠ Value.jsonDescriptor) :
    ∃ scalar : Scalar, target = scalar.descriptor ∨ target = .arrayOf scalar.descriptor ∨
      target = .optionOf scalar.descriptor := by
  simp only [builtinTypes, builtins, List.map_append, List.mem_append, List.map_flatMap, List.mem_flatMap, builtinsOf,
    List.map_cons, List.map_nil, List.mem_cons, List.not_mem_nil, or_false] at known
  rcases known with ⟨scalar, -, form⟩ | json
  · exact ⟨scalar, form⟩
  · exact absurd json other

section

variable {registry : Registry} (plain : registry.customs = []) {scalar : Scalar} {value out : Value}

include plain

theorem scalar_again (converted : registry.convert scalar.descriptor value = .ok out) :
    registry.convert scalar.descriptor out = .ok out := by
  rw [convert_plain_scalar plain] at converted ⊢
  exact Scalar.convert_again converted

theorem array_again (converted : registry.convert (.arrayOf scalar.descriptor) value = .ok out) :
    registry.convert (.arrayOf scalar.descriptor) out = .ok out := by
  rw [convert_plain_array plain] at converted ⊢
  by_cases null : value.isNull = true
  · rw [if_pos null] at converted
    obtain rfl := Except.ok.inj converted
    rfl
  · rw [if_neg null] at converted
    obtain ⟨outs, each, rfl⟩ := Traversal.map_ok_iff.mp converted
    have again : ∀ item ∈ outs, registry.convert scalar.descriptor item = .ok item := by
      intro item present
      obtain ⟨given, -, first⟩ := Traversal.mapM_ok_mem each present
      exact scalar_again plain first
    have passed : outs.mapM (registry.convert scalar.descriptor) = .ok outs :=
      (Traversal.mapM_ok_iff ..).mpr (List.forall₂_same.mpr again)
    have items : itemsOf registry.config (.array outs) = outs := rfl
    rw [items, passed]
    rfl

theorem option_again (converted : registry.convert (.optionOf scalar.descriptor) value = .ok out) :
    registry.convert (.optionOf scalar.descriptor) out = .ok out := by
  rw [convert_plain_option plain] at converted ⊢
  by_cases null : value.isNull = true
  · rw [if_pos null] at converted
    obtain rfl := Except.ok.inj converted
    rfl
  · rw [if_neg null] at converted
    have again := scalar_again plain converted
    cases out with
    | null => rfl
    | _ => exact again

end

theorem conversion_idempotent {registry : Registry} (plain : registry.customs = []) {target : Descriptor}
    (known : target ∈ builtinTypes) (other : target ≠ Value.jsonDescriptor) {value out : Value}
    (converted : registry.convert target value = .ok out) : registry.convert target out = .ok out := by
  obtain ⟨scalar, rfl | rfl | rfl⟩ := builtin_type_cases known other
  · exact scalar_again plain converted
  · exact array_again plain converted
  · exact option_again plain converted

-- 2 ^ 24 + 1 is rounded to 2 ^ 24, which is a single number.
theorem rounded_items_again :
    let target : Descriptor := .arrayOf (.concrete "f32")
    let items : Value := .array [.int 16777217, .str " "]
    let rounded : Value := .array [.float (.ofInt 16777216), .null]
    (Registry.new .default).convert target items = .ok rounded ∧
      (Registry.new .default).convert target rounded = .ok rounded := by
  intro target items rounded
  have known : target ∈ builtinTypes := by decide
  have other : target ≠ Value.jsonDescriptor := by decide
  have converted : (Registry.new .default).convert target items = .ok rounded := rfl
  exact ⟨converted, conversion_idempotent rfl known other converted⟩

end Recast.Registry
