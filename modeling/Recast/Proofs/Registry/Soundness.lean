import Recast.Proofs.Registry.Dispatch
import Recast.Proofs.Scalar.Soundness
set_option autoImplicit false

namespace Recast

def Scalar.Accepts (scalar : Scalar) (out : Value) : Prop :=
  out = .null ∨ ∃ x : scalar.Carrier, Typed.extract out = .ok x

theorem Scalar.convert_accepted {config : Config} {scalar : Scalar} {target : Descriptor} {value out : Value}
    (converted : scalar.convert config target value = .ok out) : scalar.Accepts out := by
  have sound := scalar.read_yields config value
  rw [convert_ok_iff.mp converted] at sound
  cases sound with
  | null => exact .inl rfl
  | value _ holds => exact .inr ((scalar.extract_iff out).mpr holds)

theorem Scalar.convert_rejected {config : Config} {scalar : Scalar} {target : Descriptor} {value : Value}
    {failed : Error} (rejected : scalar.convert config target value = .error failed) :
    ∃ reason, failed = .reject target value reason := by
  obtain ⟨reason, -, same⟩ := convert_error_iff.mp rejected
  exact ⟨reason, same⟩

theorem Subject.of_value_eq (value : Value) :
    Subject.ofValue value = ⟨value.typeName, if value.text.length ≤ 64 then value.text
      else String.ofList (value.text.toList.take 64) ++ "..."⟩ := by
  have same : value.text.toList.length = value.text.length := String.length_toList
  simp only [ofValue, abridged, previewLimit, same]
  by_cases short : value.text.length ≤ 64
  · rw [if_pos short, if_neg (Nat.not_lt.mpr short)]
  · rw [if_neg short, if_pos (Nat.not_le.mp short)]

namespace Registry

section

variable {registry : Registry} (plain : registry.customs = []) (scalar : Scalar) (value : Value)

include plain

theorem convert_plain_scalar :
    registry.convert scalar.descriptor value = scalar.convert registry.config scalar.descriptor value :=
  convert_scalar (resolve_builtin (custom_none plain _) (builtin_forms scalar).1) value

theorem convert_plain_ok_iff {out : Value} :
    registry.convert scalar.descriptor value = .ok out ↔ scalar.read registry.config value = .ok out := by
  rw [convert_plain_scalar plain, Scalar.convert_ok_iff]

theorem convert_plain_refused_iff : (∃ failed, registry.convert scalar.descriptor value = .error failed) ↔
    ∃ reason, scalar.read registry.config value = .error reason := by
  rw [convert_plain_scalar plain]
  simp only [Scalar.convert_error_iff]
  rw [exists_comm]
  simp

theorem convert_plain_array :
    registry.convert (.arrayOf scalar.descriptor) value =
      if value.isNull then .ok .null
      else ((itemsOf registry.config value).mapM (registry.convert scalar.descriptor)).map .array :=
  convert_array (resolve_builtin (custom_none plain _) (builtin_forms scalar).2.1) value

theorem convert_plain_option :
    registry.convert (.optionOf scalar.descriptor) value =
      if value.isNull then .ok .null else registry.convert scalar.descriptor value :=
  convert_option (resolve_builtin (custom_none plain _) (builtin_forms scalar).2.2) value

theorem scalar_sound :
    (∀ out, registry.convert scalar.descriptor value = .ok out → scalar.Accepts out) ∧
      ∀ failed, registry.convert scalar.descriptor value = .error failed →
        ∃ reason, failed = .reject scalar.descriptor value reason := by
  rw [convert_plain_scalar plain]
  exact ⟨fun _ converted => Scalar.convert_accepted converted,
    fun _ rejected => Scalar.convert_rejected rejected⟩

theorem array_sound :
    (∀ out, registry.convert (.arrayOf scalar.descriptor) value = .ok out →
      out = .null ∨ ∃ outs, out = .array outs ∧ ∀ item ∈ outs, scalar.Accepts item) ∧
      ∀ failed, registry.convert (.arrayOf scalar.descriptor) value = .error failed →
        ∃ item ∈ itemsOf registry.config value, ∃ reason, failed = .reject scalar.descriptor item reason := by
  rw [convert_plain_array plain]
  by_cases null : value.isNull = true
  · rw [if_pos null]
    exact ⟨fun out converted => .inl (Except.ok.inj converted).symm, fun failed rejected => nomatch rejected⟩
  · rw [if_neg null]
    constructor
    · intro out converted
      obtain ⟨outs, each, rfl⟩ := Traversal.map_ok_iff.mp converted
      refine .inr ⟨outs, rfl, fun item present => ?_⟩
      obtain ⟨given, -, converted⟩ := Traversal.mapM_ok_mem each present
      exact (scalar_sound plain scalar given).1 item converted
    · intro failed rejected
      obtain ⟨before, item, after, -, split, -, first⟩ :=
        (Traversal.mapM_error_iff ..).mp (Traversal.map_error_iff.mp rejected)
      have present : item ∈ itemsOf registry.config value := by
        rw [split]
        exact List.mem_append_cons_self
      exact ⟨item, present, (scalar_sound plain scalar item).2 failed first⟩

theorem option_sound :
    (∀ out, registry.convert (.optionOf scalar.descriptor) value = .ok out → scalar.Accepts out) ∧
      ∀ failed, registry.convert (.optionOf scalar.descriptor) value = .error failed →
        ∃ reason, failed = .reject scalar.descriptor value reason := by
  rw [convert_plain_option plain]
  by_cases null : value.isNull = true
  · rw [if_pos null]
    exact ⟨fun out converted => .inl (Except.ok.inj converted).symm, fun failed rejected => nomatch rejected⟩
  · rw [if_neg null]
    exact scalar_sound plain scalar value

end

theorem builtins_sound (registry : Registry) (plain : registry.customs = []) (scalar : Scalar) (value : Value) :
    Typed.descriptor scalar.Carrier = scalar.descriptor ∧
    (∀ out, registry.convert scalar.descriptor value = .ok out → scalar.Accepts out) ∧
    (∀ failed, registry.convert scalar.descriptor value = .error failed →
      ∃ reason, failed = .rejected ⟨value.typeName, if value.text.length ≤ 64 then value.text
        else String.ofList (value.text.toList.take 64) ++ "..."⟩ scalar.descriptor reason) ∧
    (∀ out, registry.convert (.arrayOf scalar.descriptor) value = .ok out →
      out = .null ∨ ∃ outs, out = .array outs ∧ ∀ item ∈ outs, scalar.Accepts item) ∧
    (∀ failed, registry.convert (.arrayOf scalar.descriptor) value = .error failed →
      ∃ item ∈ itemsOf registry.config value, ∃ reason,
        failed = .rejected (.ofValue item) scalar.descriptor reason) ∧
    (∀ out, registry.convert (.optionOf scalar.descriptor) value = .ok out → scalar.Accepts out) ∧
    (∀ failed, registry.convert (.optionOf scalar.descriptor) value = .error failed →
      ∃ reason, failed = .rejected (.ofValue value) scalar.descriptor reason) := by
  have single := scalar_sound plain scalar value
  have several := array_sound plain scalar value
  have optional := option_sound plain scalar value
  rw [← Subject.of_value_eq]
  exact ⟨scalar.carrier_descriptor, single.1, single.2, several.1, several.2, optional.1, optional.2⟩

theorem truth_becomes_sound_integer :
    (Registry.new .default).customs = [] ∧
      (Registry.new .default).convert (.concrete "i8") (.bool true) = .ok (.int 1) ∧
      (Scalar.int .bits8).Accepts (.int 1) :=
  ⟨rfl, rfl, (builtins_sound (.new .default) rfl (.int .bits8) (.bool true)).2.1 (.int 1) rfl⟩

end Registry

end Recast
