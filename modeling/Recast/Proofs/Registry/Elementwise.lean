import Recast.Proofs.Registry.Dispatch
import Recast.Proofs.Registry.Misfit
import Recast.Proofs.Scalar.Stability
import Recast.Proofs.Text.Pieces
set_option autoImplicit false

namespace Recast

namespace Registry

section

variable {α : Type} [Typed α] (registry : Registry)

theorem take_some_iff (input out : Value) (x : α) :
    take α input out = .ok (some x) ↔ out ≠ .null ∧ Typed.extract out = .ok x := by
  by_cases null : out = .null
  · subst null
    exact iff_of_false nofun fun given => given.1 rfl
  · rw [take_present null, and_iff_right null]
    cases Typed.extract (α := α) out with
    | ok given => simp
    | error error => cases error <;> simp

theorem quietly_some_iff (value : Value) (x : α) :
    registry.quietly? α value = some x ↔
      value ≠ .null ∧ ∃ out, registry.convert (Typed.descriptor α) value = .ok out ∧
        out ≠ .null ∧ Typed.extract out = .ok x := by
  have produced : registry.quietly? α value = some x ↔ registry.produce α value false = .ok (some x) := by
    rw [quietly?, produce_quiet]
    cases registry.produce α value false with
    | error error => simp
    | ok out => simp
  rw [produced]
  by_cases null : value = .null
  · subst null
    refine iff_of_false (fun given => ?_) fun given => given.1 rfl
    cases given
  · rw [produce_present registry value (Value.is_null_false_iff.mpr null), and_iff_right null]
    cases registry.convert (Typed.descriptor α) value with
    | error error => simp [Except.bind]
    | ok out => simp [Except.bind, take_some_iff]

def ConvertsAlike (registry : Registry) (α : Type) [Typed α] (value other : Value) : Prop :=
  registry.convert (Typed.descriptor α) value = registry.convert (Typed.descriptor α) other ∧
    registry.quietly? α value = registry.quietly? α other

theorem converts_alike {value other : Value} (present : value ≠ .null) (alsoPresent : other ≠ .null)
    (same : registry.convert (Typed.descriptor α) value = registry.convert (Typed.descriptor α) other) :
    registry.ConvertsAlike α value other := by
  refine ⟨same, Option.ext fun x => ?_⟩
  rw [quietly_some_iff, quietly_some_iff, same, and_iff_right present, and_iff_right alsoPresent]

variable {registry} (served : registry.resolve? (.arrayOf (Typed.descriptor α)) = some (.builtin .array))

include served

theorem converts_as_items (value : Value) (present : value ≠ .null) :
    registry.ConvertsAlike (List α) value (.array (itemsOf registry.config value)) := by
  refine converts_alike registry present nofun ?_
  change registry.convert (.arrayOf (Typed.descriptor α)) value = registry.convert (.arrayOf (Typed.descriptor α)) _
  rw [convert_array served, convert_array served, Value.is_null_false_iff.mpr present]
  rfl

theorem quietly_list_iff (items : List Value) (xs : List α) :
    registry.quietly? (List α) (.array items) = some xs ↔
      List.Forall₂ (fun item x => ∃ out, registry.convert (Typed.descriptor α) item = .ok out ∧
        Typed.extract out = .ok x) items xs := by
  have converted : registry.convert (Typed.descriptor (List α)) (.array items) =
      (items.mapM (registry.convert (Typed.descriptor α))).map .array := convert_array served (.array items)
  have taken : ∀ outs, Typed.extract (α := List α) (.array outs) = outs.mapM Typed.extract :=
    Typed.extract_items_eq
  rw [quietly_some_iff, converted, ← Traversal.forall₂_comp_iff]
  simp only [Traversal.map_ok_iff, ← Traversal.mapM_ok_iff]
  constructor
  · rintro ⟨-, out, ⟨outs, each, rfl⟩, -, extracted⟩
    exact ⟨outs, each, (taken outs).symm.trans extracted⟩
  · rintro ⟨outs, each, extracted⟩
    exact ⟨nofun, .array outs, ⟨outs, each, rfl⟩, nofun, (taken outs).trans extracted⟩

end

section

variable {registry : Registry} {scalar : Scalar}

-- What is taken out of an item as it is converted in the list is what a conversion of the item alone gives. Null is
-- not converted alone; the built-in converter makes nothing of it either.
theorem quietly_item_iff {item : Value}
    (nothing : item ≠ .null ∨ registry.resolve? scalar.descriptor = some (.builtin (.scalar scalar)))
    (x : scalar.Carrier) :
    registry.quietly? scalar.Carrier item = some x ↔
      ∃ out, registry.convert scalar.descriptor item = .ok out ∧ Typed.extract out = .ok x := by
  rw [quietly_some_iff, scalar.carrier_descriptor]
  constructor
  · rintro ⟨-, out, given, -, taken⟩
    exact ⟨out, given, taken⟩
  · rintro ⟨out, given, taken⟩
    have something : out ≠ .null := by
      rintro rfl
      exact Typed.extract_null x taken
    refine ⟨?_, out, given, something, taken⟩
    rintro rfl
    have builtin := nothing.resolve_left fun present => present rfl
    rw [convert_scalar builtin, Scalar.convert_ok_iff, Scalar.read_null] at given
    exact something (Except.ok.inj given).symm

theorem items_of_text (config : Config) (text : String) :
    itemsOf config (.str text) = if Text.isBlank text then []
      else (text.toList.splitOn config.arraySeparator).map fun piece =>
        .str (if config.trimStrings then Text.trim (String.ofList piece) else String.ofList piece) := by
  rw [itemsOf, splitText, Text.split, Text.pieces_eq, List.map_map]
  rfl

theorem items_of_other (config : Config) {value : Value} (noArray : value.array? = none) (noText : value.str? = none) :
    itemsOf config value = [value] := by
  cases value with
  | array items => cases noArray
  | str text => cases noText
  | _ => rfl

end

theorem list_lifts_items (registry : Registry) (scalar : Scalar)
    (served : registry.resolve? (.arrayOf scalar.descriptor) = some (.builtin .array)) :
    (∀ items : List Value,
      (.null ∉ items ∨ registry.resolve? scalar.descriptor = some (.builtin (.scalar scalar))) →
      (∀ xs : List scalar.Carrier, registry.quietly? (List scalar.Carrier) (.array items) = some xs ↔
        items.length = xs.length ∧ ∀ (i : Nat) (inItems : i < items.length) (inList : i < xs.length),
          registry.quietly? scalar.Carrier items[i] = some xs[i]) ∧
      (registry.quietly? (List scalar.Carrier) (.array items) = none ↔
        ∃ item ∈ items, registry.quietly? scalar.Carrier item = none)) ∧
    (∀ text, Text.isBlank text = false →
      registry.ConvertsAlike (List scalar.Carrier) (.str text)
        (.array ((text.toList.splitOn registry.config.arraySeparator).map fun piece =>
          .str (if registry.config.trimStrings then Text.trim (String.ofList piece) else String.ofList piece)))) ∧
    (∀ text, Text.isBlank text = true → registry.ConvertsAlike (List scalar.Carrier) (.str text) (.array [])) ∧
    (∀ value : Value, value ≠ .null → value.array? = none → value.str? = none →
      registry.ConvertsAlike (List scalar.Carrier) value (.array [value])) := by
  have listed : registry.resolve? (.arrayOf (Typed.descriptor scalar.Carrier)) = some (.builtin .array) := by
    rw [scalar.carrier_descriptor]
    exact served
  refine ⟨fun items nothing => ?_, fun text written => ?_, fun text blank => ?_, fun value present noArray noText => ?_⟩
  · have each : ∀ xs : List scalar.Carrier, registry.quietly? (List scalar.Carrier) (.array items) = some xs ↔
        List.Forall₂ (fun item x => registry.quietly? scalar.Carrier item = some x) items xs := by
      intro xs
      rw [quietly_list_iff listed, scalar.carrier_descriptor]
      refine Traversal.forall₂_iff_of_mem fun item inside x => (quietly_item_iff ?_ x).symm
      exact nothing.imp_left fun absent => ne_of_mem_of_not_mem inside absent
    refine ⟨fun xs => (each xs).trans List.forall₂_iff_get, ?_⟩
    calc registry.quietly? (List scalar.Carrier) (.array items) = none
      _ ↔ ¬ ∃ xs, registry.quietly? (List scalar.Carrier) (.array items) = some xs := by
        rw [← Option.isSome_iff_exists, Option.not_isSome_iff_eq_none]
      _ ↔ ¬ ∀ item ∈ items, ∃ x, registry.quietly? scalar.Carrier item = some x := by
        rw [exists_congr each, Traversal.forall₂_exists_iff]
      _ ↔ ∃ item ∈ items, registry.quietly? scalar.Carrier item = none := by
        simp [Option.eq_none_iff_forall_ne_some]
  · have alike := converts_as_items listed (.str text) nofun
    rwa [items_of_text, written] at alike
  · have alike := converts_as_items listed (.str text) nofun
    rwa [items_of_text, blank] at alike
  · have alike := converts_as_items listed value present
    rwa [items_of_other _ noArray noText] at alike

theorem answers_lifted :
    let answer : Descriptor → Value → Except Error Value := fun target value =>
      match value.str? with
      | some text => .ok (if text = "yes" then .bool true else .null)
      | none => .error (.reject target value .notBoolean)
    let registry := (new .default).put Scalar.bool.descriptor
      (.custom 0 fun _ target value => .done (answer target value))
    registry.resolve? (.arrayOf Scalar.bool.descriptor) = some (.builtin .array) ∧
      registry.quietly? (List Bool) (.array [.str "yes", .str "yes"]) = some [true, true] ∧
      registry.quietly? (List Bool) (.array [.str "yes", .str "no"]) = none ∧
      registry.quietly? (List Bool) (.str "yes, no") = none ∧
      registry.quietly? (List Bool) (.str " ") = some [] ∧
      registry.quietly? (List Bool) (.int 1) = none := by
  intro answer registry
  have served : registry.resolve? (.arrayOf Scalar.bool.descriptor) = some (.builtin .array) := by rfl
  obtain ⟨lifted, pieces, blank, alone⟩ := list_lifts_items registry .bool served
  have both := lifted [.str "yes", .str "yes"] (.inl (by simp))
  have second := lifted [.str "yes", .str "no"] (.inl (by simp))
  have empty := lifted [] (.inl List.not_mem_nil)
  have other := lifted [.int 1] (.inl (by simp))
  refine ⟨served, (both.1 [true, true]).mpr ⟨rfl, ?_⟩, second.2.mpr ⟨.str "no", by simp, rfl⟩, ?_, ?_, ?_⟩
  · intro i inItems inList
    obtain rfl | rfl : i = 0 ∨ i = 1 := by
      simp only [List.length_cons, List.length_nil] at inItems
      omega
    · rfl
    · rfl
  · exact (pieces "yes, no" rfl).2.trans (second.2.mpr ⟨.str "no", by simp, rfl⟩)
  · exact (blank " " rfl).2.trans ((empty.1 []).mpr ⟨rfl, nofun⟩)
  · exact (alone (.int 1) nofun rfl rfl).2.trans (other.2.mpr ⟨.int 1, by simp, rfl⟩)

end Registry

end Recast
