import Recast.Proofs.Traversal
import Recast.Registry.Basic
set_option autoImplicit false

namespace Recast

theorem Scalar.mem_all (scalar : Scalar) : scalar ∈ all := by
  cases scalar with
  | int width => cases width <;> decide
  | float format => cases format <;> decide
  | _ => decide

theorem Plan.each_result (answer : Descriptor → Value → Run) (element : Descriptor) (items : List Value)
    (finish : List Value → Plan) :
    ((Plan.each element items finish).run answer).result =
      items.mapM (fun item => (answer element item).result) >>= fun outs =>
        ((finish outs).run answer).result := by
  induction items generalizing finish with
  | nil => rfl
  | cons item rest ih =>
    rw [List.mapM_cons]
    simp only [Plan.each, Plan.run]
    cases (answer element item).result with
    | error error => rfl
    | ok first =>
      simp only [ih]
      cases rest.mapM fun item => (answer element item).result with
      | error error => rfl
      | ok others => rfl

namespace Registry

theorem builtin_forms (scalar : Scalar) :
    builtin? scalar.descriptor = some (.scalar scalar) ∧
      builtin? (.arrayOf scalar.descriptor) = some .array ∧
      builtin? (.optionOf scalar.descriptor) = some .option := by
  have each : ∀ scalar ∈ Scalar.all, builtin? scalar.descriptor = some (.scalar scalar) ∧
      builtin? (.arrayOf scalar.descriptor) = some .array ∧
      builtin? (.optionOf scalar.descriptor) = some .option := by decide
  exact each scalar scalar.mem_all

theorem builtin_json : builtin? Value.jsonDescriptor = some .json := by decide

variable {registry : Registry} {target : Descriptor}

theorem resolve_builtin (uncustomised : registry.custom? target = none) {builtin : Builtin}
    (found : builtin? target = some builtin) : registry.resolve? target = some (.builtin builtin) := by
  simp only [resolve?, find?]
  cases registry.config.lookupOrder with
  | customFirst => simp [uncustomised, found]
  | defaultFirst => simp [found]

theorem custom_none (empty : registry.customs = []) (target : Descriptor) : registry.custom? target = none := by
  rw [custom?, empty]
  rfl

theorem convert_with_order_found {order : LookupOrder} {converter : Converter}
    (found : registry.find? order target = some converter) (value : Value) :
    registry.convertWithOrder target value order = ((converter.plan registry.config target value).run
      (registry.dispatch (target.depth + registry.stack.spare) registry.config.lookupOrder)).result := by
  rw [convertWithOrder, runWithOrder, levels_eq, dispatch, found]

theorem convert_resolved {converter : Converter} (resolved : registry.resolve? target = some converter)
    (value : Value) :
    registry.convert target value = ((converter.plan registry.config target value).run
      (registry.dispatch (target.depth + registry.stack.spare) registry.config.lookupOrder)).result :=
  convert_with_order_found resolved value

theorem convert_with_order_missing {order : LookupOrder} (missing : registry.find? order target = none)
    (value : Value) : registry.convertWithOrder target value order = .error (.ofLookup target value) := by
  rw [convertWithOrder, runWithOrder, levels_eq, dispatch, missing]

theorem convert_scalar {scalar : Scalar} (resolved : registry.resolve? target = some (.builtin (.scalar scalar)))
    (value : Value) : registry.convert target value = scalar.convert registry.config target value := by
  rw [convert_resolved resolved]
  rfl

theorem convert_json (resolved : registry.resolve? target = some (.builtin .json)) (value : Value) :
    registry.convert target value = value.document target := by
  rw [convert_resolved resolved]
  rfl

-- An array has one level more than its elements, which is what asking for them takes.
theorem convert_with_order_array {order : LookupOrder} {element : Descriptor}
    (found : registry.find? order (.arrayOf element) = some (.builtin .array)) (value : Value) :
    registry.convertWithOrder (.arrayOf element) value order =
      if value.isNull then .ok .null
      else ((itemsOf registry.config value).mapM (registry.convert element)).map .array := by
  have levelled : Descriptor.depth (.arrayOf element) + registry.stack.spare = registry.levels element := by
    rw [Descriptor.depth, levels]
  rw [convert_with_order_found found, levelled]
  simp only [Converter.plan, Builtin.plan, arrayPlan, Descriptor.element?]
  cases value.isNull with
  | true => rfl
  | false =>
    simp only [Bool.false_eq_true, if_false, Plan.each_result]
    change (itemsOf registry.config value).mapM (registry.convert element) >>= _ = _
    cases (itemsOf registry.config value).mapM (registry.convert element) with
    | error error => rfl
    | ok outs => rfl

theorem convert_with_order_option {order : LookupOrder} {inner : Descriptor}
    (found : registry.find? order (.optionOf inner) = some (.builtin .option)) (value : Value) :
    registry.convertWithOrder (.optionOf inner) value order =
      if value.isNull then .ok .null else registry.convert inner value := by
  have levelled : (Descriptor.optionOf inner).depth + registry.stack.spare = registry.levels inner := by
    rw [Descriptor.optionOf, Descriptor.depth, if_pos rfl, levels]
  have named : (Descriptor.optionOf inner).optionInner? = some inner := by
    rw [Descriptor.optionOf, Descriptor.optionInner?, if_pos rfl]
  rw [convert_with_order_found found, levelled]
  simp only [Converter.plan, Builtin.plan, optionPlan, named]
  cases value.isNull with
  | true => rfl
  | false => rfl

theorem convert_array {element : Descriptor}
    (resolved : registry.resolve? (.arrayOf element) = some (.builtin .array)) (value : Value) :
    registry.convert (.arrayOf element) value =
      if value.isNull then .ok .null
      else ((itemsOf registry.config value).mapM (registry.convert element)).map .array :=
  convert_with_order_array resolved value

theorem convert_option {inner : Descriptor}
    (resolved : registry.resolve? (.optionOf inner) = some (.builtin .option)) (value : Value) :
    registry.convert (.optionOf inner) value =
      if value.isNull then .ok .null else registry.convert inner value :=
  convert_with_order_option resolved value

end Registry

end Recast
