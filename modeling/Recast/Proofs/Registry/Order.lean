import Recast.Proofs.Registry.Dispatch
import Recast.Proofs.Registry.Reach
set_option autoImplicit false

/-!
How far an order reaches that is given for one conversion: it decides which converter is called for
the target, and what that one asks for is looked up in the configured order.
-/

namespace Recast

def Converter.IsHeedless (converter : Converter) : Prop :=
  ∀ (config : Config) (order : LookupOrder) (target : Descriptor) (value : Value),
    converter.plan { config with lookupOrder := order } target value = converter.plan config target value

theorem Converter.builtin_heedless (kind : Builtin) : (Converter.builtin kind).IsHeedless := by
  intro config order target value
  cases kind with
  | scalar scalar => cases scalar <;> rfl
  | json => rfl
  | array => rfl
  | option => rfl

namespace Registry

def reordered (registry : Registry) (order : LookupOrder) : Registry :=
  { registry with config := { registry.config with lookupOrder := order } }

inductive IsBelow (registry : Registry) (order : LookupOrder) (target : Descriptor) : Descriptor → Prop where
  | asked {converter : Converter} {value : Value} {other : Descriptor}
      (found : registry.find? order target = some converter)
      (asks : (converter.plan registry.config target value).Asks other) : IsBelow registry order target other
  | deeper {converter : Converter} {value : Value} {between other : Descriptor}
      (below : IsBelow registry order target between) (found : registry.resolve? between = some converter)
      (asks : (converter.plan registry.config between value).Asks other) : IsBelow registry order target other

variable {registry : Registry} {order : LookupOrder} {target : Descriptor}

theorem IsBelow.within (leaves : registry.LeavesOnly) {other : Descriptor}
    (below : registry.IsBelow order target other) : ∃ inner, target.IsInner inner ∧ other ∈ inner.reach := by
  induction below with
  | asked found asks => exact ⟨_, leaves.asks_inner found asks, Descriptor.reach_self _⟩
  | @deeper _ _ between other _ found asks ih =>
    obtain ⟨inner, inside, reached⟩ := ih
    refine ⟨inner, inside, Descriptor.reach_trans reached ?_⟩
    rw [Descriptor.reach_inner (leaves.asks_inner found asks)]
    exact List.mem_cons_of_mem _ other.reach_self

theorem found_heedless (heedless : ∀ entry ∈ registry.customs, entry.2.IsHeedless) {converter : Converter}
    (found : registry.find? order target = some converter) : converter.IsHeedless :=
  found_satisfies Converter.builtin_heedless heedless found

theorem run_with_order_of_found {other : LookupOrder} (value : Value)
    (same : registry.find? other target = registry.find? order target) :
    registry.runWithOrder target value other = registry.runWithOrder target value order := by
  have alike : ServeAlike registry registry fun _ => True := serve_alike_everywhere rfl rfl fun _ => rfl
  exact alike.run_with_order_eq same (fun _ _ => rfl) fun _ _ _ _ => trivial

section

variable (heedless : ∀ entry ∈ registry.customs, entry.2.IsHeedless)
  (agree : ∀ below, registry.IsBelow order target below → registry.find? order below = registry.resolve? below)

include heedless agree

theorem reordered_serves_alike :
    ServeAlike registry (registry.reordered order) (registry.IsBelow order target) where
  stacked := rfl
  resolved := agree
  planned _ _ _ found value := found_heedless heedless found registry.config order _ value
  closed _ below _ found _ _ asks := .deeper below found asks

theorem run_reordered (value : Value) :
    (registry.reordered order).run target value = registry.runWithOrder target value order := by
  refine (reordered_serves_alike heedless agree).run_with_order_eq rfl ?_ ?_
  · intro converter found
    exact found_heedless heedless found registry.config order target value
  · intro converter found asked asks
    exact .asked found asks

end

theorem order_governs_target (registry : Registry) (target : Descriptor) (value : Value) (order : LookupOrder) :
    (∀ other, registry.find? other target = registry.find? order target →
      registry.convertWithOrder target value other = registry.convertWithOrder target value order) ∧
    (∀ converter, registry.find? order target = some converter →
      registry.convertWithOrder target value order = ((converter.plan registry.config target value).run
        (registry.dispatch (target.depth + registry.stack.spare) registry.config.lookupOrder)).result) ∧
    (registry.find? order target = none →
      registry.convertWithOrder target value order = .error (.ofLookup target value)) ∧
    (∀ element, target = .arrayOf element → registry.find? order target = some (.builtin .array) →
      registry.convertWithOrder target value order =
        if value.isNull then .ok .null
        else ((itemsOf registry.config value).mapM (registry.convert element)).map .array) ∧
    (∀ inner, target = .optionOf inner → registry.find? order target = some (.builtin .option) →
      registry.convertWithOrder target value order =
        if value.isNull then .ok .null else registry.convert inner value) ∧
    ((∀ entry ∈ registry.customs, entry.2.IsHeedless) →
      (∀ below, registry.IsBelow order target below → registry.find? order below = registry.resolve? below) →
      registry.convertWithOrder target value order = (registry.reordered order).convert target value) := by
  refine ⟨fun other same => ?_, fun converter found => ?_, fun missing => ?_, ?_, ?_, fun heedless agree => ?_⟩
  · exact congrArg Run.result (run_with_order_of_found value same)
  · exact convert_with_order_found found value
  · exact convert_with_order_missing missing value
  · rintro element rfl found
    exact convert_with_order_array found value
  · rintro inner rfl found
    exact convert_with_order_option found value
  · exact congrArg Run.result (run_reordered heedless agree value).symm

theorem colors_in_either_order :
    let registry := colored .default
    let colors := Descriptor.arrayOf color
    registry.convertWithOrder colors (.bool true) .customFirst =
        registry.convertWithOrder colors (.bool true) .defaultFirst ∧
      registry.convertWithOrder color (.bool true) .defaultFirst = .ok (.int 1) ∧
      registry.convertWithOrder (.concrete "Shape") .null .defaultFirst =
        .error (.lookup ⟨"null", "null"⟩ (.concrete "Shape")) ∧
      registry.convertWithOrder colors (.bool true) .defaultFirst = .ok (.array [.int 1]) ∧
      registry.convertWithOrder (.optionOf color) (.bool true) .defaultFirst = .ok (.int 1) ∧
      registry.convertWithOrder colors (.bool true) .defaultFirst =
        (registry.reordered .defaultFirst).convert colors (.bool true) := by
  intro registry colors
  have heedless : ∀ entry ∈ registry.customs, entry.2.IsHeedless := by
    intro entry entered
    obtain ⟨kind, same⟩ := colored_builtin entered
    exact same ▸ Converter.builtin_heedless kind
  -- Only the color itself comes up below an array of colors, and it is in one table.
  have agree : ∀ below, registry.IsBelow .defaultFirst colors below →
      registry.find? .defaultFirst below = registry.resolve? below := by
    intro below inside
    obtain ⟨inner, found | found, reached⟩ := inside.within (colored_leaves _)
    · obtain rfl : color = inner := Option.some.inj found
      obtain rfl : below = color := List.mem_singleton.mp reached
      rfl
    · cases found
  have ordered := order_governs_target registry colors (.bool true) .defaultFirst
  have found := order_governs_target registry color (.bool true) .defaultFirst
  have missing := order_governs_target registry (.concrete "Shape") .null .defaultFirst
  have optional := order_governs_target registry (.optionOf color) (.bool true) .defaultFirst
  exact ⟨ordered.1 .customFirst rfl, found.2.1 _ rfl, missing.2.2.1 rfl, ordered.2.2.2.1 color rfl rfl,
    optional.2.2.2.2.1 color rfl rfl, ordered.2.2.2.2.2 heedless agree⟩

-- Texts put in come first for the elements, although the built-in ones are to come first for the array.
theorem order_stops_at_target :
    ¬ ∀ (registry : Registry) (target : Descriptor) (value : Value) (order : LookupOrder),
      registry.convertWithOrder target value order = (registry.reordered order).convert target value := by
  intro claimed
  let registry := (new .default).put Scalar.string.descriptor (.custom 0 fun _ _ _ => .done (.ok .null))
  have explicit : registry.convertWithOrder (.arrayOf Scalar.string.descriptor) (.str "abc") .defaultFirst =
      .ok (.array [.null]) := by rfl
  have configured : (registry.reordered .defaultFirst).convert (.arrayOf Scalar.string.descriptor) (.str "abc") =
      .ok (.array [.str "abc"]) := by rfl
  have same := claimed registry (.arrayOf Scalar.string.descriptor) (.str "abc") .defaultFirst
  rw [explicit, configured] at same
  cases same

end Registry

end Recast
