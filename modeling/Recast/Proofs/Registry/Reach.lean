import Mathlib.Data.Option.Basic
import Recast.Registry.Basic
set_option autoImplicit false

/-!
What a conversion can look up: the targets that converters ask for in turn. Two registries that
find the same converters for all of these convert alike.
-/

namespace Recast

namespace Descriptor

def IsInner (target inner : Descriptor) : Prop :=
  target.element? = some inner ∨ target.optionInner? = some inner

def reach : Descriptor → List Descriptor
  | .arrayOf element => .arrayOf element :: element.reach
  | .parameterized base [inner] =>
    .parameterized base [inner] :: if base = optionBase then inner.reach else []
  | descriptor => [descriptor]

theorem reach_self (target : Descriptor) : target ∈ target.reach := by
  unfold reach
  split <;> exact List.mem_cons_self

theorem reach_inner {target inner : Descriptor} (inside : target.IsInner inner) :
    target.reach = target :: inner.reach := by
  rcases inside with found | found
  · cases target <;> simp_all [element?, reach]
  · unfold optionInner? at found
    split at found
    · split at found <;> simp_all [reach]
    · simp at found

theorem reach_trans {target between other : Descriptor} (first : between ∈ target.reach)
    (second : other ∈ between.reach) : other ∈ target.reach := by
  fun_induction reach target with
  | case1 element ih =>
    rcases List.mem_cons.mp first with rfl | inside
    · exact second
    · exact List.mem_cons_of_mem _ (ih inside)
  | case2 base inner ih =>
    rcases List.mem_cons.mp first with rfl | inside
    · exact second
    · by_cases option : base = optionBase
      · rw [if_pos option] at inside ⊢
        exact List.mem_cons_of_mem _ (ih inside)
      · rw [if_neg option] at inside
        cases inside
  | case3 descriptor notArray notOne =>
    obtain rfl := List.mem_singleton.mp first
    rwa [reach.eq_3 _ notArray notOne] at second

theorem depth_of_inner {target inner : Descriptor} (inside : target.IsInner inner) :
    target.depth = inner.depth + 1 :=
  inside.elim depth_element depth_inner

end Descriptor

namespace Plan

-- What a plan may ask for depends on the outcomes before, so any outcome is followed.
inductive Asks : Plan → Descriptor → Prop where
  | first (target : Descriptor) (value : Value) (next : Except Error Value → Plan) :
      Asks (.ask target value next) target
  | later {target other : Descriptor} {value : Value} {next : Except Error Value → Plan}
      (result : Except Error Value) (asked : Asks (next result) other) :
      Asks (.ask target value next) other

theorem run_congr {answer other : Descriptor → Value → Run} (plan : Plan)
    (agree : ∀ target, plan.Asks target → ∀ value, other target value = answer target value) :
    plan.run other = plan.run answer := by
  induction plan with
  | done result => rfl
  | ask target value next ih =>
    have asked := agree target (.first ..) value
    have rest := ih (answer target value).result fun asked inside => agree asked (.later _ inside)
    simp only [run, asked, rest]

theorem each_asks {element asked : Descriptor} {items : List Value} {finish : List Value → Plan}
    (ends : ∀ outs, ¬ (finish outs).Asks asked) (asks : (each element items finish).Asks asked) :
    asked = element := by
  induction items generalizing finish with
  | nil => exact absurd asks (ends [])
  | cons item rest ih =>
    cases asks with
    | first => rfl
    | later result inside =>
      cases result with
      | error error => cases inside
      | ok first => exact ih (fun outs => ends (first :: outs)) inside

end Plan

namespace Converter

def IsLeaf : Converter → Prop
  | .builtin _ => True
  | .custom _ act => ∀ config target value, ∃ result, act config target value = .done result

-- The target is any, also one that the converter was not written for.
theorem IsLeaf.asks_inner {converter : Converter} (leaf : converter.IsLeaf) {config : Config}
    {target asked : Descriptor} {value : Value} (asks : (converter.plan config target value).Asks asked) :
    target.IsInner asked := by
  cases converter with
  | custom serial act =>
    obtain ⟨result, answered⟩ := leaf config target value
    simp only [plan, answered] at asks
    cases asks
  | builtin kind =>
    cases kind with
    | scalar scalar => cases asks
    | json => cases asks
    | array =>
      simp only [plan, Builtin.plan, arrayPlan] at asks
      cases found : target.element? with
      | none =>
        rw [found] at asks
        cases asks
      | some element =>
        simp only [found] at asks
        split at asks
        · cases asks
        · have ends : ∀ outs, ¬ Plan.Asks (.done (.ok (.array outs))) asked := fun outs inside => nomatch inside
          have same := Plan.each_asks ends asks
          exact .inl (same ▸ found)
    | option =>
      simp only [plan, Builtin.plan, optionPlan] at asks
      cases found : target.optionInner? with
      | none =>
        rw [found] at asks
        cases asks
      | some inner =>
        simp only [found] at asks
        split at asks
        · cases asks
        · cases asks with
          | first => exact .inr found
          | later result inside => cases inside

end Converter

namespace Registry

theorem find_origin {registry : Registry} {order : LookupOrder} {target : Descriptor} {converter : Converter}
    (found : registry.find? order target = some converter) :
    (∃ kind, converter = .builtin kind) ∨ (target, converter) ∈ registry.customs := by
  have custom : registry.custom? target = some converter → (target, converter) ∈ registry.customs := by
    intro present
    obtain ⟨before, later, split, -⟩ := List.lookup_eq_some_iff.mp present
    exact split ▸ List.mem_append_cons_self
  have builtin : (builtin? target).map .builtin = some converter → ∃ kind, converter = .builtin kind := by
    intro present
    obtain ⟨kind, -, same⟩ := Option.map_eq_some_iff.mp present
    exact ⟨kind, same.symm⟩
  cases order with
  | customFirst =>
    rcases (Option.orElse_eq_some ..).mp found with first | ⟨-, second⟩
    · exact .inr (custom first)
    · exact .inl (builtin second)
  | defaultFirst =>
    rcases (Option.orElse_eq_some ..).mp found with first | ⟨-, second⟩
    · exact .inl (builtin first)
    · exact .inr (custom second)

theorem found_satisfies {registry : Registry} {property : Converter → Prop}
    (builtins : ∀ kind, property (.builtin kind)) (customs : ∀ entry ∈ registry.customs, property entry.2)
    {order : LookupOrder} {target : Descriptor} {converter : Converter}
    (found : registry.find? order target = some converter) : property converter := by
  rcases find_origin found with ⟨kind, rfl⟩ | entered
  · exact builtins kind
  · exact customs _ entered

def LeavesOnly (registry : Registry) : Prop := ∀ entry ∈ registry.customs, entry.2.IsLeaf

theorem LeavesOnly.asks_inner {registry : Registry} (leaves : registry.LeavesOnly) {order : LookupOrder}
    {target asked : Descriptor} {converter : Converter} {config : Config} {value : Value}
    (found : registry.find? order target = some converter)
    (asks : (converter.plan config target value).Asks asked) : target.IsInner asked := by
  have leaf : converter.IsLeaf := found_satisfies (fun _ => trivial) leaves found
  exact leaf.asks_inner asks

structure ServeAlike (one other : Registry) (reached : Descriptor → Prop) : Prop where
  stacked : other.stack = one.stack
  resolved : ∀ target, reached target → other.resolve? target = one.resolve? target
  planned : ∀ target, reached target → ∀ converter, one.resolve? target = some converter →
    ∀ value, converter.plan other.config target value = converter.plan one.config target value
  closed : ∀ target, reached target → ∀ converter, one.resolve? target = some converter →
    ∀ value asked, (converter.plan one.config target value).Asks asked → reached asked

theorem serve_alike_everywhere {one other : Registry} (stacked : other.stack = one.stack)
    (config : other.config = one.config) (resolved : ∀ target, other.resolve? target = one.resolve? target) :
    ServeAlike one other fun _ => True where
  stacked := stacked
  resolved target _ := resolved target
  planned _ _ _ _ _ := by rw [config]
  closed _ _ _ _ _ _ _ := trivial

theorem dispatch_step {one other : Registry} {levels : Nat} {order order' : LookupOrder} {target : Descriptor}
    {value : Value} (found : other.find? order' target = one.find? order target)
    (planned : ∀ converter, one.find? order target = some converter →
      converter.plan other.config target value = converter.plan one.config target value)
    (nested : ∀ converter, one.find? order target = some converter →
      ∀ asked, (converter.plan one.config target value).Asks asked → ∀ value,
        other.dispatch levels other.config.lookupOrder asked value =
          one.dispatch levels one.config.lookupOrder asked value) :
    other.dispatch (levels + 1) order' target value = one.dispatch (levels + 1) order target value := by
  cases present : one.find? order target with
  | none => simp only [dispatch, found, present]
  | some converter =>
    have same := Plan.run_congr _ (nested converter present)
    simp only [dispatch, found, present, planned converter present, same]

namespace ServeAlike

variable {one other : Registry} {reached : Descriptor → Prop} (alike : ServeAlike one other reached)

include alike

-- The induction is on the levels: a conversion stays within the set, where the two registries agree.
theorem dispatch_eq (levels : Nat) {target : Descriptor} (inside : reached target) (value : Value) :
    other.dispatch levels other.config.lookupOrder target value =
      one.dispatch levels one.config.lookupOrder target value := by
  induction levels generalizing target value with
  | zero => rw [dispatch, alike.stacked, dispatch]
  | succ levels ih =>
    refine dispatch_step (alike.resolved target inside) ?_ ?_
    · intro converter found
      exact alike.planned target inside converter found value
    · intro converter found asked asks
      exact ih (alike.closed target inside converter found value asked asks)

theorem run_with_order_eq {order order' : LookupOrder} {target : Descriptor} {value : Value}
    (found : other.find? order' target = one.find? order target)
    (planned : ∀ converter, one.find? order target = some converter →
      converter.plan other.config target value = converter.plan one.config target value)
    (asked : ∀ converter, one.find? order target = some converter →
      ∀ asked, (converter.plan one.config target value).Asks asked → reached asked) :
    other.runWithOrder target value order' = one.runWithOrder target value order := by
  rw [runWithOrder, runWithOrder, levels_eq, levels_eq, alike.stacked]
  refine dispatch_step found planned ?_
  intro converter present inner asks
  exact alike.dispatch_eq _ (asked converter present inner asks)

end ServeAlike

def color : Descriptor := .concrete "Color"

def colored (config : Config) : Registry :=
  ((((new config).put color (.builtin (.scalar (.int .bits32)))).put (.arrayOf color) (.builtin .array)).put
    (.arrayOf (.arrayOf color)) (.builtin .array)).put (.optionOf color) (.builtin .option)

theorem colored_builtin {config : Config} {entry : Descriptor × Converter}
    (entered : entry ∈ (colored config).customs) : ∃ kind, entry.2 = .builtin kind := by
  have entries : (colored config).customs = [(color, .builtin (.scalar (.int .bits32))),
      (.arrayOf color, .builtin .array), (.arrayOf (.arrayOf color), .builtin .array),
      (.optionOf color, .builtin .option)] := rfl
  rw [entries] at entered
  simp only [List.mem_cons, List.not_mem_nil, or_false] at entered
  rcases entered with rfl | rfl | rfl | rfl <;> exact ⟨_, rfl⟩

theorem colored_leaves (config : Config) : (colored config).LeavesOnly := by
  intro entry entered
  obtain ⟨kind, same⟩ := colored_builtin entered
  rw [same]
  trivial

end Registry

end Recast
