import Recast.Proofs.Registry.History
import Recast.Proofs.Registry.Reach
set_option autoImplicit false

namespace Recast.Registry

variable {registry : Registry} {target other : Descriptor} {converter : Converter}

theorem find_put_elsewhere (different : other ≠ target) (order : LookupOrder) :
    (registry.put target converter).find? order other = registry.find? order other := by
  have kept : (registry.put target converter).custom? other = registry.custom? other := by
    rw [custom_put, if_neg different]
  cases order with
  | customFirst => rw [find?, kept, find?]
  | defaultFirst => rw [find?, kept, find?]

theorem find_put_behind (covered : (builtin? target).isSome) (other : Descriptor) :
    (registry.put target converter).find? .defaultFirst other = registry.find? .defaultFirst other := by
  by_cases same : other = target
  · subst same
    obtain ⟨kind, found⟩ := Option.isSome_iff_exists.mp covered
    simp [find?, found]
  · exact find_put_elsewhere same .defaultFirst

theorem ne_of_apart (apart : target ∉ other.reach) : other ≠ target := by
  rintro rfl
  exact apart other.reach_self

theorem inner_apart {asked : Descriptor} (inner : other.IsInner asked) (apart : target ∉ other.reach) :
    target ∉ asked.reach := by
  rw [Descriptor.reach_inner inner] at apart
  exact fun reached => apart (List.mem_cons_of_mem _ reached)

-- The targets that do not reach the one put in are the region that a conversion never leaves.
theorem put_serves_alike (leaves : registry.LeavesOnly) (target : Descriptor) (converter : Converter) :
    ServeAlike registry (registry.put target converter) fun other => target ∉ other.reach where
  stacked := rfl
  resolved _ apart := find_put_elsewhere (ne_of_apart apart) _
  planned _ _ _ _ _ := rfl
  closed _ apart _ found _ _ asks := inner_apart (leaves.asks_inner found asks) apart

theorem run_put_apart (leaves : registry.LeavesOnly) (apart : target ∉ other.reach) (value : Value)
    (order : LookupOrder) :
    (registry.put target converter).runWithOrder other value order = registry.runWithOrder other value order := by
  have found : (registry.put target converter).find? order other = registry.find? order other :=
    find_put_elsewhere (ne_of_apart apart) order
  refine (put_serves_alike leaves target converter).run_with_order_eq found (fun _ _ => rfl) ?_
  intro served present asked asks
  exact inner_apart (leaves.asks_inner present asks) apart

theorem run_put_behind (builtinsFirst : registry.config.lookupOrder = .defaultFirst)
    (covered : (builtin? target).isSome) (other : Descriptor) (value : Value) :
    (registry.put target converter).run other value = registry.run other value := by
  have resolved : ∀ other, (registry.put target converter).resolve? other = registry.resolve? other := by
    intro other
    simp only [resolve?, put, builtinsFirst]
    exact find_put_behind covered other
  have alike : ServeAlike registry (registry.put target converter) fun _ => True :=
    serve_alike_everywhere rfl rfl resolved
  exact alike.run_with_order_eq (resolved other) (fun _ _ => rfl) fun _ _ _ _ => trivial

theorem put_spares_others (registry : Registry) (leaves : registry.LeavesOnly) (target : Descriptor)
    (converter : Converter) :
    (∀ other, target ∉ other.reach → ∀ value,
      (registry.put target converter).convert other value = registry.convert other value ∧
      ∀ order, (registry.put target converter).convertWithOrder other value order =
        registry.convertWithOrder other value order) ∧
    (registry.config.lookupOrder = .defaultFirst → (builtin? target).isSome → ∀ other value,
      (registry.put target converter).convert other value = registry.convert other value) := by
  constructor
  · intro other apart value
    have spared : ∀ order, (registry.put target converter).runWithOrder other value order =
        registry.runWithOrder other value order := run_put_apart leaves apart value
    exact ⟨congrArg Run.result (spared _), fun order => congrArg Run.result (spared order)⟩
  · intro builtinsFirst covered other value
    exact congrArg Run.result (run_put_behind builtinsFirst covered other value)

theorem text_spares_colors :
    let registry := colored { Config.default with lookupOrder := .defaultFirst }
    let texts := Converter.custom 0 fun _ _ _ => .done (.ok .null)
    registry.LeavesOnly ∧ Scalar.string.descriptor ∉ (Descriptor.arrayOf color).reach ∧
      (registry.put Scalar.string.descriptor texts).convert (.arrayOf color) (.bool true) =
        registry.convert (.arrayOf color) (.bool true) ∧
      (builtin? Scalar.string.descriptor).isSome ∧
      (registry.put Scalar.string.descriptor texts).convert (.arrayOf Scalar.string.descriptor) (.bool true) =
        registry.convert (.arrayOf Scalar.string.descriptor) (.bool true) := by
  intro registry texts
  have leaves : registry.LeavesOnly := colored_leaves _
  have apart : Scalar.string.descriptor ∉ (Descriptor.arrayOf color).reach := by decide
  have covered : (builtin? Scalar.string.descriptor).isSome := by decide
  have spared := put_spares_others registry leaves Scalar.string.descriptor texts
  exact ⟨leaves, apart, (spared.1 _ apart _).1, covered, spared.2 rfl covered _ _⟩

end Recast.Registry
