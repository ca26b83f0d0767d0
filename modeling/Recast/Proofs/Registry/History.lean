import Mathlib.Data.List.Induction
import Recast.Registry.Basic
set_option autoImplicit false

namespace Recast.Registry

theorem lookup_first (target key : Descriptor) (converter : Converter) (rest : List (Descriptor × Converter)) :
    ((key, converter) :: rest).lookup target = if target = key then some converter else rest.lookup target := by
  by_cases same : target = key
  · simp [same]
  · simp [List.lookup_cons, beq_eq_false_iff_ne.mpr same, same]

theorem lookup_enter (target other : Descriptor) (converter : Converter)
    (entries : List (Descriptor × Converter)) :
    (enter target converter entries).lookup other =
      if other = target then some converter else entries.lookup other := by
  induction entries with
  | nil => rw [enter, lookup_first]
  | cons head tail ih =>
    obtain ⟨key, kept⟩ := head
    by_cases entered : target = key
    · rw [enter, if_pos entered, lookup_first, lookup_first, ← entered]
      split <;> rfl
    · rw [enter, if_neg entered, lookup_first, lookup_first, ih]
      by_cases first : other = key
      · have different : other ≠ target := fun same => entered (same.symm.trans first)
        rw [if_pos first, if_pos first, if_neg different]
      · rw [if_neg first, if_neg first]

theorem mem_enter_targets (target other : Descriptor) (converter : Converter)
    (entries : List (Descriptor × Converter)) :
    other ∈ (enter target converter entries).map Prod.fst ↔ other = target ∨ other ∈ entries.map Prod.fst := by
  induction entries with
  | nil => simp [enter]
  | cons head tail ih =>
    obtain ⟨key, kept⟩ := head
    by_cases entered : target = key
    · simp [enter, entered]
    · rw [enter, if_neg entered, List.map_cons, List.mem_cons, ih, List.map_cons, List.mem_cons, or_left_comm]

theorem enter_targets_nodup (target : Descriptor) (converter : Converter) (entries : List (Descriptor × Converter))
    (once : (entries.map Prod.fst).Nodup) : ((enter target converter entries).map Prod.fst).Nodup := by
  induction entries with
  | nil => simp [enter]
  | cons head tail ih =>
    obtain ⟨key, kept⟩ := head
    by_cases entered : target = key
    · simpa [enter, entered] using once
    · obtain ⟨absent, rest⟩ := List.nodup_cons.mp once
      rw [enter, if_neg entered]
      refine List.nodup_cons.mpr ⟨fun inside => ?_, ih rest⟩
      rcases (mem_enter_targets ..).mp inside with same | later
      · exact entered same.symm
      · exact absent later

theorem custom_put (registry : Registry) (target other : Descriptor) (converter : Converter) :
    (registry.put target converter).custom? other =
      if other = target then some converter else registry.custom? other :=
  lookup_enter target other converter registry.customs

theorem custom_none_iff (registry : Registry) (target : Descriptor) :
    registry.custom? target = none ↔ target ∉ registry.customTypes := by
  rw [custom?, List.lookup_eq_none_iff, customTypes, List.mem_map, not_exists]
  constructor
  · intro absent entry ⟨inside, same⟩
    exact absurd same.symm (by simpa using absent entry inside)
  · intro absent entry inside
    simpa using fun same => absent entry ⟨inside, Eq.symm same⟩

theorem contains_eq (registry : Registry) (order : LookupOrder) (target : Descriptor) :
    registry.contains target = (registry.find? order target).isSome := by
  cases order with
  | customFirst => simp [contains, find?, Bool.or_comm]
  | defaultFirst => simp [contains, find?]

theorem new_resolve (config : Config) (stack : Stack) (target : Descriptor) :
    (new config stack).resolve? target = (builtin? target).map .builtin := by
  have empty : (new config stack).custom? target = none := rfl
  rw [resolve?]
  cases (new config stack).config.lookupOrder <;> simp [find?, empty]

inductive Use where
  | put (target : Descriptor) (converter : Converter)
  | convert (target : Descriptor) (value : Value) (order : Option LookupOrder)

def perform (registry : Registry) : Use → Registry × Option Run
  | .put target converter => (registry.put target converter, none)
  | .convert target value order =>
    (registry, some (registry.runWithOrder target value (order.getD registry.config.lookupOrder)))

def after (registry : Registry) (uses : List Use) : Registry :=
  uses.foldl (fun registry use => (registry.perform use).1) registry

theorem after_append (registry : Registry) (uses later : List Use) :
    registry.after (uses ++ later) = (registry.after uses).after later := List.foldl_append

def LastPut (target : Descriptor) (converter : Converter) (uses : List Use) : Prop :=
  ∃ before later, uses = before ++ .put target converter :: later ∧ ∀ other, .put target other ∉ later

theorem last_put_append (target : Descriptor) (converter : Converter) (uses : List Use) (use : Use) :
    LastPut target converter (uses ++ [use]) ↔
      use = .put target converter ∨ (LastPut target converter uses ∧ ∀ other, use ≠ .put target other) := by
  constructor
  · rintro ⟨before, later, split, last⟩
    -- The put is the use added, or stands before it, as the list after the put is empty or not.
    rcases List.eq_nil_or_concat later with rfl | ⟨rest, final, rfl⟩
    · obtain ⟨-, same⟩ := List.append_inj' split rfl
      exact .inl (List.cons.inj same).1
    · have regrouped : uses ++ [use] = (before ++ .put target converter :: rest) ++ [final] := by
        simpa using split
      obtain ⟨rfl, same⟩ := List.append_inj' regrouped rfl
      obtain ⟨rfl, -⟩ := List.cons.inj same
      refine .inr ⟨⟨before, rest, rfl, fun other inside => last other ?_⟩, fun other same => last other ?_⟩
      · simp [inside]
      · simp [same]
  · rintro (rfl | ⟨⟨before, later, rfl, last⟩, different⟩)
    · exact ⟨uses, [], rfl, fun _ => List.not_mem_nil⟩
    · refine ⟨before, later ++ [use], by simp, fun other inside => ?_⟩
      rcases List.mem_append.mp inside with earlier | final
      · exact last other earlier
      · exact different other (List.mem_singleton.mp final).symm

structure Reflects (registry : Registry) (config : Config) (uses : List Use) : Prop where
  configured : registry.config = config
  last : ∀ target converter, registry.custom? target = some converter ↔ LastPut target converter uses
  listed : ∀ target, target ∈ registry.customTypes ↔ ∃ converter, .put target converter ∈ uses
  once : registry.customTypes.Nodup
  ready : registry.hasTable = true ↔ ∃ target converter, .put target converter ∈ uses

theorem new_reflects (config : Config) (stack : Stack) : (new config stack).Reflects config [] where
  configured := rfl
  last target converter := by simp [LastPut, new, custom?, customs]
  listed target := by simp [new, customTypes, customs]
  once := List.nodup_nil
  ready := by simp [new, hasTable]

theorem Reflects.put {registry : Registry} {config : Config} {uses : List Use}
    (reflects : registry.Reflects config uses) (target : Descriptor) (converter : Converter) :
    (registry.put target converter).Reflects config (uses ++ [.put target converter]) where
  configured := reflects.configured
  last other kept := by
    rw [custom_put, last_put_append]
    by_cases same : other = target
    · subst same
      simp
    · have different : ¬ target = other := fun equal => same equal.symm
      simp [same, different, reflects.last]
  listed other := by
    rw [customTypes, Registry.put, customs, Option.getD_some, mem_enter_targets, ← customTypes, reflects.listed]
    simp [exists_or, or_comm]
  once := enter_targets_nodup target converter registry.customs reflects.once
  ready := by simp [Registry.put, hasTable, exists_or]

theorem Reflects.convert {registry : Registry} {config : Config} {uses : List Use}
    (reflects : registry.Reflects config uses) (target : Descriptor) (value : Value) (order : Option LookupOrder) :
    registry.Reflects config (uses ++ [.convert target value order]) where
  configured := reflects.configured
  last other kept := by simp [last_put_append, reflects.last]
  listed other := by simp [reflects.listed]
  once := reflects.once
  ready := by simp [reflects.ready]

-- By induction from the end, since it is the last put that counts.
theorem after_reflects (config : Config) (stack : Stack) (uses : List Use) :
    ((new config stack).after uses).Reflects config uses := by
  induction uses using List.reverseRecOn with
  | nil => exact new_reflects config stack
  | append_singleton uses use ih =>
    rw [after_append]
    cases use with
    | put target converter => exact ih.put target converter
    | convert target value order => exact ih.convert target value order

theorem contains_perform {registry : Registry} {target : Descriptor} (present : registry.contains target = true)
    (use : Use) : (registry.perform use).1.contains target = true := by
  cases use with
  | convert => exact present
  | put other converter =>
    rw [perform, contains, custom_put]
    by_cases same : target = other
    · simp [same]
    · simpa [same, contains] using present

theorem contains_after {registry : Registry} {target : Descriptor} (present : registry.contains target = true)
    (uses : List Use) : (registry.after uses).contains target = true := by
  induction uses generalizing registry with
  | nil => exact present
  | cons use rest ih => exact ih (contains_perform present use)

theorem tables_follow_uses (config : Config) (stack : Stack) (uses : List Use) :
    let registry := (new config stack).after uses
    (∀ target converter, registry.custom? target = some converter ↔ LastPut target converter uses) ∧
    (∀ target, registry.custom? target = none ↔ ∀ converter, .put target converter ∉ uses) ∧
    (∀ target, target ∈ registry.customTypes ↔ ∃ converter, .put target converter ∈ uses) ∧
    registry.customTypes.Nodup ∧
    (registry.hasTable = true ↔ ∃ target converter, .put target converter ∈ uses) ∧
    registry.config = config ∧
    (∀ target, (new config stack).resolve? target = (builtin? target).map .builtin) ∧
    (∀ target, registry.find? .customFirst target =
      (registry.custom? target <|> (new config stack).resolve? target)) ∧
    (∀ target, registry.find? .defaultFirst target =
      ((new config stack).resolve? target <|> registry.custom? target)) ∧
    (∀ target order, registry.contains target = (registry.find? order target).isSome) ∧
    (∀ target later, registry.contains target = true →
      ((new config stack).after (uses ++ later)).contains target = true) ∧
    (∀ target value order, (registry.perform (.convert target value order)).1 = registry) := by
  intro registry
  have reflects : registry.Reflects config uses := after_reflects config stack uses
  refine ⟨reflects.last, fun target => ?_, reflects.listed, reflects.once, reflects.ready, reflects.configured,
    new_resolve config stack, fun target => ?_, fun target => ?_, fun target order => contains_eq registry order target,
    fun target later present => ?_, fun target value order => rfl⟩
  · rw [custom_none_iff, reflects.listed, not_exists]
  · rw [new_resolve]
    rfl
  · rw [new_resolve]
    rfl
  · rw [after_append]
    exact contains_after present later

theorem second_answer_stays :
    let answer := Descriptor.concrete "Answer"
    let constant := fun (serial : Nat) (value : Value) => Converter.custom serial fun _ _ _ => .done (.ok value)
    let uses := [Use.put answer (constant 0 .null), .convert answer .null none, .put answer (constant 1 (.bool true))]
    ((new .default).after uses).custom? answer = some (constant 1 (.bool true)) ∧
      ((new .default).after uses).contains answer = true ∧
      ((new .default).after (uses ++ [.convert answer .null none])).contains answer = true := by
  intro answer constant uses
  have present : ((new .default).after uses).contains answer = true := by rfl
  obtain ⟨last, -, -, -, -, -, -, -, -, -, lasting, -⟩ := tables_follow_uses .default .ample uses
  have put : LastPut answer (constant 1 (.bool true)) uses :=
    ⟨uses.take 2, [], rfl, fun _ => List.not_mem_nil⟩
  exact ⟨(last answer _).mpr put, present, lasting answer _ present⟩

end Recast.Registry
