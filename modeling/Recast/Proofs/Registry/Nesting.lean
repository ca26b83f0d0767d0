import Recast.Proofs.Registry.Dispatch
import Recast.Proofs.Registry.Reach
set_option autoImplicit false

/-!
Conversions that follow the descriptor: how deep they are nested where every converter keeps to the
types within its target, and what becomes of arrays of arrays.
-/

namespace Recast

def Descriptor.arraysOf (element : Descriptor) : Nat → Descriptor
  | 0 => element
  | layers + 1 => .arrayOf (element.arraysOf layers)

namespace Value

def IsNested : Nat → Value → Prop
  | 0, _ => True
  | layers + 1, value => ∃ items, value = .array items ∧ ∀ item ∈ items, item.IsNested layers

def leaves : Nat → Value → List Value
  | 0, value => [value]
  | layers + 1, .array items => items.flatMap (leaves layers)
  | _ + 1, _ => []

def Replaced (relation : Value → Value → Prop) : Nat → Value → Value → Prop
  | 0, value, out => relation value out
  | layers + 1, value, out => ∃ items outs, value = .array items ∧ out = .array outs ∧
      List.Forall₂ (Replaced relation layers) items outs

variable {relation : Value → Value → Prop}

theorem replaced_array {layers : Nat} {items : List Value} {out : Value} :
    Replaced relation (layers + 1) (.array items) out ↔
      ∃ outs, out = .array outs ∧ List.Forall₂ (Replaced relation layers) items outs := by
  constructor
  · rintro ⟨others, outs, equal, same, each⟩
    cases equal
    exact ⟨outs, same, each⟩
  · rintro ⟨outs, same, each⟩
    exact ⟨items, outs, rfl, same, each⟩

theorem replaced_exists_iff {layers : Nat} {value : Value} (nested : value.IsNested layers) :
    (∃ out, Replaced relation layers value out) ↔ ∀ leaf ∈ value.leaves layers, ∃ out, relation leaf out := by
  induction layers generalizing value with
  | zero => simp [Replaced, leaves]
  | succ layers ih =>
    obtain ⟨items, rfl, inner⟩ := nested
    calc (∃ out, Replaced relation (layers + 1) (.array items) out)
      _ ↔ ∃ outs, List.Forall₂ (Replaced relation layers) items outs := by simp [replaced_array]
      _ ↔ ∀ item ∈ items, ∃ out, Replaced relation layers item out := Traversal.forall₂_exists_iff
      _ ↔ ∀ item ∈ items, ∀ leaf ∈ item.leaves layers, ∃ out, relation leaf out :=
        forall₂_congr fun item present => ih (inner item present)
      _ ↔ ∀ leaf ∈ leaves (layers + 1) (.array items), ∃ out, relation leaf out := by
        simp only [leaves, List.mem_flatMap]
        exact ⟨fun each leaf ⟨item, present, inside⟩ => each item present leaf inside,
          fun each item present leaf inside => each leaf ⟨item, present, inside⟩⟩

end Value

namespace Registry

-- Conversions without levels to run out of. A derivation is finite, and its number bounds how deep
-- the conversions in it are nested; a plan is carried out at the depth of who made it.
mutual
inductive Settles (registry : Registry) : Nat → LookupOrder → Descriptor → Value → Run → Prop where
  | unknown {nesting : Nat} {order : LookupOrder} {target : Descriptor} (value : Value)
      (missing : registry.find? order target = none) :
      Settles registry (nesting + 1) order target value ⟨.error (.ofLookup target value), []⟩
  | called {nesting : Nat} {order : LookupOrder} {target : Descriptor} {value : Value} {converter : Converter}
      {run : Run} (found : registry.find? order target = some converter)
      (carried : Carries registry nesting (converter.plan registry.config target value) run) :
      Settles registry (nesting + 1) order target value
        ⟨run.result, ⟨target, value, converter.serial?⟩ :: run.calls⟩
inductive Carries (registry : Registry) : Nat → Plan → Run → Prop where
  | done {nesting : Nat} (result : Except Error Value) : Carries registry nesting (.done result) ⟨result, []⟩
  | ask {nesting : Nat} {target : Descriptor} {value : Value} {next : Except Error Value → Plan}
      {asked rest : Run} (settled : Settles registry nesting registry.config.lookupOrder target value asked)
      (carried : Carries registry nesting (next asked.result) rest) :
      Carries registry nesting (.ask target value next) ⟨rest.result, asked.calls ++ rest.calls⟩
end

variable {registry : Registry}

theorem Carries.run_eq {nesting : Nat} {answer : Descriptor → Value → Run}
    (answered : ∀ target value run,
      registry.Settles nesting registry.config.lookupOrder target value run → answer target value = run)
    {plan : Plan} {run : Run} (carries : registry.Carries nesting plan run) : plan.run answer = run := by
  induction plan generalizing run with
  | done result =>
    cases carries
    rfl
  | ask target value next ih =>
    cases carries with
    | ask settled carried =>
      have asked := answered _ _ _ settled
      have rest := ih _ carried
      simp only [Plan.run, asked, rest]

def onStack (registry : Registry) (stack : Stack) : Registry := { registry with stack := stack }

theorem config_on_stack (stack : Stack) : (registry.onStack stack).config = registry.config := rfl

theorem find_on_stack (stack : Stack) (order : LookupOrder) (target : Descriptor) :
    (registry.onStack stack).find? order target = registry.find? order target := rfl

theorem Settles.dispatch_on_stack {nesting levels : Nat} {order : LookupOrder} {target : Descriptor}
    {value : Value} {run : Run} (settles : registry.Settles nesting order target value run) (stack : Stack)
    (enough : nesting ≤ levels) : (registry.onStack stack).dispatch levels order target value = run := by
  induction levels generalizing nesting order target value run with
  | zero =>
    cases Nat.le_zero.mp enough
    cases settles
  | succ levels ih =>
    cases settles with
    | unknown _ missing => rw [dispatch, find_on_stack, missing]
    | called found carried =>
      have same := carried.run_eq fun _ _ _ settled => ih settled (Nat.le_of_succ_le_succ enough)
      simp only [dispatch, find_on_stack, config_on_stack, found, same]

theorem Settles.dispatch_eq {nesting levels : Nat} {order : LookupOrder} {target : Descriptor} {value : Value}
    {run : Run} (settles : registry.Settles nesting order target value run) (enough : nesting ≤ levels) :
    registry.dispatch levels order target value = run := settles.dispatch_on_stack registry.stack enough

-- A conversion that comes to an end has its outcome wherever there is room for it.
theorem Settles.run_on_stack {nesting : Nat} {order : LookupOrder} {target : Descriptor} {value : Value}
    {run : Run} (settles : registry.Settles nesting order target value run) (stack : Stack)
    (enough : nesting ≤ target.depth + 1 + stack.spare) :
    (registry.onStack stack).runWithOrder target value order = run := settles.dispatch_on_stack stack enough

theorem Settles.unique {nesting other : Nat} {order : LookupOrder} {target : Descriptor} {value : Value}
    {run run' : Run} (settles : registry.Settles nesting order target value run)
    (settles' : registry.Settles other order target value run') : run = run' := by
  have first := settles.dispatch_eq (Nat.le_max_left nesting other)
  have second := settles'.dispatch_eq (Nat.le_max_right nesting other)
  exact first.symm.trans second

-- Where the answers are the same, a call left behind by each overflow tells two runs apart unless there is none.
structure Tells (settled : Run → Prop) (quiet loud : Run) : Prop where
  result : loud.result = quiet.result
  calls : quiet.calls.length ≤ loud.calls.length
  settled : loud.calls.length ≤ quiet.calls.length → settled quiet

theorem plan_tells {nesting : Nat} {quiet loud : Descriptor → Value → Run}
    (answered : ∀ target value, Tells (registry.Settles nesting registry.config.lookupOrder target value)
      (quiet target value) (loud target value)) (plan : Plan) :
    Tells (registry.Carries nesting plan) (plan.run quiet) (plan.run loud) := by
  induction plan with
  | done result => exact ⟨rfl, Nat.le_refl _, fun _ => .done result⟩
  | ask target value next ih =>
    have asked := answered target value
    have rest := ih (quiet target value).result
    have first := asked.calls
    have later := rest.calls
    simp only [Plan.run, asked.result]
    refine ⟨rest.result, ?_, fun same => ?_⟩
    · simp only [List.length_append]
      omega
    · simp only [List.length_append] at same
      exact .ask (asked.settled (by omega)) (rest.settled (by omega))

theorem dispatch_tells (registry : Registry) (spare nesting : Nat) (order : LookupOrder) (target : Descriptor)
    (value : Value) (result : Except Error Value) (call : Call) :
    Tells (registry.Settles nesting order target value)
      ((registry.onStack ⟨spare, fun _ _ => ⟨result, []⟩⟩).dispatch nesting order target value)
      ((registry.onStack ⟨spare, fun _ _ => ⟨result, [call]⟩⟩).dispatch nesting order target value) := by
  induction nesting generalizing order target value with
  | zero => exact ⟨rfl, Nat.zero_le 1, fun none => absurd none (Nat.not_succ_le_zero 0)⟩
  | succ nesting ih =>
    cases found : registry.find? order target with
    | none =>
      simp only [dispatch, find_on_stack, found]
      exact ⟨rfl, Nat.le_refl _, fun _ => .unknown value found⟩
    | some converter =>
      have carried := plan_tells (fun target value => ih registry.config.lookupOrder target value)
        (converter.plan registry.config target value)
      simp only [dispatch, find_on_stack, config_on_stack, found]
      refine ⟨carried.result, Nat.succ_le_succ carried.calls, fun same => ?_⟩
      exact .called found (carried.settled (Nat.le_of_succ_le_succ same))

-- What settles is what no limit has a part in.
theorem settles_iff_on_any_stack {nesting : Nat} {order : LookupOrder} {target : Descriptor} {value : Value}
    {run : Run} : registry.Settles nesting order target value run ↔
      ∀ stack, (registry.onStack stack).dispatch nesting order target value = run := by
  constructor
  · intro settles stack
    exact settles.dispatch_on_stack stack (Nat.le_refl nesting)
  · intro same
    have told := dispatch_tells registry 0 nesting order target value (.ok .null) ⟨target, value, none⟩
    rw [same, same] at told
    exact told.settled (Nat.le_refl _)

theorem carries_run {nesting : Nat} {answer : Descriptor → Value → Run} (plan : Plan)
    (settle : ∀ target, plan.Asks target → ∀ value,
      registry.Settles nesting registry.config.lookupOrder target value (answer target value)) :
    registry.Carries nesting plan (plan.run answer) := by
  induction plan with
  | done result => exact .done result
  | ask target value next ih =>
    have settled := settle target (.first ..) value
    have carried := ih (answer target value).result fun asked inside => settle asked (.later _ inside)
    exact .ask settled carried

-- Each question of a leaf converter is about a type within, and takes one off the depth.
theorem settles_dispatch (leaves : registry.LeavesOnly) {nesting : Nat} (order : LookupOrder)
    {target : Descriptor} (bound : target.depth < nesting) (value : Value) :
    registry.Settles nesting order target value (registry.dispatch nesting order target value) := by
  induction nesting generalizing order target value with
  | zero => exact absurd bound (Nat.not_lt_zero _)
  | succ nesting ih =>
    rw [dispatch]
    cases found : registry.find? order target with
    | none => exact .unknown value found
    | some converter =>
      refine .called found (carries_run _ ?_)
      intro asked asks value
      have inner := Descriptor.depth_of_inner (leaves.asks_inner found asks)
      exact ih _ (by omega) value

theorem settles_run (leaves : registry.LeavesOnly) (order : LookupOrder) (target : Descriptor) (value : Value) :
    registry.Settles (target.depth + 1) order target value (registry.runWithOrder target value order) := by
  have settles := settles_dispatch leaves order (Nat.lt_succ_self target.depth) value
  have same : registry.runWithOrder target value order = _ :=
    settles.run_on_stack registry.stack (Nat.le_add_right _ registry.stack.spare)
  rw [same]
  exact settles

theorem convert_arrays_iff (registry : Registry) (element : Descriptor) {layers : Nat}
    (served : ∀ layer < layers, registry.resolve? (element.arraysOf (layer + 1)) = some (.builtin .array))
    {value : Value} (nested : value.IsNested layers) (out : Value) :
    registry.convert (element.arraysOf layers) value = .ok out ↔
      Value.Replaced (fun leaf given => registry.convert element leaf = .ok given) layers value out := by
  induction layers generalizing value out with
  | zero => exact Iff.rfl
  | succ layers ih =>
    obtain ⟨items, rfl, inner⟩ := nested
    have below := fun layer (lower : layer < layers) => served layer (Nat.lt_succ_of_lt lower)
    have each : ∀ outs, items.mapM (registry.convert (element.arraysOf layers)) = .ok outs ↔
        List.Forall₂ (Value.Replaced (fun leaf given => registry.convert element leaf = .ok given) layers)
          items outs := by
      intro outs
      rw [Traversal.mapM_ok_iff]
      exact Traversal.forall₂_iff_of_mem fun item present out => ih below (inner item present) out
    have converted := convert_array (served layers (Nat.lt_succ_self layers)) (.array items)
    simp only [Value.isNull, Bool.false_eq_true, if_false, itemsOf] at converted
    rw [Descriptor.arraysOf, converted, Traversal.map_ok_iff, Value.replaced_array]
    constructor
    · rintro ⟨outs, passed, rfl⟩
      exact ⟨outs, rfl, (each outs).mp passed⟩
    · rintro ⟨outs, rfl, passed⟩
      exact ⟨outs, (each outs).mpr passed, rfl⟩

theorem conversion_follows_descriptor (registry : Registry) (leaves : registry.LeavesOnly) :
    (∀ target value order, ∃ run,
      registry.Settles (target.depth + 1) order target value run ∧
      (∀ nesting other, registry.Settles nesting order target value other → other = run) ∧
      registry.convertWithOrder target value order = run.result ∧
      (order = registry.config.lookupOrder → registry.convert target value = run.result)) ∧
    (∀ (element : Descriptor) (layers : Nat),
      (∀ layer < layers, registry.resolve? (element.arraysOf (layer + 1)) = some (.builtin .array)) →
      ∀ value : Value, value.IsNested layers →
        ((∃ out, registry.convert (element.arraysOf layers) value = .ok out) ↔
          ∀ leaf ∈ value.leaves layers, ∃ given, registry.convert element leaf = .ok given) ∧
        ∀ out, registry.convert (element.arraysOf layers) value = .ok out ↔
          Value.Replaced (fun leaf given => registry.convert element leaf = .ok given) layers value out) := by
  constructor
  · intro target value order
    have settles := settles_run leaves order target value
    refine ⟨_, settles, fun nesting other settled => settled.unique settles, rfl, ?_⟩
    rintro rfl
    rfl
  · intro element layers served value nested
    have outcomes := convert_arrays_iff registry element served nested
    refine ⟨?_, outcomes⟩
    rw [exists_congr outcomes, Value.replaced_exists_iff nested]

theorem colors_keep_their_arrays :
    let registry := colored .default
    let flags := Value.array [.array [.bool true, .int 5], .array []]
    registry.LeavesOnly ∧ flags.IsNested 2 ∧
      (∀ layer < 2, registry.resolve? (color.arraysOf (layer + 1)) = some (.builtin .array)) ∧
      registry.convert (color.arraysOf 2) flags = .ok (.array [.array [.int 1, .int 5], .array []]) := by
  intro registry flags
  have leaves : registry.LeavesOnly := colored_leaves _
  have nested : flags.IsNested 2 := by
    refine ⟨_, rfl, ?_⟩
    intro item inside
    simp only [List.mem_cons, List.not_mem_nil, or_false] at inside
    rcases inside with rfl | rfl
    · exact ⟨_, rfl, fun _ _ => trivial⟩
    · exact ⟨_, rfl, fun _ _ => trivial⟩
  have served : ∀ layer < 2, registry.resolve? (color.arraysOf (layer + 1)) = some (.builtin .array) := by
    intro layer bound
    obtain rfl | rfl : layer = 0 ∨ layer = 1 := by omega
    · rfl
    · rfl
  have converted := ((conversion_follows_descriptor registry leaves).2 color 2 served flags nested).2
  refine ⟨leaves, nested, served, (converted _).mpr ⟨_, _, rfl, rfl, .cons ?_ (.cons ?_ .nil)⟩⟩
  · exact ⟨_, _, rfl, rfl, .cons rfl (.cons rfl .nil)⟩
  · exact ⟨_, _, rfl, rfl, .nil⟩

end Registry

end Recast
