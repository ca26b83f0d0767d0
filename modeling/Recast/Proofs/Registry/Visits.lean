import Recast.Proofs.Registry.History
import Recast.Proofs.Registry.Reach
set_option autoImplicit false

/-!
Arrays are converted from the first item on, until one fails. Nothing is asked about the items behind it, and
nothing but the conversions of the items leaves a trace.
-/

namespace Recast

namespace Plan

-- Carries a plan out where each conversion may leave a state behind for the next, as converters that count their
-- calls do.
def runFrom {σ : Type} (answer : Descriptor → Value → σ → Except Error Value × σ) :
    Plan → σ → Except Error Value × σ
  | .done result, state => (result, state)
  | .ask target value next, state =>
    let (result, left) := answer target value state
    (next result).runFrom answer left

def logged (answer : Descriptor → Value → Run) (target : Descriptor) (value : Value) (calls : List Call) :
    Except Error Value × List Call :=
  ((answer target value).result, calls ++ (answer target value).calls)

theorem run_from_logged (answer : Descriptor → Value → Run) (plan : Plan) (calls : List Call) :
    plan.runFrom (logged answer) calls = ((plan.run answer).result, calls ++ (plan.run answer).calls) := by
  induction plan generalizing calls with
  | done result => rw [runFrom, run, List.append_nil]
  | ask target value next ih => simp only [runFrom, logged, ih, run, List.append_assoc]

theorem run_of_logged {answer : Descriptor → Value → Run} {plan : Plan} {result : Except Error Value}
    {calls : List Call} (logs : plan.runFrom (logged answer) [] = (result, calls)) :
    plan.run answer = ⟨result, calls⟩ := by
  rw [run_from_logged, List.nil_append] at logs
  obtain ⟨rfl, rfl⟩ := Prod.mk.inj logs
  rfl

inductive InTurn {σ : Type} (convert : Value → σ → Except Error Value × σ) :
    List Value → σ → List Value → σ → Prop where
  | nil (state : σ) : InTurn convert [] state [] state
  | cons {item out : Value} {rest outs : List Value} {state between left : σ}
      (first : convert item state = (.ok out, between)) (later : InTurn convert rest between outs left) :
    InTurn convert (item :: rest) state (out :: outs) left

section

variable {σ : Type} {answer : Descriptor → Value → σ → Except Error Value × σ} {element : Descriptor}
  {items outs : List Value} {state left : σ}

theorem each_run_from (passed : InTurn (answer element) items state outs left) (finish : List Value → Plan) :
    (each element items finish).runFrom answer state = (finish outs).runFrom answer left := by
  induction passed generalizing finish with
  | nil state => rfl
  | cons first later ih =>
    simp only [each, runFrom, first]
    exact ih _

theorem each_run_stops (passed : InTurn (answer element) items state outs left) {item : Value} {error : Error}
    {final : σ} (failed : answer element item left = (.error error, final)) (after : List Value)
    (finish : List Value → Plan) :
    (each element (items ++ item :: after) finish).runFrom answer state = (.error error, final) := by
  induction passed generalizing finish with
  | nil state => simp only [List.nil_append, each, runFrom, failed]
  | cons first later ih =>
    simp only [List.cons_append, each, runFrom, first]
    exact ih failed _

theorem each_run_keeps {τ : Type} (view : σ → τ)
    (kept : ∀ item state, view (answer element item state).2 = view state) {finish : List Value → Plan}
    (ends : ∀ outs state, view ((finish outs).runFrom answer state).2 = view state) :
    view ((each element items finish).runFrom answer state).2 = view state := by
  induction items generalizing state finish with
  | nil => exact ends [] state
  | cons item rest ih =>
    simp only [each, runFrom]
    cases (answer element item state).1 with
    | error error => exact kept item state
    | ok first => exact (ih fun outs => ends (first :: outs)).trans (kept item state)

end

theorem in_turn_logged {answer : Descriptor → Value → Run} {element : Descriptor} {items outs : List Value}
    (passed : List.Forall₂ (fun item out => (answer element item).result = .ok out) items outs) (calls : List Call) :
    InTurn (logged answer element) items calls outs
      (calls ++ items.flatMap fun item => (answer element item).calls) := by
  induction passed generalizing calls with
  | nil => simpa using InTurn.nil calls
  | cons here _ ih =>
    refine .cons (congrArg (·, _) here) ?_
    rw [List.flatMap_cons, ← List.append_assoc]
    exact ih _

end Plan

theorem array_plan_eq (config : Config) (element : Descriptor) {value : Value} (present : value ≠ .null) :
    arrayPlan config (.arrayOf element) value =
      .each element (itemsOf config value) fun outs => .done (.ok (.array outs)) := by
  simp only [arrayPlan, Descriptor.element?, Value.is_null_false_iff.mpr present, Bool.false_eq_true, if_false]

namespace Registry

def nestedCalls (registry : Registry) (converter : Converter) (target : Descriptor) (value : Value) : List Call :=
  ((converter.plan registry.config target value).run
    (registry.dispatch (target.depth + registry.stack.spare) registry.config.lookupOrder)).calls

variable {registry : Registry} {element : Descriptor}

theorem run_calls {converter : Converter} (resolved : registry.resolve? element = some converter) (value : Value) :
    (registry.run element value).calls =
      ⟨element, value, converter.serial?⟩ :: registry.nestedCalls converter element value := by
  have found : registry.find? registry.config.lookupOrder element = some converter := resolved
  rw [run, runWithOrder, levels_eq, dispatch, found]
  rfl

theorem run_array {order : LookupOrder}
    (found : registry.find? order (.arrayOf element) = some (.builtin .array)) (value : Value) :
    registry.runWithOrder (.arrayOf element) value order =
      let run := (arrayPlan registry.config (.arrayOf element) value).run registry.run
      ⟨run.result, ⟨.arrayOf element, value, none⟩ :: run.calls⟩ := by
  have levelled : Descriptor.depth (.arrayOf element) + registry.stack.spare = registry.levels element := by
    rw [Descriptor.depth, levels]
  have leaf : (Converter.builtin .array).IsLeaf := trivial
  have same : ((Converter.builtin .array).plan registry.config (.arrayOf element) value).run
      (registry.dispatch (registry.levels element) registry.config.lookupOrder) =
      ((Converter.builtin .array).plan registry.config (.arrayOf element) value).run registry.run := by
    refine Plan.run_congr _ fun asked asks item => ?_
    rcases leaf.asks_inner asks with inner | option
    · cases inner
      rfl
    · cases option
  rw [runWithOrder, levels_eq, dispatch, found, levelled]
  simp only [same]
  rfl

section

variable (registry) {value : Value} (present : value ≠ .null)

include present

theorem array_run_stops {before after outs : List Value} {item : Value} {error : Error}
    (split : itemsOf registry.config value = before ++ item :: after)
    (passed : List.Forall₂ (fun item out => registry.convert element item = .ok out) before outs)
    (failed : registry.convert element item = .error error) :
    (arrayPlan registry.config (.arrayOf element) value).run registry.run =
      ⟨.error error, (before ++ [item]).flatMap fun item => (registry.run element item).calls⟩ := by
  have stops : Plan.logged registry.run element item (before.flatMap fun item => (registry.run element item).calls) =
      (.error error, (before ++ [item]).flatMap fun item => (registry.run element item).calls) := by
    rw [Plan.logged, List.flatMap_append, List.flatMap_singleton]
    exact congrArg (·, _) failed
  rw [array_plan_eq _ _ present, split]
  exact Plan.run_of_logged (Plan.each_run_stops (Plan.in_turn_logged passed []) stops after _)

theorem array_run_passes {outs : List Value}
    (passed : List.Forall₂ (fun item out => registry.convert element item = .ok out)
      (itemsOf registry.config value) outs) :
    (arrayPlan registry.config (.arrayOf element) value).run registry.run =
      ⟨.ok (.array outs), (itemsOf registry.config value).flatMap fun item => (registry.run element item).calls⟩ := by
  rw [array_plan_eq _ _ present]
  exact Plan.run_of_logged (Plan.each_run_from (Plan.in_turn_logged passed []) _)

end

theorem array_stops_at_first_failure (registry : Registry) (element : Descriptor) (converter : Converter)
    (resolved : registry.resolve? element = some converter) (value : Value) (present : value ≠ .null) :
    let items := itemsOf registry.config value
    let array := arrayPlan registry.config (.arrayOf element) value
    let run := array.run registry.run
    let called := fun item => Call.mk element item converter.serial? :: registry.nestedCalls converter element item
    (∀ before item after outs error, items = before ++ item :: after →
      List.Forall₂ (fun item out => registry.convert element item = .ok out) before outs →
      registry.convert element item = .error error →
      run.result = .error error ∧ run.calls = (before ++ [item]).flatMap called) ∧
    (∀ outs, List.Forall₂ (fun item out => registry.convert element item = .ok out) items outs →
      run.result = .ok (.array outs) ∧ run.calls = items.flatMap called) ∧
    (∀ item, (∃ result, converter.plan registry.config element item = .done result) →
      called item = [⟨element, item, converter.serial?⟩]) ∧
    (∀ order, registry.find? order (.arrayOf element) = some (.builtin .array) →
      registry.perform (.convert (.arrayOf element) value (some order)) =
        (registry, some ⟨run.result, ⟨.arrayOf element, value, none⟩ :: run.calls⟩)) ∧
    (∀ (σ : Type) (convert : Descriptor → Value → σ → Except Error Value × σ) (state : σ),
      (∀ before item after outs between error left, items = before ++ item :: after →
        Plan.InTurn (convert element) before state outs between →
        convert element item between = (.error error, left) → array.runFrom convert state = (.error error, left)) ∧
      (∀ outs left, Plan.InTurn (convert element) items state outs left →
        array.runFrom convert state = (.ok (.array outs), left)) ∧
      (∀ (τ : Type) (view : σ → τ), (∀ item state, view (convert element item state).2 = view state) →
        view (array.runFrom convert state).2 = view state)) := by
  intro items array run called
  have calls : (fun item => (registry.run element item).calls) = called := funext fun item => run_calls resolved item
  have asks : array = .each element items fun outs => .done (.ok (.array outs)) := array_plan_eq _ _ present
  refine ⟨?_, fun outs passed => ?_, ?_, fun order found => ?_, fun σ convert state => ⟨?_, ?_, ?_⟩⟩
  · intro before item after outs error split passed failed
    have stopped := array_run_stops registry present split passed failed
    rw [calls] at stopped
    exact ⟨congrArg Run.result stopped, congrArg Run.calls stopped⟩
  · have ended := array_run_passes registry present passed
    rw [calls] at ended
    exact ⟨congrArg Run.result ended, congrArg Run.calls ended⟩
  · rintro item ⟨result, answered⟩
    simp only [called, nestedCalls, answered]
    rfl
  · exact congrArg (fun run => (registry, some run)) (run_array found value)
  · intro before item after outs between error left split passed failed
    rw [asks, split]
    exact Plan.each_run_stops passed failed after _
  · intro outs left passed
    rw [asks]
    exact Plan.each_run_from passed _
  · intro τ view kept
    rw [asks]
    exact Plan.each_run_keeps view kept fun _ _ => rfl

theorem third_item_not_visited :
    let refuse : Descriptor → Value → Except Error Value := fun target item =>
      if item.isBlank then .error (.reject target item .nothingProduced) else .ok item
    let registry := ((new .default).put color (.custom 7 fun _ target item => .done (refuse target item))).put
      (.arrayOf color) (.builtin .array)
    let value := Value.array [.int 1, .str " ", .int 2]
    let run := (arrayPlan .default (.arrayOf color) value).run registry.run
    let count : Descriptor → Value → Nat → Except Error Value × Nat := fun target item calls =>
      (if calls < 2 then .ok item else .error (.reject target item .nothingProduced), calls + 1)
    (run.result = .error (.reject color (.str " ") .nothingProduced) ∧
      run.calls = [⟨color, .int 1, some 7⟩, ⟨color, .str " ", some 7⟩]) ∧
    registry.perform (.convert (.arrayOf color) value (some .defaultFirst)) =
      (registry, some ⟨run.result, ⟨.arrayOf color, value, none⟩ :: run.calls⟩) ∧
    ((arrayPlan .default (.arrayOf color) (.str "a,b")).run registry.run).result = .ok (.array [.str "a", .str "b"]) ∧
    (arrayPlan .default (.arrayOf color) (.str "a,b,c,d")).runFrom count 0 =
      (.error (.reject color (.str "c") .nothingProduced), 3) := by
  intro refuse registry value run count
  have resolved : registry.resolve? color = some (.custom 7 fun _ target item => .done (refuse target item)) := by rfl
  obtain ⟨fails, -, -, whole, -⟩ := array_stops_at_first_failure registry color _ resolved value nofun
  obtain ⟨-, passes, -⟩ := array_stops_at_first_failure registry color _ resolved (.str "a,b") nofun
  obtain ⟨-, -, -, -, counts⟩ := array_stops_at_first_failure registry color _ resolved (.str "a,b,c,d") nofun
  have both : itemsOf registry.config (.str "a,b") = [.str "a", .str "b"] := by rfl
  rw [both] at passes
  refine ⟨?_, whole .defaultFirst rfl, (passes _ (.cons rfl (.cons rfl .nil))).1, ?_⟩
  · exact fails [.int 1] (.str " ") [.int 2] [.int 1] _ rfl (.cons rfl .nil) rfl
  · have twice : Plan.InTurn (count color) [.str "a", .str "b"] 0 [.str "a", .str "b"] 2 :=
      .cons rfl (.cons rfl (.nil 2))
    exact (counts Nat count 0).1 _ (.str "c") [.str "d"] _ 2 _ 3 rfl twice rfl

end Registry

end Recast
