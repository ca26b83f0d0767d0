import Recast.Bridge.Items
import Recast.Proofs.Traversal
set_option autoImplicit false

/-!
Lists that are converted as they are asked for. Whatever is asked for at the two ends, and in whatever order, the items
come in order from each end, each of them once, and those not asked for yet are still there.
-/

namespace Recast.Bridge.Items

inductive End where
  | front
  | back
deriving DecidableEq

def middle {α : Type} (given : List α) (fronts backs : Nat) : List α :=
  (given.drop fronts).take (given.length - (fronts + backs))

section

variable {α : Type} (given : List α) (fronts backs : Nat)

theorem middle_none : middle given 0 0 = given := by
  simp [middle]

theorem middle_length : (middle given fronts backs).length = given.length - (fronts + backs) := by
  simp only [middle, List.length_take, List.length_drop]
  omega

theorem middle_tail : (middle given fronts backs).tail = middle given (fronts + 1) backs := by
  rw [middle, ← List.drop_one, List.drop_take, List.drop_drop, Nat.sub_sub, Nat.add_right_comm, middle]

theorem middle_drop_last : (middle given fronts backs).dropLast = middle given fronts (backs + 1) := by
  rw [List.dropLast_eq_take, middle_length, middle, List.take_take, Nat.min_eq_left (Nat.sub_le _ 1), Nat.sub_sub,
    Nat.add_assoc, middle]

theorem middle_head : (middle given fronts backs).head? =
    if fronts + backs < given.length then given[fronts]? else none := by
  rw [List.head?_eq_getElem?, middle, List.getElem?_take, List.getElem?_drop, Nat.add_zero]
  simp only [Nat.sub_pos_iff_lt]

theorem middle_last : (middle given fronts backs).getLast? =
    if fronts + backs < given.length then given.reverse[backs]? else none := by
  rw [List.getLast?_eq_getElem?, middle_length, middle, List.getElem?_take, List.getElem?_drop]
  by_cases within : fronts + backs < given.length
  · rw [if_pos within, if_pos (by omega), List.getElem?_reverse (by omega)]
    congr 1
    omega
  · rw [if_neg within, if_neg (by omega)]

end

variable {Code : Type} {Carrier : Code → Type} {a b : Code}

def pull (items : Items Carrier a b) : End → Option (Except Error (Carrier b)) × Items Carrier a b
  | .front => items.next
  | .back => items.nextBack

def after (items : Items Carrier a b) (calls : List End) : Items Carrier a b :=
  calls.foldl (fun items place => (items.pull place).2) items

def delivered (place : End) : Items Carrier a b → List End → List (Except Error (Carrier b))
  | _, [] => []
  | items, call :: calls =>
    (if call = place then (items.pull call).1.toList else []) ++ delivered place (items.pull call).2 calls

theorem next_eq (items : Items Carrier a b) :
    items.next = (items.source.head?.map items.bridge.convert, ⟨items.source.tail, items.bridge⟩) := by
  obtain ⟨source, bridge⟩ := items
  cases source <;> rfl

theorem next_back_eq (items : Items Carrier a b) :
    items.nextBack = (items.source.getLast?.map items.bridge.convert, ⟨items.source.dropLast, items.bridge⟩) := by
  obtain ⟨source, bridge⟩ := items
  cases last : source.getLast? with
  | none => simp [nextBack, List.getLast?_eq_none_iff.mp last]
  | some x => simp [nextBack, last]

-- A call takes an item from its end whatever becomes of that item, or none if there is none.
theorem pull_middle (bridge : Bridge Carrier a b) (given : List (Carrier a)) (fronts backs : Nat) (place : End) :
    ((⟨middle given fronts backs, bridge⟩ : Items Carrier a b).pull place).2 =
      ⟨middle given (fronts + [place].count .front) (backs + [place].count .back), bridge⟩ := by
  cases place with
  | front => simp [pull, next_eq, middle_tail]
  | back => simp [pull, next_back_eq, middle_drop_last]

theorem after_eq (bridge : Bridge Carrier a b) (given : List (Carrier a)) (calls : List End) :
    (bridge.convertAll given).after calls = ⟨middle given (calls.count .front) (calls.count .back), bridge⟩ := by
  suffices ∀ fronts backs, (⟨middle given fronts backs, bridge⟩ : Items Carrier a b).after calls =
      ⟨middle given (fronts + calls.count .front) (backs + calls.count .back), bridge⟩ by
    have whole := this 0 0
    rwa [middle_none, Nat.zero_add, Nat.zero_add] at whole
  induction calls with
  | nil => intro fronts backs; rfl
  | cons call calls ih =>
    intro fronts backs
    have counted (place : End) : (call :: calls).count place = [call].count place + calls.count place := by
      rw [← List.count_append, List.singleton_append]
    rw [after, List.foldl_cons, pull_middle, counted, counted, ← Nat.add_assoc, ← Nat.add_assoc]
    exact ih _ _

theorem delivered_partition (bridge : Bridge Carrier a b) (calls : List End) (source : List (Carrier a)) :
    ∃ early late : List (Carrier a),
      source = early ++ ((bridge.convertAll source).after calls).source ++ late.reverse ∧
      (bridge.convertAll source).delivered .front calls = early.map bridge.convert ∧
      (bridge.convertAll source).delivered .back calls = late.map bridge.convert := by
  induction calls generalizing source with
  | nil => exact ⟨[], [], by simp [after, convertAll], rfl, rfl⟩
  | cons call calls ih =>
    cases call with
    | front =>
      obtain ⟨early, late, split, fronts, backs⟩ := ih source.tail
      cases source with
      | nil => exact ⟨early, late, split, fronts, backs⟩
      | cons x rest =>
        refine ⟨x :: early, late, congrArg (x :: ·) split, ?_, backs⟩
        exact congrArg (bridge.convert x :: ·) fronts
    | back =>
      rcases List.eq_nil_or_concat' source with rfl | ⟨rest, x, rfl⟩
      · exact ih []
      · obtain ⟨early, late, split, fronts, backs⟩ := ih rest
        have pulled : (bridge.convertAll (rest ++ [x])).pull .back = (some (bridge.convert x), bridge.convertAll rest) := by
          simp [pull, next_back_eq, convertAll]
        refine ⟨early, x :: late, ?_, ?_, ?_⟩
        · rw [after, List.foldl_cons, pulled, List.reverse_cons, ← List.append_assoc]
          exact congrArg (· ++ [x]) split
        · rw [delivered, pulled]
          exact fronts
        · rw [delivered, pulled]
          exact congrArg (bridge.convert x :: ·) backs

theorem collect_from_passes {bridge : Bridge Carrier a b} {items : List (Carrier a)} {outs : List (Carrier b)}
    (passed : items.mapM bridge.convert = .ok outs) : collectFrom bridge items = (.ok outs, []) := by
  induction items generalizing outs with
  | nil =>
    cases passed
    rfl
  | cons x rest ih =>
    obtain ⟨y, others, first, later, rfl⟩ := (Traversal.mapM_cons_ok_iff ..).mp passed
    simp [collectFrom, first, ih later]

theorem collect_from_stops {bridge : Bridge Carrier a b} {before : List (Carrier a)} {outs : List (Carrier b)}
    (passed : before.mapM bridge.convert = .ok outs) {x : Carrier a} {error : Error}
    (failed : bridge.convert x = .error error) (rest : List (Carrier a)) :
    collectFrom bridge (before ++ x :: rest) = (.error error, rest) := by
  induction before generalizing outs with
  | nil => simp [collectFrom, failed]
  | cons y others ih =>
    obtain ⟨out, later, first, passed, -⟩ := (Traversal.mapM_cons_ok_iff ..).mp passed
    simp [collectFrom, first, ih passed]

theorem collect_from_ok_iff {bridge : Bridge Carrier a b} {items rest : List (Carrier a)} {outs : List (Carrier b)} :
    collectFrom bridge items = (.ok outs, rest) ↔
      List.Forall₂ (fun x y => bridge.convert x = .ok y) items outs ∧ rest = [] := by
  rw [← Traversal.mapM_ok_iff]
  constructor
  · intro collected
    cases outcome : items.mapM bridge.convert with
    | ok others =>
      rw [collect_from_passes outcome] at collected
      cases collected
      exact ⟨rfl, rfl⟩
    | error fault =>
      obtain ⟨before, x, others, passed, rfl, each, failed⟩ := (Traversal.mapM_error_iff ..).mp outcome
      rw [collect_from_stops each failed] at collected
      cases collected
  · rintro ⟨passed, rfl⟩
    exact collect_from_passes passed

theorem collect_from_error_iff {bridge : Bridge Carrier a b} {items rest : List (Carrier a)} {error : Error} :
    collectFrom bridge items = (.error error, rest) ↔
      ∃ before x, items = before ++ x :: rest ∧ (∀ y ∈ before, ∃ out, bridge.convert y = .ok out) ∧
        bridge.convert x = .error error := by
  constructor
  · intro collected
    cases outcome : items.mapM bridge.convert with
    | ok outs =>
      rw [collect_from_passes outcome] at collected
      cases collected
    | error fault =>
      obtain ⟨before, x, others, outs, rfl, passed, failed⟩ := (Traversal.mapM_error_iff ..).mp outcome
      rw [collect_from_stops passed failed] at collected
      cases collected
      exact ⟨before, x, rfl, Traversal.forall₂_exists_iff.mp ⟨outs, (Traversal.mapM_ok_iff ..).mp passed⟩, failed⟩
  · rintro ⟨before, x, rfl, passed, failed⟩
    obtain ⟨outs, each⟩ := Traversal.forall₂_exists_iff.mpr passed
    exact collect_from_stops ((Traversal.mapM_ok_iff ..).mpr each) failed rest

theorem collect_iff (items : Items Carrier a b) (result : Except Error (List (Carrier b))) (rest : List (Carrier a)) :
    items.collect = (result, ⟨rest, items.bridge⟩) ↔ collectFrom items.bridge items.source = (result, rest) := by
  simp [collect, Prod.ext_iff]

theorem converted_when_asked (bridge : Bridge Carrier a b) (given : List (Carrier a)) (calls : List End) :
    let items := (bridge.convertAll given).after calls
    let fronts := calls.count .front
    let backs := calls.count .back
    items.next.1 = (if fronts + backs < given.length then given[fronts]?.map bridge.convert else none) ∧
    items.nextBack.1 = (if fronts + backs < given.length then given.reverse[backs]?.map bridge.convert else none) ∧
    items.source = (given.drop fronts).take (given.length - (fronts + backs)) ∧
    items.size = given.length - (fronts + backs) ∧ items.sizeBounds = (items.size, some items.size) ∧
    (∃ early late : List (Carrier a), given = early ++ items.source ++ late.reverse ∧
      (bridge.convertAll given).delivered .front calls = early.map bridge.convert ∧
      (bridge.convertAll given).delivered .back calls = late.map bridge.convert) ∧
    (∀ outs rest, items.collect = (.ok outs, ⟨rest, bridge⟩) ↔
      List.Forall₂ (fun x y => bridge.convert x = .ok y) items.source outs ∧ rest = []) ∧
    ∀ error rest, items.collect = (.error error, ⟨rest, bridge⟩) ↔
      ∃ before x, items.source = before ++ x :: rest ∧ (∀ y ∈ before, ∃ out, bridge.convert y = .ok out) ∧
        bridge.convert x = .error error := by
  intro items fronts backs
  have left : items = ⟨middle given fronts backs, bridge⟩ := after_eq bridge given calls
  refine ⟨?_, ?_, congrArg source left, ?_, rfl, delivered_partition bridge calls given, fun outs rest => ?_,
    fun error rest => ?_⟩
  · rw [left, next_eq, middle_head, apply_ite (Option.map _), Option.map_none]
  · rw [left, next_back_eq, middle_last, apply_ite (Option.map _), Option.map_none]
  · rw [left, size, middle_length]
  · rw [← collect_from_ok_iff, left]
    exact collect_iff ⟨middle given fronts backs, bridge⟩ _ rest
  · rw [← collect_from_error_iff, left]
    exact collect_iff ⟨middle given fronts backs, bridge⟩ _ rest

end Recast.Bridge.Items
