import Recast.Bridge.Items
import Recast.Proofs.Bridge.Assembly
import Recast.Proofs.Traversal
set_option autoImplicit false

namespace Recast

namespace Passage

variable {α β γ : Type}

-- Each way undoes the other; where one fails, nothing is led there by the other.
def Lawful (passage : Passage α β) : Prop := ∀ x y, passage.forward x = .ok y ↔ passage.backward y = .ok x

theorem identity_lawful (α : Type) : (identity α).Lawful := by
  intro x y
  simp only [identity, Except.ok.injEq]
  exact eq_comm

theorem Lawful.reverse {passage : Passage α β} (lawful : passage.Lawful) : passage.reverse.Lawful :=
  fun y x => (lawful x y).symm

theorem Lawful.and_then {first : Passage α β} {second : Passage β γ} (left : first.Lawful)
    (right : second.Lawful) : (first.andThen second).Lawful := by
  intro x z
  calc (first.andThen second).forward x = .ok z
    _ ↔ ∃ y, first.forward x = .ok y ∧ second.forward y = .ok z := Traversal.bind_ok_iff
    _ ↔ ∃ y, second.backward z = .ok y ∧ first.backward y = .ok x := by
      simp only [left x, right _ z, and_comm]
    _ ↔ (first.andThen second).backward z = .ok x := Traversal.bind_ok_iff.symm

end Passage

namespace Bridge

variable {Code : Type} {Carrier : Code → Type} {a b : Code}

def Lawful (bridge : Bridge Carrier a b) : Prop := ∀ x y, bridge.convert x = .ok y ↔ bridge.convertBack y = .ok x

theorem Lawful.reverse {bridge : Bridge Carrier a b} (lawful : bridge.Lawful) : bridge.reverse.Lawful := by
  have turned : bridge.passage.reverse.Lawful := Passage.Lawful.reverse lawful
  rwa [← reverse_passage] at turned

namespace Route

def Lawful {a b : Code} : Route Carrier a b → Prop
  | .done _ => True
  | .step first rest => first.Lawful ∧ rest.Lawful

theorem Lawful.passage {route : Route Carrier a b} (lawful : route.Lawful) : route.passage.Lawful := by
  induction route with
  | done a => exact Passage.identity_lawful (Carrier a)
  | step first rest ih => exact Passage.Lawful.and_then lawful.1 (ih lawful.2)

end Route

theorem assembled_lawful {bridge : Bridge Carrier a b} {route : Route Carrier a b}
    (assembled : Assembled bridge route) (lawful : route.Lawful) : bridge.Lawful := by
  have through : bridge.passage.Lawful := by
    rw [assembled_passage assembled]
    exact lawful.passage
  exact through

namespace Items

theorem collect_from_result (bridge : Bridge Carrier a b) (items : List (Carrier a)) :
    (collectFrom bridge items).1 = items.mapM bridge.convert := by
  induction items with
  | nil => rfl
  | cons x rest ih =>
    rw [List.mapM_cons, ← ih, collectFrom]
    cases bridge.convert x with
    | error error => rfl
    | ok y =>
      cases collectFrom bridge rest with
      | mk result left => cases result <;> rfl

theorem collect_ok_iff (bridge : Bridge Carrier a b) (items : List (Carrier a)) (outs : List (Carrier b)) :
    (bridge.convertAll items).collect.1 = .ok outs ↔
      List.Forall₂ (fun x y => bridge.convert x = .ok y) items outs := by
  have collected : (bridge.convertAll items).collect.1 = (collectFrom bridge items).1 := rfl
  rw [collected, collect_from_result, Traversal.mapM_ok_iff]

end Items

theorem Lawful.collect_back {bridge : Bridge Carrier a b} (lawful : bridge.Lawful) (items : List (Carrier a))
    (outs : List (Carrier b)) :
    (bridge.convertAll items).collect.1 = .ok outs ↔ (bridge.reverse.convertAll outs).collect.1 = .ok items := by
  have led : ∀ x y, bridge.reverse.convert y = .ok x ↔ bridge.convert x = .ok y := by
    intro x y
    rw [lawful x y, convert, reverse_passage]
    rfl
  simp only [Items.collect_ok_iff, led]
  exact ⟨List.Forall₂.flip, List.Forall₂.flip⟩

theorem assembled_leads_back {bridge : Bridge Carrier a b} {route : Route Carrier a b}
    (assembled : Assembled bridge route) (lawful : route.Lawful) :
    (∀ x y, bridge.convert x = .ok y ↔ bridge.convertBack y = .ok x) ∧
    ∀ items outs, (bridge.convertAll items).collect.1 = .ok outs →
      (bridge.reverse.convertAll outs).collect.1 = .ok items := by
  have whole : bridge.Lawful := assembled_lawful assembled lawful
  refine ⟨whole, ?_⟩
  intro items outs collected
  exact (whole.collect_back items outs).mp collected

theorem halving_lawful (serial : Nat) :
    Lawful (.single serial halving : Bridge (fun _ : Unit => Nat) () ()) := by
  intro n half
  have there : (if n % 2 = 0 then Except.ok (n / 2) else .error (.contract functionName .forward)) =
      (.ok half : Except Error Nat) ↔ n % 2 = 0 ∧ n / 2 = half := by
    by_cases even : n % 2 = 0
    · simp [even]
    · simp [even]
  have back : (Except.ok (2 * half) : Except Error Nat) = .ok n ↔ 2 * half = n := by simp
  refine there.trans (Iff.trans ?_ back.symm)
  omega

theorem quadruples_lead_back :
    let half : Bridge (fun _ : Unit => Nat) () () := .single 0 halving
    let quarter := ((half.andThen half).run 1).1
    let route := (Route.single half).append (.single half)
    Assembled quarter.reverse route.reversed ∧ route.reversed.Lawful ∧
      (quarter.reverse.convertAll [3, 2]).collect.1 = .ok [12, 8] ∧
      (quarter.reverse.reverse.convertAll [12, 8]).collect.1 = .ok [3, 2] := by
  intro half quarter route
  have assembled : Assembled quarter.reverse route.reversed :=
    .reversed (.joined 1 (.part half) (.part half))
  have lawful : route.reversed.Lawful :=
    ⟨(halving_lawful 0).reverse, (halving_lawful 0).reverse, trivial⟩
  refine ⟨assembled, lawful, rfl, ?_⟩
  exact (assembled_leads_back assembled lawful).2 [3, 2] [12, 8] rfl

end Bridge

end Recast
