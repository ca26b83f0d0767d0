import Recast.Bridge.Basic
set_option autoImplicit false

namespace Recast

namespace Passage

variable {α β γ : Type}

theorem identity_and_then (passage : Passage α β) : (identity α).andThen passage = passage := by
  obtain ⟨forward, backward⟩ := passage
  simp only [andThen, identity, mk.injEq]
  exact ⟨rfl, funext fun y => bind_pure (backward y)⟩

theorem and_then_identity (passage : Passage α β) : passage.andThen (identity β) = passage := by
  obtain ⟨forward, backward⟩ := passage
  simp only [andThen, identity, mk.injEq]
  exact ⟨funext fun x => bind_pure (forward x), rfl⟩

theorem and_then_assoc {δ : Type} (first : Passage α β) (second : Passage β γ) (third : Passage γ δ) :
    (first.andThen second).andThen third = first.andThen (second.andThen third) := by
  simp only [andThen, mk.injEq]
  constructor
  · funext x
    exact bind_assoc (first.forward x) second.forward third.forward
  · funext z
    exact (bind_assoc (third.backward z) second.backward first.backward).symm

theorem and_then_reverse (first : Passage α β) (second : Passage β γ) :
    (first.andThen second).reverse = second.reverse.andThen first.reverse := rfl

end Passage

namespace Bridge

inductive Route {Code : Type} (Carrier : Code → Type) : Code → Code → Type where
  | done (a : Code) : Route Carrier a a
  | step {a b c : Code} (first : Bridge Carrier a b) (rest : Route Carrier b c) : Route Carrier a c

variable {Code : Type} {Carrier : Code → Type} {a b c : Code}

namespace Route

def single (bridge : Bridge Carrier a b) : Route Carrier a b := .step bridge (.done b)

def append {a b c : Code} : Route Carrier a b → Route Carrier b c → Route Carrier a c
  | .done _, other => other
  | .step first rest, other => .step first (rest.append other)

def reversed {a b : Code} : Route Carrier a b → Route Carrier b a
  | .done a => .done a
  | .step first rest => rest.reversed.append (single first.reverse)

def run {a b : Code} : Route Carrier a b → Carrier a → Except Error (Carrier b)
  | .done _, x => .ok x
  | .step first rest, x =>
    match first.convert x with
    | .error error => .error error
    | .ok y => rest.run y

def runBack {a b : Code} : Route Carrier a b → Carrier b → Except Error (Carrier a)
  | .done _, z => .ok z
  | .step first rest, z =>
    match rest.runBack z with
    | .error error => .error error
    | .ok y => first.convertBack y

def passage {a b : Code} : Route Carrier a b → Passage (Carrier a) (Carrier b)
  | .done a => .identity (Carrier a)
  | .step first rest => first.passage.andThen rest.passage

theorem passage_forward (route : Route Carrier a b) : route.passage.forward = route.run := by
  induction route with
  | done a => rfl
  | step first rest ih =>
    funext x
    simp only [passage, Passage.andThen, run, ih, convert]
    cases first.passage.forward x with
    | error error => rfl
    | ok y => rfl

theorem passage_backward (route : Route Carrier a b) : route.passage.backward = route.runBack := by
  induction route with
  | done a => rfl
  | step first rest ih =>
    funext z
    simp only [passage, Passage.andThen, runBack, ih, convertBack]
    cases rest.runBack z with
    | error error => rfl
    | ok y => rfl

theorem append_passage (route : Route Carrier a b) (other : Route Carrier b c) :
    (route.append other).passage = route.passage.andThen other.passage := by
  induction route with
  | done a => exact (Passage.identity_and_then other.passage).symm
  | step first rest ih => rw [append, passage, ih, passage, Passage.and_then_assoc]

end Route

theorem reverse_passage (bridge : Bridge Carrier a b) : bridge.reverse.passage = bridge.passage.reverse := by
  cases bridge <;> rfl

theorem Route.single_passage (bridge : Bridge Carrier a b) : (Route.single bridge).passage = bridge.passage :=
  Passage.and_then_identity bridge.passage

theorem Route.reversed_passage (route : Route Carrier a b) : route.reversed.passage = route.passage.reverse := by
  induction route with
  | done a => rfl
  | step first rest ih =>
    rw [reversed, append_passage, ih, single_passage, reverse_passage, passage, Passage.and_then_reverse]

-- Joining leaves an identity out; the way that is left is the one through both.
theorem and_then_passage (first : Bridge Carrier a b) (second : Bridge Carrier b c) (supply : Nat) :
    ((first.andThen second).run supply).1.passage = first.passage.andThen second.passage := by
  cases first with
  | identity => exact (Passage.identity_and_then second.passage).symm
  | single | singleReversed | chain | chainReversed =>
    cases second with
    | identity => exact (Passage.and_then_identity _).symm
    | single | singleReversed | chain | chainReversed => rfl

inductive Assembled {Code : Type} {Carrier : Code → Type} :
    {a b : Code} → Bridge Carrier a b → Route Carrier a b → Prop where
  | part {a b : Code} (bridge : Bridge Carrier a b) : Assembled bridge (.single bridge)
  | identity (reversed : Bool) (a : Code) : Assembled (.identity reversed a) (.done a)
  | joined {a b c : Code} {first : Bridge Carrier a b} {second : Bridge Carrier b c}
      {route : Route Carrier a b} {rest : Route Carrier b c} (supply : Nat)
      (left : Assembled first route) (right : Assembled second rest) :
      Assembled ((first.andThen second).run supply).1 (route.append rest)
  | reversed {a b : Code} {bridge : Bridge Carrier a b} {route : Route Carrier a b}
      (inner : Assembled bridge route) : Assembled bridge.reverse route.reversed

theorem assembled_passage {bridge : Bridge Carrier a b} {route : Route Carrier a b}
    (assembled : Assembled bridge route) : bridge.passage = route.passage := by
  induction assembled with
  | part bridge => exact (Route.single_passage bridge).symm
  | identity reversed a => rfl
  | joined supply left right leftPassage rightPassage =>
    rw [and_then_passage, leftPassage, rightPassage, Route.append_passage]
  | reversed inner passage => rw [reverse_passage, passage, Route.reversed_passage]

theorem assembled_convert {bridge : Bridge Carrier a b} {route : Route Carrier a b}
    (assembled : Assembled bridge route) (x : Carrier a) : bridge.convert x = route.run x := by
  rw [convert, assembled_passage assembled, Route.passage_forward]

theorem assembled_convert_back {bridge : Bridge Carrier a b} {route : Route Carrier a b}
    (assembled : Assembled bridge route) (y : Carrier b) : bridge.convertBack y = route.runBack y := by
  rw [convertBack, assembled_passage assembled, Route.passage_backward]

theorem assembled_runs_parts {bridge : Bridge Carrier a b} {route : Route Carrier a b}
    (assembled : Assembled bridge route) :
    (∀ x, bridge.convert x = route.run x) ∧
    (∀ y, bridge.convertBack y = route.runBack y) ∧
    bridge.convertNullable none = .ok none ∧
    (∀ x, bridge.convertNullable (some x) = (bridge.convert x).map some) ∧
    (∀ opposite : Bridge Carrier b a, Assembled opposite route.reversed →
      (∀ y, bridge.reverse.convert y = opposite.convert y) ∧
      (∀ x, bridge.reverse.convertBack x = opposite.convertBack x)) := by
  refine ⟨assembled_convert assembled, assembled_convert_back assembled, rfl, fun _ => rfl, ?_⟩
  intro opposite turned
  have same : bridge.reverse.passage = opposite.passage := by
    rw [assembled_passage assembled.reversed, assembled_passage turned]
  constructor
  · intro y
    rw [convert, convert, same]
  · intro x
    rw [convertBack, convertBack, same]

def halving : Transform Nat Nat where
  forward n := if n % 2 = 0 then .ok (n / 2) else .error (.contract functionName .forward)
  backward n := .ok (2 * n)
  mark := functionMark
  equivalent _ := false

theorem quartering_runs_halvings :
    let half : Bridge (fun _ : Unit => Nat) () () := .single 0 halving
    let padded := ((identity true ()).andThen half).run 1 |>.1
    let quarter := (half.andThen padded).run 1 |>.1
    let route := (Route.single half).append ((Route.done ()).append (.single half))
    Assembled quarter route ∧ quarter.convert 12 = .ok 3 ∧
      quarter.convert 6 = .error (.contract functionName .forward) ∧
      quarter.reverse.convert 3 = quarter.reverse.reverse.reverse.convert 3 := by
  intro half padded quarter route
  have assembled : Assembled quarter route :=
    .joined 1 (.part half) (.joined 1 (.identity true ()) (.part half))
  obtain ⟨there, -, -, -, turned⟩ := assembled_runs_parts assembled
  refine ⟨assembled, there 12, there 6, ?_⟩
  exact (turned quarter.reverse.reverse.reverse (by rw [reverse_reverse]; exact assembled.reversed)).1 3

end Bridge

end Recast
