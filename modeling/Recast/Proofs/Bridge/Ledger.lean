import Mathlib.Logic.Function.Basic
import Recast.Proofs.Bridge.Program
set_option autoImplicit false

/-!
What the serial numbers of a program stand for: one transform or one pair of joined bridges each,
wherever they show, also within other bridges.
-/

namespace Recast.Bridge

variable {Code : Type} {Carrier : Code → Type} {built : List (Code × Code)} {a b c : Code}

abbrev Transforms (Carrier : Code → Type) := ⦃a b : Code⦄ → Transform (Carrier a) (Carrier b) → Prop

inductive Node (Carrier : Code → Type) where
  | single {a b : Code} (transform : Transform (Carrier a) (Carrier b))
  | chain {a b c : Code} (first : Bridge Carrier a b) (second : Bridge Carrier b c)

abbrev Ledger (Carrier : Code → Type) := Nat → Option (Node Carrier)

def Ledger.Free (ledger : Ledger Carrier) (next : Nat) : Prop := ∀ serial, next ≤ serial → ledger serial = none

def Ledger.Keeps (later ledger : Ledger Carrier) : Prop :=
  ∀ serial node, ledger serial = some node → later serial = some node

theorem Ledger.Free.enter {ledger : Ledger Carrier} {next : Nat} (free : ledger.Free next) (node : Node Carrier) :
    Ledger.Free (Function.update ledger next (some node)) (next + 1) := by
  intro serial after
  have other : serial ≠ next := by omega
  have before : next ≤ serial := by omega
  rw [Function.update_of_ne other, free serial before]

theorem Ledger.Free.enter_keeps {ledger : Ledger Carrier} {next : Nat} (free : ledger.Free next)
    (node : Node Carrier) : Ledger.Keeps (Function.update ledger next (some node)) ledger := by
  intro serial old present
  have other : serial ≠ next := by
    rintro rfl
    rw [free serial (Nat.le_refl serial)] at present
    cases present
  rw [Function.update_of_ne other, present]

section

variable [(code : Code) → Textual (Carrier code)]

inductive Supplied (users : Transforms Carrier) :
    ⦃a b : Code⦄ → Transform (Carrier a) (Carrier b) → Prop where
  | user {a b : Code} {transform : Transform (Carrier a) (Carrier b)} (brought : users transform) :
    Supplied users transform
  | functions {a b : Code} (forward : Carrier a → Except Error (Carrier b))
    (backward : Carrier b → Except Error (Carrier a)) :
    Supplied users ⟨forward, backward, functionMark, fun _ => false⟩
  | textual {a b : Code} (texts : Carrier a = String) :
    Supplied users (textualOn texts : Transform (Carrier a) (Carrier b))

def Step.DrawsOn (users : Transforms Carrier) : Step Carrier built a b → Prop
  | .new transform => users transform
  | _ => True

def Program.DrawsOn (users : Transforms Carrier) {built : List (Code × Code)} : Program Carrier built → Prop
  | .start => True
  | .next before step => before.DrawsOn users ∧ step.DrawsOn users

variable {users : Transforms Carrier} {ledger later : Ledger Carrier}

def Recorded (ledger : Ledger Carrier) (users : Transforms Carrier) {a b : Code} : Bridge Carrier a b → Prop
  | .identity _ _ => True
  | .single serial transform => ledger serial = some (.single transform) ∧ Supplied users transform
  | .singleReversed serial transform => ledger serial = some (.single transform) ∧ Supplied users transform
  | .chain serial first second =>
    ledger serial = some (.chain first second) ∧ first.Recorded ledger users ∧ second.Recorded ledger users
  | .chainReversed serial first second =>
    ledger serial = some (.chain first second) ∧ first.Recorded ledger users ∧ second.Recorded ledger users

theorem Recorded.reverse {bridge : Bridge Carrier a b} (recorded : bridge.Recorded ledger users) :
    bridge.reverse.Recorded ledger users := by
  cases bridge <;> exact recorded

theorem Recorded.keep (keeps : later.Keeps ledger) {bridge : Bridge Carrier a b}
    (recorded : bridge.Recorded ledger users) : bridge.Recorded later users := by
  induction bridge with
  | identity => trivial
  | single serial transform | singleReversed serial transform => exact ⟨keeps _ _ recorded.1, recorded.2⟩
  | chain serial first second ihFirst ihSecond | chainReversed serial first second ihFirst ihSecond =>
    obtain ⟨entry, left, right⟩ := recorded
    exact ⟨keeps _ _ entry, ihFirst left, ihSecond right⟩

def Extends (users : Transforms Carrier) (ledger : Ledger Carrier) (performed : Bridge Carrier a b × Nat) : Prop :=
  ∃ later : Ledger Carrier, later.Keeps ledger ∧ later.Free performed.2 ∧ performed.1.Recorded later users

variable {next : Nat}

theorem extends_single (free : ledger.Free next) {transform : Transform (Carrier a) (Carrier b)}
    (supplied : Supplied users transform) : Extends users ledger (.single next transform, next + 1) :=
  ⟨_, free.enter_keeps _, free.enter _, Function.update_self .., supplied⟩

theorem extends_old (free : ledger.Free next) {bridge : Bridge Carrier a b}
    (recorded : bridge.Recorded ledger users) : Extends users ledger (bridge, next) :=
  ⟨ledger, fun _ _ => id, free, recorded⟩

theorem extends_joined (free : ledger.Free next) {first : Bridge Carrier a b} {second : Bridge Carrier b c}
    (left : first.Recorded ledger users) (right : second.Recorded ledger users) :
    Extends users ledger ((first.andThen second).run next) := by
  cases leftOut : first.isIdentity with
  | true =>
    cases first with
    | identity reversed => exact extends_old free right
    | single | singleReversed | chain | chainReversed => cases leftOut
  | false =>
    cases rightOut : second.isIdentity with
    | true =>
      cases second with
      | identity reversed =>
        rw [and_then_identity leftOut]
        exact extends_old free left
      | single | singleReversed | chain | chainReversed => cases rightOut
    | false =>
      rw [and_then_new leftOut rightOut]
      have keeps := free.enter_keeps (.chain first second)
      exact ⟨_, keeps, free.enter _, Function.update_self .., left.keep keeps, right.keep keeps⟩

theorem perform_extends {step : Step Carrier built a b} (drawn : step.DrawsOn users) {shelf : Shelf Carrier built}
    (free : ledger.Free next)
    (recorded : ∀ {a b : Code} (name : Name built a b), (shelf.get name).Recorded ledger users) :
    Extends users ledger (step.perform shelf next) := by
  cases step with
  | new transform => exact extends_single free (.user drawn)
  | functions? forward backward => exact extends_single free (.functions forward backward)
  | functions forward backward => exact extends_single free (.functions _ _)
  | textual b texts => exact extends_single free (.textual texts)
  | identity a => exact extends_old free trivial
  | clone name => exact extends_old free (recorded name)
  | reverse name => exact extends_old free (recorded name).reverse
  | andThen first second => exact extends_joined free (recorded first) (recorded second)

theorem run_recorded {program : Program Carrier built} (drawn : program.DrawsOn users) (supply : Nat) :
    ∃ ledger : Ledger Carrier, ledger.Free (program.run supply).2 ∧
      ∀ {a b : Code} (name : Name built a b), (program.bridge supply name).Recorded ledger users := by
  induction program with
  | start => exact ⟨fun _ => none, fun _ _ => rfl, nofun⟩
  | next before step ih =>
    obtain ⟨ledger, free, recorded⟩ := ih drawn.1
    obtain ⟨later, keeps, stillFree, new⟩ := perform_extends drawn.2 free recorded
    refine ⟨later, stillFree, ?_⟩
    intro a b name
    cases name with
    | last => exact new
    | earlier name => exact (recorded name).keep keeps

end

end Recast.Bridge
