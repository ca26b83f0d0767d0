import Recast.Bridge.Textual
set_option autoImplicit false

namespace Recast.Bridge

variable {Code : Type}

inductive Name : List (Code × Code) → Code → Code → Type where
  | last {built : List (Code × Code)} {a b : Code} : Name ((a, b) :: built) a b
  | earlier {built : List (Code × Code)} {a b c d : Code} (name : Name built a b) : Name ((c, d) :: built) a b

inductive Step (Carrier : Code → Type) (built : List (Code × Code)) : Code → Code → Type where
  | new {a b : Code} (transform : Transform (Carrier a) (Carrier b)) : Step Carrier built a b
  | functions? {a b : Code} (forward : Carrier a → Except Error (Carrier b))
    (backward : Carrier b → Except Error (Carrier a)) : Step Carrier built a b
  | functions {a b : Code} (forward : Carrier a → Option (Carrier b)) (backward : Carrier b → Option (Carrier a)) :
    Step Carrier built a b
  | textual {a : Code} (b : Code) (texts : Carrier a = String) : Step Carrier built a b
  | identity (a : Code) : Step Carrier built a a
  | clone {a b : Code} (name : Name built a b) : Step Carrier built a b
  | reverse {a b : Code} (name : Name built a b) : Step Carrier built b a
  | andThen {a b c : Code} (first : Name built a b) (second : Name built b c) : Step Carrier built a c

inductive Program (Carrier : Code → Type) : List (Code × Code) → Type where
  | start : Program Carrier []
  | next {built : List (Code × Code)} {a b : Code} (before : Program Carrier built) (step : Step Carrier built a b) :
    Program Carrier ((a, b) :: built)

inductive Shelf (Carrier : Code → Type) : List (Code × Code) → Type where
  | empty : Shelf Carrier []
  | put {built : List (Code × Code)} {a b : Code} (bridge : Bridge Carrier a b) (rest : Shelf Carrier built) :
    Shelf Carrier ((a, b) :: built)

variable {Carrier : Code → Type} {built : List (Code × Code)} {a b c : Code}

def Shelf.get {built : List (Code × Code)} : Shelf Carrier built → {a b : Code} → Name built a b → Bridge Carrier a b
  | .put bridge _, _, _, .last => bridge
  | .put _ rest, _, _, .earlier name => rest.get name

def textualOn {α β : Type} [Textual β] (texts : α = String) : Transform α β := texts ▸ textTransform β

theorem textual_on_mark {α β : Type} [Textual β] (texts : α = String) :
    (textualOn texts : Transform α β).mark = ⟨"text", Textual.typeName β⟩ := by
  subst texts
  rfl

theorem textual_on_equivalent {α β : Type} [Textual β] (texts : α = String) (mark : Mark) :
    (textualOn texts : Transform α β).equivalent mark = (mark == ⟨"text", Textual.typeName β⟩) := by
  subst texts
  rfl

section

-- A type has one notation. Any will do for a type that has none, because no step makes use of it.
variable [(code : Code) → Textual (Carrier code)]

def Step.perform (shelf : Shelf Carrier built) : Step Carrier built a b → Building (Bridge Carrier a b)
  | .new transform => ofTransform transform
  | .functions? forward backward => ofFunctions? forward backward
  | .functions forward backward => ofFunctions forward backward
  | .textual b texts => ofTransform (textualOn texts)
  | .identity a => return .identity false a
  | .clone name => return shelf.get name
  | .reverse name => return (shelf.get name).reverse
  | .andThen first second => (shelf.get first).andThen (shelf.get second)

def Program.run {built : List (Code × Code)} : Program Carrier built → Building (Shelf Carrier built)
  | .start => return .empty
  | .next before step => do
    let shelf ← before.run
    let bridge ← step.perform shelf
    return shelf.put bridge

def Program.bridge (program : Program Carrier built) (supply : Nat) (name : Name built a b) : Bridge Carrier a b :=
  (program.run supply).1.get name

end

theorem serial_none_iff (bridge : Bridge Carrier a b) : bridge.serial? = none ↔ bridge.isIdentity = true := by
  cases bridge <;> simp [serial?, isIdentity]

theorem and_then_identity {first : Bridge Carrier a b} (left : first.isIdentity = false) (reversed : Bool)
    (supply : Nat) : (first.andThen (.identity reversed b)).run supply = (first, supply) := by
  cases first with
  | identity => cases left
  | single | singleReversed | chain | chainReversed => rfl

theorem and_then_new {first : Bridge Carrier a b} {second : Bridge Carrier b c} (left : first.isIdentity = false)
    (right : second.isIdentity = false) (supply : Nat) :
    (first.andThen second).run supply = (.chain supply first second, supply + 1) := by
  cases first with
  | identity => cases left
  | single | singleReversed | chain | chainReversed =>
    cases second with
    | identity => cases right
    | single | singleReversed | chain | chainReversed => rfl

end Recast.Bridge
