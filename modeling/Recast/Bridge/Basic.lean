import Recast.Error
set_option autoImplicit false

/-!
Bidirectional converters. A bridge leads from one type to another and back; it may be reversed and
joined to the next. Types are named by codes, so that bridges in the middle of a chain compare.
-/

namespace Recast

structure Mark where
  family : String
  setting : String
deriving DecidableEq

structure Transform (α β : Type) where
  forward : α → Except Error β
  backward : β → Except Error α
  mark : Mark
  equivalent : Mark → Bool

structure Passage (α β : Type) where
  forward : α → Except Error β
  backward : β → Except Error α

namespace Passage

def identity (α : Type) : Passage α α := ⟨.ok, .ok⟩

def reverse {α β : Type} (passage : Passage α β) : Passage β α := ⟨passage.backward, passage.forward⟩

def andThen {α β γ : Type} (first : Passage α β) (second : Passage β γ) : Passage α γ where
  forward a := first.forward a >>= second.forward
  backward c := second.backward c >>= first.backward

end Passage

-- Every bridge that is built has a serial number of its own; the identity of a type is one and the same.
inductive Bridge {Code : Type} (Carrier : Code → Type) : Code → Code → Type where
  | identity (reversed : Bool) (a : Code) : Bridge Carrier a a
  | single {a b : Code} (serial : Nat) (transform : Transform (Carrier a) (Carrier b)) :
    Bridge Carrier a b
  | singleReversed {a b : Code} (serial : Nat) (transform : Transform (Carrier a) (Carrier b)) :
    Bridge Carrier b a
  | chain {a b c : Code} (serial : Nat) (first : Bridge Carrier a b) (second : Bridge Carrier b c) :
    Bridge Carrier a c
  | chainReversed {a b c : Code} (serial : Nat) (first : Bridge Carrier a b)
    (second : Bridge Carrier b c) : Bridge Carrier c a

namespace Bridge

variable {Code : Type} {Carrier : Code → Type} {a b c : Code}

def passage {a b : Code} : Bridge Carrier a b → Passage (Carrier a) (Carrier b)
  | .identity _ a => Passage.identity (Carrier a)
  | .single _ transform => ⟨transform.forward, transform.backward⟩
  | .singleReversed _ transform => ⟨transform.backward, transform.forward⟩
  | .chain _ first second => first.passage.andThen second.passage
  | .chainReversed _ first second => (first.passage.andThen second.passage).reverse

def convert (bridge : Bridge Carrier a b) (x : Carrier a) : Except Error (Carrier b) :=
  bridge.passage.forward x

def convertBack (bridge : Bridge Carrier a b) (y : Carrier b) : Except Error (Carrier a) :=
  bridge.passage.backward y

def convertNullable (bridge : Bridge Carrier a b) : Option (Carrier a) → Except Error (Option (Carrier b))
  | none => .ok none
  | some x => (bridge.convert x).map some

def reverse {a b : Code} : Bridge Carrier a b → Bridge Carrier b a
  | .identity reversed a => .identity (!reversed) a
  | .single serial transform => .singleReversed serial transform
  | .singleReversed serial transform => .single serial transform
  | .chain serial first second => .chainReversed serial first second
  | .chainReversed serial first second => .chain serial first second

theorem reverse_reverse (bridge : Bridge Carrier a b) : bridge.reverse.reverse = bridge := by
  cases bridge <;> simp [reverse]

def isIdentity {a b : Code} : Bridge Carrier a b → Bool
  | .identity .. => true
  | _ => false

def isReversed {a b : Code} : Bridge Carrier a b → Bool
  | .identity reversed _ => reversed
  | .singleReversed .. => true
  | .chainReversed .. => true
  | _ => false

def serial? {a b : Code} : Bridge Carrier a b → Option Nat
  | .identity .. => none
  | .single serial _ => some serial
  | .singleReversed serial _ => some serial
  | .chain serial .. => some serial
  | .chainReversed serial .. => some serial

def sameAs (x y : Bridge Carrier a b) : Bool := x.serial? == y.serial? && x.isReversed == y.isReversed

abbrev Building := StateM Nat

def fresh : Building Nat := modifyGet fun next => (next, next + 1)

def ofTransform (transform : Transform (Carrier a) (Carrier b)) : Building (Bridge Carrier a b) := do
  return .single (← fresh) transform

def functionMark : Mark := ⟨"function", ""⟩

def functionName : String := "FnConverter"

def ofFunctions? (forward : Carrier a → Except Error (Carrier b))
    (backward : Carrier b → Except Error (Carrier a)) : Building (Bridge Carrier a b) :=
  ofTransform ⟨forward, backward, functionMark, fun _ => false⟩

def orBreach {α : Type} (direction : Direction) : Option α → Except Error α
  | some x => .ok x
  | none => .error (.contract functionName direction)

def ofFunctions (forward : Carrier a → Option (Carrier b)) (backward : Carrier b → Option (Carrier a)) :
    Building (Bridge Carrier a b) :=
  ofFunctions? (fun x => orBreach .forward (forward x)) (fun y => orBreach .backward (backward y))

def andThen {a b c : Code} (first : Bridge Carrier a b) (second : Bridge Carrier b c) :
    Building (Bridge Carrier a c) :=
  match first, second with
  | .identity _ _, second => return second
  | first, .identity _ _ => return first
  | first, second => return .chain (← fresh) first second

variable [DecidableEq Code]

def alike {a b a' b' : Code} : Bridge Carrier a b → Bridge Carrier a' b' → Bool
  | .identity reversed a, .identity reversed' a' => reversed == reversed' && decide (a = a')
  | .single serial transform, .single serial' transform' =>
    serial == serial' || transform.equivalent transform'.mark
  | .singleReversed serial transform, .singleReversed serial' transform' =>
    serial == serial' || transform.equivalent transform'.mark
  | @Bridge.chain _ _ _ b _ serial first second, @Bridge.chain _ _ _ b' _ serial' first' second' =>
    serial == serial' || (decide (b = b') && alike first first' && alike second second')
  | @Bridge.chainReversed _ _ _ b _ serial first second,
    @Bridge.chainReversed _ _ _ b' _ serial' first' second' =>
    serial == serial' || (decide (b = b') && alike first first' && alike second second')
  | _, _ => false

def equal (x y : Bridge Carrier a b) : Bool := alike x y

end Bridge

end Recast
