set_option autoImplicit false

namespace Recast

inductive Descriptor where
  | concrete (name : String)
  | arrayOf (element : Descriptor)
  | parameterized (base : String) (arguments : List Descriptor)

namespace Descriptor

mutual
def same : Descriptor → Descriptor → Bool
  | .concrete a, .concrete b => a == b
  | .arrayOf a, .arrayOf b => same a b
  | .parameterized a xs, .parameterized b ys => a == b && sameAll xs ys
  | _, _ => false
def sameAll : List Descriptor → List Descriptor → Bool
  | [], [] => true
  | x :: xs, y :: ys => same x y && sameAll xs ys
  | _, _ => false
end

mutual
theorem same_iff (a b : Descriptor) : same a b = true ↔ a = b := by
  cases a <;> cases b <;> simp [same]
  case arrayOf.arrayOf a b => exact same_iff a b
  case parameterized.parameterized xs _ ys => intro _; exact sameAll_iff xs ys
theorem sameAll_iff (xs ys : List Descriptor) : sameAll xs ys = true ↔ xs = ys := by
  cases xs <;> cases ys <;> simp [sameAll]
  case cons.cons x xs y ys => simp [same_iff x y, sameAll_iff xs ys]
end

instance : DecidableEq Descriptor := fun a b => decidable_of_iff _ (same_iff a b)

mutual
def order : Descriptor → Descriptor → Ordering
  | .concrete a, .concrete b => compare a b
  | .concrete _, _ => .lt
  | .arrayOf _, .concrete _ => .gt
  | .arrayOf a, .arrayOf b => order a b
  | .arrayOf _, .parameterized .. => .lt
  | .parameterized a xs, .parameterized b ys => (compare a b).then (orderAll xs ys)
  | .parameterized .., _ => .gt
def orderAll : List Descriptor → List Descriptor → Ordering
  | [], [] => .eq
  | [], _ :: _ => .lt
  | _ :: _, [] => .gt
  | x :: xs, y :: ys => (order x y).then (orderAll xs ys)
end

def sorted (descriptors : List Descriptor) : List Descriptor :=
  descriptors.eraseDups.mergeSort fun a b => order a b != .gt

mutual
def toChars : Descriptor → List Char
  | .concrete name => name.toList
  | .arrayOf element => '[' :: (element.toChars ++ [']'])
  | .parameterized base arguments => base.toList ++ '<' :: (listToChars arguments ++ ['>'])
def listToChars : List Descriptor → List Char
  | [] => []
  | [descriptor] => descriptor.toChars
  | descriptor :: next :: rest => descriptor.toChars ++ ',' :: ' ' :: listToChars (next :: rest)
end

def text (descriptor : Descriptor) : String := String.ofList descriptor.toChars

def optionBase : String := "Option"

def optionOf (inner : Descriptor) : Descriptor := .parameterized optionBase [inner]

def element? : Descriptor → Option Descriptor
  | .arrayOf element => some element
  | _ => none

def optionInner? : Descriptor → Option Descriptor
  | .parameterized base [inner] => if base = optionBase then some inner else none
  | _ => none

def isConcrete : Descriptor → Bool
  | .concrete _ => true
  | _ => false

def depth : Descriptor → Nat
  | .arrayOf element => element.depth + 1
  | .parameterized base [inner] => if base = optionBase then inner.depth + 1 else 0
  | _ => 0

theorem depth_element {descriptor element : Descriptor} (found : descriptor.element? = some element) :
    descriptor.depth = element.depth + 1 := by
  cases descriptor <;> simp_all [element?, depth]

theorem depth_inner {descriptor inner : Descriptor} (found : descriptor.optionInner? = some inner) :
    descriptor.depth = inner.depth + 1 := by
  unfold optionInner? at found
  split at found
  · split at found <;> simp_all [depth]
  · simp at found

end Descriptor

end Recast
