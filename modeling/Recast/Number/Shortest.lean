import Recast.Number.Binary
set_option autoImplicit false

namespace Recast

def pointed (digits : List Char) (scale : Nat) : List Char :=
  if scale = 0 then digits
  else if scale < digits.length then
    digits.take (digits.length - scale) ++ '.' :: digits.drop (digits.length - scale)
  else '0' :: '.' :: (List.replicate (scale - digits.length) '0' ++ digits)

def positional (digits : Nat) (exponent : Int) : List Char :=
  pointed (Nat.toDigits 10 (digits * 10 ^ exponent.toNat)) (-exponent).toNat

def stripZeros : Nat → Nat → Int → Nat × Int
  | 0, digits, exponent => (digits, exponent)
  | fuel + 1, digits, exponent =>
    if digits ≠ 0 ∧ digits % 10 = 0 then stripZeros fuel (digits / 10) (exponent + 1)
    else (digits, exponent)

namespace Binary

variable {format : Format}

def decimalPlaces (num den : Nat) : Int :=
  if den ≤ num then digitCount (num / den)
  else
    let inverse := digitCount (den / num)
    if num * 10 ^ (inverse - 1) = den then 2 - (inverse : Int) else 1 - (inverse : Int)

def neighbour? (accepts : Nat → Bool) (num den : Nat) (unit : Int) : Option Nat :=
  let top := num * 10 ^ (-unit).toNat
  let bottom := den * 10 ^ unit.toNat
  let lower := top / bottom
  match accepts lower, accepts (lower + 1) with
  | true, true => some (if 2 * (top % bottom) < bottom then lower else lower + 1)
  | true, false => some lower
  | false, true => some (lower + 1)
  | false, false => none

-- Seventeen digits are enough for both formats.
def shortest (x : Binary format) (negative : Bool) (significand : Nat) (exponent : Int) : Nat × Int :=
  let num := significand * 2 ^ exponent.toNat
  let den := 2 ^ (-exponent).toNat
  let places := decimalPlaces num den
  let readsBack := fun (unit : Int) (digits : Nat) => decide (nearestDecimal negative digits unit = x)
  let found := (List.range 17).findSome? fun (count : Nat) =>
    let unit := places - ((count : Int) + 1)
    (neighbour? (readsBack unit) num den unit).map fun digits => (digits, unit)
  match found with
  | some (digits, unit) => stripZeros 18 digits unit
  | none => (num * 5 ^ (-exponent).toNat, min exponent 0)

def toChars (x : Binary format) : List Char :=
  match x with
  | .nan => ['N', 'a', 'N']
  | .infinite negative => if negative then ['-', 'i', 'n', 'f'] else ['i', 'n', 'f']
  | .finite negative significand exponent _ =>
    let digits :=
      if significand = 0 then ['0']
      else
        let (digits, unit) := shortest x negative significand exponent
        positional digits unit
    if negative then '-' :: digits else digits

def text (x : Binary format) : String := String.ofList x.toChars

end Binary

end Recast
