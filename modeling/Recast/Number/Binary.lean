import Recast.Number.Power
set_option autoImplicit false

/-!
Binary floating-point numbers as exact data: a sign, a significand and the exponent of its last bit.
Every operation computes the exact result and rounds it once, to the nearest number of the format.
-/

namespace Recast

def roundHalfEven (num den : Nat) : Nat :=
  let quotient := num / den
  let rest := num % den
  if 2 * rest < den then quotient
  else if den < 2 * rest then quotient + 1
  else if quotient % 2 = 0 then quotient else quotient + 1

def floorLog2 (num den : Nat) : Int :=
  let guess : Int := (num.log2 : Int) - (den.log2 : Int)
  if num * 2 ^ (-guess).toNat < den * 2 ^ guess.toNat then guess - 1 else guess

inductive Format where
  | single
  | double
deriving DecidableEq

namespace Format

def precision : Format → Nat
  | .single => 24
  | .double => 53

def least : Format → Int
  | .single => -149
  | .double => -1074

def greatest : Format → Int
  | .single => 104
  | .double => 971

-- Each number has one written form: the leading bit is set, unless the exponent is the least.
def Canonical (format : Format) (significand : Nat) (exponent : Int) : Prop :=
  significand < 2 ^ format.precision ∧ format.least ≤ exponent ∧ exponent ≤ format.greatest ∧
    (significand < 2 ^ (format.precision - 1) → exponent = format.least)

instance (format : Format) (significand : Nat) (exponent : Int) :
    Decidable (format.Canonical significand exponent) :=
  inferInstanceAs (Decidable (_ ∧ _ ∧ _ ∧ (_ → _)))

theorem canonical_zero (format : Format) : format.Canonical 0 format.least := by
  cases format <;> decide

end Format

inductive Binary (format : Format) where
  | nan
  | infinite (negative : Bool)
  | finite (negative : Bool) (significand : Nat) (exponent : Int)
      (canonical : format.Canonical significand exponent)
deriving DecidableEq

abbrev Double := Binary .double
abbrev Single := Binary .single

namespace Binary

variable {format : Format}

def zero (negative : Bool) : Binary format :=
  .finite negative 0 format.least format.canonical_zero

def ofParts (negative : Bool) (significand : Nat) (exponent : Int) : Binary format :=
  if canonical : format.Canonical significand exponent then
    .finite negative significand exponent canonical
  else .infinite negative

def nearest (negative : Bool) (num den : Nat) : Binary format :=
  if num = 0 then zero negative
  else
    let last := max (floorLog2 num den - ((format.precision : Int) - 1)) format.least
    let kept := roundHalfEven (num * 2 ^ (-last).toNat) (den * 2 ^ last.toNat)
    if kept = 2 ^ format.precision then ofParts negative (2 ^ (format.precision - 1)) (last + 1)
    else ofParts negative kept last

def nearestScaled (negative : Bool) (significand : Nat) (exponent : Int) : Binary format :=
  nearest negative (significand * 2 ^ exponent.toNat) (2 ^ (-exponent).toNat)

def digitCount (n : Nat) : Nat := (Nat.toDigits 10 n).length

-- Beyond four hundred places every format is exhausted, so the power of ten is not expanded there.
def nearestDecimal (negative : Bool) (digits : Nat) (exponent : Int) : Binary format :=
  let places : Int := (digitCount digits : Int) + exponent
  if digits = 0 then zero negative
  else if 400 < places then .infinite negative
  else if places < -400 then zero negative
  else nearest negative (digits * 10 ^ exponent.toNat) (10 ^ (-exponent).toNat)

def ofInt (n : Int) : Binary format := nearest (decide (n < 0)) n.natAbs 1

def isFinite : Binary format → Bool
  | .finite .. => true
  | _ => false

def isInfinite : Binary format → Bool
  | .infinite _ => true
  | _ => false

def isNegative : Binary format → Bool
  | .nan => false
  | .infinite negative => negative
  | .finite negative .. => negative

def isZero : Binary format → Bool
  | .finite _ 0 _ _ => true
  | _ => false

def neg : Binary format → Binary format
  | .nan => .nan
  | .infinite negative => .infinite (!negative)
  | .finite negative significand exponent canonical => .finite (!negative) significand exponent canonical

def equal : Binary format → Binary format → Bool
  | .finite n₁ m₁ e₁ _, .finite n₂ m₂ e₂ _ =>
    (m₁ == 0 && m₂ == 0) || (n₁ == n₂ && m₁ == m₂ && e₁ == e₂)
  | .infinite n₁, .infinite n₂ => n₁ == n₂
  | _, _ => false

def truncate? : Binary format → Option Int
  | .finite negative significand exponent _ =>
    let whole : Nat := significand * 2 ^ exponent.toNat / 2 ^ (-exponent).toNat
    some (if negative then -(whole : Int) else (whole : Int))
  | _ => none

def trunc : Binary format → Binary format
  | .finite negative significand exponent _ =>
    nearest negative (significand * 2 ^ exponent.toNat / 2 ^ (-exponent).toNat) 1
  | x => x

def toFormat (target : Format) : Binary format → Binary target
  | .nan => .nan
  | .infinite negative => .infinite negative
  | .finite negative significand exponent _ => nearestScaled negative significand exponent

def exceeds (target : Format) : Binary format → Bool
  | .finite _ significand exponent _ =>
    let gap := exponent - target.greatest
    (2 ^ target.precision - 1) * 2 ^ (-gap).toNat < significand * 2 ^ gap.toNat
  | _ => false

def mul : Binary format → Binary format → Binary format
  | .finite n₁ m₁ e₁ _, .finite n₂ m₂ e₂ _ => nearestScaled (n₁ != n₂) (m₁ * m₂) (e₁ + e₂)
  | .nan, _ => .nan
  | _, .nan => .nan
  | x, y => if x.isZero || y.isZero then .nan else .infinite (x.isNegative != y.isNegative)

def div : Binary format → Binary format → Binary format
  | .finite n₁ m₁ e₁ _, .finite n₂ m₂ e₂ _ =>
    if m₂ = 0 then if m₁ = 0 then .nan else .infinite (n₁ != n₂)
    else nearest (n₁ != n₂) (m₁ * 2 ^ (e₁ - e₂).toNat) (m₂ * 2 ^ (e₂ - e₁).toNat)
  | .nan, _ => .nan
  | _, .nan => .nan
  | .infinite _, .infinite _ => .nan
  | .infinite n₁, .finite n₂ .. => .infinite (n₁ != n₂)
  | .finite n₁ .., .infinite n₂ => zero (n₁ != n₂)

def inUnits (negative : Bool) (significand : Nat) (exponent unit : Int) : Int :=
  let magnitude : Int := (significand * 2 ^ (exponent - unit).toNat : Nat)
  if negative then -magnitude else magnitude

def compare? : Binary format → Binary format → Option Ordering
  | .finite n₁ m₁ e₁ _, .finite n₂ m₂ e₂ _ =>
    let unit := min e₁ e₂
    some (compare (inUnits n₁ m₁ e₁ unit) (inUnits n₂ m₂ e₂ unit))
  | .nan, _ => none
  | _, .nan => none
  | .infinite n₁, .infinite n₂ => some (compare n₂ n₁)
  | .infinite negative, _ => some (if negative then .lt else .gt)
  | _, .infinite negative => some (if negative then .gt else .lt)

def isBelow (x y : Binary format) : Bool := x.compare? y == some .lt
def isAtLeast (x y : Binary format) : Bool := (x.compare? y).any (· != .lt)

-- A sum that cancels is positive zero, unless both terms are negative.
def add : Binary format → Binary format → Binary format
  | .finite n₁ m₁ e₁ _, .finite n₂ m₂ e₂ _ =>
    let unit := min e₁ e₂
    let sum := inUnits n₁ m₁ e₁ unit + inUnits n₂ m₂ e₂ unit
    if sum = 0 then zero (n₁ && n₂) else nearestScaled (decide (sum < 0)) sum.natAbs unit
  | .nan, _ => .nan
  | _, .nan => .nan
  | .infinite n₁, .infinite n₂ => if n₁ = n₂ then .infinite n₁ else .nan
  | .infinite n₁, _ => .infinite n₁
  | _, .infinite n₂ => .infinite n₂

def powerLoop : Nat → Binary format → Nat → Binary format → Binary format
  | 0, _, _, product => product
  | fuel + 1, base, n, product =>
    let product := if n % 2 = 1 then mul product base else product
    if n / 2 = 0 then product else powerLoop fuel (mul base base) (n / 2) product

def power (base : Binary format) (n : Nat) : Binary format :=
  powerLoop (n.log2 + 1) base n (ofInt 1)

end Binary

end Recast
