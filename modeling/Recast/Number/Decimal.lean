import Recast.Number.Numeral
import Recast.Number.Shortest
import Recast.Text.Blank
set_option autoImplicit false

/-! Decimals of any size, `mantissa * 10 ^ (-scale)`, each pair of numbers a value of its own. -/

namespace Recast

structure Decimal where
  mantissa : Int
  scale : Int
deriving DecidableEq

def bitLength (n : Nat) : Nat := if n = 0 then 0 else n.log2 + 1

-- The logarithm is rounded up at the twentieth place, so that no length is estimated too small. A product in double
-- precision has the same whole part below 146964308.
def timesLog10Two (n : Nat) : Nat := n * 30102999566398119522 / 10 ^ 20

namespace Decimal

def ofInt (n : Int) : Decimal := ⟨n, 0⟩

def isExponentMark (c : Char) : Bool := c = 'e' || c = 'E'

def exponent? : Option (List Char) → Option Int
  | none => some 0
  | some chars => (Numeral.integer? chars).filter fun n => -2 ^ 127 ≤ n && n < 2 ^ 127

def cutExponent (chars : List Char) : List Char × Option (List Char) :=
  match Text.cutAt isExponentMark chars with
  | none => (chars, none)
  | some (base, exponent) => (base, some exponent)

def cutPoint (chars : List Char) : List Char × Nat :=
  match Text.cutAt (· = '.') chars with
  | none => (chars, 0)
  | some (whole, fraction) => (whole ++ fraction, fraction.length)

def read? (chars : List Char) : Option Decimal := do
  let (base, mark) := cutExponent chars
  let exponent ← exponent? mark
  let (digits, places) := cutPoint base
  let scale := (places : Int) - exponent
  let mantissa ← Numeral.integer? digits
  if -2 ^ 63 ≤ scale ∧ scale < 2 ^ 63 then some ⟨mantissa, scale⟩ else none

def toChars (d : Decimal) : List Char :=
  let digits := Nat.toDigits 10 d.mantissa.natAbs
  let scale := if d.mantissa = 0 then 0 else d.scale
  let body :=
    if 0 < scale ∧ 5 < scale - digits.length then
      let exponent := Numeral.toChars (digits.length - 1 - scale)
      match digits with
      | first :: second :: others => first :: '.' :: second :: (others ++ 'E' :: exponent)
      | _ => digits ++ 'E' :: exponent
    else if 15 < -scale then digits ++ 'e' :: '+' :: Numeral.toChars (-scale)
    else if scale ≤ 0 then digits ++ List.replicate (-scale).toNat '0'
    else pointed digits scale.toNat
  if d.mantissa < 0 then '-' :: body else body

def text (d : Decimal) : String := String.ofList d.toChars

def reduced (d : Decimal) : Int × Int :=
  if d.mantissa = 0 then (0, 0)
  else
    let magnitude := d.mantissa.natAbs
    let (digits, exponent) := stripZeros (Binary.digitCount magnitude) magnitude (-d.scale)
    (if d.mantissa < 0 then -(digits : Int) else digits, exponent)

def equal (a b : Decimal) : Bool := a.reduced == b.reduced

def whole (d : Decimal) : Int :=
  d.mantissa * 10 ^ (-d.scale).toNat |>.tdiv (10 ^ d.scale.toNat)

def places (d : Decimal) : Int := timesLog10Two (bitLength d.mantissa.natAbs) + 1 - d.scale

def saturated (n : Int) : Int := max (-2 ^ 63) (min n (2 ^ 63 - 1))

-- The estimate comes first, so that a great power of ten is refused without being expanded.
def truncate? (limit : Int) (d : Decimal) : Option Int :=
  let places := saturated d.places
  if places ≤ 0 then some 0 else if limit < places then none else some d.whole

def spareBlocks (bits : Nat) : Nat :=
  let places := timesLog10Two (bits + 1)
  if 25 < places then (places - 25) / 19 else 0

def toBinary (d : Decimal) : Double :=
  if d.mantissa = 0 then Binary.zero false
  else if d.scale = 0 then Binary.ofInt d.mantissa
  else
    let negative := decide (d.mantissa < 0)
    let blocks := spareBlocks (bitLength d.mantissa.natAbs)
    let kept := d.mantissa.natAbs / 10 ^ (19 * blocks)
    let scale := d.scale - 19 * blocks
    if scale ≤ -2 ^ 31 ∨ 2 ^ 31 ≤ scale then .infinite negative
    else if scale ≤ 0 then
      (Binary.nearest negative kept 1).mul ((Binary.ofInt 10).power (-scale).toNat)
    else Binary.nearestDecimal negative kept (-scale)

end Decimal

end Recast
