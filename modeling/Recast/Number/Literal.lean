import Recast.Number.Decimal
set_option autoImplicit false

namespace Recast

inductive FloatFault where
  | empty
  | invalid
deriving DecidableEq

def FloatFault.message : FloatFault → String
  | .empty => "cannot parse float from empty string"
  | .invalid => "invalid float literal"

namespace Literal

def signed : List Char → Bool × List Char
  | '-' :: rest => (true, rest)
  | '+' :: rest => (false, rest)
  | rest => (false, rest)

def floatExponent? : List Char → Option Int
  | [] => some 0
  | c :: rest => if Decimal.isExponentMark c then Numeral.integer? rest else none

def behindPoint : List Char → List Char × List Char
  | '.' :: rest => (rest.takeWhile Char.isDigit, rest.dropWhile Char.isDigit)
  | rest => ([], rest)

def floatDigits? {format : Format} (negative : Bool) (chars : List Char) : Option (Binary format) := do
  let whole := chars.takeWhile Char.isDigit
  let (fraction, rest) := behindPoint (chars.dropWhile Char.isDigit)
  if whole = [] ∧ fraction = [] then none
  let exponent ← floatExponent? rest
  return Binary.nearestDecimal negative (Numeral.value (whole ++ fraction)) (exponent - fraction.length)

def float? {format : Format} (chars : List Char) : Option (Binary format) :=
  let (negative, rest) := signed chars
  let word := rest.map Char.toLower
  if word = ['n', 'a', 'n'] then some .nan
  else if word = ['i', 'n', 'f'] ∨ word = ['i', 'n', 'f', 'i', 'n', 'i', 't', 'y'] then
    some (.infinite negative)
  else floatDigits? negative rest

def readFloat {format : Format} (text : String) : Except FloatFault (Binary format) :=
  if text.toList = [] then .error .empty
  else match float? text.toList with
    | some x => .ok x
    | none => .error .invalid

def isGrouping (c : Char) : Bool := c = '_' || c = ','

def ungrouped (text : String) : List Char := text.toList.filter fun c => !isGrouping c

def hexValue? (c : Char) : Option Nat :=
  if c.isDigit then some (c.toNat - '0'.toNat)
  else if 'a' ≤ c ∧ c ≤ 'f' then some (c.toNat - 'a'.toNat + 10)
  else if 'A' ≤ c ∧ c ≤ 'F' then some (c.toNat - 'A'.toNat + 10)
  else none

def hexadecimal? (chars : List Char) : Option Nat :=
  chars.foldlM (fun n c => (hexValue? c).map fun digit => 16 * n + digit) 0

def hexWord? (chars : List Char) : Option Nat :=
  if chars = [] then none else (hexadecimal? chars).filter fun n => n < 2 ^ 64

def wordLimit : Double := .finite false (2 ^ 52) 11 (by decide)

def saturatedWord (x : Double) : Int64 :=
  match x.truncate? with
  | some n => Int64.ofInt (Decimal.saturated n)
  | none => if !x.isInfinite then 0 else if x.isNegative then Int64.minValue else Int64.maxValue

def floatWord? (x : Double) : Option Int64 :=
  let whole := x.trunc
  if !whole.isFinite || whole.isAtLeast wordLimit || whole.isBelow wordLimit.neg then none
  else some (saturatedWord whole)

def hexDigits? : List Char → Option (List Char)
  | '0' :: 'x' :: digits => some digits
  | '0' :: 'X' :: digits => some digits
  | _ => none

def integer? (text : String) : Option Int64 :=
  let chars := ungrouped text
  let (negative, rest) := signed chars
  match hexDigits? rest with
  | some digits => (hexWord? digits).bind fun n => Numeral.toWord? (if negative then -(n : Int) else n)
  | none =>
    match (Numeral.integer? chars).bind Numeral.toWord? with
    | some n => some n
    | none => (float? chars).bind floatWord?

def grouplessFloat? (text : String) : Option Double := float? (ungrouped text)

def withoutPlus : List Char → List Char
  | '+' :: rest => rest
  | rest => rest

def wholeLimit : Int := 10000

def bigInteger? (text : String) : Option Int :=
  let chars := ungrouped text
  match Numeral.integer? (withoutPlus chars) with
  | some n => some n
  | none =>
    match integer? text with
    | some n => some n.toInt
    | none => (Decimal.read? chars).bind (Decimal.truncate? wholeLimit)

def decimal? (text : String) : Option Decimal := Decimal.read? (withoutPlus (ungrouped text))

def boolean? (text : String) : Option Bool :=
  let word := String.ofList (text.toList.map Char.toLower)
  if word ∈ ["true", "yes", "y", "t", "on", "1"] then some true
  else if word ∈ ["false", "no", "n", "f", "off", "0"] then some false
  else none

end Literal

end Recast
