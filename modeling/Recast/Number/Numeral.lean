import Recast.Number.Power
set_option autoImplicit false

namespace Recast.Numeral

def digitValue (c : Char) : Nat := c.toNat - '0'.toNat

def value (digits : List Char) : Nat := digits.foldl (fun n c => 10 * n + digitValue c) 0

def natural? (chars : List Char) : Option Nat :=
  if chars ≠ [] ∧ chars.all Char.isDigit then some (value chars) else none

def integer? : List Char → Option Int
  | '-' :: digits => (natural? digits).map fun n => -(n : Int)
  | '+' :: digits => (natural? digits).map Int.ofNat
  | digits => (natural? digits).map Int.ofNat

def toChars (n : Int) : List Char :=
  if n < 0 then '-' :: Nat.toDigits 10 n.natAbs else Nat.toDigits 10 n.natAbs

def text (n : Int) : String := String.ofList (toChars n)

inductive Fault where
  | empty
  | invalidDigit
  | tooLarge
  | tooSmall
deriving DecidableEq

def Fault.message : Fault → String
  | .empty => "cannot parse integer from empty string"
  | .invalidDigit => "invalid digit found in string"
  | .tooLarge => "number too large to fit in target type"
  | .tooSmall => "number too small to fit in target type"

def readDigits (low high : Int) (negative : Bool) : Int → List Char → Except Fault Int
  | n, [] => .ok n
  | n, c :: rest =>
    if !c.isDigit then .error .invalidDigit
    else
      let next := if negative then 10 * n - digitValue c else 10 * n + digitValue c
      if high < next then .error .tooLarge
      else if next < low then .error .tooSmall
      else readDigits low high negative next rest

def read (low high : Int) (chars : List Char) : Except Fault Int :=
  match chars with
  | [] => .error .empty
  | ['+'] => .error .invalidDigit
  | ['-'] => .error .invalidDigit
  | '+' :: digits => readDigits low high false 0 digits
  | '-' :: digits => if low < 0 then readDigits low high true 0 digits else .error .invalidDigit
  | digits => readDigits low high false 0 digits

def toWord? (n : Int) : Option Int64 :=
  if -2 ^ 63 ≤ n ∧ n < 2 ^ 63 then some (Int64.ofInt n) else none

end Recast.Numeral
