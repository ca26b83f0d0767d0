import Recast.Number.Literal
set_option autoImplicit false

namespace Recast

structure Duration where
  nanoseconds : Nat
deriving DecidableEq

namespace Duration

def ofParts (seconds nanoseconds : Nat) : Duration := ⟨seconds * 10 ^ 9 + nanoseconds⟩
def ofMilliseconds (n : Nat) : Duration := ⟨n * 10 ^ 6⟩

def seconds (d : Duration) : Nat := d.nanoseconds / 10 ^ 9
def subsecond (d : Duration) : Nat := d.nanoseconds % 10 ^ 9
def milliseconds (d : Duration) : Nat := d.nanoseconds / 10 ^ 6

def ofSeconds? : Double → Option Duration
  | .finite negative significand exponent _ =>
    if significand = 0 then some ⟨0⟩
    else if negative then none
    else
      let nanoseconds :=
        roundHalfEven (significand * 2 ^ exponent.toNat * 10 ^ 9) (2 ^ (-exponent).toNat)
      if 2 ^ 64 * 10 ^ 9 ≤ nanoseconds then none else some ⟨nanoseconds⟩
  | _ => none

-- Seconds and their fraction are rounded apart, and then their sum.
def toSeconds (d : Duration) : Double :=
  (Binary.ofInt d.seconds).add ((Binary.ofInt d.subsecond).div (Binary.ofInt (10 ^ 9)))

def inUnit (places : Nat) (suffix : List Char) (n : Nat) : List Char :=
  let digits := Nat.toDigits 10 (n % 10 ^ places)
  let fraction := List.replicate (places - digits.length) '0' ++ digits
  let fraction := (fraction.reverse.dropWhile (· = '0')).reverse
  let whole := Nat.toDigits 10 (n / 10 ^ places)
  (if fraction = [] then whole else whole ++ '.' :: fraction) ++ suffix

def text (d : Duration) : String :=
  let n := d.nanoseconds
  String.ofList <|
    if 10 ^ 9 ≤ n then inUnit 9 ['s'] n
    else if 10 ^ 6 ≤ n then inUnit 6 ['m', 's'] n
    else if 10 ^ 3 ≤ n then inUnit 3 ['µ', 's'] n
    else Nat.toDigits 10 n ++ ['n', 's']

def components : List Char → List Char → Option (List (Double × Char))
  | [], [] => some []
  | _ :: _, [] => none
  | pending, c :: rest =>
    if c.isAlpha then do
      let number ← Literal.float? pending.reverse
      let others ← components [] rest
      return (number, c.toUpper) :: others
    else components (c :: pending) rest

-- Months and years have no fixed length.
def dateUnit? : Char → Option Nat
  | 'W' => some 604800
  | 'D' => some 86400
  | _ => none

def timeUnit? : Char → Option Nat
  | 'H' => some 3600
  | 'M' => some 60
  | 'S' => some 1
  | _ => none

def total? (unit? : Char → Option Nat) (sum : Double) : List (Double × Char) → Option Double
  | [] => some sum
  | (number, letter) :: rest => do
    let unit ← unit? letter
    total? unit? (sum.add (number.mul (Binary.ofInt unit))) rest

def isTimeMark (c : Char) : Bool := c = 'T' || c = 't'

def readIso? (text : String) : Option Duration :=
  match text.toList with
  | [] => none
  | mark :: rest => do
    if mark ≠ 'P' ∧ mark ≠ 'p' then none
    let (date, time) := match Text.cutAt isTimeMark rest with
      | some (date, time) => (date, some time)
      | none => (rest, none)
    if time = some [] then none
    let dates ← components [] date
    let times ← components [] (time.getD [])
    let sum ← total? dateUnit? (Binary.zero false) dates
    let sum ← total? timeUnit? sum times
    if dates = [] ∧ times = [] then none
    ofSeconds? sum

end Duration

end Recast
