import Recast.Config
import Recast.Error
set_option autoImplicit false

namespace Recast.Scalar

inductive Width where
  | bits8
  | bits16
  | bits32
  | bits64
deriving DecidableEq

namespace Width

def bits : Width → Nat
  | .bits8 => 8
  | .bits16 => 16
  | .bits32 => 32
  | .bits64 => 64

def low (width : Width) : Int := -2 ^ (width.bits - 1)
def high (width : Width) : Int := 2 ^ (width.bits - 1) - 1

end Width

def found {α : Type} (make : α → Value) (missing : Reason) : Option α → Except Reason Value
  | some x => .ok (make x)
  | none => .error missing

def digit? (c : Char) : Option Int64 :=
  if c.isDigit then some (Int64.ofNat (Numeral.digitValue c)) else none

def wordDigits : Int := 20

def wordOfBool (b : Bool) : Int64 := if b then 1 else 0

def inWidth (width : Width) (n : Int64) : Except Reason Value :=
  if n.toInt < width.low ∨ width.high < n.toInt then
    .error (.outOfRange n.toInt width.low width.high)
  else .ok (.int n)

def word (config : Config) : Value → Except Reason (Option Int64)
  | .int n => .ok (some n)
  | .bool b => .ok (some (wordOfBool b))
  | .char c => .ok (digit? c)
  | .float x => .ok (Literal.floatWord? x)
  | .bigInt n => .ok (Numeral.toWord? n)
  | .decimal d => .ok ((d.truncate? wordDigits).bind Numeral.toWord?)
  | .str text => .ok (Literal.integer? (config.prepare text))
  | .duration d => .ok (Numeral.toWord? d.milliseconds)
  | .dateTime t => .ok (Numeral.toWord? t.milliseconds)
  | _ => .error .notNumber

def toInteger (config : Config) (width : Width) (value : Value) : Except Reason Value :=
  if value.isBlank then .ok .null
  else match word config value with
    | .error reason => .error reason
    | .ok none => .error .notInteger
    | .ok (some n) => inWidth width n

def double (config : Config) : Value → Except Reason (Option Double)
  | .float x => .ok (some x)
  | .int n => .ok (some (Binary.ofInt n.toInt))
  | .bool b => .ok (some (Binary.ofInt (wordOfBool b).toInt))
  | .bigInt n => .ok (some (Binary.ofInt n))
  | .decimal d => .ok (some d.toBinary)
  | .str text => .ok (Literal.grouplessFloat? (config.prepare text))
  | .duration d => .ok (some d.toSeconds)
  | _ => .error .notNumber

def inFormat (format : Format) (x : Double) : Except Reason Value :=
  match format with
  | .double => .ok (.float x)
  | .single =>
    if x.exceeds .single then .error .beyondSingle
    else .ok (.float ((x.toFormat .single).toFormat .double))

def toFloat (config : Config) (format : Format) (value : Value) : Except Reason Value :=
  if value.isBlank then .ok .null
  else match double config value with
    | .error reason => .error reason
    | .ok none => .error .notFloat
    | .ok (some x) => inFormat format x

def toBigInteger (config : Config) (value : Value) : Except Reason Value :=
  let whole := found Value.bigInt .notInteger
  if value.isBlank then .ok .null
  else match value with
    | .bigInt n => .ok (.bigInt n)
    | .int n => .ok (.bigInt n.toInt)
    | .bool b => .ok (.bigInt (wordOfBool b).toInt)
    | .float x => if x.isFinite then whole x.trunc.truncate? else .error .notNumber
    | .decimal d => whole (d.truncate? Literal.wholeLimit)
    | .str text => whole (Literal.bigInteger? (config.prepare text))
    | _ => .error .notNumber

def toDecimal (config : Config) (value : Value) : Except Reason Value :=
  let read := found Value.decimal .notDecimal
  if value.isBlank then .ok .null
  else match value with
    | .decimal d => .ok (.decimal d)
    | .int n => .ok (.decimal (Decimal.ofInt n.toInt))
    | .bool b => .ok (.decimal (Decimal.ofInt (wordOfBool b).toInt))
    | .bigInt n => .ok (.decimal (Decimal.ofInt n))
    | .float x => if x.isFinite then read (Decimal.read? x.toChars) else .error .notNumber
    | .str text => read (Literal.decimal? (config.prepare text))
    | _ => .error .notNumber

end Recast.Scalar
