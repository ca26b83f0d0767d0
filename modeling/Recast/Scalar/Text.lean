import Recast.Scalar.Number
set_option autoImplicit false

namespace Recast.Scalar

def toText (config : Config) : Value → Value
  | .null => .null
  | .str text => .str text
  | .array items => .str (Text.join config.arraySeparator (items.map Value.text))
  | value => .str value.text

def singleChar? (text : String) : Option Char :=
  match text.toList with
  | [c] => some c
  | _ => none

def charOfCode? (n : Int) : Option Char :=
  if 0 ≤ n ∧ n.toNat.isValidChar then some (Char.ofNat n.toNat) else none

def toCharacter : Value → Except Reason Value
  | .null => .ok .null
  | .char c => .ok (.char c)
  | .str text =>
    if text = "" then .ok .null
    else found Value.char .notCharacter (singleChar? text <|> singleChar? (Text.trim text))
  | .int n => found Value.char .notCharacter (charOfCode? n.toInt)
  | _ => .error .notCharacter

def toBoolean (config : Config) (value : Value) : Except Reason Value :=
  let read := found Value.bool .notBoolean
  if value.isBlank then .ok .null
  else match value with
    | .bool b => .ok (.bool b)
    | .int n => .ok (.bool (n != 0))
    | .float x => .ok (.bool (!x.isZero))
    | .bigInt n => .ok (.bool (n != 0))
    | .char c => read (Literal.boolean? (String.singleton c))
    | .str text => read (Literal.boolean? (config.prepare text))
    | _ => .error .notBoolean

end Recast.Scalar
