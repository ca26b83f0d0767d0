import Recast.Bridge.Basic
import Recast.Text.TypeName
set_option autoImplicit false

namespace Recast

class Textual (α : Type) where
  typeName : String
  read : String → Except String α
  text : α → String

namespace Textual

def readInteger {α : Type} (low high : Int) (make : Int → α) (text : String) : Except String α :=
  match Numeral.read low high text.toList with
  | .ok n => .ok (make n)
  | .error fault => .error fault.message

instance : Textual Int8 where
  typeName := "i8"
  read := readInteger (-2 ^ 7) (2 ^ 7 - 1) Int8.ofInt
  text n := Numeral.text n.toInt

instance : Textual UInt16 where
  typeName := "u16"
  read := readInteger 0 (2 ^ 16 - 1) fun n => UInt16.ofNat n.toNat
  text n := Numeral.text n.toNat

instance : Textual Int64 where
  typeName := "i64"
  read := readInteger (-2 ^ 63) (2 ^ 63 - 1) Int64.ofInt
  text n := Numeral.text n.toInt

instance : Textual UInt64 where
  typeName := "u64"
  read := readInteger 0 (2 ^ 64 - 1) fun n => UInt64.ofNat n.toNat
  text n := Numeral.text n.toNat

instance : Textual Double where
  typeName := "f64"
  read text :=
    match Literal.readFloat text with
    | .ok x => .ok x
    | .error fault => .error fault.message
  text x := x.text

instance : Textual Bool where
  typeName := "bool"
  read text :=
    if text = "true" then .ok true
    else if text = "false" then .ok false
    else .error "provided string was not `true` or `false`"
  text b := if b then "true" else "false"

instance : Textual Char where
  typeName := "char"
  read text :=
    match text.toList with
    | [] => .error "cannot parse char from empty string"
    | [c] => .ok c
    | _ => .error "too many characters in string"
  text c := String.singleton c

instance : Textual String where
  typeName := "String"
  read text := .ok text
  text text := text

end Textual

namespace Bridge

def textTransform (α : Type) [Textual α] : Transform String α where
  forward text :=
    match Textual.read text with
    | .ok x => .ok x
    | .error message =>
      .error (.reject (.concrete (Text.shortTypeName (Textual.typeName α))) (.str text) (.other message))
  backward x := .ok (Textual.text x)
  mark := ⟨"text", Textual.typeName α⟩
  equivalent mark := mark == ⟨"text", Textual.typeName α⟩

end Bridge

end Recast
