import Recast.Value.Document
import Recast.Scalar
set_option autoImplicit false

namespace Recast

class Typed (α : Type) where
  descriptor : Descriptor
  extract : Value → Except Error α
  embed : α → Value

namespace Typed

def extractWord (scalar : Scalar) (low high : Int) : Value → Except Error Int
  | .int n =>
    if n.toInt < low then .error (.ofFault scalar.descriptor (.int n) (.integer .tooSmall))
    else if high < n.toInt then .error (.ofFault scalar.descriptor (.int n) (.integer .tooLarge))
    else .ok n.toInt
  | value => .error (.ofShape scalar.descriptor value)

def extractWidth (width : Scalar.Width) : Value → Except Error Int :=
  extractWord (.int width) width.low width.high

def extractBy {α : Type} (scalar : Scalar) (access : Value → Option α) (value : Value) : Except Error α :=
  match access value with
  | some x => .ok x
  | none => .error (.ofShape scalar.descriptor value)

instance : Typed Int8 where
  descriptor := (Scalar.int .bits8).descriptor
  extract value := (extractWidth .bits8 value).map Int8.ofInt
  embed n := .int (Int64.ofInt n.toInt)

instance : Typed Int16 where
  descriptor := (Scalar.int .bits16).descriptor
  extract value := (extractWidth .bits16 value).map Int16.ofInt
  embed n := .int (Int64.ofInt n.toInt)

instance : Typed Int32 where
  descriptor := (Scalar.int .bits32).descriptor
  extract value := (extractWidth .bits32 value).map Int32.ofInt
  embed n := .int (Int64.ofInt n.toInt)

instance : Typed Int64 where
  descriptor := (Scalar.int .bits64).descriptor
  extract := extractBy (.int .bits64) fun | .int n => some n | _ => none
  embed n := .int n

instance : Typed Double where
  descriptor := (Scalar.float .double).descriptor
  extract := extractBy (.float .double) fun | .float x => some x | _ => none
  embed x := .float x

instance : Typed Single where
  descriptor := (Scalar.float .single).descriptor
  extract := extractBy (.float .single) fun | .float x => some (x.toFormat .single) | _ => none
  embed x := .float (x.toFormat .double)

instance : Typed Bool where
  descriptor := Scalar.bool.descriptor
  extract := extractBy .bool fun | .bool b => some b | _ => none
  embed b := .bool b

instance : Typed Char where
  descriptor := Scalar.char.descriptor
  extract := extractBy .char fun | .char c => some c | _ => none
  embed c := .char c

instance : Typed String where
  descriptor := Scalar.string.descriptor
  extract := extractBy .string Value.str?
  embed text := .str text

instance : Typed Int where
  descriptor := Scalar.bigInteger.descriptor
  extract := extractBy .bigInteger fun | .bigInt n => some n | _ => none
  embed n := .bigInt n

instance : Typed Decimal where
  descriptor := Scalar.decimal.descriptor
  extract := extractBy .decimal fun | .decimal d => some d | _ => none
  embed d := .decimal d

instance : Typed Path where
  descriptor := Scalar.path.descriptor
  extract := extractBy .path fun | .path p => some p | _ => none
  embed p := .path p

instance : Typed Duration where
  descriptor := Scalar.duration.descriptor
  extract := extractBy .duration fun | .duration d => some d | _ => none
  embed d := .duration d

instance : Typed Url where
  descriptor := Scalar.url.descriptor
  extract := extractBy .url fun | .url u => some u | _ => none
  embed u := .url u

instance : Typed DateTime where
  descriptor := Scalar.dateTime.descriptor
  extract := extractBy .dateTime fun | .dateTime t => some t | _ => none
  embed t := .dateTime t

instance : Typed Json where
  descriptor := Value.jsonDescriptor
  extract := Value.toJson
  embed := Value.ofJson

def extractItems {α : Type} [Typed α] : List Value → Except Error (List α)
  | [] => .ok []
  | item :: rest => do
    let first ← extract item
    return first :: (← extractItems rest)

instance {α : Type} [Typed α] : Typed (List α) where
  descriptor := .arrayOf (descriptor α)
  extract
    | .array items => extractItems items
    | value => .error (.ofShape (.arrayOf (descriptor α)) value)
  embed items := .array (items.map embed)

instance {α : Type} [Typed α] : Typed (Option α) where
  descriptor := .optionOf (descriptor α)
  extract
    | .null => .ok none
    | value => (extract value).map some
  embed
    | none => .null
    | some x => embed x

end Typed

end Recast
