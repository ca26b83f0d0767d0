import Recast.Error
import Recast.Json.Basic
import Recast.Value.Basic
set_option autoImplicit false

namespace Recast.Value

def ofNumber : Json.Number → Value
  | .whole n _ => ofInteger n
  | .binary x _ => .float x

mutual
def ofJson : Json → Value
  | .null => .null
  | .bool b => .bool b
  | .number n => ofNumber n
  | .string text => .str text
  | .array items => .array (ofItems items)
  | .object fields => .map (ofFields fields)
def ofItems : List Json → List Value
  | [] => []
  | item :: rest => ofJson item :: ofItems rest
def ofFields : List (String × Json) → List (String × Value)
  | [] => []
  | (key, item) :: rest => (key, ofJson item) :: ofFields rest
end

def jsonDescriptor : Descriptor := .concrete "Json"

theorem word_fits (n : Int64) : -2 ^ 63 ≤ n.toInt ∧ n.toInt < 2 ^ 64 := by
  have low := Int64.le_toInt n
  have high := Int64.toInt_lt n
  omega

mutual
def toJson : Value → Except Error Json
  | .null => .ok .null
  | .bool b => .ok (.bool b)
  | .int n => .ok (.number (.whole n.toInt (word_fits n)))
  | .float x =>
    match Json.ofDouble? x with
    | some document => .ok document
    | none => .error (.ofShape jsonDescriptor (.float x))
  | .str text => .ok (.string text)
  | .array items => do return .array (← toItems items)
  | .map entries => do return .object (← toFields entries)
  | value => .error (.ofShape jsonDescriptor value)
def toItems : List Value → Except Error (List Json)
  | [] => .ok []
  | item :: rest => do
    let first ← toJson item
    return first :: (← toItems rest)
def toFields : List (String × Value) → Except Error (List (String × Json))
  | [] => .ok []
  | (key, item) :: rest => do
    let first ← toJson item
    return (key, first) :: (← toFields rest)
end

mutual
def normalized (target : Descriptor) : Value → Except Error Value
  | .float x =>
    if x.isFinite then .ok (.float x) else .error (.reject target (.float x) .notFinite)
  | .array items => do return .array (← normalizedItems target items)
  | .map entries => do return .map (← normalizedEntries target entries)
  | .bigInt n =>
    match Numeral.toWord? n with
    | some word => .ok (.int word)
    | none => .ok (.str (Numeral.text n))
  | .foreign f => .error (.reject target (.foreign f) .noJsonForm)
  | .null => .ok .null
  | .bool b => .ok (.bool b)
  | .int n => .ok (.int n)
  | .str text => .ok (.str text)
  | value => .ok (.str value.text)
def normalizedItems (target : Descriptor) : List Value → Except Error (List Value)
  | [] => .ok []
  | item :: rest => do
    let first ← normalized target item
    return first :: (← normalizedItems target rest)
def normalizedEntries (target : Descriptor) :
    List (String × Value) → Except Error (List (String × Value))
  | [] => .ok []
  | (key, item) :: rest => do
    let first ← normalized target item
    return (key, first) :: (← normalizedEntries target rest)
end

-- A text is read as JSON; inside of other values texts stand for themselves.
def document (target : Descriptor) : Value → Except Error Value
  | .str text =>
    match Json.read text with
    | .ok read => .ok (ofJson read)
    | .error fault => .error (.ofFault target (.str text) (.json fault))
  | value => normalized target value

end Recast.Value
