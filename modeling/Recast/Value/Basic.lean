import Recast.Keyed
import Recast.Number.Decimal
import Recast.Path
import Recast.Time.DateTime
import Recast.Time.Duration
import Recast.Url.Basic
set_option autoImplicit false

namespace Recast

-- A value of a type that is none of the library's. Its content is in a notation of its owner; what makes
-- two of them the same is where they come from.
structure Foreign where
  typeName : String
  identity : Nat
  content : String
deriving DecidableEq

def Foreign.label (foreign : Foreign) : String := "Opaque(" ++ foreign.typeName ++ ")"

inductive Value where
  | null
  | bool (b : Bool)
  | char (c : Char)
  | int (n : Int64)
  | float (x : Double)
  | bigInt (n : Int)
  | decimal (d : Decimal)
  | str (text : String)
  | array (items : List Value)
  | map (entries : List (String × Value))
  | path (p : Path)
  | duration (d : Duration)
  | url (u : Url)
  | dateTime (t : DateTime)
  | foreign (f : Foreign)

namespace Value

def typeName : Value → String
  | .null => "null"
  | .bool _ => "bool"
  | .char _ => "char"
  | .int _ => "integer"
  | .float _ => "float"
  | .bigInt _ => "big integer"
  | .decimal _ => "big decimal"
  | .str _ => "string"
  | .array _ => "array"
  | .map _ => "map"
  | .path _ => "path"
  | .duration _ => "duration"
  | .url _ => "url"
  | .dateTime _ => "date-time"
  | .foreign f => f.typeName

def isNull : Value → Bool
  | .null => true
  | _ => false

theorem is_null_false_iff {value : Value} : value.isNull = false ↔ value ≠ .null := by
  cases value <;> simp [isNull]

def isBlank : Value → Bool
  | .null => true
  | .str text => Text.isBlank text
  | _ => false

def str? : Value → Option String
  | .str text => some text
  | _ => none

def array? : Value → Option (List Value)
  | .array items => some items
  | _ => none

def foreign? : Value → Option Foreign
  | .foreign f => some f
  | _ => none

mutual
def text : Value → String
  | .null => "null"
  | .bool b => if b then "true" else "false"
  | .char c => String.singleton c
  | .int n => Numeral.text n.toInt
  | .float x => x.text
  | .bigInt n => Numeral.text n
  | .decimal d => d.text
  | .str text => text
  | .array items => "[" ++ ", ".intercalate (itemTexts items) ++ "]"
  | .map entries => "\x7b" ++ ", ".intercalate (entryTexts entries) ++ "\x7d"
  | .path p => p.text
  | .duration d => d.text
  | .url u => u.text
  | .dateTime t => t.text
  | .foreign f => "<" ++ f.typeName ++ ">"
def itemTexts : List Value → List String
  | [] => []
  | item :: rest => item.text :: itemTexts rest
def entryTexts : List (String × Value) → List String
  | [] => []
  | (key, item) :: rest => (key ++ ": " ++ item.text) :: entryTexts rest
end

mutual
def equal : Value → Value → Bool
  | .null, .null => true
  | .bool a, .bool b => a == b
  | .char a, .char b => a == b
  | .int a, .int b => a == b
  | .float a, .float b => a.equal b
  | .bigInt a, .bigInt b => a == b
  | .decimal a, .decimal b => a.equal b
  | .str a, .str b => a == b
  | .array a, .array b => equalItems a b
  | .map a, .map b => equalEntries a b
  | .path a, .path b => a.equal b
  | .duration a, .duration b => a == b
  | .url a, .url b => a.equal b
  | .dateTime a, .dateTime b => a.equal b
  | .foreign a, .foreign b => a.identity == b.identity
  | _, _ => false
def equalItems : List Value → List Value → Bool
  | [], [] => true
  | a :: others, b :: rest => equal a b && equalItems others rest
  | _, _ => false
def equalEntries : List (String × Value) → List (String × Value) → Bool
  | [], [] => true
  | (key, a) :: others, (other, b) :: rest => key == other && equal a b && equalEntries others rest
  | _, _ => false
end

def ofEntries (entries : List (String × Value)) : Value := .map (Keyed.ofList entries)

def ofInteger (n : Int) : Value :=
  match Numeral.toWord? n with
  | some word => .int word
  | none => .bigInt n

end Value

end Recast
