import Recast.Number.Binary
set_option autoImplicit false

namespace Recast

inductive Json.Number where
  | whole (n : Int) (fits : -2 ^ 63 ≤ n ∧ n < 2 ^ 64)
  | binary (x : Double) (finite : x.isFinite = true)
deriving DecidableEq

inductive Json where
  | null
  | bool (b : Bool)
  | number (n : Json.Number)
  | string (text : String)
  | array (items : List Json)
  | object (fields : List (String × Json))

namespace Json

def ofDouble? (x : Double) : Option Json :=
  if finite : x.isFinite = true then some (.number (.binary x finite)) else none

def ofInt? (n : Int) : Option Json :=
  if fits : -2 ^ 63 ≤ n ∧ n < 2 ^ 64 then some (.number (.whole n fits)) else none

end Json

end Recast
