import Recast.Text.Escaped
set_option autoImplicit false

namespace Recast

inductive LookupOrder where
  | customFirst
  | defaultFirst
deriving DecidableEq

namespace LookupOrder

def flipped : LookupOrder → LookupOrder
  | .customFirst => .defaultFirst
  | .defaultFirst => .customFirst

def text : LookupOrder → String
  | .customFirst => "CustomFirst"
  | .defaultFirst => "DefaultFirst"

end LookupOrder

structure Config where
  lookupOrder : LookupOrder
  trimStrings : Bool
  arraySeparator : Char
  logSuppressed : Bool
deriving DecidableEq

namespace Config

def default : Config := ⟨.customFirst, true, ',', false⟩

def boolText (b : Bool) : String := if b then "true" else "false"

def text (config : Config) : String :=
  "Config \x7b lookup_order: " ++ config.lookupOrder.text ++
    ", trim_strings: " ++ boolText config.trimStrings ++
    ", array_separator: " ++ Text.quotedChar config.arraySeparator ++
    ", log_suppressed: " ++ boolText config.logSuppressed ++ " \x7d"

def prepare (config : Config) (text : String) : String :=
  if config.trimStrings then Text.trim text else text

structure Choice where
  lookupOrder : Option LookupOrder
  trimStrings : Option Bool
  arraySeparator : Option Char
  logSuppressed : Option Bool

def Choice.build (choice : Choice) : Config where
  lookupOrder := choice.lookupOrder.getD default.lookupOrder
  trimStrings := choice.trimStrings.getD default.trimStrings
  arraySeparator := choice.arraySeparator.getD default.arraySeparator
  logSuppressed := choice.logSuppressed.getD default.logSuppressed

-- The settings that registries share unless they have their own. They are fixed by the first that sets them
-- or reads them.
structure Shared where
  fixed : Option Config

namespace Shared

def fresh : Shared := ⟨none⟩

def init (shared : Shared) (config : Config) : Shared × Bool :=
  match shared.fixed with
  | some _ => (shared, false)
  | none => (⟨some config⟩, true)

def get (shared : Shared) : Config × Shared :=
  let config := shared.fixed.getD default
  (config, ⟨some config⟩)

end Shared

end Config

end Recast
