import Recast.Scalar
import Recast.Value.Document
set_option autoImplicit false

/-!
What converters do. A converter does not call the registry it is in: it answers, or it asks for
another conversion and says what it will do with the outcome.
-/

namespace Recast

inductive Plan where
  | done (result : Except Error Value)
  | ask (target : Descriptor) (value : Value) (next : Except Error Value → Plan)

structure Call where
  target : Descriptor
  value : Value
  serial : Option Nat

structure Run where
  result : Except Error Value
  calls : List Call

namespace Plan

def run (answer : Descriptor → Value → Run) : Plan → Run
  | .done result => ⟨result, []⟩
  | .ask target value next =>
    let asked := answer target value
    let rest := (next asked.result).run answer
    ⟨rest.result, asked.calls ++ rest.calls⟩

def each (element : Descriptor) : List Value → (List Value → Plan) → Plan
  | [], finish => finish []
  | item :: rest, finish =>
    .ask element item fun
      | .error error => .done (.error error)
      | .ok first => each element rest fun others => finish (first :: others)

end Plan

def splitText (config : Config) (text : String) : List Value :=
  if Text.isBlank text then []
  else (Text.split config.arraySeparator text).map fun piece => .str (config.prepare piece)

def itemsOf (config : Config) : Value → List Value
  | .array items => items
  | .str text => splitText config text
  | value => [value]

def arrayPlan (config : Config) (target : Descriptor) (value : Value) : Plan :=
  match target.element? with
  | none => .done (.error (.reject target value .notArrayTarget))
  | some element =>
    if value.isNull then .done (.ok .null)
    else .each element (itemsOf config value) fun items => .done (.ok (.array items))

def optionPlan (target : Descriptor) (value : Value) : Plan :=
  match target.optionInner? with
  | none => .done (.error (.reject target value .notOptionTarget))
  | some inner => if value.isNull then .done (.ok .null) else .ask inner value .done

inductive Builtin where
  | scalar (scalar : Scalar)
  | json
  | array
  | option
deriving DecidableEq

def Builtin.plan (config : Config) (builtin : Builtin) (target : Descriptor) (value : Value) : Plan :=
  match builtin with
  | .scalar kind => .done (kind.convert config target value)
  | .json => .done (value.document target)
  | .array => arrayPlan config target value
  | .option => optionPlan target value

inductive Converter where
  | builtin (builtin : Builtin)
  | custom (serial : Nat) (act : Config → Descriptor → Value → Plan)

namespace Converter

def plan (config : Config) : Converter → Descriptor → Value → Plan
  | .builtin kind => kind.plan config
  | .custom _ act => act config

def serial? : Converter → Option Nat
  | .builtin _ => none
  | .custom serial _ => some serial

end Converter

end Recast
