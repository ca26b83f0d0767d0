import Recast.Plan
set_option autoImplicit false

namespace Recast

-- What is the machine's: how many conversions fit into one another beyond those within the target, and what comes of
-- one that does not.
structure Stack where
  spare : Nat
  overflow : Descriptor → Value → Run

def Stack.ample : Stack := ⟨4096, fun target value => ⟨.error (.ofLookup target value), []⟩⟩

structure Registry where
  config : Config
  table : Option (List (Descriptor × Converter))
  stack : Stack

namespace Registry

def new (config : Config) (stack : Stack := .ample) : Registry := ⟨config, none, stack⟩

def builtinsOf (scalar : Scalar) : List (Descriptor × Builtin) :=
  [(scalar.descriptor, .scalar scalar), (.arrayOf scalar.descriptor, .array),
   (.optionOf scalar.descriptor, .option)]

def builtins : List (Descriptor × Builtin) :=
  Scalar.all.flatMap builtinsOf ++ [(Value.jsonDescriptor, .json)]

def builtin? (target : Descriptor) : Option Builtin := builtins.lookup target

def customs (registry : Registry) : List (Descriptor × Converter) := registry.table.getD []

def custom? (registry : Registry) (target : Descriptor) : Option Converter :=
  registry.customs.lookup target

def enter (target : Descriptor) (converter : Converter) :
    List (Descriptor × Converter) → List (Descriptor × Converter)
  | [] => [(target, converter)]
  | (other, kept) :: rest =>
    if target = other then (target, converter) :: rest
    else (other, kept) :: enter target converter rest

def put (registry : Registry) (target : Descriptor) (converter : Converter) : Registry :=
  { registry with table := some (enter target converter registry.customs) }

def hasTable (registry : Registry) : Bool := registry.table.isSome

def builtinTypes : List Descriptor := builtins.map Prod.fst

def customTypes (registry : Registry) : List Descriptor := registry.customs.map Prod.fst

def find? (registry : Registry) (order : LookupOrder) (target : Descriptor) : Option Converter :=
  match order with
  | .customFirst => registry.custom? target <|> (builtin? target).map .builtin
  | .defaultFirst => (builtin? target).map .builtin <|> registry.custom? target

def resolve? (registry : Registry) (target : Descriptor) : Option Converter :=
  registry.find? registry.config.lookupOrder target

def contains (registry : Registry) (target : Descriptor) : Bool :=
  (builtin? target).isSome || (registry.custom? target).isSome

def dispatch (registry : Registry) : Nat → LookupOrder → Descriptor → Value → Run
  | 0, _, target, value => registry.stack.overflow target value
  | levels + 1, order, target, value =>
    match registry.find? order target with
    | none => ⟨.error (.ofLookup target value), []⟩
    | some converter =>
      let run := (converter.plan registry.config target value).run
        (registry.dispatch levels registry.config.lookupOrder)
      ⟨run.result, ⟨target, value, converter.serial?⟩ :: run.calls⟩

-- One level for each array and option around a type, and one for the type.
def levels (registry : Registry) (target : Descriptor) : Nat := target.depth + 1 + registry.stack.spare

theorem levels_eq (registry : Registry) (target : Descriptor) :
    registry.levels target = target.depth + registry.stack.spare + 1 := by
  rw [levels]
  omega

def runWithOrder (registry : Registry) (target : Descriptor) (value : Value) (order : LookupOrder) : Run :=
  registry.dispatch (registry.levels target) order target value

def run (registry : Registry) (target : Descriptor) (value : Value) : Run :=
  registry.runWithOrder target value registry.config.lookupOrder

def convertWithOrder (registry : Registry) (target : Descriptor) (value : Value) (order : LookupOrder) :
    Except Error Value :=
  (registry.runWithOrder target value order).result

def convert (registry : Registry) (target : Descriptor) (value : Value) : Except Error Value :=
  (registry.run target value).result

def runBuiltin (registry : Registry) (builtin : Builtin) (target : Descriptor) (value : Value) : Run :=
  (builtin.plan registry.config target value).run
    (registry.dispatch (registry.levels target) registry.config.lookupOrder)

def text (registry : Registry) : String :=
  "ConverterRegistry \x7b config: " ++ registry.config.text ++
    ", builtins: " ++ Numeral.text builtins.length ++
    ", custom: " ++ Numeral.text registry.customs.length ++ " \x7d"

end Registry

end Recast
