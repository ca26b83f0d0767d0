import Recast.Registry.Basic
import Recast.Typed
set_option autoImplicit false

namespace Recast.Registry

def take (α : Type) [Typed α] (input : Value) : Value → Except Error (Option α)
  | .null => .ok none
  | out =>
    match Typed.extract out with
    | .ok x => .ok (some x)
    | .error (.shape target found) =>
      .error (.ofUnfit (Typed.descriptor α) input (.shape target found))
    | .error error => .error error

structure Attempt (α : Type) where
  outcome : Except Error (Option α)
  calls : List Call

def attempt (registry : Registry) (α : Type) [Typed α] (value : Value) (quiet : Bool) : Attempt α :=
  if value.isNull then ⟨.ok none, []⟩
  else
    let run := registry.run (Typed.descriptor α) value
    match run.result.bind (take α value) with
    | .ok out => ⟨.ok out, run.calls⟩
    | .error error => ⟨if quiet then .ok none else .error error, run.calls⟩

def produce (registry : Registry) (α : Type) [Typed α] (value : Value) (quiet : Bool) :
    Except Error (Option α) := (registry.attempt α value quiet).outcome

def callsFor (registry : Registry) (α : Type) [Typed α] (value : Value) : List Call :=
  (registry.attempt α value false).calls

def convertTo (registry : Registry) (α : Type) [Typed α] (value : Value) : Except Error α := do
  match ← registry.produce α value false with
  | some x => return x
  | none => throw (.reject (Typed.descriptor α) value .nothingProduced)

def convertOr {α : Type} [Typed α] (registry : Registry) (value : Value) (default : α) :
    Except Error α := do
  return (← registry.produce α value false).getD default

def quietly? (registry : Registry) (α : Type) [Typed α] (value : Value) : Option α :=
  match registry.produce α value true with
  | .ok out => out
  | .error _ => none

def quietly {α : Type} [Typed α] (registry : Registry) (value : Value) (default : α) : α :=
  (registry.quietly? α value).getD default

def convertChecked {α : Type} [Typed α] (registry : Registry) (value : Value) (default : Option α)
    (quiet : Bool) : Except Error (Option α) := do
  return (← registry.produce α value quiet) <|> default

end Recast.Registry
