import Recast.Descriptor
import Recast.Json.Reader
import Recast.Number.Literal
import Recast.Url.Host
import Recast.Value.Basic
set_option autoImplicit false

namespace Recast

inductive ErrorKind where
  | lookup
  | conversion
  | contractViolation
deriving DecidableEq

inductive Direction where
  | forward
  | backward
deriving DecidableEq

def Direction.text : Direction → String
  | .forward => "forward"
  | .backward => "backward"

inductive Fault where
  | integer (fault : Numeral.Fault)
  | float (fault : FloatFault)
  | url (fault : UrlFault)
  | json (fault : Json.Fault)

def Fault.message : Fault → String
  | .integer fault => fault.message
  | .float fault => fault.message
  | .url fault => fault.message
  | .json fault => fault.message

inductive Reason where
  | notNumber
  | notInteger
  | notFloat
  | notDecimal
  | outOfRange (n low high : Int)
  | beyondSingle
  | notCharacter
  | notBoolean
  | notPath
  | notLocal
  | notUrl
  | notAbsolute
  | notDuration
  | notDateTime
  | notFinite
  | noJsonForm
  | notArrayTarget
  | notOptionTarget
  | nothingProduced
  | other (text : String)
  | fault (fault : Fault)

def Reason.message : Reason → String
  | .notNumber => "not a number"
  | .notInteger => "not an integer"
  | .notFloat => "not a float"
  | .notDecimal => "not a decimal"
  | .outOfRange n low high =>
    Numeral.text n ++ " is out of range [" ++ Numeral.text low ++ ", " ++ Numeral.text high ++ "]"
  | .beyondSingle => "out of range for f32"
  | .notCharacter => "not a single character"
  | .notBoolean => "not a boolean"
  | .notPath => "not a path"
  | .notLocal => "not a local file URL"
  | .notUrl => "not a URL"
  | .notAbsolute => "path is not absolute"
  | .notDuration => "not a duration"
  | .notDateTime => "not a date-time"
  | .notFinite => "non-finite float"
  | .noJsonForm => "no JSON form"
  | .notArrayTarget => "target is not an array type"
  | .notOptionTarget => "target is not an option type"
  | .nothingProduced => "conversion produced no value"
  | .other text => text
  | .fault cause => cause.message

structure Subject where
  typeName : String
  preview : String
deriving DecidableEq

def previewLimit : Nat := 64

def abridged (text : String) : String :=
  let chars := text.toList
  if previewLimit < chars.length then String.ofList (chars.take previewLimit) ++ "..." else text

def Subject.ofValue (value : Value) : Subject := ⟨value.typeName, abridged value.text⟩

inductive Error where
  | lookup (subject : Subject) (target : Descriptor)
  | rejected (subject : Subject) (target : Descriptor) (reason : Reason)
  | unfit (subject : Subject) (target : Descriptor) (cause : Error)
  | shape (target : Descriptor) (found : String)
  | contract (converter : String) (direction : Direction)

namespace Error

def ofLookup (target : Descriptor) (value : Value) : Error := .lookup (Subject.ofValue value) target

def reject (target : Descriptor) (value : Value) (reason : Reason) : Error :=
  .rejected (Subject.ofValue value) target reason

def ofFault (target : Descriptor) (value : Value) (fault : Fault) : Error :=
  reject target value (.fault fault)

def ofUnfit (target : Descriptor) (value : Value) (cause : Error) : Error :=
  .unfit (Subject.ofValue value) target cause

def ofShape (target : Descriptor) (found : Value) : Error := .shape target found.typeName

def kind : Error → ErrorKind
  | .lookup .. => .lookup
  | .contract .. => .contractViolation
  | _ => .conversion

def target? : Error → Option Descriptor
  | .lookup _ target => some target
  | .rejected _ target _ => some target
  | .unfit _ target _ => some target
  | .shape target _ => some target
  | .contract .. => none

def rejection (subject : Subject) (target : Descriptor) (reason : String) : String :=
  "can not convert `" ++ subject.preview ++ "` of type " ++ subject.typeName ++ " to " ++ target.text ++
    ": " ++ reason

def message : Error → String
  | .lookup subject target =>
    "no converter registered for " ++ target.text ++ " (value `" ++ subject.preview ++ "` of type " ++
      subject.typeName ++ ")"
  | .rejected subject target reason => rejection subject target reason.message
  | .unfit subject target cause => rejection subject target cause.message
  | .shape target found => "converter for " ++ target.text ++ " returned a " ++ found ++ " value"
  | .contract converter direction =>
    direction.text ++ " transform of " ++ converter ++ " returned no value for a present input"

def source? : Error → Option String
  | .rejected _ _ (.fault cause) => some cause.message
  | .unfit _ _ cause => some cause.message
  | _ => none

end Error

end Recast
