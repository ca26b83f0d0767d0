import Recast.Scalar.Number
set_option autoImplicit false

namespace Recast.Scalar

def millisecondText? (text : String) : Option Duration :=
  match Numeral.read 0 (2 ^ 64 - 1) text.toList with
  | .ok n => some (Duration.ofMilliseconds n.toNat)
  | .error _ => none

def toDuration (config : Config) (value : Value) : Except Reason Value :=
  let read := found Value.duration .notDuration
  if value.isBlank then .ok .null
  else match value with
    | .duration d => .ok (.duration d)
    | .int n => read (if 0 ≤ n.toInt then some (Duration.ofMilliseconds n.toInt.toNat) else none)
    | .float x => read (Duration.ofSeconds? x)
    | .str text =>
      let text := config.prepare text
      read (Duration.readIso? text <|> millisecondText? text)
    | _ => .error .notDuration

def toDateTime (config : Config) (value : Value) : Except Reason Value :=
  let read := found Value.dateTime .notDateTime
  if value.isBlank then .ok .null
  else match value with
    | .dateTime t => .ok (.dateTime t)
    | .int n => read (DateTime.ofMilliseconds? n.toInt)
    | .str text => read (DateTime.read? (config.prepare text))
    | _ => .error .notDateTime

end Recast.Scalar
