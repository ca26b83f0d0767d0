import Recast.Scalar.Moment
import Recast.Scalar.Place
import Recast.Scalar.Text
set_option autoImplicit false

namespace Recast

inductive Scalar where
  | bool
  | char
  | int (width : Scalar.Width)
  | float (format : Format)
  | string
  | bigInteger
  | decimal
  | path
  | duration
  | url
  | dateTime
deriving DecidableEq

namespace Scalar

def all : List Scalar :=
  [.bool, .char, .int .bits8, .int .bits16, .int .bits32, .int .bits64, .float .single, .float .double,
   .string, .bigInteger, .decimal, .path, .duration, .url, .dateTime]

def name : Scalar → String
  | .bool => "bool"
  | .char => "char"
  | .int .bits8 => "i8"
  | .int .bits16 => "i16"
  | .int .bits32 => "i32"
  | .int .bits64 => "i64"
  | .float .single => "f32"
  | .float .double => "f64"
  | .string => "String"
  | .bigInteger => "BigInt"
  | .decimal => "BigDecimal"
  | .path => "PathBuf"
  | .duration => "Duration"
  | .url => "Url"
  | .dateTime => "DateTime"

def descriptor (scalar : Scalar) : Descriptor := .concrete scalar.name

def read (config : Config) (scalar : Scalar) (value : Value) : Except Reason Value :=
  match scalar with
  | .bool => toBoolean config value
  | .char => toCharacter value
  | .int width => toInteger config width value
  | .float format => toFloat config format value
  | .string => .ok (toText config value)
  | .bigInteger => toBigInteger config value
  | .decimal => toDecimal config value
  | .path => toPath config value
  | .duration => toDuration config value
  | .url => toUrl config value
  | .dateTime => toDateTime config value

def convert (config : Config) (scalar : Scalar) (target : Descriptor) (value : Value) :
    Except Error Value :=
  match read config scalar value with
  | .ok out => .ok out
  | .error reason => .error (.reject target value reason)

end Scalar

end Recast
