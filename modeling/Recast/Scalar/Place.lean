import Recast.Scalar.Number
import Recast.Url.File
import Recast.Url.Parser
set_option autoImplicit false

namespace Recast.Scalar

def toPath (config : Config) (value : Value) : Except Reason Value :=
  if value.isBlank then .ok .null
  else match value with
    | .path p => .ok (.path p)
    | .str text => .ok (.path (Path.ofText (config.prepare text)))
    | .url u => if u.scheme = "file" then found Value.path .notLocal u.toPath? else .error .notPath
    | _ => .error .notPath

def toUrl (config : Config) (value : Value) : Except Reason Value :=
  if value.isBlank then .ok .null
  else match value with
    | .url u => .ok (.url u)
    | .str text =>
      match Url.read (config.prepare text) with
      | .ok u => .ok (.url u)
      | .error fault => .error (.fault (.url fault))
    | .path p => found Value.url .notAbsolute (Url.ofPath? p)
    | _ => .error .notUrl

end Recast.Scalar
