import Recast.Path
import Recast.Url.Basic
import Recast.Url.Percent
set_option autoImplicit false

namespace Recast.Url

def ofPath? (path : Path) : Option Url :=
  if path.isAbsolute then
    let segments := path.names.map fun name => String.ofList (Percent.encodeBytes Percent.inSegment name)
    let segments := if segments = [] then [""] else segments
    some ⟨"file", some ⟨"", "", none, none⟩, .rooted segments, none, none⟩
  else none

def isDriveByte (byte : UInt8) : Bool := (Char.ofNat byte.toNat).isAlpha

def closeDrive (bytes : List UInt8) : List UInt8 :=
  match bytes.reverse with
  | mark :: letter :: _ :: _ =>
    if (mark = 0x3A ∨ mark = 0x7C) ∧ isDriveByte letter then bytes ++ [Path.slash] else bytes
  | _ => bytes

def isLocal (url : Url) : Bool :=
  match url.authority with
  | some ⟨_, _, some host, _⟩ => host = .domain "localhost"
  | _ => true

def toPath? (url : Url) : Option Path :=
  match url.route with
  | .rooted (first :: others) =>
    if isLocal url then
      some ⟨closeDrive ((first :: others).flatMap fun (segment : String) =>
        Path.slash :: Percent.decode segment.toList)⟩
    else none
  | _ => none

end Recast.Url
