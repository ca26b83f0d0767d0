import Recast.Text.Blank
import Recast.Text.Utf8
set_option autoImplicit false

namespace Recast

structure Path where
  bytes : List UInt8
deriving DecidableEq

namespace Path

def slash : UInt8 := 0x2F
def dot : UInt8 := 0x2E

def ofText (text : String) : Path := ⟨Text.toBytes text.toList⟩
def text (path : Path) : String := String.ofList (Text.ofBytes path.bytes)

def isAbsolute (path : Path) : Bool := path.bytes.head? == some slash

def names (path : Path) : List (List UInt8) :=
  (Text.pieces slash path.bytes).filter fun name => name ≠ [] && name ≠ [dot]

def startsHere (path : Path) : Bool :=
  !path.isAbsolute && (Text.pieces slash path.bytes).head? == some [dot]

structure Components where
  absolute : Bool
  here : Bool
  names : List (List UInt8)
deriving DecidableEq

def components (path : Path) : Components := ⟨path.isAbsolute, path.startsHere, path.names⟩

def equal (a b : Path) : Bool := a.components == b.components

end Path

end Recast
