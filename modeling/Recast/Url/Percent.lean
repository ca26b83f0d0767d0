import Recast.Number.Literal
import Recast.Text.Utf8
set_option autoImplicit false

namespace Recast.Percent

def hexDigit (n : Nat) : Char := if n < 10 then Char.ofNat (48 + n) else Char.ofNat (55 + n)

def escaped (byte : UInt8) : List Char := ['%', hexDigit (byte.toNat / 16), hexDigit (byte.toNat % 16)]

def isControl (c : Char) : Bool := c.toNat < 0x20 || 0x7F ≤ c.toNat

def inFragment (c : Char) : Bool := isControl c || c ∈ [' ', '"', '<', '>', '\x60']
def inPath (c : Char) : Bool := inFragment c || c ∈ ['#', '?', '\x7b', '\x7d']
def inUserInfo (c : Char) : Bool := inPath c || c ∈ ['/', ':', ';', '=', '@', '[', '\\', ']', '^', '|']
def inSegment (c : Char) : Bool := inPath c || c ∈ ['/', '%', '\\']
def inQuery (c : Char) : Bool := isControl c || c ∈ [' ', '"', '#', '<', '>']
def inSpecialQuery (c : Char) : Bool := inQuery c || c = '\''

def encode (set : Char → Bool) (chars : List Char) : List Char :=
  chars.flatMap fun c => if set c then (String.utf8EncodeChar c).flatMap escaped else [c]

def encodeBytes (set : Char → Bool) (bytes : List UInt8) : List Char :=
  bytes.flatMap fun byte => if set (Char.ofNat byte.toNat) then escaped byte else [Char.ofNat byte.toNat]

def decode : List Char → List UInt8
  | [] => []
  | '%' :: high :: low :: rest =>
    match Literal.hexValue? high, Literal.hexValue? low with
    | some high, some low => UInt8.ofNat (16 * high + low) :: decode rest
    | _, _ => 0x25 :: decode (high :: low :: rest)
  | c :: rest => String.utf8EncodeChar c ++ decode rest

end Recast.Percent
