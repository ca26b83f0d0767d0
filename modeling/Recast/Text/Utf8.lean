set_option autoImplicit false

namespace Recast.Text

def toBytes (chars : List Char) : List UInt8 := chars.flatMap String.utf8EncodeChar

structure Partial where
  value : Nat
  left : Nat
  low : Nat
  high : Nat

inductive Lead where
  | whole (c : Char)
  | part (started : Partial)
  | invalid

def lead (byte : UInt8) : Lead :=
  let n := byte.toNat
  if n < 0x80 then .whole (Char.ofNat n)
  else if 0xC2 ≤ n ∧ n ≤ 0xDF then .part ⟨n - 0xC0, 1, 0x80, 0xBF⟩
  else if n = 0xE0 then .part ⟨0, 2, 0xA0, 0xBF⟩
  else if n = 0xED then .part ⟨0xD, 2, 0x80, 0x9F⟩
  else if 0xE1 ≤ n ∧ n ≤ 0xEF then .part ⟨n - 0xE0, 2, 0x80, 0xBF⟩
  else if n = 0xF0 then .part ⟨0, 3, 0x90, 0xBF⟩
  else if n = 0xF4 then .part ⟨4, 3, 0x80, 0x8F⟩
  else if 0xF1 ≤ n ∧ n ≤ 0xF3 then .part ⟨n - 0xF0, 3, 0x80, 0xBF⟩
  else .invalid

-- Each longest run of bytes that begins a character and does not end it becomes one `none`, and so does
-- each byte that begins none.
def decodeFrom : Option Partial → List UInt8 → List (Option Char)
  | none, [] => []
  | some _, [] => [none]
  | none, byte :: rest =>
    match lead byte with
    | .whole c => some c :: decodeFrom none rest
    | .part started => decodeFrom (some started) rest
    | .invalid => none :: decodeFrom none rest
  | some state, byte :: rest =>
    let n := byte.toNat
    if state.low ≤ n ∧ n ≤ state.high then
      let value := 64 * state.value + (n - 0x80)
      if state.left ≤ 1 then some (Char.ofNat value) :: decodeFrom none rest
      else decodeFrom (some ⟨value, state.left - 1, 0x80, 0xBF⟩) rest
    else
      none :: match lead byte with
        | .whole c => some c :: decodeFrom none rest
        | .part started => decodeFrom (some started) rest
        | .invalid => none :: decodeFrom none rest

def ofBytes? (bytes : List UInt8) : Option (List Char) := (decodeFrom none bytes).mapM id

def ofBytes (bytes : List UInt8) : List Char :=
  (decodeFrom none bytes).map fun c => c.getD (Char.ofNat 0xFFFD)

end Recast.Text
