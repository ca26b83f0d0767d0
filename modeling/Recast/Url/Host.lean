import Recast.Url.Basic
import Recast.Url.Percent
import Recast.Url.Punycode
set_option autoImplicit false

namespace Recast

inductive UrlFault where
  | relative
  | emptyHost
  | portNumber
  | ipv4
  | ipv6
  | domain
  | hostCharacter
deriving DecidableEq

def UrlFault.message : UrlFault → String
  | .relative => "relative URL without a base"
  | .emptyHost => "empty host"
  | .portNumber => "invalid port number"
  | .ipv4 => "invalid IPv4 address"
  | .ipv6 => "invalid IPv6 address"
  | .domain => "invalid international domain name"
  | .hostCharacter => "invalid domain character"

namespace Host

def ipv4Number? (chars : List Char) : Option Nat :=
  match chars with
  | [] => none
  | '0' :: 'x' :: digits => Literal.hexadecimal? digits
  | '0' :: 'X' :: digits => Literal.hexadecimal? digits
  | '0' :: digit :: digits =>
    (digit :: digits).foldlM (fun n c => if '0' ≤ c ∧ c ≤ '7' then some (8 * n + (c.toNat - 48)) else none) 0
  | digits => Numeral.natural? digits

def labels (chars : List Char) : List (List Char) :=
  let parts := Text.pieces '.' chars
  match parts.getLast? with
  | some [] => if parts.length = 1 then parts else parts.dropLast
  | _ => parts

def endsInNumber (chars : List Char) : Bool :=
  match (labels chars).getLast? with
  | some last => (last ≠ [] && last.all Char.isDigit) || (ipv4Number? last).isSome
  | none => false

def ipv4? (chars : List Char) : Option Nat := do
  let numbers ← (labels chars).mapM ipv4Number?
  let last ← numbers.getLast?
  let bytes := numbers.dropLast
  if 3 < bytes.length ∨ bytes.any (255 < ·) ∨ 256 ^ (4 - bytes.length) ≤ last then none
  else
    let high := bytes.foldl (fun n byte => 256 * n + byte) 0
    some (high * 256 ^ (4 - bytes.length) + last)

def dottedByte? (chars : List Char) : Option Nat :=
  if chars.head? = some '0' ∧ 1 < chars.length then none
  else (Numeral.natural? chars).filter (· ≤ 255)

def dottedPieces? (chars : List Char) : Option (List Nat) := do
  match ← (Text.pieces '.' chars).mapM dottedByte? with
  | [a, b, c, d] => some [256 * a + b, 256 * c + d]
  | _ => none

-- `gap` is the place where two colons stood for zeros.
def ipv6Pieces? : Nat → List Nat → Option Nat → List Char → Option (List Nat × Option Nat)
  | 0, _, _, _ => none
  | _ + 1, done, gap, [] => some (done, gap)
  | fuel + 1, done, gap, chars =>
    if done.length = 8 then none
    else match chars with
      | ':' :: rest =>
        if gap.isSome then none else ipv6Pieces? fuel (done ++ [0]) (some (done.length + 1)) rest
      | _ =>
        let digits := (chars.take 4).takeWhile fun c => (Literal.hexValue? c).isSome
        let piece := (Literal.hexadecimal? digits).getD 0
        match chars.drop digits.length with
        | [] => some (done ++ [piece], gap)
        | '.' :: _ =>
          if digits = [] ∨ 6 < done.length then none
          else (dottedPieces? chars).map fun pieces => (done ++ pieces, gap)
        | ':' :: rest => if rest = [] then none else ipv6Pieces? fuel (done ++ [piece]) gap rest
        | _ => none

def ipv6? (chars : List Char) : Option (List Nat) := do
  if chars.length < 2 then none
  let (done, gap) ← match chars with
    | ':' :: ':' :: rest => ipv6Pieces? (rest.length + 1) [0] (some 1) rest
    | ':' :: _ => none
    | _ => ipv6Pieces? (chars.length + 1) [] none chars
  match gap with
  | some gap => some (done.take gap ++ List.replicate (8 - done.length) 0 ++ done.drop gap)
  | none => if done.length = 8 then some done else none

def isForbidden (c : Char) : Bool :=
  c.toNat ≤ 0x20 || c.toNat = 0x7F ||
    c ∈ ['%', '#', '/', ':', '<', '>', '?', '@', '[', '\\', ']', '^', '|']

def isForbiddenAnywhere (c : Char) : Bool :=
  c ∈ ['\x00', '\t', '\n', '\r', ' ', '#', '/', ':', '<', '>', '?', '@', '[', '\\', ']', '^', '|']

def isValidLabel : List Char → Bool
  | 'x' :: 'n' :: '-' :: '-' :: rest => Punycode.isValid rest
  | _ => true

def bracketed? (chars : List Char) : Option (Except UrlFault Host) :=
  match chars with
  | '[' :: rest =>
    some <| match rest.getLast?, ipv6? rest.dropLast with
      | some ']', some pieces => .ok (.ipv6 pieces)
      | _, _ => .error .ipv6
  | _ => none

def read (chars : List Char) : Except UrlFault Host :=
  match bracketed? chars with
  | some result => result
  | none =>
    match Text.ofBytes? (Percent.decode chars) with
    | none => .error .domain
    | some decoded =>
      let name := decoded.map Char.toLower
      if name.any (fun c => isForbidden c || 0x7F < c.toNat) then .error .domain
      else if !(Text.pieces '.' name).all isValidLabel then .error .domain
      else if name = [] then .error .emptyHost
      else if endsInNumber name then
        match ipv4? name with
        | some address => .ok (.ipv4 address)
        | none => .error .ipv4
      else .ok (.domain (String.ofList name))

def readPlain (chars : List Char) : Except UrlFault Host :=
  match bracketed? chars with
  | some result => result
  | none =>
    if chars.any isForbiddenAnywhere then .error .hostCharacter
    else .ok (.domain (String.ofList (Percent.encode Percent.isControl chars)))

end Host

end Recast
