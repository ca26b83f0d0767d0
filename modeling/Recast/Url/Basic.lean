import Recast.Number.Numeral
import Recast.Text.Blank
set_option autoImplicit false

namespace Recast

inductive Host where
  | domain (name : String)
  | ipv4 (address : Nat)
  | ipv6 (pieces : List Nat)
deriving DecidableEq

structure Authority where
  user : String
  password : String
  host : Option Host
  portNumber : Option Nat
deriving DecidableEq

inductive Route where
  | rooted (segments : List String)
  | rootless (text : String)
deriving DecidableEq

structure Url where
  scheme : String
  authority : Option Authority
  route : Route
  query : Option String
  fragment : Option String
deriving DecidableEq

namespace Host

def hexadecimal (n : Nat) : String := String.ofList (Nat.toDigits 16 n)

def longestZeros (pieces : List Nat) : Nat × Nat :=
  let runs := (List.range pieces.length).map fun start =>
    (start, ((pieces.drop start).takeWhile (· = 0)).length)
  runs.foldl (fun best run => if best.2 < run.2 then run else best) (0, 0)

def colons (pieces : List Nat) : String := ":".intercalate (pieces.map hexadecimal)

def ipv6Text (pieces : List Nat) : String :=
  let (start, length) := longestZeros pieces
  if length < 2 then colons pieces
  else colons (pieces.take start) ++ "::" ++ colons (pieces.drop (start + length))

def ipv4Text (address : Nat) : String :=
  ".".intercalate ([24, 16, 8, 0].map fun shift => Numeral.text (address / 2 ^ shift % 256 : Nat))

def text : Host → String
  | .domain name => name
  | .ipv4 address => ipv4Text address
  | .ipv6 pieces => "[" ++ ipv6Text pieces ++ "]"

end Host

namespace Authority

def text (authority : Authority) : String :=
  let password := if authority.password = "" then "" else ":" ++ authority.password
  let user := authority.user ++ password
  (if user = "" then "" else user ++ "@") ++
    (match authority.host with
      | some host => host.text
      | none => "") ++
    (match authority.portNumber with
      | some number => ":" ++ Numeral.text number
      | none => "")

end Authority

namespace Route

def text : Route → String
  | .rooted segments => String.join (segments.map fun segment => "/" ++ segment)
  | .rootless text => text

def startsDouble : Route → Bool
  | .rooted ("" :: _ :: _) => true
  | _ => false

end Route

namespace Url

def text (url : Url) : String :=
  url.scheme ++ ":" ++
    (match url.authority with
      | some authority => "//" ++ authority.text
      | none => if url.route.startsDouble then "/." else "") ++
    url.route.text ++
    (match url.query with
      | some query => "?" ++ query
      | none => "") ++
    (match url.fragment with
      | some fragment => "#" ++ fragment
      | none => "")

def equal (a b : Url) : Bool := a.text == b.text

end Url

end Recast
