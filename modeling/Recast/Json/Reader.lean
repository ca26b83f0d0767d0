import Recast.Json.Basic
import Recast.Keyed
import Recast.Number.Literal
import Recast.Text.Utf8
set_option autoImplicit false

/-!
The reader of JSON text. A fault names its cause, and its place by the bytes of the text that lie
beyond it, so that line and column are counted once, at the end.
-/

namespace Recast.Json

inductive Cause where
  | endInList
  | endInObject
  | endInString
  | endInValue
  | colon
  | listMark
  | objectMark
  | word
  | value
  | escape
  | number
  | outOfRange
  | control
  | key
  | surrogate
  | trailingComma
  | trailing
  | endInEscape
  | tooDeep
deriving DecidableEq

def Cause.message : Cause → String
  | .endInList => "EOF while parsing a list"
  | .endInObject => "EOF while parsing an object"
  | .endInString => "EOF while parsing a string"
  | .endInValue => "EOF while parsing a value"
  | .colon => "expected `:`"
  | .listMark => "expected `,` or `]`"
  | .objectMark => "expected `,` or `\x7d`"
  | .word => "expected ident"
  | .value => "expected value"
  | .escape => "invalid escape"
  | .number => "invalid number"
  | .outOfRange => "number out of range"
  | .control => "control character (\\u0000-\\u001F) found while parsing a string"
  | .key => "key must be a string"
  | .surrogate => "lone leading surrogate in hex escape"
  | .trailingComma => "trailing comma"
  | .trailing => "trailing characters"
  | .endInEscape => "unexpected end of hex escape"
  | .tooDeep => "recursion limit exceeded"

structure Stop where
  cause : Cause
  left : Nat

structure Fault where
  cause : Cause
  line : Nat
  column : Nat
deriving DecidableEq

def Fault.message (fault : Fault) : String :=
  fault.cause.message ++ " at line " ++ Numeral.text fault.line ++ " column " ++ Numeral.text fault.column

def byteCount (chars : List Char) : Nat := (Text.toBytes chars).length

def stop {α : Type} (cause : Cause) (consumed : Nat) (rest : List Char) : Except Stop α :=
  .error ⟨cause, byteCount rest - consumed⟩

def isSpace (c : Char) : Bool := c = ' ' || c = '\n' || c = '\t' || c = '\r'

def skipSpace (chars : List Char) : List Char := chars.dropWhile isSpace

def readWord (document : Json) : List Char → List Char → Except Stop (Json × List Char)
  | [], rest => .ok (document, rest)
  | _ :: _, [] => stop .endInValue 0 []
  | expected :: others, c :: rest =>
    if c = expected then readWord document others rest else stop .word 1 (c :: rest)

def wordLimit : Nat := 2 ^ 64

def exponentLimit : Nat := 2 ^ 31

def scaleDown (x : Double) (exponent : Nat) : Double :=
  if exponent ≤ 308 then x.div (Binary.nearestDecimal false 1 exponent)
  else if x.isZero then x
  else scaleDown (x.div (Binary.nearestDecimal false 1 308)) (exponent - 308)
termination_by exponent

def scaled? (significand : Nat) (exponent : Int) : Option Double :=
  let x : Double := Binary.ofInt significand
  if exponent < 0 then some (scaleDown x (-exponent).toNat)
  else if exponent ≤ 308 then
    let product := x.mul (Binary.nearestDecimal false 1 exponent)
    if product.isFinite then some product else none
  else if x.isZero then some x
  else none

def finishFloat (negative : Bool) (significand : Nat) (exponent : Int) (rest : List Char) :
    Except Stop (Json × List Char) :=
  match (scaled? significand exponent).bind fun x => ofDouble? (if negative then x.neg else x) with
  | some document => .ok (document, rest)
  | none => stop .outOfRange 0 rest

def readExponentDigits (negative below : Bool) (significand : Nat) (start : Int) :
    Nat → List Char → Except Stop (Json × List Char)
  | n, [] => finishFloat negative significand (if below then start - n else start + n) []
  | n, c :: rest =>
    if !c.isDigit then finishFloat negative significand (if below then start - n else start + n) (c :: rest)
    else
      let next := 10 * n + Numeral.digitValue c
      if next < exponentLimit then readExponentDigits negative below significand start next rest
      else if significand ≠ 0 ∧ !below then stop .outOfRange 0 rest
      else finishFloat negative 0 0 (rest.dropWhile Char.isDigit)

def readExponent (negative : Bool) (significand : Nat) (start : Int) (chars : List Char) :
    Except Stop (Json × List Char) :=
  let (below, rest) := Literal.signed chars
  match rest with
  | [] => stop .endInValue 0 []
  | c :: _ =>
    if c.isDigit then readExponentDigits negative below significand start 0 rest
    else stop .number 1 rest

def afterDigits (negative : Bool) (significand : Nat) (exponent : Int) :
    List Char → Except Stop (Json × List Char)
  | [] => finishFloat negative significand exponent []
  | c :: rest =>
    if Decimal.isExponentMark c then readExponent negative significand exponent rest
    else finishFloat negative significand exponent (c :: rest)

def readPlaces (negative : Bool) : Nat → Int → List Char → Except Stop (Json × List Char)
  | significand, exponent, [] => afterDigits negative significand exponent []
  | significand, exponent, c :: rest =>
    if !c.isDigit then afterDigits negative significand exponent (c :: rest)
    else
      let next := 10 * significand + Numeral.digitValue c
      if next < wordLimit then readPlaces negative next (exponent - 1) rest
      else afterDigits negative significand exponent (rest.dropWhile Char.isDigit)

def readFraction (negative : Bool) (significand : Nat) (exponent : Int) :
    List Char → Except Stop (Json × List Char)
  | [] => stop .endInValue 0 []
  | c :: rest =>
    if c.isDigit then readPlaces negative significand exponent (c :: rest)
    else stop .number 1 (c :: rest)

def readSpare (negative : Bool) (significand : Nat) : Nat → List Char → Except Stop (Json × List Char)
  | spare, '.' :: rest => readFraction negative significand spare rest
  | spare, c :: rest =>
    if c.isDigit then readSpare negative significand (spare + 1) rest
    else afterDigits negative significand spare (c :: rest)
  | spare, [] => finishFloat negative significand spare []

-- Minus zero is no integer, and neither is one below 64 bits.
def finishWhole (negative : Bool) (n : Nat) (rest : List Char) : Except Stop (Json × List Char) :=
  let whole := if negative then (if n = 0 then none else ofInt? (-n)) else ofInt? n
  match whole with
  | some document => .ok (document, rest)
  | none => finishFloat negative n 0 rest

def readWhole (negative : Bool) : Nat → List Char → Except Stop (Json × List Char)
  | n, [] => finishWhole negative n []
  | n, '.' :: rest => readFraction negative n 0 rest
  | n, c :: rest =>
    if c.isDigit then
      let next := 10 * n + Numeral.digitValue c
      if next < wordLimit then readWhole negative next rest
      else readSpare negative n 1 rest
    else if Decimal.isExponentMark c then readExponent negative n 0 rest
    else finishWhole negative n (c :: rest)

def readNumber (negative : Bool) : List Char → Except Stop (Json × List Char)
  | [] => stop .endInValue 0 []
  | '0' :: c :: rest =>
    if c.isDigit then stop .number 1 (c :: rest) else readWhole negative 0 (c :: rest)
  | c :: rest => if c.isDigit then readWhole negative 0 (c :: rest) else stop .number 1 (c :: rest)

def readUnit (chars : List Char) : Except Stop (Nat × List Char) :=
  let digits := chars.take 4
  match Literal.hexadecimal? digits with
  | some unit => if digits.length = 4 then .ok (unit, chars.drop 4) else stop .endInString 0 []
  | none => if byteCount chars < 4 then stop .endInString 0 [] else stop .escape 4 chars

def readLowUnit : List Char → Except Stop (Nat × List Char)
  | [] => stop .endInString 0 []
  | '\\' :: [] => stop .endInString 0 []
  | '\\' :: 'u' :: rest => do
    let (low, rest) ← readUnit rest
    if 0xDC00 ≤ low ∧ low ≤ 0xDFFF then return (low, rest) else stop .surrogate 0 rest
  | '\\' :: rest => stop .endInEscape 1 rest
  | rest => stop .endInEscape 1 rest

def readCharacter (chars : List Char) : Except Stop (Char × List Char) := do
  let (unit, rest) ← readUnit chars
  if 0xDC00 ≤ unit ∧ unit ≤ 0xDFFF then stop .surrogate 0 rest
  else if 0xD800 ≤ unit ∧ unit ≤ 0xDBFF then
    let (low, rest) ← readLowUnit rest
    return (Char.ofNat ((unit - 0xD800) * 0x400 + (low - 0xDC00) + 0x10000), rest)
  else return (Char.ofNat unit, rest)

def escape? : Char → Option Char
  | '"' => some '"'
  | '\\' => some '\\'
  | '/' => some '/'
  | 'b' => some '\x08'
  | 'f' => some '\x0c'
  | 'n' => some '\n'
  | 'r' => some '\r'
  | 't' => some '\t'
  | _ => none

def readEscape : List Char → Except Stop (Char × List Char)
  | [] => stop .endInString 0 []
  | 'u' :: rest => readCharacter rest
  | c :: rest =>
    match escape? c with
    | some escaped => .ok (escaped, rest)
    | none => stop .escape 1 (c :: rest)

-- Each step takes at least one character, so that as much fuel as there are characters is enough.
def readText : Nat → List Char → Except Stop (List Char × List Char)
  | _, [] => stop .endInString 0 []
  | _, '"' :: rest => .ok ([], rest)
  | 0, rest => stop .endInString 0 rest
  | fuel + 1, '\\' :: rest => do
    let (c, rest) ← readEscape rest
    let (others, rest) ← readText fuel rest
    return (c :: others, rest)
  | fuel + 1, c :: rest =>
    if c.toNat < 0x20 then stop .control 1 (c :: rest)
    else do
      let (others, rest) ← readText fuel rest
      return (c :: others, rest)

def readString (chars : List Char) : Except Stop (String × List Char) := do
  let (text, rest) ← readText chars.length chars
  return (String.ofList text, rest)

def openKey : List Char → Except Stop (List Char)
  | '"' :: rest => .ok rest
  | rest => stop .key 1 rest

def readColon (chars : List Char) : Except Stop (List Char) :=
  match skipSpace chars with
  | [] => stop .endInObject 0 []
  | ':' :: rest => .ok rest
  | rest => stop .colon 1 rest

def depthLimit : Nat := 128

mutual
-- A document and the rest behind it, at so many levels above the deepest one allowed. Of two calls in a row
-- one takes a character, so that twice as much fuel as there are characters is enough.
def readValue : Nat → Nat → List Char → Except Stop (Json × List Char)
  | 0, _, rest => stop .endInValue 0 rest
  | fuel + 1, depth, chars =>
    match skipSpace chars with
    | [] => stop .endInValue 0 []
    | 'n' :: rest => readWord .null ['u', 'l', 'l'] rest
    | 't' :: rest => readWord (.bool true) ['r', 'u', 'e'] rest
    | 'f' :: rest => readWord (.bool false) ['a', 'l', 's', 'e'] rest
    | '-' :: rest => readNumber true rest
    | '"' :: rest => do
      let (text, rest) ← readString rest
      return (.string text, rest)
    | '[' :: rest =>
      if depth ≤ 1 then stop .tooDeep 1 ('[' :: rest)
      else match skipSpace rest with
        | [] => stop .endInList 0 []
        | ']' :: rest => .ok (.array [], rest)
        | rest => do
          let (items, rest) ← readItems fuel (depth - 1) rest
          return (.array items, rest)
    | '\x7b' :: rest =>
      if depth ≤ 1 then stop .tooDeep 1 ('\x7b' :: rest)
      else match skipSpace rest with
        | [] => stop .endInObject 0 []
        | '\x7d' :: rest => .ok (.object [], rest)
        | rest => do
          let rest ← openKey rest
          let (fields, rest) ← readFields fuel (depth - 1) rest
          return (.object (Keyed.ofList fields), rest)
    | c :: rest => if c.isDigit then readNumber false (c :: rest) else stop .value 1 (c :: rest)
def readItems : Nat → Nat → List Char → Except Stop (List Json × List Char)
  | 0, _, rest => stop .endInList 0 rest
  | fuel + 1, depth, chars => do
    let (item, rest) ← readValue fuel depth chars
    match skipSpace rest with
    | [] => stop .endInList 0 []
    | ']' :: rest => return ([item], rest)
    | ',' :: rest =>
      match skipSpace rest with
      | [] => stop .endInValue 0 []
      | ']' :: rest => stop .trailingComma 1 (']' :: rest)
      | rest =>
        let (items, rest) ← readItems fuel depth rest
        return (item :: items, rest)
    | rest => stop .listMark 1 rest
def readFields : Nat → Nat → List Char → Except Stop ((List (String × Json)) × List Char)
  | 0, _, rest => stop .endInObject 0 rest
  | fuel + 1, depth, chars => do
    let (key, rest) ← readString chars
    let rest ← readColon rest
    let (item, rest) ← readValue fuel depth rest
    match skipSpace rest with
    | [] => stop .endInObject 0 []
    | '\x7d' :: rest => return ([(key, item)], rest)
    | ',' :: rest =>
      match skipSpace rest with
      | [] => stop .endInValue 0 []
      | '\x7d' :: rest => stop .trailingComma 1 ('\x7d' :: rest)
      | rest =>
        let rest ← openKey rest
        let (fields, rest) ← readFields fuel depth rest
        return ((key, item) :: fields, rest)
    | rest => stop .objectMark 1 rest
end

def readDocument (chars : List Char) : Except Stop Json := do
  let (document, rest) ← readValue (2 * chars.length + 2) depthLimit chars
  match skipSpace rest with
  | [] => return document
  | rest => stop .trailing 1 rest

def newline : UInt8 := 0x0A

def locate (chars : List Char) (found : Stop) : Fault :=
  let bytes := Text.toBytes chars
  let consumed := bytes.take (bytes.length - found.left)
  let column := (consumed.reverse.takeWhile fun byte => byte ≠ newline).length
  ⟨found.cause, consumed.count newline + 1, column⟩

def read (text : String) : Except Fault Json :=
  match readDocument text.toList with
  | .ok document => .ok document
  | .error found => .error (locate text.toList found)

end Recast.Json
