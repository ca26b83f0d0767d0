import Recast.Number.Numeral
import Recast.Text.Blank
import Recast.Time.Calendar
set_option autoImplicit false

namespace Recast

-- A day since 1970, a second of it, and nanoseconds, all in universal time; the offset is in seconds east.
-- In a leap second the nanoseconds run on beyond the second before it.
structure DateTime where
  day : Int
  second : Nat
  nanosecond : Nat
  offset : Int
deriving DecidableEq

namespace DateTime

def equal (a b : DateTime) : Bool :=
  a.day == b.day && a.second == b.second && a.nanosecond == b.nanosecond

def milliseconds (t : DateTime) : Int :=
  (t.day * 86400 + t.second) * 1000 + (t.nanosecond / 10 ^ 6 : Nat)

def ofMilliseconds? (n : Int) : Option DateTime :=
  let seconds := n / 1000
  let day := seconds / 86400
  if Calendar.leastDay ≤ day ∧ day ≤ Calendar.greatestDay then
    some ⟨day, (seconds % 86400).toNat, (n % 1000).toNat * 10 ^ 6, 0⟩
  else none

def localTime (t : DateTime) : Calendar.Date × Nat :=
  let seconds := t.day * 86400 + t.second + t.offset
  (Calendar.dateOf (seconds / 86400), (seconds % 86400).toNat)

def padded (width n : Nat) : List Char :=
  let digits := Nat.toDigits 10 n
  List.replicate (width - digits.length) '0' ++ digits

def yearText (year : Int) : List Char :=
  if 0 ≤ year ∧ year ≤ 9999 then padded 4 year.toNat
  else (if year < 0 then '-' else '+') :: padded 4 year.natAbs

def fractionText (n : Nat) : List Char :=
  if n = 0 then []
  else if n % 10 ^ 6 = 0 then '.' :: padded 3 (n / 10 ^ 6)
  else if n % 10 ^ 3 = 0 then '.' :: padded 6 (n / 10 ^ 3)
  else '.' :: padded 9 n

def offsetText (offset : Int) : List Char :=
  let minutes := offset.natAbs / 60
  (if offset < 0 then '-' else '+') :: (padded 2 (minutes / 60) ++ ':' :: padded 2 (minutes % 60))

def toChars (t : DateTime) : List Char :=
  let (date, second) := t.localTime
  let leap := if 10 ^ 9 ≤ t.nanosecond then 1 else 0
  yearText date.year ++ '-' :: (padded 2 date.month ++ '-' :: (padded 2 date.day ++
    'T' :: (padded 2 (second / 3600) ++ ':' :: (padded 2 (second / 60 % 60) ++
      ':' :: (padded 2 (second % 60 + leap) ++
        (fractionText (t.nanosecond % 10 ^ 9) ++ offsetText t.offset))))))

def text (t : DateTime) : String := String.ofList t.toChars

def ofClock? (year : Int) (month day hour minute second nanosecond : Nat) (offset : Int) :
    Option DateTime := do
  let date ← Calendar.date? year month day
  if 23 < hour ∨ 59 < minute ∨ 60 < second then none
  let (second, nanosecond) := if second = 60 then (59, nanosecond + 10 ^ 9) else (second, nanosecond)
  let seconds :=
    Calendar.dayNumber date * 86400 + ((hour * 60 + minute) * 60 + second : Nat) - offset
  return ⟨seconds / 86400, (seconds % 86400).toNat, nanosecond, offset⟩

def digits? (count : Nat) (chars : List Char) : Option (Nat × List Char) :=
  let digits := chars.take count
  if digits.length = count ∧ digits.all Char.isDigit then some (Numeral.value digits, chars.drop count)
  else none

def mark? (expected : Char) : List Char → Option (List Char)
  | c :: rest => if c = expected then some rest else none
  | [] => none

def fraction? : List Char → Option (Nat × List Char)
  | '.' :: rest =>
    let digits := rest.takeWhile Char.isDigit
    if digits = [] then none
    else
      let kept := digits.take 9
      some (Numeral.value kept * 10 ^ (9 - kept.length), rest.drop digits.length)
  | chars => some (0, chars)

def offset? : List Char → Option Int
  | ['Z'] => some 0
  | ['z'] => some 0
  | sign :: rest => do
    let negative ←
      if sign = '+' then some false
      else if sign = '-' ∨ sign = Char.ofNat 0x2212 then some true
      else none
    let (hours, rest) ← digits? 2 rest
    let (minutes, rest) ← digits? 2 (← mark? ':' rest)
    if rest ≠ [] ∨ 59 < minutes ∨ 23 < hours then none
    let seconds : Int := ((hours * 60 + minutes) * 60 : Nat)
    return if negative then -seconds else seconds
  | [] => none

def readStamp? (chars : List Char) : Option DateTime := do
  let (year, rest) ← digits? 4 chars
  let (month, rest) ← digits? 2 (← mark? '-' rest)
  let (day, rest) ← digits? 2 (← mark? '-' rest)
  let rest ← match rest with
    | c :: rest => if c = 'T' ∨ c = 't' ∨ c = ' ' then some rest else none
    | [] => none
  let (hour, rest) ← digits? 2 rest
  let (minute, rest) ← digits? 2 (← mark? ':' rest)
  let (second, rest) ← digits? 2 (← mark? ':' rest)
  let (nanosecond, rest) ← fraction? rest
  let offset ← offset? rest
  ofClock? year month day hour minute second nanosecond offset

def field? (width : Nat) (chars : List Char) : Option (Nat × List Char) :=
  let chars := Text.trimStart chars
  let digits := (chars.take width).takeWhile Char.isDigit
  if digits = [] then none else some (Numeral.value digits, chars.drop digits.length)

def year? (chars : List Char) : Option (Int × List Char) :=
  let signed := fun (rest : List Char) =>
    let digits := rest.takeWhile Char.isDigit
    if digits = [] then none else some (Numeral.value digits, rest.drop digits.length)
  match Text.trimStart chars with
  | '-' :: rest => (signed rest).map fun (n, rest) => (-(n : Int), rest)
  | '+' :: rest => (signed rest).map fun (n, rest) => ((n : Int), rest)
  | rest => (field? 4 rest).map fun (n, rest) => ((n : Int), rest)

def date? (chars : List Char) : Option (Int × Nat × Nat × List Char) := do
  let (year, rest) ← year? chars
  let (month, rest) ← field? 2 (← mark? '-' rest)
  let (day, rest) ← field? 2 (← mark? '-' rest)
  return (year, month, day, rest)

def readClock? (between : List Char → Option (List Char)) (chars : List Char) : Option DateTime := do
  let (year, month, day, rest) ← date? chars
  let (hour, rest) ← field? 2 (← between rest)
  let (minute, rest) ← field? 2 (← mark? ':' rest)
  let (second, rest) ← field? 2 (← mark? ':' rest)
  if rest ≠ [] then none
  ofClock? year month day hour minute second 0 0

def readDate? (chars : List Char) : Option DateTime := do
  let (year, month, day, rest) ← date? chars
  if rest ≠ [] then none
  ofClock? year month day 0 0 0 0 0

def read? (text : String) : Option DateTime :=
  let chars := text.toList
  readStamp? chars
    <|> readClock? (fun rest => some (Text.trimStart rest)) chars
    <|> readClock? (mark? 'T') chars
    <|> readDate? chars

end DateTime

end Recast
