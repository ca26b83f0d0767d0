import Recast.Url.Host
set_option autoImplicit false

namespace Recast.Url

inductive Kind where
  | file
  | special (usual : Nat)
  | other
deriving DecidableEq

def Kind.ofScheme (scheme : String) : Kind :=
  if scheme = "file" then .file
  else if scheme = "http" ∨ scheme = "ws" then .special 80
  else if scheme = "https" ∨ scheme = "wss" then .special 443
  else if scheme = "ftp" then .special 21
  else .other

def Kind.isSpecial : Kind → Bool
  | .other => false
  | _ => true

def Kind.isSlash (kind : Kind) (c : Char) : Bool := c = '/' || (kind.isSpecial && c = '\\')
def isEnd (c : Char) : Bool := c = '?' || c = '#'

def cleaned (text : String) : List Char :=
  let isEdge := fun (c : Char) => c.toNat ≤ 0x20
  let chars := ((text.toList.dropWhile isEdge).reverse.dropWhile isEdge).reverse
  chars.filter fun c => !(c = '\t' || c = '\n' || c = '\r')

def isSchemeChar (c : Char) : Bool := c.isAlphanum || c = '+' || c = '-' || c = '.'

def scheme? (chars : List Char) : Option (String × List Char) :=
  match chars.head?, chars.dropWhile isSchemeChar with
  | some first, ':' :: rest =>
    if first.isAlpha then some (String.ofList ((chars.takeWhile isSchemeChar).map Char.toLower), rest)
    else none
  | _, _ => none

def splitLastAt (chars : List Char) : Option (List Char × List Char) :=
  if '@' ∈ chars then
    some ((chars.reverse.dropWhile (· ≠ '@')).tail.reverse, (chars.reverse.takeWhile (· ≠ '@')).reverse)
  else none

def isLetterMark (c : Char) : Bool := c = ':' || c = '|'

def isDriveLetter : List Char → Bool
  | [letter, mark] => letter.isAlpha && isLetterMark mark
  | _ => false

def isKept : List Char → Bool
  | [letter, mark] => letter.isAlpha && isLetterMark mark
  | letter :: mark :: '\\' :: _ => letter.isAlpha && isLetterMark mark
  | _ => false

def plainDots : List Char → List Char
  | '%' :: '2' :: 'e' :: rest => '.' :: plainDots rest
  | '%' :: '2' :: 'E' :: rest => '.' :: plainDots rest
  | c :: rest => c :: plainDots rest
  | [] => []

def isSingleDot (segment : List Char) : Bool := plainDots segment = ['.']
def isDoubleDot (segment : List Char) : Bool := plainDots segment = ['.', '.']

def walk (done : List (List Char)) : List (List Char) → List (List Char)
  | [] => [] :: done
  | [last] =>
    if isDoubleDot last then [] :: parent done
    else if isSingleDot last then [] :: done
    else last :: done
  | segment :: next :: others =>
    if isDoubleDot segment then walk (parent done) (next :: others)
    else if isSingleDot segment then walk done (next :: others)
    else walk (segment :: done) (next :: others)
where
  parent : List (List Char) → List (List Char)
    | [] => []
    | segment :: rest => if isKept segment then segment :: rest else rest

def steps (kind : Kind) (chars : List Char) : List (List Char) :=
  let body := match chars with
    | c :: rest => if kind.isSlash c then rest else c :: rest
    | [] => []
  (walk [] (Text.piecesBy kind.isSlash body)).reverse

def encoded (walked : List (List Char)) : List String :=
  walked.map fun segment => String.ofList (Percent.encode Percent.inPath segment)

def segments (kind : Kind) (chars : List Char) : List String :=
  if chars = [] ∧ !kind.isSpecial then [] else encoded (steps kind chars)

def placed (host : Option Host) : List (List Char) → Option Host × List (List Char)
  | first :: rest =>
    if isDriveLetter first then (none, (first.take 1 ++ [':']) :: rest)
    else
      match (first :: rest).dropWhile (· = []) with
      | [] => (host, [[]])
      | kept => (host, kept)
  | [] => (host, [[]])

def queryAndFragment (kind : Kind) (chars : List Char) : Option String × Option String :=
  let (query, rest) := match chars with
    | '?' :: rest =>
      let set := if kind.isSpecial then Percent.inSpecialQuery else Percent.inQuery
      (some (String.ofList (Percent.encode set (rest.takeWhile (· ≠ '#')))), rest.dropWhile (· ≠ '#'))
    | rest => (none, rest)
  match rest with
  | '#' :: rest => (query, some (String.ofList (Percent.encode Percent.inFragment rest)))
  | _ => (query, none)

def build (scheme : String) (kind : Kind) (authority : Option Authority) (chars : List Char) : Url :=
  let (query, fragment) := queryAndFragment kind (chars.dropWhile fun c => !isEnd c)
  ⟨scheme, authority, .rooted (segments kind (chars.takeWhile fun c => !isEnd c)), query, fragment⟩

def buildFile (host : Option Host) (chars : List Char) : Url :=
  let (query, fragment) := queryAndFragment .file (chars.dropWhile fun c => !isEnd c)
  let (host, walked) := placed host (steps .file (chars.takeWhile fun c => !isEnd c))
  ⟨"file", some ⟨"", "", host, none⟩, .rooted (encoded walked), query, fragment⟩

def readPortNumber (kind : Kind) (chars : List Char) : Except UrlFault (Option Nat) :=
  if !chars.all Char.isDigit then .error .portNumber
  else if chars = [] then .ok none
  else
    let number := Numeral.value chars
    if 65535 < number then .error .portNumber
    else .ok (if kind = .special number then none else some number)

def hostLength : Bool → List Char → Nat
  | _, [] => 0
  | inside, c :: rest =>
    if c = ':' ∧ !inside then 0
    else if c = '[' then hostLength true rest + 1
    else if c = ']' then hostLength false rest + 1
    else hostLength inside rest + 1

def userInfo (chars : List Char) : String × String × List Char :=
  let encode := fun part => String.ofList (Percent.encode Percent.inUserInfo part)
  match splitLastAt chars with
  | none => ("", "", chars)
  | some (info, rest) =>
    match Text.cutAt (· = ':') info with
    | none => (encode info, "", rest)
    | some (user, password) => (encode user, encode password, rest)

-- A backslash ends the number behind a host even where it is no slash.
def readAuthority (scheme : String) (kind : Kind) (chars : List Char) : Except UrlFault Url := do
  let isBound := fun (c : Char) => kind.isSlash c || isEnd c
  let part := chars.takeWhile fun c => !isBound c
  let rest := chars.dropWhile fun c => !isBound c
  if part = ['@'] ∧ rest ≠ [] then throw .emptyHost
  let (user, password, place) := userInfo part
  let hostChars := place.take (hostLength false place)
  let portChars := place.drop (hostLength false place)
  if hostChars = [] ∧ kind.isSpecial then throw .emptyHost
  let host ← if kind.isSpecial then Host.read hostChars else Host.readPlain hostChars
  let named := host ≠ .domain ""
  if !named ∧ portChars ≠ [] then throw .emptyHost
  let digits := (portChars.drop 1).takeWhile (· ≠ '\\')
  let path := (portChars.drop 1).dropWhile (· ≠ '\\') ++ rest
  let number ← readPortNumber kind digits
  if !named ∧ (user ≠ "" ∨ password ≠ "") then throw .emptyHost
  return build scheme kind (some ⟨user, password, if named then some host else none, number⟩) path

-- The name of a drive is no host. Where the place of the host is empty or names this machine, the path keeps the
-- slash that follows as a step of its own, so that a drive behind it does not stand at the head.
def readFile (chars : List Char) : Except UrlFault Url :=
  match chars with
  | first :: second :: rest =>
    if Kind.file.isSlash first ∧ Kind.file.isSlash second then
      let isBound := fun (c : Char) => Kind.file.isSlash c || isEnd c
      let host := rest.takeWhile fun c => !isBound c
      if host = [] ∨ isDriveLetter host then .ok (buildFile none ('/' :: rest))
      else (Host.read host).map fun found =>
        let path := rest.dropWhile fun c => !isBound c
        if found = .domain "localhost" then buildFile none ('/' :: path)
        else buildFile (some found) path
    else .ok (buildFile none chars)
  | _ => .ok (buildFile none chars)

def rootless (scheme : String) (chars : List Char) : Url :=
  let (query, fragment) := queryAndFragment .other (chars.dropWhile fun c => !isEnd c)
  let path := chars.takeWhile fun c => !isEnd c
  ⟨scheme, none, .rootless (String.ofList (Percent.encode Percent.isControl path)), query, fragment⟩

def read (text : String) : Except UrlFault Url :=
  match scheme? (cleaned text) with
  | none => .error .relative
  | some (scheme, rest) =>
    match Kind.ofScheme scheme with
    | .file => readFile rest
    | .special usual =>
      readAuthority scheme (.special usual) (rest.dropWhile fun c => c = '/' || c = '\\')
    | .other =>
      match rest with
      | '/' :: '/' :: rest => readAuthority scheme .other rest
      | '/' :: _ => .ok (build scheme .other none rest)
      | _ => .ok (rootless scheme rest)

end Recast.Url
