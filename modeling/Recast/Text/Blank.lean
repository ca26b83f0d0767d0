set_option autoImplicit false

namespace Recast.Text

-- Closed ranges of the code points with the Unicode property White_Space.
def blankRanges : List (Nat × Nat) :=
  [(0x09, 0x0D), (0x20, 0x20), (0x85, 0x85), (0xA0, 0xA0), (0x1680, 0x1680), (0x2000, 0x200A),
   (0x2028, 0x2029), (0x202F, 0x202F), (0x205F, 0x205F), (0x3000, 0x3000)]

def inRanges (ranges : List (Nat × Nat)) (code : Nat) : Bool :=
  ranges.any fun range => range.1 ≤ code && code ≤ range.2

def isBlankChar (c : Char) : Bool := inRanges blankRanges c.toNat

def trimStart (chars : List Char) : List Char := chars.dropWhile isBlankChar
def trimEnd (chars : List Char) : List Char := (chars.reverse.dropWhile isBlankChar).reverse

def trim (text : String) : String := String.ofList (trimEnd (trimStart text.toList))

def isBlank (text : String) : Bool := text.toList.all isBlankChar

def piecesBy {α : Type} (test : α → Bool) : List α → List (List α)
  | [] => [[]]
  | item :: rest =>
    if test item then [] :: piecesBy test rest
    else match piecesBy test rest with
      | [] => [[item]]
      | first :: others => (item :: first) :: others

def pieces {α : Type} [DecidableEq α] (separator : α) (items : List α) : List (List α) :=
  piecesBy (fun item => item = separator) items

def joined {α : Type} (separator : α) : List (List α) → List α
  | [] => []
  | [piece] => piece
  | piece :: next :: others => piece ++ separator :: joined separator (next :: others)

def split (separator : Char) (text : String) : List String :=
  (pieces separator text.toList).map String.ofList

def join (separator : Char) (texts : List String) : String :=
  String.ofList (joined separator (texts.map String.toList))

def cutAt {α : Type} (test : α → Bool) : List α → Option (List α × List α)
  | [] => none
  | item :: rest =>
    if test item then some ([], rest)
    else (cutAt test rest).map fun (before, after) => (item :: before, after)

end Recast.Text
