import Recast.Text.Blank
set_option autoImplicit false

namespace Recast.Text

def isTypeMark (c : Char) : Bool := ['<', '>', ',', ' ', '(', ')', '[', ']', '&', ';'].contains c

def lastSegment : List Char → List Char → List Char
  | found, [] => found
  | found, c :: rest =>
    lastSegment (if c = ':' ∧ rest.head? = some ':' then rest.tail else found) rest

def lastPart (path : String.Slice) : String :=
  let chars := path.copy.toList
  String.ofList (lastSegment chars chars)

-- Reads on at `place`. The path that is being read begins at `start`, behind the last mark, and what is before it has
-- become `short`. Places are between characters, so no piece that is cut out ends inside of one.
def shortenFrom {name : String} (short : String) (start place : name.Pos) (begun : start ≤ place) : String :=
  if ended : place = name.endPos then short ++ lastPart (name.slice start place begun)
  else
    let c := place.get ended
    let next := place.next ended
    if isTypeMark c then
      shortenFrom ((short ++ lastPart (name.slice start place begun)).push c) next next (String.Pos.le_refl next)
    else shortenFrom short start next (String.Pos.le_trans begun (String.Pos.le_of_lt place.lt_next))
termination_by place

def shortTypeName (name : String) : String :=
  shortenFrom "" name.startPos name.startPos (String.Pos.le_refl name.startPos)

end Recast.Text
