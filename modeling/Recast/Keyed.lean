set_option autoImplicit false

namespace Recast.Keyed

def Ordered {α : Type} (entries : List (String × α)) : Prop :=
  entries.Pairwise fun a b => a.1 < b.1

def put {α : Type} (key : String) (item : α) : List (String × α) → List (String × α)
  | [] => [(key, item)]
  | (other, kept) :: rest =>
    if key = other then (key, item) :: rest
    else if key < other then (key, item) :: (other, kept) :: rest
    else (other, kept) :: put key item rest

def ofList {α : Type} (entries : List (String × α)) : List (String × α) :=
  entries.foldl (fun table entry => put entry.1 entry.2 table) []

end Recast.Keyed
