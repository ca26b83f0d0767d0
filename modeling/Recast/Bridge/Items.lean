import Recast.Bridge.Basic
set_option autoImplicit false

namespace Recast.Bridge

structure Items {Code : Type} (Carrier : Code → Type) (a b : Code) where
  source : List (Carrier a)
  bridge : Bridge Carrier a b

variable {Code : Type} {Carrier : Code → Type} {a b : Code}

def convertAll (bridge : Bridge Carrier a b) (items : List (Carrier a)) : Items Carrier a b :=
  ⟨items, bridge⟩

namespace Items

def next (items : Items Carrier a b) : Option (Except Error (Carrier b)) × Items Carrier a b :=
  match items.source with
  | [] => (none, items)
  | x :: rest => (some (items.bridge.convert x), { items with source := rest })

def nextBack (items : Items Carrier a b) : Option (Except Error (Carrier b)) × Items Carrier a b :=
  match items.source.getLast? with
  | none => (none, items)
  | some x => (some (items.bridge.convert x), { items with source := items.source.dropLast })

def size (items : Items Carrier a b) : Nat := items.source.length

def sizeBounds (items : Items Carrier a b) : Nat × Option Nat := (items.size, some items.size)

def collectFrom (bridge : Bridge Carrier a b) :
    List (Carrier a) → Except Error (List (Carrier b)) × List (Carrier a)
  | [] => (.ok [], [])
  | x :: rest =>
    match bridge.convert x with
    | .error error => (.error error, rest)
    | .ok y =>
      match collectFrom bridge rest with
      | (.ok others, left) => (.ok (y :: others), left)
      | (.error error, left) => (.error error, left)

def collect (items : Items Carrier a b) : Except Error (List (Carrier b)) × Items Carrier a b :=
  let (result, left) := collectFrom items.bridge items.source
  (result, { items with source := left })

end Items

end Recast.Bridge
