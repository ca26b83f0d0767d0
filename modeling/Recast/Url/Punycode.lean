set_option autoImplicit false

namespace Recast.Punycode

def digit? (c : Char) : Option Nat :=
  if 'a' ≤ c ∧ c ≤ 'z' then some (c.toNat - 'a'.toNat)
  else if c.isDigit then some (c.toNat - '0'.toNat + 26)
  else none

def threshold (k bias : Nat) : Nat := max 1 (min 26 (k - bias))

def damp : Nat → Nat → Nat → Nat × Nat
  | 0, delta, k => (delta, k)
  | fuel + 1, delta, k => if 455 < delta then damp fuel (delta / 35) (k + 36) else (delta, k)

def adapt (delta count : Nat) (first : Bool) : Nat :=
  let start := if first then delta / 700 else delta / 2
  let start := start + start / count
  let (rest, k) := damp start.log2 start 0
  k + 36 * rest / (rest + 38)

structure State where
  code : Nat
  position : Nat
  bias : Nat
  length : Nat

def steps (state : State) (k weight sum : Nat) (midway : Bool) : List Char → Option Nat
  | [] => if midway then none else some state.length
  | c :: rest => do
    let digit ← digit? c
    let sum := sum + digit * weight
    let limit := threshold k state.bias
    if digit < limit then
      let count := state.length + 1
      let code := state.code + sum / count
      if code < 0xD800 ∨ 0xDFFF < code ∧ code < 0x110000 then
        let bias := adapt (sum - state.position) count (state.position == 0)
        let position := sum % count + 1
        steps ⟨code, position, bias, count⟩ 36 1 position false rest
      else none
    else steps state (k + 36) (weight * (36 - limit)) sum true rest

def isValid (label : List Char) : Bool :=
  let tail := (label.reverse.takeWhile (· ≠ '-')).reverse
  let basic := label.length - tail.length - 1
  tail ≠ [] && (steps ⟨128, 0, 72, basic⟩ 36 1 0 false tail).isSome

end Recast.Punycode
