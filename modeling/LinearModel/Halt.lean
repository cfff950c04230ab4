/-!
# Halts

What no run gets past: a number that does not fit into a machine word, a remainder that does not
exist, an index outside a list, a list that no memory holds, and a text without a width.
-/

namespace LinearModel

inductive Halt where
  | product
  | sum
  | remainder
  | outOfBounds (len index : Nat)
  | capacity
  /-- More of a text is hidden than it is wide. -/
  | hidden (width count : Nat) (text : String)
deriving DecidableEq

namespace Halt

def message : Halt → String
  | product => "attempt to multiply with overflow"
  | sum => "attempt to add with overflow"
  | remainder => "attempt to calculate the remainder with a divisor of zero"
  | outOfBounds len index => s!"index out of bounds: the len is {len} but the index is {index}"
  | capacity => "capacity overflow"
  | hidden width count text =>
    s!"internal error: width {width} less than hidden {count} on string {text}"

def wordBound : Nat := Nat.pow 2 64

/-- The bytes of a list are below this. -/
def memoryBound : Nat := Nat.pow 2 63

def reserve (count size : Nat) : Except Halt Unit :=
  if count * size < memoryBound then .ok () else .error .capacity

end Halt

end LinearModel
