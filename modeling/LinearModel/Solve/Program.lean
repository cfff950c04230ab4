import LinearModel.Expr.Terms

/-!
# Linear programs

Minimise a sum of terms over variables between bounds, subject to rows. The arithmetic rounds, so
two numbers that differ by no more than `tolerance` count as equal wherever a point is judged.
-/

namespace LinearModel

def tolerance : Float := 1e-10

def wholeTolerance : Float := 1e-8

def infinity : Float := 1.0 / 0.0

structure Interval where
  lower : Float
  upper : Float

namespace Interval

/-- No number lies in the interval; so it is where an end is undefined. -/
def isEmpty (i : Interval) : Bool :=
  !(i.lower ≤ i.upper)

def isOpen (i : Interval) : Bool :=
  i.lower.isInf && i.upper.isInf

def excess (i : Interval) (x : Float) : Float :=
  if x < i.lower - tolerance then i.lower - x
  else if x > i.upper + tolerance then x - i.upper
  else 0

def nearEnd (i : Interval) (x : Float) : Float :=
  if x < i.lower then i.lower else i.upper

/-- How far `x` can rise, or fall if `rising` is false, before it leaves the interval. -/
def room (i : Interval) (x : Float) (rising : Bool) : Float :=
  if rising then if x < i.upper then i.upper - x else 0
  else if x > i.lower then x - i.lower else 0

/-- Where a variable starts: at the end where the cost `c` is least, if that end is finite, or else
at the other one. -/
def start (i : Interval) (c : Float) : Float :=
  if i.isOpen then 0
  else if c < 0 then if i.upper.isFinite then i.upper else i.lower
  else if i.lower.isFinite then i.lower else i.upper

def countIntegers (i : Interval) : Nat :=
  (i.upper - i.lower).toUInt64.toNat + 1

end Interval

/-- The terms sum to `bound`, or to at most `bound` where the row is not `tight`. -/
structure ProgramRow where
  terms : Terms Float
  bound : Float
  tight : Bool

namespace ProgramRow

def slack (r : ProgramRow) : Interval :=
  ⟨0, if r.tight then 0 else infinity⟩

def holdsEmpty (r : ProgramRow) : Bool :=
  if r.tight then r.bound.abs < tolerance else 0 ≤ r.bound

/-- A row in which some number is undefined asks for nothing. -/
def isDefined (r : ProgramRow) : Bool :=
  !r.bound.isNaN && r.terms.all fun (_, c) => !c.isNaN

/-- The power of two that brings the size of `x` to one or between one and two. -/
def unitPower (x : Float) : Float :=
  if x.isFinite && x != 0 then
    let exponent := (x.abs.toBits >>> 52).toNat
    .ofBits (UInt64.ofNat (max 1 (2046 - exponent)) <<< 52)
  else 1

def balanced (r : ProgramRow) : ProgramRow :=
  let k := unitPower (r.terms.foldl (fun m (_, c) => if c.abs > m then c.abs else m) 0)
  { r with terms := r.terms.map fun (id, c) => (id, k * c), bound := k * r.bound }

end ProgramRow

structure Program where
  bounds : Array Interval
  rows : List ProgramRow
  cost : Terms Float
  integral : List Nat

inductive Optimum where
  | infeasible
  | unbounded
  | attained (values : Array Float)

end LinearModel
