import LinearModel.Solve.Simplex

/-!
# Branch and bound

A minimum over whole values: where the minimum over all values is not whole in some variable, the
interval of that variable is split below and above it. A part whose minimum is no better than the
best whole point so far is left out. Parts never share a whole point, so the number of whole points
bounds the number of parts.
-/

namespace LinearModel

namespace Program

def isWhole (x : Float) : Bool :=
  (x - x.round).abs ≤ wholeTolerance

def fractional? (p : Program) (t : Tableau) : Option Nat :=
  p.integral.find? fun i => !isWhole (t.value i)

def costAt (p : Program) (t : Tableau) : Float :=
  p.cost.foldl (fun sum (i, c) => sum + c * t.value i) 0

def split (t : Tableau) (i : Nat) : List Tableau :=
  let below := (t.value i).floor
  [{ t with ranges := t.ranges.modify i fun r => { r with upper := below } },
    { t with ranges := t.ranges.modify i fun r => { r with lower := below + 1 } }]

def wholeValues (p : Program) (t : Tableau) : Array Float :=
  p.integral.foldl (fun values i => values.modify i Float.round) (t.values.extract 0 p.bounds.size)

/-- The best whole point of `parts`, if it is better than `best`. -/
def search (p : Program) (cost : Array Float) :
    (fuel : Nat) → (parts : List Tableau) → (best : Option (Float × Tableau)) → Optimum
  | _, [], some (_, t) => .attained (p.wholeValues t)
  | _, [], none => .infeasible
  | 0, _, _ => .infeasible
  | fuel + 1, t :: parts, best =>
    match t.relaxed cost with
    | .unbounded _ => .unbounded
    | .infeasible => search p cost fuel parts best
    | .attained t =>
      let value := p.costAt t
      if best.any fun (least, _) => least ≤ value + tolerance then search p cost fuel parts best
      else
        match p.fractional? t with
        | none => search p cost fuel parts (some (value, t))
        | some i => search p cost fuel (split t i ++ parts) best

/-- Twice the number of whole points. -/
def partBound (p : Program) : Nat :=
  2 * (p.integral.map fun i => (p.bounds.getD i ⟨0, 0⟩).countIntegers).foldl (· * ·) 1 + 1

def hasWholePoint (p : Program) (t : Tableau) : Bool :=
  let still := { p with cost := [] }
  match still.search #[] p.partBound [t.withCost #[]] none with
  | .attained _ => true
  | _ => false

/-- Where the cost falls without end over all values, it does so over the whole ones, if there are
any. -/
def optimum (p : Program) : Optimum :=
  let cost := Tableau.denseRow p.bounds.size p.cost
  match (Tableau.start p).relaxed cost with
  | .infeasible => .infeasible
  | .unbounded t => if p.hasWholePoint t then .unbounded else .infeasible
  | .attained t => p.search cost p.partBound [t] none

end Program

end LinearModel
