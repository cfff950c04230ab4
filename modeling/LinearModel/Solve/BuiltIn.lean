import LinearModel.Exact
import LinearModel.Solve.Branch
import LinearModel.Solve.Engine

/-!
# The built-in optimizer

Numbers its variables in the order in which they are made, and solves by branch and bound.
-/

namespace LinearModel

namespace BuiltIn

open Optimizer (Definition Fault LinearSum Restriction)

def infeasible : Fault :=
  ⟨.infeasible, "Infeasible: The problem contains contradictory constraints. No solution exists."⟩

def unbounded : Fault :=
  ⟨.unbounded, "Unbounded: The objective can be made infinitely large without violating any " ++
    "constraints."⟩

/-- A bound of an integer variable does not fit into 32 bits. -/
def integerBounds : Fault :=
  ⟨.other, "An unexpected error occurred while running the optimizer: " ++
    "Microlp only supports integer bounds within the i32 range."⟩

/-- The least and the greatest integer of 32 bits. -/
def leastInt : Int := -2147483648
def greatestInt : Int := 2147483647

def inRange (n : Int) : Except Fault Float :=
  if leastInt ≤ n ∧ n ≤ greatestInt then .ok (Float.ofInt n) else .error integerBounds

/-- The integers between two bounds; a variable without a bound goes to the end of the range. -/
def integerInterval (lower upper : Float) : Except Fault Interval := do
  let lower ← match Exact.ofFloat lower with
    | .negInf => inRange leastInt
    | .finite q => inRange q.ceil
    | _ => throw integerBounds
  let upper ← match Exact.ofFloat upper with
    | .posInf => inRange greatestInt
    | .finite q => inRange q.floor
    | _ => throw integerBounds
  if lower ≤ upper then return ⟨lower, upper⟩ else throw infeasible

def interval (d : Definition) : Except Fault Interval :=
  if d.integral then integerInterval d.lower d.upper else .ok ⟨d.lower, d.upper⟩

def terms (sum : LinearSum Nat) : Terms Float :=
  sum.map Prod.swap

def negated (ts : Terms Float) : Terms Float :=
  ts.map fun (id, c) => (id, -c)

/-- A lower bound on a sum is an upper bound on the opposite sum. -/
def programRow (r : Restriction Nat) : ProgramRow :=
  match r.sense with
  | .lessEqual => ⟨terms r.sum, r.bound, false⟩
  | .greaterEqual => ⟨negated (terms r.sum), -r.bound, false⟩
  | .equal => ⟨terms r.sum, r.bound, true⟩

abbrev Problem := Optimizer.Problem Nat (Array Definition)

def costTerms (problem : Problem) : Terms Float :=
  match problem.direction with
  | .minimize => terms problem.objective
  | .maximize => negated (terms problem.objective)

def integralVariables (definitions : Array Definition) : List Nat :=
  (List.range definitions.size).filter fun v => (definitions[v]?.map Definition.integral).getD false

/-- The integer bounds are judged first, in their order, then all other bounds, and then the rows
without terms. -/
def program (problem : Problem) : Except Fault Program := do
  let bounds ← problem.pool.toList.mapM interval
  if bounds.any Interval.isEmpty then throw infeasible
  let (empty, rows) := (problem.restrictions.map programRow).partition (·.terms.isEmpty)
  if empty.any (!·.holdsEmpty) then throw infeasible
  return {
    bounds := bounds.toArray
    rows := (rows.filter ProgramRow.isDefined).map ProgramRow.balanced
    cost := costTerms problem
    integral := integralVariables problem.pool }

def optimum (problem : Problem) : Except Fault (Array Float) := do
  match (← program problem).optimum with
  | .attained values => return values
  | .infeasible => throw infeasible
  | .unbounded => throw unbounded

def valueAt (values : Array Float) (v : Nat) : Except Halt Float :=
  match values[v]? with
  | some x => .ok x
  | none => .error (.outOfBounds values.size v)

def optimizer : Optimizer Nat (Array Definition) where
  empty := #[]
  add definitions d := (definitions.size, definitions.push d)
  solve problem := (optimum problem).map valueAt

end BuiltIn

def Engine.solver : Solver Float (Pending Float) :=
  backend BuiltIn.optimizer

end LinearModel
