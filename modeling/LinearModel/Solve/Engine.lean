import LinearModel.Boundary.Solver
import LinearModel.Solve.Optimizer

/-!
# The engine

Hands a pending problem to an optimizer: makes a variable for each column, turns the rows and the
objective into sums over these, and reads a value for each column out of the solution. It has
neither a time limit nor scaling, and warns when one is asked for.
-/

namespace LinearModel

namespace Engine

open Optimizer (Definition LinearSum Restriction)

def name : String := "microlp"

def target : String := "lpmodel::solver::microlp"

/-! ## Faults -/

def code : Optimizer.FaultKind → Int
  | .infeasible => Code.infeasible
  | .unbounded => Code.unbounded
  | .other => Code.unknownError

def failure (f : Optimizer.Fault) : Failure :=
  ⟨code f.kind, s!"{name}: {f.text}"⟩

/-! ## Log -/

def warnings (p : Pending Float) : Log :=
  (p.timeLimit.toList.map fun seconds =>
    { level := .warn, target, message := "microlp has no time limit, ignoring it"
      fields := [("seconds", Text.preciseFloat seconds)] }) ++
  (p.scaling.toList.map fun mode =>
    { level := .warn, target, message := "microlp does not support scaling, ignoring it"
      fields := [("scaling", mode.text)] })

def foundEvent (objective : Float) : Event :=
  { level := .debug, target, message := "microlp found an optimal solution"
    fields := [("objective", Text.preciseFloat objective)] }

def failedEvent (f : Optimizer.Fault) : Event :=
  { level := .debug, target, message := "microlp failed"
    fields := [("code", toString (code f.kind)), ("error", f.text)] }

/-! ## Problems -/

/-- A binary variable has its own bounds, whatever those of its column are. -/
def definition (c : Column Float) : Definition :=
  match c.kind with
  | .continuous => ⟨c.lower, c.upper, false⟩
  | .integer => ⟨c.lower, c.upper, true⟩
  | .binary => ⟨0, 1, true⟩

variable {V P : Type}

/-- The variable of a column; a number beyond the columns halts the run. -/
def column (cols : List V) (i : Nat) : Except Halt V :=
  match cols[i]? with
  | some v => .ok v
  | none => .error (.outOfBounds cols.length i)

def linear (cols : List V) (ts : Terms Float) : Except Halt (LinearSum V) :=
  ts.mapM fun (i, c) => return (c, ← column cols i)

def restriction (cols : List V) (r : ReducedRow Float) : Except Halt (Restriction V) :=
  return ⟨← linear cols r.terms, r.sense, r.rhs⟩

/-- Without an objective the empty sum is minimised. -/
def problem (cols : List V) (pool : P) (p : Pending Float) :
    Except Halt (Optimizer.Problem V P) := do
  let objective ← linear cols ((p.objective.map PendingObjective.terms).getD [])
  let restrictions ← p.rows.mapM (restriction cols)
  return ⟨pool, (p.objective.map PendingObjective.sense).getD .minimize, objective, restrictions⟩

/-! ## Solving -/

variable (opt : Optimizer V P)

def columnVariables (p : Pending Float) : List V × P :=
  opt.make (p.columns.map definition)

/-- Halts at a column number beyond the columns, at a variable that the solution has no value for,
and at a value that the objective asks for in vain. -/
def solve? (p : Pending Float) : Except Halt (RawResult Float × Log) := do
  let (cols, pool) := columnVariables opt p
  match opt.solve (← problem cols pool p) with
  | .ok value =>
    let values ← cols.mapM value
    let objective ← p.evaluate? values
    return (.best values objective, warnings p ++ [foundEvent objective])
  | .error fault =>
    return (.failed (failure fault) p.numVars, warnings p ++ [failedEvent fault])

/-- A run that halts has no result; what stands for it here has no values. -/
def solve (p : Pending Float) : RawResult Float × Log :=
  match solve? opt p with
  | .ok answer => answer
  | .error halt => (.failed ⟨Code.unknownError, halt.message⟩ 0, [])

def backend : Solver Float (Pending Float) :=
  .buffered name (solve opt)

end Engine

end LinearModel
