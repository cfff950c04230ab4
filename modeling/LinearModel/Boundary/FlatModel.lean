import LinearModel.Boundary.Call
import LinearModel.Error
import LinearModel.Model

/-!
# Flat models

A model as arrays: bounds and kind tags by variable number, and a sparse row for every expression.
Both sides of a constraint stay apart. A model is flat only if it owns every variable that it names.
-/

namespace LinearModel

open Text (Shape)

structure FlatConstraint (R : Type) where
  lhs : SparseRow R
  rhs : SparseRow R
  sense : UInt8

structure FlatObjective (R : Type) where
  row : SparseRow R
  sense : Int

structure FlatModel (R : Type) where
  lower : List R
  upper : List R
  kinds : List UInt8
  constraints : List (FlatConstraint R)
  objective : Option (FlatObjective R)

inductive ModelFault where
  | noVariables
  /-- The largest variable named in this place is none of the model's `count`. -/
  | foreignVariable (place : Place) (id count : Nat)

def ModelFault.message : ModelFault → String
  | noVariables => "no variables in model"
  | foreignVariable place id count =>
    s!"{place.text} references variable {id} but the model has {count} variables"

def ModelFault.toError (f : ModelFault) : Error :=
  .invalidModel f.message

variable {R : Type}

def flattenExpr (n : Nat) (place : Place) (e : Expr R) : Except ModelFault (SparseRow R) :=
  match e.maxId? with
  | some id => if n ≤ id then .error (.foreignVariable place id n) else .ok (.ofExpr e)
  | none => .ok (.ofExpr e)

def flattenConstraints (n : Nat) :
    (start : Nat) → List (Constraint R) → Except ModelFault (List (FlatConstraint R))
  | _, [] => .ok []
  | start, c :: cs => do
    let lhs ← flattenExpr n (.constraint start) c.lhs
    let rhs ← flattenExpr n (.constraint start) c.rhs
    return ⟨lhs, rhs, c.sense.tag⟩ :: (← flattenConstraints n (start + 1) cs)

def flattenObjective (n : Nat) (o : Objective R) : Except ModelFault (FlatObjective R) :=
  (flattenExpr n .objective o.expr).map (⟨·, o.sense.tag⟩)

/-- A model without variables is refused before anything else is looked at. -/
def Model.flatten (m : Model R) : Except ModelFault (FlatModel R) :=
  if m.vars.isEmpty then .error .noVariables
  else do
    let n := m.vars.length
    let constraints ← flattenConstraints n 0 m.constraints
    let objective ← m.objective.mapM (flattenObjective n)
    return {
      lower := m.vars.map (·.lower)
      upper := m.vars.map (·.upper)
      kinds := m.vars.map (·.kind.tag)
      constraints
      objective }

namespace FlatModel

def numVars (f : FlatModel R) : Nat :=
  f.kinds.length

/-- What an instance is told before it is asked to optimize: the log flag first, then variables,
constraints and objective, and last the time limit and the scaling mode, each only if set. -/
def calls (f : FlatModel R) (s : Settings) : List (Call R) :=
  [.showLog s.showLog, .addVars f.lower f.upper f.kinds] ++
    f.constraints.map (fun c => .addConstraint c.lhs c.rhs c.sense) ++
    f.objective.toList.map (fun o => .setObjective o.row o.sense) ++
    (if s.timeLimit = .zero then [] else [.timeLimit s.timeLimit.seconds]) ++
    s.scaling.toList.map .scaling

end FlatModel

instance [Numeral R] : Text.Shaped (FlatConstraint R) where
  shape c := Shape.record "MarshaledConstraint"
    [("lhs", Text.shape c.lhs), ("rhs", Text.shape c.rhs), ("sense", .nat c.sense.toNat)]

instance [Numeral R] : Text.Shaped (FlatObjective R) where
  shape o := Shape.record "MarshaledObjective"
    [("row", Text.shape o.row), ("sense", .int o.sense)]

instance [Numeral R] : Text.Shaped (FlatModel R) where
  shape f := Shape.record "MarshaledModel"
    [("lower", .list (f.lower.map fun x => .leaf (Numeral.precise x))),
      ("upper", .list (f.upper.map fun x => .leaf (Numeral.precise x))),
      ("kinds", .list (f.kinds.map fun k => .nat k.toNat)),
      ("constraints", .list (f.constraints.map Text.shape)),
      ("objective", .option (f.objective.map Text.shape))]

end LinearModel
