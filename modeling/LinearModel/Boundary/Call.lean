import LinearModel.Boundary.Row
import LinearModel.Scaling
import LinearModel.Text.Number

/-!
# Calls to a solver

Everything that a solver instance is told, in the order in which it is told.
-/

namespace LinearModel

open Text (Shape)

inductive Call (R : Type) where
  | showLog (value : Bool)
  | timeLimit (seconds : Float)
  | scaling (mode : ScaleMode)
  | addVars (lower upper : List R) (kinds : List UInt8)
  | addConstraint (lhs rhs : SparseRow R) (sense : UInt8)
  | setObjective (row : SparseRow R) (sense : Int)
  | optimize

instance {R : Type} [Numeral R] : Text.Shaped (Call R) where
  shape
    | .showLog value => Shape.tuple "ShowLog" [.bool value]
    | .timeLimit seconds => Shape.tuple "TimeLimit" [.leaf (Numeral.precise seconds)]
    | .scaling mode => Shape.tuple "Scaling" [.int mode.toInt]
    | .addVars lower upper kinds =>
      Shape.record "AddVars"
        [("lower", .list (lower.map fun x => .leaf (Numeral.precise x))),
          ("upper", .list (upper.map fun x => .leaf (Numeral.precise x))),
          ("kinds", .list (kinds.map fun k => .nat k.toNat))]
    | .addConstraint lhs rhs sense =>
      Shape.record "AddConstr"
        [("lhs", Text.shape lhs), ("rhs", Text.shape rhs), ("sense", .nat sense.toNat)]
    | .setObjective row sense =>
      Shape.record "SetObjective" [("row", Text.shape row), ("sense", .int sense)]
    | .optimize => .leaf "Optimize"

end LinearModel
