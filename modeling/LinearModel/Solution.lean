import LinearModel.Error
import LinearModel.Variable

/-!
# Solutions

The values that a solver found, one for each variable in the order of their numbers.
-/

namespace LinearModel

open Text (Shape)

structure Solution (R : Type) where
  values : List R
  objective : R
  optimal : Bool
  gap : R

namespace Solution

variable {R : Type}

def value (s : Solution R) (v : Var R) : Except Error R :=
  match s.values[v.id]? with
  | some x => .ok x
  | none => .error (.indexOutOfRange .var v.id s.values.length)

/-- The value counts as set: it is above one hundredth, so that noise of the solver is not. A
continuous variable is never set, even one without a value. -/
def isOne [Scalar R] (s : Solution R) (v : Var R) : Except Error Bool :=
  if v.kind.isIntegral then (s.value v).map (Scalar.less 0.01 ·) else .ok false

instance [Numeral R] : Text.Shaped (Solution R) where
  shape s := Shape.record "Solution"
    [("values", .list (s.values.map fun x => .leaf (Numeral.precise x))),
      ("objective", .leaf (Numeral.precise s.objective)), ("optimal", .bool s.optimal),
      ("gap", .leaf (Numeral.precise s.gap))]

end Solution

end LinearModel
