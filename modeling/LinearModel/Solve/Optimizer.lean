import LinearModel.Constraint
import LinearModel.Halt

/-!
# Optimizers

A library that solves linear programs, as far as a backend asks anything of it: it makes a variable
out of a definition, and it solves a problem over the variables that it made. How it does so is its
own affair. A solution is asked for one value after the other.
-/

namespace LinearModel

namespace Optimizer

structure Definition where
  lower : Float
  upper : Float
  integral : Bool

/-- Products of coefficients and variables, in the order in which they are added up. -/
abbrev LinearSum (V : Type) := List (Float × V)

structure Restriction (V : Type) where
  sum : LinearSum V
  sense : Sense
  bound : Float

structure Problem (V P : Type) where
  pool : P
  direction : Direction
  objective : LinearSum V
  restrictions : List (Restriction V)

inductive FaultKind where
  | infeasible
  | unbounded
  | other

structure Fault where
  kind : FaultKind
  text : String

end Optimizer

structure Optimizer (V P : Type) where
  empty : P
  add : P → Optimizer.Definition → V × P
  solve : Optimizer.Problem V P → Except Optimizer.Fault (V → Except Halt Float)

namespace Optimizer

variable {V P : Type} (opt : Optimizer V P)

def addAll : P → List Definition → List V × P
  | pool, [] => ([], pool)
  | pool, d :: ds =>
    let (v, pool) := opt.add pool d
    let (vs, pool) := addAll pool ds
    (v :: vs, pool)

/-- A variable for each definition, and the pool that holds them all. -/
def make (definitions : List Definition) : List V × P :=
  opt.addAll opt.empty definitions

/-- A solution has a value for every variable that was made for its problem. -/
structure HasValues : Prop where
  value_made : ∀ definitions problem value, problem.pool = (opt.make definitions).2 →
    opt.solve problem = .ok value → ∀ v ∈ (opt.make definitions).1, ∃ x, value v = .ok x

end Optimizer

end LinearModel
