import LinearModel.Expr.Basic

/-!
# Constraints and objectives

A constraint keeps both of its sides as they were written.
-/

namespace LinearModel

open Text (Shape)

inductive Sense where
  | lessEqual
  | greaterEqual
  | equal
deriving DecidableEq

namespace Sense

/-- The character that stands for the sense in a call to a solver. -/
def tag : Sense → UInt8
  | lessEqual => '<'.toUInt8
  | greaterEqual => '>'.toUInt8
  | equal => '='.toUInt8

def ofTag? (tag : UInt8) : Option Sense :=
  if tag = lessEqual.tag then some lessEqual
  else if tag = greaterEqual.tag then some greaterEqual
  else if tag = equal.tag then some equal
  else none

@[simp] theorem ofTag?_tag (s : Sense) : ofTag? s.tag = some s := by
  cases s <;> rfl

def symbol : Sense → String
  | lessEqual => "<="
  | greaterEqual => ">="
  | equal => "=="

def ofSymbol? : String → Option Sense
  | "<=" => some lessEqual
  | ">=" => some greaterEqual
  | "==" => some equal
  | _ => none

def name : Sense → String
  | lessEqual => "LessEqual"
  | greaterEqual => "GreaterEqual"
  | equal => "Equal"

end Sense

inductive Direction where
  | minimize
  | maximize
deriving DecidableEq

namespace Direction

/-- The number that stands for the direction in a call to a solver. -/
def tag : Direction → Int
  | minimize => 1
  | maximize => -1

def ofTag? (tag : Int) : Option Direction :=
  if tag = minimize.tag then some minimize
  else if tag = maximize.tag then some maximize
  else none

@[simp] theorem ofTag?_tag (d : Direction) : ofTag? d.tag = some d := by
  cases d <;> rfl

def name : Direction → String
  | minimize => "Minimize"
  | maximize => "Maximize"

def ofName? : String → Option Direction
  | "Minimize" => some minimize
  | "Maximize" => some maximize
  | _ => none

end Direction

structure Constraint (R : Type) where
  lhs : Expr R
  sense : Sense
  rhs : Expr R

structure Objective (R : Type) where
  expr : Expr R
  sense : Direction

variable {R : Type}

def Constraint.display [Scalar R] [Numeral R] (c : Constraint R) : String :=
  s!"{c.lhs.display} {c.sense.symbol} {c.rhs.display}"

instance [Numeral R] : Text.Shaped (Constraint R) where
  shape c := Shape.record "Constraint"
    [("lhs", Text.shape c.lhs), ("sense", .leaf c.sense.name), ("rhs", Text.shape c.rhs)]

instance [Numeral R] : Text.Shaped (Objective R) where
  shape o := Shape.record "Objective"
    [("expr", Text.shape o.expr), ("sense", .leaf o.sense.name)]

end LinearModel
