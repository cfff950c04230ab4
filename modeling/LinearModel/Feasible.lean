import LinearModel.Boundary.Pending
import LinearModel.Exact
import LinearModel.Model

/-!
# Feasible points

What models and pending problems mean over exact numbers. A point is feasible if every variable lies
between its bounds, is whole where its kind asks for it, and every constraint holds; it is optimal
if no feasible point has a better objective.
-/

namespace LinearModel

abbrev Point := Nat → Rat

def Point.exact (x : Point) : Nat → Exact :=
  fun id => .finite (x id)

def Exact.AtMost (a b : Exact) : Prop :=
  Scalar.less a b ∨ a == b

def Sense.Holds (s : Sense) (a b : Exact) : Prop :=
  match s with
  | lessEqual => a.AtMost b
  | greaterEqual => b.AtMost a
  | equal => a == b

def Direction.Better (d : Direction) (a b : Exact) : Prop :=
  match d with
  | minimize => Scalar.less a b
  | maximize => Scalar.less b a

/-- What a kind and two bounds allow. -/
structure VarKind.Admits (kind : VarKind) (lower upper : Exact) (q : Rat) : Prop where
  lower_le : lower.AtMost (.finite q)
  le_upper : (Exact.finite q).AtMost upper
  whole : kind.isIntegral → q.den = 1

namespace Model

structure Feasible (m : Model Exact) (x : Point) : Prop where
  vars : ∀ v ∈ m.vars, v.kind.Admits v.lower v.upper (x v.id)
  constraints : ∀ c ∈ m.constraints, c.sense.Holds (c.lhs.value x.exact) (c.rhs.value x.exact)

/-- A model without an objective prefers no point to another. -/
structure Optimal (m : Model Exact) (x : Point) : Prop where
  feasible : m.Feasible x
  best : ∀ o ∈ m.objective, ∀ y, m.Feasible y →
    ¬o.sense.Better (o.expr.value y.exact) (o.expr.value x.exact)

end Model

namespace Pending

structure Feasible (p : Pending Exact) (x : Point) : Prop where
  columns : ∀ (i : Nat) (h : i < p.columns.length),
    p.columns[i].kind.Admits p.columns[i].lower p.columns[i].upper (x i)
  rows : ∀ r ∈ p.rows, r.sense.Holds (r.terms.value x.exact) r.rhs

/-- The objective is the one that `evaluate` computes. -/
def objectiveAt (p : Pending Exact) (x : Point) : Exact :=
  p.evaluate ((List.range p.numVars).map x.exact)

structure Optimal (p : Pending Exact) (x : Point) : Prop where
  feasible : p.Feasible x
  best : ∀ o ∈ p.objective, ∀ y, p.Feasible y →
    ¬o.sense.Better (p.objectiveAt y) (p.objectiveAt x)

end Pending

end LinearModel
