import LinearModel.Expr.Basic

/-!
# Sparse rows

An expression as it crosses to a solver: its coefficients and their column numbers side by side, and
its constant.
-/

namespace LinearModel

open Text (Shape)

structure SparseRow (R : Type) where
  coeffs : List R
  indices : List Nat
  constant : R

namespace SparseRow

variable {R : Type}

def ofExpr (e : Expr R) : SparseRow R :=
  ⟨e.terms.map Prod.snd, e.terms.map Prod.fst, e.constant⟩

def terms (row : SparseRow R) : Terms R :=
  row.indices.zip row.coeffs

@[simp] theorem terms_ofExpr (e : Expr R) : (ofExpr e).terms = e.terms := by
  simp only [terms, ofExpr]
  induction e.terms with
  | nil => rfl
  | cons t ts ih => simp [ih]

/-- The first column number that is not below `n`. -/
def firstBeyond? (row : SparseRow R) (n : Nat) : Option Nat :=
  row.indices.find? (n ≤ ·)

instance [Numeral R] : Text.Shaped (SparseRow R) where
  shape row := Shape.record "SparseRow"
    [("coeffs", .list (row.coeffs.map fun c => .leaf (Numeral.precise c))),
      ("indices", .list (row.indices.map .nat)),
      ("constant", .leaf (Numeral.precise row.constant))]

end SparseRow

/-- A part of a model that names variables. -/
inductive Place where
  | constraint (index : Nat)
  | objective
deriving DecidableEq

def Place.text : Place → String
  | constraint index => s!"constraint {index}"
  | objective => "objective"

end LinearModel
