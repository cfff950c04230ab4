import LinearModel.Error
import LinearModel.Expr.Basic

/-!
# Sums over variables

Each builder starts from the constant zero and adds to it. A matrix is a list of rows, which need
not be equally long; a row or a column that it does not have is an error.
-/

namespace LinearModel.Expr

variable {R : Type} [Scalar R]

def sum (es : List (Expr R)) : Expr R :=
  es.foldl plus (new 0)

def sumVars (vars : List (Var R)) : Expr R :=
  sum (vars.map ofVar)

def sumRow (rows : List (List (Var R))) (i : Nat) : Except Error (Expr R) :=
  match rows[i]? with
  | some cells => .ok (sumVars cells)
  | none => .error (.indexOutOfRange .row i rows.length)

/-- The cells of column `j`; of the rows too short to have one, the first is reported. -/
def columnCells (rows : List (List (Var R))) (j : Nat) : Except Error (List (Var R)) :=
  rows.mapM fun cells =>
    match cells[j]? with
    | some v => .ok v
    | none => .error (.indexOutOfRange .column j cells.length)

/-- A matrix without rows has no columns. -/
def sumCol (rows : List (List (Var R))) (j : Nat) : Except Error (Expr R) :=
  if rows.isEmpty then .error (.indexOutOfRange .column j 0)
  else (columnCells rows j).map sumVars

def dot (vars : List (Var R)) (coeffs : List R) : Except Error (Expr R) :=
  if vars.length ≠ coeffs.length then .error (.shapeMismatch vars.length coeffs.length)
  else .ok ((vars.zip coeffs).foldl (fun e (v, c) => e.addTerm c v) (new 0))

end LinearModel.Expr
