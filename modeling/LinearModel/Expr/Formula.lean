import LinearModel.Expr.Builders

/-!
# Formulas

A formula is written with scalars, variables, expressions, operators and builders. Arithmetic
between scalars stays a scalar; anything else becomes an expression when it is built. A conversion,
and what changes its left side in place, give an expression even of scalars.
-/

namespace LinearModel

inductive Operand (R : Type) where
  | scalar (value : R)
  | var (v : Var R)
  | expr (e : Expr R)

namespace Operand

variable {R : Type} [Scalar R]

def toExpr : Operand R → Expr R
  | scalar x => .new x
  | var v => .ofVar v
  | expr e => e

/-- A scalar on the left is added to the right operand, all else to the left one. -/
def add : Operand R → Operand R → Operand R
  | scalar x, scalar y => scalar (x + y)
  | scalar x, b => expr (b.toExpr.plus (.new x))
  | a, b => expr (a.toExpr.plus b.toExpr)

def sub : Operand R → Operand R → Operand R
  | scalar x, scalar y => scalar (x - y)
  | a, b => expr (a.toExpr.minus b.toExpr)

/-- A product needs a scalar factor. -/
def mul? : Operand R → Operand R → Option (Operand R)
  | scalar x, scalar y => some (scalar (x * y))
  | scalar x, b => some (expr (b.toExpr.scale x))
  | a, scalar y => some (expr (a.toExpr.scale y))
  | _, _ => none

def neg : Operand R → Operand R
  | scalar x => scalar (-x)
  | a => expr (a.toExpr.scale (-1))

def value (x : Nat → R) : Operand R → R
  | scalar k => k
  | var v => x v.id
  | expr e => e.value x

end Operand

inductive Formula (R : Type) where
  | operand (x : Operand R)
  | convert (a : Formula R)
  | add (a b : Formula R)
  | sub (a b : Formula R)
  | mul (a b : Formula R)
  | neg (a : Formula R)
  | addTerm (a : Formula R) (c : R) (v : Var R)
  | plus (a b : Formula R)
  | minus (a b : Formula R)
  | scale (a : Formula R) (k : R)
  | sum (items : List (Formula R))
  | sumVars (vars : List (Var R))
  | sumRow (rows : List (List (Var R))) (i : Nat)
  | sumCol (rows : List (List (Var R))) (j : Nat)
  | dot (vars : List (Var R)) (coeffs : List R)

namespace Formula

inductive Fault where
  | builder (error : Error)
  | product

variable {R : Type} [Scalar R]

def liftExpr (e : Except Error (Expr R)) : Except Fault (Operand R) :=
  match e with
  | .ok e => .ok (.expr e)
  | .error error => .error (.builder error)

mutual

/-- The operands are built from left to right, and the first fault stops. -/
def build : Formula R → Except Fault (Operand R)
  | operand x => .ok x
  | convert a => do return .expr (← build a).toExpr
  | add a b => do return (← build a).add (← build b)
  | sub a b => do return (← build a).sub (← build b)
  | mul a b => do
    match (← build a).mul? (← build b) with
    | some x => return x
    | none => throw .product
  | neg a => do return (← build a).neg
  | addTerm a c v => do return .expr ((← build a).toExpr.addTerm c v)
  | plus a b => do return .expr ((← build a).toExpr.plus (← build b).toExpr)
  | minus a b => do return .expr ((← build a).toExpr.minus (← build b).toExpr)
  | scale a k => do return .expr ((← build a).toExpr.scale k)
  | sum items => do return .expr (Expr.sum ((← buildAll items).map Operand.toExpr))
  | sumVars vars => .ok (.expr (Expr.sumVars vars))
  | sumRow rows i => liftExpr (Expr.sumRow rows i)
  | sumCol rows j => liftExpr (Expr.sumCol rows j)
  | dot vars coeffs => liftExpr (Expr.dot vars coeffs)

def buildAll : List (Formula R) → Except Fault (List (Operand R))
  | [] => .ok []
  | item :: items => do return (← build item) :: (← buildAll items)

end

mutual

/-- The value at a point, computed from the formula itself; of cells that are not there, nothing is
added. -/
def value (x : Nat → R) : Formula R → R
  | operand a => a.value x
  | convert a => value x a
  | add a b => value x a + value x b
  | sub a b => value x a - value x b
  | mul a b => value x a * value x b
  | neg a => -value x a
  | addTerm a c v => value x a + c * x v.id
  | plus a b => value x a + value x b
  | minus a b => value x a - value x b
  | scale a k => value x a * k
  | sum items => valueAll x items
  | sumVars vars => (vars.map fun v => x v.id).sum
  | sumRow rows i => ((rows.getD i []).map fun v => x v.id).sum
  | sumCol rows j => (rows.filterMap fun cells => cells[j]?.map fun v => x v.id).sum
  | dot vars coeffs => ((vars.zip coeffs).map fun (v, c) => c * x v.id).sum

def valueAll (x : Nat → R) : List (Formula R) → R
  | [] => 0
  | item :: items => value x item + valueAll x items

end

end Formula

end LinearModel
