import LinearModel.Expr.Terms
import LinearModel.Variable

/-!
# Linear expressions

A sum of terms `coefficient * variable` and a constant.
-/

namespace LinearModel

open Text (Shape)

structure Expr (R : Type) where
  terms : Terms R
  constant : R

namespace Expr

variable {R : Type} [Scalar R]

def new (constant : R) : Expr R :=
  ⟨[], constant⟩

def addTerm (e : Expr R) (c : R) (v : Var R) : Expr R :=
  { e with terms := e.terms.add v.id c }

def ofVar (v : Var R) : Expr R :=
  (new 0).addTerm 1 v

def plus (e f : Expr R) : Expr R :=
  ⟨e.terms.merge f.terms, e.constant + f.constant⟩

def scale (e : Expr R) (k : R) : Expr R :=
  ⟨e.terms.scale k, e.constant * k⟩

/-- Adds the other expression times minus one. -/
def minus (e f : Expr R) : Expr R :=
  e.plus (f.scale (-1))

/-- Zero for a variable without a term. -/
def coefficient (e : Expr R) (v : Var R) : R :=
  (e.terms.get? v.id).getD 0

def value (e : Expr R) (x : Nat → R) : R :=
  e.terms.value x + e.constant

omit [Scalar R] in
def termCount (e : Expr R) : Nat :=
  e.terms.length

omit [Scalar R] in
def isConstant (e : Expr R) : Bool :=
  e.terms.isEmpty

omit [Scalar R] in
/-- The number of the last term, which is the largest. -/
def maxId? (e : Expr R) : Option Nat :=
  e.terms.getLast?.map Prod.fst

instance : BEq (Expr R) := ⟨fun e f => Terms.beq e.terms f.terms && e.constant == f.constant⟩

/-- Terms joined by plus signs, then the constant unless it compares equal to zero. -/
def display [Numeral R] (e : Expr R) : String :=
  let constant := Numeral.plain e.constant
  if e.terms.isEmpty then constant
  else
    let terms := e.terms.map fun (id, c) => s!"{Numeral.plain c} x{id}"
    " + ".intercalate (if e.constant == 0 then terms else terms ++ [constant])

omit [Scalar R] in
instance [Numeral R] : Text.Shaped (Expr R) where
  shape e := Shape.record "Expr"
    [("terms", .map (e.terms.map fun (id, c) => (toString id, .leaf (Numeral.precise c)))),
      ("constant", .leaf (Numeral.precise e.constant))]

end Expr

end LinearModel
