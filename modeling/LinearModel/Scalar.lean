/-!
# Scalars

The numbers a model is built from. Expressions, rows and problems are written once over any scalar:
over `Float` they are what is computed, over `Rat` and `Exact` they are what the same steps mean
without rounding.
-/

namespace LinearModel

/-- Arithmetic with comparisons of its own: `==` need not be reflexive, and of two scalars neither
need be less than the other. -/
class Scalar (R : Type) extends Zero R, One R, Add R, Sub R, Mul R, Neg R, OfScientific R,
    BEq R where
  ofNat : Nat → R
  less : R → R → Bool

/-- Scalars with two texts: one for reports and formulas, and one that also shows that the value is
not a whole number's. -/
class Numeral (R : Type) where
  plain : R → String
  precise : R → String

instance : Scalar Float where
  zero := 0.0
  one := 1.0
  ofNat := Float.ofNat
  less x y := x < y

instance : Scalar Rat where
  zero := 0
  one := 1
  ofNat n := n
  less x y := x < y

end LinearModel
