import LinearModel.Scalar

/-!
# Exact numbers

The rationals with two infinities and an undefined value: the arithmetic of `Float` without rounding
and with a single zero. `Exact.ofFloat` reads a float as the number that it stands for.
-/

namespace LinearModel

inductive Exact where
  | undefined
  | negInf
  | finite (value : Rat)
  | posInf
deriving DecidableEq

namespace Exact

protected def neg : Exact → Exact
  | undefined => undefined
  | negInf => posInf
  | finite q => finite (-q)
  | posInf => negInf

/-- Opposite infinities have no sum. -/
protected def add : Exact → Exact → Exact
  | undefined, _ | _, undefined => undefined
  | negInf, posInf | posInf, negInf => undefined
  | negInf, _ | _, negInf => negInf
  | posInf, _ | _, posInf => posInf
  | finite p, finite q => finite (p + q)

def signedInf (q : Rat) : Exact :=
  if q < 0 then negInf else if 0 < q then posInf else undefined

protected def mul : Exact → Exact → Exact
  | undefined, _ | _, undefined => undefined
  | posInf, posInf | negInf, negInf => posInf
  | posInf, negInf | negInf, posInf => negInf
  | posInf, finite q | finite q, posInf => signedInf q
  | negInf, finite q | finite q, negInf => signedInf (-q)
  | finite p, finite q => finite (p * q)

/-- The undefined value equals nothing, not even itself. -/
protected def beq : Exact → Exact → Bool
  | negInf, negInf | posInf, posInf => true
  | finite p, finite q => p == q
  | _, _ => false

/-- No order holds where a side is undefined. -/
protected def less : Exact → Exact → Bool
  | undefined, _ | _, undefined => false
  | negInf, negInf | posInf, posInf => false
  | negInf, _ | _, posInf => true
  | posInf, _ | _, negInf => false
  | finite p, finite q => p < q

instance : Scalar Exact where
  zero := finite 0
  one := finite 1
  add := Exact.add
  sub a b := Exact.add a b.neg
  mul := Exact.mul
  neg := Exact.neg
  beq := Exact.beq
  ofScientific mantissa negative exponent :=
    finite (if negative then mkRat mantissa (Nat.pow 10 exponent)
      else (mantissa * Nat.pow 10 exponent : Nat))
  ofNat n := finite n
  less := Exact.less

open Float.Model in
def ofFloat (x : Float) : Exact :=
  match x.toModel.unpack with
  | .notANumber => undefined
  | .infinity .negative => negInf
  | .infinity .positive => posInf
  | .zero _ => finite 0
  | .finite sign mantissa exponent _ => finite ((sign.apply mantissa : Int) * (2 : Rat) ^ exponent)

end Exact

end LinearModel
