/-!
# The fewest digits that read back

A positive float stands for every real that rounds to it. `Magnitude.shortest` is the decimal with
the fewest digits among those reals and, of two with equally few, the closer one; where both are
equally close it is the upper one. All comparisons are between naturals: a `Decimal` is
`digits * 10 ^ exponent`, and a `Magnitude` is the float `mantissa * 2 ^ exponent`.
-/

namespace LinearModel.Text

structure Decimal where
  digits : Nat
  exponent : Int

structure Magnitude where
  mantissa : Nat
  exponent : Int

namespace Decimal

def cmpBinary (d : Decimal) (m : Nat) (e : Int) : Ordering :=
  compare (d.digits * Nat.pow 10 d.exponent.toNat * Nat.pow 2 (-e).toNat)
    (m * Nat.pow 2 e.toNat * Nat.pow 10 (-d.exponent).toNat)

def strip (d : Decimal) : Decimal :=
  if h : d.digits ≠ 0 ∧ d.digits % 10 = 0 then strip ⟨d.digits / 10, d.exponent + 1⟩ else d
termination_by d.digits
decreasing_by exact Nat.div_lt_self (Nat.pos_of_ne_zero h.1) (by decide)

end Decimal

namespace Magnitude

/-- Below a power of two the floats lie twice as dense as above it; the least power has none below
that lies denser. -/
def narrowBelow (x : Magnitude) : Bool :=
  x.mantissa == Nat.pow 2 52 && x.exponent > -1074

/-- The decimal lies among the reals that round to `x`. The ends of that interval belong to it when
the mantissa is even. -/
def readsBack (x : Magnitude) (d : Decimal) : Bool :=
  let lower := d.cmpBinary (4 * x.mantissa - if x.narrowBelow then 1 else 2) (x.exponent - 2)
  let upper := d.cmpBinary (4 * x.mantissa + 2) (x.exponent - 2)
  let closed := x.mantissa % 2 == 0
  (lower == .gt || closed && lower == .eq) && (upper == .lt || closed && upper == .eq)

def scale (x : Magnitude) : Int :=
  -- the ratio is a little more than the decimal logarithm of two
  let guess := (x.mantissa.log2 + x.exponent) * 30103 / 100000
  if Decimal.cmpBinary ⟨1, guess⟩ x.mantissa x.exponent == .gt then guess
  else if Decimal.cmpBinary ⟨1, guess + 1⟩ x.mantissa x.exponent == .gt then guess + 1
  else guess + 2

def floorAt (x : Magnitude) (grid : Int) : Nat :=
  x.mantissa * Nat.pow 2 x.exponent.toNat * Nat.pow 10 (-grid).toNat /
    (Nat.pow 2 (-x.exponent).toNat * Nat.pow 10 grid.toNat)

def onGrid? (x : Magnitude) (grid : Int) : Option Decimal :=
  let below := x.floorAt grid
  let lower : Decimal := ⟨below, grid⟩
  let upper : Decimal := ⟨below + 1, grid⟩
  match x.readsBack lower, x.readsBack upper with
  | false, false => none
  | true, false => some lower
  | false, true => some upper
  | true, true =>
    let middle : Decimal := ⟨2 * below + 1, grid⟩
    if middle.cmpBinary (2 * x.mantissa) x.exponent == .gt then some lower else some upper

def exactly (x : Magnitude) : Decimal :=
  ⟨x.mantissa * Nat.pow 2 x.exponent.toNat * Nat.pow 5 (-x.exponent).toNat, min x.exponent 0⟩

def shortest (x : Magnitude) : Decimal :=
  let k := x.scale
  ((List.range 17).findSome? fun (n : Nat) => x.onGrid? (k - 1 - n)).getD x.exactly |>.strip

end Magnitude

end LinearModel.Text
