import LinearModel.Solve.Program

/-!
# Tableaus

Every row of a program gets a variable of its own, its slack. A tableau calls one variable of each
row basic and the others free, and writes every row as a basic variable plus terms over the free
ones, whose sum no change of values may alter. A pivot makes a free variable basic in exchange for
the basic one of some row.
-/

namespace LinearModel

structure Tableau where
  basic : Array Nat
  free : Array Nat
  /-- The coefficients of the free variables in each row, and last the sum of the row. -/
  cells : Array (Array Float)
  rates : Array Float
  ranges : Array Interval
  values : Array Float

namespace Tableau

def value (t : Tableau) (v : Nat) : Float := t.values.getD v 0

def range (t : Tableau) (v : Nat) : Interval := t.ranges.getD v ⟨0, 0⟩

def basicAt (t : Tableau) (row : Nat) : Nat := t.basic.getD row 0

def freeAt (t : Tableau) (col : Nat) : Nat := t.free.getD col 0

def row (t : Tableau) (row : Nat) : Array Float := t.cells.getD row #[]

def cell (t : Tableau) (row col : Nat) : Float := (t.row row).getD col 0

def rate (t : Tableau) (col : Nat) : Float := t.rates.getD col 0

/-- The free variable of a column can rise, or fall if `rising` is false. -/
def canMove (t : Tableau) (col : Nat) (rising : Bool) : Bool :=
  let v := t.freeAt col
  if rising then t.value v != (t.range v).upper else t.value v != (t.range v).lower

/-! ## Start -/

def denseRow (n : Nat) (ts : Terms Float) : Array Float :=
  ts.foldl (fun row (id, c) => row.setIfInBounds id c) (Array.replicate n 0)

def sumAt (values : Array Float) (ts : Terms Float) : Float :=
  ts.foldl (fun sum (id, c) => sum + c * values.getD id 0) 0

def start (p : Program) : Tableau :=
  let n := p.bounds.size
  let rates := denseRow n p.cost
  let values := p.bounds.zipWith Interval.start rates
  { basic := (Array.range p.rows.length).map (n + ·)
    free := Array.range n
    cells := (p.rows.map fun r => (denseRow n r.terms).push r.bound).toArray
    rates
    ranges := p.bounds ++ (p.rows.map ProgramRow.slack).toArray
    values := values ++ (p.rows.map fun r => r.bound - sumAt values r.terms).toArray }

/-! ## Moves -/

/-- Gives the free variable of a column the value `x`, and takes the difference `step` out of the
basic variables. -/
def move (t : Tableau) (col : Nat) (x step : Float) : Tableau :=
  let values := t.values.setIfInBounds (t.freeAt col) x
  let values := (List.range t.basic.size).foldl (fun values row =>
    let b := t.basicAt row
    let c := t.cell row col
    if c == 0 then values else values.setIfInBounds b (values.getD b 0 - step * c)) values
  { t with values }

/-- The basic variables computed anew from the free ones, without the errors of earlier moves. -/
def refreshed (t : Tableau) : Tableau :=
  let n := t.free.size
  let values := (List.range t.basic.size).foldl (fun values row =>
    values.setIfInBounds (t.basicAt row) <| (List.range n).foldl (fun x col =>
      let c := t.cell row col
      if c == 0 then x else x - c * t.value (t.freeAt col)) (t.cell row n)) t.values
  { t with values }

def eliminate (pivot : Array Float) (col : Nat) (row : Array Float) : Array Float :=
  let k := row.getD col 0
  if k == 0 then row
  else (row.setIfInBounds col 0).zipWith (fun x y => if y == 0 then x else x - k * y) pivot

def pivot (t : Tableau) (row col : Nat) : Tableau :=
  let k := t.cell row col
  let solved := ((t.row row).setIfInBounds col 1).map (· / k)
  { t with
    basic := t.basic.setIfInBounds row (t.freeAt col)
    free := t.free.setIfInBounds col (t.basicAt row)
    cells := (t.cells.map (eliminate solved col)).setIfInBounds row solved
    rates := eliminate solved col t.rates }

/-- Lets the basic variable of a row take the value `x` and the free variable of a column make up
for it, and exchanges the two. -/
def exchange (t : Tableau) (row col : Nat) (x : Float) : Tableau :=
  let v := t.freeAt col
  let step := (t.value (t.basicAt row) - x) / t.cell row col
  let t := t.move col (t.value v + step) step
  { t with values := t.values.setIfInBounds (t.basicAt row) x }.pivot row col

def withCost (t : Tableau) (cost : Array Float) : Tableau :=
  let price (v : Nat) : Float := cost.getD v 0
  let rates := (List.range t.basic.size).foldl (fun rates row =>
    let c := price (t.basicAt row)
    if c == 0 then rates else rates.zipWith (fun x y => x - c * y) (t.row row)) (t.free.map price)
  { t with rates }

end Tableau

end LinearModel
