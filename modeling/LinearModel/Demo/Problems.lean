import LinearModel.Expr.Builders
import LinearModel.Halt
import LinearModel.Model
import LinearModel.Report

/-!
# Reference problems

Three small problems over binary variables, each as a model together with the report on a solution
of it. They are written over any scalar.
-/

namespace LinearModel

namespace Demo

variable {R : Type} [Scalar R]

structure Problem (R : Type) where
  model : Model R
  report : Solution R → Except Error (Report R)

/-! ## Three binaries -/

/-- Maximise `x + y + 2 z` subject to `x + 2 y + 3 z <= 4` and `x + y >= 1`. -/
def simpleMip : Problem R :=
  let (x, m) := (Model.empty : Model R).addBinaryVar
  let (y, m) := m.addBinaryVar
  let (z, m) := m.addBinaryVar
  let weighted (k : Nat) (v : Var R) := (Expr.ofVar v).scale (Scalar.ofNat k)
  let pair := (Expr.ofVar x).plus (.ofVar y)
  let weight := ((Expr.ofVar x).plus (weighted 2 y)).plus (weighted 3 z)
  let (_, m) := m.addConstraint ⟨weight, .lessEqual, .new (Scalar.ofNat 4)⟩
  let (_, m) := m.addConstraint ⟨pair, .greaterEqual, .new 1⟩
  { model := m.setObjective (pair.plus (weighted 2 z)) .maximize
    report := fun s => Report.ofSolution "Simple MIP" s [("x", x), ("y", y), ("z", z)] }

/-! ## Assignment -/

def assignmentCost (size i j : Nat) : Nat :=
  (i * 7 + j * 3) % size + 1

/-- The cost in machine words: both products, then their sum and then the remainder must exist. -/
def assignmentCost? (size i j : Nat) : Except Halt Nat :=
  if Halt.wordBound ≤ i * 7 || Halt.wordBound ≤ j * 3 then .error .product
  else if Halt.wordBound ≤ i * 7 + j * 3 then .error .sum
  else if size = 0 then .error .remainder
  else .ok (assignmentCost size i j)

/-- Row `k` and then column `k` pick one cell each, for every `k`. -/
def pickOnce (n : Nat) (cells : List (List (Var R))) : Except Error (List (Constraint R)) := do
  let pairs ← (List.range n).mapM fun k => do
    let row ← Expr.sumRow cells k
    let column ← Expr.sumCol cells k
    return [⟨row, .equal, .new 1⟩, ⟨column, .equal, .new 1⟩]
  return pairs.flatten

def addressed (cells : List (List (Var R))) : List (Nat × Nat × Var R) :=
  cells.zipIdx.flatMap fun (row, i) => row.zipIdx.map fun (cell, j) => (i, j, cell)

def totalCost (n : Nat) (cells : List (List (Var R))) : Expr R :=
  (addressed cells).foldl
    (fun e (i, j, cell) => e.addTerm (Scalar.ofNat (assignmentCost n i j)) cell) (.new 0)

def picked (s : Solution R) (cells : List (List (Var R))) : Except Error (List (String × Var R)) :=
  ((addressed cells).filterMapM fun (i, j, cell) => do
    if ← s.isOne cell then return some (s!"row {i} -> col {j}", cell) else return none)

def assignmentModel (n : Nat) (feasibility : Bool) :
    Except Error (List (List (Var R)) × Model R) := do
  let (cells, m) := (Model.empty : Model R).addBinaryVarMatrix n n
  let m := (← pickOnce n cells).foldl (fun m c => (m.addConstraint c).2) m
  return (cells, if feasibility then m else m.setObjective (totalCost n cells) .minimize)

/-- Every row and every column picks one cell; without costs any such choice will do. -/
def assignment (n : Nat) (feasibility : Bool) : Except Error (Problem R) := do
  let (cells, model) ← assignmentModel n feasibility
  return {
    model
    report := fun s => do Report.ofSolution s!"Assignment {n}x{n}" s (← picked s cells) }

/-! ## Knapsack -/

structure Item where
  name : String
  weight : Nat
  value : Nat

def items : List Item :=
  [⟨"map", 9, 150⟩, ⟨"compass", 13, 35⟩, ⟨"water", 15, 200⟩, ⟨"sandwich", 20, 160⟩,
    ⟨"glucose", 15, 60⟩, ⟨"tin", 8, 45⟩]

def knapsack [Numeral R] (capacity : R) : Except Error (Problem R) := do
  let (take, m) := (Model.empty : Model R).addBinaryVarVector items.length
  let weight ← Expr.dot take (items.map fun item => Scalar.ofNat item.weight)
  let (_, m) := m.addConstraint ⟨weight, .lessEqual, .new capacity⟩
  let value ← Expr.dot take (items.map fun item => Scalar.ofNat item.value)
  return {
    model := m.setObjective value .maximize
    report := fun s => Report.ofSolution s!"Knapsack (capacity {Numeral.plain capacity})" s
      ((items.map Item.name).zip take) }

end Demo

end LinearModel
