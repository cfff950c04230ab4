import LinearModel.Backend
import LinearModel.Command.Run

/-!
# Walkthroughs

Two programs that build models, solve them with the backend that the environment names and print
what they find.
-/

namespace LinearModel.Walkthrough

open Text (plainFloat)

/-- Prints `lines`, and after them what `rest` gives: more lines, or a text for the error stream. -/
def transcript (lines : List String) (rest : Except String (List String)) : Transcript :=
  let print (lines : List String) := String.join (lines.map (· ++ "\n"))
  match rest with
  | .ok more => { stdout := print (lines ++ more) }
  | .error text => { stdout := print lines, stderr := s!"Error: {text}\n", code := 1 }

/-! ## Ways to build a constraint -/

def constraintLine (c : Constraint Float) (i : Nat) : String :=
  s!"  c{i}: {c.display}"

def constraintBuilding (env : EnvValue) : Transcript :=
  let (x, m) := (Model.empty : Model Float).addVar 0.0 (1.0 / 0.0) .continuous
  let (y, m) := m.addVar 0.0 (1.0 / 0.0) .continuous
  let ex := Expr.ofVar x
  let ey := Expr.ofVar y
  let (_, m) := m.addConstraint
    ⟨(ex.scale 2.0).plus (ey.scale 3.0), .lessEqual, .new 100.0⟩
  let (_, m) := m.addConstraint ⟨ex.minus ey, .greaterEqual, .new 5.0⟩
  let (balance, m) := m.addConstraint ⟨ex.plus ey, .equal, .new 50.0⟩
  let (_, m) := m.addConstraint ⟨ex, .greaterEqual, ey.minus (.new 20.0)⟩
  let shown := ["Constraints:"] ++ m.constraints.zipIdx.map (fun (c, i) => constraintLine c i) ++
    ((m.constraint? balance).map fun c =>
      s!"Balance constraint is c{balance.index}: {c.display}").toList
  let m := m.setObjective (ex.plus (ey.scale 2.0)) .maximize
  let found : Except Error (List String) := do
    let s ← (m.optimize env).1
    let a ← s.value x
    let b ← s.value y
    return ["", "Solution:", s!"Objective value: {plainFloat s.objective}",
      s!"x = {plainFloat a}", s!"y = {plainFloat b}", "", "Constraint verification:",
      s!"2x + 3y = {plainFloat (2.0 * a + 3.0 * b)} (should be <= 100)",
      s!"x - y = {plainFloat (a - b)} (should be >= 5)",
      s!"x + y = {plainFloat (a + b)} (should be == 50)"]
  transcript shown (found.mapError Error.message)

/-! ## Two models side by side -/

def production : (Var Float × Var Float) × Model Float :=
  let (widgets, m) := (Model.empty : Model Float).addVar 0.0 1000.0 .continuous
  let (gadgets, m) := m.addVar 0.0 500.0 .continuous
  let w := Expr.ofVar widgets
  let g := Expr.ofVar gadgets
  let (_, m) := m.addConstraint ⟨w.plus (g.scale 2.0), .lessEqual, .new 1200.0⟩
  let (_, m) := m.addConstraint ⟨(w.scale 0.5).plus g, .lessEqual, .new 400.0⟩
  ((widgets, gadgets), m.setObjective ((w.scale 50.0).plus (g.scale 80.0)) .maximize)

def logistics : (Var Float × Var Float) × Model Float :=
  let (trucks, m) := (Model.empty : Model Float).addVar 0.0 10.0 .integer
  let (routes, m) := m.addVar 0.0 20.0 .integer
  let t := Expr.ofVar trucks
  let r := Expr.ofVar routes
  let (_, m) := m.addConstraint ⟨t, .lessEqual, .new 8.0⟩
  let (_, m) := m.addConstraint ⟨r.minus (t.scale 3.0), .lessEqual, .new 0.0⟩
  let (_, m) := m.addConstraint ⟨r, .greaterEqual, .new 10.0⟩
  ((trucks, routes), m.setObjective ((t.scale 100.0).plus (r.scale 20.0)) .minimize)

/-- Solves both models, one after the other. An error shows its cause in full. -/
def twoModels (env : EnvValue) : Transcript :=
  let ((widgets, gadgets), p) := production
  let plan : Except Error (List String) := do
    let s ← (p.optimize env).1
    return [s!"Production: {plainFloat (← s.value widgets)} widgets, " ++
        s!"{plainFloat (← s.value gadgets)} gadgets",
      s!"  profit {plainFloat s.objective}"]
  let ((trucks, routes), l) := logistics
  let fleet : Except Error (List String) := do
    let s ← (l.optimize env).1
    return [s!"Logistics: {plainFloat (← s.value trucks)} trucks, " ++
        s!"{plainFloat (← s.value routes)} routes",
      s!"  cost {plainFloat s.objective}"]
  let describe (e : Error) := (Text.shape e).inline
  match plan with
  | .error e => transcript [] (.error (describe e))
  | .ok lines => transcript lines (fleet.mapError describe)

end LinearModel.Walkthrough
