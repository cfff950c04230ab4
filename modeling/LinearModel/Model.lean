import LinearModel.Constraint
import LinearModel.Duration
import LinearModel.Halt
import LinearModel.Scaling

/-!
# Models

A model owns its variables, constraints, objective and solver settings. Variables are numbered from
zero in the order in which they are made, and so are constraints.
-/

namespace LinearModel

open Text (Shape)

/-- What a solver is asked beside the problem. No duration means no time limit. -/
structure Settings where
  showLog : Bool := false
  timeLimit : Duration := .zero
  scaling : Option ScaleMode := none
deriving DecidableEq

structure ConstraintId where
  index : Nat
deriving DecidableEq

structure Model (R : Type) where
  vars : List (Var R) := []
  constraints : List (Constraint R) := []
  objective : Option (Objective R) := none
  settings : Settings := {}

namespace Model

variable {R : Type}

def empty : Model R := {}

def showLog (m : Model R) (value : Bool) : Model R :=
  { m with settings := { m.settings with showLog := value } }

/-- A limit of zero takes the limit away. -/
def setTimeLimit (m : Model R) (limit : Duration) : Model R :=
  { m with settings := { m.settings with timeLimit := limit } }

def setScaling (m : Model R) (mode : ScaleMode) : Model R :=
  { m with settings := { m.settings with scaling := some mode } }

def addConstraint (m : Model R) (c : Constraint R) : ConstraintId × Model R :=
  (⟨m.constraints.length⟩, { m with constraints := m.constraints ++ [c] })

def setObjective (m : Model R) (expr : Expr R) (sense : Direction) : Model R :=
  { m with objective := some ⟨expr, sense⟩ }

def constraint? (m : Model R) (id : ConstraintId) : Option (Constraint R) :=
  m.constraints[id.index]?

/-- Asks for the memory of `rows` lists and of `cols` more variables for each of them. -/
def reserve (m : Model R) (rows cols : Nat) : Except Halt Unit := do
  Halt.reserve rows 24
  if rows ≠ 0 then Halt.reserve (m.vars.length + cols) 32

variable [Scalar R]

/-- Variable number `id`; a binary one always lies between zero and one. -/
def makeVar (id : Nat) (lower upper : R) : VarKind → Var R
  | .binary => ⟨id, 0, 1, .binary⟩
  | kind => ⟨id, lower, upper, kind⟩

def makeVars (start num : Nat) (lower upper : R) (kind : VarKind) : List (Var R) :=
  (List.range' start num).map fun id => makeVar id lower upper kind

def addVarVector (m : Model R) (num : Nat) (lower upper : R) (kind : VarKind) :
    List (Var R) × Model R :=
  let vars := makeVars m.vars.length num lower upper kind
  (vars, { m with vars := m.vars ++ vars })

def addVar (m : Model R) (lower upper : R) (kind : VarKind) : Var R × Model R :=
  let var := makeVar m.vars.length lower upper kind
  (var, { m with vars := m.vars ++ [var] })

/-- The rows are numbered one after the other. -/
def addVarMatrix (m : Model R) (rows cols : Nat) (lower upper : R) (kind : VarKind) :
    List (List (Var R)) × Model R :=
  match rows with
  | 0 => ([], m)
  | rows + 1 =>
    let (first, m) := m.addVarVector cols lower upper kind
    let (rest, m) := m.addVarMatrix rows cols lower upper kind
    (first :: rest, m)

def addBinaryVar (m : Model R) : Var R × Model R :=
  m.addVar 0 1 .binary

def addBinaryVarVector (m : Model R) (num : Nat) : List (Var R) × Model R :=
  m.addVarVector num 0 1 .binary

def addBinaryVarMatrix (m : Model R) (rows cols : Nat) : List (List (Var R)) × Model R :=
  m.addVarMatrix rows cols 0 1 .binary

end Model

instance : Text.Shaped Settings where
  shape s := Shape.record "SolverConfig"
    [("show_log", .bool s.showLog), ("time_limit", .leaf s.timeLimit.text),
      ("scaling", .option (s.scaling.map Text.shape))]

instance : Text.Shaped ConstraintId where
  shape id := Shape.tuple "ConstraintId" [.nat id.index]

instance {R : Type} [Numeral R] : Text.Shaped (Model R) where
  shape m := Shape.record "Model"
    [("vars", .list (m.vars.map Text.shape)), ("constrs", .list (m.constraints.map Text.shape)),
      ("objective", .option (m.objective.map Text.shape)), ("config", Text.shape m.settings)]

end LinearModel
