import LinearModel.Solve.BuiltIn

/-!
# Choice of a backend

A backend is named by an option, or else by the environment, or else it is the built-in engine.
Names are read without regard to case. Two more backends are known by name but cannot be had.
-/

namespace LinearModel

inductive Backend where
  | builtIn
deriving DecidableEq

inductive BackendFault where
  | gurobiDisabled
  | cbcDisabled
  | unknownName (name : String)

def BackendFault.message : BackendFault → String
  | gurobiDisabled => "Gurobi solver requested but gurobi feature not enabled"
  | cbcDisabled => "Coin CBC solver requested but coin_cbc feature not enabled"
  | unknownName name =>
    s!"Invalid solver '{name}'. Valid options: gurobi, coin_cbc, microlp"

def BackendFault.toError (f : BackendFault) : Error :=
  .backend f.message

inductive EnvValue where
  | unset
  | text (value : String)
  /-- Set, but not to text. -/
  | unreadable

namespace Backend

def envName : String := "LPMODEL_SOLVER"

def name : Backend → String
  | builtIn => Engine.name

/-- The names hold ASCII letters only, and no other letter has one of theirs as its lower case. -/
def ofName (name : String) : Except BackendFault Backend :=
  match name.toLower with
  | "gurobi" => .error .gurobiDisabled
  | "coin_cbc" | "coin-cbc" | "cbc" => .error .cbcDisabled
  | "microlp" => .ok builtIn
  | _ => .error (.unknownName name)

def default : Backend := builtIn

/-- A value that is not text counts as unset. -/
def ofEnv : EnvValue → Except BackendFault Backend
  | .text value => ofName value
  | .unset | .unreadable => .ok default

/-- A name given by an option goes before the environment. -/
def choose (option : Option String) (env : EnvValue) : Except BackendFault Backend :=
  match option with
  | some name => ofName name
  | none => ofEnv env

def optimize (b : Backend) (m : Model Float) : Except Error (Solution Float) × Log :=
  match b with
  | builtIn =>
    let outcome := Engine.solver.run m .empty
    (outcome.result, outcome.log)

def backendField (b : Backend) : String × String :=
  ("backend", Text.quoted b.name)

instance : Text.Shaped Backend where
  shape
    | builtIn => .leaf "Microlp"

end Backend

def Model.optimizeBy (solve : Backend → Model Float → Except Error (Solution Float) × Log)
    (m : Model Float) (env : EnvValue) : Except Error (Solution Float) × Log :=
  match Backend.ofEnv env with
  | .error fault => (.error fault.toError, [])
  | .ok backend =>
    let selected : Event :=
      { level := .debug, target := "lpmodel::model", message := "selected solver backend"
        fields := [backend.backendField] }
    let (result, log) := solve backend m
    (result, selected :: log)

def Model.optimize (m : Model Float) (env : EnvValue) : Except Error (Solution Float) × Log :=
  m.optimizeBy Backend.optimize env

end LinearModel
