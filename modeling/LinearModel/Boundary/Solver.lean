import LinearModel.Boundary.FlatModel
import LinearModel.Boundary.Pending
import LinearModel.Log

/-!
# Solvers

A solver answers calls out of a state of its own. `Solver.run` solves a model with it: the model is
flattened, an instance is made, told the problem and asked to optimize, and then the result and the
instance are released in that order.
-/

namespace LinearModel

structure Solver (R S : Type) where
  name : String
  create : S → Except Error S
  call : S → Call R → S
  /-- Asks for a result, which is held until it is released. -/
  optimize : S → RawResult R × Log × S
  releaseResult : S → S := id
  releaseInstance : S → S := id
  createLog : Log := []
  releaseLog : Log := []

structure Outcome (R S : Type) where
  result : Except Error (Solution R)
  log : Log := []
  state : S

namespace Solver

variable {R S : Type}

def marshaledEvent (name : String) (f : FlatModel R) : Event where
  level := .debug
  target := "lpmodel::model"
  message := "marshaled model"
  fields := [Event.solverField name, ("vars", toString f.numVars),
    ("constraints", toString f.constraints.length),
    ("has_objective", toString f.objective.isSome)]

def run (s : Solver R S) (m : Model R) (state : S) : Outcome R S :=
  match m.flatten with
  | .error fault => { result := .error fault.toError, state }
  | .ok flat =>
    let marshaled := marshaledEvent s.name flat
    match s.create state with
    | .error error => { result := .error error, log := [marshaled], state }
    | .ok state =>
      let state := (flat.calls m.settings).foldl s.call state
      let (raw, log, state) := s.optimize state
      { result := raw.toSolution
        log := marshaled :: s.createLog ++ log ++ s.releaseLog
        state := s.releaseInstance (s.releaseResult state) }

/-- Solves a pending problem without malformed calls, and answers any other with its first fault. -/
def answer [Scalar R] (solve : Pending R → RawResult R × Log) (p : Pending R) :
    RawResult R × Log :=
  match p.failure with
  | some failure => (.failed failure p.numVars, [])
  | none => solve p

def buffered [Scalar R] (name : String) (solve : Pending R → RawResult R × Log) :
    Solver R (Pending R) where
  name
  create _ := .ok .empty
  call := Pending.call
  optimize p :=
    let (raw, log) := answer solve p
    (raw, log, p)
  createLog := [instanceEvent "created solver instance"]
  releaseLog := [instanceEvent "released solver instance"]
where
  instanceEvent (message : String) : Event :=
    { level := .trace, target := "lpmodel::solver::pending", message
      fields := [Event.solverField name] }

end Solver

end LinearModel
