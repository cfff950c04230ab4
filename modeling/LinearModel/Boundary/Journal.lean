import LinearModel.Boundary.Solver

/-!
# Recording solvers

A recording solver writes every call into a journal and answers with a result that was given to it
beforehand. The journal goes on over all instances of the solver, and counts the instances made and
the instances and results not yet released.
-/

namespace LinearModel

/-- The live counts are integers, so that a release too many would show. -/
structure Journal (R : Type) where
  calls : List (Call R) := []
  created : Nat := 0
  liveInstances : Int := 0
  liveResults : Int := 0

/-- The answer of a recording solver; without one its instances cannot be made. -/
structure Script (R : Type) where
  name : String
  refusal : String
  response : Option (RawResult R)

namespace Journal

variable {R : Type}

def empty : Journal R := {}

def live (j : Journal R) : Int :=
  j.liveInstances + j.liveResults

def record (j : Journal R) (c : Call R) : Journal R :=
  { j with calls := j.calls ++ [c] }

def addInstance (j : Journal R) : Journal R :=
  { j with created := j.created + 1, liveInstances := j.liveInstances + 1 }

def addResult (j : Journal R) : Journal R :=
  { j.record .optimize with liveResults := j.liveResults + 1 }

def dropInstance (j : Journal R) : Journal R :=
  { j with liveInstances := j.liveInstances - 1 }

def dropResult (j : Journal R) : Journal R :=
  { j with liveResults := j.liveResults - 1 }

end Journal

namespace Script

variable {R : Type} [Scalar R]

def create (s : Script R) (j : Journal R) : Except Error (Journal R) :=
  match s.response with
  | none => .error (.backend s.refusal)
  | some _ => .ok j.addInstance

def answer (s : Script R) : RawResult R :=
  s.response.getD (.best [] 0)

def solver (s : Script R) : Solver R (Journal R) where
  name := s.name
  create := s.create
  call := Journal.record
  optimize j := (s.answer, [], j.addResult)
  releaseResult := Journal.dropResult
  releaseInstance := Journal.dropInstance

end Script

end LinearModel
