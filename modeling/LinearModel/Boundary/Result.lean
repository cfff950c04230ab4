import LinearModel.Solution

/-!
# Results of a solver

A result says how a solve ended: its code is zero on success, and one value stands for each variable
either way.
-/

namespace LinearModel

namespace Code

def unknownError : Int := -5
def noMemory : Int := -2
def optimal : Int := 0
def suboptimal : Int := 1
def infeasible : Int := 2
def unbounded : Int := 3
def numericFailure : Int := 5
def timeout : Int := 7

/-- Every named code with its name. -/
def named : List (String × Int) :=
  [("UNKNOWN_ERROR", unknownError), ("NO_MEMORY", noMemory), ("OPTIMAL", optimal),
    ("SUBOPTIMAL", suboptimal), ("INFEASIBLE", infeasible), ("UNBOUNDED", unbounded),
    ("NUM_FAILURE", numericFailure), ("TIMEOUT", timeout)]

def names (code : Int) : List String :=
  (named.filter fun (_, c) => c == code).map Prod.fst

end Code

structure RawResult (R : Type) where
  code : Int
  message : String
  objective : R
  optimal : Bool
  gap : R
  values : List R

namespace RawResult

variable {R : Type} [Scalar R]

/-- A success that is proven to be the best. -/
def best (values : List R) (objective : R) : RawResult R :=
  ⟨Code.optimal, "", objective, true, 0, values⟩

/-- A failure, with a zero for each of the variables. -/
def failed (failure : Failure) (numVars : Nat) : RawResult R :=
  ⟨failure.code, failure.message, 0, false, 0, List.replicate numVars 0⟩

instance : BEq (RawResult R) where
  beq a b := a.code == b.code && a.message == b.message && a.objective == b.objective &&
    a.optimal == b.optimal && a.gap == b.gap && a.values == b.values

omit [Scalar R] in
/-- Any code other than zero is a failure, with its message as it is. -/
def toSolution (r : RawResult R) : Except Error (Solution R) :=
  if r.code = Failure.noError then .ok ⟨r.values, r.objective, r.optimal, r.gap⟩
  else .error (.optimize ⟨r.code, r.message⟩)

end RawResult

end LinearModel
