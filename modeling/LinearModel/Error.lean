import LinearModel.Text.Quoted
import LinearModel.Text.Shape

/-!
# Errors

What can go wrong while a model is built or solved. A solver's own failure carries a code, and two
such failures are the same error when their codes agree, whatever their messages.
-/

namespace LinearModel

open Text (Shape)

inductive Axis where
  | row
  | column
  | var
deriving DecidableEq

namespace Axis

def name : Axis → String
  | row => "row"
  | column => "column"
  | var => "variable"

def ofName? : String → Option Axis
  | "row" => some row
  | "column" => some column
  | "variable" => some var
  | _ => none

end Axis

structure Failure where
  code : Int
  message : String

namespace Failure

def noError : Int := 0

def text (f : Failure) : String :=
  s!"[Code = {f.code}] {f.message}"

instance : BEq Failure := ⟨fun a b => a.code == b.code⟩

instance : Text.Shaped Failure where
  shape f := Shape.record "OptimizeError"
    [("code", .int f.code), ("message", .leaf (Text.quoted f.message))]

end Failure

inductive Error where
  | invalidModel (message : String)
  | shapeMismatch (vars coeffs : Nat)
  | indexOutOfRange (what : Axis) (index len : Nat)
  | optimize (failure : Failure)
  | backend (message : String)

namespace Error

def message : Error → String
  | invalidModel message => s!"invalid model: {message}"
  | shapeMismatch vars coeffs => s!"shape mismatch: {vars} variables but {coeffs} coefficients"
  | indexOutOfRange what index len => s!"{what.name} index {index} out of range (len {len})"
  | optimize failure => failure.text
  | backend message => s!"solver backend: {message}"

/-- Failures of a solver agree by their codes, all other errors by everything they say. -/
protected def beq : Error → Error → Bool
  | invalidModel a, invalidModel b => a == b
  | shapeMismatch v c, shapeMismatch v' c' => v == v' && c == c'
  | indexOutOfRange w i n, indexOutOfRange w' i' n' => w == w' && i == i' && n == n'
  | optimize a, optimize b => a == b
  | backend a, backend b => a == b
  | _, _ => false

instance : BEq Error := ⟨Error.beq⟩

def failure? : Error → Option Failure
  | optimize failure => some failure
  | _ => none

/-- The failure `f`, whatever its message. -/
def isFailure (f : Failure) (e : Error) : Bool :=
  match e.failure? with
  | some g => g == f
  | none => false

instance : Text.Shaped Error where
  shape
    | invalidModel message => Shape.tuple "InvalidModel" [.leaf (Text.quoted message)]
    | shapeMismatch vars coeffs =>
      Shape.record "ShapeMismatch" [("vars", .nat vars), ("coeffs", .nat coeffs)]
    | indexOutOfRange what index len =>
      Shape.record "IndexOutOfRange"
        [("what", .leaf (Text.quoted what.name)), ("index", .nat index), ("len", .nat len)]
    | optimize failure => Shape.tuple "Optimize" [Text.shape failure]
    | backend message => Shape.tuple "Backend" [.leaf (Text.quoted message)]

end Error

end LinearModel
