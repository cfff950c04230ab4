import LinearModel.Scalar
import LinearModel.Text.Shape

/-!
# Variables

A variable is a column number with bounds and a kind. Its number alone says which variable it is.
-/

namespace LinearModel

open Text (Shape)

inductive VarKind where
  | continuous
  | integer
  | binary
deriving DecidableEq

namespace VarKind

/-- The letter that stands for the kind in arrays handed to a solver. -/
def tag : VarKind → UInt8
  | continuous => 'C'.toUInt8
  | integer => 'I'.toUInt8
  | binary => 'B'.toUInt8

def ofTag? (tag : UInt8) : Option VarKind :=
  if tag = continuous.tag then some continuous
  else if tag = integer.tag then some integer
  else if tag = binary.tag then some binary
  else none

@[simp] theorem ofTag?_tag (k : VarKind) : ofTag? k.tag = some k := by
  cases k <;> rfl

/-- Only whole values are allowed. -/
def isIntegral : VarKind → Bool
  | continuous => false
  | integer | binary => true

def name : VarKind → String
  | continuous => "Continuous"
  | integer => "Integer"
  | binary => "Binary"

def ofName? : String → Option VarKind
  | "Continuous" => some continuous
  | "Integer" => some integer
  | "Binary" => some binary
  | _ => none

end VarKind

structure Var (R : Type) where
  id : Nat
  lower : R
  upper : R
  kind : VarKind

namespace Var

variable {R : Type}

instance : BEq (Var R) := ⟨fun a b => a.id == b.id⟩

/-- The number of different variables in a list. -/
def countDistinct (vars : List (Var R)) : Nat :=
  vars.eraseDups.length

instance [Numeral R] : Text.Shaped (Var R) where
  shape v := Shape.record "Var"
    [("id", .nat v.id), ("lower", .leaf (Numeral.precise v.lower)),
      ("upper", .leaf (Numeral.precise v.upper)), ("kind", .leaf v.kind.name)]

end Var

end LinearModel
