import LinearModel.Boundary.Call
import LinearModel.Boundary.Result
import LinearModel.Constraint
import LinearModel.Halt

/-!
# Pending problems

A solver that wants the whole problem at once collects the calls first. Every constraint is reduced:
the terms of its right side are taken from those of its left side, and the constant of its left side
from that of its right side. Of the malformed calls the first is remembered; none of them adds
anything but the variables before a bad kind tag.
-/

namespace LinearModel

structure Column (R : Type) where
  lower : R
  upper : R
  kind : VarKind
deriving DecidableEq

structure ReducedRow (R : Type) where
  terms : Terms R
  sense : Sense
  rhs : R
deriving DecidableEq

structure PendingObjective (R : Type) where
  terms : Terms R
  constant : R
  sense : Direction
deriving DecidableEq

inductive CallFault where
  | misaligned (lower upper kinds : Nat)
  | kindTag (tag : UInt8)
  | senseTag (tag : UInt8)
  | directionTag (tag : Int)
  /-- The first column number in this place that is none of the `count` there are. -/
  | beyondColumns (place : Place) (index count : Nat)
deriving DecidableEq

namespace CallFault

def tagText (tag : UInt8) : String :=
  Text.quotedChar (Char.ofNat tag.toNat)

def message : CallFault → String
  | misaligned lower upper kinds =>
    s!"misaligned variable arrays: {lower} lower bounds, {upper} upper bounds, {kinds} kinds"
  | kindTag tag => s!"unsupported variable kind tag {tagText tag}"
  | senseTag tag => s!"unsupported constraint sense tag {tagText tag}"
  | directionTag tag => s!"unsupported objective sense {tag}"
  | beyondColumns place index count =>
    s!"{place.text} references variable {index} but only {count} variables were added"

def toFailure (f : CallFault) : Failure :=
  ⟨Code.unknownError, f.message⟩

end CallFault

structure Pending (R : Type) where
  showLog : Bool := false
  timeLimit : Option Float := none
  scaling : Option ScaleMode := none
  columns : List (Column R) := []
  rows : List (ReducedRow R) := []
  objective : Option (PendingObjective R) := none
  fault : Option CallFault := none

namespace PendingObjective

variable {R : Type} [Scalar R]

/-- The products of coefficients and values, summed in order from minus zero, and the constant. -/
def evaluate (o : PendingObjective R) (values : List R) : R :=
  o.terms.foldl (fun sum (id, c) => sum + c * values.getD id 0) (-0) + o.constant

/-- The same where the values may be too few: the first of them that is missing halts the run. -/
def evaluate? (o : PendingObjective R) (values : List R) : Except Halt R :=
  match o.terms.find? fun (id, _) => values.length ≤ id with
  | some (id, _) => .error (.outOfBounds values.length id)
  | none => .ok (o.evaluate values)

end PendingObjective

namespace Pending

variable {R : Type}

def empty : Pending R := {}

def numVars (p : Pending R) : Nat :=
  p.columns.length

/-- Remembers a fault unless there was one before. -/
def fail (p : Pending R) (fault : CallFault) : Pending R :=
  { p with fault := p.fault.or (some fault) }

def failure (p : Pending R) : Option Failure :=
  p.fault.map CallFault.toFailure

/-- The columns of bounds and tags side by side, up to the first tag that stands for no kind. -/
def columnsOf : List (R × R × UInt8) → List (Column R) × Option UInt8
  | [] => ([], none)
  | (lower, upper, tag) :: rest =>
    match VarKind.ofTag? tag with
    | none => ([], some tag)
    | some kind =>
      let (columns, bad) := columnsOf rest
      (⟨lower, upper, kind⟩ :: columns, bad)

def addVars (p : Pending R) (lower upper : List R) (kinds : List UInt8) : Pending R :=
  if lower.length ≠ upper.length ∨ lower.length ≠ kinds.length then
    p.fail (.misaligned lower.length upper.length kinds.length)
  else
    let (columns, bad) := columnsOf (lower.zip (upper.zip kinds))
    let p := { p with columns := p.columns ++ columns }
    match bad with
    | none => p
    | some tag => p.fail (.kindTag tag)

def rowFault? (p : Pending R) (place : Place) (row : SparseRow R) : Option CallFault :=
  (row.firstBeyond? p.numVars).map (.beyondColumns place · p.numVars)

def setObjective (p : Pending R) (row : SparseRow R) (sense : Int) : Pending R :=
  match Direction.ofTag? sense with
  | none => p.fail (.directionTag sense)
  | some sense =>
    match p.rowFault? .objective row with
    | some fault => p.fail fault
    | none => { p with objective := some ⟨row.terms, row.constant, sense⟩ }

variable [Scalar R]

/-- Changes the coefficient of every column in `us`, which is zero at first. -/
def combine (f : R → R → R) (ts us : Terms R) : Terms R :=
  us.foldl (fun ts (id, c) => ts.put id (f ((ts.get? id).getD 0) c)) ts

def reduceTerms (lhs rhs : Terms R) : Terms R :=
  (combine (· - ·) (combine (· + ·) [] lhs) rhs).filter fun (_, c) => !(c == 0)

def reduce (lhs rhs : SparseRow R) (sense : Sense) : ReducedRow R :=
  ⟨reduceTerms lhs.terms rhs.terms, sense, rhs.constant - lhs.constant⟩

/-- The sense is looked at first, then the left side, then the right side. -/
def addConstraint (p : Pending R) (lhs rhs : SparseRow R) (sense : UInt8) : Pending R :=
  match Sense.ofTag? sense with
  | none => p.fail (.senseTag sense)
  | some sense =>
    let place := .constraint p.rows.length
    match (p.rowFault? place lhs).or (p.rowFault? place rhs) with
    | some fault => p.fail fault
    | none => { p with rows := p.rows ++ [reduce lhs rhs sense] }

def call (p : Pending R) : Call R → Pending R
  | .showLog value => { p with showLog := value }
  | .timeLimit seconds => { p with timeLimit := some seconds }
  | .scaling mode => { p with scaling := some mode }
  | .addVars lower upper kinds => p.addVars lower upper kinds
  | .addConstraint lhs rhs sense => p.addConstraint lhs rhs sense
  | .setObjective row sense => p.setObjective row sense
  | .optimize => p

def run (p : Pending R) (calls : List (Call R)) : Pending R :=
  calls.foldl call p

def evaluate (p : Pending R) (values : List R) : R :=
  match p.objective with
  | some o => o.evaluate values
  | none => 0

def evaluate? (p : Pending R) (values : List R) : Except Halt R :=
  match p.objective with
  | some o => o.evaluate? values
  | none => .ok 0

end Pending

end LinearModel
