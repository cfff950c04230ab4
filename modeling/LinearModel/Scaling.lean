import LinearModel.Text.Shape

/-!
# Scaling modes

A mode is a mask of 32 bits: a base algorithm in the lowest three, a weighting in the next two and
any of six flags above them.
-/

namespace LinearModel

structure ScaleMode where
  bits : BitVec 32
deriving DecidableEq

namespace ScaleMode

def ofInt (n : Int) : ScaleMode := ⟨.ofInt 32 n⟩

def toInt (m : ScaleMode) : Int := m.bits.toInt

instance : OrOp ScaleMode := ⟨fun a b => ⟨a.bits ||| b.bits⟩⟩

/-- No scaling. -/
def none : ScaleMode := ⟨0⟩

/-! ## Base algorithms -/

def extreme : ScaleMode := ⟨1⟩
def range : ScaleMode := ⟨2⟩
def mean : ScaleMode := ⟨3⟩
def geometric : ScaleMode := ⟨4⟩
def curtisReid : ScaleMode := ⟨7⟩

/-! ## Weightings -/

def linear : ScaleMode := ⟨0⟩
def quadratic : ScaleMode := ⟨8⟩
def logarithmic : ScaleMode := ⟨16⟩
def userWeight : ScaleMode := ⟨31⟩

/-! ## Flags -/

def powerOfTwo : ScaleMode := ⟨32⟩
def equilibrate : ScaleMode := ⟨64⟩
def integers : ScaleMode := ⟨128⟩
def dynamicUpdate : ScaleMode := ⟨256⟩
def rowsOnly : ScaleMode := ⟨512⟩
def columnsOnly : ScaleMode := ⟨1024⟩

/-! ## Common combinations -/

def equilibratedModel : ScaleMode := extreme ||| integers
def geometricModel : ScaleMode := geometric ||| integers
def arithmeticModel : ScaleMode := mean ||| integers
def dynamicModel : ScaleMode := geometricModel ||| equilibrate
def curtisReidModel : ScaleMode := curtisReid ||| integers ||| powerOfTwo

/-- Every named mode with its name. -/
def named : List (String × ScaleMode) :=
  [("NONE", none), ("EXTREME", extreme), ("RANGE", range), ("MEAN", mean),
    ("GEOMETRIC", geometric), ("CURTIS_REID", curtisReid), ("LINEAR", linear),
    ("QUADRATIC", quadratic), ("LOGARITHMIC", logarithmic), ("USER_WEIGHT", userWeight),
    ("POWER2", powerOfTwo), ("EQUILIBRATE", equilibrate), ("INTEGERS", integers),
    ("DYN_UPDATE", dynamicUpdate), ("ROWS_ONLY", rowsOnly), ("COLS_ONLY", columnsOnly),
    ("MODEL_EQUILIBRATED", equilibratedModel), ("MODEL_GEOMETRIC", geometricModel),
    ("MODEL_ARITHMETIC", arithmeticModel), ("MODEL_DYNAMIC", dynamicModel),
    ("MODEL_CURTIS_REID", curtisReidModel)]

/-- The lowest three bits. -/
def algorithm (m : ScaleMode) : ScaleMode := ⟨m.bits &&& 7⟩

/-- Every bit of `flag` is set. -/
def contains (m flag : ScaleMode) : Bool := m.bits &&& flag.bits == flag.bits

def text (m : ScaleMode) : String := s!"ScaleMode({m.toInt})"

instance : Text.Shaped ScaleMode := ⟨fun m => .leaf m.text⟩

end ScaleMode

end LinearModel
