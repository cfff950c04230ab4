import LinearModel.Exact
import LinearModel.Text.Number

/-!
# Durations

Whole nanoseconds, with less than `2 ^ 64` seconds. A number of seconds becomes the nearest
duration, a tie the even one.
-/

namespace LinearModel

structure Duration where
  nanoseconds : Nat
deriving DecidableEq

namespace Duration

def zero : Duration := ⟨0⟩

def ofParts (seconds nanoseconds : Nat) : Duration :=
  ⟨seconds * Nat.pow 10 9 + nanoseconds⟩

def wholeSeconds (d : Duration) : Nat := d.nanoseconds / Nat.pow 10 9

def subNanoseconds (d : Duration) : Nat := d.nanoseconds % Nat.pow 10 9

/-- Seconds and their fraction, each rounded on its own before they are added. -/
def seconds (d : Duration) : Float :=
  Float.ofNat d.wholeSeconds + Float.ofNat d.subNanoseconds / 1000000000.0

inductive Fault where
  | negative
  | tooBigOrUndefined

def Fault.message : Fault → String
  | negative => "cannot convert float seconds to Duration: value is negative"
  | tooBigOrUndefined =>
    "cannot convert float seconds to Duration: value is either too big or NaN"

def roundHalfEven (q : Rat) : Int :=
  let below := q.floor
  let rest := q - below
  if rest < 1 / 2 then below
  else if 1 / 2 < rest then below + 1
  else if below % 2 = 0 then below else below + 1

def ofSeconds (x : Float) : Except Fault Duration :=
  match Exact.ofFloat x with
  | .undefined | .posInf => .error .tooBigOrUndefined
  | .negInf => .error .negative
  | .finite q =>
    if q < 0 then .error .negative
    else
      let n := (roundHalfEven (q * 1000000000)).toNat
      if n < Nat.pow 2 64 * Nat.pow 10 9 then .ok ⟨n⟩ else .error .tooBigOrUndefined

/-- A whole number and a fraction of `places` digits, without zeros at its end. -/
def decimalText (whole fraction places : Nat) : String :=
  let digits := (toString (Nat.pow 10 places + fraction)).toList.drop 1
  let kept := (digits.reverse.dropWhile (· = '0')).reverse
  if kept.isEmpty then toString whole else s!"{whole}." ++ String.ofList kept

/-- The largest unit of which there is at least one, down to nanoseconds. -/
def text (d : Duration) : String :=
  let n := d.nanoseconds
  if Nat.pow 10 9 ≤ n then decimalText (n / Nat.pow 10 9) (n % Nat.pow 10 9) 9 ++ "s"
  else if Nat.pow 10 6 ≤ n then decimalText (n / Nat.pow 10 6) (n % Nat.pow 10 6) 6 ++ "ms"
  else if Nat.pow 10 3 ≤ n then decimalText (n / Nat.pow 10 3) (n % Nat.pow 10 3) 3 ++ "µs"
  else s!"{n}ns"

end Duration

end LinearModel
