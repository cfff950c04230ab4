import LinearModel.Scalar
import LinearModel.Text.Decimal

/-!
# Numbers in text

Floats are written with the fewest digits that read back, in two layouts. The plain one never uses
an exponent and writes whole numbers without a point. The precise one marks whole numbers by `.0`
and turns to an exponent below `1e-4` and from `1e16` on. `readFloat?` and `readNat?` are the
readers of the command line.
-/

namespace LinearModel.Text

inductive Reading where
  | nan
  | infinite (negative : Bool)
  | zero (negative : Bool)
  | nonzero (negative : Bool) (magnitude : Magnitude)

open Float.Model in
def Reading.ofFloat (x : Float) : Reading :=
  match x.toModel.unpack with
  | .notANumber => .nan
  | .infinity sign => .infinite (sign matches .negative)
  | .zero sign => .zero (sign matches .negative)
  | .finite sign mantissa exponent _ => .nonzero (sign matches .negative) ⟨mantissa, exponent⟩

def zeros (n : Nat) : String :=
  String.ofList (List.replicate n '0')

namespace Decimal

def text (d : Decimal) : String :=
  Nat.repr d.digits

/-- The place of the point, counted from the first digit: the number is `0.ddd * 10 ^ point`. -/
def point (d : Decimal) : Int :=
  d.text.length + d.exponent

def positional (d : Decimal) (whole : String) : String :=
  let digits := d.text.toList
  let p := d.point
  if p ≤ 0 then "0." ++ zeros (-p).toNat ++ d.text
  else if digits.length ≤ p.toNat then d.text ++ zeros (p.toNat - digits.length) ++ whole
  else String.ofList (digits.take p.toNat) ++ "." ++ String.ofList (digits.drop p.toNat)

def scientific (d : Decimal) : String :=
  let (first, rest) := d.text.toList.splitAt 1
  let fraction := if rest.isEmpty then "" else "." ++ String.ofList rest
  String.ofList first ++ fraction ++ "e" ++ toString (d.point - 1)

end Decimal

def signed (negative : Bool) (text : String) : String :=
  if negative then "-" ++ text else text

def plainFloat (x : Float) : String :=
  match Reading.ofFloat x with
  | .nan => "NaN"
  | .infinite negative => signed negative "inf"
  | .zero negative => signed negative "0"
  | .nonzero negative m => signed negative (m.shortest.positional "")

/-- The positional layout holds from `1e-4` up to `1e16`. -/
def preciseFloat (x : Float) : String :=
  match Reading.ofFloat x with
  | .nan => "NaN"
  | .infinite negative => signed negative "inf"
  | .zero negative => signed negative "0.0"
  | .nonzero negative m =>
    let d := m.shortest
    signed negative <|
      if -3 ≤ d.point && d.point ≤ 16 then d.positional ".0" else d.scientific

instance : Numeral Float where
  plain := plainFloat
  precise := preciseFloat

def spanDigits (s : List Char) : List Char × List Char :=
  s.span Char.isDigit

def digitsValue (s : List Char) : Nat :=
  s.foldl (fun n c => 10 * n + (c.toNat - '0'.toNat)) 0

def spanSign : List Char → Bool × List Char
  | '-' :: s => (true, s)
  | '+' :: s => (false, s)
  | s => (false, s)

def readExponent? : List Char → Option Int
  | [] => some 0
  | c :: s =>
    if c = 'e' || c = 'E' then
      let (negative, s) := spanSign s
      let (digits, rest) := spanDigits s
      if digits.isEmpty || !rest.isEmpty then none
      else some (if negative then -digitsValue digits else digitsValue digits)
    else none

def readDecimal? (s : List Char) : Option Decimal :=
  let (whole, s) := spanDigits s
  let (fraction, s) := match s with
    | '.' :: s => spanDigits s
    | s => ([], s)
  if whole.isEmpty && fraction.isEmpty then none
  else (readExponent? s).map fun e => ⟨digitsValue (whole ++ fraction), e - fraction.length⟩

/-- An optional sign before a decimal, `inf`, `infinity` or `nan`; the names in letters of either
case. -/
def readFloat? (s : String) : Option Float :=
  let (negative, s) := spanSign s.toList
  let name := s.map Char.toLower
  let magnitude :=
    if name = "inf".toList || name = "infinity".toList then some (1.0 / 0.0)
    else if name = "nan".toList then some (0.0 / 0.0)
    else (readDecimal? s).map fun d =>
      Float.ofScientific d.digits (d.exponent < 0) d.exponent.natAbs
  magnitude.map fun x => if negative then -x else x

/-- An optional plus sign and at least one digit; at most `2 ^ 64 - 1`. -/
def readNat? (s : String) : Option Nat :=
  let digits := match s.toList with
    | '+' :: s => s
    | s => s
  if digits.isEmpty || !digits.all Char.isDigit then none
  else
    let n := digitsValue digits
    if n < Nat.pow 2 64 then some n else none

end LinearModel.Text
