import LinearModel.Solve.Tableau

/-!
# The simplex method with bounded variables

A search for the least cost repairs the basic variables that lie outside their intervals and then
lowers the cost. Where several variables could stop a move, those that do so within the tolerance
compete, and the one of greatest coefficient wins, which keeps rounding errors small.
-/

namespace LinearModel

/-- The first number below `n` of greatest score; those without a score do not count. -/
def best? (n : Nat) (score : Nat → Option Float) : Option Nat :=
  ((List.range n).foldl (fun best i =>
    match score i with
    | none => best
    | some s =>
      match best with
      | none => some (i, s)
      | some (_, least) => if s > least then some (i, s) else best) none).map Prod.fst

def leastOf (xs : List Float) : Float :=
  xs.foldl (fun least x => if x < least then x else least) infinity

namespace Tableau

/-! ## Repair -/

def rowNorm (t : Tableau) (row : Nat) : Float :=
  let n := t.free.size
  let own := if n ≤ t.basicAt row then 1 else 0
  (List.range n).foldl (fun sum col =>
    if n ≤ t.freeAt col then sum + t.cell row col * t.cell row col else sum) own

def violated? (t : Tableau) : Option Nat :=
  best? t.basic.size fun row =>
    let v := t.basicAt row
    let excess := (t.range v).excess (t.value v)
    if excess == 0 then none else some (excess * excess / t.rowNorm row)

/-- The free variable of a column can move the basic one of a row up, or down if `rising` is
false. -/
def helps (t : Tableau) (row : Nat) (rising : Bool) (col : Nat) : Bool :=
  let c := t.cell row col
  if c.abs < tolerance then false else t.canMove col ((c > 0) != rising)

/-- How much the cost would grow if the free variable of a column moved the only way it can. A rate
at which the cost would fall counts as zero. -/
def penalty (t : Tableau) (col : Nat) : Float :=
  let rate := t.rate col
  if t.canMove col (rate < 0) then 0 else rate.abs

/-- The column that takes the place of a row's variable, such that no rate changes its sign. -/
def substitute? (t : Tableau) (row : Nat) (rising : Bool) : Option Nat :=
  let cols := (List.range t.free.size).filter (t.helps row rising)
  let size (col : Nat) := (t.cell row col).abs
  let limit := leastOf (cols.map fun col => (t.penalty col + tolerance) / size col)
  best? t.free.size fun col =>
    if t.helps row rising col && t.penalty col / size col ≤ limit then some (size col) else none

def settled? (t : Tableau) : Option Tableau :=
  if t.refreshed.violated?.isNone then some t.refreshed else none

def repair : (fuel : Nat) → Tableau → Option Tableau
  | 0, _ => none
  | fuel + 1, t =>
    match t.violated? with
    | none => some t
    | some row =>
      let v := t.basicAt row
      let x := (t.range v).nearEnd (t.value v)
      match t.substitute? row (t.value v < x) with
      | none => t.settled?
      | some col => repair fuel (t.exchange row col x)

/-! ## Descent -/

def colNorm (t : Tableau) (col : Nat) : Float :=
  t.cells.foldl (fun sum row => let c := row.getD col 0; sum + c * c) 1

def improving? (t : Tableau) : Option Nat :=
  best? t.free.size fun col =>
    let rate := t.rate col
    if rate.abs < tolerance || !t.canMove col (rate < 0) then none
    else some (rate * rate / t.colNorm col)

def pulls (t : Tableau) (row col : Nat) (rising : Bool) : Bool :=
  (t.cell row col > 0) != rising

def roomFor? (t : Tableau) (row col : Nat) (rising : Bool) : Option Float :=
  let v := t.basicAt row
  let room := (t.range v).room (t.value v) (t.pulls row col rising)
  if (t.cell row col).abs < tolerance || !room.isFinite then none else some room

def stop? (t : Tableau) (col : Nat) (rising : Bool) (limit : Float) : Option Nat :=
  let size (row : Nat) := (t.cell row col).abs
  let ways := (List.range t.basic.size).filterMap fun row =>
    (t.roomFor? row col rising).map fun room => (room + tolerance) / size row
  let limit := leastOf (limit :: ways)
  best? t.basic.size fun row =>
    match t.roomFor? row col rising with
    | none => none
    | some room => if room / size row ≤ limit then some (size row) else none

/-- Lowers the cost as far as it goes; nothing if it goes on without end. -/
def descend : (fuel : Nat) → Tableau → Option Tableau
  | 0, t => some t
  | fuel + 1, t =>
    match t.improving? with
    | none => some t
    | some col =>
      let v := t.freeAt col
      let rising : Bool := t.rate col < 0
      let x := t.value v
      let other := if rising then (t.range v).upper else (t.range v).lower
      match t.stop? col rising (other - x).abs with
      | some row =>
        let b := t.basicAt row
        let i := t.range b
        descend fuel (t.exchange row col (if t.pulls row col rising then i.upper else i.lower))
      | none => if other.isInf then none else descend fuel (t.move col other (other - x))

def stepLimit (t : Tableau) : Nat :=
  100 * (t.basic.size + t.free.size) + 1000

def stillRates (t : Tableau) : Array Float :=
  t.free.map fun v =>
    let i := t.range v
    if i.lower == i.upper then 0
    else if t.value v == i.lower then 1
    else if t.value v == i.upper then -1
    else 0

/-- Brings the basic variables into their intervals. If the cost could still fall, it is left aside
until they are. -/
def admissible (t : Tableau) (cost : Array Float) : Option Tableau :=
  if t.violated?.isSome && t.improving?.isSome then
    ({ t with rates := t.stillRates }.repair t.stepLimit).map (withCost · cost)
  else t.repair t.stepLimit

end Tableau

inductive Relaxed where
  | infeasible
  | unbounded (start : Tableau)
  | attained (table : Tableau)

def Tableau.relaxed (t : Tableau) (cost : Array Float) : Relaxed :=
  match t.admissible cost with
  | none => .infeasible
  | some t =>
    match t.descend t.stepLimit with
    | none => .unbounded t
    | some t => .attained t

end LinearModel
