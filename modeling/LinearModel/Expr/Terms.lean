import LinearModel.Scalar

/-!
# Terms

The terms of a linear expression: coefficients by variable number, in ascending order, none of which
compares equal to zero. Adding to a coefficient drops the term when the sum compares equal to zero,
and leaves the coefficients of all other variables alone.
-/

namespace LinearModel

abbrev Terms (R : Type) := List (Nat × R)

namespace Terms

variable {R : Type}

def get? (id : Nat) : Terms R → Option R
  | [] => none
  | (i, c) :: ts => if i = id then some c else get? id ts

/-- Sets a coefficient, at the place that keeps the order. -/
def put (id : Nat) (c : R) : Terms R → Terms R
  | [] => [(id, c)]
  | (i, d) :: ts =>
    if id < i then (id, c) :: (i, d) :: ts
    else if id = i then (id, c) :: ts
    else (i, d) :: put id c ts

def drop (id : Nat) : Terms R → Terms R
  | [] => []
  | (i, d) :: ts => if i = id then ts else (i, d) :: drop id ts

@[simp] theorem get?_put_self (id : Nat) (c : R) (ts : Terms R) :
    get? id (put id c ts) = some c := by
  induction ts with
  | nil => simp [put, get?]
  | cons t ts ih =>
    obtain ⟨i, d⟩ := t
    simp only [put]
    split
    · simp [get?]
    · split
      · simp [get?]
      · rename_i h
        simp [get?, Ne.symm h, ih]

theorem get?_put_of_ne {id j : Nat} (h : j ≠ id) (c : R) (ts : Terms R) :
    get? j (put id c ts) = get? j ts := by
  induction ts with
  | nil => simp [put, get?, h.symm]
  | cons t ts ih =>
    obtain ⟨i, d⟩ := t
    simp only [put]
    split
    · simp [get?, h.symm]
    · split
      · rename_i hi
        simp [get?, ← hi, h.symm]
      · simp [get?, ih]

theorem get?_drop_of_ne {id j : Nat} (h : j ≠ id) (ts : Terms R) :
    get? j (drop id ts) = get? j ts := by
  induction ts with
  | nil => rfl
  | cons t ts ih =>
    obtain ⟨i, d⟩ := t
    simp only [drop]
    split
    · rename_i hi
      simp [get?, hi, h.symm]
    · simp [get?, ih]

variable [Scalar R]

def add (id : Nat) (c : R) (ts : Terms R) : Terms R :=
  let sum := (ts.get? id).getD 0 + c
  if sum == 0 then ts.drop id else ts.put id sum

/-- Adds every term of `us` in turn. -/
def merge (ts us : Terms R) : Terms R :=
  us.foldl (fun ts (id, c) => ts.add id c) ts

/-- Multiplies every coefficient and drops the products that compare equal to zero. -/
def scale (k : R) (ts : Terms R) : Terms R :=
  (ts.map fun (id, c) => (id, c * k)).filter fun (_, c) => !(c == 0)

/-- The sum of the terms at a point. -/
def value (ts : Terms R) (x : Nat → R) : R :=
  (ts.map fun (id, c) => c * x id).sum

theorem get?_add_of_ne {id j : Nat} (h : j ≠ id) (c : R) (ts : Terms R) :
    (ts.add id c).get? j = ts.get? j := by
  simp only [add]
  split
  · exact get?_drop_of_ne h ts
  · exact get?_put_of_ne h _ ts

protected def beq : Terms R → Terms R → Bool
  | [], [] => true
  | (i, c) :: ts, (j, d) :: us => i == j && c == d && Terms.beq ts us
  | _, _ => false

end Terms

end LinearModel
