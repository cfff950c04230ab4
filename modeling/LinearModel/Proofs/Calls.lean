import Mathlib.Data.List.Basic
import LinearModel.Boundary.Pending

/-!
# Well-formed calls

A call is malformed beside the columns that are there when it is made. A pending problem accepts a
list of calls if none of them is malformed when its turn comes, and then it is extended by what the
calls bring: columns, rows and an objective, in their order, and no fault.
-/

namespace LinearModel

variable {R : Type}

namespace Call

/-- Arrays of different lengths, a tag without a meaning, or a column number not below `n`. -/
def Malformed (n : Nat) : Call R → Prop
  | addVars lower upper kinds =>
    lower.length ≠ upper.length ∨ lower.length ≠ kinds.length ∨
      ∃ tag ∈ kinds, VarKind.ofTag? tag = none
  | addConstraint lhs rhs sense =>
    Sense.ofTag? sense = none ∨ (∃ i ∈ lhs.indices, n ≤ i) ∨ ∃ i ∈ rhs.indices, n ≤ i
  | setObjective row sense => Direction.ofTag? sense = none ∨ ∃ i ∈ row.indices, n ≤ i
  | _ => False

/-- The columns that a call brings. -/
def columns : Call R → List (Column R)
  | addVars lower upper kinds =>
    (lower.zip (upper.zip kinds)).filterMap fun (lower, upper, tag) =>
      (VarKind.ofTag? tag).map (⟨lower, upper, ·⟩)
  | _ => []

def row? [Scalar R] : Call R → Option (ReducedRow R)
  | addConstraint lhs rhs sense => (Sense.ofTag? sense).map (Pending.reduce lhs rhs)
  | _ => none

def objective? : Call R → Option (PendingObjective R)
  | setObjective row sense =>
    (Direction.ofTag? sense).map (⟨row.terms, row.constant, ·⟩)
  | _ => none

end Call

theorem SparseRow.firstBeyond?_eq_none_iff {row : SparseRow R} {n : Nat} :
    row.firstBeyond? n = none ↔ ∀ i ∈ row.indices, i < n := by
  simp [SparseRow.firstBeyond?]

namespace Pending

theorem rowFault?_eq_none_iff {p : Pending R} {place : Place} {row : SparseRow R} :
    p.rowFault? place row = none ↔ ∀ i ∈ row.indices, i < p.numVars := by
  rw [rowFault?, Option.map_eq_none_iff, SparseRow.firstBeyond?_eq_none_iff]

/-- Without a bad tag every pair of bounds becomes a column. -/
theorem columnsOf_eq {items : List (R × R × UInt8)}
    (h : ∀ item ∈ items, VarKind.ofTag? item.2.2 ≠ none) :
    columnsOf items = (items.filterMap fun (lower, upper, tag) =>
      (VarKind.ofTag? tag).map (⟨lower, upper, ·⟩), none) := by
  induction items with
  | nil => rfl
  | cons item items ih =>
    obtain ⟨lower, upper, tag⟩ := item
    have htag : VarKind.ofTag? tag ≠ none := h _ List.mem_cons_self
    obtain ⟨kind, hkind⟩ := Option.ne_none_iff_exists'.mp htag
    rw [columnsOf, hkind, ih fun item hitem => h item (List.mem_cons_of_mem _ hitem)]
    simp [hkind]

theorem run_append [Scalar R] (p : Pending R) (calls more : List (Call R)) :
    p.run (calls ++ more) = (p.run calls).run more :=
  List.foldl_append

/-- What well-formed calls make of a pending problem. -/
structure Extends [Scalar R] (p q : Pending R) (calls : List (Call R)) : Prop where
  columns : q.columns = p.columns ++ calls.flatMap Call.columns
  rows : q.rows = p.rows ++ calls.filterMap Call.row?
  objective : q.objective = (calls.filterMap Call.objective?).getLast?.or p.objective
  fault : q.fault = p.fault

variable [Scalar R]

theorem Extends.refl (p : Pending R) : p.Extends p [] :=
  ⟨by simp, by simp, by simp, rfl⟩

theorem Extends.trans {p q r : Pending R} {calls more : List (Call R)} (hpq : p.Extends q calls)
    (hqr : q.Extends r more) : p.Extends r (calls ++ more) where
  columns := by rw [hqr.columns, hpq.columns, List.flatMap_append, List.append_assoc]
  rows := by rw [hqr.rows, hpq.rows, List.filterMap_append, List.append_assoc]
  objective := by
    rw [hqr.objective, hpq.objective, List.filterMap_append, List.getLast?_append,
      Option.or_assoc]
  fault := by rw [hqr.fault, hpq.fault]

theorem addVars_extends {p : Pending R} {lower upper : List R} {kinds : List UInt8}
    (h : ¬(Call.addVars lower upper kinds).Malformed p.numVars) :
    p.Extends (p.addVars lower upper kinds) [.addVars lower upper kinds] := by
  simp only [Call.Malformed, not_or, not_exists, not_and, ne_eq, not_not] at h
  obtain ⟨hupper, hkinds, htags⟩ := h
  have hitems : ∀ item ∈ lower.zip (upper.zip kinds), VarKind.ofTag? item.2.2 ≠ none :=
    fun item hitem => htags _ (List.of_mem_zip (List.of_mem_zip hitem).2).2
  have haligned : ¬(lower.length ≠ upper.length ∨ lower.length ≠ kinds.length) := by omega
  rw [addVars, if_neg haligned, columnsOf_eq hitems]
  exact ⟨by simp [Call.columns], by simp [Call.row?], by simp [Call.objective?], rfl⟩

theorem addConstraint_extends {p : Pending R} {lhs rhs : SparseRow R} {sense : UInt8}
    (h : ¬(Call.addConstraint lhs rhs sense).Malformed p.numVars) :
    p.Extends (p.addConstraint lhs rhs sense) [.addConstraint lhs rhs sense] := by
  simp only [Call.Malformed, not_or, not_exists, not_and, Nat.not_le] at h
  obtain ⟨hsense, hlhs, hrhs⟩ := h
  obtain ⟨s, hs⟩ := Option.ne_none_iff_exists'.mp hsense
  simp only [addConstraint, hs, rowFault?_eq_none_iff.mpr hlhs, rowFault?_eq_none_iff.mpr hrhs,
    Option.or_none]
  exact ⟨by simp [Call.columns], by simp [Call.row?, hs], by simp [Call.objective?], rfl⟩

theorem setObjective_extends {p : Pending R} {row : SparseRow R} {sense : Int}
    (h : ¬(Call.setObjective row sense).Malformed p.numVars) :
    p.Extends (p.setObjective row sense) [.setObjective row sense] := by
  simp only [Call.Malformed, not_or, not_exists, not_and, Nat.not_le] at h
  obtain ⟨hsense, hrow⟩ := h
  obtain ⟨s, hs⟩ := Option.ne_none_iff_exists'.mp hsense
  simp only [setObjective, hs, rowFault?_eq_none_iff.mpr hrow]
  exact ⟨by simp [Call.columns], by simp [Call.row?], by simp [Call.objective?, hs], rfl⟩

theorem call_extends {p : Pending R} {c : Call R} (h : ¬c.Malformed p.numVars) :
    p.Extends (p.call c) [c] := by
  cases c with
  | addVars lower upper kinds => exact addVars_extends h
  | addConstraint lhs rhs sense => exact addConstraint_extends h
  | setObjective row sense => exact setObjective_extends h
  | showLog _ | timeLimit _ | scaling _ | optimize =>
    exact ⟨by simp [call, Call.columns], by simp [call, Call.row?],
      by simp [call, Call.objective?], rfl⟩

/-- No call is malformed when it is made. -/
def Accepts (p : Pending R) : List (Call R) → Prop
  | [] => True
  | c :: calls => ¬c.Malformed p.numVars ∧ (p.call c).Accepts calls

theorem Accepts.run_extends {p : Pending R} {calls : List (Call R)} (h : p.Accepts calls) :
    p.Extends (p.run calls) calls := by
  induction calls generalizing p with
  | nil => exact Extends.refl p
  | cons c calls ih => exact (call_extends h.1).trans (ih h.2)

end Pending

end LinearModel
