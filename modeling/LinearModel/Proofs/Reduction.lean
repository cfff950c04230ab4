import Mathlib.Tactic.Linarith
import LinearModel.Proofs.Exact

/-!
# Reduced rows

The value of a reduced row is the value of the left terms less that of the right ones: over the
rationals by the way in which coefficients are put together, and over finite numbers because the
same steps are made there. A constraint holds where its reduced row holds.
-/

namespace LinearModel

namespace Terms

open Pending (combine reduceTerms)

theorem Ascending.combine {R : Type} [Scalar R] {ts : Terms R} (h : ts.Ascending) (g : R → R → R)
    (us : Terms R) : (Pending.combine g ts us).Ascending := by
  induction us generalizing ts with
  | nil => exact h
  | cons u us ih => exact ih (h.put u.1 _)

theorem ascending_reduceTerms {R : Type} [Scalar R] (lhs rhs : Terms R) :
    (reduceTerms lhs rhs).Ascending :=
  ((ascending_nil.combine (· + ·) lhs).combine (· - ·) rhs).filter _

/-- Coefficients that change by multiples change the value by the same multiple. -/
theorem value_combine (x : Nat → Rat) {g : Rat → Rat → Rat} {k : Rat}
    (hg : ∀ a c, g a c = a + k * c) {ts : Terms Rat} (h : ts.Ascending) (us : Terms Rat) :
    (combine g ts us).value x = ts.value x + k * us.value x := by
  induction us generalizing ts with
  | nil => simp [combine]
  | cons u us ih =>
    obtain ⟨i, c⟩ := u
    have hstep : combine g ts ((i, c) :: us) =
        combine g (ts.put i (g ((ts.get? i).getD 0) c)) us := rfl
    rw [hstep, ih (h.put i _), value_put x h, value_cons, hg]
    ring

theorem value_reduceTerms (x : Nat → Rat) (lhs rhs : Terms Rat) :
    (reduceTerms lhs rhs).value x = lhs.value x - rhs.value x := by
  have hlhs := value_combine x (g := (· + ·)) (k := 1) (fun a c => by ring) ascending_nil lhs
  have hrhs := value_combine x (g := (· - ·)) (k := -1) (fun a c => by ring)
    (ascending_nil.combine (· + ·) lhs) rhs
  rw [reduceTerms, value_filter_nonzero, hrhs, hlhs, value_nil]
  ring

/-- Steps that commute with the reading of coefficients can be made on either side of it. -/
theorem combine_mapCoeffs {R S : Type} [Scalar R] [Scalar S] {f : R → S} (hzero : f 0 = 0)
    {g : R → R → R} {k : S → S → S} (hg : ∀ a c, k (f a) (f c) = f (g a c)) (ts us : Terms R) :
    combine k (ts.mapCoeffs f) (us.mapCoeffs f) = (combine g ts us).mapCoeffs f := by
  induction us generalizing ts with
  | nil => rfl
  | cons u us ih =>
    obtain ⟨i, c⟩ := u
    have hget : (((ts.mapCoeffs f).get? i).getD 0) = f ((ts.get? i).getD 0) := by
      rw [get?_mapCoeffs]
      cases ts.get? i with
      | none => exact hzero.symm
      | some a => rfl
    change combine k ((ts.mapCoeffs f).put i (k (((ts.mapCoeffs f).get? i).getD 0) (f c)))
      (mapCoeffs f us) = _
    rw [hget, hg, put_mapCoeffs, ih]
    rfl

theorem reduceTerms_finite (lhs rhs : Terms Rat) :
    reduceTerms (lhs.mapCoeffs Exact.finite) (rhs.mapCoeffs Exact.finite) =
      (reduceTerms lhs rhs).mapCoeffs Exact.finite := by
  have hlhs := combine_mapCoeffs (f := Exact.finite) rfl (g := (· + ·)) (k := (· + ·))
    Exact.finite_add [] lhs
  have hrhs := combine_mapCoeffs (f := Exact.finite) rfl (g := (· - ·)) (k := (· - ·))
    Exact.finite_sub (combine (· + ·) [] lhs) rhs
  change List.filter _ (combine (· - ·) (combine (· + ·) (mapCoeffs Exact.finite []) _) _) = _
  rw [hlhs, hrhs, reduceTerms, mapCoeffs, mapCoeffs, List.filter_map]
  rfl

end Terms

theorem Sense.holds_finite_congr {a b c d : Rat} (h : a - b = c - d) (s : Sense) :
    s.Holds (.finite a) (.finite b) ↔ s.Holds (.finite c) (.finite d) := by
  cases s with
  | lessEqual =>
    simp only [Holds, Exact.atMost_finite]
    constructor <;> intro <;> linarith
  | greaterEqual =>
    simp only [Holds, Exact.atMost_finite]
    constructor <;> intro <;> linarith
  | equal =>
    simp only [Holds, Exact.finite_beq, beq_iff_eq]
    constructor <;> intro <;> linarith

def ReducedRow.ofConstraint {R : Type} [Scalar R] (c : Constraint R) : ReducedRow R :=
  Pending.reduce (.ofExpr c.lhs) (.ofExpr c.rhs) c.sense

theorem ReducedRow.holds_ofConstraint {c : Constraint Exact} (hlhs : c.lhs.Finite)
    (hrhs : c.rhs.Finite) (x : Point) :
    c.sense.Holds ((ofConstraint c).terms.value x.exact) (ofConstraint c).rhs ↔
      c.sense.Holds (c.lhs.value x.exact) (c.rhs.value x.exact) := by
  obtain ⟨lhs, sense, rhs⟩ := c
  obtain ⟨l, rfl⟩ := Expr.Finite.exists_map_finite hlhs
  obtain ⟨r, rfl⟩ := Expr.Finite.exists_map_finite hrhs
  have hterms : (ofConstraint ⟨l.map Exact.finite, sense, r.map Exact.finite⟩).terms =
      (Pending.reduceTerms l.terms r.terms).mapCoeffs Exact.finite := by
    rw [ofConstraint, Pending.reduce, SparseRow.terms_ofExpr, SparseRow.terms_ofExpr]
    exact Terms.reduceTerms_finite l.terms r.terms
  have hconstant : (ofConstraint ⟨l.map Exact.finite, sense, r.map Exact.finite⟩).rhs =
      .finite (r.constant - l.constant) :=
    Exact.finite_sub r.constant l.constant
  rw [hterms, hconstant, Terms.value_mapCoeffs_finite, Terms.value_reduceTerms,
    Expr.value_map_finite, Expr.value_map_finite]
  apply Sense.holds_finite_congr
  simp only [Expr.value]
  ring

end LinearModel
