import LinearModel.Proofs.Coefficients
import LinearModel.Proofs.Doubles
import LinearModel.Proofs.Loading

/-!
# Reduced rows as differences

A pending problem takes the right side of a constraint from the left one coefficient by coefficient;
an expression is subtracted by adding it times minus one. Over floats both give the same terms, and
constants that differ by their sign alone.
-/

namespace LinearModel

/-- What differences of scalars satisfy, some of them only if both scalars are finite. -/
structure DifferenceLaws (R : Type) [Scalar R] (finite : R → Prop) : Prop where
  zero_add : ZeroNeutral R
  add_mul_neg_one : ∀ a c : R, a + c * -1 = a - c
  mul_neg_one : ∀ c : R, (c == 0) = false → (c * -1 == 0) = false
  eq_of_beq : ∀ a c : R, (a == c) = true → (c == 0) = false → a = c
  finite_zero : finite 0
  beq_refl : ∀ c, finite c → (c == c) = true
  sub_beq_zero : ∀ a c, finite a → finite c → (a - c == 0) = (a == c)

theorem differenceLaws_float : DifferenceLaws Float (fun c => c.isFinite = true) where
  zero_add := zeroNeutral_float
  add_mul_neg_one a c := (congrArg (a + ·) (Double.mul_neg_one c)).trans (Double.add_neg a c)
  mul_neg_one c hc := ((congrArg (· == 0) (Double.mul_neg_one c)).trans
    (Double.neg_beq_zero c)).trans hc
  eq_of_beq _ _ heq hc := Double.eq_of_beq heq hc
  finite_zero := rfl
  beq_refl _ hc := Double.beq_refl hc
  sub_beq_zero _ _ ha hc := Double.sub_beq_zero ha hc

namespace Terms

variable {R : Type} [Scalar R] {finite : R → Prop} {ts us : Terms R}

/-- Both ways to take terms from others agree because they do on single coefficients. -/
theorem reduceTerms_eq_merge (hlaws : DifferenceLaws R finite) (hts : ts.Ascending)
    (hus : us.Ascending) (hts' : ts.Nonzero) (hus' : us.Nonzero) :
    Pending.reduceTerms ts us = ts.merge (us.scale (-1)) := by
  refine (ascending_reduceTerms ts us).ext (hts.merge _) fun j => ?_
  have hleft : (ts.get? j).map (0 + ·) = ts.get? j := by
    cases hget : ts.get? j with
    | none => rfl
    | some c => exact congrArg some (hlaws.zero_add c (hts'.of_get? hts hget))
  rw [hts.get?_reduceTerms hus, hts.get?_merge (hus.scale (-1)), hus.get?_scale, hleft]
  cases hget : us.get? j with
  | none => exact hts'.kept_get? hts j
  | some c =>
    have hc := hlaws.mul_neg_one c (hus'.of_get? hus hget)
    simp [kept, hc, hlaws.add_mul_neg_one]

def Finite (finite : R → Prop) (ts : Terms R) : Prop :=
  ∀ t ∈ ts, finite t.2

theorem Finite.coefficient (h : ts.Finite finite) (hlaws : DifferenceLaws R finite)
    (hts : ts.Ascending) (j : Nat) : finite (ts.coefficient j) := by
  cases hget : ts.get? j with
  | none =>
    rw [coefficient_of_none hget]
    exact hlaws.finite_zero
  | some c =>
    rw [coefficient_of_some hget]
    exact h (j, c) (hts.get?_eq_some.mp hget)

structure Stored (finite : R → Prop) (ts : Terms R) : Prop where
  ascending : ts.Ascending
  nonzero : ts.Nonzero
  finite : ts.Finite finite

/-- A variable drops out of a difference exactly where its coefficients compare equal. -/
theorem get?_merge_neg_eq_none (hlaws : DifferenceLaws R finite) (hts : ts.Stored finite)
    (hus : us.Stored finite) (j : Nat) :
    (ts.merge (us.scale (-1))).get? j = none ↔ (ts.coefficient j == us.coefficient j) = true := by
  have hsub := hlaws.sub_beq_zero _ _ (hts.finite.coefficient hlaws hts.ascending j)
    (hus.finite.coefficient hlaws hus.ascending j)
  rw [hts.ascending.get?_merge (hus.ascending.scale (-1)), hus.ascending.get?_scale]
  cases hright : us.get? j with
  | none =>
    rw [coefficient_of_none hright]
    cases hleft : ts.get? j with
    | none =>
      rw [coefficient_of_none hleft]
      exact iff_of_true rfl (hlaws.beq_refl 0 hlaws.finite_zero)
    | some c =>
      rw [coefficient_of_some hleft, hts.nonzero.of_get? hts.ascending hleft]
      exact iff_of_false (Option.some_ne_none c) Bool.false_ne_true
  | some c =>
    have hc := hlaws.mul_neg_one c (hus.nonzero.of_get? hus.ascending hright)
    have hstep : (ts.get? j).getD 0 + c * -1 = ts.coefficient j - c :=
      hlaws.add_mul_neg_one _ c
    rw [coefficient_of_some hright] at hsub ⊢
    simp only [Option.bind_some, kept, hc, Bool.false_eq_true, if_false, Option.elim_some, hstep,
      hsub]
    split_ifs with heq
    · exact iff_of_true rfl heq
    · exact iff_of_false not_false heq

theorem get?_eq_of_coefficient_beq (hlaws : DifferenceLaws R finite) (hts : ts.Stored finite)
    (hus : us.Stored finite) {j : Nat} (h : (ts.coefficient j == us.coefficient j) = true) :
    ts.get? j = us.get? j := by
  have hnonzero {vs : Terms R} {c : R} (hvs : vs.Stored finite) (hget : vs.get? j = some c) :
      (c == 0) = false := hvs.nonzero.of_get? hvs.ascending hget
  cases hleft : ts.get? j with
  | none =>
    cases hright : us.get? j with
    | none => rfl
    | some c =>
      have hc := hnonzero hus hright
      rw [coefficient_of_none hleft, coefficient_of_some hright] at h
      rw [← hlaws.eq_of_beq 0 c h hc, hlaws.beq_refl 0 hlaws.finite_zero] at hc
      cases hc
  | some c =>
    rw [coefficient_of_some hleft] at h
    cases hright : us.get? j with
    | none =>
      rw [coefficient_of_none hright, hnonzero hts hleft] at h
      cases h
    | some d =>
      rw [coefficient_of_some hright] at h
      exact congrArg some (hlaws.eq_of_beq c d h (hnonzero hus hright))

theorem merge_neg_eq_nil (hlaws : DifferenceLaws R finite) (hts : ts.Stored finite)
    (hus : us.Stored finite) : ts.merge (us.scale (-1)) = [] ↔ ts = us := by
  have hdrops := get?_merge_neg_eq_none hlaws hts hus
  constructor
  · intro hnil
    refine hts.ascending.ext hus.ascending fun j => ?_
    exact get?_eq_of_coefficient_beq hlaws hts hus ((hdrops j).mp (by rw [hnil]; rfl))
  · rintro rfl
    refine (hts.ascending.merge _).ext ascending_nil fun j => ?_
    exact (hdrops j).mpr (hlaws.beq_refl _ (hts.finite.coefficient hlaws hts.ascending j))

end Terms

namespace Pending

/-- A reduced row is the difference of its sides as expressions, the constant on the right. Where all
coefficients are finite, it has a variable exactly where the coefficients of both sides differ. -/
theorem addConstraint_eq_minus {lhs rhs : Expr Float} (hlhs : lhs.Built) (hrhs : rhs.Built)
    (sense : Sense) {p : Pending Float} (hbelow : lhs.Below p.numVars)
    (hbelow' : rhs.Below p.numVars) :
    let difference := ((Operand.expr lhs).sub (.expr rhs)).toExpr
    ∃ row, p.addConstraint (.ofExpr lhs) (.ofExpr rhs) sense.tag =
        { p with rows := p.rows ++ [row] } ∧
      row.sense = sense ∧ row.terms = difference.terms ∧
      ((row.rhs == -difference.constant) = true ∨
        row.rhs.isNaN = true ∧ difference.constant.isNaN = true) ∧
      ((∀ t ∈ lhs.terms, t.2.isFinite = true) → (∀ t ∈ rhs.terms, t.2.isFinite = true) →
        (∀ v : Var Float, v.id ∈ row.terms.ids ↔
          (lhs.coefficient v == rhs.coefficient v) = false) ∧
        (row.terms = [] ↔ lhs.terms = rhs.terms)) := by
  intro difference
  have hterms : reduceTerms lhs.terms rhs.terms = difference.terms :=
    Terms.reduceTerms_eq_merge differenceLaws_float hlhs.ascending hrhs.ascending hlhs.nonzero
      hrhs.nonzero
  have hconstant : difference.constant = lhs.constant - rhs.constant :=
    differenceLaws_float.add_mul_neg_one lhs.constant rhs.constant
  have hrow : (reduce (.ofExpr lhs) (.ofExpr rhs) sense).terms = difference.terms := by
    rwa [reduce, SparseRow.terms_ofExpr, SparseRow.terms_ofExpr]
  refine ⟨reduce (.ofExpr lhs) (.ofExpr rhs) sense, ?_, rfl, hrow, ?_, fun hfinite hfinite' => ?_⟩
  · have hplace (place : Place) : p.rowFault? place (.ofExpr lhs) = none :=
      rowFault?_eq_none_iff.mpr hbelow.indices
    have hplace' (place : Place) : p.rowFault? place (.ofExpr rhs) = none :=
      rowFault?_eq_none_iff.mpr hbelow'.indices
    simp only [addConstraint, Sense.ofTag?_tag, hplace, hplace', Option.or_none]
  · rw [hconstant]
    exact Double.sub_beq_neg_sub rhs.constant lhs.constant
  · have hstored : lhs.terms.Stored (fun c : Float => c.isFinite = true) :=
      ⟨hlhs.ascending, hlhs.nonzero, hfinite⟩
    have hstored' : rhs.terms.Stored (fun c : Float => c.isFinite = true) :=
      ⟨hrhs.ascending, hrhs.nonzero, hfinite'⟩
    rw [hrow]
    refine ⟨fun v => ?_, Terms.merge_neg_eq_nil differenceLaws_float hstored hstored'⟩
    have hdrops := Terms.get?_merge_neg_eq_none differenceLaws_float hstored hstored' v.id
    have hmem : v.id ∈ difference.terms.ids ↔ difference.terms.get? v.id ≠ none :=
      (hlhs.minus hrhs).ascending.mem_ids
    rw [hmem, Bool.eq_false_iff]
    exact not_congr hdrops

theorem addConstraint_eq_minus_sample :
    let u : Var Float := ⟨0, 0, 1, .continuous⟩
    let v : Var Float := ⟨1, 0, 1, .continuous⟩
    let w : Var Float := ⟨2, 0, 1, .continuous⟩
    let lhs := ((Expr.new 1).addTerm 0.1 u).addTerm 2 v
    let rhs := ((Expr.new 4).addTerm 3 w).addTerm 0.1 u
    let p : Pending Float := { columns := List.replicate 3 ⟨0, 1, .continuous⟩ }
    (lhs.Built ∧ rhs.Built ∧ lhs.Below p.numVars ∧ rhs.Below p.numVars ∧
      (∀ t ∈ lhs.terms, t.2.isFinite = true) ∧ ∀ t ∈ rhs.terms, t.2.isFinite = true) ∧
    ∃ row, (p.addConstraint (.ofExpr lhs) (.ofExpr rhs) Sense.lessEqual.tag).rows = [row] ∧
      row.terms = [(1, 2), (2, -3)] ∧ (lhs.coefficient u == rhs.coefficient u) = true := by
  intro u v w lhs rhs p
  have hlhs : lhs.Built := ((Expr.Built.new 1).addTerm 0.1 u).addTerm 2 v
  have hrhs : rhs.Built := ((Expr.Built.new 4).addTerm 3 w).addTerm 0.1 u
  have hbelow : ∀ t ∈ lhs.terms, t.1 < 3 := by decide +kernel
  have hbelow' : ∀ t ∈ rhs.terms, t.1 < 3 := by decide +kernel
  have hfinite : ∀ t ∈ lhs.terms, t.2.isFinite = true := by decide +kernel
  have hfinite' : ∀ t ∈ rhs.terms, t.2.isFinite = true := by decide +kernel
  obtain ⟨row, hrows, -, hterms, -, hcancel⟩ :=
    addConstraint_eq_minus hlhs hrhs .lessEqual (p := p) hbelow hbelow'
  obtain ⟨hmem, -⟩ := hcancel hfinite hfinite'
  have hdifference : row.terms = [(1, 2), (2, -3)] := by
    rw [hterms]
    decide +kernel
  have hgone : u.id ∉ row.terms.ids := by
    rw [hdifference]
    decide
  refine ⟨⟨hlhs, hrhs, hbelow, hbelow', hfinite, hfinite'⟩, row, ?_, hdifference, ?_⟩
  · rw [hrows]
    rfl
  · exact Bool.eq_true_of_not_eq_false (mt (hmem u).mpr hgone)

end Pending

end LinearModel
