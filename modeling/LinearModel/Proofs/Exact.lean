import LinearModel.Proofs.Reading
import LinearModel.Feasible

/-!
# Finite numbers

Finite exact numbers add, multiply and compare as the rationals that they hold. Terms and
expressions of finite numbers are read from rational ones, so what is proved of the value of
rational terms holds of theirs.
-/

namespace LinearModel

namespace Exact

def isFinite : Exact → Bool
  | finite _ => true
  | _ => false

theorem exists_eq_finite {a : Exact} (h : a.isFinite) : ∃ q, finite q = a := by
  cases a with
  | finite q => exact ⟨q, rfl⟩
  | undefined | negInf | posInf => cases h

@[simp] theorem finite_zero : (0 : Exact) = finite 0 :=
  rfl

@[simp] theorem finite_add (p q : Rat) : finite p + finite q = finite (p + q) :=
  rfl

@[simp] theorem finite_mul (p q : Rat) : finite p * finite q = finite (p * q) :=
  rfl

@[simp] theorem finite_neg (p : Rat) : -finite p = finite (-p) :=
  rfl

@[simp] theorem finite_sub (p q : Rat) : finite p - finite q = finite (p - q) := by
  rw [sub_eq_add_neg]
  rfl

@[simp] theorem finite_beq (p q : Rat) : (finite p == finite q) = (p == q) :=
  rfl

/-- A number equals itself alone. -/
theorem eq_of_beq_finite {a : Exact} {q : Rat}
    (h : (a == .finite q) = true) : a = .finite q := by
  cases a with
  | finite p => exact congrArg Exact.finite (beq_iff_eq.mp h)
  | undefined | negInf | posInf => cases h

@[simp] theorem less_finite (p q : Rat) : Scalar.less (finite p) (finite q) = decide (p < q) :=
  rfl

@[simp] theorem atMost_finite (p q : Rat) : (finite p).AtMost (finite q) ↔ p ≤ q := by
  simp [AtMost, le_iff_lt_or_eq]

end Exact

namespace Terms

/-- Terms of finite numbers are rational terms read as exact ones. -/
theorem exists_mapCoeffs_finite {ts : Terms Exact} (h : ∀ t ∈ ts, t.2.isFinite) :
    ∃ us : Terms Rat, us.mapCoeffs .finite = ts := by
  induction ts with
  | nil => exact ⟨[], rfl⟩
  | cons t ts ih =>
    obtain ⟨q, hq⟩ := Exact.exists_eq_finite (h t List.mem_cons_self)
    obtain ⟨us, rfl⟩ := ih fun u hu => h u (List.mem_cons_of_mem _ hu)
    exact ⟨(t.1, q) :: us, by rw [← Prod.eta t, ← hq]; rfl⟩

theorem value_mapCoeffs_finite (ts : Terms Rat) (x : Point) :
    (ts.mapCoeffs .finite).value x.exact = .finite (ts.value x) := by
  induction ts with
  | nil => rfl
  | cons t ts ih =>
    obtain ⟨i, c⟩ := t
    change Exact.finite c * Exact.finite (x i) + (mapCoeffs .finite ts).value x.exact = _
    rw [ih, value_cons]
    rfl

end Terms

namespace Expr

/-- Every number in it is finite. -/
structure Finite (e : Expr Exact) : Prop where
  terms : ∀ t ∈ e.terms, t.2.isFinite
  constant : e.constant.isFinite

instance (e : Expr Exact) : Decidable e.Finite :=
  decidable_of_iff ((∀ t ∈ e.terms, t.2.isFinite) ∧ e.constant.isFinite)
    ⟨fun ⟨hterms, hconstant⟩ => ⟨hterms, hconstant⟩,
      fun ⟨hterms, hconstant⟩ => ⟨hterms, hconstant⟩⟩

theorem Finite.exists_map_finite {e : Expr Exact} (he : e.Finite) :
    ∃ r : Expr Rat, r.map .finite = e := by
  obtain ⟨ts, hts⟩ := Terms.exists_mapCoeffs_finite he.terms
  obtain ⟨q, hq⟩ := Exact.exists_eq_finite he.constant
  refine ⟨⟨ts, q⟩, ?_⟩
  rw [Expr.map, hts, hq]

theorem value_map_finite (r : Expr Rat) (x : Point) :
    (r.map .finite).value x.exact = .finite (r.value x) := by
  rw [value, Expr.map, Terms.value_mapCoeffs_finite]
  rfl

end Expr

/-- Every coefficient and every constant is finite; bounds need not be. -/
structure Model.Finite (m : Model Exact) : Prop where
  constraints : ∀ c ∈ m.constraints, c.lhs.Finite ∧ c.rhs.Finite
  objective : ∀ o ∈ m.objective, o.expr.Finite

instance (m : Model Exact) : Decidable m.Finite :=
  decidable_of_iff
    ((∀ c ∈ m.constraints, c.lhs.Finite ∧ c.rhs.Finite) ∧ ∀ o ∈ m.objective, o.expr.Finite)
    ⟨fun ⟨hconstraints, hobjective⟩ => ⟨hconstraints, hobjective⟩,
      fun ⟨hconstraints, hobjective⟩ => ⟨hconstraints, hobjective⟩⟩

end LinearModel
