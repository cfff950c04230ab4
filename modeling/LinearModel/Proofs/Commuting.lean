import LinearModel.Proofs.Coefficients
import LinearModel.Proofs.Doubles

/-!
# Addition commutes

The terms of a sum are those of one side with the terms of the other added to them. A coefficient on
one side alone is kept or is added to zero, as the order has it, and a coefficient on both sides is
added to the other. None of this makes a difference over floats, because no coefficient is a zero.
-/

namespace LinearModel

/-- Sums in either order are the same, and zero is neutral for what does not compare equal to it. -/
structure AdditionLaws (R : Type) [Scalar R] : Prop where
  zero_add : ZeroNeutral R
  comm : ∀ a c : R, a + c = c + a

theorem additionLaws_float : AdditionLaws Float where
  zero_add := zeroNeutral_float
  comm := Double.add_comm

namespace Terms

variable {R : Type} [Scalar R] {ts us : Terms R}

theorem merge_comm (hlaws : AdditionLaws R) (hts : ts.Ascending) (hus : us.Ascending)
    (hts' : ts.Nonzero) (hus' : us.Nonzero) : ts.merge us = us.merge ts := by
  -- a coefficient of one side alone comes to what it is, whichever side is first
  have halone {vs : Terms R} {j : Nat} {c : R} (hvs : vs.Ascending) (hvs' : vs.Nonzero)
      (hget : vs.get? j = some c) : some c = kept (0 + c) := by
    have hc := hvs'.of_get? hvs hget
    rw [hlaws.zero_add c hc, kept_of_ne hc]
  refine (hts.merge us).ext (hus.merge ts) fun j => ?_
  rw [hts.get?_merge hus, hus.get?_merge hts]
  cases hleft : ts.get? j with
  | none =>
    cases hright : us.get? j with
    | none => rfl
    | some d => exact (halone hus hus' hright).symm
  | some c =>
    cases hright : us.get? j with
    | none => exact halone hts hts' hleft
    | some d => exact congrArg kept (hlaws.comm c d)

end Terms

variable {R : Type} [Scalar R]

theorem Expr.plus_comm (hlaws : AdditionLaws R) {e f : Expr R} (he : e.Built) (hf : f.Built) :
    e.plus f = f.plus e :=
  congrArg₂ Expr.mk
    (Terms.merge_comm hlaws he.ascending hf.ascending he.nonzero hf.nonzero)
    (hlaws.comm e.constant f.constant)

namespace Operand

/-- The order of two operands makes no difference to their sum, nor to what either becomes when the
other is added to it in place. -/
theorem add_commutes {a b : Operand Float} (ha : a.Built) (hb : b.Built) :
    a.add b = b.add a ∧ a.toExpr.plus b.toExpr = b.toExpr.plus a.toExpr := by
  have hlaws := additionLaws_float
  have hplus := Expr.plus_comm hlaws ha hb
  refine ⟨?_, hplus⟩
  cases a with
  | scalar x =>
    cases b with
    | scalar y => exact congrArg scalar (hlaws.comm x y)
    | var _ | expr _ => rfl
  | var _ | expr _ =>
    cases b with
    | scalar _ => rfl
    | var _ | expr _ => exact congrArg expr hplus

theorem add_commutes_sample :
    let u : Var Float := ⟨0, 0, 1, .continuous⟩
    let v : Var Float := ⟨1, 0, 1, .continuous⟩
    let w : Var Float := ⟨2, 0, 1, .continuous⟩
    let e := ((Expr.new 5e-324).addTerm 0.1 u).addTerm (0 / 0) v
    let f := ((Expr.new (-0)).addTerm (-0.1) u).addTerm 5e-324 w
    ((expr e).Built ∧ (expr f).Built ∧ (var u).Built ∧ (scalar (-1.5 : Float)).Built) ∧
    e.plus f = f.plus e ∧ (f.plus e).terms = [(1, 0 / 0), (2, 5e-324)] ∧
    (var u).add (expr f) = (expr f).add (var u) ∧
    (scalar (-1.5)).add (expr e) = (expr e).add (scalar (-1.5)) ∧
    (scalar (-1.5)).add (var u) = (var u).add (scalar (-1.5)) := by
  intro u v w e f
  have he : (expr e).Built := ((Expr.Built.new 5e-324).addTerm 0.1 u).addTerm (0 / 0) v
  have hf : (expr f).Built := ((Expr.Built.new (-0)).addTerm (-0.1) u).addTerm 5e-324 w
  have hu : (var u).Built := .ofVar u
  have hk : (scalar (-1.5 : Float)).Built := .new (-1.5)
  obtain ⟨-, hplus⟩ := add_commutes he hf
  exact ⟨⟨he, hf, hu, hk⟩, hplus, by decide +kernel, (add_commutes hu hf).1,
    (add_commutes hk he).1, (add_commutes hk hu).1⟩

end Operand

end LinearModel
