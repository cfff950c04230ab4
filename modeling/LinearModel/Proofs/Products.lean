import LinearModel.Proofs.Coefficients
import LinearModel.Proofs.Values
import LinearModel.Proofs.Wholes

/-!
# Products one by one

A list of variables times a list of coefficients can be written as one builder, as a sum of products
or as products added one after another. Each product is an expression with at most one term, which
it adds to what comes before it, and its constant is a zero. So all of these are the same, with all
coefficients and the constant.
-/

namespace LinearModel

/-- What products of one variable and one coefficient satisfy, the last of it only if the
coefficient is finite. -/
structure ProductLaws (R : Type) [Scalar R] (finite : R → Prop) : Prop where
  zero_add : ZeroNeutral R
  one_ne_zero : ((1 : R) == 0) = false
  one_mul : ∀ c : R, 1 * c = c
  mul_one : ∀ c : R, c * 1 = c
  add_of_zero : ∀ a c : R, (a == 0) = false → (c == 0) = true → a + c = a
  zero_add_of_zero : ∀ c : R, (c == 0) = true → 0 + c = 0
  zero_beq : ((0 : R) == 0) = true
  zero_add_zero_mul : ∀ c : R, finite c → 0 + 0 * c = 0

theorem productLaws_float : ProductLaws Float (fun c => c.isFinite = true) where
  zero_add := zeroNeutral_float
  one_ne_zero := by decide +kernel
  one_mul := Double.one_mul
  mul_one := Double.mul_one
  add_of_zero _ _ := Double.add_of_zero
  zero_add_of_zero _ := Double.zero_add_of_zero
  zero_beq := Double.beq_refl rfl
  zero_add_zero_mul _ := Double.zero_add_zero_mul

variable {R : Type} [Scalar R] {finite : R → Prop} {ts : Terms R} {e : Expr R} {c : R}

/-- A zero changes no coefficient. -/
theorem Terms.add_of_zero (hlaws : ProductLaws R finite) (hts : ts.Ascending) (hts' : ts.Nonzero)
    (i : Nat) (hc : (c == 0) = true) : ts.add i c = ts := by
  refine (hts.add i c).ext hts fun j => ?_
  rw [hts.get?_add]
  split_ifs with hj
  · cases hget : ts.get? j with
    | none => simp [kept, hlaws.zero_add_of_zero c hc, hlaws.zero_beq]
    | some a =>
      have ha := hts'.of_get? hts hget
      rw [Option.getD_some, hlaws.add_of_zero a c ha hc, kept_of_ne ha]
  · rfl

namespace Expr

theorem ofVar_eq (hzero : ZeroNeutral R) (hone : ((1 : R) == 0) = false) (v : Var R) :
    ofVar v = ⟨[(v.id, 1)], 0⟩ := by
  have hsum : (0 + 1 : R) = 1 := hzero 1 hone
  simp [ofVar, addTerm, new, Terms.add, Terms.get?, Terms.put, hsum, hone]

def product (p : Var R × R) : Expr R :=
  (ofVar p.1).scale p.2

theorem plus_product (hlaws : ProductLaws R finite) (he : e.Built) (hzero : e.constant = 0)
    (v : Var R) (hc : finite c) : e.plus (product (v, c)) = e.addTerm c v := by
  have hconstant : e.constant + 0 * c = e.constant := by
    rw [hzero, hlaws.zero_add_zero_mul c hc]
  have hterms : e.terms.merge (Terms.scale c [(v.id, 1)]) = e.terms.add v.id c := by
    by_cases hc0 : (c == 0) = true
    · rw [Terms.add_of_zero hlaws he.ascending he.nonzero v.id hc0]
      simp [Terms.scale, Terms.merge, hlaws.one_mul, hc0]
    · simp [Terms.scale, Terms.merge, hlaws.one_mul, hc0]
  rw [product, ofVar_eq hlaws.zero_add hlaws.one_ne_zero, plus, scale, hterms, hconstant]
  rfl

/-- Products that are added one after another leave the constant at zero, so each of them is a
coefficient that is added. -/
theorem foldl_plus_product (hlaws : ProductLaws R finite) (he : e.Built) (hzero : e.constant = 0)
    {pairs : List (Var R × R)} (hpairs : ∀ p ∈ pairs, finite p.2) :
    (pairs.map product).foldl plus e = pairs.foldl (fun e (v, c) => e.addTerm c v) e := by
  induction pairs generalizing e with
  | nil => rfl
  | cons p pairs ih =>
    obtain ⟨v, c⟩ := p
    obtain ⟨hc, hpairs⟩ := List.forall_mem_cons.mp hpairs
    rw [List.map_cons, List.foldl_cons, List.foldl_cons, plus_product hlaws he hzero v hc]
    exact ih (he.addTerm c v) hzero hpairs

theorem dot_eq_sum_product (hlaws : ProductLaws R finite) {vars : List (Var R)} {coeffs : List R}
    (hlen : vars.length = coeffs.length) (hcoeffs : ∀ c ∈ coeffs, finite c) :
    dot vars coeffs = .ok (sum ((vars.zip coeffs).map product)) := by
  have hpairs : ∀ p ∈ vars.zip coeffs, finite p.2 :=
    fun p hp => hcoeffs p.2 (List.of_mem_zip hp).2
  exact dot_eq_ok.mpr ⟨hlen, (foldl_plus_product hlaws (.new 0) rfl hpairs).symm⟩

theorem product_one (hlaws : ProductLaws R finite) (v : Var R) : product (v, 1) = ofVar v := by
  rw [product, ofVar_eq hlaws.zero_add hlaws.one_ne_zero]
  simp [scale, Terms.scale, hlaws.mul_one, hlaws.one_ne_zero]

theorem map_product_one (hlaws : ProductLaws R finite) {vars : List (Var R)} {coeffs : List R}
    (hlen : vars.length = coeffs.length) (hone : ∀ c ∈ coeffs, c = 1) :
    (vars.zip coeffs).map product = vars.map ofVar := by
  calc (vars.zip coeffs).map product
      = (vars.zip coeffs).map (ofVar ∘ Prod.fst) := by
        apply List.map_congr_left
        intro p hp
        have hp' : p = (p.1, 1) := Prod.ext rfl (hone p.2 (List.of_mem_zip hp).2)
        rw [hp', product_one hlaws]
        rfl
    _ = vars.map ofVar := by
        rw [← List.map_map, List.map_fst_zip (Nat.le_of_eq hlen)]

end Expr

namespace Formula

omit [Scalar R] in
def coefficientFirst (p : Var R × R) : Formula R :=
  .mul (.operand (.scalar p.2)) (.operand (.var p.1))

omit [Scalar R] in
def variableFirst (p : Var R × R) : Formula R :=
  .mul (.operand (.var p.1)) (.operand (.scalar p.2))

theorem buildAll_map {α : Type} {f : α → Formula R} {g : α → Operand R}
    (h : ∀ a, (f a).build = .ok (g a)) (as : List α) : buildAll (as.map f) = .ok (as.map g) := by
  induction as with
  | nil => rfl
  | cons a as ih =>
    rw [List.map_cons, buildAll, h, ih]
    rfl

theorem build_sum_map {α : Type} {f : α → Formula R} {g : α → Expr R}
    (h : ∀ a, (f a).build = .ok (.expr (g a))) (as : List α) :
    (sum (as.map f)).build = .ok (.expr (.sum (as.map g))) := by
  have hexprs : (as.map fun a => Operand.expr (g a)).map Operand.toExpr = as.map g := by
    rw [List.map_map]
    rfl
  rw [build, buildAll_map h, ← hexprs]
  rfl

theorem build_foldl_add {α : Type} {f : α → Formula R} {g : α → Expr R}
    (h : ∀ a, (f a).build = .ok (.expr (g a))) (as : List α) {t : Formula R} {e : Expr R}
    (ht : t.build = .ok (.expr e)) :
    (as.foldl (fun t a => t.add (f a)) t).build = .ok (.expr ((as.map g).foldl .plus e)) := by
  induction as generalizing t e with
  | nil => exact ht
  | cons a as ih =>
    apply ih
    rw [build, ht, h]
    rfl

/-- All ways to write a list of variables times a list of finite coefficients have the same terms
and the same constant; ones in place of the coefficients make it the sum of the variables. -/
theorem dot_eq_products (vars : List (Var Float)) (coeffs : List Float) :
    let pairs := vars.zip coeffs
    (Expr.dot vars coeffs = .error (.shapeMismatch vars.length coeffs.length) ↔
      vars.length ≠ coeffs.length) ∧
    ((∃ e, Expr.dot vars coeffs = .ok e) ↔ vars.length = coeffs.length) ∧
    (vars.length = coeffs.length → (∀ c ∈ coeffs, c.isFinite = true) → ∃ e,
      Expr.dot vars coeffs = .ok e ∧
      (sum (pairs.map coefficientFirst)).build = .ok (.expr e) ∧
      (sum (pairs.map variableFirst)).build = .ok (.expr e) ∧
      (pairs.foldl (fun t p => t.add (coefficientFirst p)) (operand (.expr (.new 0)))).build =
        .ok (.expr e) ∧
      ((∀ c ∈ coeffs, c = 1) → e = Expr.sumVars vars)) := by
  intro pairs
  refine ⟨?_, ?_, fun hlen hcoeffs => ?_⟩
  · rw [Expr.dot]
    split_ifs with hlen
    · exact iff_of_true rfl hlen
    · exact iff_of_false (fun h => nomatch h) hlen
  · simp only [Expr.dot_eq_ok, exists_and_left, exists_eq', and_true]
  · refine ⟨.sum (pairs.map Expr.product), Expr.dot_eq_sum_product productLaws_float hlen hcoeffs,
      build_sum_map (fun p => rfl) pairs, build_sum_map (fun p => rfl) pairs,
      build_foldl_add (fun p => rfl) pairs rfl, fun hone => ?_⟩
    exact congrArg Expr.sum (Expr.map_product_one productLaws_float hlen hone)

theorem dot_eq_products_sample :
    let u : Var Float := ⟨0, 0, 1, .continuous⟩
    let v : Var Float := ⟨1, 0, 1, .binary⟩
    let vars := [u, v, u, v, v]
    let pairs := vars.zip [0.1, 0, -0.1, -0, 5e-324]
    (∃ e, Expr.dot vars [0.1, 0, -0.1, -0, 5e-324] = .ok e ∧
      e.terms = [(1, 5e-324)] ∧ e.constant = 0 ∧
      (sum (pairs.map coefficientFirst)).build = .ok (.expr e) ∧
      (sum (pairs.map variableFirst)).build = .ok (.expr e) ∧
      (pairs.foldl (fun t p => t.add (coefficientFirst p)) (operand (.expr (.new 0)))).build =
        .ok (.expr e)) ∧
    Expr.dot vars [1, 1, 1, 1, 1] = .ok (.sumVars vars) ∧
    Expr.dot vars [1, 1, 1, 1] = .error (.shapeMismatch 5 4) := by
  intro u v vars pairs
  obtain ⟨-, -, hproducts⟩ := dot_eq_products vars [0.1, 0, -0.1, -0, 5e-324]
  obtain ⟨-, -, hones⟩ := dot_eq_products vars [1, 1, 1, 1, 1]
  obtain ⟨hshort, -⟩ := dot_eq_products vars [1, 1, 1, 1]
  obtain ⟨e, hdot, hleft, hright, hfold, -⟩ := hproducts rfl (by decide +kernel)
  obtain ⟨f, hdot', -, -, -, hsum⟩ := hones rfl (by decide +kernel)
  have hterms : e.terms = [(1, 5e-324)] := by
    cases hdot
    decide +kernel
  have hconstant : e.constant = 0 := by
    cases hdot
    decide +kernel
  refine ⟨⟨e, hdot, hterms, hconstant, hleft, hright, hfold⟩, ?_, hshort.mpr (by decide)⟩
  rw [hdot', hsum (by decide +kernel)]

end Formula

end LinearModel
